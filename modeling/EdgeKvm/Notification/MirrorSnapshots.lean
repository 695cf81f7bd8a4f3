import EdgeKvm.Notification.MirrorRuns

/-!
# The mirror after a snapshot

`SnapshotEnd` closes what was not resent, as long as the daemon refuses no close.
-/

namespace EdgeKvm.Notification

open EdgeKvm.Lib Machine Handler NotificationMirror

variable {digest : DesktopNotification → UInt64} {w t : MirrorWorld} {call : ApplyCall}
  {id : Nat} {entry : Shown} {sent : Finset Nat}

namespace MirrorWorld

/-! ## The loop -/

/-- No close is refused any more, and the daemon that the mirror knows has not run after the
    present one. -/
structure Closing (w : MirrorWorld) : Prop where
  past : w.mirror.owner ≤ w.desktop.generation
  accepted : ∀ answer ∈ w.answers, answer.accepted = true

theorem Closing.next (closing : w.Closing) : w.next.Closing :=
  ⟨past_advance closing.past,
    fun answer member => closing.accepted answer (List.mem_of_mem_tail member)⟩

/-- Without a refusal the loop stops only when the daemon is gone. -/
theorem forget_left (closing : w.Closing) : (forget id).wp (fun r t _ =>
    t.Closing ∧ (t.Current → w.Current ∧ (∀ e, r ≠ .error e) ∧ ∀ other entry,
      t.mirror.shown.lookup other = some entry →
        other ≠ id ∧ w.mirror.shown.lookup other = some entry)) w := by
  refine wp_mono (fun r t _ forgot => ?_) forget_spec
  rcases forgot with ⟨absent, rfl, rfl⟩ | ⟨entry, found, ⟨-, failed, rfl⟩ | ⟨current, rfl, rfl⟩⟩
  · refine ⟨closing, fun current => ⟨current, fun e => (by simp), ?_⟩⟩
    intro other entry there
    refine ⟨?_, there⟩
    rintro rfl
    rw [absent] at there
    cases there
  · refine ⟨⟨closing.next.past, closing.next.accepted⟩, fun current => ?_⟩
    have accepted : w.answer.accepted = true :=
      answer_of_all (p := fun answer => answer.accepted = true) closing.accepted rfl
    rcases failed with stale | refused
    · exact absurd current stale
    · rw [accepted] at refused
      cases refused
  · refine ⟨⟨closing.next.past, closing.next.accepted⟩, fun _ => ?_⟩
    refine ⟨current_of_next closing.past current, fun e => (by simp), ?_⟩
    exact fun other entry there => Table.lookup_erase_eq_some.mp there

theorem forgetAll_left (ids : List Nat) : ∀ {w : MirrorWorld}, w.Closing →
    (forgetAll ids).wp (fun _ t _ => t.Closing ∧ (t.Current → w.Current ∧ ∀ other entry,
      t.mirror.shown.lookup other = some entry →
        other ∉ ids ∧ w.mirror.shown.lookup other = some entry)) w := by
  induction ids with
  | nil =>
    intro w closing
    exact ⟨closing, fun current => ⟨current, fun _ _ there => ⟨List.not_mem_nil, there⟩⟩⟩
  | cons id rest ih =>
    intro w closing
    refine wp_seq (forget_left closing) ?_ ?_
    · rintro e t o ⟨left, ended⟩
      exact ⟨left, fun current => absurd rfl ((ended current).2.1 e)⟩
    · rintro _ t o ⟨left, forgot⟩
      refine wp_mono (fun r u o' => ?_) (ih left)
      rintro ⟨closing', others⟩
      refine ⟨closing', fun current => ?_⟩
      obtain ⟨before, kept⟩ := others current
      refine ⟨(forgot before).1, fun other entry there => ?_⟩
      obtain ⟨notLater, there⟩ := kept other entry there
      obtain ⟨notNow, there⟩ := (forgot before).2.2 other entry there
      refine ⟨fun member => ?_, there⟩
      rcases List.mem_cons.mp member with same | later
      · exact notNow same
      · exact notLater later

/-- Whatever the order of the map, the loop gets every id that was not resent. -/
theorem mem_gone {mirror : NotificationMirror} {order : List Nat} :
    id ∈ mirror.gone sent order ↔ (∃ entry, mirror.shown.lookup id = some entry) ∧ id ∉ sent := by
  have key : id ∈ mirror.shown.keys ↔ ∃ entry, mirror.shown.lookup id = some entry := by
    rw [← AList.mem_keys, ← AList.lookup_isSome, Option.isSome_iff_exists]
  unfold gone
  simp only [List.mem_append, List.mem_filter, decide_eq_true_iff, key]
  constructor
  · rintro (⟨-, ids⟩ | ⟨ids, -⟩)
    · exact ids
    · exact ids
  · intro ids
    by_cases ordered : id ∈ order
    · exact .inl ⟨ordered, ids⟩
    · exact .inr ⟨ids, ordered⟩

/-- What is left after the loop was resent. -/
theorem endSnapshot_left {order : List Nat} {saved : DesktopAnswer} (closing : w.Closing)
    (resending : w.Resending sent) : (endSnapshot order saved).wp (fun _ t _ => t.Current →
      ∀ id entry, t.mirror.shown.lookup id = some entry → id ∈ sent) w := by
  unfold endSnapshot
  rw [wp_read_bind]
  cases resent : w.mirror.resent with
  | none =>
    intro current id entry found
    rcases resending current with ⟨all, known, -⟩ | ⟨-, all⟩
    · rw [resent] at known
      cases known
    · exact all id entry found
  | some all =>
    dsimp only
    rw [wp_bind, wp_update]
    have left {t : MirrorWorld} (current : t.Current)
        (others : t.Current → w.Current ∧ ∀ id entry, t.mirror.shown.lookup id = some entry →
          id ∉ w.mirror.gone all order ∧ w.mirror.shown.lookup id = some entry) :
        ∀ id entry, t.mirror.shown.lookup id = some entry → id ∈ sent := by
      intro id entry found
      obtain ⟨before, kept⟩ := others current
      obtain ⟨stays, there⟩ := kept id entry found
      rcases resending before with ⟨same, known, part⟩ | ⟨unknown, -⟩
      · rw [resent] at known
        cases known
        by_contra absent
        exact stays (mem_gone.mpr ⟨⟨entry, there⟩, fun member => absent (part member)⟩)
      · rw [resent] at unknown
        cases unknown
    refine wp_seq (forgetAll_left (w.mirror.gone all order) (w := w.withResent none)
      ⟨closing.past, closing.accepted⟩) ?_ ?_
    · rintro e t o ⟨-, others⟩ current
      exact left current others
    · rintro _ t o ⟨closed, others⟩
      refine wp_mono (fun r u o' same => ?_) persist_spec
      subst same
      intro current
      exact left (t := t) (current_of_advance closed.past current).1 others

/-! ## A daemon that stays -/

/-- The daemon that the mirror knows runs, and no answer tells of a restart. -/
structure Steady (call : ApplyCall) (w : MirrorWorld) : Prop where
  dated : w.Dated
  current : w.Current
  calls : ∀ answer ∈ w.answers, answer.restarted = false
  saved : call.saved.restarted = false

theorem Steady.next (steady : Steady call w) : Steady call w.next where
  dated := steady.dated.next
  current := by
    have running : w.answer.restarted = false :=
      answer_of_all (p := fun answer => answer.restarted = false) steady.calls rfl
    show w.mirror.owner = (w.desktop.advance w.answer).generation
    rw [MirrorDesktop.advance_of_running running]
    exact steady.current
  calls answer member := steady.calls answer (List.mem_of_mem_tail member)
  saved := steady.saved

theorem Steady.kept : Kept digest call (Steady call) := by
  have kept : Kept digest call Dated := Dated.kept
  constructor
  · exact fun steady found => kept.numbered steady.dated found
  · exact fun steady => steady.next
  · intro w steady
    rw [MirrorDesktop.advance_of_running steady.saved]
    exact steady
  · exact fun steady =>
      ⟨kept.resent steady.dated, steady.current, steady.calls, steady.saved⟩
  · exact fun steady current event absent nonzero unused =>
      ⟨kept.opened steady.dated current event absent nonzero unused, steady.current,
        steady.calls, steady.saved⟩
  · exact fun steady current event there =>
      ⟨kept.replaced steady.dated current event there, steady.current, steady.calls,
        steady.saved⟩
  · exact fun steady current there =>
      ⟨kept.closed steady.dated current there, steady.current, steady.calls, steady.saved⟩
  · exact fun steady closes there failed =>
      ⟨kept.lost steady.dated closes there failed, steady.next.current, steady.next.calls,
        steady.saved⟩

/-! ## After each call -/

theorem Sound.left (sound : w.Sound digest) (undisturbed : Undisturbed w call)
    (event : call.event = .snapshotEnd)
    (executed : (mirrorMachine digest).exec w call = some t) (current : t.Current) :
    ∀ id entry, t.mirror.shown.lookup id = some entry → id ∈ w.sent.getD ∅ := by
  obtain ⟨known, begun⟩ := undisturbed.ended event
  obtain ⟨sent, same⟩ := Option.isSome_iff_exists.mp begun
  rw [same]
  cases executed
  have closes : call.event.closes = true := by rw [event]; rfl
  have ends : (apply digest call).wp (fun _ t _ => t.Current →
      ∀ id entry, t.mirror.shown.lookup id = some entry → id ∈ sent) (w.begin call) := by
    refine wp_seq syncOwner_spec ?_ ?_
    · rintro e t o (⟨-, failed, -⟩ | ⟨impossible, -⟩ | ⟨impossible, -⟩)
      · rw [show (w.begin call).answer = call.generation from rfl, known] at failed
        cases failed
      · cases impossible
      · cases impossible
    · unfold handle
      rw [event]
      rintro _ t o (⟨⟨e, impossible⟩, -⟩ | ⟨-, -, -, rfl⟩ | ⟨-, -, stale, rfl⟩)
      · cases impossible
      · exact endSnapshot_left ⟨past_advance sound.agrees.past, undisturbed.accepted closes⟩
          (sound.carried same)
      · exact endSnapshot_left ⟨le_refl _, undisturbed.accepted closes⟩
          fun _ => .inr ⟨rfl, fun id entry found => by simp at found⟩
  exact ends current

theorem Dated.run (run : (mirrorMachine digest).Run anyAction {} w) : w.Dated := by
  refine run.invariant (fun _ _ _ _ executed dated => dated.exec executed) ?_
  refine ⟨?_, ?_, ?_⟩
  · intro id entry found
    simp at found
  · intro touched member
    simp at member
  · intro generation number member
    simp at member

/-- When no restart comes between, `apply` returns with the daemon that runs. -/
theorem current_of_settled (settled : Settled w call) (dated : w.Dated)
    (executed : (mirrorMachine digest).exec w call = some t) : t.Current := by
  cases executed
  have kept : Kept digest call (Steady call) := Steady.kept
  have began : (w.begin call).next.Dated :=
    Dated.next ⟨dated.shown, dated.touched, dated.nonzero⟩
  refine kept.apply (w := w.begin call) (fun unknown => ?_) (fun _ current => ?_) (fun _ _ => ?_)
    fun _ steady => steady.current
  · rcases settled.known with known | ⟨current, running⟩
    · rw [show (w.begin call).answer = call.generation from rfl, known] at unknown
      cases unknown
    · show w.mirror.owner = (w.desktop.advance call.generation).generation
      rw [MirrorDesktop.advance_of_running running]
      exact current
  · exact kept.ready ⟨⟨began.shown, began.touched, began.nonzero⟩, current, settled.calls,
      settled.saved⟩
  · refine kept.ready ⟨⟨?_, began.touched, began.nonzero⟩, rfl, settled.calls, settled.saved⟩
    intro id entry found
    simp at found

end MirrorWorld

/-- While the daemon refuses no close and tells who it is when a snapshot starts and ends, what the
    mirror has open corresponds to `shown` after each call in which the daemon does not restart
    behind the mirror's back, and only what was resent is left after a snapshot. No run at all
    touches a number of an earlier daemon. -/
theorem mirror_matches_desktop (run : (mirrorMachine digest).Run Undisturbed {} w)
    (undisturbed : Undisturbed w call) (settled : Settled w call)
    (executed : (mirrorMachine digest).exec w call = some t) :
    t.Matches digest ∧
      (call.event = .snapshotEnd →
        ∀ id entry, t.mirror.shown.lookup id = some entry → id ∈ w.sent.getD ∅) ∧
      ∀ v, (mirrorMachine digest).Run anyAction {} v → v.TouchesOwn := by
  have sound : w.Sound digest := .run run
  have dated : w.Dated := .run (run.mono fun _ _ _ => trivial)
  have current : t.Current := MirrorWorld.current_of_settled settled dated executed
  refine ⟨?_, ?_, ?_⟩
  · exact (sound.exec undisturbed executed).agrees.matched current
  · exact fun event => sound.left undisturbed event executed current
  · exact fun v other => (MirrorWorld.Dated.run other).touched

instance : Decidable (Undisturbed w call) :=
  decidable_of_iff ((call.event.closes = true → ∀ answer ∈ call.answers, answer.accepted = true) ∧
      (call.event = .snapshotStart → call.generation.accepted = true) ∧
      (call.event = .snapshotEnd → call.generation.accepted = true ∧ w.sent.isSome))
    ⟨fun ⟨accepted, started, ended⟩ => ⟨accepted, started, ended⟩,
      fun ⟨accepted, started, ended⟩ => ⟨accepted, started, ended⟩⟩

/-- A message of a mail program. -/
def mail (id : Nat) : PhoneNotification :=
  { id, appName := "Mail", title := "Ana", body := "hello", iconPng := none, postedMs := 0 }

/-- The first of two notifications is resent. -/
def resendFirst : List ApplyCall :=
  [{ event := .posted (mail 1), answers := [{ id := 7 }] },
    { event := .posted (mail 2), answers := [{ id := 8 }] },
    { event := .snapshotStart },
    { event := .posted (mail 1) }]

theorem mirror_matches_desktop_resendFirst :
    let mirrors := mirrorMachine fun _ => 0
    let t := mirrors.reach (mirrors.reach {} resendFirst) [{ event := .snapshotEnd }]
    t.Matches (fun _ => 0) ∧
      (∀ id entry, t.mirror.shown.lookup id = some entry →
        id ∈ (mirrors.reach {} resendFirst).sent.getD ∅) ∧ t.TouchesOwn := by
  intro mirrors t
  have run : mirrors.Run Undisturbed {} (mirrors.reach {} resendFirst) :=
    run_reach_of_allowedList (fun w call => decide (Undisturbed w call))
      (fun _ _ allowed => of_decide_eq_true allowed) resendFirst (by decide +kernel)
      (by decide +kernel)
  have call : mirrors.exec (mirrors.reach {} resendFirst) { event := .snapshotEnd } = some t :=
    exec_reach rfl
  have settled : Settled (mirrors.reach {} resendFirst) { event := .snapshotEnd } :=
    ⟨.inl rfl, fun _ member => (by cases member), rfl⟩
  obtain ⟨matched, left, touches⟩ := mirror_matches_desktop run (by decide +kernel) settled call
  refine ⟨matched, left rfl, touches t ?_⟩
  exact .trans (run.mono fun _ _ _ => trivial) (.head trivial call .refl)

/-- None of two notifications is resent, and the daemon refuses the first close. -/
def refusedClose : List ApplyCall :=
  [{ event := .posted (mail 1), answers := [{ id := 7 }] },
    { event := .posted (mail 2), answers := [{ id := 8 }] },
    { event := .snapshotStart },
    { event := .snapshotEnd, answers := [{ accepted := false }], order := [1, 2] }]

/-- The daemon never restarts, and yet the first notification stays open with no entry, and the
    second one with its entry, although it was not resent. -/
theorem refused_close_left_open :
    let mirrors := mirrorMachine fun _ => 0
    let w := mirrors.reach {} refusedClose
    mirrors.Run anyAction {} w ∧ w.Current ∧ ¬ w.Matches (fun _ => 0) ∧
      (mirrors.reach {} (refusedClose.take 3)).sent = some ∅ ∧
      w.mirror.shown.lookup 2 = some ⟨8, 0⟩ ∧ 8 ∈ w.desktop.opened := by
  intro mirrors w
  refine ⟨run_reach refusedClose (by decide +kernel), by decide +kernel, ?_, by decide +kernel,
    by decide +kernel, by decide +kernel⟩
  intro matched
  have opened : w.desktop.opened.lookup 7 = some (desktopNotification (mail 1) "") := by
    decide +kernel
  obtain ⟨id, entry, found, same⟩ := matched.opened 7 _ opened
  have entries : w.mirror.shown.entries = [⟨2, ⟨8, 0⟩⟩] := by decide +kernel
  have member := Table.mem_entries.mpr found
  rw [entries] at member
  cases List.mem_singleton.mp member
  exact absurd same (by decide)

end EdgeKvm.Notification
