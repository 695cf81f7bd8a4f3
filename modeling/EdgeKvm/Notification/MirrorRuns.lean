import EdgeKvm.Notification.MirrorTurns

/-!
# The mirror over whole runs

The numbers that the mirror replaces and closes are always those of the daemon that gave them.
What it has open and what it remembers correspond as long as the daemon refuses no close.
-/

namespace EdgeKvm.Notification

open EdgeKvm.Lib Machine Handler

variable {digest : DesktopNotification → UInt64} {w t : MirrorWorld} {call : ApplyCall}
  {id : Nat} {entry : Shown} {answer : DesktopAnswer} {desktop : MirrorDesktop}

/-! ## The properties -/

/-- The notifications that are open and the entries correspond. -/
structure MirrorWorld.Matches (digest : DesktopNotification → UInt64) (w : MirrorWorld) :
    Prop where
  shown : ∀ id entry, w.mirror.shown.lookup id = some entry →
    ∃ notification, w.desktop.opened.lookup entry.desktopId = some notification ∧
      digest notification = entry.digest
  opened : ∀ number notification, w.desktop.opened.lookup number = some notification →
    ∃ id entry, w.mirror.shown.lookup id = some entry ∧ entry.desktopId = number
  once : ∀ id id' entry entry', w.mirror.shown.lookup id = some entry →
    w.mirror.shown.lookup id' = some entry' → entry.desktopId = entry'.desktopId → id = id'

/-- The numbers that were replaced or closed were given by the daemon that ran then. -/
def MirrorWorld.TouchesOwn (w : MirrorWorld) : Prop :=
  ∀ touched ∈ w.desktop.touched, touched ∈ w.desktop.given

/-- The daemon refuses no close, its name is known when a snapshot starts or ends, and a snapshot
    ends only after it started. -/
structure Undisturbed (w : MirrorWorld) (call : ApplyCall) : Prop where
  accepted : call.event.closes = true → ∀ answer ∈ call.answers, answer.accepted = true
  started : call.event = .snapshotStart → call.generation.accepted = true
  ended : call.event = .snapshotEnd → call.generation.accepted = true ∧ w.sent.isSome

/-- The daemon that runs when `apply` returns is the one that it knows. -/
structure Settled (w : MirrorWorld) (call : ApplyCall) : Prop where
  known : call.generation.accepted = true ∨ w.Current ∧ call.generation.restarted = false
  calls : ∀ answer ∈ call.answers, answer.restarted = false
  saved : call.saved.restarted = false

/-! ## The daemon restarts -/

@[simp] theorem MirrorDesktop.advance_given : (desktop.advance answer).given = desktop.given := by
  unfold advance
  split <;> rfl

@[simp] theorem MirrorDesktop.advance_touched :
    (desktop.advance answer).touched = desktop.touched := by
  unfold advance
  split <;> rfl

theorem MirrorDesktop.advance_of_running (runs : answer.restarted = false) :
    desktop.advance answer = desktop := by
  unfold advance
  rw [if_neg (by simp [runs])]

theorem MirrorDesktop.advance_of_restarted (restarted : answer.restarted = true) :
    desktop.advance answer = desktop.restart := by
  unfold advance
  rw [if_pos restarted]

/-! ## Numbers of earlier daemons -/

/-- The entries have numbers of the daemon that the mirror knows. -/
structure MirrorWorld.Dated (w : MirrorWorld) : Prop where
  shown : ∀ id entry, w.mirror.shown.lookup id = some entry →
    (w.mirror.owner, entry.desktopId) ∈ w.desktop.given
  touched : w.TouchesOwn
  nonzero : ∀ generation number, (generation, number) ∈ w.desktop.given → number ≠ 0

theorem MirrorWorld.Dated.advance (dated : w.Dated) :
    (w.withDesktop (w.desktop.advance answer)).Dated := by
  constructor
  · intro id entry found
    show _ ∈ (w.desktop.advance answer).given
    rw [MirrorDesktop.advance_given]
    exact dated.shown id entry found
  · intro number touched
    change number ∈ (w.desktop.advance answer).touched at touched
    show _ ∈ (w.desktop.advance answer).given
    rw [MirrorDesktop.advance_touched] at touched
    rw [MirrorDesktop.advance_given]
    exact dated.touched number touched
  · intro generation number given
    change _ ∈ (w.desktop.advance answer).given at given
    rw [MirrorDesktop.advance_given] at given
    exact dated.nonzero generation number given

theorem MirrorWorld.Dated.next (dated : w.Dated) : w.next.Dated :=
  ⟨dated.advance.shown, dated.advance.touched, dated.advance.nonzero⟩

theorem MirrorWorld.Dated.erase (dated : w.Dated) :
    (w.withShown (w.mirror.shown.erase id)).Dated :=
  ⟨fun other entry found => dated.shown other entry (Table.lookup_erase_eq_some.mp found).2,
    dated.touched, dated.nonzero⟩

theorem MirrorWorld.Dated.kept : Kept digest call MirrorWorld.Dated where
  numbered dated found := dated.nonzero _ _ (dated.shown _ _ found)
  next dated := dated.next
  saved dated := dated.advance
  resent dated := ⟨dated.shown, dated.touched, dated.nonzero⟩
  opened := by
    intro w phone number notification dated current _ _ nonzero _
    constructor
    · intro id entry found
      rcases Table.lookup_insert_eq_some.mp found with ⟨rfl, rfl⟩ | ⟨-, found⟩
      · show (w.mirror.owner, number) ∈ (w.desktop.generation, number) :: w.desktop.given
        rw [show w.mirror.owner = w.desktop.generation from current]
        exact List.mem_cons_self
      · exact List.mem_cons_of_mem _ (dated.shown id entry found)
    · exact fun touched there => List.mem_cons_of_mem _ (dated.touched touched there)
    · intro generation other given
      rcases List.mem_cons.mp given with same | given
      · cases same
        exact nonzero
      · exact dated.nonzero generation other given
  replaced := by
    intro w phone entry notification dated current _ there
    constructor
    · intro id other found
      rcases Table.lookup_insert_eq_some.mp found with ⟨rfl, rfl⟩ | ⟨-, found⟩
      · exact dated.shown phone.id entry there
      · exact dated.shown id other found
    · intro touched member
      rcases List.mem_cons.mp member with rfl | member
      · exact current ▸ dated.shown phone.id entry there
      · exact dated.touched touched member
    · exact dated.nonzero
  closed := by
    intro w id entry dated current there
    refine ⟨dated.erase.shown, ?_, dated.nonzero⟩
    intro touched member
    rcases List.mem_cons.mp member with rfl | member
    · exact current ▸ dated.shown id entry there
    · exact dated.touched touched member
  lost dated _ _ _ := dated.next.erase

/-- Whatever the desktop does, one call of `apply` touches only numbers of the daemon that runs. -/
theorem MirrorWorld.Dated.exec (dated : w.Dated)
    (executed : (mirrorMachine digest).exec w call = some t) : t.Dated := by
  cases executed
  have began : (w.begin call).Dated := ⟨dated.shown, dated.touched, dated.nonzero⟩
  have kept : Kept digest call MirrorWorld.Dated := MirrorWorld.Dated.kept
  refine kept.apply (fun _ => began.next) (fun _ _ => kept.ready began.next) (fun _ _ => ?_)
    (fun _ holds => holds)
  refine kept.ready ?_
  exact ⟨fun id entry found => (by simp at found), began.next.touched, began.next.nonzero⟩

/-! ## What is open and what is remembered -/

namespace MirrorWorld

/-- Nothing is open that the mirror does not know, whichever daemon runs. -/
structure Agrees (digest : DesktopNotification → UInt64) (w : MirrorWorld) : Prop where
  past : w.mirror.owner ≤ w.desktop.generation
  matched : w.Current → w.Matches digest
  bare : ¬ w.Current → w.desktop.opened = ∅
  numbered : ∀ id entry, w.mirror.shown.lookup id = some entry → entry.desktopId ≠ 0

theorem not_current_restart (past : w.mirror.owner ≤ w.desktop.generation) :
    ¬ (w.withDesktop w.desktop.restart).Current :=
  Nat.ne_of_lt (Nat.lt_succ_of_le past)

theorem past_advance (past : w.mirror.owner ≤ w.desktop.generation) :
    w.mirror.owner ≤ (w.desktop.advance answer).generation := by
  unfold MirrorDesktop.advance
  split
  · exact Nat.le_succ_of_le past
  · exact past

/-- A daemon that the mirror does not know stays unknown. -/
theorem current_of_advance (past : w.mirror.owner ≤ w.desktop.generation)
    (current : (w.withDesktop (w.desktop.advance answer)).Current) :
    w.Current ∧ answer.restarted = false := by
  cases restarted : answer.restarted with
  | true =>
    rw [MirrorDesktop.advance_of_restarted restarted] at current
    exact absurd current (not_current_restart past)
  | false =>
    rw [MirrorDesktop.advance_of_running restarted] at current
    exact ⟨current, rfl⟩

theorem current_of_next (past : w.mirror.owner ≤ w.desktop.generation)
    (current : w.next.Current) : w.Current := (current_of_advance past current).1

theorem Agrees.advance (agrees : w.Agrees digest) :
    (w.withDesktop (w.desktop.advance answer)).Agrees digest := by
  cases restarted : answer.restarted with
  | true =>
    rw [MirrorDesktop.advance_of_restarted restarted]
    exact ⟨Nat.le_succ_of_le agrees.past,
      fun current => absurd current (not_current_restart agrees.past), fun _ => rfl,
      agrees.numbered⟩
  | false =>
    rw [MirrorDesktop.advance_of_running restarted]
    exact agrees

theorem Agrees.next (agrees : w.Agrees digest) : w.next.Agrees digest :=
  ⟨agrees.advance.past, fun current => ⟨(agrees.advance.matched current).shown,
    (agrees.advance.matched current).opened, (agrees.advance.matched current).once⟩,
    agrees.advance.bare, agrees.numbered⟩

/-- What `sync_owner` leaves of the mirror when it finds another daemon. -/
theorem Agrees.renew (agrees : w.Agrees digest) (stale : ¬ w.Current) :
    Agrees digest { w with mirror := { owner := w.desktop.generation } } := by
  refine ⟨le_refl _, fun _ => ⟨?_, ?_, ?_⟩, fun other => absurd rfl other, ?_⟩
  · intro id entry found
    simp at found
  · intro number notification found
    change w.desktop.opened.lookup number = _ at found
    rw [agrees.bare stale] at found
    simp at found
  · intro id id' entry entry' found
    simp at found
  · intro id entry found
    simp at found

/-- A new number, and the entry that has it. -/
theorem Matches.open {number : UInt32} {notification : DesktopNotification}
    (matched : w.Matches digest) (absent : w.mirror.shown.lookup id = none)
    (unused : number ∉ w.desktop.opened) :
    Matches digest ((w.withDesktop (w.desktop.give number notification)).withShown
      (w.mirror.shown.insert id ⟨number, digest notification⟩)) := by
  have apart {other : Nat} {entry : Shown} (found : w.mirror.shown.lookup other = some entry) :
      entry.desktopId ≠ number := by
    rintro rfl
    obtain ⟨notification, there, -⟩ := matched.shown other entry found
    rw [AList.lookup_eq_none.mpr unused] at there
    cases there
  constructor
  · intro other entry found
    rcases Table.lookup_insert_eq_some.mp found with ⟨rfl, rfl⟩ | ⟨-, found⟩
    · exact ⟨notification, AList.lookup_insert _, rfl⟩
    · obtain ⟨shown, there, same⟩ := matched.shown other entry found
      exact ⟨shown, Table.lookup_insert_eq_some.mpr (.inr ⟨apart found, there⟩), same⟩
  · intro other shown there
    rcases Table.lookup_insert_eq_some.mp there with ⟨rfl, rfl⟩ | ⟨-, there⟩
    · exact ⟨id, _, AList.lookup_insert _, rfl⟩
    · obtain ⟨known, entry, found, same⟩ := matched.opened other shown there
      refine ⟨known, entry, Table.lookup_insert_eq_some.mpr (.inr ⟨?_, found⟩), same⟩
      rintro rfl
      rw [absent] at found
      cases found
  · intro first second entry entry' one two same
    rcases Table.lookup_insert_eq_some.mp one with ⟨rfl, rfl⟩ | ⟨-, old⟩ <;>
      rcases Table.lookup_insert_eq_some.mp two with ⟨rfl, rfl⟩ | ⟨-, old'⟩
    · rfl
    · exact absurd same.symm (apart old')
    · exact absurd same (apart old)
    · exact matched.once first second entry entry' old old' same

theorem Matches.replace {notification : DesktopNotification} (matched : w.Matches digest)
    (there : w.mirror.shown.lookup id = some entry) :
    Matches digest ((w.withDesktop (w.desktop.replace entry.desktopId notification)).withShown
      (w.mirror.shown.insert id ⟨entry.desktopId, digest notification⟩)) := by
  constructor
  · intro other found shown
    rcases Table.lookup_insert_eq_some.mp shown with ⟨rfl, rfl⟩ | ⟨apart, shown⟩
    · exact ⟨notification, AList.lookup_insert _, rfl⟩
    · obtain ⟨content, held, same⟩ := matched.shown other found shown
      refine ⟨content, Table.lookup_insert_eq_some.mpr (.inr ⟨fun both => apart ?_, held⟩), same⟩
      exact matched.once other id found entry shown there both
  · intro number content held
    rcases Table.lookup_insert_eq_some.mp held with ⟨rfl, rfl⟩ | ⟨apart, held⟩
    · exact ⟨id, _, AList.lookup_insert _, rfl⟩
    · obtain ⟨known, found, shown, same⟩ := matched.opened number content held
      refine ⟨known, found, Table.lookup_insert_eq_some.mpr (.inr ⟨?_, shown⟩), same⟩
      rintro rfl
      rw [there] at shown
      cases shown
      exact apart same.symm
  · intro first second found found' one two same
    rcases Table.lookup_insert_eq_some.mp one with ⟨rfl, rfl⟩ | ⟨-, old⟩ <;>
      rcases Table.lookup_insert_eq_some.mp two with ⟨rfl, rfl⟩ | ⟨-, old'⟩
    · rfl
    · exact matched.once _ second entry found' there old' same
    · exact matched.once first _ found entry old there same
    · exact matched.once first second found found' old old' same

theorem Matches.close (matched : w.Matches digest)
    (there : w.mirror.shown.lookup id = some entry) :
    Matches digest ((w.withDesktop (w.desktop.erase entry.desktopId)).withShown
      (w.mirror.shown.erase id)) := by
  constructor
  · intro other found shown
    obtain ⟨apart, shown⟩ := Table.lookup_erase_eq_some.mp shown
    obtain ⟨content, held, same⟩ := matched.shown other found shown
    refine ⟨content, Table.lookup_erase_eq_some.mpr ⟨fun both => apart ?_, held⟩, same⟩
    exact matched.once other id found entry shown there both
  · intro number content held
    obtain ⟨apart, held⟩ := Table.lookup_erase_eq_some.mp held
    obtain ⟨known, found, shown, same⟩ := matched.opened number content held
    refine ⟨known, found, Table.lookup_erase_eq_some.mpr ⟨?_, shown⟩, same⟩
    rintro rfl
    rw [there] at shown
    cases shown
    exact apart same.symm
  · intro first second found found' one two same
    exact matched.once first second found found' (Table.lookup_erase_eq_some.mp one).2
      (Table.lookup_erase_eq_some.mp two).2 same

/-! ## One call -/

/-- While a snapshot is sent, what was not resent is known, or it is gone with its daemon. -/
def Resending (sent : Finset Nat) (w : MirrorWorld) : Prop :=
  w.Current → (∃ resent, w.mirror.resent = some resent ∧ resent ⊆ sent) ∨
    w.mirror.resent = none ∧ ∀ id entry, w.mirror.shown.lookup id = some entry → id ∈ sent

/-- What holds after `sync_owner`, until `apply` returns. -/
structure Handling (digest : DesktopNotification → UInt64) (call : ApplyCall) (w : MirrorWorld) :
    Prop where
  agrees : w.Agrees digest
  resending : ∀ sent, w.sent = some sent → w.Resending sent
  posted : ∀ phone sent, call.event = .posted phone → w.sent = some sent → phone.id ∈ sent
  ended : call.event = .snapshotEnd → w.sent = none
  accepted : call.event.closes = true → ∀ answer ∈ w.answers, answer.accepted = true

/-- What all answers satisfy, the next one satisfies too. -/
theorem answer_of_all {p : DesktopAnswer → Prop} (all : ∀ answer ∈ w.answers, p answer)
    (last : p {}) : p w.answer := by
  unfold answer
  cases answers : w.answers with
  | nil => exact last
  | cons answer rest => exact all answer (answers ▸ List.mem_cons_self)

theorem Resending.mono {sent : Finset Nat} {v : MirrorWorld} (resending : w.Resending sent)
    (current : v.Current → w.Current) (resent : v.mirror.resent = w.mirror.resent)
    (shown : ∀ id entry, v.mirror.shown.lookup id = some entry →
      id ∈ sent ∨ ∃ entry, w.mirror.shown.lookup id = some entry) : v.Resending sent := by
  intro runs
  rw [resent]
  rcases resending (current runs) with known | ⟨unknown, all⟩
  · exact .inl known
  · refine .inr ⟨unknown, fun id entry found => ?_⟩
    rcases shown id entry found with member | ⟨entry, found⟩
    · exact member
    · exact all id entry found

theorem Handling.next (handling : Handling digest call w) : Handling digest call w.next where
  agrees := handling.agrees.next
  resending sent same := (handling.resending sent same).mono
    (current_of_next handling.agrees.past) rfl fun _ entry found => .inr ⟨entry, found⟩
  posted := handling.posted
  ended := handling.ended
  accepted closes answer member := handling.accepted closes answer (List.mem_of_mem_tail member)

theorem Handling.kept : Kept digest call (Handling digest call) where
  numbered handling found := handling.agrees.numbered _ _ found
  next handling := handling.next
  saved handling := {
    agrees := handling.agrees.advance
    resending := fun sent same => (handling.resending sent same).mono
      (fun current => (current_of_advance handling.agrees.past current).1) rfl
      fun _ entry found => .inr ⟨entry, found⟩
    posted := handling.posted
    ended := handling.ended
    accepted := handling.accepted }
  resent := by
    intro w handling
    refine ⟨⟨handling.agrees.past, fun current => ?_, handling.agrees.bare,
      handling.agrees.numbered⟩, ?_, handling.posted, handling.ended, handling.accepted⟩
    · exact ⟨(handling.agrees.matched current).shown, (handling.agrees.matched current).opened,
        (handling.agrees.matched current).once⟩
    · intro sent same current
      cases event : call.event with
      | posted phone =>
        rcases handling.resending sent same current with ⟨resent, known, part⟩ | ⟨unknown, all⟩
        · refine .inl ⟨insert phone.id resent, ?_, ?_⟩
          · show w.mirror.resent.map (insert phone.id) = _
            rw [known]
            rfl
          · exact Finset.insert_subset (handling.posted phone sent event same) part
        · refine .inr ⟨?_, all⟩
          show w.mirror.resent.map (insert phone.id) = _
          rw [unknown]
          rfl
      | removed id => exact handling.resending sent same current
      | snapshotStart => exact .inl ⟨∅, rfl, Finset.empty_subset sent⟩
      | snapshotEnd =>
        have none := handling.ended event
        rw [show w.sent = some sent from same] at none
        cases none
  opened := by
    intro w phone number notification handling current event absent nonzero unused
    refine ⟨⟨handling.agrees.past, fun _ => ?_, fun stale => absurd current stale, ?_⟩, ?_,
      handling.posted, handling.ended, handling.accepted⟩
    · exact (handling.agrees.matched current).open absent unused
    · intro id entry found
      rcases Table.lookup_insert_eq_some.mp found with ⟨rfl, rfl⟩ | ⟨-, found⟩
      · exact nonzero
      · exact handling.agrees.numbered id entry found
    · intro sent same
      refine (handling.resending sent same).mono (fun _ => current) rfl fun id entry found => ?_
      rcases Table.lookup_insert_eq_some.mp found with ⟨rfl, rfl⟩ | ⟨-, found⟩
      · exact .inl (handling.posted phone sent event same)
      · exact .inr ⟨entry, found⟩
  replaced := by
    intro w phone entry notification handling current event there
    refine ⟨⟨handling.agrees.past, fun _ => ?_, fun stale => absurd current stale, ?_⟩, ?_,
      handling.posted, handling.ended, handling.accepted⟩
    · exact (handling.agrees.matched current).replace there
    · intro id other found
      rcases Table.lookup_insert_eq_some.mp found with ⟨rfl, rfl⟩ | ⟨-, found⟩
      · exact handling.agrees.numbered phone.id entry there
      · exact handling.agrees.numbered id other found
    · intro sent same
      refine (handling.resending sent same).mono (fun _ => current) rfl fun id other found => ?_
      rcases Table.lookup_insert_eq_some.mp found with ⟨rfl, rfl⟩ | ⟨-, found⟩
      · exact .inl (handling.posted phone sent event same)
      · exact .inr ⟨other, found⟩
  closed := by
    intro w id entry handling current there
    refine ⟨⟨handling.agrees.past, fun _ => ?_, fun stale => absurd current stale, ?_⟩, ?_,
      handling.posted, handling.ended, handling.accepted⟩
    · exact (handling.agrees.matched current).close there
    · intro other found shown
      exact handling.agrees.numbered other found (Table.lookup_erase_eq_some.mp shown).2
    · intro sent same
      refine (handling.resending sent same).mono (fun _ => current) rfl fun other found shown => ?_
      exact .inr ⟨found, (Table.lookup_erase_eq_some.mp shown).2⟩
  lost := by
    intro w id entry handling closes there failed
    -- The daemon did not refuse, so it is not there any more.
    have accepted : w.answer.accepted = true :=
      answer_of_all (p := fun answer => answer.accepted = true) (handling.accepted closes) rfl
    have stale : ¬ w.next.Current := by
      refine failed.resolve_right fun refused => ?_
      rw [accepted] at refused
      cases refused
    refine ⟨⟨handling.next.agrees.past, fun current => absurd current stale,
      handling.next.agrees.bare, ?_⟩, ?_, handling.posted, handling.ended,
      handling.next.accepted⟩
    · intro other found shown
      exact handling.agrees.numbered other found (Table.lookup_erase_eq_some.mp shown).2
    · exact fun sent same current => absurd current stale

/-! ## Before and after a call -/

/-- What holds between two calls. -/
structure Sound (digest : DesktopNotification → UInt64) (w : MirrorWorld) : Prop where
  agrees : w.Agrees digest
  resending : ∀ sent, w.sent = some sent → w.Resending sent

theorem Resending.weaken {sent sent' : Finset Nat} (resending : w.Resending sent)
    (part : sent ⊆ sent') : w.Resending sent' := by
  intro current
  rcases resending current with ⟨resent, known, within⟩ | ⟨unknown, all⟩
  · exact .inl ⟨resent, known, within.trans part⟩
  · exact .inr ⟨unknown, fun id entry found => part (all id entry found)⟩

theorem Agrees.begin (agrees : w.Agrees digest) : (w.begin call).Agrees digest :=
  ⟨agrees.past, fun current => ⟨(agrees.matched current).shown, (agrees.matched current).opened,
    (agrees.matched current).once⟩, agrees.bare, agrees.numbered⟩

theorem Sound.carried {sent : Finset Nat} (sound : w.Sound digest) (same : w.sent = some sent) :
    (w.begin call).next.Resending sent :=
  (sound.resending sent same).mono (current_of_next (w := w.begin call) sound.agrees.past) rfl
    fun _ entry found => .inr ⟨entry, found⟩

/-- An event that starts no snapshot only adds to what was sent. -/
theorem Sound.resends (sound : w.Sound digest) (going : call.event ≠ .snapshotStart)
    {sent : Finset Nat} (same : (w.begin call).next.sent = some sent) :
    (w.begin call).next.Resending sent := by
  change sentAfter w.sent call.event = some sent at same
  cases event : call.event with
  | posted phone =>
    rw [event] at same
    obtain ⟨before, old, rfl⟩ := Option.map_eq_some_iff.mp same
    exact (sound.carried old).weaken (Finset.subset_insert phone.id before)
  | removed id =>
    rw [event] at same
    exact sound.carried same
  | snapshotStart => exact absurd event going
  | snapshotEnd =>
    rw [event] at same
    cases same

/-- What `sync_owner` leaves is what `handle` starts from. -/
theorem handling_of_undisturbed {v : MirrorWorld} (undisturbed : Undisturbed w call)
    (agrees : v.Agrees digest) (answers : v.answers = call.answers)
    (sent : v.sent = sentAfter w.sent call.event)
    (resending : call.event ≠ .snapshotStart → ∀ sent, v.sent = some sent → v.Resending sent) :
    Ready (Handling digest call) call.event v := by
  have posted (phone : PhoneNotification) (all : Finset Nat) (event : call.event = .posted phone)
      (same : v.sent = some all) : phone.id ∈ all := by
    rw [sent, event] at same
    obtain ⟨before, -, rfl⟩ := Option.map_eq_some_iff.mp same
    exact Finset.mem_insert_self _ _
  have ended (event : call.event = .snapshotEnd) : v.sent = none := by
    rw [sent, event]
    rfl
  have accepted (closes : call.event.closes = true) :
      ∀ answer ∈ v.answers, answer.accepted = true := answers ▸ undisturbed.accepted closes
  have handling (going : call.event ≠ .snapshotStart) : Handling digest call v :=
    ⟨agrees, resending going, posted, ended, accepted⟩
  cases event : call.event with
  | snapshotStart =>
    refine ⟨⟨agrees.past, fun current => ?_, agrees.bare, agrees.numbered⟩, ?_, posted, ended,
      accepted⟩
    · exact ⟨(agrees.matched current).shown, (agrees.matched current).opened,
        (agrees.matched current).once⟩
    · exact fun all _ _ => .inl ⟨∅, rfl, Finset.empty_subset all⟩
  | posted phone => exact handling (by simp [event])
  | removed id => exact handling (by simp [event])
  | snapshotEnd => exact handling (by simp [event])

/-- The step of the run. -/
theorem Sound.exec (sound : w.Sound digest) (undisturbed : Undisturbed w call)
    (executed : (mirrorMachine digest).exec w call = some t) : t.Sound digest := by
  cases executed
  have kept : Kept digest call (Handling digest call) := Handling.kept
  have agrees : (w.begin call).next.Agrees digest := sound.agrees.begin.next
  refine kept.apply (w := w.begin call) ?_ ?_ ?_
    fun t handling => ⟨handling.agrees, handling.resending⟩
  · intro unknown
    refine ⟨agrees, fun sent same => sound.resends ?_ same⟩
    intro starts
    rw [show (w.begin call).answer = call.generation from rfl,
      undisturbed.started starts] at unknown
    cases unknown
  · exact fun _ _ => handling_of_undisturbed undisturbed agrees rfl rfl
      fun going _ same => sound.resends going same
  · refine fun _ stale => handling_of_undisturbed undisturbed (agrees.renew stale) rfl rfl
      fun _ sent _ _ => ?_
    exact .inr ⟨rfl, fun id entry found => by simp at found⟩

theorem Sound.run (run : (mirrorMachine digest).Run Undisturbed {} w) : w.Sound digest := by
  refine run.invariant (fun _ _ _ undisturbed executed sound => sound.exec undisturbed executed) ?_
  refine ⟨⟨Nat.zero_le _, fun current => absurd current (by decide), fun _ => rfl, ?_⟩, ?_⟩
  · intro id entry found
    simp at found
  · intro sent same
    cases same

end MirrorWorld

end EdgeKvm.Notification
