import EdgeKvm.Notification.Mirror

/-!
# What the mirror and the desktop agree on

While no close is refused, what the mirror has open on the running daemon and the entries of
`shown` correspond. An entry leaves `shown` before its notification is closed, so a close that the
daemon refuses leaves the notification open with no entry, and ends the loop of `SnapshotEnd`.
-/

namespace EdgeKvm.Notification

open EdgeKvm.Lib Handler

variable {digest : DesktopNotification → UInt64} {w t : MirrorWorld} {call : ApplyCall}
  {id : Nat} {entry : Shown} {notification : DesktopNotification}

/-! ## The calls on the desktop -/

namespace NotificationMirror

theorem show'_spec {replaces : UInt32} : (show' notification replaces).wp (fun r t _ =>
    (∃ e, r = .error e) ∧ t = w.next ∨
    (w.next.Current ∧ r = .ok w.answer.id ∧ replaces = 0 ∧ w.answer.id ≠ 0 ∧
      w.answer.id ∉ w.next.desktop.opened ∧
      t = w.next.withDesktop (w.next.desktop.give w.answer.id notification)) ∨
    (w.next.Current ∧ r = .ok replaces ∧ replaces ≠ 0 ∧
      t = w.next.withDesktop (w.next.desktop.replace replaces notification))) w := by
  unfold show'
  rw [wp_read_bind, wp_bind, wp_update]
  dsimp only
  rw [wp_read_bind]
  by_cases failed : ¬ w.next.Current ∨ w.answer.accepted = false
  · rw [if_pos failed]
    exact .inl ⟨⟨_, rfl⟩, rfl⟩
  · rw [if_neg failed]
    have current : w.next.Current := not_not.mp (not_or.mp failed).1
    by_cases fresh : replaces = 0
    · rw [if_pos fresh]
      by_cases taken : w.answer.id = 0 ∨ w.answer.id ∈ w.next.desktop.opened
      · rw [if_pos taken]
        exact .inl ⟨⟨_, rfl⟩, rfl⟩
      · rw [if_neg taken]
        obtain ⟨nonzero, unused⟩ := not_or.mp taken
        exact .inr (.inl ⟨current, rfl, fresh, nonzero, unused, rfl⟩)
    · rw [if_neg fresh]
      exact .inr (.inr ⟨current, rfl, fresh, rfl⟩)

theorem close_spec {number : UInt32} : (close number).wp (fun r t _ =>
    (∃ e, r = .error e) ∧ (¬ w.next.Current ∨ w.answer.accepted = false) ∧ t = w.next ∨
    (w.next.Current ∧ r = .ok () ∧
      t = w.next.withDesktop (w.next.desktop.erase number))) w := by
  unfold close
  rw [wp_read_bind, wp_bind, wp_update]
  dsimp only
  rw [wp_read_bind]
  by_cases failed : ¬ w.next.Current ∨ w.answer.accepted = false
  · rw [if_pos failed]
    exact .inl ⟨⟨_, rfl⟩, failed, rfl⟩
  · rw [if_neg failed]
    exact .inr ⟨not_not.mp (not_or.mp failed).1, rfl, rfl⟩

theorem persist_spec {saved : DesktopAnswer} : (persist saved).wp (fun _ t _ =>
    t = w.withDesktop (w.desktop.advance saved)) w := by
  unfold persist
  rw [wp_bind, wp_update]
  dsimp only
  by_cases failed : saved.accepted = false
  · rw [if_pos failed]
    rfl
  · rw [if_neg failed]
    rfl

/-- An entry is closed, or it is lost when the daemon is gone or refuses. -/
theorem forget_spec : (forget id).wp (fun r t _ =>
    (w.mirror.shown.lookup id = none ∧ r = .ok () ∧ t = w) ∨
    ∃ entry, w.mirror.shown.lookup id = some entry ∧
      ((∃ e, r = .error e) ∧ (¬ w.next.Current ∨ w.answer.accepted = false) ∧
          t = w.next.withShown (w.next.mirror.shown.erase id) ∨
        w.next.Current ∧ r = .ok () ∧
          t = (w.next.withDesktop (w.next.desktop.erase entry.desktopId)).withShown
            (w.next.mirror.shown.erase id))) w := by
  unfold forget
  rw [wp_read_bind]
  cases found : w.mirror.shown.lookup id with
  | none => exact .inl ⟨rfl, rfl, rfl⟩
  | some entry =>
    dsimp only
    rw [wp_bind, wp_update]
    dsimp only
    refine wp_mono (fun r t _ closed => .inr ⟨entry, rfl, ?_⟩) close_spec
    exact closed

theorem syncOwner_spec : syncOwner.wp (fun r t _ =>
    (∃ e, r = .error e) ∧ w.answer.accepted = false ∧ t = w.next ∨
    (r = .ok () ∧ w.answer.accepted = true ∧ w.next.Current ∧ t = w.next) ∨
    (r = .ok () ∧ w.answer.accepted = true ∧ ¬ w.next.Current ∧
      t = { w.next with mirror := { owner := w.next.desktop.generation } })) w := by
  unfold syncOwner
  rw [wp_read_bind, wp_bind, wp_update]
  dsimp only
  by_cases failed : w.answer.accepted = false
  · rw [if_pos failed]
    exact .inl ⟨⟨_, rfl⟩, failed, rfl⟩
  · rw [if_neg failed]
    have answered : w.answer.accepted = true := Bool.not_eq_false _ ▸ failed
    rw [wp_read_bind]
    by_cases current : w.next.Current
    · rw [if_neg (not_not.mpr current)]
      exact .inr (.inl ⟨rfl, answered, current, rfl⟩)
    · rw [if_pos current]
      exact .inr (.inr ⟨rfl, answered, current, rfl⟩)

end NotificationMirror

/-! ## What every effect of a call keeps -/

/-- `P` survives each effect that the call can have once the mirror knows the daemon. -/
structure Kept (digest : DesktopNotification → UInt64) (call : ApplyCall)
    (P : MirrorWorld → Prop) : Prop where
  numbered : ∀ {w id entry}, P w → w.mirror.shown.lookup id = some entry → entry.desktopId ≠ 0
  next : ∀ {w}, P w → P w.next
  saved : ∀ {w}, P w → P (w.withDesktop (w.desktop.advance call.saved))
  resent : ∀ {w}, P w → P (w.withResent (sentAfter w.mirror.resent call.event))
  opened : ∀ {w phone number notification}, P w → w.Current → call.event = .posted phone →
    w.mirror.shown.lookup phone.id = none → number ≠ 0 → number ∉ w.desktop.opened →
    P ((w.withDesktop (w.desktop.give number notification)).withShown
      (w.mirror.shown.insert phone.id ⟨number, digest notification⟩))
  replaced : ∀ {w phone entry notification}, P w → w.Current → call.event = .posted phone →
    w.mirror.shown.lookup phone.id = some entry →
    P ((w.withDesktop (w.desktop.replace entry.desktopId notification)).withShown
      (w.mirror.shown.insert phone.id ⟨entry.desktopId, digest notification⟩))
  closed : ∀ {w id entry}, P w → w.Current → w.mirror.shown.lookup id = some entry →
    P ((w.withDesktop (w.desktop.erase entry.desktopId)).withShown (w.mirror.shown.erase id))
  lost : ∀ {w id entry}, P w → call.event.closes = true → w.mirror.shown.lookup id = some entry →
    ¬ w.next.Current ∨ w.answer.accepted = false →
    P (w.next.withShown (w.next.mirror.shown.erase id))

/-- `P` holds before `handle`; the start of a snapshot may be what establishes it. -/
def Ready (P : MirrorWorld → Prop) (event : NotificationEvent) (w : MirrorWorld) : Prop :=
  match event with
  | .snapshotStart => P (w.withResent (some ∅))
  | _ => P w

namespace Kept

open NotificationMirror

variable {P : MirrorWorld → Prop} {phone : PhoneNotification}

theorem persist (kept : Kept digest call P) (holds : P w) :
    (persist call.saved).wp (fun _ t _ => P t) w := by
  refine wp_mono (fun r t _ same => ?_) persist_spec
  rw [same]
  exact kept.saved holds

theorem forget (kept : Kept digest call P) (closes : call.event.closes = true) (holds : P w) :
    (forget id).wp (fun _ t _ => P t) w := by
  refine wp_mono (fun r t _ forgot => ?_) forget_spec
  rcases forgot with ⟨-, -, rfl⟩ | ⟨entry, found, ⟨-, failed, rfl⟩ | ⟨current, -, rfl⟩⟩
  · exact holds
  · exact kept.lost holds closes found failed
  · exact kept.closed (kept.next holds) current found

theorem forgetAll (kept : Kept digest call P) (closes : call.event.closes = true)
    (ids : List Nat) : ∀ {w}, P w → (forgetAll ids).wp (fun _ t _ => P t) w := by
  induction ids with
  | nil => exact id
  | cons id rest ih =>
    intro w holds
    exact wp_seq (kept.forget closes holds) (fun _ _ _ ended => ended) fun _ _ _ left => ih left

theorem endSnapshot (kept : Kept digest call P) (ends : call.event = .snapshotEnd) (holds : P w) :
    (endSnapshot call.order call.saved).wp (fun _ t _ => P t) w := by
  unfold NotificationMirror.endSnapshot
  rw [wp_read_bind]
  cases w.mirror.resent with
  | none => exact holds
  | some resent =>
    dsimp only
    rw [wp_bind, wp_update]
    have taken := kept.resent holds
    rw [ends] at taken
    have closes : call.event.closes = true := by rw [ends]; rfl
    exact wp_seq (kept.forgetAll closes _ taken) (fun _ _ _ ended => ended)
      fun _ _ _ left => kept.persist left

theorem present (kept : Kept digest call P) (posts : call.event = .posted phone) (holds : P w) :
    (present digest phone.id notification call.saved).wp (fun _ t _ => P t) w := by
  unfold NotificationMirror.present
  rw [wp_read_bind]
  by_cases same : (w.mirror.shown.lookup phone.id).map (·.digest) = some (digest notification)
  · rw [if_pos same]
    exact holds
  · rw [if_neg same]
    refine wp_seq show'_spec ?_ ?_
    · -- A notification that could not be shown leaves `shown` as it was.
      rintro e t o (⟨-, rfl⟩ | ⟨-, impossible, -⟩ | ⟨-, impossible, -⟩)
      · exact kept.next holds
      · cases impossible
      · cases impossible
    · rintro number t o (⟨⟨e, impossible⟩, -⟩ | ⟨current, answered, fresh, nonzero, unused, rfl⟩ |
          ⟨current, answered, old, rfl⟩)
      · cases impossible
      · cases answered
        rw [wp_bind, wp_update]
        refine kept.persist (kept.opened (kept.next holds) current posts ?_ nonzero unused)
        cases found : w.mirror.shown.lookup phone.id with
        | none => exact found
        | some entry =>
          rw [found] at fresh
          exact absurd fresh (kept.numbered holds found)
      · cases answered
        rw [wp_bind, wp_update]
        cases found : w.mirror.shown.lookup phone.id with
        | none =>
          rw [found] at old
          exact absurd rfl old
        | some entry => exact kept.persist (kept.replaced (kept.next holds) current posts found)

theorem post (kept : Kept digest call P) (posts : call.event = .posted phone) (holds : P w) :
    (post digest phone call.phoneName call.saved).wp (fun _ t _ => P t) w := by
  unfold NotificationMirror.post
  rw [wp_bind, wp_update]
  have marked := kept.resent holds
  rw [posts] at marked
  exact kept.present posts marked

theorem ready (kept : Kept digest call P) (holds : P w) : Ready P call.event w := by
  cases event : call.event with
  | snapshotStart =>
    have started := kept.resent holds
    rw [event] at started
    exact started
  | posted phone => exact holds
  | removed id => exact holds
  | snapshotEnd => exact holds

/-- One call of `apply`, after `sync_owner`. -/
theorem handle (kept : Kept digest call P) (ready : Ready P call.event w) :
    (handle digest call).wp (fun _ t _ => P t) w := by
  unfold NotificationMirror.handle
  cases event : call.event with
  | posted phone =>
    rw [event] at ready
    exact kept.post event ready
  | removed id =>
    rw [event] at ready
    have closes : call.event.closes = true := by rw [event]; rfl
    exact wp_seq (kept.forget closes ready) (fun _ _ _ ended => ended)
      fun _ _ _ left => kept.persist left
  | snapshotStart =>
    rw [event] at ready
    dsimp only
    rw [wp_bind, wp_update]
    exact kept.persist ready
  | snapshotEnd =>
    rw [event] at ready
    exact kept.endSnapshot event ready

/-- One call of `apply`; `Q` is what is left of `P` when the owner of the daemon's name is not
    known. -/
theorem apply {Q : MirrorWorld → Prop} (kept : Kept digest call P)
    (unknown : w.answer.accepted = false → Q w.next)
    (known : w.answer.accepted = true → w.next.Current → Ready P call.event w.next)
    (renewed : w.answer.accepted = true → ¬ w.next.Current →
      Ready P call.event { w.next with mirror := { owner := w.next.desktop.generation } })
    (ends : ∀ t, P t → Q t) : (apply digest call).wp (fun _ t _ => Q t) w := by
  refine wp_seq syncOwner_spec ?_ ?_
  · rintro e t o (⟨-, failed, rfl⟩ | ⟨impossible, -⟩ | ⟨impossible, -⟩)
    · exact unknown failed
    · cases impossible
    · cases impossible
  · rintro _ t o (⟨⟨e, impossible⟩, -⟩ | ⟨-, answered, current, rfl⟩ | ⟨-, answered, stale, rfl⟩)
    · cases impossible
    · exact wp_mono (fun _ t _ => ends t) (kept.handle (known answered current))
    · exact wp_mono (fun _ t _ => ends t) (kept.handle (renewed answered stale))

end Kept

end EdgeKvm.Notification
