import EdgeKvm.Dialling.Apart

/-!
# One connection survives

The runs of two paired nodes. Both decide with `keep_own_dial`, of which exactly one holds: the
dials of the lower key are never given up as duplicates, and without failures they are never
closed at all.
-/

namespace EdgeKvm.Dialling

open EdgeKvm.Lib Machine
open EdgeKvm.Pairing (PinStore)

/-! ## The runs -/

/-- Two computers with keys of their own, each of which has pinned the other as a computer. -/
structure PairedComputers where
  computers : Side → Computer
  distinct : (computers .first).fingerprint ≠ (computers .second).fingerprint
  pinned : ∀ n, (computers n).pins.status (computers n.other).deviceName
    (computers n.other).fingerprint = .trusted
  noPhone : ∀ n, (computers n).pins.isPhoneKey (computers n.other).fingerprint = false

namespace PairedComputers

variable {paired : PairedComputers} {w w' : World} {n : Side} {c own : Connection}

theorem fingerprint_ne (n : Side) :
    (paired.computers n).fingerprint ≠ (paired.computers n.other).fingerprint := by
  cases n with
  | first => exact paired.distinct
  | second => exact paired.distinct.symm

/-- Exactly one of the two keeps its own dial. -/
theorem keepOwnDial_other (n : Side) :
    keepOwnDial (paired.computers n.other).fingerprint (paired.computers n).fingerprint =
      !keepOwnDial (paired.computers n).fingerprint (paired.computers n.other).fingerprint := by
  obtain less | greater := lt_or_gt_of_ne (@fingerprint_ne paired n)
  · simp [keepOwnDial, less, lt_asymm less]
  · simp [keepOwnDial, greater, lt_asymm greater]

variable (paired) in
/-- `keep_own_dial` at one of the two. -/
def keeps (n : Side) : Bool :=
  keepOwnDial (paired.computers n).fingerprint (paired.computers n.other).fingerprint

theorem keeps_other : paired.keeps n.other = !paired.keeps n := by
  have swapped := @keepOwnDial_other paired n
  simpa [keeps] using swapped

/-! What a node does with a connection of the other one, at each place of its loop. -/

section Peer

variable (foreign : c.dialer = n.other)
include foreign

omit foreign in
theorem peer_idle (idle : (w.node n).phase = .waiting none) :
    w.peer paired.computers n c = some (w.accept paired.computers n c) := by
  simp [World.peer, idle]

theorem peer_dialling (dialling : (w.node n).phase = .waiting (some own)) :
    w.peer paired.computers n c = some
      (if paired.keeps n then (w.rejectPeer n c duplicateSession duplicateMessage).duplicate c
      else ((w.close n own).duplicate own).accept paired.computers n c) := by
  by_cases keep : paired.keeps n = true
  · simp_all [World.peer, keeps]
  · simp_all [World.peer, keeps]

theorem peer_dialled (mine : own.dialer = n) (session : (w.node n).phase = .dialled own) :
    w.peer paired.computers n c = some
      (if paired.keeps n then (w.rejectPeer n c duplicateSession duplicateMessage).duplicate c
      else (w.replaceBy n c).duplicate own) := by
  by_cases keep : paired.keeps n = true
  · simp_all [World.peer, keeps]
  · simp_all [World.peer, keeps]

theorem peer_accepted (theirs : own.dialer = n.other)
    (session : (w.node n).phase = .accepted own) :
    w.peer paired.computers n c = some (w.replaceBy n c) := by
  simp [World.peer, session, isConnectedPeer, foreign, theirs]

end Peer

theorem peer_safe (safe : w.Safe paired.computers) (foreign : c.dialer = n.other)
    (offered : w.stage c = .offered) (taken : w.peer paired.computers n c = some w') :
    w'.Safe paired.computers := by
  have sound := safe.sound n
  have free : (w.node n).phase.session = none → (w.node n).replacement = none := by
    intro out
    cases waiting : (w.node n).replacement with
    | none => rfl
    | some r => exact absurd out (sound.waits waiting).2.2
  have rejected : paired.keeps n = true →
      ((w.rejectPeer n c duplicateSession duplicateMessage).duplicate c).Safe paired.computers := by
    intro keep
    refine (safe.rejectPeer offered foreign).duplicate ?_
    rw [foreign, Side.other_other]
    exact keep
  have yields : ∀ {own : Connection}, ¬ paired.keeps n = true → own.dialer = n →
      keepOwnDial (paired.computers own.dialer.other).fingerprint
        (paired.computers own.dialer).fingerprint = true := by
    intro own yielding mine
    rw [mine, keepOwnDial_other]
    simpa [keeps] using yielding
  cases phase : (w.node n).phase with
  | waiting dialing =>
    cases dialing with
    | none =>
      rw [peer_idle phase] at taken
      cases taken
      exact safe.accept ⟨foreign, .inl offered⟩ (free (by rw [phase]; rfl))
    | some own =>
      rw [peer_dialling foreign phase] at taken
      cases taken
      have mine := (sound.own (by rw [phase]; rfl)).1
      split
      next keep => exact rejected keep
      next yielding =>
        exact (safe.close.duplicate (yields yielding mine)).accept
          (by simpa [World.Safe.Open] using ⟨foreign, .inl offered⟩) (free (by rw [phase]; rfl))
  | setup incoming => simp [World.peer, phase] at taken
  | dialled own =>
    have mine := (sound.own (by rw [phase]; rfl)).1
    rw [peer_dialled foreign mine phase] at taken
    cases taken
    split
    next keep => exact rejected keep
    next yielding =>
      exact (safe.replaceBy offered foreign (by simp [phase, Phase.session])).duplicate
        (yields yielding mine)
  | accepted incoming =>
    have theirs := (sound.incoming (by rw [phase]; rfl)).1
    rw [peer_accepted foreign theirs phase] at taken
    cases taken
    exact safe.replaceBy offered foreign (by simp [phase, Phase.session])

theorem disconnect_safe (safe : w.Safe paired.computers)
    (executed : w.disconnect paired.computers n = some w') : w'.Safe paired.computers := by
  unfold World.disconnect at executed
  cases phase : (w.node n).phase with
  | waiting dialing =>
    have free : (w.node n).replacement = none := by
      cases waiting : (w.node n).replacement with
      | none => rfl
      | some r => simpa [phase, Phase.session] using ((safe.sound n).waits waiting).2.2
    cases dialing with
    | none =>
      simp only [phase] at executed
      cases executed
      exact safe.flags rfl rfl rfl
    | some own =>
      simp only [phase] at executed
      cases executed
      exact (safe.close.idle rfl (by simpa using free) rfl).flags rfl rfl rfl
  | setup incoming => simp [phase] at executed
  | dialled own =>
    simp only [phase] at executed
    cases executed
    exact (safe.close.flags rfl rfl rfl).leave
  | accepted incoming =>
    simp only [phase] at executed
    cases executed
    refine World.Safe.flags (World.Safe.idle (World.Safe.close ?_) rfl rfl rfl) rfl rfl rfl
    cases (w.node n).replacement with
    | none => exact safe
    | some waiting => exact safe.close

/-- Every turn keeps the invariant. -/
theorem exec_safe {action : NodeAction} (safe : w.Safe paired.computers)
    (executed : w.exec paired.computers n action = some w') : w'.Safe paired.computers := by
  have sound := safe.sound n
  have free : (w.node n).phase.session = none → (w.node n).replacement = none := by
    intro out
    cases waiting : (w.node n).replacement with
    | none => rfl
    | some r => exact absurd out (sound.waits waiting).2.2
  cases action with
  | dialDue =>
    simp only [World.exec] at executed
    split at executed
    next idle =>
      split at executed
      · cases executed
        exact safe.dial idle
      · cases executed
    · cases executed
  | peer c =>
    simp only [World.exec] at executed
    split at executed
    next waits => exact peer_safe safe waits.1 waits.2 executed
    · cases executed
  | helloRead =>
    simp only [World.exec] at executed
    split at executed
    next own dialling =>
      split at executed
      next answered =>
        cases executed
        exact safe.confirm dialling answered
      · cases executed
    · cases executed
  | dialFinished =>
    simp only [World.exec] at executed
    split at executed
    next own dialling =>
      split at executed
      next ready =>
        cases executed
        exact safe.connected dialling ready
      · cases executed
    · cases executed
  | dialFailed error =>
    simp only [World.exec] at executed
    split at executed
    next own dialling =>
      cases executed
      exact safe.close.idle rfl (by simpa using free (by rw [dialling]; rfl)) rfl
    · cases executed
  | setupFinished =>
    simp only [World.exec] at executed
    split at executed
    next c setup =>
      split at executed
      next confirmed =>
        cases executed
        exact safe.joined setup confirmed.1
      · cases executed
    · cases executed
  | setupFailed =>
    simp only [World.exec] at executed
    split at executed
    next c setup =>
      cases executed
      exact safe.close.idle rfl (by simpa using free (by rw [setup]; rfl)) rfl
    · cases executed
  | sessionEnded =>
    simp only [World.exec] at executed
    split at executed
    next c session =>
      cases executed
      exact safe.close.leave
    · cases executed
  | disconnect => exact disconnect_safe safe executed
  | reconnect =>
    simp only [World.exec, World.reconnect] at executed
    split at executed
    · cases executed
      exact safe.flags rfl rfl rfl
    · cases executed

/-- The two nodes in every state of a run. -/
theorem run_safe (run : (World.machine paired.computers).Run anyAction {} w) :
    w.Safe paired.computers :=
  run.invariant (fun _ _ _ _ executed safe => exec_safe safe executed) .start

end PairedComputers

/-! ## Without failures -/

/-- The other side has closed its end. -/
def World.cut (w : World) (n : Side) (c : Connection) : Bool :=
  if c.dialer = n then (w.link c).acceptorClosed else (w.link c).dialerClosed

/-- An action of a run in which nothing fails: a dial fails when the other side has turned it away
    or dropped it, an accepted connection when its dialer has dropped it, a session ends for a
    replacement or when the other side has closed the connection. -/
def faultless (w : World) : Side × NodeAction → Bool
  | (n, .dialFailed _) => (w.node n).phase.own.any (w.cut n)
  | (n, .setupFailed) => (w.node n).phase.incoming.any (w.cut n)
  | (n, .sessionEnded) =>
    (w.node n).replacement.isSome || (w.node n).phase.session.any (w.cut n)
  | (_, .disconnect) => false
  | _ => true

theorem World.closed_of_cut {w : World} {n : Side} {c : Connection} (cut : w.cut n c = true) :
    w.closed c = true := by
  unfold World.cut at cut
  split at cut
  · simp [World.closed, cut]
  · simp [World.closed, cut]

/-- What the dials of the lower key satisfy as long as nothing fails. -/
structure World.Kept (paired : PairedComputers) (w : World) : Prop where
  opened : ∀ c, paired.keeps c.dialer = true → w.closed c = false
  mine : ∀ c, paired.keeps c.dialer = true → w.stage c ≠ .unused →
    (w.node c.dialer).phase.own = some c
  enabled : ∀ n, (w.node n).connectionEnabled = true
  steady : ∀ n own, paired.keeps n = true → (w.node n).phase = .dialled own →
    (w.node n).replacement = none

namespace World.Kept

variable {paired : PairedComputers} {w w' : World} {n : Side} {c own : Connection}
  {code message : String}

theorem start : Kept paired {} where
  opened _ _ := rfl
  mine _ _ used := absurd rfl used
  enabled _ := rfl
  steady _ _ _ phase := by cases phase

/-- A turn of the node on side `n` that closes no dial of the lower key. -/
theorem turn (kept : w.Kept paired) (theirs : w'.node n.other = w.node n.other)
    (closed : ∀ c, paired.keeps c.dialer = true → w'.closed c = w.closed c)
    (used : ∀ c, c.dialer = n.other → w'.stage c ≠ .unused → w.stage c ≠ .unused)
    (enabled : (w'.node n).connectionEnabled = true)
    (mine : paired.keeps n = true → ∀ c, c.dialer = n → w'.stage c ≠ .unused →
      (w'.node n).phase.own = some c)
    (steady : ∀ own, paired.keeps n = true → (w'.node n).phase = .dialled own →
      (w'.node n).replacement = none) : w'.Kept paired where
  opened c lower := by
    rw [closed c lower]
    exact kept.opened c lower
  mine c lower use := by
    obtain same | other := Side.eq_or_other n c.dialer
    · rw [same] at lower ⊢
      exact mine lower c same use
    · have held := kept.mine c lower (used c other use)
      rw [other] at held ⊢
      rwa [theirs]
  enabled m := by
    obtain rfl | rfl := Side.eq_or_other n m
    · exact enabled
    · rw [theirs]
      exact kept.enabled _
  steady m own lower phase := by
    obtain rfl | rfl := Side.eq_or_other n m
    · exact steady own lower phase
    · rw [theirs] at phase ⊢
      exact kept.steady _ own lower phase

/-- A node of the lower key that dials nothing has never dialled. -/
theorem unused (kept : w.Kept paired) (lower : paired.keeps c.dialer = true)
    (undialled : (w.node c.dialer).phase.own = none) : w.stage c = .unused := by
  by_contra used
  rw [kept.mine c lower used] at undialled
  cases undialled

/-- The lower key dials once. -/
theorem unique {d : Connection} (kept : w.Kept paired) (lower : paired.keeps c.dialer = true)
    (same : d.dialer = c.dialer) (used : w.stage c ≠ .unused) (used' : w.stage d ≠ .unused) :
    d = c := by
  have first := kept.mine c lower used
  have second := kept.mine d (by rwa [same]) used'
  rw [same, first] at second
  exact (Option.some.inj second).symm

theorem close (kept : w.Kept paired) (higher : paired.keeps c.dialer = false) :
    (w.close n c).Kept paired where
  opened d lower := by
    have ne : d ≠ c := by
      rintro rfl
      simp [higher] at lower
    simpa [ne] using kept.opened d lower
  mine := by simpa using kept.mine
  enabled := kept.enabled
  steady := kept.steady

theorem duplicate (kept : w.Kept paired) : (w.duplicate c).Kept paired :=
  ⟨kept.opened, kept.mine, kept.enabled, kept.steady⟩

/-- A connection that comes further. -/
theorem setStage {next : Stage} (kept : w.Kept paired) (used : w.stage c ≠ .unused) :
    (w.setStage c next).Kept paired where
  opened := by simpa using kept.opened
  mine d lower use := by
    by_cases same : d = c
    · subst same
      exact kept.mine d lower used
    · exact kept.mine d lower (by simpa [same] using use)
  enabled := kept.enabled
  steady := kept.steady

theorem rejectPeer (kept : w.Kept paired) (used : w.stage c ≠ .unused)
    (higher : paired.keeps c.dialer = false) : (w.rejectPeer n c code message).Kept paired :=
  (kept.setStage used).close higher

/-- A phase without a dial, for a node of the lower key that has none. -/
theorem update {f : Node → Node} (kept : w.Kept paired)
    (enabled : (f (w.node n)).connectionEnabled = true)
    (own : paired.keeps n = true → (f (w.node n)).phase.own = (w.node n).phase.own)
    (steady : ∀ own, paired.keeps n = true → (f (w.node n)).phase = .dialled own →
      (f (w.node n)).replacement = none) : (w.update n f).Kept paired := by
  refine kept.turn (n := n) (by simp) (by simp) (by simp) (by simpa using enabled) ?_ ?_
  · intro lower c same use
    rw [World.node_update_self, own lower]
    have held := kept.mine c (by rwa [same]) use
    rwa [same] at held
  · intro own lower phase
    rw [World.node_update_self] at phase ⊢
    exact steady own lower phase

theorem accept (kept : w.Kept paired) (foreign : c.dialer = n.other)
    (used : w.stage c ≠ .unused)
    (undialled : paired.keeps n = true → (w.node n).phase.own = none) :
    (w.accept paired.computers n c).Kept paired := by
  have enabled := kept.enabled n
  have noPhone : (paired.computers n).pins.isPhoneKey (paired.computers c.dialer).fingerprint =
      false := by
    rw [foreign]
    exact paired.noPhone n
  unfold World.accept
  rw [if_neg (by simp [enabled]), if_neg (by simp [noPhone])]
  refine (kept.setStage used).update enabled ?_ ?_
  · intro lower
    simpa [Phase.own] using (undialled lower).symm
  · intro own _ phase
    cases phase

/-- The end of a session of a node that holds no dial of the lower key. -/
theorem leave (kept : w.Kept paired) (safe : w.Safe paired.computers)
    (undialled : paired.keeps n = true → (w.node n).phase.own = none) :
    (w.leave paired.computers n).Kept paired := by
  unfold World.leave
  cases waiting : (w.node n).replacement with
  | none =>
    refine kept.update (kept.enabled n) ?_ ?_
    · intro lower
      simpa [Phase.own] using (undialled lower).symm
    · intro own _ phase
      cases phase
  | some c =>
    obtain ⟨foreign, held, _⟩ := (safe.sound n).waits waiting
    have taken : (w.update n ({ · with replacement := none })).Kept paired := by
      refine kept.update (kept.enabled n) (fun _ => rfl) ?_
      intro own _ _
      rfl
    refine taken.accept foreign (by simp [held]) ?_
    simpa using undialled

/-- A node that does not keep a dial of its own makes room for the connection. -/
theorem replaceBy (kept : w.Kept paired) (safe : w.Safe paired.computers)
    (foreign : c.dialer = n.other) (offered : w.stage c = .offered)
    (undialled : paired.keeps n = true → (w.node n).phase.own = none) :
    (w.replaceBy n c).Kept paired := by
  have held : ∀ v : World, v.Kept paired → v.node = w.node → v.stage = w.stage →
      ((v.setStage c .held).update n ({ · with replacement := some c })).Kept paired := by
    intro v kept node same
    refine (kept.setStage (by simp [same, offered])).update (kept.enabled n) (fun _ => rfl) ?_
    intro own lower phase
    have dialled : (w.node n).phase = .dialled own := by rwa [World.node_setStage, node] at phase
    have undialled := undialled lower
    rw [dialled] at undialled
    cases undialled
  unfold World.replaceBy
  cases waiting : (w.node n).replacement with
  | none => exact held w kept rfl rfl
  | some r =>
    obtain ⟨theirs, still, _⟩ := (safe.sound n).waits waiting
    refine held _ (kept.close ?_) rfl (by simp)
    -- The lower key has only one dial, which is not both offered and held.
    by_contra lower
    have same := kept.unique (c := c) (d := r) (by simpa [foreign, theirs] using lower)
      (by rw [theirs, foreign]) (by simp [offered]) (by simp [still])
    rw [same, offered] at still
    cases still

theorem dial (kept : w.Kept paired) (idle : (w.node n).phase = .waiting none) : (w.dial n).Kept paired := by
  have mine : (w.dial n).node n = { w.node n with
      phase := .waiting (some (w.nextDial n)), dials := (w.node n).dials + 1 } := by
    simp [World.dial]
  have stage : (w.dial n).stage = Function.update w.stage (w.nextDial n) .offered := by
    simp [World.dial]
  refine kept.turn (n := n) (by simp [World.dial]) (by simp [World.dial]) ?_ ?_ ?_ ?_
  · intro c theirs use
    have ne : c ≠ w.nextDial n := by
      rintro rfl
      simp [World.nextDial] at theirs
    simpa [stage, ne] using use
  · rw [mine]
    exact kept.enabled n
  · intro lower c same use
    rw [mine]
    have unused := kept.unused (c := c) (by rwa [same]) (by rw [same, idle]; rfl)
    by_cases new : c = w.nextDial n
    · rw [new]
      rfl
    · simp [stage, new, unused] at use
  · intro own lower phase
    rw [mine] at phase
    cases phase

theorem peer (kept : w.Kept paired) (safe : w.Safe paired.computers)
    (foreign : c.dialer = n.other) (offered : w.stage c = .offered)
    (taken : w.peer paired.computers n c = some w') : w'.Kept paired := by
  have used : w.stage c ≠ .unused := by simp [offered]
  have higher : ∀ {own : Connection}, paired.keeps n = false → own.dialer = n →
      paired.keeps own.dialer = false := by
    rintro own yielding rfl
    exact yielding
  have theirs : paired.keeps n = true → paired.keeps c.dialer = false := by
    intro keep
    rw [foreign, PairedComputers.keeps_other, keep]
    rfl
  have sound := safe.sound n
  cases phase : (w.node n).phase with
  | waiting dialing =>
    cases dialing with
    | none =>
      rw [PairedComputers.peer_idle phase] at taken
      cases taken
      exact kept.accept foreign used fun _ => by rw [phase]; rfl
    | some own =>
      rw [PairedComputers.peer_dialling foreign phase] at taken
      cases taken
      have mine := (sound.own (by rw [phase]; rfl)).1
      split
      next keep => exact (kept.rejectPeer used (theirs keep)).duplicate
      next yielding =>
        have yielding : paired.keeps n = false := by simpa using yielding
        refine (kept.close (higher yielding mine)).duplicate.accept foreign (by simpa using used) ?_
        intro keep
        simp [keep] at yielding
  | setup incoming => simp [World.peer, phase] at taken
  | dialled own =>
    have mine := (sound.own (by rw [phase]; rfl)).1
    rw [PairedComputers.peer_dialled foreign mine phase] at taken
    cases taken
    split
    next keep => exact (kept.rejectPeer used (theirs keep)).duplicate
    next yielding =>
      refine (kept.replaceBy safe foreign offered ?_).duplicate
      intro keep
      exact absurd keep yielding
  | accepted incoming =>
    have incomes := (sound.incoming (by rw [phase]; rfl)).1
    rw [PairedComputers.peer_accepted foreign incomes phase] at taken
    cases taken
    exact kept.replaceBy safe foreign offered fun _ => by rw [phase]; rfl

/-- A session that ends without a failure is not one of a dial of the lower key. -/
theorem ended (kept : w.Kept paired) (safe : w.Safe paired.computers)
    (session : (w.node n).phase.session = some c)
    (ok : faultless w (n, .sessionEnded) = true) : paired.keeps c.dialer = false := by
  by_contra lower
  have lower : paired.keeps c.dialer = true := by simpa using lower
  have sound := safe.sound n
  have ready := sound.live session
  simp only [faultless, session, Option.any_some, Bool.or_eq_true] at ok
  obtain replaced | cut := ok
  · obtain ⟨r, waiting⟩ := Option.isSome_iff_exists.mp replaced
    obtain ⟨theirs, held, _⟩ := sound.waits waiting
    cases phase : (w.node n).phase with
    | waiting dialing => simp [phase, Phase.session] at session
    | setup incoming => simp [phase, Phase.session] at session
    | dialled own =>
      rw [phase] at session
      cases session
      have mine := (sound.own (by rw [phase]; rfl)).1
      rw [kept.steady n c (by rwa [mine] at lower) phase] at waiting
      cases waiting
    | accepted incoming =>
      rw [phase] at session
      cases session
      have incomes := (sound.incoming (by rw [phase]; rfl)).1
      have same := kept.unique lower (theirs.trans incomes.symm) (by simp [ready])
        (by simp [held])
      rw [same, ready] at held
      cases held
  · have closed := World.closed_of_cut cut
    rw [kept.opened c lower] at closed
    cases closed

theorem exec {action : NodeAction} (kept : w.Kept paired) (safe : w.Safe paired.computers)
    (ok : faultless w (n, action) = true)
    (executed : w.exec paired.computers n action = some w') : w'.Kept paired := by
  have sound := safe.sound n
  have higher : ∀ {c}, w.cut n c = true → paired.keeps c.dialer = false := by
    intro c cut
    by_contra lower
    have closed := World.closed_of_cut cut
    rw [kept.opened c (by simpa using lower)] at closed
    cases closed
  cases action with
  | dialDue =>
    simp only [World.exec] at executed
    split at executed
    next idle =>
      split at executed
      · cases executed
        exact kept.dial idle
      · cases executed
    · cases executed
  | peer c =>
    simp only [World.exec] at executed
    split at executed
    next waits => exact kept.peer safe waits.1 waits.2 executed
    · cases executed
  | helloRead =>
    simp only [World.exec] at executed
    split at executed
    next own dialling =>
      split at executed
      next answered =>
        cases executed
        have answered : w.stage own = .answered := answered
        exact kept.setStage (by simp [answered])
      · cases executed
    · cases executed
  | dialFinished =>
    simp only [World.exec] at executed
    split at executed
    next own dialling =>
      split at executed
      next ready =>
        cases executed
        refine kept.update (kept.enabled n) (fun _ => by simp [dialling, Phase.own]) ?_
        intro _ _ _
        cases waiting : (w.node n).replacement with
        | none => rfl
        | some r => simpa [dialling, Phase.session] using (sound.waits waiting).2.2
      · cases executed
    · cases executed
  | dialFailed error =>
    simp only [World.exec] at executed
    split at executed
    next own dialling =>
      cases executed
      have cut : w.cut n own = true := by simpa [faultless, dialling, Phase.own] using ok
      have mine := (sound.own (by rw [dialling]; rfl)).1
      have yielding := higher cut
      rw [mine] at yielding
      refine (kept.close (higher cut)).update (kept.enabled n) ?_ ?_
      · intro keep
        simp [keep] at yielding
      · intro _ keep
        simp [keep] at yielding
    · cases executed
  | setupFinished =>
    simp only [World.exec] at executed
    split at executed
    next c setup =>
      split at executed
      next confirmed =>
        cases executed
        have confirmed : w.stage c = .confirmed := confirmed.1
        refine (kept.setStage (by simp [confirmed])).update (kept.enabled n) ?_ ?_
        · intro _
          simp [setup, Phase.own]
        · intro _ _ phase
          cases phase
      · cases executed
    · cases executed
  | setupFailed =>
    simp only [World.exec] at executed
    split at executed
    next c setup =>
      cases executed
      have cut : w.cut n c = true := by simpa [faultless, setup, Phase.incoming] using ok
      refine (kept.close (higher cut)).update (kept.enabled n) ?_ ?_
      · intro _
        simp [setup, Phase.own]
      · intro _ _ phase
        cases phase
    · cases executed
  | sessionEnded =>
    simp only [World.exec] at executed
    split at executed
    next c session =>
      cases executed
      have ended := kept.ended safe session ok
      refine (kept.close ended).leave safe.close ?_
      intro keep
      cases phase : (w.node n).phase with
      | waiting dialing => simp [phase, Phase.session] at session
      | setup incoming => simp [phase, Phase.session] at session
      | dialled own =>
        rw [phase] at session
        cases session
        have mine := (sound.own (by rw [phase]; rfl)).1
        simp [mine, keep] at ended
      | accepted incoming => simp [phase, Phase.own]
    · cases executed
  | disconnect => cases ok
  | reconnect =>
    simp only [World.exec, World.reconnect] at executed
    split at executed
    next dialing waits =>
      cases executed
      refine kept.update rfl (fun _ => rfl) ?_
      intro _ _ phase
      simp [waits] at phase
    · cases executed

end World.Kept

/-- Along a run without failures. -/
theorem run_kept {paired : PairedComputers} {w : World}
    (run : (World.machine paired.computers).Run (fun w action => faultless w action = true) {} w) :
    w.Kept paired := by
  have both : w.Safe paired.computers ∧ w.Kept paired := by
    refine run.invariant (I := fun w => w.Safe paired.computers ∧ w.Kept paired) ?_
      ⟨.start, .start⟩
    rintro w ⟨n, action⟩ w' ok executed ⟨safe, kept⟩
    exact ⟨PairedComputers.exec_safe safe executed, kept.exec safe ok executed⟩
  exact both.2

/-- Two nodes that dial each other never give up both connections as duplicates, and when both
    are in a session they are in the two ends of the same connection, whatever fails. As long as
    nothing fails, no end of a dial of the lower key is closed. -/
theorem one_connection_survives (paired : PairedComputers) :
    (∀ w, (World.machine paired.computers).Run anyAction {} w →
      (∀ c d : Connection, c.dialer ≠ d.dialer → ¬ (c ∈ w.duplicates ∧ d ∈ w.duplicates)) ∧
      ∀ n c d, (w.node n).phase.session = some c → (w.node n.other).phase.session = some d →
        d = c ∧ (w.node c.dialer).phase = .dialled c ∧
          (w.node c.dialer.other).phase = .accepted c) ∧
    ∀ w, (World.machine paired.computers).Run (fun w action => faultless w action = true) {} w →
      ∀ c, keepOwnDial (paired.computers c.dialer).fingerprint
          (paired.computers c.dialer.other).fingerprint = true →
        (w.link c).dialerClosed = false ∧ (w.link c).acceptorClosed = false := by
  refine ⟨fun w run => ⟨?_, ?_⟩, ?_⟩
  · rintro c d differ ⟨first, second⟩
    have safe := PairedComputers.run_safe run
    have lower := safe.higher c first
    have lower' := safe.higher d second
    obtain same | other := Side.eq_or_other c.dialer d.dialer
    · exact differ same.symm
    · rw [other, Side.other_other] at lower'
      rw [PairedComputers.keepOwnDial_other] at lower
      simp [lower'] at lower
  · intro n c d mine theirs
    exact (PairedComputers.run_safe run).one_session mine theirs
  · intro w run c lower
    have opened := (run_kept run).opened c lower
    simpa [World.closed] using opened

/-- Two computers that have pinned each other. -/
def samplePair : PairedComputers where
  computers n :=
    if n = .first then
      { fingerprint := "aa:01", deviceName := "desk",
        pins := ({} : PinStore).pin "laptop" "bb:02" }
    else
      { fingerprint := "bb:02", deviceName := "laptop",
        pins := ({} : PinStore).pin "desk" "aa:01" }
  distinct := by decide
  pinned n := by cases n <;> decide +kernel
  noPhone n := by cases n <;> decide +kernel

/-- Both dial; the second computer takes the other connection while it waits for its own. -/
def doubleDial : List (Side × NodeAction) :=
  [(.first, .dialDue), (.second, .dialDue), (.first, .peer ⟨.second, 0⟩),
    (.second, .peer ⟨.first, 0⟩), (.first, .helloRead), (.second, .setupFinished),
    (.first, .dialFinished)]

theorem one_connection_survives_sample :
    let w := (World.machine samplePair.computers).reach {} doubleDial
    (w.node .first).phase.session = some ⟨.first, 0⟩ ∧ ⟨.second, 0⟩ ∈ w.duplicates ∧
      ⟨.first, 0⟩ ∉ w.duplicates ∧ (w.node .second).phase = .accepted ⟨.first, 0⟩ ∧
      (w.link ⟨.first, 0⟩).dialerClosed = false := by
  intro w
  have enabled : ((World.machine samplePair.computers).runList {} doubleDial).isSome := by
    decide +kernel
  have session : (w.node .first).phase.session = some ⟨.first, 0⟩ := by decide +kernel
  have session' : (w.node .second).phase.session = some ⟨.first, 0⟩ := by decide +kernel
  have dropped : ⟨.second, 0⟩ ∈ w.duplicates := by decide +kernel
  obtain ⟨always, faultlessly⟩ := one_connection_survives samplePair
  obtain ⟨neverBoth, oneSession⟩ := always w (run_reach doubleDial enabled)
  refine ⟨session, dropped, ?_, (oneSession .first _ _ session session').2.2, ?_⟩
  · exact fun both => neverBoth _ _ (by decide) ⟨both, dropped⟩
  · refine (faultlessly w ?_ _ (by decide +kernel)).1
    exact run_reach_of_allowedList _ (fun _ _ allowed => allowed) doubleDial (by decide +kernel)
      enabled

end EdgeKvm.Dialling
