import EdgeKvm.Dialling.Node

/-!
# One connection at a time

What two nodes that dial each other keep, whatever fails and whenever. `Apart` says which pairs
of phases exclude each other: a dial is only answered by a node that is then set up on it, so two
connections that both got as far as a session on one side are the same one.
-/

namespace EdgeKvm.Dialling

open EdgeKvm.Lib Machine
open EdgeKvm.Pairing (PinStore)

/-! ## What the parts of a turn change -/

/-- The stages of all connections. -/
def World.stage (w : World) (c : Connection) : Stage := (w.link c).stage

namespace World

variable {w : World} {n m : Side} {c d : Connection} {f : Node → Node} {phase : Phase}
  {stage : Stage} {code message : String}

theorem node_update : (w.update n f).node m = if m = n then f (w.node n) else w.node m := by
  by_cases same : m = n
  · subst same
    simp [update]
  · simp [update, same]

@[simp] theorem node_update_self : (w.update n f).node n = f (w.node n) := by simp [node_update]

@[simp] theorem node_update_other : (w.update n f).node n.other = w.node n.other := by
  simp [node_update]

@[simp] theorem stage_update : (w.update n f).stage = w.stage := rfl

@[simp] theorem duplicates_update : (w.update n f).duplicates = w.duplicates := rfl

@[simp] theorem node_enter_self : (w.enter n phase).node n = { w.node n with phase } :=
  node_update_self

@[simp] theorem node_enter_other : (w.enter n phase).node n.other = w.node n.other :=
  node_update_other

@[simp] theorem stage_enter : (w.enter n phase).stage = w.stage := rfl

@[simp] theorem duplicates_enter : (w.enter n phase).duplicates = w.duplicates := rfl

@[simp] theorem node_setStage : (w.setStage c stage).node = w.node := rfl

@[simp] theorem stage_setStage :
    (w.setStage c stage).stage = Function.update w.stage c stage := by
  funext d
  by_cases same : d = c
  · subst same
    simp [World.stage, setStage]
  · simp [World.stage, setStage, same]

@[simp] theorem duplicates_setStage : (w.setStage c stage).duplicates = w.duplicates := rfl

@[simp] theorem node_close : (w.close n c).node = w.node := rfl

@[simp] theorem stage_close : (w.close n c).stage = w.stage := by
  funext d
  by_cases same : d = c
  · subst same
    by_cases dialled : d.dialer = n <;> simp [World.stage, close, dialled]
  · simp [World.stage, close, same]

@[simp] theorem duplicates_close : (w.close n c).duplicates = w.duplicates := rfl

@[simp] theorem node_duplicate : (w.duplicate c).node = w.node := rfl

@[simp] theorem stage_duplicate : (w.duplicate c).stage = w.stage := rfl

@[simp] theorem mem_duplicate : d ∈ (w.duplicate c).duplicates ↔ d = c ∨ d ∈ w.duplicates :=
  List.mem_cons

@[simp] theorem node_rejectPeer : (w.rejectPeer n c code message).node = w.node := rfl

@[simp] theorem stage_rejectPeer : (w.rejectPeer n c code message).stage =
    Function.update w.stage c (.refused code message) := by
  simp [rejectPeer]

@[simp] theorem duplicates_rejectPeer :
    (w.rejectPeer n c code message).duplicates = w.duplicates := rfl

/-- One of the ends of the connection is closed. -/
def closed (w : World) (c : Connection) : Bool :=
  (w.link c).dialerClosed || (w.link c).acceptorClosed

@[simp] theorem closed_update : (w.update n f).closed = w.closed := rfl

@[simp] theorem closed_enter : (w.enter n phase).closed = w.closed := rfl

@[simp] theorem closed_setStage : (w.setStage c stage).closed = w.closed := by
  funext d
  by_cases same : d = c
  · subst same
    simp [closed, setStage]
  · simp [closed, setStage, same]

@[simp] theorem closed_close : (w.close n c).closed d = (d = c || w.closed d) := by
  by_cases same : d = c
  · subst same
    by_cases dialled : d.dialer = n <;> simp [closed, close, dialled]
  · simp [closed, close, same]

@[simp] theorem closed_duplicate : (w.duplicate c).closed = w.closed := rfl

@[simp] theorem closed_rejectPeer :
    (w.rejectPeer n c code message).closed d = (d = c || w.closed d) := by
  simp [rejectPeer]

end World

/-! ## Two phases at once -/

variable {stage stage' : Connection → Stage} {p q : Phase} {c d : Connection} {n : Side}
  {node : Node}

/-- What the phases of two nodes exclude: two dials that were both answered; a dial that was
    answered while the other side is set up on another connection; two connections set up. -/
structure Apart (stage : Connection → Stage) (p q : Phase) : Prop where
  dials : ∀ {c d}, p.own = some c → q.own = some d →
    ¬ ((stage c).isTaken = true ∧ (stage d).isTaken = true)
  left : ∀ {c d}, p.own = some c → q.incoming = some d → c ≠ d →
    ¬ ((stage c).isTaken = true ∧ (stage d).isConfirmed = true)
  right : ∀ {c d}, q.own = some c → p.incoming = some d → c ≠ d →
    ¬ ((stage c).isTaken = true ∧ (stage d).isConfirmed = true)
  accepts : ∀ {c d}, p.incoming = some c → q.incoming = some d →
    ¬ ((stage c).isConfirmed = true ∧ (stage d).isConfirmed = true)

namespace Apart

theorem symm (apart : Apart stage p q) : Apart stage q p where
  dials own own' both := apart.dials own' own both.symm
  left := apart.right
  right := apart.left
  accepts incoming incoming' both := apart.accepts incoming' incoming both.symm

/-- The exclusions stay when no connection comes further. -/
theorem mono {p' : Phase} (apart : Apart stage p q) (own : p'.own = p.own)
    (incoming : p'.incoming = p.incoming)
    (taken : ∀ c, (stage' c).isTaken = true → (stage c).isTaken = true)
    (confirmed : ∀ c, (stage' c).isConfirmed = true → (stage c).isConfirmed = true) :
    Apart stage' p' q where
  dials h h' both := apart.dials (own ▸ h) h' ⟨taken _ both.1, taken _ both.2⟩
  left h h' ne both := apart.left (own ▸ h) h' ne ⟨taken _ both.1, confirmed _ both.2⟩
  right h h' ne both := apart.right h (incoming ▸ h') ne ⟨taken _ both.1, confirmed _ both.2⟩
  accepts h h' both := apart.accepts (incoming ▸ h) h' ⟨confirmed _ both.1, confirmed _ both.2⟩

theorem of_idle : Apart stage (.waiting none) q where
  dials own := by simp [Phase.own] at own
  left own := by simp [Phase.own] at own
  right _ incoming := by simp [Phase.incoming] at incoming
  accepts incoming := by simp [Phase.incoming] at incoming

/-- A connection that was just answered is not confirmed. -/
theorem of_setup (answered : (stage c).isConfirmed = false) : Apart stage (.setup c) q where
  dials own := by simp [Phase.own] at own
  left own := by simp [Phase.own] at own
  right _ incoming _ both := by
    cases incoming
    simp [answered] at both
  accepts incoming _ both := by
    cases incoming
    simp [answered] at both

/-- A new dial has not been answered. -/
theorem of_dial (offered : (stage c).isTaken = false) : Apart stage (.waiting (some c)) q where
  dials own _ both := by
    cases own
    simp [offered] at both
  left own _ _ both := by
    cases own
    simp [offered] at both
  right _ incoming := by simp [Phase.incoming] at incoming
  accepts incoming := by simp [Phase.incoming] at incoming

/-- The dialling side goes on with a connection that was answered. -/
theorem confirm (apart : Apart stage (.waiting (some c)) q) (answered : stage c = .answered)
    (foreign : q.own ≠ some c) :
    Apart (Function.update stage c .confirmed) (.waiting (some c)) q where
  dials := by
    intro _ d held own both
    cases held
    have other : d ≠ c := fun same => foreign (same ▸ own)
    refine apart.dials rfl own ⟨by simp [answered, Stage.isTaken], ?_⟩
    simpa [other] using both.2
  left := by
    intro _ d held incoming ne both
    cases held
    refine apart.left rfl incoming ne ⟨by simp [answered, Stage.isTaken], ?_⟩
    simpa [ne.symm] using both.2
  right _ incoming := by simp [Phase.incoming] at incoming
  accepts incoming := by simp [Phase.incoming] at incoming

end Apart

/-! ## One node -/

/-- What one node and the connections it holds satisfy. -/
structure Node.Sound (stage : Connection → Stage) (n : Side) (node : Node) : Prop where
  own : ∀ {c}, node.phase.own = some c → c.dialer = n ∧ c.number < node.dials
  incoming : ∀ {c}, node.phase.incoming = some c →
    c.dialer = n.other ∧ (stage c).isTaken = true
  waits : ∀ {c}, node.replacement = some c →
    c.dialer = n.other ∧ stage c = .held ∧ node.phase.session ≠ none
  live : ∀ {c}, node.phase.session = some c → stage c = .ready

/-- The connections of the node on side `n` stay where they are, or come further. -/
structure Keeps (n : Side) (stage stage' : Connection → Stage) : Prop where
  taken : ∀ c, (stage c).isTaken = true → (stage' c).isTaken = true
  held : ∀ c, c.dialer = n.other → stage c = .held → stage' c = .held
  ready : ∀ c, stage c = .ready → stage' c = .ready

theorem Node.Sound.keep (sound : node.Sound stage n) (keeps : Keeps n stage stage') :
    node.Sound stage' n where
  own := sound.own
  incoming held := ⟨(sound.incoming held).1, keeps.taken _ (sound.incoming held).2⟩
  waits held :=
    have ⟨foreign, waiting, inSession⟩ := sound.waits held
    ⟨foreign, keeps.held _ foreign waiting, inSession⟩
  live held := keeps.ready _ (sound.live held)

theorem Keeps.refl : Keeps n stage stage := ⟨fun _ => id, fun _ _ => id, fun _ => id⟩

/-- One connection changes, which the node holds neither as a replacement nor open. -/
theorem Keeps.update {next : Stage}
    (taken : (stage c).isTaken = true → next.isTaken = true)
    (held : c.dialer = n.other → stage c ≠ .held) (ready : stage c ≠ .ready) :
    Keeps n stage (Function.update stage c next) where
  taken d := by
    by_cases same : d = c
    · subst same
      simpa using taken
    · simp [same]
  held d foreign waiting := by
    have ne : d ≠ c := fun same => held (same ▸ foreign) (same ▸ waiting)
    simp [ne, waiting]
  ready d open_ := by
    have ne : d ≠ c := fun same => ready (same ▸ open_)
    simp [ne, open_]

/-! ## The invariant -/

/-- What two nodes and their connections satisfy in every run. -/
structure World.Safe (computers : Side → Computer) (w : World) : Prop where
  sound : ∀ n, (w.node n).Sound w.stage n
  apart : ∀ n, Apart w.stage (w.node n).phase (w.node n.other).phase
  fresh : ∀ c, (w.node c.dialer).dials ≤ c.number → w.stage c = .unused
  /-- Only dials of the higher key are given up as duplicates. -/
  higher : ∀ c ∈ w.duplicates,
    keepOwnDial (computers c.dialer.other).fingerprint (computers c.dialer).fingerprint = true

namespace World.Safe

variable {computers : Side → Computer} {w w' : World} {own : Connection} {code message : String}

theorem start : Safe computers {} where
  sound n :=
    { own := by simp [Phase.own]
      incoming := by simp [Phase.incoming]
      waits := by simp
      live := by simp [Phase.session] }
  apart n := .of_idle
  fresh c _ := rfl
  higher := by simp

/-- A turn of one node. -/
theorem turn (safe : w.Safe computers) (theirs : w'.node n.other = w.node n.other)
    (sound : (w'.node n).Sound w'.stage n) (keeps : Keeps n.other w.stage w'.stage)
    (apart : Apart w'.stage (w'.node n).phase (w.node n.other).phase)
    (dials : (w.node n).dials ≤ (w'.node n).dials)
    (fresh : ∀ c, w'.stage c ≠ w.stage c → c.number < (w'.node c.dialer).dials)
    (higher : ∀ c ∈ w'.duplicates, keepOwnDial (computers c.dialer.other).fingerprint
      (computers c.dialer).fingerprint = true) : w'.Safe computers where
  sound m := by
    obtain rfl | rfl := Side.eq_or_other n m
    · exact sound
    · rw [theirs]
      exact (safe.sound _).keep keeps
  apart m := by
    obtain rfl | rfl := Side.eq_or_other n m
    · rw [theirs]
      exact apart
    · rw [theirs, Side.other_other]
      exact apart.symm
  fresh c unreached := by
    by_cases changed : w'.stage c = w.stage c
    · rw [changed]
      refine safe.fresh c (Nat.le_trans ?_ unreached)
      obtain same | other := Side.eq_or_other n c.dialer
      · rw [same]
        exact dials
      · rw [other, theirs]
    · exact absurd (fresh c changed) (Nat.not_lt.mpr unreached)
  higher := higher

theorem reached (safe : w.Safe computers) (used : w.stage c ≠ .unused) :
    c.number < (w.node c.dialer).dials :=
  Nat.not_le.mp fun unreached => used (safe.fresh c unreached)

/-- The other fields of a node do not matter. -/
theorem flags {f : Node → Node} (safe : w.Safe computers)
    (phase : (f (w.node n)).phase = (w.node n).phase)
    (replacement : (f (w.node n)).replacement = (w.node n).replacement)
    (dials : (f (w.node n)).dials = (w.node n).dials) : (w.update n f).Safe computers := by
  have sound := safe.sound n
  refine safe.turn (n := n) ?_ ?_ .refl ?_ ?_ ?_ safe.higher
  · simp
  · rw [World.node_update_self, World.stage_update]
    exact ⟨by simpa only [phase, dials] using @sound.own,
      by simpa only [phase] using @sound.incoming,
      by simpa only [phase, replacement] using @sound.waits, by simpa only [phase] using @sound.live⟩
  · simpa [phase] using safe.apart n
  · simp [dials]
  · simp

theorem close (safe : w.Safe computers) : (w.close n c).Safe computers where
  sound := by simpa using safe.sound
  apart := by simpa using safe.apart
  fresh := by simpa using safe.fresh
  higher := safe.higher

theorem duplicate (safe : w.Safe computers)
    (higher : keepOwnDial (computers c.dialer.other).fingerprint
      (computers c.dialer).fingerprint = true) : (w.duplicate c).Safe computers where
  sound := safe.sound
  apart := safe.apart
  fresh := safe.fresh
  higher d member := by
    obtain rfl | earlier := World.mem_duplicate.mp member
    · exact higher
    · exact safe.higher d earlier

/-- A node outside of every dial and session. -/
theorem idle {f : Node → Node} (safe : w.Safe computers)
    (phase : (f (w.node n)).phase = .waiting none)
    (replacement : (f (w.node n)).replacement = none)
    (dials : (f (w.node n)).dials = (w.node n).dials) : (w.update n f).Safe computers := by
  refine safe.turn (n := n) ?_ ?_ .refl ?_ ?_ ?_ safe.higher
  · simp
  · rw [World.node_update_self]
    exact ⟨by simp [phase, Phase.own], by simp [phase, Phase.incoming], by simp [replacement],
      by simp [phase, Phase.session]⟩
  · rw [World.node_update_self, phase]
    exact .of_idle
  · simp [dials]
  · simp

/-- A connection that waits for the node on side `n`, for its loop or as a replacement. -/
def Open (w : World) (n : Side) (c : Connection) : Prop :=
  c.dialer = n.other ∧ (w.stage c = .offered ∨ w.stage c = .held)

theorem Open.not_taken (opened : Open w n c) : (w.stage c).isTaken = false := by
  obtain ⟨_, offered | held⟩ := opened
  · simp [offered, Stage.isTaken]
  · simp [held, Stage.isTaken]

theorem Open.used (opened : Open w n c) : w.stage c ≠ .unused := by
  obtain ⟨_, offered | held⟩ := opened
  · simp [offered]
  · simp [held]

/-- The other side holds on to what it holds when a connection that waits here changes. -/
theorem Open.keeps {next : Stage} (opened : Open w n c) :
    Keeps n.other w.stage (Function.update w.stage c next) := by
  refine Keeps.update (fun taken => ?_) (fun own => ?_) fun ready => ?_
  · simp [opened.not_taken] at taken
  · rw [opened.1] at own
    simp at own
  · have taken := opened.not_taken
    simp [ready, Stage.isTaken] at taken

/-- A turn in which the node decides on a connection that waits for it. -/
theorem settle {next : Stage} (safe : w.Safe computers) (opened : Open w n c)
    (stage : w'.stage = Function.update w.stage c next)
    (theirs : w'.node n.other = w.node n.other) (dials : (w'.node n).dials = (w.node n).dials)
    (sound : (w'.node n).Sound w'.stage n)
    (apart : Apart w'.stage (w'.node n).phase (w.node n.other).phase)
    (duplicates : w'.duplicates = w.duplicates) : w'.Safe computers := by
  refine safe.turn theirs sound ?_ apart (Nat.le_of_eq dials.symm) ?_ ?_
  · rw [stage]
    exact opened.keeps
  · intro d changed
    have same : d = c := by
      by_contra other
      simp [stage, other] at changed
    subst same
    have reached := safe.reached opened.used
    rw [opened.1] at reached ⊢
    rwa [theirs]
  · rw [duplicates]
    exact safe.higher

theorem rejectPeer (safe : w.Safe computers) (offered : w.stage c = .offered)
    (foreign : c.dialer = n.other) : (w.rejectPeer n c code message).Safe computers := by
  have opened : Open w n c := ⟨foreign, .inl offered⟩
  refine safe.settle opened World.stage_rejectPeer rfl rfl ?_ ?_ rfl
  · rw [World.node_rejectPeer, World.stage_rejectPeer]
    refine (safe.sound n).keep (Keeps.update (fun taken => ?_) (fun _ => ?_) ?_)
    · simp [opened.not_taken] at taken
    · simp [offered]
    · simp [offered]
  · refine (safe.apart n).mono rfl rfl (fun d => ?_) fun d => ?_
    · by_cases same : d = c <;> simp [same, Stage.isTaken]
    · by_cases same : d = c <;> simp [same, Stage.isConfirmed]

/-- What follows the `select!`, for a node that holds no replacement. -/
theorem accept (safe : w.Safe computers) (opened : Open w n c)
    (free : (w.node n).replacement = none) : (w.accept computers n c).Safe computers := by
  have refused : ∀ code message,
      ((w.rejectPeer n c code message).enter n (.waiting none)).Safe computers := by
    intro code message
    have stage : ((w.rejectPeer n c code message).enter n (.waiting none)).stage =
        Function.update w.stage c (.refused code message) := by simp
    refine safe.settle opened stage (by simp) (by simp) ?_ ?_ (by simp)
    · rw [World.node_enter_self]
      exact ⟨by simp [Phase.own], by simp [Phase.incoming], by simp [free],
        by simp [Phase.session]⟩
    · rw [World.node_enter_self]
      exact .of_idle
  unfold World.accept
  split
  · exact refused _ _
  · split
    · exact refused _ _
    · have stage : ((w.setStage c .answered).enter n (.setup c)).stage =
          Function.update w.stage c .answered := by simp
      refine safe.settle opened stage (by simp) (by simp) ?_ ?_ (by simp)
      · rw [World.node_enter_self]
        refine ⟨by simp [Phase.own], ?_, by simp [free], by simp [Phase.session]⟩
        intro d held
        cases held
        exact ⟨opened.1, by simp [Stage.isTaken]⟩
      · rw [World.node_enter_self]
        exact .of_setup (by simp [Stage.isConfirmed])

/-- `replacement.take()`, whatever becomes of the connection. -/
theorem forget (safe : w.Safe computers) :
    (w.update n ({ · with replacement := none })).Safe computers := by
  have sound := safe.sound n
  refine safe.turn (n := n) (by simp) ?_ .refl ?_ (by simp) (by simp) safe.higher
  · rw [World.node_update_self]
    exact ⟨sound.own, sound.incoming, by simp, sound.live⟩
  · simpa using safe.apart n

/-- The end of a session. -/
theorem leave (safe : w.Safe computers) : (w.leave computers n).Safe computers := by
  unfold World.leave
  cases waiting : (w.node n).replacement with
  | none => exact safe.idle rfl waiting rfl
  | some c =>
    obtain ⟨foreign, held, _⟩ := (safe.sound n).waits waiting
    exact safe.forget.accept ⟨foreign, .inr held⟩ (by simp)

/-- A session the connection will take over. -/
theorem replaceBy (safe : w.Safe computers) (offered : w.stage c = .offered)
    (foreign : c.dialer = n.other) (inSession : (w.node n).phase.session ≠ none) :
    (w.replaceBy n c).Safe computers := by
  have opened : Open w n c := ⟨foreign, .inl offered⟩
  have held : ∀ v : World, v.Safe computers → v.node = w.node → v.stage = w.stage →
      ((v.setStage c .held).update n ({ · with replacement := some c })).Safe computers := by
    intro v safe node same
    have opened : Open v n c := by rwa [Open, same]
    have stage : ((v.setStage c .held).update n ({ · with replacement := some c })).stage =
        Function.update v.stage c .held := by simp
    have keeps : Keeps n v.stage (Function.update v.stage c .held) := by
      refine Keeps.update (fun taken => ?_) (fun _ => ?_) ?_
      · simp [opened.not_taken] at taken
      · simp [same, offered]
      · simp [same, offered]
    have sound := (safe.sound n).keep keeps
    refine safe.settle opened stage (by simp) (by simp) ?_ ?_ (by simp)
    · rw [World.node_update_self, stage]
      refine ⟨sound.own, sound.incoming, ?_, sound.live⟩
      intro d waiting
      cases waiting
      exact ⟨foreign, by simp, by simpa [node] using inSession⟩
    · rw [World.node_update_self, stage]
      refine (safe.apart n).mono rfl rfl (fun d => ?_) fun d => ?_
      · by_cases same : d = c <;> simp [same, Stage.isTaken]
      · by_cases same : d = c <;> simp [same, Stage.isConfirmed]
  unfold World.replaceBy
  cases (w.node n).replacement with
  | none => exact held w safe rfl rfl
  | some waiting => exact held _ safe.close rfl (by simp)

/-- A new `DialAttempt`. -/
theorem dial (safe : w.Safe computers) (idle : (w.node n).phase = .waiting none) :
    (w.dial n).Safe computers := by
  have unused : w.stage (w.nextDial n) = .unused := safe.fresh _ (Nat.le_refl _)
  have stage : (w.dial n).stage = Function.update w.stage (w.nextDial n) .offered := by
    simp [World.dial]
  have free : (w.node n).replacement = none := by
    cases waiting : (w.node n).replacement with
    | none => rfl
    | some c => simpa [idle, Phase.session] using ((safe.sound n).waits waiting).2.2
  have mine : (w.dial n).node n = { w.node n with
      phase := .waiting (some (w.nextDial n)), dials := (w.node n).dials + 1 } := by
    simp [World.dial]
  refine safe.turn (n := n) (by simp [World.dial]) ?_ ?_ ?_ ?_ ?_ safe.higher
  · rw [mine]
    refine ⟨?_, by simp [Phase.incoming], by simp [free], by simp [Phase.session]⟩
    intro c held
    cases held
    exact ⟨rfl, Nat.lt_succ_self _⟩
  · rw [stage]
    refine Keeps.update (fun taken => ?_) (fun _ => ?_) ?_
    · simp [unused, Stage.isTaken] at taken
    · simp [unused]
    · simp [unused]
  · rw [mine, stage]
    exact .of_dial (by simp [Stage.isTaken])
  · rw [mine]
    exact Nat.le_succ _
  · intro c changed
    have same : c = w.nextDial n := by
      by_contra other
      simp [stage, other] at changed
    rw [same]
    change (w.node n).dials < ((w.dial n).node n).dials
    rw [mine]
    exact Nat.lt_succ_self _

/-- The dialling side sends its pairing status. -/
theorem confirm (safe : w.Safe computers) (dialling : (w.node n).phase = .waiting (some c))
    (answered : w.stage c = .answered) : (w.setStage c .confirmed).Safe computers := by
  have keeps : ∀ m, Keeps m w.stage (Function.update w.stage c .confirmed) := fun m =>
    Keeps.update (fun _ => rfl) (by simp [answered]) (by simp [answered])
  refine safe.turn (n := n) rfl ?_ ?_ ?_ (Nat.le_refl _) ?_ safe.higher
  · rw [World.stage_setStage]
    exact (safe.sound n).keep (keeps n)
  · rw [World.stage_setStage]
    exact keeps n.other
  · have mine := (safe.sound n).own (by rw [dialling]; rfl)
    have apart := safe.apart n
    rw [World.stage_setStage, World.node_setStage, dialling]
    rw [dialling] at apart
    refine apart.confirm answered fun theirs => ?_
    have foreign := ((safe.sound n.other).own theirs).1
    simp [mine.1] at foreign
  · intro d changed
    have same : d = c := by
      by_contra other
      simp [other] at changed
    rw [same]
    exact safe.reached (by simp [answered])

/-- The session of a dial. -/
theorem connected (safe : w.Safe computers) (dialling : (w.node n).phase = .waiting (some c))
    (ready : w.stage c = .ready) : (w.enter n (.dialled c)).Safe computers := by
  have sound := safe.sound n
  have mine := sound.own (by rw [dialling]; rfl)
  refine safe.turn (n := n) (by simp) ?_ .refl ?_ (by simp) (by simp) safe.higher
  · rw [World.node_enter_self]
    refine ⟨?_, by simp [Phase.incoming], ?_, ?_⟩
    · intro d held
      cases held
      exact mine
    · intro d waiting
      have inSession := (sound.waits waiting).2.2
      simp [dialling, Phase.session] at inSession
    · intro d held
      cases held
      exact ready
  · rw [World.node_enter_self]
    refine (safe.apart n).mono ?_ ?_ (fun _ => id) fun _ => id
    · rw [dialling]
      rfl
    · rw [dialling]
      rfl

/-- The session of an accepted connection. -/
theorem joined (safe : w.Safe computers) (setup : (w.node n).phase = .setup c)
    (confirmed : w.stage c = .confirmed) :
    ((w.setStage c .ready).enter n (.accepted c)).Safe computers := by
  have sound := safe.sound n
  have mine := sound.incoming (by rw [setup]; rfl)
  have keeps : ∀ m, Keeps m w.stage (Function.update w.stage c .ready) := fun m =>
    Keeps.update (fun _ => rfl) (by simp [confirmed]) (by simp [confirmed])
  refine safe.turn (n := n) (by simp) ?_ ?_ ?_ (by simp) ?_ safe.higher
  · rw [World.node_enter_self, World.node_setStage, World.stage_enter, World.stage_setStage]
    refine ⟨by simp [Phase.own], ?_, ?_, ?_⟩
    · intro d held
      cases held
      exact ⟨mine.1, by simp [Stage.isTaken]⟩
    · intro d waiting
      have inSession := (sound.waits waiting).2.2
      simp [setup, Phase.session] at inSession
    · intro d held
      cases held
      simp
  · rw [World.stage_enter, World.stage_setStage]
    exact keeps n.other
  · rw [World.node_enter_self, World.stage_enter, World.stage_setStage]
    refine (safe.apart n).mono ?_ ?_ (fun d => ?_) fun d => ?_
    · rw [setup]
      rfl
    · rw [setup]
      rfl
    · by_cases same : d = c
      · subst same
        simp [confirmed, Stage.isTaken]
      · simp [same]
    · by_cases same : d = c
      · subst same
        simp [confirmed, Stage.isConfirmed]
      · simp [same]
  · intro d changed
    have same : d = c := by
      by_contra other
      simp [other] at changed
    subst same
    have reached := safe.reached (c := d) (by simp [confirmed])
    rw [mine.1] at reached ⊢
    simpa using reached

end World.Safe

namespace World.Safe

variable {computers : Side → Computer} {w : World} {n : Side} {c d : Connection}

/-- A session of a dial and a session of an accepted connection. -/
theorem ends (safe : w.Safe computers) (mine : (w.node n).phase = .dialled c)
    (theirs : (w.node n.other).phase = .accepted d) : d = c ∧ c.dialer = n := by
  have ready := (safe.sound n).live (c := c) (by rw [mine]; rfl)
  have ready' := (safe.sound n.other).live (c := d) (by rw [theirs]; rfl)
  have own : (w.node n).phase.own = some c := by rw [mine]; rfl
  have incoming : (w.node n.other).phase.incoming = some d := by rw [theirs]; rfl
  refine ⟨?_, ((safe.sound n).own own).1⟩
  by_contra ne
  apply (safe.apart n).left own incoming (Ne.symm ne)
  simp [ready, ready', Stage.isTaken, Stage.isConfirmed]

/-- Two nodes in sessions are in the two ends of one connection. -/
theorem one_session (safe : w.Safe computers) (mine : (w.node n).phase.session = some c)
    (theirs : (w.node n.other).phase.session = some d) :
    d = c ∧ (w.node c.dialer).phase = .dialled c ∧
      (w.node c.dialer.other).phase = .accepted c := by
  have ready := (safe.sound n).live mine
  have ready' := (safe.sound n.other).live theirs
  have apart := safe.apart n
  cases phase : (w.node n).phase with
  | waiting dialing => simp [phase, Phase.session] at mine
  | setup incoming => simp [phase, Phase.session] at mine
  | dialled own =>
    rw [phase] at mine
    cases mine
    cases phase' : (w.node n.other).phase with
    | waiting dialing => simp [phase', Phase.session] at theirs
    | setup incoming => simp [phase', Phase.session] at theirs
    | dialled own' =>
      rw [phase'] at theirs
      cases theirs
      exfalso
      refine apart.dials (by rw [phase]; rfl) (by rw [phase']; rfl) ?_
      simp [ready, ready', Stage.isTaken]
    | accepted incoming =>
      rw [phase'] at theirs
      cases theirs
      obtain ⟨rfl, rfl⟩ := safe.ends phase phase'
      exact ⟨rfl, phase, phase'⟩
  | accepted incoming =>
    rw [phase] at mine
    cases mine
    cases phase' : (w.node n.other).phase with
    | waiting dialing => simp [phase', Phase.session] at theirs
    | setup incoming => simp [phase', Phase.session] at theirs
    | dialled own' =>
      rw [phase'] at theirs
      cases theirs
      obtain ⟨rfl, dialled⟩ := safe.ends phase' (by rwa [Side.other_other])
      rw [dialled, Side.other_other]
      exact ⟨rfl, phase', phase⟩
    | accepted incoming' =>
      rw [phase'] at theirs
      cases theirs
      exfalso
      refine apart.accepts (by rw [phase]; rfl) (by rw [phase']; rfl) ?_
      simp [ready, ready', Stage.isConfirmed]

end World.Safe

end EdgeKvm.Dialling
