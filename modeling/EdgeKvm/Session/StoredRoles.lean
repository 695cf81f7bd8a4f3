import EdgeKvm.Session.Handover
import EdgeKvm.Session.StoredTurns

/-!
# The stored roles

Each side stores the role it is to take up after a restart. The connector commits a handover in
memory and stores it when the listener has confirmed that it stored it too, so the two files differ
only while a confirmation is on its way.
-/

namespace EdgeKvm.Session

open EdgeKvm.Lib Handler Machine

/-! ## Frames on their way -/

theorem accepted_signals {frames : List Frame} {epoch : Nat} :
    accepted (frames.filter (·.isSignal)) epoch = accepted frames epoch := by
  unfold accepted
  rw [List.any_filter]
  refine congrArg (List.any frames) (funext fun frame => ?_)
  split
  · rfl
  · exact Bool.and_false _

theorem accepted_sent {out : List Effect} {epoch : Nat} :
    accepted (sent out) epoch = accepted (signals out) epoch := accepted_signals.symm

/-- A listener says that it is ready when it takes a `Prepare`, and for that epoch. -/
theorem ListenerCore.Turned.accepts {k k' : ListenerCore} {released : Prop} {event : ListenerEvent}
    {out : List Effect} {epoch : Nat} (turned : k.Turned released event (.ok ()) k' out)
    (accepts : accepted (signals out) epoch = true) :
    ∃ prepare, event = .frame (.role (.prepare prepare)) ∧ prepare.roleEpoch = epoch := by
  cases turned with
  | left ended => exact absurd rfl ended
  | injected input received receives core effects =>
    subst effects
    simp [accepted] at accepts
  | toggled command free core sends =>
    rw [sends] at accepts
    split at accepts <;> simp [accepted] at accepts
  | paused paused command supported core sends
  | dropped event_eq prepared waiting detail core sends
  | refused prepare received unable detail core sends =>
    simp [sends, accepted] at accepts
  | prepared prepare received valid gate after captureReady detail core sends =>
    refine ⟨prepare, received, ?_⟩
    cases captureReady <;> simp [sends, accepted] at accepts
    exact accepts
  | idle _ _ _ _ silent | entered _ _ _ _ _ silent | forwarded _ _ _ _ _ silent
  | pausedByPeer _ _ _ _ _ silent | session _ _ _ _ _ silent | expired _ _ _ _ silent
  | committed _ _ _ _ _ _ _ _ silent | aborted _ _ _ silent =>
    simp [silent] at accepts

namespace Standing

variable {known : List String} {s t : Standing} {queue : List Frame}

/-- A listener that was told its assignment is not told a first one again. -/
theorem told_once (replays : Replays (Advance known) s queue t) (announced : s.announced = true) :
    ∀ frame ∈ queue, ∀ state, frame ≠ .role (.sessionState state) := by
  induction replays with
  | nil => exact List.forall_mem_nil _
  | cons first rest ih =>
    cases first with
    | sessionState state fresh => simp [announced] at fresh
    | prepare | commit | abort =>
      exact List.forall_mem_cons.mpr ⟨by rintro _ ⟨⟩, ih announced⟩
    | other frame unrelated =>
      refine List.forall_mem_cons.mpr ⟨?_, ih announced⟩
      rintro state rfl
      cases unrelated

/-- A listener that stands at the epoch of the connector has no assignment on its way. -/
theorem unassigned (replays : Replays (Advance known) s queue t) (announced : s.announced = true)
    (epoch : t.roleEpoch = s.roleEpoch) : ∀ frame ∈ queue, frame.assigns = false := by
  induction replays with
  | nil => exact List.forall_mem_nil _
  | cons first rest ih =>
    cases first with
    | sessionState state fresh => simp [announced] at fresh
    | commit commit announced controller named stable offered next =>
      have grown := epoch_le rest
      simp only [next] at grown
      omega
    | prepare | abort => exact List.forall_mem_cons.mpr ⟨rfl, ih announced epoch⟩
    | other frame unrelated =>
      refine List.forall_mem_cons.mpr ⟨?_, ih announced epoch⟩
      unfold Frame.assigns
      split
      · cases unrelated
      · cases unrelated
      · rfl

end Standing

namespace Pair

variable {start s s' t : Pair} {p : Platform} {action : PairAction} {event : PairEvent}

/-- One turn of either loop, with what it takes from its queue and puts into the other. -/
inductive Turns (p : Platform) (s t : Pair) : Prop
  | connector (event : ConnectorEvent) (runs : s.connectorOpen = true)
      (up : s.up = event.frame?.toList ++ t.up)
      (down : t.down = s.down ++ sent (Connector.handle p event s.connector).output)
      (connector : t.connector = (Connector.handle p event s.connector).state)
      (connectorOpen : t.connectorOpen = (Connector.handle p event s.connector).result.isOk)
      (listener : t.listener = s.listener) (listenerOpen : t.listenerOpen = s.listenerOpen)
  | listener (event : ListenerEvent) (runs : s.listenerOpen = true)
      (down : s.down = event.frame?.toList ++ t.down)
      (up : t.up = s.up ++ sent (Listener.handle p event s.listener).output)
      (listener : t.listener = (Listener.handle p event s.listener).state)
      (listenerOpen : t.listenerOpen = (Listener.handle p event s.listener).result.isOk)
      (connector : t.connector = s.connector) (connectorOpen : t.connectorOpen = s.connectorOpen)

theorem exec_turns (executed : machine.exec s (p, action) = some t) : Turns p s t := by
  obtain ⟨⟨event, s'⟩, taken, turned⟩ := Option.bind_eq_some_iff.mp executed
  have queues := take_frame taken
  cases event with
  | connector event =>
    obtain ⟨same, up⟩ := queues
    simp only [turn, Option.ite_none_right_eq_some, Option.some.injEq] at turned
    obtain ⟨runs, rfl⟩ := turned
    rw [same] at runs ⊢
    exact .connector event runs up rfl rfl rfl rfl rfl
  | listener event =>
    obtain ⟨same, down⟩ := queues
    simp only [turn, Option.ite_none_right_eq_some, Option.some.injEq] at turned
    obtain ⟨runs, rfl⟩ := turned
    rw [same] at runs ⊢
    exact .listener event runs down rfl rfl rfl rfl rfl

/-! ## What is stored -/

/-- The confirmations on their way to the connector. -/
def confirming (s : Pair) : List Frame := s.up.filter (·.isApplied)

/-- A readiness that the connector would commit on comes behind every confirmation, and to a
    listener that has no assignment to apply. -/
structure Answered (s : Pair) : Prop where
  last : s.up.Pairwise fun first second =>
    accepted [first] (s.connector.roleEpoch + 1) = true → second.isApplied = false
  applied : accepted s.up (s.connector.roleEpoch + 1) = true →
    ∀ frame ∈ s.down, frame.assigns = false

/-- The stored roles, as far as the frames on their way explain them. -/
structure Filed (s : Pair) : Prop where
  awaited : ∀ epoch controller,
    s.connector.pendingRolePersistence = some (epoch, controller) →
      epoch = s.connector.roleEpoch ∧
        s.connector.coordinator.stable.controllerFingerprint = some controller
  kept : s.connector.pendingRolePersistence = none →
    s.connector.storedRole = s.connector.coordinator.stable.controllerFingerprint
  untold : ∀ state, .role (.sessionState state) ∈ s.down →
    s.connector.pendingRolePersistence = none ∧ s.confirming = [] ∧
      s.listener.storedRole = none ∧
      state.controllerFingerprint = s.connector.coordinator.stable.controllerFingerprint
  unapplied : ∀ commit, .role (.commit commit) ∈ s.down →
    s.connector.pendingRolePersistence ≠ none ∧ s.confirming = []
  answered : s.Answered
  told : (∀ state, .role (.sessionState state) ∉ s.down) → s.confirming = [] →
    s.connector.storedRole = s.listener.storedRole
  confirmed : s.confirming = [] ∨ ∃ epoch controller,
    s.confirming = [.role (.applied epoch)] ∧
      s.connector.pendingRolePersistence = some (epoch, controller) ∧
      s.listener.storedRole = some controller

section Steps

variable {from' upTo : Standing}

/-- The readiness of a later epoch has not been given yet. -/
theorem not_accepted_later (following : s.view.Following from' upTo) :
    accepted s.up (s.connector.roleEpoch + 2) = false := by
  rw [← Bool.not_eq_true]
  intro held
  have bounded := following.ready (s.connector.roleEpoch + 2) (accepted_signals.trans held)
  have grown := Standing.epoch_le following.replays
  have reaches : upTo.roleEpoch = s.connector.coordinator.stable.roleEpoch := following.reaches.2.1
  have epoch : s.connector.roleEpoch = s.connector.coordinator.stable.roleEpoch := following.epoch
  omega

theorem assigned_down {frame : Frame} {out : List Effect} (assigns : frame.assigns = true)
    (member : frame ∈ s.down ++ sent out) (untold : ∀ f ∈ signals out, f.assigns = false) :
    frame ∈ s.down := by
  refine (List.mem_append.mp member).resolve_right fun told => ?_
  have signal := List.mem_filter.mpr ⟨told, Frame.isSignal_of_assigns assigns⟩
  simp [untold frame signal] at assigns

/-- What is on its way, once a turn has taken a frame that is no confirmation. -/
theorem confirming_taken {frame : Option Frame} {up : List Frame}
    (taken : s.up = frame.toList ++ up) (other : frame.all (!·.isApplied) = true) :
    up.filter (·.isApplied) = s.confirming := by
  unfold confirming
  rw [taken]
  cases frame with
  | none => rfl
  | some frame =>
    have other : frame.isApplied = false := by simpa using other
    simp [other]

/-- A turn that takes a frame and keeps the epoch. -/
theorem Answered.taken {c' : Connector} {connectorOpen : Bool} {frame : Option Frame}
    {down up : List Frame} (answered : s.Answered) (taken : s.up = frame.toList ++ up)
    (epoch : c'.roleEpoch = s.connector.roleEpoch)
    (fewer : ∀ frame, frame.assigns = true → frame ∈ down → frame ∈ s.down) :
    Answered { s with connector := c', connectorOpen, down, up } where
  last := by
    have last := answered.last
    rw [taken] at last
    simp only [epoch]
    exact (List.pairwise_append.mp last).2.1
  applied held frame member := by
    rw [← Bool.not_eq_true]
    intro assigns
    have applied := answered.applied ?_ frame (fewer frame assigns member)
    · simp [applied] at assigns
    · simp only [epoch] at held
      simp [taken, held]

variable {event : ConnectorEvent} {c' : Connector} {connectorOpen : Bool} {out : List Effect}
  {up : List Frame}

/-- The confirmation at the head of the queue is the only one, and of the assignment that waits. -/
theorem Filed.head {applied : Nat} (filed : s.Filed)
    (taken : s.up = .role (.applied applied) :: up) :
    up.filter (·.isApplied) = [] ∧ applied = s.connector.roleEpoch ∧ ∃ controller,
      s.connector.pendingRolePersistence = some (applied, controller) ∧
      s.listener.storedRole = some controller := by
  have waits : s.confirming = .role (.applied applied) :: up.filter (·.isApplied) := by
    unfold confirming
    rw [taken]
    rfl
  obtain none | ⟨epoch, controller, single, pending, stored⟩ := filed.confirmed
  · simp [none] at waits
  · obtain ⟨same, rest⟩ := List.cons.inj (waits.symm.trans single)
    cases same
    exact ⟨rest, (filed.awaited _ _ pending).1, controller, pending, stored⟩

theorem Filed.connectorKept (filed : s.Filed) (taken : s.up = event.frame?.toList ++ up)
    (unstored : s.connector.Unstored (.ok ()) c' out)
    (epoch : c'.roleEpoch = s.connector.roleEpoch)
    (stable : c'.coordinator.stable.controllerFingerprint =
      s.connector.coordinator.stable.controllerFingerprint)
    (untold : ∀ frame ∈ signals out, frame.assigns = false)
    (passed : ∀ epoch controller, event = .frame (.role (.applied epoch)) →
      s.connector.pendingRolePersistence = some (epoch, controller) →
        epoch ≠ s.connector.roleEpoch) :
    Filed { s with connector := c', connectorOpen, down := s.down ++ sent out, up } := by
  obtain ⟨pending, stored⟩ := unstored
  have other : event.frame?.all (!·.isApplied) = true := by
    rw [Option.all_eq_true]
    intro frame received
    obtain rfl := ConnectorEvent.frame?_eq_some.mp received
    rw [Bool.not_eq_true', ← Bool.not_eq_true]
    intro confirms
    unfold Frame.isApplied at confirms
    split at confirms
    · obtain ⟨-, current, controller, waits, -⟩ := filed.head taken
      exact passed _ _ rfl waits current
    · cases confirms
  have confirming := confirming_taken taken other
  exact {
    awaited := by
      simp only [pending, epoch, stable]
      exact filed.awaited
    kept := by
      simp only [pending, stored, stable]
      exact filed.kept
    untold := fun state member => by
      simp only [Pair.confirming, confirming, pending, stable]
      exact filed.untold state (assigned_down rfl member untold)
    unapplied := fun commit member => by
      simp only [Pair.confirming, confirming, pending]
      exact filed.unapplied commit (assigned_down rfl member untold)
    answered := filed.answered.taken taken epoch fun frame assigns member =>
      assigned_down assigns member untold
    told := fun told none => by
      simp only [stored]
      exact filed.told (fun state member => told state (List.mem_append_left _ member))
        (confirming.symm.trans none)
    confirmed := by
      simp only [Pair.confirming, confirming, pending]
      exact filed.confirmed }

/-- The connector commits: nothing is on its way that the listener confirmed or has to apply. -/
theorem Filed.connectorAwaits {pending : PendingRole} {detail : Option String} (filed : s.Filed)
    (following : s.view.Following from' upTo)
    (taken : s.up = .role (.ready pending.proposedEpoch true true detail) :: up)
    (next : pending.proposedEpoch = s.connector.roleEpoch + 1)
    (sends : signals out = [.role (.commit pending.committed)])
    (epoch : c'.roleEpoch = pending.proposedEpoch)
    (stable : c'.coordinator.stable.controllerFingerprint =
      some pending.proposedControllerFingerprint)
    (awaited : c'.pendingRolePersistence =
      some (pending.proposedEpoch, pending.proposedControllerFingerprint))
    (stored : c'.storedRole = s.connector.storedRole) :
    Filed { s with connector := c', connectorOpen, down := s.down ++ sent out, up } := by
  have heard : accepted s.up (s.connector.roleEpoch + 1) = true := by
    simp [taken, accepted, next]
  have unassigned := filed.answered.applied heard
  have none : up.filter (·.isApplied) = [] := by
    have last := filed.answered.last
    rw [taken] at last
    refine List.filter_eq_nil_iff.mpr fun frame member => ?_
    have behind := (List.pairwise_cons.mp last).1 frame member (by simp [accepted, next])
    simp [behind]
  have waits : s.confirming = [] := by
    unfold confirming
    rw [taken]
    exact none
  have later : accepted up (c'.roleEpoch + 1) = false := by
    have later := not_accepted_later following
    rw [epoch, next]
    simpa [taken, accepted, next] using later
  have told : ∀ frame, frame.assigns = true → frame ∈ s.down ++ sent out →
      frame = .role (.commit pending.committed) := by
    intro frame assigns member
    obtain before | told := List.mem_append.mp member
    · simp [unassigned frame before] at assigns
    · have signal := List.mem_filter.mpr ⟨told, Frame.isSignal_of_assigns assigns⟩
      exact List.mem_singleton.mp (sends ▸ signal)
  exact {
    awaited := by
      simp only [awaited, epoch, stable]
      rintro _ _ ⟨⟩
      exact ⟨rfl, rfl⟩
    kept := fun free => by simp [awaited] at free
    untold := fun state member => by cases told _ rfl member
    unapplied := fun commit member => by
      simp only [awaited]
      exact ⟨Option.some_ne_none _, none⟩
    answered :=
      { last := by
          refine List.pairwise_of_forall_mem_list fun first member second _ held => ?_
          have held : accepted up (c'.roleEpoch + 1) = true :=
            List.any_eq_true.mpr ⟨first, member, by simpa [accepted] using held⟩
          simp [later] at held
        applied := fun held => by
          have held : accepted up (c'.roleEpoch + 1) = true := held
          simp [later] at held }
    told := fun _ _ => by
      simp only [stored]
      refine filed.told (fun state member => ?_) waits
      cases unassigned _ member
    confirmed := .inl none }

/-- The connector stores what the listener has stored. -/
theorem Filed.connectorConfirmed {applied : Nat} {controller : String} (filed : s.Filed)
    (taken : s.up = .role (.applied applied) :: up)
    (awaited : s.connector.pendingRolePersistence = some (applied, controller))
    (epoch : c'.roleEpoch = s.connector.roleEpoch)
    (stable : c'.coordinator.stable.controllerFingerprint =
      s.connector.coordinator.stable.controllerFingerprint)
    (untold : ∀ frame ∈ signals out, frame.assigns = false)
    (settled : c'.pendingRolePersistence = none) (stored : c'.storedRole = some controller) :
    Filed { s with connector := c', connectorOpen, down := s.down ++ sent out, up } := by
  obtain ⟨none, -, controller', pending, listener⟩ := filed.head taken
  obtain rfl : controller = controller' := by
    rw [awaited] at pending
    cases pending
    rfl
  have named := (filed.awaited _ _ awaited).2
  exact {
    awaited := fun _ _ waits => by simp [settled] at waits
    kept := fun _ => by simp only [stored, stable, named]
    untold := fun state member => by
      have free := (filed.untold state (assigned_down rfl member untold)).1
      simp [awaited] at free
    unapplied := fun commit member => by
      have free := (filed.unapplied commit (assigned_down rfl member untold)).2
      simp [confirming, taken, Frame.isApplied] at free
    answered := filed.answered.taken
      (show s.up = (some (Frame.role (.applied applied))).toList ++ up from taken) epoch
      fun frame assigns member => assigned_down assigns member untold
    told := fun _ _ => by simp only [stored, listener]
    confirmed := .inl none }

theorem Filed.connectorTurn (filed : s.Filed) (following : s.view.Following from' upTo)
    (taken : s.up = event.frame?.toList ++ up) (stores : s.connector.Stores event c' out) :
    Filed { s with connector := c', connectorOpen, down := s.down ++ sent out, up } := by
  cases stores with
  | kept unstored epoch stable untold passed =>
    exact filed.connectorKept taken unstored epoch stable untold passed
  | awaits pending detail received next sends epoch stable awaited stored =>
    subst received
    exact filed.connectorAwaits following taken next sends epoch stable awaited stored
  | confirmed applied controller received awaited epoch stable untold settled stored =>
    subst received
    exact filed.connectorConfirmed taken awaited epoch stable untold settled stored

/-! ### The listener's turns -/

variable {received : ListenerEvent} {l' : Listener} {listenerOpen : Bool} {down : List Frame}

/-- The standing of a listener that takes a signal. -/
theorem taken_advance {frame : Frame} (following : s.view.Following from' upTo)
    (taken : s.down = frame :: down) (signals : frame.isSignal = true) :
    ∃ m, from'.Advance s.view.known frame m ∧
      Replays (Standing.Advance s.view.known) m (down.filter (·.isSignal)) upTo := by
  have replays := following.replays
  have view : s.view.down = frame :: down.filter (·.isSignal) := by
    simp only [view, taken, List.filter_cons_of_pos signals]
  rw [view] at replays
  obtain - | ⟨first, rest⟩ := replays
  exact ⟨_, first, rest⟩

/-- A listener that has come up with the connector's epoch has no assignment on its way. -/
theorem unassigned_down {m : Standing}
    (replays : Replays (Standing.Advance s.view.known) m (down.filter (·.isSignal)) upTo)
    (announced : m.announced = true) (epoch : upTo.roleEpoch = m.roleEpoch) :
    ∀ frame ∈ down, frame.assigns = false := by
  intro frame member
  rw [← Bool.not_eq_true]
  intro assigns
  have signal := List.mem_filter.mpr ⟨member, Frame.isSignal_of_assigns assigns⟩
  simp [Standing.unassigned replays announced epoch frame signal] at assigns

theorem not_isApplied_sent {out : List Effect} (silent : confirmations out = []) :
    ∀ frame ∈ sent out, frame.isApplied = false := by
  intro frame member
  simpa using List.filter_eq_nil_iff.mp silent frame member

/-- A turn of the listener that confirms nothing. -/
theorem Answered.listener (answered : s.Answered) (following : s.view.Following from' upTo)
    (taken : s.down = received.frame?.toList ++ down)
    (turned : s.listener.Turned received (.ok ()) l' out) (silent : confirmations out = []) :
    Answered { s with listener := l', listenerOpen, up := s.up ++ sent out, down } where
  last := by
    have quiet := not_isApplied_sent silent
    refine List.pairwise_append.mpr ⟨answered.last, ?_, fun _ _ second member _ =>
      quiet second member⟩
    exact List.pairwise_of_forall_mem_list fun _ _ second member _ => quiet second member
  applied held frame member := by
    simp only [accepted_append, accepted_sent, Bool.or_eq_true] at held
    obtain before | accepts := held
    · refine answered.applied before frame ?_
      rw [taken]
      exact List.mem_append_right _ member
    · obtain ⟨prepare, rfl, epoch⟩ := turned.accepts accepts
      obtain ⟨m, advance, rest⟩ := taken_advance following taken rfl
      cases advance with
      | prepare prepare announced free controller known preparing named next bound =>
        refine unassigned_down rest announced ?_ frame member
        have reaches : upTo.roleEpoch = s.connector.coordinator.stable.roleEpoch :=
          following.reaches.2.1
        have own : s.connector.roleEpoch = s.connector.coordinator.stable.roleEpoch :=
          following.epoch
        simp only
        omega
      | other frame unrelated => cases unrelated

theorem confirming_sent {out : List Effect} (silent : confirmations out = []) :
    (s.up ++ sent out).filter (·.isApplied) = s.confirming := by
  rw [List.filter_append, show (sent out).filter (·.isApplied) = [] from silent, List.append_nil]
  rfl

theorem Filed.listenerKept (filed : s.Filed) (following : s.view.Following from' upTo)
    (taken : s.down = received.frame?.toList ++ down)
    (turned : s.listener.Turned received (.ok ()) l' out)
    (unstored : s.listener.Unstored (.ok ()) l' out)
    (other : ∀ state, received ≠ .frame (.role (.sessionState state))) :
    Filed { s with listener := l', listenerOpen, up := s.up ++ sent out, down } := by
  obtain ⟨stored, silent⟩ := unstored
  have confirming := confirming_sent (s := s) silent
  have before : ∀ frame ∈ down, frame ∈ s.down := fun frame member =>
    taken ▸ List.mem_append_right _ member
  exact {
    awaited := filed.awaited
    kept := filed.kept
    untold := fun state member => by
      simp only [Pair.confirming, confirming, stored]
      exact filed.untold state (before _ member)
    unapplied := fun commit member => by
      simp only [Pair.confirming, confirming]
      exact filed.unapplied commit (before _ member)
    answered := filed.answered.listener following taken turned silent
    told := fun told none => by
      simp only [stored]
      refine filed.told (fun state member => ?_) (confirming.symm.trans none)
      rw [taken] at member
      obtain head | rest := List.mem_append.mp member
      · exact other state (ListenerEvent.frame?_eq_some.mp (Option.mem_toList.mp head))
      · exact told state rest
    confirmed := by
      simp only [Pair.confirming, confirming, stored]
      exact filed.confirmed }

/-- The listener stores the assignment it is told first. -/
theorem Filed.listenerMirrored {state : RoleState} (filed : s.Filed)
    (following : s.view.Following from' upTo)
    (taken : s.down = .role (.sessionState state) :: down)
    (turned : s.listener.Turned (.frame (.role (.sessionState state))) (.ok ()) l' out)
    (stored : l'.storedRole = state.controllerFingerprint.orElse fun _ => s.listener.storedRole)
    (silent : confirmations out = []) :
    Filed { s with listener := l', listenerOpen, up := s.up ++ sent out, down } := by
  have confirming := confirming_sent (s := s) silent
  obtain ⟨free, none, unset, named⟩ := filed.untold state (taken ▸ List.mem_cons_self)
  have mirrored : l'.storedRole = s.connector.coordinator.stable.controllerFingerprint := by
    rw [stored, unset, ← named]
    cases state.controllerFingerprint <;> rfl
  obtain ⟨m, advance, rest⟩ := taken_advance following taken rfl
  have announced : m.announced = true := by
    cases advance with
    | sessionState => rfl
    | other frame unrelated => cases unrelated
  exact {
    awaited := filed.awaited
    kept := filed.kept
    untold := fun state member => by
      have signal : .role (.sessionState state) ∈ down.filter (·.isSignal) :=
        List.mem_filter.mpr ⟨member, rfl⟩
      exact absurd rfl (Standing.told_once rest announced _ signal state)
    unapplied := fun commit member => by
      simp only [Pair.confirming, confirming]
      exact filed.unapplied commit (taken ▸ List.mem_cons_of_mem _ member)
    answered := filed.answered.listener following
      (show s.down = (ListenerEvent.frame (.role (.sessionState _))).frame?.toList ++ down from
        taken)
      turned silent
    told := fun _ _ => (filed.kept free).trans mirrored.symm
    confirmed := .inl (confirming.trans none) }

/-- The listener stores what it applies, and confirms it. -/
theorem Filed.listenerApplied {commit : RoleState} {controller : String} (filed : s.Filed)
    (following : s.view.Following from' upTo)
    (taken : s.down = .role (.commit commit) :: down)
    (turned : s.listener.Turned (.frame (.role (.commit commit))) (.ok ()) l' out)
    (named : commit.controllerFingerprint = some controller)
    (stored : l'.storedRole = some controller)
    (sends : confirmations out = [.role (.applied commit.roleEpoch)]) :
    Filed { s with listener := l', listenerOpen, up := s.up ++ sent out, down } := by
  obtain ⟨waits, none⟩ := filed.unapplied commit (taken ▸ List.mem_cons_self)
  obtain ⟨⟨epoch, waiting⟩, pending⟩ := Option.ne_none_iff_exists'.mp waits
  obtain ⟨current, assigned⟩ := filed.awaited _ _ pending
  obtain ⟨m, advance, rest⟩ := taken_advance following taken rfl
  have reaches : upTo.roleEpoch = s.connector.coordinator.stable.roleEpoch := following.reaches.2.1
  have own : s.connector.roleEpoch = s.connector.coordinator.stable.roleEpoch := following.epoch
  have ahead : s.connector.coordinator.stable.roleEpoch ≤ from'.roleEpoch + 1 := following.ahead
  have grown := Standing.epoch_le rest
  obtain ⟨announced, there, reached⟩ : m.announced = true ∧ upTo.roleEpoch = m.roleEpoch ∧
      m.roleEpoch = commit.roleEpoch ∧ m.controller = commit.controllerFingerprint := by
    cases advance with
    | commit commit announced controller named stable offered next =>
      simp only at grown
      exact ⟨announced, by simp only; omega, rfl, rfl⟩
    | other frame unrelated => cases unrelated
  have unassigned := unassigned_down rest announced there
  have unaccepted : accepted s.up (s.connector.roleEpoch + 1) = false := by
    rw [← Bool.not_eq_true]
    intro held
    cases filed.answered.applied held _ (taken ▸ List.mem_cons_self)
  have same : epoch = commit.roleEpoch := by omega
  have controls : waiting = controller := by
    have controller_eq := Standing.controller_eq rest announced there
    have stable : upTo.controller = s.connector.coordinator.stable.controllerFingerprint :=
      following.reaches.2.2
    rw [← stable, controller_eq, reached.2, named] at assigned
    exact (Option.some.inj assigned).symm
  have nothing : accepted (s.up ++ sent out) (s.connector.roleEpoch + 1) = false := by
    rw [accepted_append, unaccepted, accepted_sent, Bool.false_or, ← Bool.not_eq_true]
    intro accepts
    obtain ⟨prepare, other, -⟩ := turned.accepts accepts
    cases other
  exact {
    awaited := filed.awaited
    kept := filed.kept
    untold := fun state member => by cases unassigned _ member
    unapplied := fun commit member => by cases unassigned _ member
    answered :=
      { last := by
          refine List.pairwise_of_forall_mem_list fun first member second _ held => ?_
          have held : accepted (s.up ++ sent out) (s.connector.roleEpoch + 1) = true :=
            List.any_eq_true.mpr ⟨first, member, by simpa [accepted] using held⟩
          simp [nothing] at held
        applied := fun held => by simp [nothing] at held }
    told := fun _ free => by
      rw [Pair.confirming, List.filter_append, show (sent out).filter _ = _ from sends] at free
      simp at free
    confirmed := by
      refine .inr ⟨commit.roleEpoch, controller, ?_, same ▸ controls ▸ pending, stored⟩
      rw [Pair.confirming, List.filter_append, show (sent out).filter _ = _ from sends,
        show s.up.filter _ = _ from none]
      rfl }

theorem Filed.listenerTurn (filed : s.Filed) (following : s.view.Following from' upTo)
    (taken : s.down = received.frame?.toList ++ down)
    (turned : s.listener.Turned received (.ok ()) l' out)
    (stores : s.listener.Stores received l' out) :
    Filed { s with listener := l', listenerOpen, up := s.up ++ sent out, down } := by
  cases stores with
  | kept unstored other => exact filed.listenerKept following taken turned unstored other
  | mirrored state received stored silent =>
    subst received
    exact filed.listenerMirrored following taken turned stored silent
  | applied commit controller received named stored sends =>
    subst received
    exact filed.listenerApplied following taken turned named stored sends

end Steps

/-! ### Whole runs -/

/-- What explains the stored roles while both loops run. -/
def Explained (s : Pair) : Prop :=
  s.connectorOpen = true → s.listenerOpen = true →
    (∃ from' upTo, s.view.Following from' upTo) ∧ s.Filed

theorem exec_explained (executed : machine.exec s (p, action) = some t)
    (explained : s.Explained) : t.Explained := by
  intro connectorOpen listenerOpen
  obtain ⟨event, s', taken, step⟩ := exec_step executed
  cases exec_turns executed with
  | connector event runs up down connector connectorOpen' listener listenerOpen' =>
    obtain ⟨⟨from', upTo, following⟩, filed⟩ :=
      explained runs (listenerOpen'.symm.trans listenerOpen)
    obtain ⟨_, _, after, -⟩ := following.step step listenerOpen
    refine ⟨⟨_, _, after⟩, ?_⟩
    have stores : s.connector.Stores event (Connector.handle p event s.connector).state
        (Connector.handle p event s.connector).output :=
      Connector.storesRole (following.coordinated runs)
        (isOk_eq_true (connectorOpen'.symm.trans connectorOpen))
    have filed : Filed { s with
        connector := t.connector, connectorOpen := t.connectorOpen
        down := t.down, up := t.up } := by
      rw [connector, down]
      exact filed.connectorTurn following up stores
    rwa [show t = { s with
      connector := t.connector, connectorOpen := t.connectorOpen, down := t.down, up := t.up } by
      rw [← listener, ← listenerOpen']]
  | listener event runs down up listener listenerOpen' connector connectorOpen' =>
    obtain ⟨⟨from', upTo, following⟩, filed⟩ :=
      explained (connectorOpen'.symm.trans connectorOpen) runs
    obtain ⟨_, _, after, -⟩ := following.step step listenerOpen
    refine ⟨⟨_, _, after⟩, ?_⟩
    have succeeded := isOk_eq_true (listenerOpen'.symm.trans listenerOpen)
    have stores : s.listener.Stores event (Listener.handle p event s.listener).state
        (Listener.handle p event s.listener).output := Listener.storesRole succeeded
    have turned := Listener.turned p s.listener event
    rw [Handler.wp, succeeded] at turned
    have filed : Filed { s with
        listener := t.listener, listenerOpen := t.listenerOpen, down := t.down, up := t.up } := by
      rw [listener, up]
      exact filed.listenerTurn following down turned stores
    rwa [show t = { s with
      listener := t.listener, listenerOpen := t.listenerOpen, down := t.down, up := t.up } by
      rw [← connector, ← connectorOpen']]

/-- At the start the connector has stored its assignment and told it to the listener. -/
theorem Started.filed (started : s.Started) : s.Filed := by
  obtain ⟨setup, persisted, preferConnector, paused, capture, source, p, first, listenerSetup,
    listenerCapture, paired, made, -, rfl⟩ := started
  obtain ⟨core, silent, -⟩ := Connector.start_quiet p first
  obtain ⟨pending, stored⟩ := Connector.start_unstored (p := p) (c := first)
  have stable : (Connector.start p first).state.coordinator = first.coordinator :=
    congrArg (·.coordinator) core
  have assigned : ∀ frame : Frame, frame.assigns = true →
      frame ∈ .role (.sessionState (setup.initialRoleState persisted preferConnector paused)) ::
        sent (Connector.start p first).output →
      frame = .role (.sessionState (setup.initialRoleState persisted preferConnector paused)) := by
    intro frame assigns member
    refine (List.mem_cons.mp member).resolve_right fun told => ?_
    have signal := List.mem_filter.mpr ⟨told, Frame.isSignal_of_assigns assigns⟩
    rw [show List.filter _ (sent _) = [] from silent] at signal
    cases signal
  have fresh := Connector.initial_eq_ok made
  subst fresh
  exact {
    awaited := fun _ _ waits => by simp [pending] at waits
    kept := fun _ => by simp only [stored, stable]
    untold := fun state member => by
      cases assigned _ rfl member
      exact ⟨pending, rfl, rfl, by simp only [stable]⟩
    unapplied := fun commit member => by cases assigned _ rfl member
    answered := ⟨List.Pairwise.nil, fun held => by cases held⟩
    told := fun told _ => absurd List.mem_cons_self (told _)
    confirmed := .inl rfl }

theorem Started.explained (started : s.Started) : s.Explained := by
  obtain ⟨setup, persisted, preferConnector, paused, listenerSetup, paired, view⟩ := started.view_eq
  obtain ⟨_, _, following, -⟩ := PairView.first_following persisted preferConnector paused paired
  exact fun _ _ => ⟨⟨_, _, view ▸ following⟩, started.filed⟩

/-- The sample handover, confirmed. -/
def sampleConfirmed : List (Platform × PairAction) :=
  sampleHandedOver.append [({}, .toConnector)]

end Pair

end EdgeKvm.Session
