import EdgeKvm.Session.Pair

/-!
# The role handover

The frames on their way to the listener lead from the assignment it stands at to the one the
connector committed (`Standing.Advance`), and a listener whose positive readiness is out still
holds the prepared role. The listener may let go of it on its own, at its deadline or at a
layout change, and may refuse a `Prepare` whose epoch it said it was ready for; in runs without
that every `Commit` finds its `Prepare`.
-/

namespace EdgeKvm.Session

open EdgeKvm.Lib Handler Machine

/-! ## What the connector announces -/

/-- The assignment the listener stands at, and the handover it was offered. -/
structure Standing where
  announced : Bool
  roleEpoch : Nat
  controller : Option String
  offer : Option RoleState

/-- The `Prepare` that a `Commit` completes. -/
def RoleState.asPrepare (commit : RoleState) (controller : String) : RoleState :=
  { commit with transition := .preparing controller }

/-- The state `RoleCoordinator::prepare` sent for a pending handover. -/
def PendingRole.proposal (pending : PendingRole) : RoleState :=
  pending.committed.asPrepare pending.proposedControllerFingerprint

def Frame.isHandover : Frame → Bool
  | .role (.sessionState _) | .role (.prepare _) | .role (.commit _) | .role (.abort _) => true
  | _ => false

/-- The announcements the listener expects: a `SessionState` once, a `Prepare` of the next epoch,
    and a `Commit` or an `Abort` of what is on offer. -/
inductive Standing.Advance (known : List String) (s : Standing) : Frame → Standing → Prop
  | sessionState (state : RoleState) (fresh : s.announced = false)
      (epoch : state.roleEpoch = s.roleEpoch) :
      Advance known s (.role (.sessionState state))
        { announced := true, roleEpoch := state.roleEpoch
          controller := state.controllerFingerprint, offer := none }
  | prepare (prepare : RoleState) (announced : s.announced = true) (free : s.offer = none)
      (controller : String) (member : controller ∈ known)
      (preparing : prepare.transition = .preparing controller)
      (named : prepare.controllerFingerprint = some controller)
      (epoch : prepare.roleEpoch = s.roleEpoch + 1) (bound : s.roleEpoch + 1 < UInt64.size) :
      Advance known s (.role (.prepare prepare)) { s with offer := some prepare }
  | commit (commit : RoleState) (announced : s.announced = true) (controller : String)
      (named : commit.controllerFingerprint = some controller)
      (stable : commit.transition = .stable)
      (offered : s.offer = some (commit.asPrepare controller))
      (epoch : commit.roleEpoch = s.roleEpoch + 1) :
      Advance known s (.role (.commit commit))
        { s with
          roleEpoch := commit.roleEpoch, controller := commit.controllerFingerprint, offer := none }
  | abort (abort : RoleState) (announced : s.announced = true)
      (epoch : abort.roleEpoch = s.roleEpoch)
      (controller : abort.controllerFingerprint = s.controller) :
      Advance known s (.role (.abort abort)) { s with offer := none }
  | other (frame : Frame) (unrelated : frame.isHandover = false) : Advance known s frame s

namespace Standing

variable {known : List String} {s t : Standing} {queue : List Frame}

theorem Advance.epoch_le {frame : Frame} (advance : s.Advance known frame t) :
    s.roleEpoch ≤ t.roleEpoch := by
  cases advance with
  | sessionState state fresh epoch => exact Nat.le_of_eq epoch.symm
  | commit commit announced controller named stable offered epoch =>
    simp only [epoch]
    omega
  | _ => exact Nat.le_refl _

theorem epoch_le (replays : Replays (Advance known) s queue t) : s.roleEpoch ≤ t.roleEpoch :=
  replays.measure_le (·.roleEpoch) fun _ _ _ => Advance.epoch_le

/-- Once announced, the controller only changes with the epoch. -/
theorem controller_eq (replays : Replays (Advance known) s queue t) (announced : s.announced = true)
    (epoch : t.roleEpoch = s.roleEpoch) : t.controller = s.controller := by
  induction replays with
  | nil => rfl
  | cons first rest ih =>
    cases first with
    | sessionState state fresh => simp [announced] at fresh
    | commit commit announced controller named stable offered next =>
      have grown := epoch_le rest
      simp only [next] at grown
      omega
    | prepare => exact ih announced epoch
    | abort => exact ih announced epoch
    | other => exact ih announced epoch

/-- Only the `SessionState` announces. -/
theorem announced_of (replays : Replays (Advance known) s queue t) (announced : t.announced = true)
    (none : ∀ state, .role (.sessionState state) ∉ queue) : s.announced = true := by
  induction replays with
  | nil => exact announced
  | cons first rest ih =>
    have before := ih announced fun state member => none state (.tail _ member)
    cases first with
    | sessionState state => exact absurd List.mem_cons_self (none state)
    | _ => exact before

/-- A listener accepts the `Prepare` it expects. -/
theorem Advance.validatePrepare {current prepare : RoleState} {connector listener : String}
    (advance : s.Advance [connector, listener] (.role (.prepare prepare)) t)
    (stands : s.roleEpoch = current.roleEpoch) :
    Session.validatePrepare current prepare connector listener = .ok () := by
  cases advance with
  | prepare prepare announced free controller member preparing named epoch bound =>
    simp only [List.mem_cons, List.not_mem_nil, or_false] at member
    rw [stands] at epoch bound
    simp [Session.validatePrepare, preparing, member, named, epoch, nextEpoch, bound]
  | other frame unrelated => cases unrelated

/-- A listener that holds the `Prepare` accepts the `Commit` it expects. -/
theorem Advance.validateCommit {commit prepared : RoleState}
    (advance : s.Advance known (.role (.commit commit)) t) (held : s.offer = some prepared) :
    Session.validateCommit prepared commit = .ok () := by
  cases advance with
  | commit commit announced controller named stable offered epoch =>
    obtain rfl : commit.asPrepare controller = prepared := by simpa [offered] using held
    simp [Session.validateCommit, RoleState.asPrepare, RoleTransitionState.isPreparing, stable]
  | other frame unrelated => cases unrelated

theorem Advance.fresh {frame : Frame} {controller : Option String}
    (advance : s.Advance known frame t) (fresh : s.announced = false → s.controller = controller)
    (unannounced : t.announced = false) : t.controller = controller := by
  cases advance with
  | sessionState => cases unannounced
  | prepare | abort | other => exact fresh unannounced
  | commit commit announced => cases announced.symm.trans unannounced

/-- Frames that are no part of a handover may be put behind the others, and taken. -/
theorem push_unrelated {out : List Frame} (replays : Replays (Advance known) s queue t)
    (unrelated : ∀ frame ∈ out, frame.isHandover = false) :
    Replays (Advance known) s (queue ++ out) t :=
  replays.push (.idle fun frame member => .other frame (unrelated frame member))

theorem take {f : Frame} (signals : f.isSignal = true)
    (replays : Replays (Advance known) s (signal (some f) ++ queue) t) :
    ∃ m, s.Advance known f m ∧ Replays (Advance known) m queue t := by
  rw [signal_some] at replays
  simp only [List.filter_cons, signals, if_true, List.filter_nil, List.singleton_append] at replays
  obtain - | ⟨first, rest⟩ := replays
  exact ⟨_, first, rest⟩

theorem take_unrelated {frame : Option Frame}
    (replays : Replays (Advance known) s (signal frame ++ queue) t)
    (unrelated : ∀ f, frame = some f → f.isHandover = false) :
    Replays (Advance known) s queue t := by
  cases frame with
  | none => exact replays
  | some f =>
    rw [signal_some] at replays
    cases signals : f.isSignal with
    | false => simpa [signals] using replays
    | true =>
      rw [← signal_some] at replays
      obtain ⟨mid, first, rest⟩ := take signals replays
      cases first with
      | other => exact rest
      | _ => exact absurd (unrelated _ rfl) (by simp [Frame.isHandover])

end Standing

/-- The listener's variables repeat the assignment it was last told. -/
structure ListenerCore.Agrees (k : ListenerCore) : Prop where
  epoch : k.roleEpoch = k.currentRoleState.roleEpoch
  controls : k.localIsController =
    decide (k.currentRoleState.controllerFingerprint = some k.setup.localFingerprint)

theorem ListenerCore.Turned.agrees {k k' : ListenerCore} {released : Prop} {event : ListenerEvent}
    {out : List Effect} (turned : k.Turned released event (.ok ()) k' out) (agrees : k.Agrees) :
    k'.Agrees := by
  obtain ⟨epoch, controls⟩ := agrees
  cases turned with
  | left ended => exact absurd rfl ended
  | session state received gate after core =>
    subst core
    exact ⟨rfl, rfl⟩
  | committed prepared commit controller received waiting valid named core =>
    subst core
    exact ⟨rfl, by simp [named]⟩
  | idle _ _ _ core | injected _ _ _ core | entered _ _ _ _ core | toggled _ _ core
  | forwarded _ _ _ _ core | paused _ _ _ core | pausedByPeer _ _ _ _ core | expired _ _ _ core
  | dropped _ _ _ _ core | refused _ _ _ _ core | prepared _ _ _ _ _ _ _ core
  | aborted _ _ core =>
    subst core
    exact ⟨epoch, controls⟩

/-! ## What the listener promised -/

def Frame.isCommit : Frame → Bool
  | .role (.commit _) => true
  | _ => false

/-- A positive readiness for `epoch` is among the frames. -/
def accepted (frames : List Frame) (epoch : Nat) : Bool :=
  frames.any fun
    | .role (.ready readyEpoch true true _) => readyEpoch = epoch
    | _ => false

@[simp] theorem accepted_nil {epoch : Nat} : accepted [] epoch = false := rfl

@[simp] theorem accepted_append {frames out : List Frame} {epoch : Nat} :
    accepted (frames ++ out) epoch = (accepted frames epoch || accepted out epoch) :=
  List.any_append

/-- The first announcement of a handover. -/
def nextHandover (frames : List Frame) : Option Frame := frames.find? (·.isHandover)

section Next

variable {frames out : List Frame} {frame : Frame}

theorem nextHandover_append :
    nextHandover (frames ++ out) = (nextHandover frames).or (nextHandover out) :=
  List.find?_append

theorem nextHandover_unrelated (unrelated : ∀ f ∈ out, f.isHandover = false) :
    nextHandover out = none :=
  List.find?_eq_none.mpr fun f member => by simp [unrelated f member]

theorem nextHandover_cons (handover : frame.isHandover = true) :
    nextHandover (frame :: frames) = some frame := List.find?_cons_of_pos handover

end Next

namespace PairView

/-- The fingerprints a `Prepare` may name. -/
def known (v : PairView) : List String :=
  [v.listener.setup.controllerFingerprint, v.listener.setup.localFingerprint]

/-- The connector would commit on a readiness that is on its way. -/
def commitReady (v : PairView) : Bool :=
  v.connectorOpen &&
    match v.connector.coordinator.pending, v.connector.pendingReadiness with
    | some pending, some readiness =>
      readiness.captureReady && readiness.injectReady && accepted v.up pending.proposedEpoch
    | _, _ => false

/-- What the listener last heard may be committed without a further word from it. -/
def promised (v : PairView) : Bool :=
  match nextHandover v.down with
  | some frame => frame.isCommit
  | none => v.commitReady

/-- The turns in which the listener goes back on its promise: the deadline and a layout change
    drop the prepared role, and a `Prepare` is refused by a paused listener. -/
def breaksPromise (v : PairView) : PairEvent → Bool
  | .listener (.watchdog true _) | .listener (.capture (some .layoutChanged)) =>
    v.listener.preparedRole.isSome && v.promised
  | .listener (.frame (.role (.prepare _))) =>
    (v.listener.sessionPaused || !v.listener.setup.roleSwitchAvailable) &&
      { v with down := v.down.tail }.promised
  | _ => false

/-- The frames on their way lead the listener, which stands at `s`, to the connector at `t`. -/
structure Following (v : PairView) (s t : Standing) : Prop where
  paired : v.connectorOpen = true → Paired v.connector.setup v.listener.setup
  coordinated : v.connectorOpen = true → v.connector.Coordinated
  epoch : v.connector.roleEpoch = v.connector.coordinator.stable.roleEpoch
  stands : s.roleEpoch = v.listener.currentRoleState.roleEpoch ∧
    s.controller = v.listener.currentRoleState.controllerFingerprint
  agrees : v.listener.Agrees
  fresh : s.announced = false → s.controller = some v.listener.setup.controllerFingerprint
  replays : Replays (Standing.Advance v.known) s v.down t
  reaches : t.announced = true ∧ t.roleEpoch = v.connector.coordinator.stable.roleEpoch ∧
    t.controller = v.connector.coordinator.stable.controllerFingerprint
  offers : v.connectorOpen = true → t.offer = v.connector.coordinator.pending.map (·.proposal)
  holds : v.listener.preparedRole = none ∨ v.listener.preparedRole = s.offer
  ready : ∀ epoch, accepted v.up epoch = true → epoch ≤ s.roleEpoch + 1
  ahead : v.connector.coordinator.stable.roleEpoch ≤ s.roleEpoch + 1

/-- A listener whose word may be taken for a commit holds what it was offered. -/
def Keeps (v : PairView) (s : Standing) : Prop :=
  v.promised = true → v.listener.preparedRole = s.offer

section Promise

variable {v v' : PairView}

theorem commitReady_mono (opens : v'.connectorOpen = true → v.connectorOpen = true)
    (same : v'.connectorOpen = true →
      v'.connector.coordinator.pending = v.connector.coordinator.pending ∧
      v'.connector.pendingReadiness = v.connector.pendingReadiness)
    (fewer : ∀ epoch, accepted v'.up epoch = true → accepted v.up epoch = true)
    (ready : v'.commitReady = true) : v.commitReady = true := by
  unfold commitReady at *
  cases runs : v'.connectorOpen with
  | false => simp [runs] at ready
  | true =>
    obtain ⟨pending, readiness⟩ := same runs
    rw [← pending, ← readiness]
    grind

theorem promised_of (next : nextHandover v'.down = nextHandover v.down)
    (ready : v'.commitReady = true → v.commitReady = true) (holds : v'.promised = true) :
    v.promised = true := by
  unfold promised at *
  rw [next] at holds
  cases found : nextHandover v.down with
  | none => simpa [found] using ready (by simpa [found] using holds)
  | some frame => simpa [found] using holds

/-- A further announcement does not widen the promise, a commit only as far as it is ready. -/
theorem promised_push {frame : Frame} (handover : frame.isHandover = true)
    (down : v'.down = v.down ++ [frame]) (ready : frame.isCommit = true → v.commitReady = true)
    (holds : v'.promised = true) : v.promised = true := by
  unfold promised at *
  rw [down, nextHandover_append, nextHandover_cons handover] at holds
  cases next : nextHandover v.down with
  | none => simpa [next] using ready (by simpa [next] using holds)
  | some first => simpa [next] using holds

end Promise

/-! ## The connector's turns -/

section ConnectorTurn

variable {v : PairView} {s t : Standing} {event : ConnectorEvent} {released : Prop}
  {result : Except SessionExit Unit} {k' : ConnectorCore} {out : List Effect} {up : List Frame}

/-- The view after a turn of the connector. -/
def afterConnector (v : PairView) (k' : ConnectorCore) (result : Except SessionExit Unit)
    (out : List Effect) (up : List Frame) : PairView :=
  { v with connector := k', connectorOpen := result.isOk, down := v.down ++ signals out, up }

/-- A turn that announces nothing and keeps the assignment and the pending handover. -/
theorem Following.connectorKept (following : v.Following s t) (runs : v.connectorOpen = true)
    (taken : v.up = signal event.frame? ++ up)
    (unrelated : ∀ f ∈ signals out, f.isHandover = false)
    (stable : k'.coordinator.stable.roleEpoch = v.connector.coordinator.stable.roleEpoch ∧
      k'.coordinator.stable.controllerFingerprint =
        v.connector.coordinator.stable.controllerFingerprint)
    (epoch : k'.roleEpoch = v.connector.roleEpoch)
    (same : result.isOk = true → k'.setup = v.connector.setup ∧ k'.Coordinated ∧
      k'.coordinator.pending = v.connector.coordinator.pending ∧
      k'.pendingReadiness = v.connector.pendingReadiness) :
    (v.afterConnector k' result out up).Following s t ∧
      (v.Keeps s → (v.afterConnector k' result out up).Keeps s) := by
  have fewer : ∀ epoch, accepted up epoch = true → accepted v.up epoch = true := by
    intro epoch held
    simp [taken, held]
  constructor
  · exact {
      paired := fun runs' => (same runs').1 ▸ following.paired runs
      coordinated := fun runs' => (same runs').2.1
      epoch := epoch.trans (following.epoch.trans stable.1.symm)
      stands := following.stands
      agrees := following.agrees
      fresh := following.fresh
      replays := Standing.push_unrelated following.replays unrelated
      reaches := ⟨following.reaches.1, following.reaches.2.1.trans stable.1.symm,
        following.reaches.2.2.trans stable.2.symm⟩
      offers := fun runs' => (following.offers runs).trans (congrArg _ (same runs').2.2.1.symm)
      holds := following.holds
      ready := fun epoch held => following.ready epoch (fewer epoch held)
      ahead := stable.1 ▸ following.ahead }
  · intro keeps promised
    refine keeps (promised_of ?_ ?_ promised)
    · simp [afterConnector, nextHandover_append, nextHandover_unrelated unrelated]
    · exact commitReady_mono (fun _ => runs) (fun runs' => (same runs').2.2) fewer

/-- A turn that announces one step of a handover. -/
theorem Following.connectorAnnounced {t' : Standing} {frame : Frame}
    (following : v.Following s t) (runs : v.connectorOpen = true)
    (taken : v.up = signal event.frame? ++ up) (sends : signals out = [frame])
    (handover : frame.isHandover = true) (advance : t.Advance v.known frame t')
    (ready : frame.isCommit = true → v.commitReady = true)
    (setup : k'.setup = v.connector.setup) (coordinated : result.isOk = true → k'.Coordinated)
    (epoch : k'.roleEpoch = k'.coordinator.stable.roleEpoch)
    (reaches : t'.announced = true ∧ t'.roleEpoch = k'.coordinator.stable.roleEpoch ∧
      t'.controller = k'.coordinator.stable.controllerFingerprint)
    (offers : t'.offer = k'.coordinator.pending.map (·.proposal))
    (ahead : k'.coordinator.stable.roleEpoch ≤ s.roleEpoch + 1) :
    (v.afterConnector k' result out up).Following s t' ∧
      (v.Keeps s → (v.afterConnector k' result out up).Keeps s) := by
  constructor
  · exact {
      paired := fun _ => setup ▸ following.paired runs
      coordinated
      epoch
      stands := following.stands
      agrees := following.agrees
      fresh := following.fresh
      replays := following.replays.push (sends ▸ .single advance)
      reaches
      offers := fun _ => offers
      holds := following.holds
      ready := fun epoch held => following.ready epoch
        (by simp [taken, show accepted up epoch = true from held])
      ahead }
  · intro keeps promised
    refine keeps (promised_push handover ?_ ready promised)
    simp [afterConnector, sends]

theorem Following.connectorTurn (following : v.Following s t) (runs : v.connectorOpen = true)
    (taken : v.up = signal event.frame? ++ up)
    (turned : v.connector.Turned released event result k' out) :
    ∃ t', (v.afterConnector k' result out up).Following s t' ∧
      (v.Keeps s → (v.afterConnector k' result out up).Keeps s) := by
  have coordinated : result.isOk = true → k'.Coordinated := by
    intro succeeded
    cases result with
    | error => cases succeeded
    | ok => exact turned.coordinated (following.coordinated runs)
  have proposed := (following.coordinated runs).proposed
  have identity := (following.coordinated runs).identity
  have paired := following.paired runs
  cases turned with
  | idle gate after ignored core silent still =>
    subst core
    exact ⟨t, following.connectorKept runs taken (by simp [silent]) ⟨rfl, rfl⟩ rfl
      fun runs' => ⟨rfl, coordinated runs', rfl, rfl⟩⟩
  | left ended epoch stable silent still =>
    obtain ⟨paused, stable⟩ := stable
    refine ⟨t, following.connectorKept runs taken (by simp [silent]) ?_ epoch fun runs' => ?_⟩
    · rw [stable]
      exact ⟨rfl, rfl⟩
    · cases result with
      | error => cases runs'
      | ok => exact absurd rfl ended
  | injected input received receives core effects =>
    subst core effects
    exact ⟨t, following.connectorKept runs taken (by simp) ⟨rfl, rfl⟩ rfl
      fun runs' => ⟨rfl, coordinated runs', rfl, rfl⟩⟩
  | entered edge position received receives core silent still =>
    subst core
    exact ⟨t, following.connectorKept runs taken (by simp [silent]) ⟨rfl, rfl⟩ rfl
      fun runs' => ⟨rfl, coordinated runs', rfl, rfl⟩⟩
  | toggled command free core sends still =>
    subst core
    exact ⟨t, following.connectorKept runs taken (by simp [sends, Frame.isHandover]) ⟨rfl, rfl⟩ rfl
      fun runs' => ⟨rfl, coordinated runs', rfl, rfl⟩⟩
  | forwarded enabled received gate after core silent still =>
    subst core
    exact ⟨t, following.connectorKept runs taken (by simp [silent]) ⟨rfl, rfl⟩ rfl
      fun runs' => ⟨rfl, coordinated runs', rfl, rfl⟩⟩
  | prepared requested prepare coordinator readiness begun given core sends still =>
    subst core
    obtain ⟨free, member, rfl, rfl⟩ := RoleCoordinator.prepare_eq_ok given
    refine ⟨{ t with offer := some _ }, following.connectorAnnounced runs taken sends rfl
      (.prepare _ following.reaches.1 ?_ requested ?_ rfl rfl ?_ ?_) nofun rfl coordinated
      following.epoch following.reaches ?_ following.ahead⟩
    · simp [following.offers runs, free]
    · obtain ⟨connector, listener⟩ := identity
      rw [connector, listener, ← paired.connectorKnown, ← paired.listenerKnown] at member
      simpa [known] using member
    · simp [RoleCoordinator.proposal, following.reaches]
    · rw [following.reaches.2.1]
      exact RoleCoordinator.prepare_bound given
    · rfl
  | aborted detail pending ignored waiting gate after core sends still =>
    subst core
    obtain ⟨previous, -⟩ := proposed pending waiting
    refine ⟨{ t with offer := none }, following.connectorAnnounced runs taken sends rfl
      (.abort _ following.reaches.1 ?_ ?_) nofun rfl coordinated ?_ ?_ rfl ?_⟩
    · simp [RoleCoordinator.failedState, previous, following.reaches]
    · simp [RoleCoordinator.failedState, previous, following.reaches]
    · simpa [previous] using following.epoch
    · simpa [previous] using following.reaches
    · simpa [previous] using following.ahead
  | committed pending waiting detail received ready core sends still =>
    subst core
    obtain ⟨previous, next, -⟩ := proposed pending waiting
    obtain ⟨readiness, local', captures, injects⟩ := ready
    have heard : accepted v.up pending.proposedEpoch = true := by
      simp [taken, received, ConnectorEvent.frame?, signal_some, Frame.isSignal, accepted]
    have offered : t.offer = some pending.proposal := by simp [following.offers runs, waiting]
    refine ⟨{ t with
        roleEpoch := pending.proposedEpoch
        controller := some pending.proposedControllerFingerprint, offer := none },
      following.connectorAnnounced runs taken sends rfl
        (.commit pending.committed following.reaches.1 _ rfl rfl offered ?_) (fun _ => ?_) rfl
        coordinated rfl ⟨following.reaches.1, rfl, rfl⟩ rfl (following.ready _ heard)⟩
    · simp [PendingRole.committed, next, following.reaches]
    · simp [commitReady, runs, waiting, local', captures, injects, heard]
  | paused paused commanded free gate after core sends still =>
    subst core
    exact ⟨t, following.connectorKept runs taken (by simp [sends, Frame.isHandover]) ⟨rfl, rfl⟩ rfl
      fun runs' => ⟨rfl, coordinated runs', rfl, rfl⟩⟩

end ConnectorTurn

/-! ## The listener's turns -/

section ListenerTurn

variable {v : PairView} {s t : Standing} {event : ListenerEvent} {released : Prop}
  {k' : ListenerCore} {out : List Effect} {down : List Frame}

/-- The view after a turn of the listener that goes on. -/
def afterListener (v : PairView) (k' : ListenerCore) (out : List Effect) (down : List Frame) :
    PairView :=
  { v with listener := k', up := v.up ++ signals out, down }

/-- The listener moves on to `s'`. -/
theorem Following.listenerMoved {s' : Standing} (following : v.Following s t)
    (setup : k'.setup = v.listener.setup) (agrees : k'.Agrees)
    (fresh : s'.announced = false → s'.controller = some v.listener.setup.controllerFingerprint)
    (replays : Replays (Standing.Advance v.known) s' down t)
    (stands : s'.roleEpoch = k'.currentRoleState.roleEpoch ∧
      s'.controller = k'.currentRoleState.controllerFingerprint)
    (holds : k'.preparedRole = none ∨ k'.preparedRole = s'.offer)
    (grown : s.roleEpoch ≤ s'.roleEpoch)
    (ready : ∀ epoch, accepted (signals out) epoch = true → epoch ≤ s'.roleEpoch + 1) :
    (v.afterListener k' out down).Following s' t where
  paired runs := setup ▸ following.paired runs
  coordinated := following.coordinated
  epoch := following.epoch
  stands
  agrees
  fresh := setup ▸ fresh
  replays := by
    have known : (v.afterListener k' out down).known = v.known := by
      simp only [PairView.known, afterListener, setup]
    exact known ▸ replays
  reaches := following.reaches
  offers := following.offers
  holds
  ready epoch held := by
    simp only [afterListener, accepted_append, Bool.or_eq_true] at held
    obtain before | sent := held
    · have bounded := following.ready epoch before
      omega
    · exact ready epoch sent
  ahead := by
    have bounded := following.ahead
    simp only [afterListener]
    omega

/-- What is promised after a turn that passes no announcement on and promises nothing new. -/
theorem promised_afterListener (next : nextHandover down = nextHandover v.down)
    (nothing : ∀ epoch, accepted (signals out) epoch = false)
    (promised : (v.afterListener k' out down).promised = true) : v.promised = true := by
  have next : nextHandover (v.afterListener k' out down).down = nextHandover v.down := next
  refine promised_of next (commitReady_mono id (fun _ => ⟨rfl, rfl⟩) fun epoch held => ?_) promised
  simpa [afterListener, nothing] using held

/-- A turn that concerns no handover. -/
theorem Following.listenerKept (following : v.Following s t)
    (taken : v.down = signal event.frame? ++ down)
    (unrelated : ∀ f, event.frame? = some f → f.isHandover = false)
    (setup : k'.setup = v.listener.setup) (agrees : k'.Agrees)
    (same : k'.currentRoleState = v.listener.currentRoleState ∧
      k'.preparedRole = v.listener.preparedRole)
    (nothing : ∀ epoch, accepted (signals out) epoch = false) :
    ∃ s', (v.afterListener k' out down).Following s' t ∧
      (v.breaksPromise (.listener event) = false → v.Keeps s →
        (v.afterListener k' out down).Keeps s') := by
  have replays := following.replays
  rw [taken] at replays
  refine ⟨s, following.listenerMoved setup agrees following.fresh (Standing.take_unrelated replays unrelated)
    (same.1 ▸ following.stands) (same.2 ▸ following.holds) (Nat.le_refl _)
    (fun epoch held => by simp [nothing] at held), fun _ keeps promised => ?_⟩
  refine same.2.trans (keeps (promised_afterListener ?_ nothing promised))
  rw [taken, nextHandover_append]
  cases frame : event.frame? with
  | none => simp [nextHandover]
  | some f =>
    have passed : nextHandover (signal (some f)) = none := by
      refine nextHandover_unrelated fun g member => ?_
      rw [signal_some, List.mem_filter, List.mem_singleton] at member
      exact member.1 ▸ unrelated f frame
    simp [passed]

/-- A turn that takes an announcement and holds from then on exactly what is on offer. -/
theorem Following.listenerTook {s' : Standing} {frame : Frame} (following : v.Following s t)
    (setup : k'.setup = v.listener.setup) (agrees : k'.Agrees)
    (advance : s.Advance v.known frame s') (rest : Replays (Standing.Advance v.known) s' down t)
    (stands : s'.roleEpoch = k'.currentRoleState.roleEpoch ∧
      s'.controller = k'.currentRoleState.controllerFingerprint)
    (held : k'.preparedRole = s'.offer)
    (ready : ∀ epoch, accepted (signals out) epoch = true → epoch ≤ s'.roleEpoch + 1) :
    ∃ s', (v.afterListener k' out down).Following s' t ∧
      (v.breaksPromise (.listener event) = false → v.Keeps s →
        (v.afterListener k' out down).Keeps s') :=
  ⟨s', following.listenerMoved setup agrees (advance.fresh following.fresh) rest stands (.inr held) advance.epoch_le ready,
    fun _ _ _ => held⟩

theorem Following.listenerTurn (following : v.Following s t)
    (taken : v.down = signal event.frame? ++ down)
    (turned : v.listener.Turned released event (.ok ()) k' out) :
    ∃ s', (v.afterListener k' out down).Following s' t ∧
      (v.breaksPromise (.listener event) = false → v.Keeps s →
        (v.afterListener k' out down).Keeps s') := by
  have replays := following.replays
  rw [taken] at replays
  have agrees := turned.agrees following.agrees
  cases turned with
  | idle gate after ignored core silent still =>
    subst core
    have nothing : ∀ epoch, accepted (signals out) epoch = false := by simp [silent]
    by_cases related : ∃ f, event = .frame f ∧ f.isHandover = true
    · obtain ⟨f, rfl, handover⟩ := related
      cases f with
      | role announcement =>
        cases announcement with
        | sessionState state => exact absurd ignored id
        | prepare prepare =>
          obtain ⟨s', advance, rest⟩ := Standing.take rfl replays
          exact absurd (advance.validatePrepare following.stands.1) ignored
        | commit commit =>
          obtain ⟨s', advance, rest⟩ := Standing.take rfl replays
          obtain ⟨prepared, waiting, invalid⟩ := ignored
          have held : s.offer = some prepared :=
            (following.holds.resolve_left (by simp [waiting])).symm.trans waiting
          exact absurd (advance.validateCommit held) invalid
        | abort abort =>
          obtain ⟨s', advance, rest⟩ := Standing.take rfl replays
          have free : v.listener.preparedRole = none := by
            cases advance with
            | abort abort announced epoch controller =>
              rw [following.stands.1] at epoch
              rw [following.stands.2] at controller
              simpa [ListenerCore.MayIgnore, epoch, controller] using ignored
            | other frame unrelated => cases unrelated
          refine following.listenerTook rfl agrees advance rest ?_ ?_ (by simp [nothing]) <;>
            cases advance with
            | abort abort announced epoch controller => first | exact following.stands | exact free
            | other frame unrelated => cases unrelated
        | _ => cases handover
      | _ => cases handover
    · refine following.listenerKept taken (fun f eq => ?_) rfl agrees ⟨rfl, rfl⟩ nothing
      exact Bool.eq_false_iff.mpr fun handover => related ⟨f, by simpa using eq, handover⟩
  | left ended => exact absurd rfl ended
  | injected input received receives core effects =>
    subst received core effects
    exact following.listenerKept taken (by simp [Frame.isHandover]) rfl agrees
      ⟨rfl, rfl⟩ (by simp)
  | entered edge position received receives core silent still =>
    subst received core
    exact following.listenerKept taken (by simp [Frame.isHandover]) rfl agrees
      ⟨rfl, rfl⟩ (by simp [silent])
  | toggled command free core sends still =>
    subst command core
    refine following.listenerKept taken (by simp) rfl agrees ⟨rfl, rfl⟩ fun epoch => ?_
    rw [sends]
    split <;> rfl
  | forwarded enabled received gate after core silent still =>
    subst received core
    exact following.listenerKept taken (by simp [Frame.isHandover]) rfl agrees
      ⟨rfl, rfl⟩ (by simp [silent])
  | paused paused command supported core sends still =>
    subst command core
    exact following.listenerKept taken (by simp) rfl agrees ⟨rfl, rfl⟩ fun epoch => by
      rw [sends]; rfl
  | pausedByPeer paused received gate after core silent still =>
    subst received core
    exact following.listenerKept taken (by simp [Frame.isHandover]) rfl agrees
      ⟨rfl, rfl⟩ (by simp [silent])
  | session state received gate after core silent still =>
    subst received core
    obtain ⟨s', advance, rest⟩ := Standing.take rfl replays
    refine following.listenerTook rfl agrees advance rest ?_ ?_ (by simp [silent]) <;>
      cases advance with
      | sessionState state fresh epoch => first | exact ⟨rfl, rfl⟩ | rfl
      | other frame unrelated => cases unrelated
  | expired passes gate after core silent still =>
    obtain ⟨liveness, rfl⟩ := passes
    subst core
    have nothing : ∀ epoch, accepted (signals out) epoch = false := by simp [silent]
    refine ⟨s, following.listenerMoved rfl agrees following.fresh replays following.stands
      (.inl rfl) (Nat.le_refl _) (by simp [nothing]), fun kept keeps promised => ?_⟩
    have promised := promised_afterListener (v := v) (congrArg nextHandover taken.symm) nothing
      promised
    have free : v.listener.preparedRole = none := by simpa [breaksPromise, promised] using kept
    exact free.symm.trans (keeps promised)
  | dropped event_eq prepared waiting detail core sends still =>
    subst event_eq core
    have nothing : ∀ epoch, accepted (signals out) epoch = false := by simp [sends, accepted]
    refine ⟨s, following.listenerMoved rfl agrees following.fresh replays following.stands
      (.inl rfl) (Nat.le_refl _) (by simp [nothing]), fun kept keeps promised => ?_⟩
    have promised := promised_afterListener (v := v) (congrArg nextHandover taken.symm) nothing
      promised
    simp [breaksPromise, promised, waiting] at kept
  | refused prepare received unable detail core sends still =>
    subst received core
    have nothing : ∀ epoch, accepted (signals out) epoch = false := by simp [sends, accepted]
    obtain ⟨s', advance, rest⟩ := Standing.take rfl replays
    cases advance with
    | prepare prepare announced free controller member preparing named epoch bound =>
      have waiting : v.listener.preparedRole = none := by simpa [free] using following.holds
      refine ⟨{ s with offer := some prepare }, following.listenerMoved rfl agrees following.fresh
        rest following.stands (.inl waiting) (Nat.le_refl _) (by simp [nothing]),
        fun kept keeps promised => ?_⟩
      have tail : v.down.tail = down := by
        simp [taken, ListenerEvent.frame?, signal_some, Frame.isSignal]
      have later : ({ v with down } : PairView).promised = true :=
        promised_afterListener (v := { v with down }) rfl nothing promised
      obtain pausing | unavailable := unable
      · simp [breaksPromise, tail, later, pausing] at kept
      · simp [breaksPromise, tail, later, unavailable] at kept
    | other frame unrelated => cases unrelated
  | prepared prepare received valid gate after captureReady detail core sends still =>
    subst received core
    obtain ⟨s', advance, rest⟩ := Standing.take rfl replays
    cases advance with
    | prepare prepare announced free controller member preparing named epoch bound =>
      refine following.listenerTook rfl agrees (.prepare prepare announced free controller member
        preparing named epoch bound) rest following.stands rfl fun ready held => ?_
      have same : ready = prepare.roleEpoch := by
        simp only [sends, accepted, List.any_cons, List.any_nil, Bool.or_false] at held
        split at held
        · rename_i equal
          cases equal
          simpa [eq_comm] using held
        · cases held
      simp only [same, epoch]
      exact Nat.le_refl _
    | other frame unrelated => cases unrelated
  | committed prepared commit controller received waiting valid named core sends still =>
    subst received core
    have nothing : ∀ epoch, accepted (signals out) epoch = false := by simp [sends]
    obtain ⟨s', advance, rest⟩ := Standing.take rfl replays
    refine following.listenerTook rfl agrees advance rest ?_ ?_ (by simp [nothing]) <;>
      cases advance with
      | commit commit announced controller named stable offered epoch =>
        first | exact ⟨rfl, rfl⟩ | rfl
      | other frame unrelated => cases unrelated
  | aborted abort received core silent still =>
    subst received core
    obtain ⟨s', advance, rest⟩ := Standing.take rfl replays
    refine following.listenerTook rfl agrees advance rest ?_ ?_ (by simp [silent]) <;>
      cases advance with
      | abort abort announced epoch controller => first | exact following.stands | rfl
      | other frame unrelated => cases unrelated

end ListenerTurn

/-! ## Whole runs -/

section Runs

variable {v v' : PairView} {event : PairEvent}

/-- A step of either loop after which the listener still runs. -/
theorem Following.step {s t : Standing} (following : v.Following s t) (step : v.Step event v')
    (runs : v'.listenerOpen = true) :
    ∃ s' t', v'.Following s' t' ∧ (v.breaksPromise event = false → v.Keeps s → v'.Keeps s') := by
  cases step with
  | connector running taken turned =>
    obtain ⟨t', following', keeps⟩ := following.connectorTurn running taken turned
    exact ⟨s, t', following', fun _ => keeps⟩
  | @listener event released result k' out down running taken turned =>
    cases result with
    | error exit => cases runs
    | ok =>
      obtain ⟨s', following', keeps⟩ := following.listenerTurn taken turned
      refine ⟨s', t, ?_, ?_⟩
      · exact { following' with }
      · exact keeps

theorem Step.listenerRan (step : v.Step event v') (runs : v'.listenerOpen = true) :
    v.listenerOpen = true := by
  cases step with
  | connector => exact runs
  | listener running => exact running

/-- Every session starts in step, with nothing promised. -/
theorem first_following {setup : ConnectorSetup} {listenerSetup : ListenerSetup}
    (persisted : Option String) (preferConnector paused : Bool)
    (paired : Paired setup listenerSetup) :
    ∃ s t, (first setup (setup.initialRoleState persisted preferConnector paused)
        listenerSetup).Following s t ∧
      (first setup (setup.initialRoleState persisted preferConnector paused) listenerSetup).Keeps
        s := by
  have unnamed : listenerSetup.controllerFingerprint ≠ listenerSetup.localFingerprint := by
    rw [paired.connectorKnown, paired.listenerKnown]
    exact paired.distinct
  refine ⟨{ announced := false, roleEpoch := initialRoleEpoch
            controller := some listenerSetup.controllerFingerprint, offer := none },
    { announced := true, roleEpoch := initialRoleEpoch
      controller := (setup.initialRoleState persisted preferConnector paused).controllerFingerprint
      offer := none }, ?_, ?_⟩
  · exact {
      paired := fun _ => paired
      coordinated := fun _ => ⟨⟨rfl, rfl⟩, rfl, rfl, rfl, nofun⟩
      epoch := rfl
      stands := ⟨rfl, rfl⟩
      agrees := ⟨rfl, by simpa [first, Listener.initial, Listener.core] using unnamed⟩
      fresh := fun _ => rfl
      replays := .single (.sessionState _ rfl rfl)
      reaches := ⟨rfl, rfl, rfl⟩
      offers := fun _ => rfl
      holds := .inl rfl
      ready := nofun
      ahead := Nat.le_succ _ }
  · exact fun _ => rfl

end Runs

end PairView

/-- In every run the listener can follow the connector; in a run in which it breaks no promise it
    also holds what may be committed. -/
theorem Pair.following {start s : Pair} (test : PairView → PairEvent → Bool)
    (started : start.Started)
    (run : machine.Run (fun s action => s.meets test action = true) start s)
    (runs : s.listenerOpen = true) :
    ∃ from' upTo, s.view.Following from' upTo ∧
      ((∀ v event, test v event = true → v.breaksPromise event = false) → s.view.Keeps from') := by
  obtain ⟨setup, persisted, preferConnector, paused, listenerSetup, paired, view⟩ := started.view_eq
  refine Pair.invariant test (I := fun v => v.listenerOpen = true → ∃ from' upTo,
    v.Following from' upTo ∧
      ((∀ v event, test v event = true → v.breaksPromise event = false) → v.Keeps from'))
    ?_ run ?_ runs
  · intro v event v' allowed step following runs
    obtain ⟨_, _, before, kept⟩ := following (step.listenerRan runs)
    obtain ⟨s', t', after, keeps⟩ := before.step step runs
    exact ⟨s', t', after, fun sound => keeps (sound v event allowed) (kept sound)⟩
  · obtain ⟨_, _, following, keeps⟩ :=
      PairView.first_following persisted preferConnector paused paired
    exact fun _ => view ▸ ⟨_, _, following, fun _ => keeps⟩

/-- What the listener does with a `Commit` that completes its `Prepare`. -/
theorem Listener.onCommit_prepared {l : Listener} {prepared commit : RoleState} {p : Platform}
    (waiting : l.preparedRole = some prepared) (valid : validateCommit prepared commit = .ok ())
    (named : commit.controllerFingerprint.isSome) :
    (handle p (.frame (.role (.commit commit))) l).state.roleEpoch = commit.roleEpoch ∧
      (handle p (.frame (.role (.commit commit))) l).state.currentRoleState = commit := by
  have turned := turned p l (.frame (.role (.commit commit)))
  cases turned with
  | idle gate after ignored =>
    obtain ⟨prepared', waiting', invalid⟩ := ignored
    obtain rfl : prepared = prepared' := by simpa [core, waiting] using waiting'
    exact absurd valid invalid
  | left ended allowed =>
    obtain none | none := allowed
    · simp [core, waiting] at none
    · simp [none] at named
  | committed prepared commit' controller received waiting' valid' named' core =>
    cases received
    simp only [Listener.core, ListenerCore.mk.injEq] at core
    exact ⟨core.2.2.2.2.1, core.2.2.2.2.2.1⟩
  | expired passes => obtain ⟨_, passes⟩ := passes; cases passes
  | injected _ received | entered _ _ received | toggled received | forwarded _ received
  | pausedByPeer _ received | session _ received | dropped received | refused _ received
  | prepared _ received | aborted _ received => cases received
  | paused _ received => cases received

/-- In runs in which the listener breaks no promise, every `Commit` finds the `Prepare` it completes,
    and leaves both sides with the same epoch and controller. -/
theorem commit_finds_its_prepare {start s : Pair} {commit : RoleState} {rest : List Frame}
    (started : start.Started)
    (run : Pair.machine.Run
      (fun s action => s.meets (fun v event => !v.breaksPromise event) action = true) start s)
    (runs : s.listenerOpen = true) (delivered : s.down = .role (.commit commit) :: rest) :
    (∃ controller, commit.controllerFingerprint = some controller ∧
      s.listener.preparedRole = some (commit.asPrepare controller)) ∧
    ∀ p, (Listener.handle p (.frame (.role (.commit commit))) s.listener).state.roleEpoch =
        s.connector.roleEpoch ∧
      (Listener.handle p (.frame (.role (.commit commit)))
          s.listener).state.currentRoleState.controllerFingerprint =
        s.connector.coordinator.stable.controllerFingerprint := by
  obtain ⟨from', upTo, following, kept⟩ := Pair.following _ started run runs
  have keeps := kept fun v event allowed => by simpa using allowed
  have view : s.view.down = .role (.commit commit) :: rest.filter (·.isSignal) := by
    simp [Pair.view, delivered, Frame.isSignal]
  have promised : s.view.promised = true := by
    have next : nextHandover s.view.down = some (.role (.commit commit)) :=
      view ▸ nextHandover_cons (show Frame.isHandover (.role (.commit commit)) = true from rfl)
    simp [PairView.promised, next, Frame.isCommit]
  have held : s.listener.preparedRole = from'.offer := keeps promised
  have replays := following.replays
  rw [view] at replays
  obtain - | ⟨advance, remaining⟩ := replays
  have grown := Standing.epoch_le remaining
  have valid : ∀ prepared, from'.offer = some prepared → validateCommit prepared commit = .ok () :=
    fun _ => advance.validateCommit
  cases advance with
  | other frame unrelated => cases unrelated
  | commit commit announced controller named stable offered epoch =>
    have waiting : s.listener.preparedRole = some (commit.asPrepare controller) :=
      held.trans offered
    refine ⟨⟨controller, named, waiting⟩, fun p => ?_⟩
    obtain ⟨taken, role⟩ :=
      Listener.onCommit_prepared (p := p) waiting (valid _ offered) (by simp [named])
    have reached : upTo.roleEpoch = commit.roleEpoch := by
      have ahead := following.ahead
      have reaches := following.reaches.2.1
      simp only at grown
      omega
    constructor
    · rw [taken, ← reached, following.reaches.2.1]
      exact following.epoch.symm
    · rw [role]
      have same := Standing.controller_eq remaining announced reached
      exact same.symm.trans following.reaches.2.2

/-- The connector's user hands the control to the listener, which prepares. -/
def samplePrepared : List (Platform × PairAction) :=
  [({}, .toListener), ({}, .toListener), ({}, .connector (.tray (.setController .peer))),
    ({}, .toListener), ({}, .toListener)]

/-- The readiness arrives and the connector commits. -/
def sampleCommitted : List (Platform × PairAction) :=
  samplePrepared.append [({}, .toConnector), ({}, .toConnector)]

/-- The commit of the sample handover is delivered. -/
def sampleHandedOver : List (Platform × PairAction) := sampleCommitted.append [({}, .toListener)]

/-- The assignment both sides agreed on. -/
def sampleCommit : RoleState := { sampleRoleState "listener" with roleEpoch := 2 }

theorem commit_finds_its_prepare_sample :
    (∃ controller, sampleCommit.controllerFingerprint = some controller ∧
      (Pair.machine.reach samplePair sampleCommitted).listener.preparedRole =
        some (sampleCommit.asPrepare controller)) ∧
    ∀ p, (Listener.handle p (.frame (.role (.commit sampleCommit)))
          (Pair.machine.reach samplePair sampleCommitted).listener).state.roleEpoch =
        (Pair.machine.reach samplePair sampleCommitted).connector.roleEpoch ∧
      (Listener.handle p (.frame (.role (.commit sampleCommit)))
          (Pair.machine.reach samplePair
            sampleCommitted).listener).state.currentRoleState.controllerFingerprint =
        (Pair.machine.reach samplePair
          sampleCommitted).connector.coordinator.stable.controllerFingerprint :=
  commit_finds_its_prepare samplePair_started
    (run_reach_of_allowedList (Pair.meets fun v event => !v.breaksPromise event) (fun _ _ => id)
      sampleCommitted (by decide +kernel) (by decide +kernel))
    (by decide +kernel)
    (show (Pair.machine.reach samplePair sampleCommitted).down =
      [.role (.commit sampleCommit)] by decide +kernel)

/-- The monitors of the listener change before the readiness arrives. -/
def sampleDropped : List (Platform × PairAction) :=
  samplePrepared.append
    [({}, .listener (.capture (some .layoutChanged))), ({}, .toConnector), ({}, .toConnector)]

/-- The commit comes to a listener that has nothing prepared, which ends the session. -/
theorem commit_without_prepare :
    samplePair.Started ∧
    Pair.machine.Run Machine.anyAction samplePair (Pair.machine.reach samplePair sampleDropped) ∧
    (Pair.machine.reach samplePair sampleDropped).listenerOpen = true ∧
    (Pair.machine.reach samplePair sampleDropped).down = [.role (.commit sampleCommit)] ∧
    (Pair.machine.reach samplePair sampleDropped).listener.preparedRole = none ∧
    (Listener.handle {} (.frame (.role (.commit sampleCommit)))
        (Pair.machine.reach samplePair sampleDropped).listener).result =
      .error (.failed "received role commit without a matching prepare") :=
  ⟨samplePair_started, run_reach _ (by decide +kernel), by decide +kernel, by decide +kernel,
    by decide +kernel, by decide +kernel⟩

end EdgeKvm.Session
