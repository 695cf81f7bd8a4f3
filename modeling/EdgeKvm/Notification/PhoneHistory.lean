import EdgeKvm.Notification.PhoneTurns
import EdgeKvm.Notification.Preservation

/-!
# Phones at one computer of the notification system

The phone sessions of one computer, the host, on top of the whole notification system: each event
of a phone is one commit of the host's hub. What a session of the same phone left behind is in the
store only; a reconnect starts with a new source.
-/

namespace EdgeKvm.Notification

open EdgeKvm.Lib

universe u

variable {ι : Type u}

/-- The host's hub: the coordinator's, or that of a replica. -/
def World.hub (world : World ι) : Option ι → NotificationHub
  | none => world.coordinator
  | some i => world.replica i

/-- The step of the system that commits a phone event of the host. -/
def phoneCommit (host : Option ι) (phoneInstances : List (String × PhoneInstance))
    (importedPhones : List (String × String))
    (operations : List (String × Option SharedNotification)) (persist : Persist) : Action ι :=
  match host with
  | none => .coordinatorPhone phoneInstances importedPhones operations persist
  | some i => .link i (.replicaPhone phoneInstances importedPhones operations persist)

/-- The notification system with the phone sessions and the desktop of the host. -/
structure PhoneHistory (ι : Type u) where
  world : World ι
  cache : PhoneProjections := {}
  source : Fingerprint → Option PhoneNotificationSource := fun _ => none

/-- The steps beside the phones' own: `projections` is what the shell bridge does to the cache. -/
inductive PhoneAction (ι : Type u) where
  | system (action : Action ι)
  | projections (cache : PhoneProjections)
  | connect (phone : Fingerprint) (name : String)
  | event (phone : Fingerprint) (event : NotificationEvent) (desktop : Option Desktop)
      (epoch : Except String String) (persist : Persist)

/-- What a step of the system is for the host. -/
inductive HostStep where
  | phone
  | crash
  | other
  deriving DecidableEq

/-- Which step of the system is the host's own. -/
def hostStep [DecidableEq ι] (host : Option ι) : Action ι → HostStep
  | .coordinatorPhone .. => if host = none then .phone else .other
  | .coordinatorCrash => if host = none then .crash else .other
  | .link i (.replicaPhone ..) => if host = some i then .phone else .other
  | .link i .replicaCrash => if host = some i then .crash else .other
  | _ => .other

namespace PhoneHistory

variable [DecidableEq ι]

/-- Puts the host's hub in place. -/
def withHub (s : PhoneHistory ι) (host : Option ι) (hub : NotificationHub) : World ι :=
  match host with
  | none => { s.world with coordinator := hub }
  | some i => { s.world with replica := Function.update s.world.replica i hub }

/-- An event of a phone whose session runs. -/
def handle (s : PhoneHistory ι) (host : Option ι) (phone : Fingerprint)
    (turn : PhoneNotificationSource.Turn) : PhoneHistory ι :=
  { world := s.withHub host turn.hub
    cache := turn.projected.cache
    source := Function.update s.source phone (some turn.source) }

def exec (host : Option ι) (s : PhoneHistory ι) : PhoneAction ι → Option (PhoneHistory ι)
  | .system action =>
    match hostStep host action with
    | .phone => none
    | .crash => ((system ι).exec s.world action).map fun world => { world }
    | .other => ((system ι).exec s.world action).map fun world => { s with world }
  | .projections cache => some { s with cache }
  | .connect phone name =>
    some { s with source := Function.update s.source phone (some (phoneSource phone name)) }
  | .event phone event desktop epoch persist =>
    (s.source phone).map fun source => s.handle host phone
      (source.apply (s.world.hub host) s.cache event desktop epoch persist)

end PhoneHistory

/-- The notification system with the phones of `host`. -/
def phones (ι : Type u) [DecidableEq ι] (host : Option ι) :
    Machine (PhoneHistory ι) (PhoneAction ι) := ⟨PhoneHistory.exec host⟩

/-! ## The steps that are not the host's own -/

namespace NotificationHub

/-- What the steps of the system, a phone event and a crash aside, do to a hub: at most one
    commit, which keeps the phone identities. -/
def Environment (hub hub' : NotificationHub) : Prop :=
  ∃ next, hub.Commits next hub' ∧ next.phoneInstances = hub.state.phoneInstances ∧
    (hub.isCoordinator = true → next.pending = hub.state.pending)

variable {hub hub' : NotificationHub} {persist : Persist}

theorem Environment.refl (hub : NotificationHub) : hub.Environment hub :=
  ⟨hub.state, .none _ rfl rfl rfl, rfl, fun _ => rfl⟩

theorem commit_environment {next : Store} (phones : next.phoneInstances = hub.state.phoneInstances)
    (pending : hub.isCoordinator = true → next.pending = hub.state.pending) :
    hub.Environment (hub.commit next persist).1 :=
  ⟨next, commit_commits hub next persist, phones, pending⟩

theorem local_environment (key : NotificationKey) (content : Option SharedNotification) :
    hub.Environment (hub.local' key content persist).1 := by
  unfold local'
  split
  · exact .refl hub
  · exact .refl hub
  · rename_i next queued
    have queued := Store.queueLocal_cases queued
    refine commit_environment queued.phoneInstances fun role => ?_
    rw [role] at queued
    exact queued.pending

theorem publish_environment (published : hub.publish = some hub') : hub.Environment hub' := by
  unfold publish at published
  split at published
  · cases published
  · cases published
    exact ⟨hub.state, .none _ rfl rfl rfl, rfl, fun _ => rfl⟩

theorem receive_environment (link : NotificationLink) (event : NotificationSync) :
    hub.Environment (link.receive hub event persist).1 := by
  cases role : hub.isCoordinator with
  | true =>
    cases event with
    | submit operation =>
      simp only [NotificationLink.receive, role]
      split
      · exact .refl hub
      · unfold NotificationLink.receiveSubmit
        split
        · exact .refl hub
        · exact .refl hub
        · rename_i next applied
          have applied := (Store.apply_cases applied).2
          refine commit_environment ?_ fun _ => ?_ <;> rw [applied.eq_records]
    | settings coordinator => exact .refl hub
    | _ =>
      simp only [NotificationLink.receive, role]
      split <;> exact .refl hub
  | false =>
    have other : ∀ {p : Prop}, hub.isCoordinator = true → p := fun same => by
      rw [role] at same
      cases same
    have received := NotificationLink.receive_replica link persist role event
    generalize link.receive hub event persist = result at received ⊢
    cases received with
    | acknowledged operation changed next sequence found applied =>
      exact commit_environment (by rw [applied.eq_records]) other
    | renewed epoch records staged => exact commit_environment rfl other
    | _ => exact .refl hub

end NotificationHub

/-- A step of one link keeps the coordinator's phones, and a replica's unless it is a step of the
    replica's own phones or process. -/
theorem Pair.exec_environment {pair pair' : Pair} {action : LinkAction}
    (executed : pair.exec action = some pair') :
    pair.coordinator.Environment pair'.coordinator ∧
      (pair.replica.Environment pair'.replica ∨ action = .replicaCrash ∨
        ∃ phoneInstances importedPhones operations persist,
          action = .replicaPhone phoneInstances importedPhones operations persist) := by
  cases action with
  | replicaLocal key content persist =>
    cases executed
    exact ⟨.refl _, .inl (NotificationHub.local_environment key content)⟩
  | replicaPhone phoneInstances importedPhones operations persist =>
    cases executed
    exact ⟨.refl _, .inr (.inr ⟨_, _, _, _, rfl⟩)⟩
  | replicaPublish =>
    obtain ⟨hub, published, rfl⟩ := Option.map_eq_some_iff.mp executed
    exact ⟨.refl _, .inl (NotificationHub.publish_environment published)⟩
  | replicaCrash =>
    simp only [Pair.exec, Pair.crashReplica] at executed
    split at executed
    · cases executed
    · cases executed
      exact ⟨.refl _, .inr (.inl rfl)⟩
  | replicaNext =>
    simp only [Pair.exec, Pair.replicaNext, Option.bind_eq_bind, Option.bind_eq_some_iff] at executed
    obtain ⟨link, -, ⟨event, link'⟩, -, same⟩ := executed
    cases same
    exact ⟨.refl _, .inl (.refl _)⟩
  | coordinatorNext =>
    simp only [Pair.exec, Pair.coordinatorNext, Option.bind_eq_bind, Option.bind_eq_some_iff]
      at executed
    obtain ⟨link, -, ⟨event, link'⟩, -, same⟩ := executed
    cases same
    exact ⟨.refl _, .inl (.refl _)⟩
  | deliverToReplica persist =>
    simp only [Pair.exec, Pair.deliverToReplica] at executed
    split at executed
    · cases executed
    · split at executed
      · cases executed
        exact ⟨.refl _, .inl (.refl _)⟩
      · cases executed
        exact ⟨.refl _, .inl (NotificationHub.receive_environment _ _)⟩
  | deliverToCoordinator persist =>
    simp only [Pair.exec, Pair.deliverToCoordinator] at executed
    split at executed
    · cases executed
    · split at executed
      · cases executed
        exact ⟨.refl _, .inl (.refl _)⟩
      · cases executed
        exact ⟨NotificationHub.receive_environment _ _, .inl (.refl _)⟩
  | connect coordinatorSupports replicaSupports =>
    cases executed
    exact ⟨.refl _, .inl (.refl _)⟩
  | dropCoordinatorEnd =>
    cases executed
    exact ⟨.refl _, .inl (.refl _)⟩
  | dropReplicaEnd =>
    cases executed
    exact ⟨.refl _, .inl (.refl _)⟩

section Host

variable [DecidableEq ι] {host : Option ι} {world world' : World ι} {action : Action ι}

/-- A step that is not the host's own keeps its phones. -/
theorem World.hub_environment (step : hostStep host action = .other)
    (executed : (system ι).exec world action = some world') :
    (world.hub host).Environment (world'.hub host) := by
  cases action with
  | coordinatorLocal key content persist =>
    cases executed
    cases host with
    | none => exact NotificationHub.local_environment key content
    | some j => exact .refl _
  | coordinatorPhone phoneInstances importedPhones operations persist =>
    cases executed
    cases host with
    | none => cases step
    | some j => exact .refl _
  | coordinatorPublish =>
    obtain ⟨hub, published, rfl⟩ := Option.map_eq_some_iff.mp executed
    cases host with
    | none => exact NotificationHub.publish_environment published
    | some j => exact .refl _
  | coordinatorCrash =>
    cases host with
    | none => cases step
    | some j =>
      simp only [system, World.exec, World.crashCoordinator] at executed
      split at executed
      · cases executed
      · cases executed
        exact .refl _
  | link i action =>
    obtain ⟨pair, moved, rfl⟩ := Option.map_eq_some_iff.mp executed
    obtain ⟨coordinator, replica⟩ := Pair.exec_environment moved
    cases host with
    | none => exact coordinator
    | some j =>
      by_cases same : j = i
      · subst same
        simp only [World.hub, World.withPair, Function.update_self]
        rcases replica with kept | rfl | ⟨_, _, _, _, rfl⟩
        · exact kept
        · simp [hostStep] at step
        · simp [hostStep] at step
      · simp only [World.hub, World.withPair, Function.update_of_ne same]
        exact .refl _

/-- The host's crash. -/
theorem World.hub_crash (step : hostStep host action = .crash)
    (executed : (system ι).exec world action = some world') :
    (world'.hub host).state = (world.hub host).disk ∧
      (world'.hub host).disk = (world.hub host).disk ∧
      (world'.hub host).identity = (world.hub host).identity := by
  have restarted : ∃ hub, (world.hub host).restart = .ok hub ∧ world'.hub host = hub := by
    cases action with
    | coordinatorCrash =>
      cases host with
      | some i => cases step
      | none =>
        simp only [system, World.exec, World.crashCoordinator] at executed
        split at executed
        · cases executed
        · rename_i hub restarted
          cases executed
          exact ⟨hub, restarted, rfl⟩
    | link i action =>
      obtain ⟨pair, moved, rfl⟩ := Option.map_eq_some_iff.mp executed
      cases action with
      | replicaCrash =>
        by_cases same : host = some i
        · subst same
          simp only [Pair.exec, Pair.crashReplica] at moved
          split at moved
          · cases moved
          · rename_i hub restarted
            cases moved
            exact ⟨hub, restarted, by simp [World.hub, World.withPair]⟩
        · simp [hostStep, same] at step
      | replicaPhone => simp only [hostStep] at step; split at step <;> cases step
      | _ => cases step
    | coordinatorPhone => simp only [hostStep] at step; split at step <;> cases step
    | _ => cases step
  obtain ⟨hub, ok, same⟩ := restarted
  simp only [NotificationHub.restart, bind_eq_ok, pure_eq_ok] at ok
  obtain ⟨-, -, -, -, -, -, rfl⟩ := ok
  rw [same]
  exact ⟨rfl, rfl, rfl⟩

/-- A phone event of the host is a step of the system, or leaves the hubs alone. -/
theorem PhoneHistory.withHub_step (s : PhoneHistory ι) {hub : NotificationHub} {persist : Persist}
    (applied : hub = s.world.hub host ∨ ∃ phoneInstances importedPhones operations,
      hub = ((s.world.hub host).applyPhone phoneInstances importedPhones operations persist).1) :
    s.withHub host hub = s.world ∨
      ∃ action, (system ι).exec s.world action = some (s.withHub host hub) := by
  rcases applied with rfl | ⟨phoneInstances, importedPhones, operations, rfl⟩
  · left
    cases host with
    | none => rfl
    | some i => simp [withHub, World.hub]
  · refine .inr ⟨phoneCommit host phoneInstances importedPhones operations persist, ?_⟩
    cases host with
    | none => rfl
    | some i =>
      simp [phoneCommit, system, World.exec, Pair.exec, World.withPair, Pair.withReplica,
        World.pair, withHub, World.hub]

theorem PhoneHistory.hub_withHub (s : PhoneHistory ι) (hub : NotificationHub) :
    (s.withHub host hub).hub host = hub := by
  cases host with
  | none => rfl
  | some i => simp [withHub, World.hub]

end Host

end EdgeKvm.Notification
