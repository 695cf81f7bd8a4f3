import EdgeKvm.Notification.Snapshots

/-!
# Who may change a notification history

A journal of what the peers submitted, what was queued here, and which frames each session got
attributes the live records of the coordinator, and says when a link was confirmed. The peers
may send anything: nothing is assumed about the frames.
-/

namespace EdgeKvm.Notification

open EdgeKvm.Lib Machine

universe u

variable {ι : Type u}

/-- The frames delivered to the session of each link since it was made, the operations that were
    submitted with the peer the link is authenticated as, and those queued on this computer. -/
structure Journal (ι : Type u) where
  frames : ι → List NotificationSync := fun _ => []
  submitted : List (String × NotificationOperation) := []
  queued : List (NotificationKey × Option SharedNotification) := []

/-- The content of a live record was submitted by the peer its key names, or queued here under
    the own name. -/
def Journal.Attributed (journal : Journal ι) (identity : String) (key : NotificationKey)
    (content : SharedNotification) : Prop :=
  (∃ operation, (key.origin, operation) ∈ journal.submitted ∧ operation.key = key ∧
    operation.content = some content) ∨
  key.origin = identity ∧ (key, some content) ∈ journal.queued

/-- Every live record is attributed. -/
def Journal.Explains (journal : Journal ι) (identity : String)
    (records : List NotificationRecord) : Prop :=
  ∀ record ∈ records, ∀ content, record.content = some content →
    journal.Attributed identity record.key content

/-- What an operation may put into an attributed store. -/
def Journal.Allows (journal : Journal ι) (identity : String)
    (operation : NotificationOperation) : Prop :=
  ∀ content, operation.content = some content →
    journal.Attributed identity operation.key content

/-- Nothing of a journal is forgotten but the frames of earlier sessions. -/
structure Journal.Extends (journal journal' : Journal ι) : Prop where
  submitted : journal.submitted ⊆ journal'.submitted
  queued : journal.queued ⊆ journal'.queued

variable {journal journal' : Journal ι} {identity : String} {hub : NotificationHub}
  {records : List NotificationRecord} {operation : NotificationOperation} {persist : Persist}

/-! ## Attribution -/

theorem Journal.Attributed.mono {key : NotificationKey} {content : SharedNotification}
    (attributed : journal.Attributed identity key content) (later : journal.Extends journal') :
    journal'.Attributed identity key content := by
  rcases attributed with ⟨operation, submitted, same, carries⟩ | ⟨origin, queued⟩
  · exact .inl ⟨operation, later.submitted submitted, same, carries⟩
  · exact .inr ⟨origin, later.queued queued⟩

theorem Journal.Explains.mono (explains : journal.Explains identity records)
    (later : journal.Extends journal') : journal'.Explains identity records :=
  fun record member content live => (explains record member content live).mono later

/-- An allowed operation leaves the records attributed. -/
theorem Journal.Explains.applied {before after : Store} {changed : Bool}
    (explains : journal.Explains identity before.records)
    (allowed : journal.Allows identity operation)
    (applied : Store.Applied before operation changed after) :
    journal.Explains identity after.records := by
  cases applied with
  | stale => exact explains
  | superseded =>
    intro record member content live
    rcases Keyed.mem_update member with old | ⟨known, old, same, rfl⟩
    · exact explains record old content live
    · have attributed := allowed content live
      rwa [← same] at attributed
  | pushed =>
    intro record member content live
    rcases List.mem_append.mp member with old | new
    · exact explains record old content live
    · rw [List.mem_singleton] at new
      subst new
      exact allowed content live

/-- A checked operation with content names its sender. -/
theorem Store.origin_of_checked {sender : String}
    (checked : Store.checkOperation sender operation = .ok ⟨⟩)
    {content : SharedNotification} (carries : operation.content = some content) :
    operation.key.origin = sender := by
  simp only [Store.checkOperation, carries, bind_eq_ok, ensure_eq_ok] at checked
  obtain ⟨-, -, -, -, -, origin, -⟩ := checked
  exact origin

/-- A local operation of the coordinator, once it is in the journal. -/
theorem Journal.Explains.queued {s s' : Store} {key : NotificationKey}
    {content : Option SharedNotification} {changed : Bool}
    (explains : journal.Explains s.localIdentity s.records)
    (noted : (key, content) ∈ journal.queued)
    (queued : Store.Queued s key content true changed s') :
    journal.Explains s.localIdentity s'.records ∧ s'.localIdentity = s.localIdentity := by
  cases queued with
  | repeated => exact ⟨explains, rfl⟩
  | committed commits applied checked =>
    have numbered : journal.Explains s.localIdentity
        ({ s with sequence := s.sequence + 1 } : Store).records := explains
    refine ⟨numbered.applied ?_ applied, by rw [applied.eq_records]⟩
    intro carried carries
    have origin := Store.origin_of_checked checked carries
    exact .inr ⟨origin, carries ▸ noted⟩
  | pended replica => cases replica

/-- The stores of the coordinator are attributed. -/
structure Journal.ExplainsHub (journal : Journal ι) (hub : NotificationHub) : Prop where
  state : journal.Explains hub.identity hub.state.records
  disk : journal.Explains hub.identity hub.disk.records
  identity : hub.state.localIdentity = hub.identity

theorem Journal.ExplainsHub.mono (explains : journal.ExplainsHub hub)
    (later : journal.Extends journal') : journal'.ExplainsHub hub :=
  ⟨explains.state.mono later, explains.disk.mono later, explains.identity⟩

theorem Journal.ExplainsHub.commit {next : Store} (explains : journal.ExplainsHub hub)
    (new : journal.Explains hub.identity next.records)
    (identity : next.localIdentity = hub.identity) (persist : Persist) :
    journal.ExplainsHub (hub.commit next persist).1 := by
  cases persist with
  | stored => exact ⟨new, new, identity⟩
  | failed renamed error =>
    cases renamed with
    | true => exact ⟨explains.state, new, explains.identity⟩
    | false => exact ⟨explains.state, explains.disk, explains.identity⟩

theorem Journal.ExplainsHub.local' {key : NotificationKey} {content : Option SharedNotification}
    (explains : journal.ExplainsHub hub) (role : hub.isCoordinator = true)
    (noted : (key, content) ∈ journal.queued) :
    journal.ExplainsHub (hub.local' key content persist).1 := by
  unfold NotificationHub.local'
  rw [role]
  split
  · exact explains
  · exact explains
  · rename_i next queued
    have before : journal.Explains hub.state.localIdentity hub.state.records :=
      explains.identity ▸ explains.state
    have after := before.queued noted (Store.queueLocal_cases queued)
    rw [explains.identity] at after
    exact explains.commit after.1 after.2 persist

theorem Journal.Explains.queueAll (role : hub.isCoordinator = true)
    {operations : List (String × Option SharedNotification)} {s t : Store} {changed : Bool}
    (queued : hub.queueAll operations s = .ok (changed, t))
    (noted : ∀ operation ∈ operations,
      ({ origin := hub.identity, instance' := operation.1 }, operation.2) ∈ journal.queued)
    (identity : s.localIdentity = hub.identity)
    (explains : journal.Explains hub.identity s.records) :
    journal.Explains hub.identity t.records ∧ t.localIdentity = hub.identity := by
  induction operations generalizing s changed with
  | nil =>
    cases queued
    exact ⟨explains, identity⟩
  | cons operation operations ih =>
    simp only [NotificationHub.queueAll, role, bind_eq_ok, pure_eq_ok, Prod.mk.injEq] at queued
    obtain ⟨⟨_, mid⟩, first, ⟨_, last⟩, rest, -, rfl⟩ := queued
    have before : journal.Explains s.localIdentity s.records := identity ▸ explains
    have one := before.queued (noted operation (List.mem_cons_self ..))
      (Store.queueLocal_cases first)
    rw [identity] at one
    exact ih rest (fun other member => noted other (List.mem_cons_of_mem _ member)) one.2 one.1

theorem Journal.ExplainsHub.applyPhone {phoneInstances : List (String × PhoneInstance)}
    {importedPhones : List (String × String)}
    {operations : List (String × Option SharedNotification)}
    (explains : journal.ExplainsHub hub) (role : hub.isCoordinator = true)
    (noted : ∀ operation ∈ operations,
      ({ origin := hub.identity, instance' := operation.1 }, operation.2) ∈ journal.queued) :
    journal.ExplainsHub
      (hub.applyPhone phoneInstances importedPhones operations persist).1 := by
  unfold NotificationHub.applyPhone
  dsimp only
  split
  · exact explains
  · rename_i changed next queued
    split
    · have after := Journal.Explains.queueAll role queued noted explains.identity explains.state
      exact explains.commit after.1 after.2 persist
    · exact explains

/-! ## Confirmation -/

/-- A frame other than a `Settings`. -/
def NotificationSync.isHistory : NotificationSync → Bool
  | .settings _ => false
  | _ => true

/-- What a session holds was delivered to it, and it has nothing but its own `Settings` to send
    until the peer confirmed the owner. -/
structure Journal.Gates (journal : Journal ι) (owner : String) (coordinator : Bool) (i : ι)
    (session : SessionLink) : Prop where
  confirmed : session.link.activity = true → .settings owner ∈ journal.frames i
  queued : ∀ event ∈ session.link.outgoing, event ≠ .settings owner →
    event.isHistory = true ∧ session.link.activity = true
  sent : ∀ event ∈ session.outgoing, event ≠ .settings owner →
    event.isHistory = true ∧ session.link.activity = true
  requests : ∀ event, .event event ∈ session.requests → event ∈ journal.frames i
  current : ∀ event ∈ session.current, event.isControl = true → event ∈ journal.frames i
  submitted : ∀ operation, .submit operation ∈ journal.frames i →
    (session.link.peer, operation) ∈ journal.submitted
  linked : coordinator = false → session.link.peer = owner

variable {owner : String} {coordinator : Bool} {i : ι} {session session' : SessionLink} {event : NotificationSync}
  {link link' : NotificationLink}

/-- The journal learned of other sessions or of local operations. -/
theorem Journal.Gates.mono (gates : journal.Gates owner coordinator i session)
    (frames : journal'.frames i = journal.frames i) (later : journal.Extends journal') :
    journal'.Gates owner coordinator i session where
  confirmed := frames ▸ gates.confirmed
  queued := gates.queued
  sent := gates.sent
  requests := frames ▸ gates.requests
  current := frames ▸ gates.current
  submitted operation delivered := later.submitted (gates.submitted operation (frames ▸ delivered))
  linked := gates.linked

theorem NotificationLink.receive_inactive (hub : NotificationHub) (persist : Persist)
    (inactive : link.activity = false)
    (history : event.isHistory = true) : link.receive hub event persist =
      (hub, .error "Notification peer did not confirm the history owner") := by
  cases event with
  | settings coordinator => cases history
  | _ => simp [receive, inactive]

/-- What the coordinator makes of a frame. -/
theorem NotificationLink.receive_authority (persist : Persist) (role : hub.isCoordinator = true)
    (active : link.activity = true) (history : event.isHistory = true) :
    (∃ operation, event = .submit operation ∧
      link.receive hub event persist = link.receiveSubmit hub operation persist) ∨
    link.receive hub event persist =
      (hub, .error "notification event from incorrect authority") := by
  cases event with
  | settings coordinator => cases history
  | submit operation => exact .inl ⟨operation, rfl, by simp [receive, active, role]⟩
  | _ => exact .inr (by simp [receive, active, role])

theorem NotificationLink.receiveSubmit_link
    (received : (link.receiveSubmit hub operation persist).2 = .ok link') :
    link' = { link with outgoing := link.outgoing ++ [.ack operation.sequence] } := by
  unfold receiveSubmit at received
  split at received
  · cases received
  · exact pushAck_eq_ok received
  · cases persist with
    | stored => exact pushAck_eq_ok received
    | failed renamed error => cases received

theorem NotificationLink.receive_history (history : event.isHistory = true)
    (active : link.activity = true)
    (received : (link.receive hub event persist).2 = .ok link') :
    link'.peer = link.peer ∧ link'.activity = true ∧
      ∀ frame ∈ link'.outgoing, frame ∈ link.outgoing ∨ frame.isHistory = true := by
  cases role : hub.isCoordinator with
  | true =>
    rcases receive_authority persist role active history with
      ⟨operation, rfl, result⟩ | result
    · rw [result] at received
      rw [receiveSubmit_link received]
      refine ⟨rfl, active, fun frame member => ?_⟩
      refine (List.mem_append.mp member).imp id fun pushed => ?_
      rw [List.mem_singleton] at pushed
      rw [pushed]
      rfl
    · rw [result] at received
      cases received
  | false =>
    have cases' := receive_replica link persist role event
    generalize link.receive hub event persist = result at received cases'
    cases cases' with
    | refused => cases received
    | settings => cases history
    | unknown | opened | gathered | confirmed =>
      cases received
      exact ⟨rfl, active, fun _ => .inl⟩
    | acknowledged | renewed =>
      obtain ⟨_, -, rfl⟩ := map_eq_ok.mp received
      exact ⟨rfl, active, fun _ => .inl⟩

/-- A link takes a frame in only when it is the matching `Settings` or came after it. -/
theorem NotificationLink.receive_gate
    (received : (link.receive hub event persist).2 = .ok link') :
    event = .settings hub.config.coordinatorFingerprint ∧
        link' = { link with activity := true } ∨
      link'.peer = link.peer ∧ link.activity = true ∧ link'.activity = true ∧
        ∀ frame ∈ link'.outgoing, frame ∈ link.outgoing ∨ frame.isHistory = true := by
  cases history : event.isHistory with
  | false =>
    cases event with
    | settings coordinator =>
      simp only [receive, receiveSettings, bind_eq_ok, ensure_eq_ok, pure_eq_ok] at received
      obtain ⟨-, same, rfl⟩ := received
      exact .inl ⟨by rw [same], rfl⟩
    | _ => cases history
  | true =>
    cases active : link.activity with
    | false =>
      rw [receive_inactive hub persist active history] at received
      cases received
    | true =>
      have kept := receive_history history active received
      exact .inr ⟨kept.1, rfl, kept.2⟩

theorem NotificationLink.fill_gate (link : NotificationLink) (hub : NotificationHub) :
    (link.fill hub).peer = link.peer ∧ (link.fill hub).activity = link.activity ∧
      ∀ frame ∈ (link.fill hub).outgoing, frame ∈ link.outgoing ∨ frame.isHistory = true := by
  unfold NotificationLink.fill
  split
  · refine ⟨rfl, rfl, fun frame member => (List.mem_append.mp member).imp id fun filled => ?_⟩
    simp only [snapshot, List.mem_cons, List.mem_append, List.mem_map, List.not_mem_nil,
      or_false] at filled
    rcases filled with rfl | ⟨record, -, rfl⟩ | rfl
    · rfl
    · rfl
    · rfl
  · refine ⟨rfl, rfl, fun frame member => (List.mem_append.mp member).imp id fun filled => ?_⟩
    obtain ⟨operation, -, rfl⟩ := List.mem_map.mp filled
    rfl

/-- What a turn of `next` sends or queues. -/
theorem NotificationLink.next_gate {sent : Option NotificationSync}
    (turned : link.next hub = some (sent, link')) :
    link'.peer = link.peer ∧ link'.activity = link.activity ∧
      (∀ frame, sent = some frame → frame ∈ link.outgoing) ∧
      ∀ frame ∈ link'.outgoing, frame ∈ link.outgoing ∨
        frame.isHistory = true ∧ link.activity = true := by
  unfold NotificationLink.next at turned
  split at turned
  · rename_i frame outgoing queued
    cases turned
    rw [queued]
    refine ⟨rfl, rfl, ?_, fun other member => .inl (List.mem_cons_of_mem _ member)⟩
    rintro _ ⟨⟩
    exact List.mem_cons_self ..
  · split at turned
    · cases turned
    · rename_i active
      have active : link.activity = true := by simpa using active
      split at turned
      · split at turned
        · cases turned
        · cases turned
          exact ⟨rfl, rfl, nofun, fun frame member => .inl member⟩
      · cases turned
        obtain ⟨peer, activity, filled⟩ := link.fill_gate hub
        refine ⟨peer, activity, nofun, fun frame member => ?_⟩
        exact (filled frame member).imp id fun history => ⟨history, active⟩

/-- A frame taken in by the session was delivered. -/
theorem Journal.Gates.enqueue (gates : journal.Gates owner coordinator i session)
    (taken : session.Enqueued event session')
    (frames : journal'.frames i = journal.frames i ++ [event])
    (submitted : journal.submitted ⊆ journal'.submitted)
    (noted : ∀ operation, event = .submit operation →
      (session.link.peer, operation) ∈ journal'.submitted) :
    journal'.Gates owner coordinator i session' := by
  have sent : ∀ operation, .submit operation ∈ journal'.frames i →
      (session.link.peer, operation) ∈ journal'.submitted := by
    intro operation delivered
    rw [frames] at delivered
    rcases List.mem_append.mp delivered with old | new
    · exact submitted (gates.submitted operation old)
    · rw [List.mem_singleton] at new
      exact noted operation new.symm
  have older : ∀ frame ∈ journal.frames i, frame ∈ journal'.frames i := by
    intro frame member
    rw [frames]
    exact List.mem_append_left _ member
  have kept : ∀ frame, .event frame ∈ session.requests → frame ∈ journal'.frames i :=
    fun frame member => older frame (gates.requests frame member)
  have confirmed := fun active => older _ (gates.confirmed active)
  have current := fun frame member control => older frame (gates.current frame member control)
  cases taken with
  | opened => exact ⟨confirmed, gates.queued, gates.sent, kept, current, sent, gates.linked⟩
  | gathered => exact ⟨confirmed, gates.queued, gates.sent, kept, current, sent, gates.linked⟩
  | finished =>
    refine ⟨confirmed, gates.queued, gates.sent, fun frame member => ?_, current, sent, gates.linked⟩
    rcases List.mem_append.mp member with old | new
    · exact kept frame old
    · simp at new
  | control =>
    refine ⟨confirmed, gates.queued, gates.sent, fun frame member => ?_, current, sent, gates.linked⟩
    rcases List.mem_append.mp member with old | new
    · exact kept frame old
    · simp only [List.mem_singleton, IncomingNotification.event.injEq] at new
      rw [new, frames]
      simp

theorem Journal.Gates.emit (gates : journal.Gates owner coordinator i session)
    (emitted : session.emit hub = some session') : journal.Gates owner coordinator i session' := by
  unfold SessionLink.emit at emitted
  split at emitted
  · obtain ⟨⟨sent, link⟩, turned, rfl⟩ := Option.map_eq_some_iff.mp emitted
    obtain ⟨peer, activity, leaves, queued⟩ := NotificationLink.next_gate turned
    refine ⟨?_, fun event member other => ?_, fun event member other => ?_, gates.requests,
      gates.current, ?_, ?_⟩
    · rw [activity]
      exact gates.confirmed
    · rw [activity]
      rcases queued event member with old | new
      · exact gates.queued event old other
      · exact new
    · rw [activity]
      rcases List.mem_append.mp member with old | new
      · exact gates.sent event old other
      · exact gates.queued event (leaves event (by simpa [eq_comm] using new)) other
    · rw [peer]
      exact gates.submitted
    · rw [peer]
      exact gates.linked
  · cases emitted

theorem Journal.Gates.forward {forwarded : NotificationSync × SessionLink}
    (gates : journal.Gates owner coordinator i session) (sent : session.forward = some forwarded) :
    journal.Gates owner coordinator i forwarded.2 := by
  unfold SessionLink.forward at sent
  split at sent
  · cases sent
  · rename_i event outgoing waiting
    cases sent
    have left : ∀ event ∈ outgoing, event ∈ session.outgoing := by
      rw [waiting]
      exact fun _ => List.mem_cons_of_mem _
    exact ⟨gates.confirmed, gates.queued, fun event member => gates.sent event (left event member),
      gates.requests, gates.current, gates.submitted, gates.linked⟩

theorem Journal.Gates.work {worked : NotificationHub × SessionLink}
    (gates : journal.Gates hub.config.coordinatorFingerprint hub.isCoordinator i session)
    (executed : session.work hub persist = some worked) :
    journal.Gates hub.config.coordinatorFingerprint hub.isCoordinator i worked.2 := by
  cases SessionLink.work_cases executed with
  | @took request requests working current waiting =>
    have left : ∀ other ∈ requests, other ∈ session.requests := by
      rw [waiting]
      exact fun _ => List.mem_cons_of_mem _
    refine ⟨gates.confirmed, gates.queued, gates.sent,
      fun event member => gates.requests event (left _ member), ?_, gates.submitted, gates.linked⟩
    intro event member control
    cases request with
    | event frame =>
      simp only [IncomingNotification.frames, List.mem_singleton] at member
      exact member ▸ gates.requests frame (waiting ▸ List.mem_cons_self ..)
    | snapshot incoming =>
      simp only [IncomingNotification.frames, List.mem_cons, List.mem_append, List.mem_map,
        List.not_mem_nil, or_false] at member
      rcases member with rfl | ⟨record, -, rfl⟩ | rfl
      · cases control
      · cases control
      · cases control
  | @received event rest link working current received =>
    obtain ⟨links, currents, -, requests, -⟩ := session.advance_eq link rest
    have outgoing : (session.advance link rest).outgoing = session.outgoing := by
      unfold SessionLink.advance
      split
      · rfl
      · rfl
    have left : ∀ frame ∈ rest, frame ∈ session.current := by
      rw [current]
      exact fun _ => List.mem_cons_of_mem _
    have delivered : ∀ frame ∈ (session.advance link rest).current, frame.isControl = true →
        frame ∈ journal.frames i := by
      rw [currents]
      exact fun frame member => gates.current frame (left frame member)
    have waiting : ∀ frame, .event frame ∈ (session.advance link rest).requests →
        frame ∈ journal.frames i := requests ▸ gates.requests
    rcases NotificationLink.receive_gate received with
      ⟨rfl, rfl⟩ | ⟨peer, before, active, queued⟩
    · have matching := gates.current _ (current ▸ List.mem_cons_self ..) rfl
      refine ⟨fun _ => matching, ?_, ?_, waiting, delivered, ?_, ?_⟩
      · rw [links]
        exact fun frame member other => ⟨(gates.queued frame member other).1, rfl⟩
      · rw [links, outgoing]
        exact fun frame member other => ⟨(gates.sent frame member other).1, rfl⟩
      · rw [links]
        exact gates.submitted
      · rw [links]
        exact gates.linked
    · refine ⟨fun _ => gates.confirmed before, ?_, ?_, waiting, delivered, ?_, ?_⟩
      · rw [links]
        intro frame member other
        rcases queued frame member with old | history
        · exact ⟨(gates.queued frame old other).1, active⟩
        · exact ⟨history, active⟩
      · rw [links, outgoing]
        exact fun frame member other => ⟨(gates.sent frame member other).1, active⟩
      · rw [links, peer]
        exact gates.submitted
      · rw [links, peer]
        exact gates.linked
  | stopped =>
    exact ⟨gates.confirmed, gates.queued, gates.sent, nofun, nofun, gates.submitted, gates.linked⟩

/-- A frame the coordinator takes in leaves its stores attributed. -/
theorem Journal.ExplainsHub.receive (explains : journal.ExplainsHub hub)
    (role : hub.isCoordinator = true)
    (noted : ∀ operation, event = .submit operation →
      (link.peer, operation) ∈ journal.submitted) :
    journal.ExplainsHub (link.receive hub event persist).1 := by
  cases history : event.isHistory with
  | false =>
    cases event with
    | settings coordinator => exact explains
    | _ => cases history
  | true =>
    cases active : link.activity with
    | false =>
      rw [NotificationLink.receive_inactive hub persist active history]
      exact explains
    | true =>
      rcases NotificationLink.receive_authority persist role active history with
        ⟨operation, rfl, result⟩ | result
      · rw [result]
        unfold NotificationLink.receiveSubmit
        split
        · exact explains
        · exact explains
        · rename_i next applied
          obtain ⟨checked, applied⟩ := Store.apply_cases applied
          refine explains.commit (explains.state.applied ?_ applied) ?_ persist
          · intro content carries
            have origin := Store.origin_of_checked checked carries
            exact .inl ⟨operation, origin ▸ noted operation rfl, rfl, carries⟩
          · rw [applied.eq_records]
            exact explains.identity
      · rw [result]
        exact explains

theorem Journal.ExplainsHub.work {worked : NotificationHub × SessionLink}
    (explains : journal.ExplainsHub hub) (role : hub.isCoordinator = true)
    (gates : journal.Gates owner coordinator i session)
    (executed : session.work hub persist = some worked) : journal.ExplainsHub worked.1 := by
  have noted {event : NotificationSync} {rest : List NotificationSync}
      (current : session.current = event :: rest) (operation : NotificationOperation)
      (submits : event = .submit operation) :
      (session.link.peer, operation) ∈ journal.submitted := by
    subst submits
    exact gates.submitted operation
      (gates.current _ (current ▸ List.mem_cons_self ..) rfl)
  cases SessionLink.work_cases executed with
  | took => exact explains
  | received working current => exact explains.receive role (noted current)
  | stopped working current => exact explains.receive role (noted current)

/-! ## Who a hub is -/

/-- The identity and the configuration of a hub. -/
structure NotificationHub.Same (hub hub' : NotificationHub) : Prop where
  config : hub'.config = hub.config
  identity : hub'.identity = hub.identity

variable {hub' : NotificationHub} {key : NotificationKey} {content : Option SharedNotification}

theorem NotificationHub.Same.refl : hub.Same hub := ⟨rfl, rfl⟩

theorem NotificationHub.Same.role (same : hub.Same hub') :
    hub'.isCoordinator = hub.isCoordinator := by
  simp only [NotificationHub.isCoordinator, same.config, same.identity]

theorem NotificationHub.commit_same (hub : NotificationHub) (next : Store) (persist : Persist) :
    hub.Same (hub.commit next persist).1 := by
  cases persist with
  | stored => exact ⟨rfl, rfl⟩
  | failed renamed error => exact ⟨rfl, rfl⟩

theorem NotificationHub.local_same : hub.Same (hub.local' key content persist).1 := by
  unfold NotificationHub.local'
  split
  · exact .refl
  · exact .refl
  · exact hub.commit_same _ persist

theorem NotificationHub.applyPhone_same {phoneInstances : List (String × PhoneInstance)}
    {importedPhones : List (String × String)}
    {operations : List (String × Option SharedNotification)} :
    hub.Same (hub.applyPhone phoneInstances importedPhones operations persist).1 := by
  unfold NotificationHub.applyPhone
  dsimp only
  split
  · exact .refl
  · split
    · exact hub.commit_same _ persist
    · exact .refl

theorem NotificationHub.publish_same (published : hub.publish = some hub') : hub.Same hub' := by
  unfold NotificationHub.publish at published
  split at published
  · cases published
  · cases published
    exact ⟨rfl, rfl⟩

theorem NotificationHub.restart_same (restarted : hub.restart = .ok hub') :
    hub.Same hub' ∧ hub.disk.localIdentity = hub.identity := by
  simp only [NotificationHub.restart, bind_eq_ok, ensure_eq_ok, pure_eq_ok] at restarted
  obtain ⟨-, identity, -, -, -, -, rfl⟩ := restarted
  exact ⟨⟨rfl, rfl⟩, identity⟩

theorem NotificationLink.receive_same : hub.Same (link.receive hub event persist).1 := by
  cases role : hub.isCoordinator with
  | false =>
    have received := receive_replica link persist role event
    generalize link.receive hub event persist = result at received
    cases received with
    | acknowledged | renewed => exact hub.commit_same _ persist
    | _ => exact .refl
  | true =>
    cases history : event.isHistory with
    | false =>
      cases event with
      | settings coordinator => exact .refl
      | _ => cases history
    | true =>
      cases active : link.activity with
      | false =>
        rw [receive_inactive hub persist active history]
        exact .refl
      | true =>
        rcases receive_authority persist role active history with
          ⟨operation, rfl, result⟩ | result
        · rw [result]
          unfold receiveSubmit
          split
          · exact .refl
          · exact .refl
          · exact hub.commit_same _ persist
        · rw [result]
          exact .refl

theorem SessionLink.work_same {worked : NotificationHub × SessionLink}
    (executed : session.work hub persist = some worked) : hub.Same worked.1 := by
  cases SessionLink.work_cases executed with
  | took => exact .refl
  | received => exact NotificationLink.receive_same
  | stopped => exact NotificationLink.receive_same

/-! ## Runs -/

variable [DecidableEq ι]

/-- What an action adds to the journal. -/
def Journal.note (journal : Journal ι) (node : Node ι) : NodeAction ι → Journal ι
  | .local' key content _ => { journal with queued := journal.queued ++ [(key, content)] }
  | .phone _ _ operations _ =>
    { journal with
      queued := journal.queued ++ operations.map fun operation =>
        ({ origin := node.hub.identity, instance' := operation.1 }, operation.2) }
  | .connect i _ _ => { journal with frames := Function.update journal.frames i [] }
  | .deliver i event =>
    { journal with
      frames := Function.update journal.frames i (journal.frames i ++ [event])
      submitted := journal.submitted ++
        match node.session i, event with
        | some session, .submit operation => [(session.link.peer, operation)]
        | _, _ => [] }
  | _ => journal

/-- A computer and its journal. -/
def journaled (ι : Type u) [DecidableEq ι] : Machine (Node ι × Journal ι) (NodeAction ι) :=
  (Node.machine ι).recording fun journal node action _ => journal.note node action

theorem Journal.extends_note (node : Node ι) (action : NodeAction ι) :
    journal.Extends (journal.note node action) := by
  cases action with
  | local' => exact ⟨fun _ => id, fun _ => List.mem_append_left _⟩
  | phone => exact ⟨fun _ => id, fun _ => List.mem_append_left _⟩
  | deliver => exact ⟨fun _ => List.mem_append_left _, fun _ => id⟩
  | _ => exact ⟨fun _ => id, fun _ => id⟩

/-- A process that starts with no records. -/
structure NodeStart (s : Node ι × Journal ι) : Prop where
  state : s.1.hub.state.records = []
  disk : s.1.hub.disk.records = []
  identity : s.1.hub.state.localIdentity = s.1.hub.identity
  session : ∀ i, s.1.session i = none

/-- What holds of a computer at any time. -/
structure Authorized (s : Node ι × Journal ι) : Prop where
  explains : s.1.hub.isCoordinator = true → s.2.ExplainsHub s.1.hub
  gates : ∀ i session, s.1.session i = some session →
    s.2.Gates s.1.hub.config.coordinatorFingerprint s.1.hub.isCoordinator i session

omit [DecidableEq ι] in
theorem NodeStart.authorized {s : Node ι × Journal ι} (starts : NodeStart s) : Authorized s where
  explains := fun _ => ⟨by rw [starts.state]; nofun, by rw [starts.disk]; nofun, starts.identity⟩
  gates := by simp [starts.session]

variable {s t : Node ι × Journal ι}

/-- A session was changed, and the others were not. -/
theorem Authorized.gates_update {hub : NotificationHub} {journal : Journal ι} {i : ι}
    {session : Option SessionLink} (authorized : Authorized s) (same : s.1.hub.Same hub)
    (later : s.2.Extends journal) (frames : ∀ j, j ≠ i → journal.frames j = s.2.frames j)
    (here : ∀ session', session = some session' →
      journal.Gates s.1.hub.config.coordinatorFingerprint s.1.hub.isCoordinator i session') :
    ∀ j session', (({ s.1 with hub } : Node ι).withSession i session).session j = some session' →
      journal.Gates hub.config.coordinatorFingerprint hub.isCoordinator j session' := by
  intro j session' there
  rw [same.config, same.role]
  by_cases this : j = i
  · subst this
    rw [Node.withSession_self] at there
    exact here session' there
  · rw [Node.withSession_ne _ _ this] at there
    exact (authorized.gates j session' there).mono (frames j this) later

theorem Authorized.step {action : NodeAction ι} (authorized : Authorized s)
    (executed : (journaled ι).exec s action = some t) :
    Authorized t ∧ s.1.hub.Same t.1.hub := by
  obtain ⟨moved, noted⟩ := exec_recording.mp executed
  obtain ⟨node, journal⟩ := t
  dsimp only at moved noted ⊢
  subst noted
  clear executed
  have later := s.2.extends_note s.1 action
  have others {hub : NotificationHub} (same : s.1.hub.Same hub)
      (frames : (s.2.note s.1 action).frames = s.2.frames) :
      ∀ j session, s.1.session j = some session →
        (s.2.note s.1 action).Gates hub.config.coordinatorFingerprint hub.isCoordinator j session := by
    intro j session there
    rw [same.config, same.role]
    exact (authorized.gates j session there).mono (by rw [frames]) later
  cases action with
  | local' key content persist =>
    cases moved
    refine ⟨⟨fun role => ?_, others NotificationHub.local_same rfl⟩, NotificationHub.local_same⟩
    rw [NotificationHub.local_same.role] at role
    exact ((authorized.explains role).mono later).local' role (by simp [Journal.note])
  | phone phoneInstances importedPhones operations persist =>
    cases moved
    refine ⟨⟨fun role => ?_, others NotificationHub.applyPhone_same rfl⟩,
      NotificationHub.applyPhone_same⟩
    rw [NotificationHub.applyPhone_same.role] at role
    refine ((authorized.explains role).mono later).applyPhone role fun operation member => ?_
    exact List.mem_append_right _ (List.mem_map_of_mem member)
  | publish =>
    obtain ⟨hub, published, rfl⟩ := Option.map_eq_some_iff.mp moved
    have same := NotificationHub.publish_same published
    obtain ⟨state, disk, -⟩ := NotificationHub.publish_eq published
    refine ⟨⟨fun role => ?_, others same rfl⟩, same⟩
    rw [same.role] at role
    obtain ⟨inMemory, onDisk, identity⟩ := authorized.explains role
    exact ⟨by rwa [same.identity, state], by rwa [same.identity, disk],
      by rwa [same.identity, state]⟩
  | restart =>
    simp only [Node.machine, Node.exec, Node.restart] at moved
    split at moved
    · cases moved
    · rename_i hub restarted
      cases moved
      obtain ⟨same, identity⟩ := NotificationHub.restart_same restarted
      obtain ⟨state, disk, -⟩ := NotificationHub.restart_eq restarted
      refine ⟨⟨fun role => ?_, fun _ _ there => by cases there⟩, same⟩
      rw [same.role] at role
      obtain ⟨-, onDisk, -⟩ := authorized.explains role
      exact ⟨by rwa [same.identity, state], by rwa [same.identity, disk],
        by rwa [same.identity, state]⟩
  | connect i peer supported =>
    cases moved
    refine ⟨⟨fun role => (authorized.explains role).mono later, ?_⟩, .refl⟩
    refine authorized.gates_update .refl later (fun j other => ?_) fun session there => ?_
    · exact Function.update_of_ne other _ _
    · obtain ⟨link, linked, rfl⟩ := Option.map_eq_some_iff.mp there
      unfold NotificationHub.link at linked
      split at linked
      · cases linked
      · rename_i allowed
        cases linked
        refine ⟨by simp [SessionLink.spawn], by simp [SessionLink.spawn], by simp [SessionLink.spawn],
          by simp [SessionLink.spawn], by simp [SessionLink.spawn],
          by simp [SessionLink.spawn, Journal.note], fun replica => ?_⟩
        simp only [replica, Bool.or_eq_true, Bool.and_eq_true, not_or, not_and,
          decide_eq_true_eq, not_not] at allowed
        exact allowed.2 rfl
  | drop i =>
    cases moved
    refine ⟨⟨fun role => (authorized.explains role).mono later, ?_⟩, .refl⟩
    exact authorized.gates_update .refl later (fun _ _ => rfl) fun _ there => by cases there
  | deliver i event =>
    obtain ⟨before, there, rfl⟩ := Option.map_eq_some_iff.mp moved
    refine ⟨⟨fun role => (authorized.explains role).mono later, ?_⟩, .refl⟩
    refine authorized.gates_update .refl later (fun j other => ?_) fun session taken => ?_
    · exact Function.update_of_ne other _ _
    · have enqueued := SessionLink.enqueue_cases (toOption_eq_some.mp taken)
      refine (authorized.gates i before there).enqueue enqueued ?_ later.submitted ?_
      · simp [Journal.note]
      · rintro operation rfl
        simp [Journal.note, there]
  | work i persist =>
    obtain ⟨before, there, moved⟩ := Option.bind_eq_some_iff.mp moved
    obtain ⟨worked, executed, rfl⟩ := Option.map_eq_some_iff.mp moved
    have gates := authorized.gates i before there
    have same := SessionLink.work_same executed
    refine ⟨⟨fun role => ?_, ?_⟩, same⟩
    · rw [Node.withSession_hub, same.role] at role
      exact (authorized.explains role).work role gates executed
    · refine authorized.gates_update same later (fun _ _ => rfl) fun session done => ?_
      cases done
      exact gates.work executed
  | emit i =>
    obtain ⟨before, there, moved⟩ := Option.bind_eq_some_iff.mp moved
    obtain ⟨after, emitted, rfl⟩ := Option.map_eq_some_iff.mp moved
    refine ⟨⟨fun role => authorized.explains role, ?_⟩, .refl⟩
    refine authorized.gates_update .refl later (fun _ _ => rfl) fun session done => ?_
    cases done
    exact (authorized.gates i before there).emit emitted
  | forward i =>
    obtain ⟨before, there, moved⟩ := Option.bind_eq_some_iff.mp moved
    obtain ⟨forwarded, sent, rfl⟩ := Option.map_eq_some_iff.mp moved
    refine ⟨⟨fun role => authorized.explains role, ?_⟩, .refl⟩
    refine authorized.gates_update .refl later (fun _ _ => rfl) fun session done => ?_
    cases done
    exact (authorized.gates i before there).forward sent

theorem NodeStart.authorized_of_run {start : Node ι × Journal ι} (starts : NodeStart start)
    (run : (journaled ι).Run anyAction start s) : Authorized s :=
  run.invariant (I := Authorized) (fun _ _ _ _ executed authorized =>
    (authorized.step executed).1) starts.authorized

/-- Who changes a notification history, and who may not. -/
structure HistoryAuthority (s : Node ι × Journal ι) : Prop where
  /-- Every live record of the coordinator is attributed, in memory and on disk. -/
  attributed : s.1.hub.isCoordinator = true →
    s.2.Explains s.1.hub.identity s.1.hub.state.records ∧
      s.2.Explains s.1.hub.identity s.1.hub.disk.records
  /-- A link sends its own `Settings`, and history only after the matching `Settings`. -/
  sent : ∀ i session, s.1.session i = some session →
    ∀ event, event ∈ session.link.outgoing ∨ event ∈ session.outgoing →
      event = .settings s.1.hub.config.coordinatorFingerprint ∨ event.isHistory = true ∧
        .settings s.1.hub.config.coordinatorFingerprint ∈ s.2.frames i
  /-- Before it a frame of history changes nothing, and ends the worker. -/
  refused : ∀ i session event rest persist t, s.1.session i = some session →
    session.current = event :: rest → event.isHistory = true →
    .settings s.1.hub.config.coordinatorFingerprint ∉ s.2.frames i →
    (journaled ι).exec s (.work i persist) = some t →
      t.1.hub = s.1.hub ∧ t.1.session i = some session.stop
  /-- The coordinator's stores change by `Submit` only, and a replica's never do. -/
  roles : ∀ i session event rest persist t, s.1.session i = some session →
    session.current = event :: rest →
    (s.1.hub.isCoordinator = true ∧ (∀ operation, event ≠ .submit operation) ∨
      s.1.hub.isCoordinator = false ∧ ∃ operation, event = .submit operation) →
    (journaled ι).exec s (.work i persist) = some t → t.1.hub = s.1.hub
  /-- A replica has links to the coordinator it names only. So where the peer is a replica that
      has a link here too, each names the other, and no `Settings` of the peer match. -/
  replicas : s.1.hub.isCoordinator = false → ∀ i session, s.1.session i = some session →
    session.link.peer = s.1.hub.config.coordinatorFingerprint ∧
    ∀ peer : NotificationHub, peer.isCoordinator = false → session.link.peer = peer.identity →
      (∀ coordinator, .settings coordinator ∈ s.2.frames i →
        coordinator = peer.config.coordinatorFingerprint) →
      session.link.activity = false ∧
      ∀ event, event ∈ session.link.outgoing ∨ event ∈ session.outgoing →
        event = .settings s.1.hub.config.coordinatorFingerprint

/-- A step of the worker on a frame. -/
theorem journaled_work {event : NotificationSync} {rest : List NotificationSync}
    (there : s.1.session i = some session) (current : session.current = event :: rest)
    (executed : (journaled ι).exec s (.work i persist) = some t) :
    t.1.hub = (session.link.receive s.1.hub event persist).1 ∧
      ((∃ link, (session.link.receive s.1.hub event persist).2 = .ok link ∧
          t.1.session i = some (session.advance link rest)) ∨
        t.1.session i = some session.stop) := by
  obtain ⟨moved, -⟩ := exec_recording.mp executed
  obtain ⟨before, there', moved⟩ := Option.bind_eq_some_iff.mp moved
  rw [there] at there'
  cases there'
  obtain ⟨worked, executed, moved⟩ := Option.map_eq_some_iff.mp moved
  rw [← moved, Node.withSession_self, Node.withSession_hub]
  cases SessionLink.work_cases executed with
  | took working idle =>
    rw [current] at idle
    cases idle
  | received working current' received =>
    rw [current] at current'
    cases current'
    exact ⟨rfl, .inl ⟨_, received, rfl⟩⟩
  | stopped working current' =>
    rw [current] at current'
    cases current'
    exact ⟨rfl, .inr rfl⟩

/-- Only the coordinator changes its stores on a frame of a replica, and only on a `Submit`. -/
theorem NotificationLink.receive_roles
    (wrong : hub.isCoordinator = true ∧ (∀ operation, event ≠ .submit operation) ∨
      hub.isCoordinator = false ∧ ∃ operation, event = .submit operation) :
    (link.receive hub event persist).1 = hub := by
  cases history : event.isHistory with
  | false =>
    cases event with
    | settings coordinator => rfl
    | _ => cases history
  | true =>
    cases active : link.activity with
    | false => rw [receive_inactive hub persist active history]
    | true =>
      rcases wrong with ⟨role, other⟩ | ⟨role, operation, rfl⟩
      · rcases receive_authority persist role active history with
          ⟨operation, submits, -⟩ | result
        · exact absurd submits (other operation)
        · rw [result]
      · simp [receive, active, role]

theorem Authorized.history (authorized : Authorized s) : HistoryAuthority s where
  attributed role := ⟨(authorized.explains role).state, (authorized.explains role).disk⟩
  sent i session there event member := by
    have gates := authorized.gates i session there
    by_cases own : event = .settings s.1.hub.config.coordinatorFingerprint
    · exact .inl own
    · rcases member with queued | sent
      · have held := gates.queued event queued own
        exact .inr ⟨held.1, gates.confirmed held.2⟩
      · have held := gates.sent event sent own
        exact .inr ⟨held.1, gates.confirmed held.2⟩
  refused i session event rest persist t there current history unmatched executed := by
    have inactive : session.link.activity = false := by
      by_contra active
      exact unmatched ((authorized.gates i session there).confirmed (by simpa using active))
    have refused := NotificationLink.receive_inactive s.1.hub persist inactive history
    obtain ⟨hub, stopped⟩ := journaled_work there current executed
    rw [refused] at hub stopped
    refine ⟨hub, stopped.resolve_left ?_⟩
    rintro ⟨link, accepted, -⟩
    cases accepted
  roles i session event rest persist t there current wrong executed := by
    rw [(journaled_work there current executed).1]
    exact NotificationLink.receive_roles wrong
  replicas role i session there := by
    have gates := authorized.gates i session there
    refine ⟨gates.linked role, fun peer replica named settings => ?_⟩
    have inactive : session.link.activity = false := by
      by_contra active
      have owner := settings _ (gates.confirmed (by simpa using active))
      rw [← gates.linked role, named] at owner
      simp [NotificationHub.isCoordinator, owner] at replica
    refine ⟨inactive, fun event member => ?_⟩
    by_contra own
    rcases member with queued | sent
    · have active := (gates.queued event queued own).2
      rw [inactive] at active
      cases active
    · have active := (gates.sent event sent own).2
      rw [inactive] at active
      cases active

/-- Whatever the peers send: the live records of the coordinator are attributed, nothing but
    `Settings` passes before they match, every frame counts from its authority only, and a link
    between two replicas is never confirmed. -/
theorem notification_authority {start : Node ι × Journal ι} (starts : NodeStart start)
    (run : (journaled ι).Run anyAction start s) : HistoryAuthority s :=
  (starts.authorized_of_run run).history

/-- A computer of the samples that names `owner`. -/
def sampleNode (owner identity epoch : String) : Node Unit × Journal Unit :=
  ({ hub := .start { coordinatorFingerprint := owner, peers := [owner, replicaFingerprint] }
      identity epoch, session := fun _ => none }, {})

theorem sampleNode_starts (owner identity epoch : String) :
    NodeStart (sampleNode owner identity epoch) := ⟨rfl, rfl, rfl, fun _ => rfl⟩

/-- A post of the replica arrives at the coordinator. -/
def sampleSubmitted : List (NodeAction Unit) :=
  [.connect () replicaFingerprint true, .deliver () (.settings ownerFingerprint),
    .deliver () (.submit { sequence := 1, key := sampleKey, content := sampleContent }),
    .work () .stored, .work () .stored, .work () .stored, .work () .stored]

theorem notification_authority_sample :
    HistoryAuthority ((journaled Unit).reach
      (sampleNode ownerFingerprint ownerFingerprint sampleEpoch) sampleSubmitted) ∧
    ((journaled Unit).reach (sampleNode ownerFingerprint ownerFingerprint sampleEpoch)
      sampleSubmitted).1.hub.state.records = [⟨sampleKey, 1, sampleContent⟩] := by
  have run : (journaled Unit).Run anyAction
      (sampleNode ownerFingerprint ownerFingerprint sampleEpoch)
      ((journaled Unit).reach (sampleNode ownerFingerprint ownerFingerprint sampleEpoch)
        sampleSubmitted) := run_reach sampleSubmitted (by decide +kernel)
  exact ⟨notification_authority (sampleNode_starts _ _ _) run, by decide +kernel⟩

/-- Two computers that name each other are replicas both, and each makes a link to the other. -/
theorem replicas_linked :
    (∃ session, ((journaled Unit).reach (sampleNode ownerFingerprint replicaFingerprint "")
        [.connect () ownerFingerprint true]).1.session () = some session ∧
      session.link.peer = ownerFingerprint) ∧
    (∃ session, ((journaled Unit).reach (sampleNode replicaFingerprint ownerFingerprint "")
        [.connect () replicaFingerprint true]).1.session () = some session ∧
      session.link.peer = replicaFingerprint) ∧
    (sampleNode ownerFingerprint replicaFingerprint "").1.hub.isCoordinator = false ∧
    (sampleNode replicaFingerprint ownerFingerprint "").1.hub.isCoordinator = false :=
  ⟨⟨_, rfl, rfl⟩, ⟨_, rfl, rfl⟩, by decide, by decide⟩

end EdgeKvm.Notification
