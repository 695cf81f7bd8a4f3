import EdgeKvm.Notification.Encoding
import EdgeKvm.Notification.Authority
import EdgeKvm.Notification.Start

/-!
# What is stored can be sent

Every record and every pending operation of a store has passed its checks, in memory and on disk,
whatever the peers send. So every frame that a link sends of them fits a secure frame.
-/

namespace EdgeKvm.Notification

open EdgeKvm.Lib Machine

/-- What holds of a store; the epoch of a coordinator is one that `new_epoch` drew. -/
structure Store.Stored (coordinator : Bool) (s : Store) : Prop where
  records : ∀ record ∈ s.records, Valid record.key record.content
  pending : ∀ operation ∈ s.pending, Valid operation.key operation.content
  fits : s.records.length ≤ maxRecords
  epoch : coordinator = false ∧ s.epoch = "" ∨ s.epoch.utf8ByteSize = 32

namespace Store

variable {s t : Store} {operation : NotificationOperation} {changed coordinator : Bool}
  {sender : String} {key : NotificationKey} {content : Option SharedNotification}

theorem valid_of_checkOperation (checked : checkOperation sender operation = .ok ⟨⟩) :
    Valid operation.key operation.content := by
  simp only [checkOperation, bind_eq_ok, ensure_eq_ok] at checked
  obtain ⟨⟨⟩, validKey, -, -, checked⟩ := checked
  refine ⟨validKey, fun shown present => ?_⟩
  simp only [present, bind_eq_ok, ensure_eq_ok] at checked
  obtain ⟨⟨⟩, -, validContent⟩ := checked
  exact validContent

/-- `Store::apply` of an operation that has passed its checks. -/
theorem Applied.stored (applied : Applied s operation changed t)
    (valid : Valid operation.key operation.content) (stored : s.Stored coordinator) :
    t.Stored coordinator := by
  have fits := applied.length_le_max stored.fits
  cases applied with
  | stale => exact stored
  | superseded record found =>
    refine ⟨fun entry member => ?_, stored.pending, fits, stored.epoch⟩
    obtain before | ⟨old, -, same, rfl⟩ := Keyed.mem_update member
    · exact stored.records entry before
    · exact ⟨same ▸ valid.key, valid.content⟩
  | pushed =>
    refine ⟨fun entry member => ?_, stored.pending, fits, stored.epoch⟩
    obtain before | new := List.mem_append.mp member
    · exact stored.records entry before
    · rw [List.mem_singleton.mp new]
      exact valid

/-- `Store::queue_local`. -/
theorem queueLocal_stored (queued : s.queueLocal key content coordinator = .ok (changed, t))
    {role : Bool} (stored : s.Stored role) : t.Stored role := by
  cases queueLocal_cases queued with
  | repeated => exact stored
  | committed commits applied checked =>
    exact applied.stored (valid_of_checkOperation checked)
      ⟨stored.records, stored.pending, stored.fits, stored.epoch⟩
  | pended replica fresh checked =>
    refine ⟨stored.records, fun queued member => ?_, stored.fits, stored.epoch⟩
    obtain before | new := List.mem_append.mp member
    · exact stored.pending queued (List.mem_of_mem_filter before)
    · rw [List.mem_singleton.mp new]
      exact valid_of_checkOperation checked

end Store

/-! ## The hub -/

/-- The store in memory and the one on disk. -/
structure NotificationHub.Holds (hub : NotificationHub) : Prop where
  state : hub.state.Stored hub.isCoordinator
  disk : hub.disk.Stored hub.isCoordinator
  owner : validateKey { origin := hub.config.coordinatorFingerprint, instance' := "config" } =
    .ok ⟨⟩

namespace NotificationHub

variable {hub hub' : NotificationHub} {persist : Persist} {key : NotificationKey}
  {content : Option SharedNotification} {next : Store}

theorem Holds.commit (holds : hub.Holds) (stored : next.Stored hub.isCoordinator) :
    (hub.commit next persist).1.Holds := by
  cases persist with
  | stored => exact ⟨stored, stored, holds.owner⟩
  | failed renamed error =>
    cases renamed with
    | true => exact ⟨holds.state, stored, holds.owner⟩
    | false => exact holds

theorem Holds.local' (holds : hub.Holds) : (hub.local' key content persist).1.Holds := by
  unfold NotificationHub.local'
  split
  · exact holds
  · exact holds
  · rename_i next queued
    exact holds.commit (Store.queueLocal_stored queued holds.state)

theorem queueAll_stored {operations : List (String × Option SharedNotification)} {s t : Store}
    {changed : Bool} (queued : hub.queueAll operations s = .ok (changed, t)) {role : Bool}
    (stored : s.Stored role) : t.Stored role := by
  induction operations generalizing s changed with
  | nil =>
    cases queued
    exact stored
  | cons operation operations ih =>
    simp only [queueAll, bind_eq_ok, pure_eq_ok, Prod.mk.injEq] at queued
    obtain ⟨⟨_, mid⟩, first, ⟨_, last⟩, rest, -, rfl⟩ := queued
    exact ih rest (Store.queueLocal_stored first stored)

theorem Holds.applyPhone (holds : hub.Holds) {phoneInstances : List (String × PhoneInstance)}
    {importedPhones : List (String × String)}
    {operations : List (String × Option SharedNotification)} :
    (hub.applyPhone phoneInstances importedPhones operations persist).1.Holds := by
  unfold NotificationHub.applyPhone
  dsimp only
  split
  · exact holds
  · rename_i changed next queued
    split
    · refine holds.commit (queueAll_stored queued ?_)
      exact ⟨holds.state.records, holds.state.pending, holds.state.fits, holds.state.epoch⟩
    · exact holds

theorem Holds.publish (holds : hub.Holds) (published : hub.publish = some hub') :
    hub'.Holds := by
  have same := publish_same published
  obtain ⟨state, disk, -⟩ := publish_eq published
  exact ⟨by rw [state, same.role]; exact holds.state, by rw [disk, same.role]; exact holds.disk,
    by rw [same.config]; exact holds.owner⟩

theorem Holds.restart (holds : hub.Holds) (restarted : hub.restart = .ok hub') :
    hub'.Holds := by
  obtain ⟨same, -⟩ := restart_same restarted
  obtain ⟨state, disk, -⟩ := restart_eq restarted
  exact ⟨by rw [state, same.role]; exact holds.disk, by rw [disk, same.role]; exact holds.disk,
    by rw [same.config]; exact holds.owner⟩

end NotificationHub

/-! ## The links -/

/-- What a link has to send has passed its checks, and so has what it staged of a snapshot. -/
structure NotificationLink.Holds (link : NotificationLink) : Prop where
  outgoing : ∀ event ∈ link.outgoing, event.Valid
  staged : ∀ epoch records, link.staged = some (epoch, records) →
    epoch.utf8ByteSize = 32 ∧ records.length ≤ maxRecords ∧
      ∀ record ∈ records, Valid record.key record.content

namespace NotificationLink

variable {hub : NotificationHub} {link link' : NotificationLink} {event : NotificationSync}
  {persist : Persist}

theorem snapshot_valid {s : Store} {coordinator : Bool} (stored : s.Stored coordinator) :
    ∀ event ∈ snapshot s, event.Valid := by
  intro event member
  obtain rfl | member := List.mem_cons.mp member
  · show s.epoch.utf8ByteSize ≤ 32
    obtain ⟨-, none⟩ | drawn := stored.epoch
    · rw [none]
      decide
    · exact Nat.le_of_eq drawn
  obtain member | member := List.mem_append.mp member
  · obtain ⟨record, inside, rfl⟩ := List.mem_map.mp member
    exact stored.records record inside
  · rw [List.mem_singleton.mp member]
    trivial

theorem Holds.fill (holds : link.Holds) (hubHolds : hub.Holds) : (link.fill hub).Holds := by
  unfold NotificationLink.fill
  split
  · refine ⟨fun event member => ?_, holds.staged⟩
    obtain before | new := List.mem_append.mp member
    · exact holds.outgoing event before
    · exact snapshot_valid hubHolds.state event new
  · refine ⟨fun event member => ?_, holds.staged⟩
    obtain before | new := List.mem_append.mp member
    · exact holds.outgoing event before
    · obtain ⟨operation, inside, rfl⟩ := List.mem_map.mp new
      exact hubHolds.state.pending operation (List.mem_of_mem_filter inside)

theorem Holds.next (holds : link.Holds) (hubHolds : hub.Holds) {sent : Option NotificationSync}
    (turn : link.next hub = some (sent, link')) :
    link'.Holds ∧ ∀ event ∈ sent, event.Valid := by
  obtain ⟨frame, outgoing, queued, rfl, rfl⟩ | ⟨rfl, rfl⟩ | ⟨rfl, rfl⟩ := next_cases turn
  · have all := holds.outgoing
    rw [queued] at all
    obtain ⟨first, rest⟩ := List.forall_mem_cons.mp all
    exact ⟨⟨rest, holds.staged⟩, fun event sent => Option.mem_some.mp sent ▸ first⟩
  · exact ⟨⟨holds.outgoing, holds.staged⟩, fun _ none => by cases none⟩
  · exact ⟨holds.fill hubHolds, fun _ none => by cases none⟩

theorem Holds.pushAck (holds : link.Holds) {sequence : Nat}
    (pushed : link.pushAck sequence = .ok link') : link'.Holds := by
  rw [pushAck_eq_ok pushed]
  refine ⟨fun event member => ?_, holds.staged⟩
  obtain before | new := List.mem_append.mp member
  · exact holds.outgoing event before
  · rw [List.mem_singleton.mp new]
    trivial

/-- A frame that a link takes in leaves the hub and the link as they should be; one that it does
    not take ends the link. -/
def Keeps (result : NotificationHub × Except String NotificationLink) : Prop :=
  result.1.Holds ∧ ∀ link', result.2 = .ok link' → link'.Holds

theorem keeps_receiveSubmit (holds : link.Holds) (hubHolds : hub.Holds)
    (operation : NotificationOperation) : Keeps (link.receiveSubmit hub operation persist) := by
  unfold receiveSubmit
  split
  · exact ⟨hubHolds, fun _ failed => by cases failed⟩
  · exact ⟨hubHolds, fun _ pushed => holds.pushAck pushed⟩
  · rename_i next applied
    obtain ⟨checked, applied⟩ := Store.apply_cases applied
    have stored := applied.stored (Store.valid_of_checkOperation checked) hubHolds.state
    refine ⟨hubHolds.commit stored, fun link' pushed => ?_⟩
    cases persist with
    | failed renamed error => cases pushed
    | stored => exact holds.pushAck pushed

theorem keeps_receiveAck (holds : link.Holds) (hubHolds : hub.Holds) (sequence : Nat) :
    Keeps (link.receiveAck hub sequence persist) := by
  unfold receiveAck
  split
  · exact ⟨hubHolds, fun _ same => by cases same; exact holds⟩
  · rename_i operation found
    dsimp only
    split
    · exact ⟨hubHolds, fun _ failed => by cases failed⟩
    · rename_i changed next applied
      have retained : Store.Stored hub.isCoordinator { hub.state with
          pending := hub.state.pending.filter fun queued => queued.sequence ≠ sequence } :=
        ⟨hubHolds.state.records, fun queued member =>
          hubHolds.state.pending queued (List.mem_of_mem_filter member), hubHolds.state.fits,
          hubHolds.state.epoch⟩
      have stored := (Store.apply_cases applied).2.stored
        (hubHolds.state.pending operation (Keyed.mem_of_lookup found)) retained
      refine ⟨hubHolds.commit stored, fun link' done => ?_⟩
      cases persist with
      | failed renamed error => cases done
      | stored =>
        cases done
        exact holds

theorem keeps_receiveSnapshotStart (holds : link.Holds) (hubHolds : hub.Holds) (epoch : String) :
    Keeps (hub, link.receiveSnapshotStart hub epoch) := by
  refine ⟨hubHolds, fun link' opened => ?_⟩
  simp only [receiveSnapshotStart, bind_eq_ok, ensure_eq_ok, pure_eq_ok] at opened
  obtain ⟨-, ⟨drawn, -⟩, -, -, -, -, rfl⟩ := opened
  refine ⟨holds.outgoing, fun staged records same => ?_⟩
  cases same
  exact ⟨drawn, Nat.zero_le _, fun _ member => by cases member⟩

theorem keeps_receiveRecord (holds : link.Holds) (hubHolds : hub.Holds)
    (entry : NotificationRecord) : Keeps (hub, link.receiveRecord entry) := by
  refine ⟨hubHolds, fun link' gathered => ?_⟩
  simp only [receiveRecord, checkRecord, bind_eq_ok] at gathered
  obtain ⟨⟨⟩, ⟨⟨⟩, validKey, validContent⟩, gathered⟩ := gathered
  have valid : Valid entry.key entry.content := by
    refine ⟨validKey, fun shown present => ?_⟩
    rw [present] at validContent
    exact validContent
  cases staged : link.staged with
  | none => simp [staged] at gathered
  | some pair =>
    obtain ⟨epoch, records⟩ := pair
    obtain ⟨drawn, -, all⟩ := holds.staged epoch records staged
    simp only [staged, bind_eq_ok, ensure_eq_ok, pure_eq_ok] at gathered
    obtain ⟨-, ⟨room, -⟩, rfl⟩ := gathered
    refine ⟨holds.outgoing, fun epoch' records' same => ?_⟩
    cases same
    refine ⟨drawn, ?_, fun record member => ?_⟩
    · rw [List.length_append, List.length_singleton]
      exact room
    · obtain before | new := List.mem_append.mp member
      · exact all record before
      · rw [List.mem_singleton.mp new]
        exact valid

theorem keeps_receiveSnapshotEnd (holds : link.Holds) (hubHolds : hub.Holds) :
    Keeps (link.receiveSnapshotEnd hub persist) := by
  have open' : NotificationLink.Holds { link with staged := none } :=
    ⟨holds.outgoing, fun _ _ none => by cases none⟩
  unfold receiveSnapshotEnd
  split
  · exact ⟨hubHolds, fun _ failed => by cases failed⟩
  · rename_i epoch records staged
    obtain ⟨drawn, room, all⟩ := holds.staged epoch records staged
    dsimp only
    split
    · exact ⟨hubHolds, fun _ same => by cases same; exact open'⟩
    · refine ⟨hubHolds.commit ⟨all, hubHolds.state.pending, room, .inr drawn⟩, fun link' done => ?_⟩
      cases persist with
      | failed renamed error => cases done
      | stored =>
        cases done
        exact open'

theorem keeps_receive (holds : link.Holds) (hubHolds : hub.Holds) (event : NotificationSync) :
    Keeps (link.receive hub event persist) := by
  have refused : ∀ {error : String}, Keeps (hub, .error error) :=
    ⟨hubHolds, fun _ failed => by cases failed⟩
  unfold receive
  split
  · refine ⟨hubHolds, fun link' confirmed => ?_⟩
    rw [receiveSettings_eq_ok confirmed]
    exact ⟨holds.outgoing, holds.staged⟩
  split
  · exact refused
  split
  · exact keeps_receiveSubmit holds hubHolds _
  · exact keeps_receiveAck holds hubHolds _
  · exact keeps_receiveSnapshotStart holds hubHolds _
  · exact keeps_receiveRecord holds hubHolds _
  · exact keeps_receiveSnapshotEnd holds hubHolds
  · exact refused

end NotificationLink

/-! ## Runs -/

/-- A session and its link. -/
structure SessionLink.Holds (session : SessionLink) : Prop where
  link : session.link.Holds
  outgoing : ∀ event ∈ session.outgoing, event.Valid

namespace SessionLink

variable {session session' : SessionLink} {hub : NotificationHub} {event : NotificationSync}
  {persist : Persist}

theorem Holds.enqueue (holds : session.Holds) (taken : session.enqueue event = .ok session') : session'.Holds := by
  cases SessionLink.enqueue_cases taken <;> exact ⟨holds.link, holds.outgoing⟩

theorem Holds.work {worked : NotificationHub × SessionLink} (holds : session.Holds)
    (hubHolds : hub.Holds) (executed : session.work hub persist = some worked) : worked.1.Holds ∧ worked.2.Holds := by
  cases SessionLink.work_cases executed with
  | took => exact ⟨hubHolds, holds.link, holds.outgoing⟩
  | received working current received =>
    obtain ⟨hubKept, linkKept⟩ := NotificationLink.keeps_receive holds.link hubHolds _
    refine ⟨hubKept, ?_, ?_⟩
    · rw [(SessionLink.advance_eq _ _ _).1]
      exact linkKept _ received
    · intro event member
      refine holds.outgoing event ?_
      unfold SessionLink.advance at member
      split at member <;> exact member
  | stopped working current =>
    exact ⟨(NotificationLink.keeps_receive holds.link hubHolds _).1, holds.link, holds.outgoing⟩

theorem Holds.emit (holds : session.Holds) (hubHolds : hub.Holds)
    (emitted : session.emit hub = some session') : session'.Holds := by
  unfold SessionLink.emit at emitted
  split at emitted
  · obtain ⟨⟨sent, link'⟩, turn, rfl⟩ := Option.map_eq_some_iff.mp emitted
    obtain ⟨link, valid⟩ := holds.link.next hubHolds turn
    refine ⟨link, fun event member => ?_⟩
    obtain before | new := List.mem_append.mp member
    · exact holds.outgoing event before
    · exact valid event (Option.mem_toList.mp new)
  · cases emitted

theorem Holds.forward {forwarded : NotificationSync × SessionLink} (holds : session.Holds)
    (sent : session.forward = some forwarded) :
    forwarded.1.Valid ∧ forwarded.2.Holds := by
  unfold SessionLink.forward at sent
  split at sent
  · cases sent
  · rename_i event outgoing queued
    cases sent
    have all := holds.outgoing
    rw [queued] at all
    obtain ⟨first, rest⟩ := List.forall_mem_cons.mp all
    exact ⟨first, holds.link, rest⟩

end SessionLink

universe u

variable {ι : Type u} [DecidableEq ι]

/-- Every store and every link of a computer. -/
structure Node.Holds (node : Node ι) : Prop where
  hub : node.hub.Holds
  sessions : ∀ i session, node.session i = some session → session.Holds

namespace Node

variable {node t : Node ι}

theorem Holds.withSession (holds : node.Holds) {hub : NotificationHub} (hubHolds : hub.Holds)
    {i : ι} {session : Option SessionLink}
    (here : ∀ session', session = some session' → session'.Holds) :
    (({ node with hub } : Node ι).withSession i session).Holds := by
  refine ⟨hubHolds, fun j session' there => ?_⟩
  by_cases this : j = i
  · subst this
    rw [withSession_self] at there
    exact here session' there
  · rw [withSession_ne _ _ this] at there
    exact holds.sessions j session' there

theorem Holds.step {action : NodeAction ι} (holds : node.Holds)
    (executed : (machine ι).exec node action = some t) : t.Holds := by
  cases action with
  | local' key content persist =>
    cases executed
    exact ⟨holds.hub.local', holds.sessions⟩
  | phone phoneInstances importedPhones operations persist =>
    cases executed
    exact ⟨holds.hub.applyPhone, holds.sessions⟩
  | publish =>
    obtain ⟨hub, published, rfl⟩ := Option.map_eq_some_iff.mp executed
    exact ⟨holds.hub.publish published, holds.sessions⟩
  | restart =>
    simp only [machine, exec, restart] at executed
    split at executed
    · cases executed
    · rename_i hub restarted
      cases executed
      exact ⟨holds.hub.restart restarted, fun _ _ none => by cases none⟩
  | connect i peer supported =>
    cases executed
    refine holds.withSession holds.hub fun session connected => ?_
    obtain ⟨link, linked, rfl⟩ := Option.map_eq_some_iff.mp connected
    unfold NotificationHub.link at linked
    split at linked
    · cases linked
    · cases linked
      refine ⟨⟨fun event member => ?_, fun _ _ none => by cases none⟩, fun _ member => by cases member⟩
      rw [List.mem_singleton.mp member]
      exact holds.hub.owner
  | drop i =>
    cases executed
    exact holds.withSession holds.hub fun _ none => by cases none
  | deliver i event =>
    obtain ⟨session, there, rfl⟩ := Option.map_eq_some_iff.mp executed
    refine holds.withSession holds.hub fun session' taken => ?_
    exact (holds.sessions i session there).enqueue (toOption_eq_some.mp taken)
  | work i persist =>
    obtain ⟨session, there, executed⟩ := Option.bind_eq_some_iff.mp executed
    obtain ⟨worked, done, rfl⟩ := Option.map_eq_some_iff.mp executed
    obtain ⟨hub, kept⟩ := (holds.sessions i session there).work holds.hub done
    exact holds.withSession hub fun session' same => by cases same; exact kept
  | emit i =>
    obtain ⟨session, there, executed⟩ := Option.bind_eq_some_iff.mp executed
    obtain ⟨session', emitted, rfl⟩ := Option.map_eq_some_iff.mp executed
    refine holds.withSession holds.hub fun after same => ?_
    cases same
    exact (holds.sessions i session there).emit holds.hub emitted
  | forward i =>
    obtain ⟨session, there, executed⟩ := Option.bind_eq_some_iff.mp executed
    obtain ⟨forwarded, sent, rfl⟩ := Option.map_eq_some_iff.mp executed
    refine holds.withSession holds.hub fun after same => ?_
    cases same
    exact ((holds.sessions i session there).forward sent).2

end Node

/-- A computer whose hub is started for the first time: the owner has passed the check of `start`,
    and the epoch is one that `new_epoch` draws. -/
structure Node.FirstStart (node : Node ι) : Prop where
  hub : ∃ config identity epoch, node.hub = .start config identity epoch ∧
    config.check identity = .ok ⟨⟩ ∧ epoch.utf8ByteSize = 32
  sessions : ∀ i, node.session i = none

omit [DecidableEq ι] in
theorem Node.FirstStart.holds {node : Node ι} (first : node.FirstStart) : node.Holds := by
  obtain ⟨config, identity, epoch, same, checked, drawn⟩ := first.hub
  have owner : validateKey { origin := config.coordinatorFingerprint, instance' := "config" } =
      .ok ⟨⟩ := by
    simp only [NotificationConfig.check, bind_eq_ok] at checked
    obtain ⟨⟨⟩, owner, -⟩ := checked
    exact owner
  have stored : Store.Stored (node.hub.isCoordinator) node.hub.state := by
    rw [same]
    refine ⟨fun _ none => (by cases none), fun _ none => (by cases none), Nat.zero_le _, ?_⟩
    simp only [NotificationHub.start, NotificationHub.isCoordinator]
    by_cases here : identity = config.coordinatorFingerprint
    · exact .inr (by rw [if_pos here]; exact drawn)
    · exact .inl ⟨decide_eq_false here, if_neg here⟩
  have disk : node.hub.disk = node.hub.state := by rw [same]; rfl
  refine ⟨⟨stored, disk ▸ stored, ?_⟩, fun i session there => ?_⟩
  · rw [same]
    exact owner
  · rw [first.sessions i] at there
    cases there

theorem Node.Holds.of_run {start node : Node ι} (holds : start.Holds)
    (run : (Node.machine ι).Run anyAction start node) : node.Holds :=
  run.invariant (I := Node.Holds) (fun _ _ _ _ executed holds => holds.step executed) holds

theorem NotificationSync.Valid.encodes {event : NotificationSync} (valid : event.Valid) :
    encodeSecureFrame event = .ok (encodeFrame event) :=
  if_neg (Nat.not_lt.mpr valid.fits)

/-- Every frame that has passed its checks is accepted by `encode_secure_frame`, and so is, in
    every run of a computer from its first start, every frame of a record or a pending operation
    that it stores and every frame that its links have to send. -/
theorem notifications_fit_frames {start node : Node ι} (first : start.FirstStart)
    (run : (Node.machine ι).Run anyAction start node) :
    (∀ event : NotificationSync, event.Valid →
      encodeSecureFrame event = .ok (encodeFrame event)) ∧
    (∀ store, store = node.hub.state ∨ store = node.hub.disk →
      (∀ record ∈ store.records,
        encodeSecureFrame (.record record) = .ok (encodeFrame (.record record))) ∧
      ∀ operation ∈ store.pending,
        encodeSecureFrame (.submit operation) = .ok (encodeFrame (.submit operation))) ∧
    ∀ i session, node.session i = some session →
      ∀ event, event ∈ session.link.outgoing ∨ event ∈ session.outgoing →
        encodeSecureFrame event = .ok (encodeFrame event) := by
  have holds := first.holds.of_run run
  have stored : ∀ store, store = node.hub.state ∨ store = node.hub.disk →
      store.Stored node.hub.isCoordinator := by
    rintro store (rfl | rfl)
    · exact holds.hub.state
    · exact holds.hub.disk
  refine ⟨fun event valid => valid.encodes, fun store there => ⟨fun record member => ?_,
    fun operation member => ?_⟩, fun i session there event queued => ?_⟩
  · have valid : NotificationSync.Valid (.record record) := (stored store there).records record member
    exact valid.encodes
  · have valid : NotificationSync.Valid (.submit operation) :=
      (stored store there).pending operation member
    exact valid.encodes
  · have session := holds.sessions i session there
    obtain waiting | sent := queued
    · exact (session.link.outgoing event waiting).encodes
    · exact (session.outgoing event sent).encodes

theorem notifications_fit_frames_sample :
    let start := (sampleNode ownerFingerprint ownerFingerprint sampleEpoch).1
    let node := (Node.machine Unit).reach start sampleSubmitted
    node.hub.state.records = [⟨sampleKey, 1, sampleContent⟩] ∧
      encodeSecureFrame (.record ⟨sampleKey, 1, sampleContent⟩) =
        .ok (encodeFrame (.record ⟨sampleKey, 1, sampleContent⟩)) := by
  intro start node
  have first : start.FirstStart :=
    ⟨⟨_, _, sampleEpoch, rfl, by decide +kernel, by decide +kernel⟩, fun _ => rfl⟩
  have fits := notifications_fit_frames first
    (run_reach sampleSubmitted (by decide +kernel) : (Node.machine Unit).Run anyAction start node)
  have stores : node.hub.state.records = [⟨sampleKey, 1, sampleContent⟩] := by decide +kernel
  exact ⟨stores, (fits.2.1 _ (.inl rfl)).1 _ (stores ▸ List.mem_singleton_self _)⟩

end EdgeKvm.Notification
