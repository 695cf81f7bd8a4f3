import EdgeKvm.Notification.Stored
import EdgeKvm.Lib.Budget

/-!
# The budget of snapshots

`ByteBudget` of `notification_hub.rs`: the counter that the snapshots of a session share, with
every reservation and every drop; and why a snapshot of a store that `persist` accepts is within
the budget.
-/

namespace EdgeKvm.Notification

open EdgeKvm.Lib Machine

/-! ## The counter -/

/-- The budgets that a session holds: of the snapshot it stages, of the one the worker is on, and
    of those in the queue. -/
def SessionLink.budgets (session : SessionLink) : List Nat :=
  (session.staged.map (·.bytes)).toList ++
    session.currentBytes :: session.requests.map IncomingNotification.bytes

/-- What a frame reserves of the budget. -/
def NotificationSync.reserved : NotificationSync → Nat
  | .record entry => entry.bytes
  | _ => 0

/-- A session that has no snapshot and whose worker waits for a request. -/
structure SessionLink.Idle (session : SessionLink) : Prop where
  working : session.working = true
  staged : session.staged = none
  current : session.current = []
  requests : session.requests = []

/-- A session, until it is dropped, and `buffered_bytes`. -/
structure BudgetRun where
  session : Option SessionLink
  used : Nat := 0

/-- What happens to a session; the hub is the one that the worker finds. -/
inductive BudgetStep where
  | enqueue (event : NotificationSync)
  | work (hub : NotificationHub) (persist : Persist)
  | emit (hub : NotificationHub)
  | forward
  | drop

namespace BudgetRun

def spawn (link : NotificationLink) : BudgetRun := { session := some (SessionLink.spawn link) }

/-- Every budget of a session is dropped with it. -/
def drop (run : BudgetRun) (session : SessionLink) : BudgetRun :=
  { session := none, used := Budget.giveBackAll run.used session.budgets }

/-- `reserve` for a record. A frame that is refused ends the session; if it was the end of a
    snapshot, the budget of that is dropped with the request. -/
def enqueue (run : BudgetRun) (session : SessionLink) (event : NotificationSync) : BudgetRun :=
  match session.enqueue event with
  | .error _ => run.drop session
  | .ok session =>
    { session := some session, used := run.used + event.reserved }

/-- The worker drops the budget of a request that is through or has failed, and those of the
    requests in its queue when it stops. -/
def work (run : BudgetRun) (session : SessionLink) (hub : NotificationHub) (persist : Persist) :
    Option BudgetRun :=
  (session.work hub persist).map fun worked =>
    { session := some worked.2
      used :=
        if worked.2.working then
          if session.current.length = 1 then Budget.giveBack run.used session.currentBytes
          else run.used
        else
          Budget.giveBackAll run.used
            (session.currentBytes :: session.requests.map IncomingNotification.bytes) }

def exec (run : BudgetRun) (step : BudgetStep) : Option BudgetRun :=
  match step with
  | .enqueue event => run.session.map fun session => run.enqueue session event
  | .work hub persist => run.session.bind fun session => run.work session hub persist
  | .emit hub =>
    run.session.bind fun session =>
      (session.emit hub).map fun session => { run with session := some session }
  | .forward =>
    run.session.bind fun session =>
      session.forward.map fun forwarded => { run with session := some forwarded.2 }
  | .drop => run.session.map run.drop

def machine : Machine BudgetRun BudgetStep := ⟨exec⟩

/-- The counter is what the session says, and the sum of its budgets. -/
structure Kept (used : Nat) (session : SessionLink) : Prop where
  buffered : used = session.bufferedBytes
  sum : used = weight id session.budgets
  limit : used ≤ maxStoreBytes
  idle : session.current = [] → session.currentBytes = 0

/-- What holds in every run. -/
def Accounted (run : BudgetRun) : Prop :=
  match run.session with
  | none => run.used = 0
  | some session => Kept run.used session

variable {run t : BudgetRun} {session session' : SessionLink} {event : NotificationSync}
  {hub : NotificationHub} {persist : Persist}

theorem Kept.small (kept : Kept run.used session) : run.used < UInt64.size :=
  Nat.lt_of_le_of_lt kept.limit (by decide)

theorem Kept.drop (kept : Kept run.used session) : (run.drop session).Accounted :=
  Budget.giveBackAll_of_sum kept.sum kept.small

/-- A frame that the session takes keeps the sum: a record adds its own bytes, and the end of a
    snapshot moves its budget to the queue. -/
theorem Kept.taken (kept : Kept run.used session) (taken : session.enqueue event = .ok session') :
    Kept (run.used + event.reserved) session' := by
  obtain ⟨buffered, sum, limit, idle⟩ := kept
  have queued : ∀ {request : IncomingNotification} {outside : SessionLink}, outside.staged = none →
      outside.bufferedBytes = session.bufferedBytes → outside.current = session.current →
      outside.currentBytes = session.currentBytes →
      weight id outside.budgets + request.bytes = run.used →
      outside.request request = .ok session' → Kept run.used session' := by
    intro request outside open' same current currentBytes shares sent
    obtain ⟨-, -, rfl⟩ := SessionLink.request_eq_ok sent
    refine ⟨buffered.trans same.symm, ?_, limit, fun done => ?_⟩
    · rw [← shares]
      simp [SessionLink.budgets, open', Nat.add_assoc]
    · exact currentBytes.trans (idle (current.symm.trans done))
  have control : event.isControl = true → (do
      ensure (session.staged = none) "notification control interrupted a snapshot"
      session.request (.event event)) = .ok session' → Kept run.used session' := by
    intro control taken
    simp only [bind_eq_ok, ensure_eq_ok] at taken
    obtain ⟨-, outside, sent⟩ := taken
    exact queued outside rfl rfl rfl (by simpa [IncomingNotification.bytes] using sum.symm) sent
  cases event with
  | submit operation | ack sequence | settings coordinator => exact control rfl taken
  | snapshotStart epoch =>
    simp only [SessionLink.enqueue, bind_eq_ok, ensure_eq_ok, pure_eq_ok] at taken
    obtain ⟨-, outside, -, -, rfl⟩ := taken
    refine ⟨buffered, ?_, limit, idle⟩
    rw [sum]
    simp [SessionLink.budgets, outside, NotificationSync.reserved]
  | record entry =>
    simp only [SessionLink.enqueue] at taken
    split at taken
    · cases taken
    · rename_i incoming staged
      simp only [bind_eq_ok, ensure_eq_ok, pure_eq_ok] at taken
      obtain ⟨-, -, -, room, rfl⟩ := taken
      refine ⟨congrArg (· + entry.bytes) buffered, ?_, ?_, idle⟩
      · simp only [SessionLink.budgets, staged, NotificationSync.reserved, Option.map_some,
          Option.toList_some, List.cons_append, List.nil_append, weight_cons, id] at sum ⊢
        omega
      · rw [buffered]
        exact room
  | snapshotEnd =>
    simp only [SessionLink.enqueue] at taken
    split at taken
    · cases taken
    · rename_i incoming staged
      refine @queued (.snapshot incoming) { session with staged := none } rfl rfl rfl rfl ?_ taken
      rw [sum]
      simp [SessionLink.budgets, staged, IncomingNotification.bytes, Nat.add_comm]

theorem Kept.enqueue (kept : Kept run.used session) : (run.enqueue session event).Accounted := by
  unfold BudgetRun.enqueue
  split
  · exact kept.drop
  · rename_i session' taken
    exact kept.taken taken

theorem Kept.work (kept : Kept run.used session)
    (executed : run.work session hub persist = some t) : t.Accounted := by
  obtain ⟨worked, turn, rfl⟩ := Option.map_eq_some_iff.mp executed
  obtain ⟨buffered, sum, limit, idle⟩ := kept
  have small : run.used < UInt64.size := Nat.lt_of_le_of_lt limit (by decide)
  have shares : run.used = (session.staged.map (·.bytes)).getD 0 + session.currentBytes +
      weight id (session.requests.map IncomingNotification.bytes) := by
    rw [sum]
    cases staged : session.staged <;> simp [SessionLink.budgets, staged, Nat.add_assoc]
  cases SessionLink.work_cases turn with
  | took working current queued =>
    have none : session.currentBytes = 0 := idle current
    simp only [working, current, List.length_nil, Nat.zero_ne_one, if_true, if_false]
    refine ⟨buffered, ?_, limit, fun done => ?_⟩
    · rw [sum]
      simp [SessionLink.budgets, queued, none]
    · exact absurd done (by cases ‹IncomingNotification› <;> nofun)
  | received working current received =>
    rename_i event rest link
    have going : (session.advance link rest).working = true :=
      (SessionLink.advance_eq _ _ _).2.2.2.2.trans working
    simp only [going, current, List.length_cons, if_true]
    by_cases last : rest = []
    · have returned : Budget.giveBack run.used session.currentBytes =
          run.used - session.currentBytes := Budget.giveBack_of_le (by omega) small
      simp only [last, List.length_nil, if_true, SessionLink.advance]
      rw [returned]
      refine ⟨congrArg (· - session.currentBytes) buffered, ?_, (Nat.sub_le _ _).trans limit,
        fun _ => rfl⟩
      rw [sum]
      simp only [SessionLink.budgets, weight_append, weight_cons, id]
      omega
    · have more : rest.length + 1 ≠ 1 := by
        have some := List.length_pos_iff.mpr last
        omega
      simp only [more, if_false, SessionLink.advance, last]
      exact ⟨buffered, sum, limit, fun done => absurd done last⟩
  | stopped working current =>
    have returned : Budget.giveBackAll run.used
        (session.currentBytes :: session.requests.map IncomingNotification.bytes) =
          (session.staged.map (·.bytes)).getD 0 := by
      refine Budget.giveBackAll_of_sum ?_ small
      rw [weight_cons, id]
      omega
    simp only [SessionLink.stop, Bool.false_eq_true, if_false, returned]
    have part : (session.staged.map (·.bytes)).getD 0 ≤ run.used := by omega
    refine ⟨rfl, ?_, part.trans limit, fun _ => rfl⟩
    cases staged : session.staged <;> simp [SessionLink.budgets]

theorem Accounted.step {step : BudgetStep} (accounted : run.Accounted)
    (executed : machine.exec run step = some t) : t.Accounted := by
  obtain ⟨held, used⟩ := run
  cases held with
  | none => cases step <;> cases executed
  | some session =>
    have kept : Kept used session := accounted
    cases step with
    | enqueue event =>
      cases executed
      exact @Kept.enqueue ⟨some session, used⟩ session event kept
    | work hub persist => exact @Kept.work ⟨some session, used⟩ t session hub persist kept executed
    | emit hub =>
      obtain ⟨session', emitted, rfl⟩ := Option.map_eq_some_iff.mp executed
      unfold SessionLink.emit at emitted
      split at emitted
      · obtain ⟨turn, -, rfl⟩ := Option.map_eq_some_iff.mp emitted
        exact ⟨kept.buffered, kept.sum, kept.limit, kept.idle⟩
      · cases emitted
    | forward =>
      obtain ⟨forwarded, sent, rfl⟩ := Option.map_eq_some_iff.mp executed
      unfold SessionLink.forward at sent
      split at sent
      · cases sent
      · cases sent
        exact ⟨kept.buffered, kept.sum, kept.limit, kept.idle⟩
    | drop =>
      cases executed
      exact @Kept.drop ⟨some session, used⟩ session kept

theorem accounted_of_run {link : NotificationLink} (steps : machine.Run anyAction (spawn link) run) :
    run.Accounted := by
  refine steps.invariant (fun _ _ _ _ executed accounted => Accounted.step accounted executed) ?_
  exact ⟨rfl, rfl, Nat.zero_le _, fun _ => rfl⟩

end BudgetRun

/-! ## Snapshots within the budget -/

/-- The bytes of the texts of a record. -/
def NotificationRecord.textBytes (record : NotificationRecord) : Nat :=
  record.key.origin.utf8ByteSize + record.key.instance'.utf8ByteSize +
    match record.content with
    | none => 0
    | some content =>
      content.appName.utf8ByteSize + content.title.utf8ByteSize + content.body.utf8ByteSize +
        content.icon.utf8ByteSize

/-- The bytes of the icon of a record. -/
def NotificationRecord.iconBytes (record : NotificationRecord) : Nat :=
  match record.content with
  | none => 0
  | some content => (content.iconPng.map List.length).getD 0

section Sizes

open NotificationRecord

variable {record : NotificationRecord} {records : List NotificationRecord}

theorem bytes_eq : record.bytes = record.textBytes + record.iconBytes + 256 := by
  unfold NotificationRecord.bytes NotificationRecord.textBytes NotificationRecord.iconBytes
  cases record.content with
  | none => simp only
  | some content =>
    simp only
    omega

theorem textBytes_le (valid : Valid record.key record.content) : record.textBytes ≤ 5699 := by
  obtain ⟨origin, instance'⟩ := key_size valid.key
  unfold NotificationRecord.textBytes
  cases shown : record.content with
  | none => simp only; omega
  | some content =>
    obtain ⟨name, title, body, icon, -⟩ := content_size (valid.content content shown)
    simp only
    omega

/-- The JSON of a record has its texts, and two bytes at least for each of its icon. -/
theorem le_size_json : record.textBytes + 2 * record.iconBytes ≤ Json.size record.json := by
  have key : record.key.origin.utf8ByteSize + record.key.instance'.utf8ByteSize ≤
      Json.size record.key.json := by
    have origin := Json.le_size_string record.key.origin
    have instance' := Json.le_size_string record.key.instance'
    refine Nat.le_trans ?_ (Json.le_size_object _)
    simp only [List.map_cons, List.map_nil, Json.sizes_cons, Json.sizes_nil]
    omega
  have whole : Json.size record.key.json + Json.size (jsonContent record.content) ≤
      Json.size record.json := by
    refine Nat.le_trans ?_ (Json.le_size_object _)
    simp only [List.map_cons, List.map_nil, Json.sizes_cons, Json.sizes_nil]
    omega
  unfold NotificationRecord.textBytes NotificationRecord.iconBytes
  cases shown : record.content with
  | none => simp only; omega
  | some content =>
    rw [shown] at whole
    have body : content.appName.utf8ByteSize + content.title.utf8ByteSize +
        content.body.utf8ByteSize + content.icon.utf8ByteSize +
        2 * (content.iconPng.map List.length).getD 0 ≤ Json.size (jsonContent (some content)) := by
      have name := Json.le_size_string content.appName
      have title := Json.le_size_string content.title
      have text := Json.le_size_string content.body
      have icon := Json.le_size_string content.icon
      refine Nat.le_trans ?_ (Json.le_size_object _)
      cases content.iconPng with
      | none =>
        simp only [Option.toList_none, List.map_cons, List.map_nil, List.cons_append,
          List.nil_append, Json.sizes_cons, Json.sizes_nil, Option.map_none, Option.getD_none]
        omega
      | some png =>
        have bytes := Json.le_size_byteArray png
        simp only [Option.toList_some, List.map_cons, List.map_nil, List.cons_append,
          List.nil_append, Json.sizes_cons, Json.sizes_nil, Option.map_some, Option.getD_some]
        omega
    simp only
    omega

theorem weight_bytes : weight NotificationRecord.bytes records =
    weight textBytes records + weight iconBytes records + 256 * records.length := by
  induction records with
  | nil => rfl
  | cons record records ih =>
    rw [weight_cons, weight_cons, weight_cons, List.length_cons, ih, bytes_eq]
    omega

theorem weight_textBytes_le (valid : ∀ record ∈ records, Valid record.key record.content) :
    weight textBytes records ≤ 5699 * records.length := by
  induction records with
  | nil => exact Nat.le_refl 0
  | cons record records ih =>
    obtain ⟨first, rest⟩ := List.forall_mem_cons.mp valid
    have text := textBytes_le first
    have texts := ih rest
    rw [weight_cons, List.length_cons]
    omega

theorem weight_le_sizes : weight textBytes records + 2 * weight iconBytes records ≤
    Json.sizes (records.map NotificationRecord.json) := by
  induction records with
  | nil => exact Nat.le_refl 0
  | cons record records ih =>
    have one := @le_size_json record
    rw [weight_cons, weight_cons, List.map_cons, Json.sizes_cons]
    omega

/-- The records of a store that `persist` accepts are within the budget. Where icons take more than
    the fixed share of each record, the JSON is longer than the budget; where they do not, the
    limits of the texts are enough. -/
theorem weight_bytes_le {s : Store} {coordinator : Bool} (stored : s.Stored coordinator)
    (fits : Json.size s.json ≤ maxStoreBytes) :
    weight NotificationRecord.bytes s.records ≤ maxStoreBytes := by
  have array := Json.le_size_array (s.records.map NotificationRecord.json)
  have whole : Json.size (Json.array (s.records.map NotificationRecord.json)) ≤
      Json.size s.json := by
    refine Nat.le_trans ?_ (Json.le_size_object _)
    simp only [List.map_cons, List.map_nil, Json.sizes_cons, Json.sizes_nil]
    omega
  have json := @weight_le_sizes s.records
  have texts := weight_textBytes_le stored.records
  have count := stored.fits
  rw [weight_bytes]
  unfold maxStoreBytes maxRecords at *
  omega

end Sizes

/-- The frames of a snapshot, one after the other. -/
def SessionLink.enqueueAll (session : SessionLink) (events : List NotificationSync) :
    Except String SessionLink := events.foldlM SessionLink.enqueue session

namespace SessionLink

variable {session : SessionLink} {records : List NotificationRecord}

/-- Records that are within the budget and the limit are all staged. -/
theorem enqueueAll_records {incoming : IncomingSnapshot} (staged : session.staged = some incoming)
    (room : incoming.records.length + records.length ≤ maxRecords)
    (budget : session.bufferedBytes + weight NotificationRecord.bytes records ≤ maxStoreBytes) :
    ∃ session', session.enqueueAll (records.map .record) = .ok session' ∧
      session'.staged.isSome = true ∧ session'.working = session.working ∧
      session'.requests = session.requests := by
  induction records generalizing session incoming with
  | nil => exact ⟨session, rfl, by rw [staged]; rfl, rfl, rfl⟩
  | cons entry records ih =>
    rw [weight_cons] at budget
    rw [List.length_cons] at room
    have taken : session.enqueue (.record entry) = .ok { session with
        staged := some { incoming with
          records := incoming.records ++ [entry], bytes := incoming.bytes + entry.bytes }
        bufferedBytes := session.bufferedBytes + entry.bytes } := by
      simp only [enqueue, staged, bind_eq_ok, ensure_eq_ok, pure_eq_ok]
      exact ⟨⟨⟩, by omega, ⟨⟩, by omega, trivial⟩
    obtain ⟨session', rest, some, working, requests⟩ := @ih
      { session with
        staged := some { incoming with
          records := incoming.records ++ [entry], bytes := incoming.bytes + entry.bytes }
        bufferedBytes := session.bufferedBytes + entry.bytes } _ rfl
      (by rw [List.length_append, List.length_singleton]; omega) (by simp only; omega)
    refine ⟨session', ?_, some, working, requests⟩
    rw [enqueueAll, List.map_cons, List.foldlM_cons, taken]
    exact rest

/-- An idle session takes every frame of a snapshot within the budget. -/
theorem Idle.enqueueAll_snapshot (idle : session.Idle) (unused : session.bufferedBytes = 0)
    {s : Store} (stored : s.Stored true) (fits : Json.size s.json ≤ maxStoreBytes) :
    ∃ session', session.enqueueAll (NotificationLink.snapshot s) = .ok session' := by
  have drawn : s.epoch.utf8ByteSize = 32 := by
    obtain ⟨replica, -⟩ | drawn := stored.epoch
    · cases replica
    · exact drawn
  have opened : session.enqueue (.snapshotStart s.epoch) =
      .ok { session with staged := some { epoch := s.epoch } } := by
    simp only [enqueue, bind_eq_ok, ensure_eq_ok, pure_eq_ok]
    exact ⟨⟨⟩, idle.staged, ⟨⟩, drawn, trivial⟩
  obtain ⟨gathered, records, staged, working, requests⟩ := @enqueueAll_records
    { session with staged := some { epoch := s.epoch } } s.records _ rfl
    (by rw [List.length_nil, Nat.zero_add]; exact stored.fits)
    (by simp only; rw [unused, Nat.zero_add]; exact weight_bytes_le stored fits)
  obtain ⟨incoming, staged⟩ := Option.isSome_iff_exists.mp staged
  have ended : ∃ session', gathered.enqueue .snapshotEnd = .ok session' := by
    simp only [enqueue, staged, SessionLink.request, bind_eq_ok, ensure_eq_ok, pure_eq_ok]
    refine ⟨_, ⟨⟩, working.trans idle.working, ⟨⟩, ?_, rfl⟩
    simp only [requests, idle.requests]
    decide
  obtain ⟨session', ended⟩ := ended
  refine ⟨session', ?_⟩
  unfold enqueueAll at records ⊢
  rw [NotificationLink.snapshot, List.foldlM_cons, opened]
  refine bind_eq_ok.mpr ⟨_, rfl, ?_⟩
  rw [List.foldlM_append]
  refine bind_eq_ok.mpr ⟨gathered, records, ?_⟩
  rw [List.foldlM_cons, ended]
  rfl

end SessionLink

/-- In every run of a session the counter is the sum of the budgets of its snapshots, within the
    limit, and zero when there is none; and an idle session takes the whole snapshot of every store
    that `persist` accepts. The stores of a coordinator are such stores in every run. -/
theorem snapshot_budget {link : NotificationLink} {run : BudgetRun}
    (steps : BudgetRun.machine.Run anyAction (.spawn link) run) :
    (run.used ≤ maxStoreBytes ∧
      (∀ session, run.session = some session → run.used = weight id session.budgets ∧
        (session.staged = none → session.current = [] → session.requests = [] → run.used = 0)) ∧
      (run.session = none → run.used = 0)) ∧
    (∀ (s : Store), s.Stored true → Json.size s.json ≤ maxStoreBytes →
      ∀ session, run.session = some session → session.Idle →
        ∃ session', session.enqueueAll (NotificationLink.snapshot s) = .ok session') ∧
    ∀ (start node : Node Nat), start.FirstStart → (Node.machine Nat).Run anyAction start node →
      node.hub.isCoordinator = true → node.hub.state.Stored true := by
  have accounted := BudgetRun.accounted_of_run steps
  obtain ⟨held, used⟩ := run
  refine ⟨?_, ?_, fun start node first moved role => ?_⟩
  · cases held with
    | none =>
      have unused : used = 0 := accounted
      refine ⟨?_, fun session there => (by cases there), fun _ => unused⟩
      rw [unused]
      exact Nat.zero_le _
    | some session =>
      have kept : BudgetRun.Kept used session := accounted
      refine ⟨kept.limit, fun session' same => ?_, fun none => by cases none⟩
      cases same
      refine ⟨kept.sum, fun staged current requests => kept.sum.trans ?_⟩
      simp [SessionLink.budgets, staged, requests, kept.idle current]
  · intro s stored fits session there idle
    cases there
    have kept : BudgetRun.Kept used session := accounted
    refine idle.enqueueAll_snapshot ?_ stored fits
    rw [← kept.buffered, kept.sum]
    simp [SessionLink.budgets, idle.staged, idle.requests, kept.idle idle.current]
  · have stored := (first.holds.of_run moved).hub.state
    rwa [role] at stored

/-- A coordinator's store with one record. -/
def sampleStore : Store :=
  { coordinator := ownerFingerprint
    epoch := sampleEpoch
    localIdentity := ownerFingerprint
    sequence := 1
    records := [⟨sampleKey, 1, sampleContent⟩] }

/-- The owner is confirmed on a replica's session. -/
def sampleConfirmed : List BudgetStep :=
  let hub := (sampleNode ownerFingerprint replicaFingerprint "").1.hub
  [.enqueue (.settings ownerFingerprint), .work hub .stored, .work hub .stored]

theorem snapshot_budget_sample :
    let start := BudgetRun.spawn { peer := ownerFingerprint, outgoing := [] }
    let run := BudgetRun.machine.reach start sampleConfirmed
    run.used = 0 ∧ ∃ session session', run.session = some session ∧
      session.enqueueAll (NotificationLink.snapshot sampleStore) = .ok session' := by
  intro start run
  have budget := snapshot_budget (run_reach sampleConfirmed (by decide +kernel) :
    BudgetRun.machine.Run anyAction start run)
  have stored : sampleStore.Stored true := by
    refine ⟨fun record member => ?_, fun _ none => (by cases none), by decide,
      .inr (by decide +kernel)⟩
    rw [List.mem_singleton.mp member]
    refine ⟨by decide +kernel, fun content shown => ?_⟩
    cases shown
    decide +kernel
  obtain ⟨session, there⟩ := Option.isSome_iff_exists.mp
    (show run.session.isSome = true by decide +kernel)
  have idle : session.Idle := by
    have each : run.session.all (fun session => session.working && session.staged.isNone &&
        session.current.isEmpty && session.requests.isEmpty) = true := by decide +kernel
    rw [there, Option.all_some] at each
    simp only [Bool.and_eq_true, Option.isNone_iff_eq_none, List.isEmpty_iff] at each
    obtain ⟨⟨⟨working, staged⟩, current⟩, requests⟩ := each
    exact ⟨working, staged, current, requests⟩
  obtain ⟨session', taken⟩ :=
    budget.2.1 sampleStore stored (by decide +kernel) session there idle
  refine ⟨?_, session, session', there, taken⟩
  exact (budget.1.2.1 session there).2 idle.staged idle.current idle.requests

end EdgeKvm.Notification
