import EdgeKvm.Pairing.Control
import EdgeKvm.Pairing.PinTable

/-!
# The list of phone sessions

`connected` and the limit on pairing sessions read the `pairing` flag that `start` sets. The flag
stays set when the session gets its pin, so a phone that just paired is not listed and goes on
taking one of the places for phones that pair.
-/

namespace EdgeKvm.Pairing

open EdgeKvm.Lib Machine

/-! ## What the list and the limit stand for -/

/-- The task of the session still runs. -/
def RunningPhone.live (running : RunningPhone) : Bool := running.stage ≠ .finished

/-- `run_phone_session` is past `pair_phone`, or never needed it. -/
def RunningPhone.pastPairing (running : RunningPhone) : Bool := running.stage = .running

/-- How many sessions `start` counts against `MAX_PAIRING_SESSIONS`. -/
def PhoneSessions.pairingCount (phones : PhoneSessions) : Nat :=
  phones.prune.sessions.countValues (·.pairing)

namespace Receiver

/-- The phone of a session is pinned: `phone_status(..).is_trusted()`. -/
def pinned (r : Receiver) (fingerprint : String) (running : RunningPhone) : Bool :=
  (r.pins.phoneStatus running.name fingerprint).isTrusted

/-- The phones that have a live session past pairing. -/
def present (r : Receiver) : List String :=
  (r.phones.sessions.entries.filter fun entry => entry.2.live && entry.2.pastPairing).map
    fun entry => entry.2.name

/-- How many live sessions belong to phones that are not pinned. -/
def unpinnedCount (r : Receiver) : Nat :=
  r.phones.sessions.entries.countP fun entry => entry.2.live && !r.pinned entry.1 entry.2

/-- The list and the count are what they stand for. -/
structure Truthful (r : Receiver) : Prop where
  connected : r.phones.connected = r.present
  counted : r.phones.pairingCount = r.unpinnedCount

/-- A pairing that is granted changes the pin of no live session: one that has the granted name or
    the granted key was pinned before exactly if it has both. -/
def LeavesSessions (r : Receiver) : ReceiverAction → Prop
  | .handle saved _ now => ∀ id name fingerprint ip token,
    r.phones.requests.head? = some (.pair id name fingerprint ip token) →
    r.Grants fingerprint ip token saved now →
    ∀ key running, r.phones.sessions.lookup key = some running → running.live = true →
      (running.name = name ∨ key = fingerprint) →
        (r.pinned key running = true ↔ running.name = name ∧ key = fingerprint)
  | _ => True

/-! ## The flags -/

/-- The flag of a live session is set exactly while its phone is not pinned, and before the session
    is past pairing. -/
def Flagged (pins : PinStore) (fingerprint : String) (running : RunningPhone) : Prop :=
  running.live = true → running.pairing = !running.pastPairing ∧
    running.pairing = !(pins.phoneStatus running.name fingerprint).isTrusted

/-- No session got a pin, and a pairing request that is waiting has the name of its session. -/
structure Faithful (pins : PinStore) (phones : PhoneSessions) : Prop where
  flags : ∀ key running, phones.sessions.lookup key = some running → Flagged pins key running
  ungranted : ∀ key running phone, phones.sessions.lookup key = some running →
    running.stage ≠ .answered (.ok phone)
  ids : ∀ key running, phones.sessions.lookup key = some running → running.id < phones.nextId
  requests : ∀ id name fingerprint ip token,
    PhoneRequest.pair id name fingerprint ip token ∈ phones.requests → id < phones.nextId ∧
      ∀ running, phones.sessions.lookup fingerprint = some running → running.id = id →
        running.name = name

variable {r r' : Receiver} {phones phones' : PhoneSessions} {pins : PinStore}
  {name fingerprint : String} {running : RunningPhone} {stage : PhoneStage} {now : Instant}

theorem Faithful.truthful (faithful : Faithful r.pins r.phones) : r.Truthful := by
  have flagged (entry : (_ : String) × RunningPhone) (found : entry ∈ r.phones.sessions.entries) :
      Flagged r.pins entry.1 entry.2 :=
    faithful.flags entry.1 entry.2 (Table.mem_entries.mp found)
  constructor
  · unfold PhoneSessions.connected present
    congr 1
    apply List.filter_congr
    intro entry found
    cases live : entry.2.live with
    | false => simp [RunningPhone.live] at live; simp [live]
    | true =>
      have flag := (flagged entry found live).1
      have running : decide (entry.2.stage ≠ .finished) = true := live
      rw [flag, running, Bool.not_not, Bool.and_true, Bool.true_and]
  · unfold PhoneSessions.pairingCount Table.countValues PhoneSessions.prune Table.retain
      unpinnedCount
    rw [List.countP_filter]
    apply List.countP_congr
    intro entry found
    cases live : entry.2.live with
    | false => simp [RunningPhone.live] at live; simp [live]
    | true =>
      have flag := (flagged entry found live).2
      have running : decide (entry.2.stage ≠ .finished) = true := live
      dsimp only
      rw [flag, running, Bool.and_true, Bool.true_and]
      exact Iff.rfl

/-! ## Trust in a phone -/

theorem isTrusted_iff : (pins.phoneStatus name fingerprint).isTrusted = true ↔
    ∃ pinned, pins.phones.lookup name = some pinned ∧ pinned.fingerprint = fingerprint := by
  rw [← PinStore.phoneStatus_trusted]
  cases pins.phoneStatus name fingerprint <;> simp [PinStatus.isTrusted]

theorem admitPhone_trusted {pairingOpen : Bool} {phone : PinnedPhone}
    (accepted : admitPhone pins name fingerprint pairingOpen = .accept phone) :
    (pins.phoneStatus name fingerprint).isTrusted = true := by
  unfold admitPhone at accepted
  split at accepted
  · cases accepted
  · split at accepted
    · rename_i trusted _
      rw [trusted]
      rfl
    · split at accepted <;> cases accepted
    · split at accepted <;> cases accepted

/-- A phone that may pair is not pinned under its name. -/
theorem admitPhone_untrusted {pairingOpen : Bool}
    (admitted : admitPhone pins name fingerprint pairingOpen = .pair) :
    (pins.phoneStatus name fingerprint).isTrusted = false := by
  rw [Bool.eq_false_iff]
  intro trusted
  obtain ⟨phone, found, same⟩ := isTrusted_iff.mp trusted
  have status : pins.phoneStatus name fingerprint = .trusted :=
    PinStore.phoneStatus_trusted.mpr ⟨phone, found, same⟩
  have phone' : pins.phone name = some phone := found
  unfold admitPhone at admitted
  rw [status, phone'] at admitted
  split at admitted <;> cases admitted

/-- After a pairing a phone is pinned if it is the one that paired, or was pinned and shares
    neither the name nor the key with it. -/
theorem isTrusted_repin {other key : String} :
    (((pins.dropPhoneKey fingerprint).pinPhone name fingerprint PhoneFeature.all).phoneStatus
        other key).isTrusted = true ↔
      other = name ∧ key = fingerprint ∨
        other ≠ name ∧ key ≠ fingerprint ∧ (pins.phoneStatus other key).isTrusted = true := by
  simp only [isTrusted_iff, PinStore.lookup_repin]
  constructor
  · rintro ⟨phone, ⟨rfl, rfl⟩ | ⟨elsewhere, found, kept⟩, rfl⟩
    · exact .inl ⟨rfl, rfl⟩
    · exact .inr ⟨elsewhere, kept, phone, found, rfl⟩
  · rintro (⟨rfl, rfl⟩ | ⟨elsewhere, kept, phone, found, rfl⟩)
    · exact ⟨_, .inl ⟨rfl, rfl⟩, rfl⟩
    · exact ⟨phone, .inr ⟨elsewhere, found, kept⟩, rfl⟩

/-- Unpairing a phone leaves the others pinned. -/
theorem isTrusted_erase {removed : PinnedPhone} {other key : String}
    (found : pins.phones.lookup name = some removed) (apart : key ≠ removed.fingerprint) :
    (({ pins with phones := pins.phones.erase name } : PinStore).phoneStatus other key).isTrusted =
      (pins.phoneStatus other key).isTrusted := by
  rw [Bool.eq_iff_iff, isTrusted_iff, isTrusted_iff]
  constructor
  · rintro ⟨phone, there, rfl⟩
    exact ⟨phone, (Table.lookup_erase_eq_some.mp there).2, rfl⟩
  · rintro ⟨phone, there, rfl⟩
    refine ⟨phone, Table.lookup_erase_eq_some.mpr ⟨?_, there⟩, rfl⟩
    rintro rfl
    rw [found] at there
    cases there
    exact apart rfl

/-! ## The sessions move on -/

theorem Faithful.setStage (faithful : Faithful pins phones)
    (there : phones.sessions.lookup fingerprint = some running)
    (flag : Flagged pins fingerprint { running with stage })
    (ungranted : ∀ phone, stage ≠ .answered (.ok phone)) :
    Faithful pins (phones.setStage fingerprint running stage) := by
  constructor
  · intro key session found
    rcases Table.lookup_insert_eq_some.mp found with ⟨rfl, rfl⟩ | ⟨-, found⟩
    · exact flag
    · exact faithful.flags key session found
  · intro key session phone found
    rcases Table.lookup_insert_eq_some.mp found with ⟨rfl, rfl⟩ | ⟨-, found⟩
    · exact ungranted phone
    · exact faithful.ungranted key session phone found
  · intro key session found
    rcases Table.lookup_insert_eq_some.mp found with ⟨rfl, rfl⟩ | ⟨-, found⟩
    · exact faithful.ids _ running there
    · exact faithful.ids key session found
  · intro id name key ip token queued
    obtain ⟨old, named⟩ := faithful.requests id name key ip token queued
    refine ⟨old, fun session found same => ?_⟩
    rcases Table.lookup_insert_eq_some.mp found with ⟨rfl, rfl⟩ | ⟨-, found⟩
    · exact named running there same
    · exact named session found same

/-- A session that does not run any more has no flag to keep. -/
theorem flagged_finished : Flagged pins fingerprint { running with stage := .finished } := by
  intro live
  simp [RunningPhone.live] at live

theorem Faithful.finish (faithful : Faithful pins phones)
    (there : phones.sessions.lookup fingerprint = some running) :
    Faithful pins (phones.setStage fingerprint running .finished) :=
  faithful.setStage there flagged_finished fun phone same => by cases same

/-- Before the answer a session changes its stage without coming past the pairing. -/
theorem Faithful.advance (faithful : Faithful pins phones)
    (there : phones.sessions.lookup fingerprint = some running) (live : running.live = true)
    (before : running.pastPairing = false) (still : stage ≠ .running)
    (ungranted : ∀ phone, stage ≠ .answered (.ok phone)) :
    Faithful pins (phones.setStage fingerprint running stage) := by
  refine faithful.setStage there (fun _ => ?_) ungranted
  obtain ⟨past, pin⟩ := faithful.flags fingerprint running there live
  rw [before] at past
  refine ⟨?_, pin⟩
  simp [RunningPhone.pastPairing, still, past]

theorem Faithful.push (faithful : Faithful pins phones) {request : PhoneRequest}
    (named : ∀ id name fingerprint ip token, request = .pair id name fingerprint ip token →
      id < phones.nextId ∧ ∀ running, phones.sessions.lookup fingerprint = some running →
        running.id = id → running.name = name) :
    Faithful pins (phones.push request) := by
  refine ⟨faithful.flags, faithful.ungranted, faithful.ids, ?_⟩
  intro id name key ip token queued
  rcases List.mem_append.mp queued with queued | last
  · exact faithful.requests id name key ip token queued
  · exact named id name key ip token (List.mem_singleton.mp last).symm

theorem Faithful.prune (faithful : Faithful pins phones) : Faithful pins phones.prune := by
  have kept {key : String} {session : RunningPhone}
      (found : phones.prune.sessions.lookup key = some session) :
      phones.sessions.lookup key = some session := (Table.lookup_retain_eq_some.mp found).1
  refine ⟨fun key session found => faithful.flags key session (kept found),
    fun key session phone found => faithful.ungranted key session phone (kept found),
    fun key session found => faithful.ids key session (kept found), ?_⟩
  intro id name key ip token queued
  obtain ⟨old, named⟩ := faithful.requests id name key ip token queued
  exact ⟨old, fun session found => named session (kept found)⟩

theorem Faithful.insert {pairing : Bool} (faithful : Faithful pins phones)
    (flag : Flagged pins fingerprint ⟨phones.nextId, name, pairing, stage⟩)
    (ungranted : ∀ phone, stage ≠ .answered (.ok phone)) :
    Faithful pins (phones.insert name fingerprint pairing stage) := by
  constructor
  · intro key session found
    rcases Table.lookup_insert_eq_some.mp found with ⟨rfl, rfl⟩ | ⟨-, found⟩
    · exact flag
    · exact faithful.flags key session found
  · intro key session phone found
    rcases Table.lookup_insert_eq_some.mp found with ⟨rfl, rfl⟩ | ⟨-, found⟩
    · exact ungranted phone
    · exact faithful.ungranted key session phone found
  · intro key session found
    rcases Table.lookup_insert_eq_some.mp found with ⟨rfl, rfl⟩ | ⟨-, found⟩
    · exact Nat.lt_succ_self _
    · exact Nat.lt_succ_of_lt (faithful.ids key session found)
  · intro id other key ip token queued
    obtain ⟨old, named⟩ := faithful.requests id other key ip token queued
    refine ⟨Nat.lt_succ_of_lt old, fun session found same => ?_⟩
    rcases Table.lookup_insert_eq_some.mp found with ⟨rfl, rfl⟩ | ⟨-, found⟩
    · -- The new session has a number that no request has.
      exact absurd (same : phones.nextId = id) (Nat.ne_of_gt old)
    · exact named session found same

/-- `start` sets the flag of a phone that is not pinned, and of no other. -/
theorem Faithful.start (faithful : Faithful pins phones) (now : Instant) :
    Faithful pins (phones.start name fingerprint pins now).1 := by
  unfold PhoneSessions.start
  dsimp only
  split
  · rename_i phone accepted
    refine faithful.prune.insert (fun _ => ⟨rfl, ?_⟩) (fun phone => (by simp))
    rw [admitPhone_trusted accepted]
    rfl
  · rename_i admitted
    split
    · exact faithful.prune
    · refine faithful.prune.insert (fun _ => ⟨rfl, ?_⟩) (fun phone => (by simp))
      rw [admitPhone_untrusted admitted]
      rfl
  · exact faithful.prune

/-! ## The requests -/

theorem Faithful.pop {requests : List PhoneRequest} (faithful : Faithful pins phones)
    (rest : ∀ request ∈ requests, request ∈ phones.requests) :
    Faithful pins { phones with requests } :=
  ⟨faithful.flags, faithful.ungranted, faithful.ids,
    fun id name key ip token queued => faithful.requests id name key ip token (rest _ queued)⟩

theorem Faithful.withWindow {pairing : Option PairingWindow} (faithful : Faithful pins phones) :
    Faithful pins { phones with pairing } :=
  ⟨faithful.flags, faithful.ungranted, faithful.ids, faithful.requests⟩

/-- The answer to a session that was refused. -/
theorem Faithful.refuse {id : Nat} {refusal : PairingRefusal} (faithful : Faithful pins phones) :
    Faithful pins (phones.reply id fingerprint (.error refusal)) := by
  unfold PhoneSessions.reply
  split
  · exact faithful
  · rename_i running there
    split
    · rename_i waits
      refine faithful.advance there ?_ ?_ ?_ ?_
      · simp [RunningPhone.live, waits.2]
      · simp [RunningPhone.pastPairing, waits.2]
      · simp
      · simp
    · exact faithful

/-- The pins change, and no live session notices. -/
theorem Faithful.withPins {pins' : PinStore} (faithful : Faithful pins phones)
    (same : ∀ key running, phones.sessions.lookup key = some running → running.live = true →
      (pins'.phoneStatus running.name key).isTrusted =
        (pins.phoneStatus running.name key).isTrusted) : Faithful pins' phones := by
  refine ⟨fun key running found live => ?_, faithful.ungranted, faithful.ids, faithful.requests⟩
  obtain ⟨past, pin⟩ := faithful.flags key running found live
  exact ⟨past, by rw [pin, same key running found live]⟩

theorem Faithful.erase {key : String} (faithful : Faithful pins phones) :
    Faithful pins { phones with sessions := phones.sessions.erase key } := by
  have kept {other : String} {session : RunningPhone}
      (found : (phones.sessions.erase key).lookup other = some session) :
      phones.sessions.lookup other = some session := (Table.lookup_erase_eq_some.mp found).2
  refine ⟨fun other session found => faithful.flags other session (kept found),
    fun other session phone found => faithful.ungranted other session phone (kept found),
    fun other session found => faithful.ids other session (kept found), ?_⟩
  intro id name other ip token queued
  obtain ⟨old, named⟩ := faithful.requests id name other ip token queued
  exact ⟨old, fun session found => named session (kept found)⟩

/-- The pin of a phone and its session go together. -/
theorem Faithful.unpair {saved : Bool} {removal : Except String Unit}
    (faithful : Faithful pins phones) :
    Faithful (phones.unpair pins name saved removal).2.1
      (phones.unpair pins name saved removal).1 := by
  rcases unpair_cases phones pins name saved removal with
    ⟨sessions, kept⟩ | ⟨removed, found, -, sessions, gone⟩
  · rw [sessions, kept]
    exact faithful
  · rw [sessions, gone]
    refine faithful.erase.withPins fun key running there _ => ?_
    exact isTrusted_erase found (Table.lookup_erase_eq_some.mp there).1

/-- A pairing is granted to a session that is gone. -/
theorem Faithful.grant {id : Nat} {outcome : PinnedPhone} (faithful : Faithful pins phones)
    (queued : id < phones.nextId ∧ ∀ running, phones.sessions.lookup fingerprint = some running →
      running.id = id → running.name = name)
    (leaves : ∀ key running, phones.sessions.lookup key = some running → running.live = true →
      (running.name = name ∨ key = fingerprint) →
        ((pins.phoneStatus running.name key).isTrusted = true ↔
          running.name = name ∧ key = fingerprint)) :
    Faithful ((pins.dropPhoneKey fingerprint).pinPhone name fingerprint PhoneFeature.all)
      (({ phones with pairing := none } : PhoneSessions).reply id fingerprint (.ok outcome)) := by
  have repinned : Faithful
      ((pins.dropPhoneKey fingerprint).pinPhone name fingerprint PhoneFeature.all)
      { phones with pairing := none } := by
    refine faithful.withWindow.withPins fun key running found live => ?_
    rw [Bool.eq_iff_iff, isTrusted_repin]
    by_cases touched : running.name = name ∨ key = fingerprint
    · rw [leaves key running found live touched]
      constructor
      · rintro (both | ⟨elsewhere, other, -⟩)
        · exact both
        · exact absurd touched (not_or.mpr ⟨elsewhere, other⟩)
      · exact Or.inl
    · obtain ⟨elsewhere, other⟩ := not_or.mp touched
      exact ⟨fun trusted => (trusted.resolve_left fun both => elsewhere both.1).2.2,
        fun trusted => .inr ⟨elsewhere, other, trusted⟩⟩
  unfold PhoneSessions.reply
  split
  · exact repinned
  · rename_i running there
    split
    · rename_i waits
      -- The session that waits is live and has no pin, which the grant would give it.
      have live : running.live = true := by simp [RunningPhone.live, waits.2]
      obtain ⟨past, pin⟩ := faithful.flags fingerprint running there live
      have named := queued.2 running there waits.1
      have before : running.pastPairing = false := by simp [RunningPhone.pastPairing, waits.2]
      have trusted := (leaves fingerprint running there live (.inr rfl)).mpr ⟨named, rfl⟩
      rw [past, before, trusted] at pin
      cases pin
    · exact repinned

/-- A window that was checked against a wrong token changes nothing else. -/
theorem refused_keeps {saved : Bool} {ip : IpAddr} {token : String} {refusal : PairingRefusal}
    (faithful : Faithful pins phones)
    (result : phones.pair pins name fingerprint ip token saved now =
      (phones', pins, .error refusal)) : Faithful pins phones' := by
  unfold PhoneSessions.pair at result
  split at result
  · cases result
    exact faithful
  · split at result
    · cases result
      exact faithful.withWindow
    · split at result
      · cases result
        exact faithful
      · split at result
        · cases result
          exact faithful
        · simp at result

theorem Faithful.pinComputer {saved : Bool} (faithful : Faithful r.pins r.phones) :
    Faithful (r.pinComputer name fingerprint saved).pins
      (r.pinComputer name fingerprint saved).phones :=
  faithful.withPins fun _ _ _ _ => rfl

theorem Faithful.handle {saved : Bool} {removal : Except String Unit}
    (faithful : Faithful r.pins r.phones) (leaves : r.LeavesSessions (.handle saved removal now))
    (handled : r.handle saved removal now = some r') : Faithful r'.pins r'.phones := by
  unfold Receiver.handle at handled
  split at handled
  · cases handled
  · rename_i request requests queued
    cases handled
    have popped : Faithful r.pins { r.phones with requests } :=
      faithful.pop fun other found => by rw [queued]; exact List.mem_cons_of_mem _ found
    cases request with
    | pair id name fingerprint ip token =>
      simp only [PhoneSessions.handleRequest]
      rcases pair_cases r { r.phones with requests } rfl name fingerprint ip token saved now with
        ⟨phones', refusal, result, kept⟩ | ⟨grants, result⟩
      · rw [result]
        have refused := refused_keeps popped result
        exact refused.refuse
      · rw [result]
        have waiting := faithful.requests id name fingerprint ip token
          (by rw [queued]; exact List.mem_cons_self)
        exact popped.grant waiting
          (leaves id name fingerprint ip token (by rw [queued]; rfl) grants)
    | forget name fingerprint =>
      simp only [PhoneSessions.handleRequest]
      split
      · exact popped.unpair
      · exact popped
    | openPairing token => exact popped.withWindow
    | unpair name => exact popped.unpair

theorem Faithful.exec {action : ReceiverAction} (faithful : Faithful r.pins r.phones)
    (leaves : r.LeavesSessions action) (executed : machine.exec r action = some r') :
    Faithful r'.pins r'.phones := by
  simp only [machine, Receiver.exec] at executed
  split at executed
  · cases executed
  · cases action with
    | connectPhone name fingerprint now =>
      cases executed
      exact faithful.start now
    | ask fingerprint ip token =>
      obtain ⟨phones, asked, rfl⟩ := Option.map_eq_some_iff.mp executed
      obtain ⟨running, there, asked⟩ := Option.bind_eq_some_iff.mp asked
      split at asked
      · rename_i before
        cases asked
        have advanced : Faithful r.pins (r.phones.setStage fingerprint running .asked) :=
          faithful.advance there (by simp [RunningPhone.live, before])
            (by simp [RunningPhone.pastPairing, before]) (by simp) (by simp)
        refine advanced.push fun id name key ip token same => ?_
        cases same
        refine ⟨faithful.ids fingerprint running there, fun session found _ => ?_⟩
        rcases Table.lookup_insert_eq_some.mp found with ⟨-, rfl⟩ | ⟨apart, -⟩
        · rfl
        · exact absurd rfl apart
      · cases asked
    | proceed fingerprint =>
      obtain ⟨phones, moved, rfl⟩ := Option.map_eq_some_iff.mp executed
      obtain ⟨running, there, moved⟩ := Option.bind_eq_some_iff.mp moved
      split at moved
      · rename_i phone answered
        exact absurd answered (faithful.ungranted fingerprint running phone there)
      · cases moved
        exact faithful.finish there
      · cases moved
    | askForget fingerprint =>
      obtain ⟨phones, asked, rfl⟩ := Option.map_eq_some_iff.mp executed
      obtain ⟨running, there, asked⟩ := Option.bind_eq_some_iff.mp asked
      split at asked
      · cases asked
        exact (faithful.finish there).push fun id name key ip token same => by cases same
      · cases asked
    | finish fingerprint =>
      obtain ⟨phones, finished, rfl⟩ := Option.map_eq_some_iff.mp executed
      obtain ⟨running, there, finished⟩ := Option.bind_eq_some_iff.mp finished
      split at finished
      · cases finished
      · cases finished
        exact faithful.finish there
    | openPairing token =>
      cases executed
      exact faithful.push fun id name key ip token same => by cases same
    | unpair name =>
      cases executed
      exact faithful.push fun id name key ip token same => by cases same
    | handle saved removal now => exact faithful.handle leaves executed
    | accepted name fingerprint approved saved =>
      cases executed
      unfold Receiver.accepted
      split
      · exact faithful
      · split
        · exact faithful.pinComputer
        · exact faithful
    | dialed name fingerprint newlyPaired saved =>
      cases executed
      unfold Receiver.dialed
      split
      · exact faithful.pinComputer
      · exact faithful

/-! ## In every run -/

theorem faithful_empty : Faithful ({} : Receiver).pins ({} : Receiver).phones :=
  ⟨fun _ _ found => (by cases found), fun _ _ _ found => (by cases found),
    fun _ _ found => (by cases found), fun _ _ _ _ _ queued => (by cases queued)⟩

/-- As long as no pairing is granted that changes the pin of a live session, the list names the
    phones with a live session past pairing, and the sessions counted against the limit are the
    live ones of phones that are not pinned. -/
theorem session_list_truthful (run : machine.Run LeavesSessions {} r) : r.Truthful := by
  have faithful : Faithful r.pins r.phones :=
    run.invariant (I := fun r => Faithful r.pins r.phones)
      (fun _ _ _ leaves executed faithful => faithful.exec leaves executed) faithful_empty
  exact faithful.truthful

/-- A test that implies `LeavesSessions`: no pairing is granted while a session lives. -/
def leavesSessions (r : Receiver) : ReceiverAction → Bool
  | .handle _ _ _ =>
    match r.phones.requests.head? with
    | some (.pair ..) => r.phones.sessions.entries.all fun entry => !entry.2.live
    | _ => true
  | _ => true

theorem leavesSessions_sound (r : Receiver) (action : ReceiverAction)
    (passed : r.leavesSessions action = true) : r.LeavesSessions action := by
  cases action with
  | handle saved removal now =>
    intro id name fingerprint ip token head grants key running found live
    have finished : (r.phones.sessions.entries.all fun entry => !entry.2.live) = true := by
      simpa [leavesSessions, head] using passed
    have dead := List.all_eq_true.mp finished _ (Table.mem_entries.mpr found)
    simp [live] at dead
  | _ => trivial

/-- A phone leaves before its pairing is granted, and comes back with its pin. -/
def pairedMeanwhile : List ReceiverAction :=
  [.openPairing "t1", .handle true (.ok ()) 0, .connectPhone "pixel" "aa" 1,
    .ask "aa" "192.168.0.7" "t1", .finish "aa", .handle true (.ok ()) 2,
    .connectPhone "pixel" "aa" 3]

theorem session_list_truthful_pairedMeanwhile :
    (machine.reach {} pairedMeanwhile).Truthful ∧
      (machine.reach {} pairedMeanwhile).phones.connected = ["pixel"] := by
  have run : machine.Run LeavesSessions {} (machine.reach {} pairedMeanwhile) :=
    run_reach_of_allowedList leavesSessions leavesSessions_sound _ (by decide +kernel)
      (by decide +kernel)
  exact ⟨session_list_truthful run, by decide +kernel⟩

/-- A phone that pairs and goes on is not listed, and its session is counted as one that pairs. -/
theorem paired_phone_unlisted : ∃ r, machine.Run anyAction {} r ∧ r.present = ["pixel"] ∧
    r.phones.connected = [] ∧ r.unpinnedCount = 0 ∧ r.phones.pairingCount = 1 ∧ ¬ r.Truthful := by
  have run : machine.Run anyAction {} (machine.reach {} (samplePhone "pixel" "aa" "t1")) :=
    run_reach _ (by decide +kernel)
  have listed : (machine.reach {} (samplePhone "pixel" "aa" "t1")).present = ["pixel"] := by
    decide +kernel
  have connected : (machine.reach {} (samplePhone "pixel" "aa" "t1")).phones.connected = [] := by
    decide +kernel
  refine ⟨_, run, listed, connected, by decide +kernel, by decide +kernel, fun truthful => ?_⟩
  have same := truthful.connected
  rw [listed, connected] at same
  cases same

end Receiver

end EdgeKvm.Pairing
