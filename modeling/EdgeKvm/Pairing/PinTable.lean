import EdgeKvm.Pairing.PhoneSessions

/-!
# The pins and the sessions

A key is pinned as a computer or as a phone, a phone under one name, and a session past pairing has
a pinned key. Two steps of the loop break this: the pin after dialling is not checked against the
phones, and a phone that pairs under the name of another leaves the session of that one running.
-/

namespace EdgeKvm.Pairing

open EdgeKvm.Lib Machine

/-- The save of the pins that comes with an action fails. -/
def ReceiverAction.saveFailed : ReceiverAction → Bool
  | .handle saved _ _ | .accepted _ _ _ saved | .dialed _ _ _ saved => !saved
  | _ => false

namespace Receiver

/-- No key is pinned as a computer and as a phone, a phone has one name, and the key of every
    session that is past pairing is pinned. -/
structure Clean (r : Receiver) : Prop where
  apart : ∀ fingerprint,
    ¬ (r.pins.isPcKey fingerprint = true ∧ r.pins.isPhoneKey fingerprint = true)
  single : ∀ name name' phone phone', r.pins.phones.lookup name = some phone →
    r.pins.phones.lookup name' = some phone' → phone.fingerprint = phone'.fingerprint →
      name = name'
  sessions : ∀ fingerprint running, r.phones.sessions.lookup fingerprint = some running →
    running.admitted = true → r.pins.isPhoneKey fingerprint = true

/-- The pairing request is granted when the loop handles it. -/
def Grants (r : Receiver) (fingerprint : String) (ip : IpAddr) (token : String) (saved : Bool)
    (now : Instant) : Prop :=
  saved = true ∧ r.pins.isPcKey fingerprint = false ∧
    ∃ window, r.phones.pairing = some window ∧ (window.check token ip now).1 = .ok ()

/-- A dialled computer whose key is pinned now has no phone's key, and a phone that pairs does
    not take the name of another one whose session is past pairing. -/
def Careful (r : Receiver) : ReceiverAction → Prop
  | .dialed _ fingerprint newlyPaired _ =>
    newlyPaired = true → r.pins.isPhoneKey fingerprint = false
  | .handle saved _ now => ∀ id name fingerprint ip token,
    r.phones.requests.head? = some (.pair id name fingerprint ip token) →
    r.Grants fingerprint ip token saved now →
    ∀ phone running, r.pins.phones.lookup name = some phone → phone.fingerprint ≠ fingerprint →
      r.phones.sessions.lookup phone.fingerprint = some running → running.admitted = false
  | _ => True

variable {r r' : Receiver} {phones phones' : PhoneSessions} {pins pins' : PinStore}
  {name fingerprint : String}

/-! ## The sessions -/

/-- The sessions past pairing have pinned keys. -/
def Pinned (pins : PinStore) (phones : PhoneSessions) : Prop :=
  ∀ fingerprint running, phones.sessions.lookup fingerprint = some running →
    running.admitted = true → pins.isPhoneKey fingerprint = true

theorem Pinned.setStage {running : RunningPhone} {stage : PhoneStage} (pinned : Pinned pins phones)
    (there : phones.sessions.lookup fingerprint = some running)
    (kept : ({ running with stage } : RunningPhone).admitted = true → running.admitted = true) :
    Pinned pins (phones.setStage fingerprint running stage) := by
  intro other session found admitted
  rcases Table.lookup_insert_eq_some.mp found with ⟨rfl, rfl⟩ | ⟨-, found⟩
  · exact pinned _ running there (kept admitted)
  · exact pinned other session found admitted

theorem Pinned.insert {pairing : Bool} {stage : PhoneStage} (pinned : Pinned pins phones)
    (entering : ({ id := phones.nextId, name, pairing, stage } : RunningPhone).admitted = true →
      pins.isPhoneKey fingerprint = true) :
    Pinned pins (phones.insert name fingerprint pairing stage) := by
  intro other session found admitted
  rcases Table.lookup_insert_eq_some.mp found with ⟨rfl, rfl⟩ | ⟨-, found⟩
  · exact entering admitted
  · exact pinned other session found admitted

theorem Pinned.prune (pinned : Pinned pins phones) : Pinned pins phones.prune := by
  intro other session found admitted
  exact pinned other session (Table.lookup_retain_eq_some.mp found).1 admitted

/-- A phone is accepted with a pinned key only. -/
theorem admitPhone_accept {pairingOpen : Bool} {phone : PinnedPhone}
    (accepted : admitPhone pins name fingerprint pairingOpen = .accept phone) :
    pins.isPhoneKey fingerprint = true := by
  unfold admitPhone at accepted
  split at accepted
  · cases accepted
  · split at accepted
    · rename_i trusted _
      obtain ⟨phone, found, same⟩ := PinStore.phoneStatus_trusted.mp trusted
      exact PinStore.isPhoneKey_iff.mpr ⟨name, phone, found, same⟩
    · split at accepted <;> cases accepted
    · split at accepted <;> cases accepted

theorem Pinned.start (pinned : Pinned pins phones) (now : Instant) :
    Pinned pins (phones.start name fingerprint pins now).1 := by
  unfold PhoneSessions.start
  dsimp only
  split
  · rename_i phone accepted
    exact pinned.prune.insert fun _ => admitPhone_accept accepted
  · split
    · exact pinned.prune
    · exact pinned.prune.insert nofun
  · exact pinned.prune

theorem Pinned.reply {id : Nat} {outcome : Except PairingRefusal PinnedPhone}
    (pinned : Pinned pins phones)
    (granted : ∀ phone, outcome = .ok phone → pins.isPhoneKey fingerprint = true) :
    Pinned pins (phones.reply id fingerprint outcome) := by
  unfold PhoneSessions.reply
  split
  · exact pinned
  · split
    · intro other session found admitted
      rcases Table.lookup_insert_eq_some.mp found with ⟨rfl, rfl⟩ | ⟨-, found⟩
      · cases outcome with
        | error refusal => cases admitted
        | ok phone => exact granted phone rfl
      · exact pinned other session found admitted
    · exact pinned

/-! ## Pairing and unpairing -/

/-- A pairing request is refused and changes no pin, or is granted. -/
theorem pair_cases (r : Receiver) (phones : PhoneSessions) (same : phones.pairing = r.phones.pairing)
    (name fingerprint : String) (ip : IpAddr) (token : String) (saved : Bool) (now : Instant) :
    (∃ phones' refusal, phones.pair r.pins name fingerprint ip token saved now =
        (phones', r.pins, .error refusal) ∧ phones'.sessions = phones.sessions) ∨
    r.Grants fingerprint ip token saved now ∧
      phones.pair r.pins name fingerprint ip token saved now =
        ({ phones with pairing := none },
          (r.pins.dropPhoneKey fingerprint).pinPhone name fingerprint PhoneFeature.all,
          .ok ⟨fingerprint, PhoneFeature.all⟩) := by
  unfold PhoneSessions.pair
  split
  · exact .inl ⟨phones, _, rfl, rfl⟩
  · rename_i window open'
    split
    · exact .inl ⟨_, _, rfl, rfl⟩
    · rename_i checked
      split
      · exact .inl ⟨phones, _, rfl, rfl⟩
      · rename_i phoneKey
        split
        · exact .inl ⟨phones, _, rfl, rfl⟩
        · rename_i saves
          refine .inr ⟨⟨by simpa using saves, by simpa using phoneKey, window, same ▸ open', ?_⟩,
            rfl⟩
          rw [checked]

/-- The pins after a pairing: every phone but the one whose name was taken keeps its key. -/
theorem isPhoneKey_repin {other : String} :
    ((pins.dropPhoneKey fingerprint).pinPhone name fingerprint PhoneFeature.all).isPhoneKey other =
        true ↔
      other = fingerprint ∨ ∃ at' phone, at' ≠ name ∧ pins.phones.lookup at' = some phone ∧
        phone.fingerprint = other ∧ other ≠ fingerprint := by
  simp only [PinStore.isPhoneKey_iff, PinStore.lookup_repin]
  constructor
  · rintro ⟨at', phone, ⟨rfl, rfl⟩ | ⟨elsewhere, found, kept⟩, rfl⟩
    · exact .inl rfl
    · exact .inr ⟨at', phone, elsewhere, found, rfl, kept⟩
  · rintro (rfl | ⟨at', phone, elsewhere, found, rfl, kept⟩)
    · exact ⟨name, _, .inl ⟨rfl, rfl⟩, rfl⟩
    · exact ⟨at', phone, .inr ⟨elsewhere, found, kept⟩, rfl⟩

/-- Nothing changed, or the pin under a name and the session of its key are gone. -/
theorem unpair_cases (phones : PhoneSessions) (pins : PinStore) (name : String) (saved : Bool)
    (removal : Except String Unit) :
    (phones.unpair pins name saved removal).1 = phones ∧
        (phones.unpair pins name saved removal).2.1 = pins ∨
    ∃ removed, pins.phones.lookup name = some removed ∧ saved = true ∧
      (phones.unpair pins name saved removal).1 =
        { phones with sessions := phones.sessions.erase removed.fingerprint } ∧
      (phones.unpair pins name saved removal).2.1 =
        { pins with phones := pins.phones.erase name } := by
  unfold PhoneSessions.unpair PinStore.removePhone
  split
  · exact .inl ⟨rfl, rfl⟩
  · rename_i removed without found
    simp only [Prod.mk.injEq] at found
    obtain ⟨found, rfl⟩ := found
    split
    · exact .inl ⟨rfl, rfl⟩
    · rename_i saves
      exact .inr ⟨removed, found, by simpa using saves, rfl, rfl⟩

/-- The pins of an unpaired phone, and its session, go together. -/
theorem Clean.unpair {removal : Except String Unit} {saved : Bool}
    (clean : ({ r with phones } : Receiver).Clean) :
    ({ r with
      phones := (phones.unpair r.pins name saved removal).1
      pins := (phones.unpair r.pins name saved removal).2.1 } : Receiver).Clean := by
  rcases unpair_cases phones r.pins name saved removal with
    ⟨sessions, pins⟩ | ⟨removed, found, -, sessions, pins⟩
  · rw [sessions, pins]
    exact clean
  · rw [sessions, pins]
    have left {at' : String} {phone : PinnedPhone}
        (found : (r.pins.phones.erase name).lookup at' = some phone) :
        at' ≠ name ∧ r.pins.phones.lookup at' = some phone := Table.lookup_erase_eq_some.mp found
    refine ⟨fun fingerprint both => ?_, ?_, fun fingerprint running there admitted => ?_⟩
    · obtain ⟨at', phone, found, same⟩ := PinStore.isPhoneKey_iff.mp both.2
      exact clean.apart fingerprint
        ⟨both.1, PinStore.isPhoneKey_iff.mpr ⟨at', phone, (left found).2, same⟩⟩
    · intro at' at'' phone phone' found found' same
      exact clean.single at' at'' phone phone' (left found).2 (left found').2 same
    · obtain ⟨other, there⟩ := Table.lookup_erase_eq_some.mp there
      obtain ⟨at', phone, found', same⟩ :=
        PinStore.isPhoneKey_iff.mp (clean.sessions fingerprint running there admitted)
      refine PinStore.isPhoneKey_iff.mpr ⟨at', phone, ?_, same⟩
      refine Table.lookup_erase_eq_some.mpr ⟨?_, found'⟩
      rintro rfl
      have found' : r.pins.phones.lookup at' = some phone := found'
      rw [found] at found'
      cases found'
      exact other same.symm

/-- A granted pairing keeps the pins clean, unless it takes the name of a phone whose session is
    past pairing. -/
theorem Clean.granted (clean : ({ r with phones } : Receiver).Clean)
    (pcKey : r.pins.isPcKey fingerprint = false)
    (free : ∀ phone running, r.pins.phones.lookup name = some phone →
      phone.fingerprint ≠ fingerprint →
      phones.sessions.lookup phone.fingerprint = some running → running.admitted = false) :
    ({ r with
      phones
      pins := (r.pins.dropPhoneKey fingerprint).pinPhone name fingerprint PhoneFeature.all } :
        Receiver).Clean := by
  refine ⟨fun other both => ?_, ?_, fun other running there admitted => ?_⟩
  · rcases isPhoneKey_repin.mp both.2 with rfl | ⟨at', phone, -, found, same, -⟩
    · have same : r.pins.isPcKey other = true := both.1
      rw [pcKey] at same
      cases same
    · exact clean.apart other ⟨both.1, PinStore.isPhoneKey_iff.mpr ⟨at', phone, found, same⟩⟩
  · intro at' at'' phone phone' found found' same
    rcases PinStore.lookup_repin.mp found with ⟨rfl, rfl⟩ | ⟨-, found, kept⟩
    · rcases PinStore.lookup_repin.mp found' with ⟨rfl, -⟩ | ⟨-, -, kept⟩
      · rfl
      · exact absurd same.symm kept
    · rcases PinStore.lookup_repin.mp found' with ⟨rfl, rfl⟩ | ⟨-, found', -⟩
      · exact absurd same kept
      · exact clean.single at' at'' phone phone' found found' same
  · refine isPhoneKey_repin.mpr ?_
    by_cases this : other = fingerprint
    · exact .inl this
    · obtain ⟨at', phone, found, same⟩ :=
        PinStore.isPhoneKey_iff.mp (clean.sessions other running there admitted)
      refine .inr ⟨at', phone, ?_, found, same, this⟩
      rintro rfl
      have closed := free phone running found (same ▸ this) (same ▸ there)
      rw [closed] at admitted
      cases admitted

theorem Clean.handle {saved : Bool} {removal : Except String Unit} {now : Instant}
    (clean : r.Clean) (careful : r.Careful (.handle saved removal now))
    (handled : r.handle saved removal now = some r') : r'.Clean := by
  unfold Receiver.handle at handled
  split at handled
  · cases handled
  · rename_i request requests queued
    cases handled
    have popped : ({ r with phones := { r.phones with requests } } : Receiver).Clean :=
      ⟨clean.apart, clean.single, clean.sessions⟩
    cases request with
    | pair id name fingerprint ip token =>
      have free := careful id name fingerprint ip token (by rw [queued]; rfl)
      simp only [PhoneSessions.handleRequest]
      rcases pair_cases r { r.phones with requests } rfl name fingerprint ip token saved now with
        ⟨phones', refusal, result, kept⟩ | ⟨grants, result⟩
      · rw [result]
        have pinned : Pinned r.pins phones' := by
          unfold Pinned
          rw [kept]
          exact clean.sessions
        exact ⟨clean.apart, clean.single, pinned.reply nofun⟩
      · rw [result]
        have free := free grants
        have closed : ({ r with
            phones := { r.phones with requests, pairing := none } } : Receiver).Clean :=
          ⟨clean.apart, clean.single, clean.sessions⟩
        have granted := closed.granted grants.2.1 free
        refine ⟨granted.apart, granted.single, Pinned.reply granted.sessions fun _ _ => ?_⟩
        exact isPhoneKey_repin.mpr (.inl rfl)
    | forget name fingerprint =>
      simp only [PhoneSessions.handleRequest]
      split
      · exact popped.unpair
      · exact popped
    | openPairing token => exact ⟨clean.apart, clean.single, clean.sessions⟩
    | unpair name => exact popped.unpair

/-- A computer's key that no phone has. -/
theorem Clean.pinComputer {saved : Bool} (clean : r.Clean)
    (phoneKey : r.pins.isPhoneKey fingerprint = false) :
    (r.pinComputer name fingerprint saved).Clean := by
  refine ⟨fun other both => ?_, clean.single, clean.sessions⟩
  have phone : r.pins.isPhoneKey other = true := both.2
  rcases PinStore.isPcKey_pin both.1 with rfl | computer
  · rw [phoneKey] at phone
    cases phone
  · exact clean.apart other ⟨computer, phone⟩

/-- A session moves on. -/
theorem Clean.withPhones (clean : r.Clean) (pinned : Pinned r.pins phones) :
    (r.withPhones phones).Clean := ⟨clean.apart, clean.single, pinned⟩

theorem Clean.exec {action : ReceiverAction} (clean : r.Clean) (careful : r.Careful action)
    (executed : machine.exec r action = some r') : r'.Clean := by
  simp only [machine, Receiver.exec] at executed
  split at executed
  · cases executed
  · cases action with
    | connectPhone name fingerprint now =>
      cases executed
      exact clean.withPhones (Pinned.start clean.sessions now)
    | ask fingerprint ip token =>
      obtain ⟨phones, asked, rfl⟩ := Option.map_eq_some_iff.mp executed
      obtain ⟨running, there, asked⟩ := Option.bind_eq_some_iff.mp asked
      split at asked
      · cases asked
        exact clean.withPhones (Pinned.setStage clean.sessions there nofun)
      · cases asked
    | proceed fingerprint =>
      obtain ⟨phones, moved, rfl⟩ := Option.map_eq_some_iff.mp executed
      obtain ⟨running, there, moved⟩ := Option.bind_eq_some_iff.mp moved
      split at moved
      · rename_i phone answered
        cases moved
        refine clean.withPhones (Pinned.setStage clean.sessions there fun _ => ?_)
        simp [RunningPhone.admitted, answered]
      · cases moved
        exact clean.withPhones (Pinned.setStage clean.sessions there nofun)
      · cases moved
    | askForget fingerprint =>
      obtain ⟨phones, moved, rfl⟩ := Option.map_eq_some_iff.mp executed
      obtain ⟨running, there, moved⟩ := Option.bind_eq_some_iff.mp moved
      split at moved
      · cases moved
        exact clean.withPhones (Pinned.setStage clean.sessions there nofun)
      · cases moved
    | finish fingerprint =>
      obtain ⟨phones, moved, rfl⟩ := Option.map_eq_some_iff.mp executed
      obtain ⟨running, there, moved⟩ := Option.bind_eq_some_iff.mp moved
      split at moved
      · cases moved
      · cases moved
        exact clean.withPhones (Pinned.setStage clean.sessions there nofun)
    | openPairing token =>
      cases executed
      exact clean.withPhones clean.sessions
    | unpair name =>
      cases executed
      exact clean.withPhones clean.sessions
    | handle saved removal now => exact clean.handle careful executed
    | accepted name fingerprint approved saved =>
      cases executed
      unfold Receiver.accepted
      split
      · exact clean
      · rename_i phoneKey
        split
        · exact clean.pinComputer (by simpa using phoneKey)
        · exact clean
    | dialed name fingerprint newlyPaired saved =>
      cases executed
      unfold Receiver.dialed
      split
      · rename_i paired
        exact clean.pinComputer (careful paired)
      · exact clean

theorem handle_unsaved {removal : Except String Unit} {now : Instant}
    (handled : r.handle false removal now = some r') : r'.pins = r.pins := by
  unfold Receiver.handle at handled
  split at handled
  · cases handled
  · rename_i request requests queued
    cases handled
    have unpaired (name : String) :
        (({ r.phones with requests } : PhoneSessions).unpair r.pins name false removal).2.1 =
          r.pins := by
      rcases unpair_cases { r.phones with requests } r.pins name false removal with
        ⟨-, kept⟩ | ⟨removed, -, saved, -⟩
      · exact kept
      · cases saved
    cases request with
    | pair id name fingerprint ip token =>
      simp only [PhoneSessions.handleRequest]
      rcases pair_cases r { r.phones with requests } rfl name fingerprint ip token false now
        with ⟨phones', refusal, result, -⟩ | ⟨⟨saved, -⟩, -⟩
      · rw [result]
      · cases saved
    | forget name fingerprint =>
      simp only [PhoneSessions.handleRequest]
      split
      · exact unpaired name
      · rfl
    | openPairing token => rfl
    | unpair name => exact unpaired name

/-- A save that fails leaves the pins as they were, or ends the process that holds them. -/
theorem pins_of_saveFailed {action : ReceiverAction} (failed : action.saveFailed = true)
    (executed : machine.exec r action = some r') : r'.pins = r.pins ∨ r'.stopped = true := by
  simp only [machine, Receiver.exec] at executed
  split at executed
  · cases executed
  · cases action with
    | handle saved removal now =>
      have unsaved : saved = false := by simpa [ReceiverAction.saveFailed] using failed
      subst unsaved
      exact .inl (handle_unsaved executed)
    | accepted name fingerprint approved saved =>
      have unsaved : saved = false := by simpa [ReceiverAction.saveFailed] using failed
      subst unsaved
      cases executed
      unfold Receiver.accepted
      split
      · exact .inl rfl
      · split
        · exact .inr rfl
        · exact .inl rfl
    | dialed name fingerprint newlyPaired saved =>
      have unsaved : saved = false := by simpa [ReceiverAction.saveFailed] using failed
      subst unsaved
      cases executed
      unfold Receiver.dialed
      split
      · exact .inr rfl
      · exact .inl rfl
    | _ => cases failed

/-- The pins and the sessions stay clean in every run in which no key of a phone is pinned after
    dialling and no phone takes the name of one whose session is past pairing. -/
theorem pins_stay_clean {start : Receiver} (clean : start.Clean)
    (run : machine.Run Careful start r) :
    r.Clean ∧ ∀ action r', machine.exec r action = some r' → action.saveFailed = true →
      r'.pins = r.pins ∨ r'.stopped = true := by
  refine ⟨?_, fun action r' executed failed => pins_of_saveFailed failed executed⟩
  exact run.invariant (I := Clean) (fun _ _ _ careful executed clean =>
    clean.exec careful executed) clean

theorem clean_empty : ({} : Receiver).Clean :=
  ⟨fun _ both => (by cases both.1), nofun, nofun⟩

/-- A phone pairs and goes on. -/
def samplePhone (name fingerprint token : String) : List ReceiverAction :=
  [.openPairing token, .handle true (.ok ()) 0, .connectPhone name fingerprint 1,
    .ask fingerprint "192.168.0.7" token, .handle true (.ok ()) 2, .proceed fingerprint]

/-- A test that implies `Careful`. -/
def careful (r : Receiver) : ReceiverAction → Bool
  | .dialed _ fingerprint newlyPaired _ => !newlyPaired || !r.pins.isPhoneKey fingerprint
  | .handle _ _ _ =>
    match r.phones.requests.head? with
    | some (.pair _ name _ _ _) => (r.pins.phones.lookup name).isNone
    | _ => true
  | _ => true

theorem careful_sound (r : Receiver) (action : ReceiverAction) (passed : r.careful action = true) :
    r.Careful action := by
  cases action with
  | dialed name fingerprint newlyPaired saved =>
    intro paired
    simpa [careful, paired] using passed
  | handle saved removal now =>
    intro id name fingerprint ip token head grants phone running found
    simp [careful, head, found] at passed
  | _ => trivial

theorem pins_stay_clean_sample :
    (machine.reach {} (samplePhone "pixel" "aa" "t1")).Clean ∧
    (machine.reach {} (samplePhone "pixel" "aa" "t1")).pins.isPhoneKey "aa" = true := by
  have run : machine.Run Careful {} (machine.reach {} (samplePhone "pixel" "aa" "t1")) :=
    run_reach_of_allowedList careful careful_sound _ (by decide +kernel) (by decide +kernel)
  exact ⟨(pins_stay_clean clean_empty run).1, by decide +kernel⟩

/-- A second phone of the same name pairs while the session of the first goes on, and a computer
    that is dialled has the key of a phone. -/
theorem pins_unclean :
    (∃ r running, machine.Run anyAction {} r ∧ r.phones.sessions.lookup "aa" = some running ∧
      running.stage = .running ∧ r.pins.isPhoneKey "aa" = false) ∧
    ∃ r, machine.Run anyAction {} r ∧ r.pins.isPcKey "aa" = true ∧
      r.pins.isPhoneKey "aa" = true := by
  have taken : machine.Run anyAction {} (machine.reach {}
      (samplePhone "pixel" "aa" "t1" ++ samplePhone "pixel" "bb" "t2")) :=
    run_reach _ (by decide +kernel)
  have dialled : machine.Run anyAction {} (machine.reach {}
      ((samplePhone "pixel" "aa" "t1").append [.dialed "desk" "aa" true true])) :=
    run_reach _ (by decide +kernel)
  exact ⟨⟨_, ⟨0, "pixel", true, .running⟩, taken, by decide +kernel, rfl, by decide +kernel⟩,
    _, dialled, by decide +kernel, by decide +kernel⟩

end Receiver

end EdgeKvm.Pairing
