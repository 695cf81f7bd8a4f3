import EdgeKvm.Lib.Table

/-!
# Pinned keys

`PinStore` of `edge-crypto`: the keys of computers and of phones, under the names the peers gave
themselves.
-/

namespace EdgeKvm.Pairing

open EdgeKvm.Lib

/-- `PhoneFeature`. -/
inductive PhoneFeature where
  | clipboard
  | notifications
  | audio
  deriving DecidableEq, Repr

/-- `PhoneFeature::all`. -/
def PhoneFeature.all : List PhoneFeature := [.clipboard, .notifications, .audio]

/-- `PinnedPhone`. -/
structure PinnedPhone where
  fingerprint : String
  allowedFeatures : List PhoneFeature
  deriving DecidableEq, Repr

/-- `PinnedPeer`. -/
structure PinnedPeer where
  fingerprint : String
  deriving DecidableEq, Repr

/-- `PinStore`. -/
structure PinStore where
  peers : Table String PinnedPeer := ∅
  phones : Table String PinnedPhone := ∅

/-- `PinStatus`. -/
inductive PinStatus where
  | trusted
  | unknown
  | changed (expected : String)
  deriving DecidableEq, Repr

/-- `PinStatus::is_trusted`. -/
def PinStatus.isTrusted : PinStatus → Bool
  | .trusted => true
  | _ => false

namespace PinStore

/-- The comparison of `status` and `phone_status`. -/
def statusOf (pinned : Option String) (fingerprint : String) : PinStatus :=
  match pinned with
  | some expected => if expected = fingerprint then .trusted else .changed expected
  | none => .unknown

/-- `PinStore::status`. -/
def status (pins : PinStore) (peer fingerprint : String) : PinStatus :=
  statusOf ((pins.peers.lookup peer).map (·.fingerprint)) fingerprint

/-- `PinStore::pin`. -/
def pin (pins : PinStore) (peer fingerprint : String) : PinStore :=
  { pins with peers := pins.peers.insert peer { fingerprint } }

/-- `PinStore::phone_status`. -/
def phoneStatus (pins : PinStore) (phone fingerprint : String) : PinStatus :=
  statusOf ((pins.phones.lookup phone).map (·.fingerprint)) fingerprint

/-- `PinStore::phone`. -/
def phone (pins : PinStore) (phone : String) : Option PinnedPhone := pins.phones.lookup phone

/-- `PinStore::pin_phone`. -/
def pinPhone (pins : PinStore) (phone fingerprint : String)
    (allowedFeatures : List PhoneFeature) : PinStore :=
  { pins with phones := pins.phones.insert phone { fingerprint, allowedFeatures } }

/-- `PinStore::remove_phone`. -/
def removePhone (pins : PinStore) (phone : String) : Option PinnedPhone × PinStore :=
  (pins.phones.lookup phone, { pins with phones := pins.phones.erase phone })

/-- `PinStore::is_pc_key`. -/
def isPcKey (pins : PinStore) (fingerprint : String) : Bool :=
  pins.peers.anyValue fun pinned => pinned.fingerprint = fingerprint

/-- `PinStore::is_phone_key`. -/
def isPhoneKey (pins : PinStore) (fingerprint : String) : Bool :=
  pins.phones.anyValue fun pinned => pinned.fingerprint = fingerprint

/-- The phones but those with the key, `PhoneSessions::pair`. -/
def dropPhoneKey (pins : PinStore) (fingerprint : String) : PinStore :=
  { pins with phones := pins.phones.retain fun _ pinned => pinned.fingerprint ≠ fingerprint }

variable {pins : PinStore} {name phone fingerprint other : String}
  {allowedFeatures : List PhoneFeature} {pinned : PinnedPhone}

theorem statusOf_trusted {expected : Option String} :
    statusOf expected fingerprint = .trusted ↔ expected = some fingerprint := by
  cases expected with
  | none => simp [statusOf]
  | some expected =>
    by_cases same : expected = fingerprint
    · simp [statusOf, same]
    · simp [statusOf, same]

theorem phoneStatus_trusted : pins.phoneStatus phone fingerprint = .trusted ↔
    ∃ pinned, pins.phones.lookup phone = some pinned ∧ pinned.fingerprint = fingerprint := by
  rw [phoneStatus, statusOf_trusted, Option.map_eq_some_iff]

theorem isPcKey_iff : pins.isPcKey fingerprint = true ↔
    ∃ name pinned, pins.peers.lookup name = some pinned ∧ pinned.fingerprint = fingerprint := by
  simp [isPcKey, Table.anyValue_iff]

theorem isPhoneKey_iff : pins.isPhoneKey fingerprint = true ↔
    ∃ name pinned, pins.phones.lookup name = some pinned ∧ pinned.fingerprint = fingerprint := by
  simp [isPhoneKey, Table.anyValue_iff]

/-- A computer pinned now was pinned before, or is the one pinned just now. -/
theorem isPcKey_pin (pinned : (pins.pin name fingerprint).isPcKey other = true) :
    other = fingerprint ∨ pins.isPcKey other = true := by
  obtain ⟨at', peer, found, rfl⟩ := isPcKey_iff.mp pinned
  rcases Table.lookup_insert_eq_some.mp found with ⟨-, rfl⟩ | ⟨-, found⟩
  · exact .inl rfl
  · exact .inr (isPcKey_iff.mpr ⟨at', peer, found, rfl⟩)

/-- What `pair` makes of the phones: the key under its new name, and the others but the one that
    had the name. -/
theorem lookup_repin : ((pins.dropPhoneKey fingerprint).pinPhone phone fingerprint
      allowedFeatures).phones.lookup name = some pinned ↔
    name = phone ∧ pinned = ⟨fingerprint, allowedFeatures⟩ ∨
      name ≠ phone ∧ pins.phones.lookup name = some pinned ∧
        pinned.fingerprint ≠ fingerprint := by
  rw [pinPhone, Table.lookup_insert_eq_some, dropPhoneKey, Table.lookup_retain_eq_some]
  simp

end PinStore

end EdgeKvm.Pairing
