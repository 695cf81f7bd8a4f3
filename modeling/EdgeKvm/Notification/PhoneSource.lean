import EdgeKvm.Notification.Hub
import EdgeKvm.Notification.Projections

/-!
# Phone notifications in the history

`PhoneNotificationSource` of `notification_hub.rs`: how the events of one phone session change the
phone identities in the store, which operations they queue, and what they show on the desktop.
-/

namespace EdgeKvm.Notification

open EdgeKvm.Lib

/-- `PhoneNotification`. -/
structure PhoneNotification where
  id : Nat
  appName : String
  title : String
  body : String
  iconPng : Option (List UInt8)
  postedMs : Nat
  deriving DecidableEq, Repr

/-- `NotificationEvent`. -/
inductive NotificationEvent where
  | posted (phone : PhoneNotification)
  | removed (id : Nat)
  | snapshotStart
  | snapshotEnd
  deriving DecidableEq, Repr

/-! ## What is shown -/

/-- The characters with the Unicode property `White_Space`. -/
def isWhiteSpace (c : Char) : Bool :=
  (9 ≤ c.toNat && c.toNat ≤ 13) || (0x2000 ≤ c.toNat && c.toNat ≤ 0x200A) ||
    c.toNat ∈ [0x20, 0x85, 0xA0, 0x1680, 0x2028, 0x2029, 0x202F, 0x205F, 0x3000]

/-- `truncate_chars`. -/
def truncateChars (text : String) (max : Nat) : String :=
  if text.length ≤ max then text else String.ofList (text.toList.take max) ++ "…"

/-- The longest prefix of at most `max` bytes. -/
def takeBytes : List Char → Nat → List Char
  | [], _ => []
  | c :: chars, max => if c.utf8Size ≤ max then c :: takeBytes chars (max - c.utf8Size) else []

/-- `truncate_bytes`. -/
def truncateBytes (text : String) (max : Nat) : String :=
  if text.utf8ByteSize ≤ max then text
  else String.ofList (takeBytes text.toList (max - "…".utf8ByteSize)) ++ "…"

/-- `escape_markup`. -/
def escapeMarkup (text : String) : String :=
  String.ofList (text.toList.flatMap fun c =>
    if c = '&' then "&amp;".toList
    else if c = '<' then "&lt;".toList
    else if c = '>' then "&gt;".toList
    else [c])

/-- `desktop_notification`, and the `SharedNotification` made of it. -/
def sharedNotification (phone : PhoneNotification) (phoneName : String) : SharedNotification :=
  let app := truncateChars phone.appName 64
  let title := truncateChars phone.title 256
  let summary := if title.toList.all isWhiteSpace then app else title
  { appName := String.ofList ((app ++ " (" ++ phoneName ++ ")").toList.take 64)
    title := String.ofList ((escapeMarkup summary).toList.take 256)
    body := truncateBytes (escapeMarkup (truncateBytes phone.body 4096)) 4096
    icon := "phone"
    iconPng := phone.iconPng.filter fun png => png.length ≤ maxIconBytes
    postedMs := phone.postedMs
    urgency := 1 }

/-! ## The source -/

/-- A fingerprint, kept without its colons: hexadecimal digits. -/
structure Fingerprint where
  digits : String
  hex : ∀ c ∈ digits.toList, isAsciiHexDigit c
  deriving DecidableEq

/-- `PhoneNotificationSource`, without the handle of the hub. -/
structure PhoneNotificationSource where
  idPrefix : String
  name : String
  resent : Option (Finset String) := none
  snapshotFailed : Bool := false
  deriving DecidableEq

/-- The prefix of a phone's identities in the store. -/
def Fingerprint.idPrefix (fingerprint : Fingerprint) : String :=
  "phone/" ++ fingerprint.digits ++ "/"

/-- `NotificationHub::phone_source`. -/
def phoneSource (fingerprint : Fingerprint) (name : String) : PhoneNotificationSource :=
  { idPrefix := fingerprint.idPrefix, name }

/-- The identities and operations an event makes, before they are committed. -/
structure Prepared where
  phoneInstances : List (String × PhoneInstance)
  importedPhones : List (String × String)
  operations : List (String × Option SharedNotification) := []
  deriving DecidableEq, Repr

namespace PhoneNotificationSource

/-- The identity of the notification `id` of the phone. -/
def entryId (source : PhoneNotificationSource) (id : Nat) : String :=
  source.idPrefix ++ toString id

/-- What an event does to the snapshot the source keeps, the events that commit nothing aside:
    a post is noted, and the end takes the snapshot. -/
def note (source : PhoneNotificationSource) :
    NotificationEvent → PhoneNotificationSource × Except String Unit
  | .posted phone =>
    match source.resent with
    | none => (source, .ok ())
    | some resent =>
      if resent.card < maxRecords ∨ source.entryId phone.id ∈ resent then
        ({ source with resent := some (insert (source.entryId phone.id) resent) }, .ok ())
      else
        (source, .error "phone notification snapshot full")
  | .snapshotEnd =>
    match source.resent with
    | none => (source, .error "phone notification snapshot end without start")
    | some _ => ({ source with resent := none }, .ok ())
  | _ => (source, .ok ())

/-- The identities kept for a post of a new lifetime: a full table forgets the withdrawn ones
    the desktop shows nothing of. -/
def retained (source : PhoneNotificationSource) (store : Store) (id : Nat)
    (cache : Option PhoneProjections) : List (String × PhoneInstance) :=
  match cache with
  | none => store.phoneInstances
  | some cache =>
    if maxRecords ≤ store.phoneInstances.length then
      store.phoneInstances.filter fun entry =>
        entry.1 = source.entryId id ∨ entry.2.present ∨
          (cache.instance' (entry.1 ++ "/")).isSome
    else store.phoneInstances

/-- The identities a post leaves that found no lifetime: a withdrawn notification gets a new
    one, and so does an unknown one unless the desktop still shows it. -/
def allocate (source : PhoneNotificationSource) (store : Store) (id : Nat)
    (cache : Option PhoneProjections) (epoch : Except String String) :
    Except String (List (String × PhoneInstance)) := do
  let key := source.entryId id
  let known := source.retained store id cache
  let cached :=
    if (Ordered.get key known).isSome then none
    else cache.bind fun cache => cache.instance' (key ++ "/")
  ensure ((Ordered.get key known).isSome ∨ known.length < maxRecords)
    "phone notification identities full"
  -- The epoch is drawn even when the cached instance is taken.
  let epoch ← epoch
  return Ordered.insert key
    { instance' := cached.getD (key ++ "/" ++ epoch), present := true } known

/-- The cache, loaded when the session shows notifications on a desktop. -/
def loadCache (desktop : Option Desktop) : CacheM (Option PhoneProjections) :=
  match desktop with
  | none => pure none
  | some desktop => do return some (← CacheM.load desktop)

/-- `PhoneNotificationSource::apply_inner` of a `Posted`, up to the commit. -/
def preparePosted (source : PhoneNotificationSource) (store : Store) (phone : PhoneNotification)
    (desktop : Option Desktop) (epoch : Except String String) : CacheM Prepared := do
  let key := source.entryId phone.id
  let phoneInstances ←
    if (Ordered.get key store.phoneInstances).any (·.present) then
      pure store.phoneInstances
    else
      source.allocate store phone.id (← loadCache desktop) epoch
  let operations := ((Ordered.get key phoneInstances).map fun entry =>
    (entry.instance', some (sharedNotification phone source.name))).toList
  return { phoneInstances, importedPhones := store.importedPhones, operations }

/-- `PhoneNotificationSource::apply_inner` of a `Removed`, up to the commit. -/
def prepareRemoved (source : PhoneNotificationSource) (store : Store) (id : Nat)
    (desktop : Option Desktop) : CacheM Prepared := do
  let key := source.entryId id
  match (Ordered.get key store.phoneInstances).filter (·.present) with
  | some entry =>
    return {
      phoneInstances := Ordered.insert key { entry with present := false } store.phoneInstances
      importedPhones := store.importedPhones
      operations := [(entry.instance', none)] }
  | none =>
    let cache ← loadCache desktop
    let cached := cache.bind fun cache => cache.instance' (key ++ "/")
    return {
      phoneInstances := store.phoneInstances
      importedPhones := store.importedPhones
      operations := (cached.map fun instance' => (instance', none)).toList }

/-- An entry the end of a snapshot withdraws. -/
def swept (source : PhoneNotificationSource) (resent : Finset String) (id : String)
    (entry : PhoneInstance) : Prop :=
  startsWith id source.idPrefix ∧ entry.present ∧ id ∉ resent

instance (source : PhoneNotificationSource) (resent : Finset String) (id : String)
    (entry : PhoneInstance) : Decidable (source.swept resent id entry) :=
  inferInstanceAs (Decidable (_ ∧ _ ∧ _))

/-- The phones whose history a full snapshot has brought in. -/
def importPhone (source : PhoneNotificationSource) (store : Store) :
    Except String (List (String × String)) :=
  if !source.snapshotFailed ∧ source.name ≠ "" ∧
      Ordered.get source.idPrefix store.importedPhones ≠ some source.name then do
    ensure ((Ordered.get source.idPrefix store.importedPhones).isSome ∨
        store.importedPhones.length < maxRecords)
      "phone notification imports full"
    return Ordered.insert source.idPrefix source.name store.importedPhones
  else
    return store.importedPhones

/-- `PhoneNotificationSource::apply_inner` of a `SnapshotEnd`, up to the commit. -/
def prepareEnd (source : PhoneNotificationSource) (store : Store) (resent : Finset String) :
    Except String Prepared := do
  let importedPhones ← source.importPhone store
  return {
    phoneInstances := Ordered.mapValues
      (fun id entry =>
        if source.swept resent id entry then { entry with present := false } else entry)
      store.phoneInstances
    importedPhones
    operations := (store.phoneInstances.filter fun entry =>
      source.swept resent entry.1 entry.2).map fun entry => (entry.2.instance', none) }

/-- `PhoneNotificationSource::apply_inner` up to the operations. -/
def prepare (source : PhoneNotificationSource) (store : Store) (desktop : Option Desktop)
    (epoch : Except String String) : NotificationEvent → CacheM Prepared
  | .posted phone => source.preparePosted store phone desktop epoch
  | .removed id => source.prepareRemoved store id desktop
  | .snapshotEnd => source.prepareEnd store (source.resent.getD ∅)
  | .snapshotStart =>
    return { phoneInstances := store.phoneInstances, importedPhones := store.importedPhones }

/-- What the user dismissed on the desktop stays dismissed. -/
def dismissedAsRemovals (desktop : Option Desktop)
    (operations : List (String × Option SharedNotification)) :
    CacheM (List (String × Option SharedNotification)) := do
  match ← loadCache desktop with
  | none => return operations
  | some cache =>
    return operations.map fun operation =>
      if cache.dismissed operation.1 then (operation.1, none) else operation

/-- `PhoneNotificationSource::apply_inner` up to the commit. -/
def plan (source : PhoneNotificationSource) (store : Store) (desktop : Option Desktop)
    (epoch : Except String String) (event : NotificationEvent) :
    CacheM (Prepared × List (String × Option SharedNotification)) := do
  let prepared ← source.prepare store desktop epoch event
  let operations ← dismissedAsRemovals desktop prepared.operations
  return (prepared, operations)

/-- The commit of `PhoneNotificationSource::apply_inner`. -/
def commit (source : PhoneNotificationSource) (hub : NotificationHub)
    (event : NotificationEvent) (prepared : Prepared)
    (operations : List (String × Option SharedNotification)) (persist : Persist) :
    NotificationHub × Except String Unit :=
  if event = .snapshotEnd ∧ source.snapshotFailed then
    (hub, .error
      "Phone snapshot was not fully imported; local delivery continues, history needs attention")
  else
    hub.applyPhone prepared.phoneInstances prepared.importedPhones operations persist

/-- Shows one operation of an event on the desktop; a removal in the history comes first. -/
def deliver (hub : NotificationHub) (desktop : Desktop) (fresh withdrawal : Bool)
    (operation : String × Option SharedNotification) : CacheM Unit := do
  let key : NotificationKey := { origin := hub.identity, instance' := operation.1 }
  let terminal := hub.state.view.any fun record => record.key = key ∧ record.content = none
  CacheM.show' desktop key (if terminal then none else operation.2) fresh
  if withdrawal then
    CacheM.withdraw desktop operation.1

/-- The delivery of `PhoneNotificationSource::apply_inner`. -/
def deliverAll (source : PhoneNotificationSource) (hub : NotificationHub)
    (desktop : Option Desktop) (event : NotificationEvent)
    (operations : List (String × Option SharedNotification)) : CacheM Unit := do
  match desktop with
  | none => pure ()
  | some desktop =>
    let fresh := source.resent.isNone ∧ event matches .posted _
    let withdrawal := event matches .removed _
    operations.forM (deliver hub desktop fresh withdrawal)
    match event, source.resent with
    | .snapshotEnd, some present =>
      ((← CacheM.cache).missing source.idPrefix present).forM (CacheM.withdraw desktop)
    | _, _ => pure ()

/-- A call of `apply`: the source, the hub and the cache afterwards, and its result. -/
structure Turn where
  source : PhoneNotificationSource
  hub : NotificationHub
  projected : Projected
  result : Except String Unit

/-- `PhoneNotificationSource::apply_inner`; `desktop` is none for `apply`, and `epoch` is what
    `new_epoch` returns. -/
def applyInner (source : PhoneNotificationSource) (hub : NotificationHub)
    (cache : PhoneProjections) (event : NotificationEvent) (desktop : Option Desktop)
    (epoch : Except String String) (persist : Persist) : Turn :=
  let projected : Projected := { cache }
  if event = .snapshotStart then
    if source.resent.isSome then
      { source, hub, projected, result := .error "nested phone notification snapshot" }
    else
      { source := { source with resent := some ∅, snapshotFailed := false }
        hub, projected, result := .ok () }
  else
    match source.note event with
    | (noted, .error error) => { source := noted, hub, projected, result := .error error }
    | (noted, .ok ()) =>
      match (source.plan hub.state desktop epoch event).run projected with
      | (projected, .error error) => { source := noted, hub, projected, result := .error error }
      | (projected, .ok (prepared, operations)) =>
        let (hub, committed) := source.commit hub event prepared operations persist
        let (projected, delivered) :=
          (source.deliverAll hub desktop event operations).run projected
        { source := noted, hub, projected, result := committed.bind fun _ => delivered }

/-- `PhoneNotificationSource::apply_with_desktop`. -/
def apply (source : PhoneNotificationSource) (hub : NotificationHub) (cache : PhoneProjections)
    (event : NotificationEvent) (desktop : Option Desktop) (epoch : Except String String)
    (persist : Persist) : Turn :=
  let turn := source.applyInner hub cache event desktop epoch persist
  if turn.result ≠ .ok () ∧ turn.source.resent.isSome then
    { turn with source := { turn.source with snapshotFailed := true } }
  else turn

end PhoneNotificationSource

end EdgeKvm.Notification
