import EdgeKvm.Notification.SessionLink
import EdgeKvm.Lib.MessagePack
import EdgeKvm.Lib.Json

/-!
# The encodings of notifications

What `encode_frame` of `crates/edge-protocol/src/lib.rs` makes of the frames of a notification
link, `encode_secure_frame` of `crates/edge-runtime/src/lib.rs`, and the JSON of the store that
`persist` measures. A struct is a map with its field names, a variant a map from its name.
-/

namespace EdgeKvm.Notification

open EdgeKvm.Lib

/-- `MAX_SECURE_FRAME_BYTES`. -/
def maxSecureFrameBytes : Nat := 65535 - 16

/-- A `u64`. -/
def packNumber (n : Nat) : List UInt8 := MessagePack.uint (UInt64.ofNat n)

def NotificationKey.pack (key : NotificationKey) : List UInt8 :=
  MessagePack.map
    [("origin", MessagePack.str key.origin), ("instance", MessagePack.str key.instance')]

def NotificationKey.json (key : NotificationKey) : List Char :=
  Json.object [("origin", Json.string key.origin), ("instance", Json.string key.instance')]

/-- An icon is skipped when there is none. -/
def SharedNotification.pack (content : SharedNotification) : List UInt8 :=
  MessagePack.map
    ([("app_name", MessagePack.str content.appName), ("title", MessagePack.str content.title),
        ("body", MessagePack.str content.body), ("icon", MessagePack.str content.icon)] ++
      content.iconPng.toList.map (fun png => ("icon_png", MessagePack.byteArray png)) ++
      [("posted_ms", packNumber content.postedMs), ("urgency", packNumber content.urgency)])

def SharedNotification.json (content : SharedNotification) : List Char :=
  Json.object
    ([("app_name", Json.string content.appName), ("title", Json.string content.title),
        ("body", Json.string content.body), ("icon", Json.string content.icon)] ++
      content.iconPng.toList.map (fun png => ("icon_png", Json.byteArray png)) ++
      [("posted_ms", Json.number content.postedMs), ("urgency", Json.number content.urgency)])

def packContent (content : Option SharedNotification) : List UInt8 :=
  (content.map SharedNotification.pack).getD MessagePack.nil

def jsonContent (content : Option SharedNotification) : List Char :=
  (content.map SharedNotification.json).getD Json.null

def NotificationOperation.pack (operation : NotificationOperation) : List UInt8 :=
  MessagePack.map
    [("sequence", packNumber operation.sequence), ("key", operation.key.pack),
      ("content", packContent operation.content)]

def NotificationOperation.json (operation : NotificationOperation) : List Char :=
  Json.object
    [("sequence", Json.number operation.sequence), ("key", operation.key.json),
      ("content", jsonContent operation.content)]

def NotificationRecord.pack (record : NotificationRecord) : List UInt8 :=
  MessagePack.map
    [("key", record.key.pack), ("source_sequence", packNumber record.sourceSequence),
      ("content", packContent record.content)]

def NotificationRecord.json (record : NotificationRecord) : List Char :=
  Json.object
    [("key", record.key.json), ("source_sequence", Json.number record.sourceSequence),
      ("content", jsonContent record.content)]

def NotificationSync.pack : NotificationSync → List UInt8
  | .submit operation => MessagePack.map [("Submit", operation.pack)]
  | .ack sequence => MessagePack.map [("Ack", MessagePack.map [("sequence", packNumber sequence)])]
  | .snapshotStart epoch =>
    MessagePack.map [("SnapshotStart", MessagePack.map [("epoch", MessagePack.str epoch)])]
  | .record entry => MessagePack.map [("Record", entry.pack)]
  | .snapshotEnd => MessagePack.str "SnapshotEnd"
  | .settings coordinator =>
    MessagePack.map [("Settings", MessagePack.map [("coordinator", MessagePack.str coordinator)])]

/-- `encode_frame` of a `Frame::NotificationSync`. -/
def encodeFrame (event : NotificationSync) : List UInt8 :=
  MessagePack.map [("NotificationSync", event.pack)]

/-- `encode_secure_frame`. -/
def encodeSecureFrame (event : NotificationSync) : Except String (List UInt8) :=
  let payload := encodeFrame event
  let shown := min payload.length (UInt32.size - 1)
  if payload.length > maxSecureFrameBytes then .error s!"frame too large: {shown} bytes"
  else .ok payload

def PhoneInstance.json (phone : PhoneInstance) : List Char :=
  Json.object
    [("instance", Json.string phone.instance'), ("present", Json.bool phone.present)]

/-- `serde_json::to_vec` of the store. -/
def Store.json (s : Store) : List Char :=
  Json.object
    [("coordinator", Json.string s.coordinator), ("epoch", Json.string s.epoch),
      ("local_identity", Json.string s.localIdentity), ("sequence", Json.number s.sequence),
      ("records", Json.array (s.records.map NotificationRecord.json)),
      ("pending", Json.array (s.pending.map NotificationOperation.json)),
      ("phone_instances",
        Json.object (s.phoneInstances.map fun entry => (entry.1, entry.2.json))),
      ("imported_phones",
        Json.object (s.importedPhones.map fun entry => (entry.1, Json.string entry.2)))]

/-! ## Frames that fit -/

/-- A key and a content that pass their checks. -/
structure Valid (key : NotificationKey) (content : Option SharedNotification) : Prop where
  key : validateKey key = .ok ⟨⟩
  content : ∀ shown, content = some shown → validateContent shown = .ok ⟨⟩

/-- The checks that a frame has passed: those of its key and content; an epoch is one that
    `new_epoch` drew, and a coordinator one that `start` accepts. -/
def NotificationSync.Valid : NotificationSync → Prop
  | .submit operation => Notification.Valid operation.key operation.content
  | .record entry => Notification.Valid entry.key entry.content
  | .snapshotStart epoch => epoch.utf8ByteSize ≤ 32
  | .settings coordinator =>
    validateKey { origin := coordinator, instance' := "config" } = .ok ⟨⟩
  | .ack _ | .snapshotEnd => True

section Sizes

variable {key : NotificationKey} {content : SharedNotification}

theorem key_size (valid : validateKey key = .ok ⟨⟩) :
    key.origin.utf8ByteSize = 35 ∧ key.instance'.utf8ByteSize ≤ 160 := by
  simp only [validateKey, bind_eq_ok, ensure_eq_ok] at valid
  obtain ⟨-, ⟨origin, -⟩, -, short, -⟩ := valid
  exact ⟨origin, short⟩

/-- A letter takes at most four bytes. -/
theorem utf8ByteSize_le_length (text : String) : text.utf8ByteSize ≤ 4 * text.length := by
  rw [utf8ByteSize_eq_weight, ← String.length_toList]
  induction text.toList with
  | nil => exact Nat.le_refl 0
  | cons c letters ih =>
    have letter := c.utf8Size_le_four
    rw [weight_cons, List.length_cons]
    omega

theorem content_size (valid : validateContent content = .ok ⟨⟩) :
    content.appName.utf8ByteSize ≤ 256 ∧ content.title.utf8ByteSize ≤ 1024 ∧
      content.body.utf8ByteSize ≤ 4096 ∧ content.icon.utf8ByteSize ≤ 128 ∧
      (content.iconPng.map List.length).getD 0 ≤ maxIconBytes := by
  simp only [validateContent, bind_eq_ok, ensure_eq_ok] at valid
  obtain ⟨-, ⟨name, title, body⟩, -, ⟨icon, -⟩, -, -, png⟩ := valid
  have nameBytes := utf8ByteSize_le_length content.appName
  have titleBytes := utf8ByteSize_le_length content.title
  refine ⟨by omega, by omega, body, icon, ?_⟩
  cases shown : content.iconPng with
  | none => exact Nat.zero_le _
  | some bytes => exact png bytes shown

theorem length_pack_key (valid : validateKey key = .ok ⟨⟩) : key.pack.length ≤ 240 := by
  obtain ⟨originBytes, instanceBytes⟩ := key_size valid
  have origin := MessagePack.length_str_le key.origin
  have instance' := MessagePack.length_str_le key.instance'
  have names : "origin".utf8ByteSize = 6 ∧ "instance".utf8ByteSize = 8 := ⟨rfl, rfl⟩
  refine (MessagePack.length_map_le _).trans ?_
  simp only [MessagePack.entriesLength, List.map_cons, List.map_nil, List.foldr_cons,
    List.foldr_nil, names]
  omega

theorem length_packNumber_le (n : Nat) : (packNumber n).length ≤ 9 :=
  MessagePack.length_uint_le _

/-- The icon takes two bytes for each of its own. -/
theorem length_pack_content (valid : validateContent content = .ok ⟨⟩) :
    content.pack.length ≤ 55000 := by
  obtain ⟨nameBytes, titleBytes, bodyBytes, iconBytes, pngBytes⟩ := content_size valid
  have name := MessagePack.length_str_le content.appName
  have title := MessagePack.length_str_le content.title
  have body := MessagePack.length_str_le content.body
  have icon := MessagePack.length_str_le content.icon
  have posted := length_packNumber_le content.postedMs
  have urgency := length_packNumber_le content.urgency
  have names : "app_name".utf8ByteSize = 8 ∧ "title".utf8ByteSize = 5 ∧
      "body".utf8ByteSize = 4 ∧ "icon".utf8ByteSize = 4 ∧ "icon_png".utf8ByteSize = 8 ∧
      "posted_ms".utf8ByteSize = 9 ∧ "urgency".utf8ByteSize = 7 :=
    ⟨rfl, rfl, rfl, rfl, rfl, rfl, rfl⟩
  refine (MessagePack.length_map_le _).trans ?_
  cases shown : content.iconPng with
  | none =>
    simp only [MessagePack.entriesLength, Option.toList_none, List.map_cons, List.map_nil,
      List.cons_append, List.nil_append, List.foldr_cons, List.foldr_nil, names]
    omega
  | some bytes =>
    have png := MessagePack.length_byteArray_le bytes
    simp only [shown, Option.map_some, Option.getD_some, maxIconBytes] at pngBytes
    simp only [MessagePack.entriesLength, Option.toList_some, List.map_cons, List.map_nil,
      List.cons_append, List.nil_append, List.foldr_cons, List.foldr_nil, names]
    omega

theorem length_packContent {shown : Option SharedNotification} (valid : Valid key shown) :
    (packContent shown).length ≤ 55000 := by
  cases shown with
  | none =>
    unfold packContent
    decide
  | some content => exact length_pack_content (valid.content content rfl)

end Sizes

/-- A frame whose key and content have passed their checks fits a secure frame. -/
theorem NotificationSync.Valid.fits {event : NotificationSync} (valid : event.Valid) :
    (encodeFrame event).length ≤ maxSecureFrameBytes := by
  have wrapped : ∀ {name : String} {value : List UInt8}, name.utf8ByteSize ≤ 16 →
      (MessagePack.map [(name, value)]).length ≤ value.length + 26 := by
    intro name value short
    refine (MessagePack.length_map_le _).trans ?_
    simp only [MessagePack.entriesLength, List.map_cons, List.map_nil, List.foldr_cons,
      List.foldr_nil]
    omega
  suffices fits : event.pack.length ≤ 56000 by
    refine (wrapped (by decide)).trans ?_
    unfold maxSecureFrameBytes
    omega
  cases event with
  | submit operation =>
    have key := length_pack_key valid.key
    have content := length_packContent valid
    have sequence := length_packNumber_le operation.sequence
    have names : "sequence".utf8ByteSize = 8 ∧ "key".utf8ByteSize = 3 ∧
        "content".utf8ByteSize = 7 := ⟨rfl, rfl, rfl⟩
    refine (wrapped (by decide)).trans ?_
    refine (Nat.add_le_add_right (MessagePack.length_map_le _) _).trans ?_
    simp only [MessagePack.entriesLength, List.map_cons, List.map_nil, List.foldr_cons,
      List.foldr_nil, names]
    omega
  | record entry =>
    have key := length_pack_key valid.key
    have content := length_packContent valid
    have sequence := length_packNumber_le entry.sourceSequence
    have names : "source_sequence".utf8ByteSize = 15 ∧ "key".utf8ByteSize = 3 ∧
        "content".utf8ByteSize = 7 := ⟨rfl, rfl, rfl⟩
    refine (wrapped (by decide)).trans ?_
    refine (Nat.add_le_add_right (MessagePack.length_map_le _) _).trans ?_
    simp only [MessagePack.entriesLength, List.map_cons, List.map_nil, List.foldr_cons,
      List.foldr_nil, names]
    omega
  | ack sequence =>
    have number := length_packNumber_le sequence
    refine (wrapped (by decide)).trans ?_
    refine (Nat.add_le_add_right (wrapped (by decide)) _).trans ?_
    omega
  | snapshotStart epoch =>
    have text := MessagePack.length_str_le epoch
    have short : epoch.utf8ByteSize ≤ 32 := valid
    refine (wrapped (by decide)).trans ?_
    refine (Nat.add_le_add_right (wrapped (by decide)) _).trans ?_
    omega
  | snapshotEnd => decide
  | settings coordinator =>
    have text := MessagePack.length_str_le coordinator
    have short : coordinator.utf8ByteSize = 35 := (key_size valid).1
    refine (wrapped (by decide)).trans ?_
    refine (Nat.add_le_add_right (wrapped (by decide)) _).trans ?_
    omega

end EdgeKvm.Notification
