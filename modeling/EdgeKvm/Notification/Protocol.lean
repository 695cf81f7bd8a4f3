import EdgeKvm.Lib.Fallible

/-!
# Shared notification frames

The data types of `crates/edge-protocol/src/lib.rs` that the notification hub exchanges, and
the checks `validate_key` and `validate_content` of `notification_hub.rs`.
-/

namespace EdgeKvm.Notification

open EdgeKvm.Lib

/-- `NotificationKey`. -/
structure NotificationKey where
  origin : String
  instance' : String
  deriving DecidableEq, Repr

/-- `SharedNotification`. -/
structure SharedNotification where
  appName : String
  title : String
  body : String
  icon : String
  iconPng : Option (List UInt8)
  postedMs : Nat
  urgency : Nat
  deriving DecidableEq, Repr

/-- `NotificationOperation`; a `none` content is a terminal removal. -/
structure NotificationOperation where
  sequence : Nat
  key : NotificationKey
  content : Option SharedNotification
  deriving DecidableEq, Repr

/-- `NotificationRecord`. -/
structure NotificationRecord where
  key : NotificationKey
  sourceSequence : Nat
  content : Option SharedNotification
  deriving DecidableEq, Repr

/-- `NotificationSync`, the frames of a notification link. -/
inductive NotificationSync where
  | submit (operation : NotificationOperation)
  | ack (sequence : Nat)
  | snapshotStart (epoch : String)
  | record (record : NotificationRecord)
  | snapshotEnd
  | settings (coordinator : String)
  deriving DecidableEq, Repr

/-- `u8::is_ascii_hexdigit`, on the characters of an ASCII text. -/
def isAsciiHexDigit (c : Char) : Bool :=
  c.isDigit || ('a' ≤ c && c ≤ 'f') || ('A' ≤ c && c ≤ 'F')

/-- `u8::is_ascii_alphanumeric`. -/
def isAsciiAlphanumeric (c : Char) : Bool :=
  c.isDigit || ('a' ≤ c && c ≤ 'z') || ('A' ≤ c && c ≤ 'Z')

/-- `PhoneNotification::MAX_ICON_BYTES`. -/
def maxIconBytes : Nat := 24 * 1024

/-- `validate_key`: a fingerprint of four groups of eight hexadecimal digits, and a short
    instance name. -/
def validateKey (key : NotificationKey) : Except String Unit := do
  let parts := key.origin.toList.splitOn ':'
  ensure (key.origin.utf8ByteSize = 35 ∧ parts.length = 4 ∧
      ∀ part ∈ parts, part.length = 8 ∧ part.all isAsciiHexDigit)
    "invalid notification origin"
  ensure (key.instance'.utf8ByteSize ≠ 0 ∧ key.instance'.utf8ByteSize ≤ 160 ∧
      key.instance'.toList.all fun c => isAsciiAlphanumeric c || c ∈ ['-', '_', '/'])
    "invalid notification instance"

/-- `validate_content`. -/
def validateContent (content : SharedNotification) : Except String Unit := do
  ensure (content.appName.length ≤ 64 ∧ content.title.length ≤ 256 ∧
      content.body.utf8ByteSize ≤ 4096)
    "notification content too large"
  ensure (content.icon.utf8ByteSize ≤ 128 ∧
      content.icon.toList.all fun c => isAsciiAlphanumeric c || c ∈ ['-', '_', '.'])
    "notification icon must be a theme name"
  ensure (content.urgency ≤ 2) "invalid notification urgency"
  ensure (∀ png ∈ content.iconPng, png.length ≤ maxIconBytes) "notification icon too large"

end EdgeKvm.Notification
