import EdgeKvm.Lib.Fallible
import Mathlib.Data.List.Basic

/-!
# Clipboard items

`ClipboardItem`, `CanonicalImage` and the clipboard part of the wire protocol, after
`edge-clipboard/src/lib.rs` and `edge-protocol/src/lib.rs`. SHA-256 and the `image` crate are
parameters.
-/

namespace EdgeKvm.Clipboard

open EdgeKvm.Lib

abbrev Digest := Vector UInt8 32

/-- `MAX_IMAGE_PIXELS` -/
def maxImagePixels : Nat := 16777216

/-- `TRANSFER_CHUNK_BYTES` -/
def transferChunkBytes : Nat := 16 * 1024

/-- `IMAGE_TRANSFER_TIMEOUT`, in milliseconds. -/
def imageTransferTimeout : Nat := 10000

/-! ## Protocol -/

inductive ClipboardCancelReason where
  | replaced
  | rejected
  | timedOut
  | invalid
  deriving DecidableEq, Repr

inductive ClipboardEvent where
  | textOffer (sequence : UInt64) (text : String)
  | textRequest
  | contentRequest
  | imageStart (transferId sequence : UInt64) (width height totalBytes : UInt32)
      (contentSha256 : Digest)
  | imageChunk (transferId : UInt64) (offset : UInt32) (bytes : List UInt8)
  | imageEnd (transferId : UInt64)
  | imageCancel (transferId : UInt64) (reason : ClipboardCancelReason)
  | textStart (transferId sequence : UInt64) (totalBytes : UInt32) (contentSha256 : Digest)
  | textChunk (transferId : UInt64) (offset : UInt32) (bytes : List UInt8)
  | textEnd (transferId : UInt64)
  deriving DecidableEq, Repr

namespace ClipboardEvent

def imageTransferId : ClipboardEvent → Option UInt64
  | .imageStart id _ _ _ _ _ | .imageChunk id _ _ | .imageEnd id | .imageCancel id _ => some id
  | .textStart .. | .textChunk .. | .textEnd _ | .textOffer .. | .textRequest
  | .contentRequest => none

/-- `ClipboardEvent::transfer_id` -/
def transferId : ClipboardEvent → Option UInt64
  | .textStart id _ _ _ | .textChunk id _ _ | .textEnd id => some id
  | event => event.imageTransferId

/-- `ClipboardEvent::is_text_transfer` -/
def isTextTransfer : ClipboardEvent → Bool
  | .textStart .. | .textChunk .. | .textEnd _ => true
  | _ => false

end ClipboardEvent

/-! ## Images -/

/-- What the `image` crate says when it fails. -/
abbrev ImageError := String

inductive ClipboardError where
  | invalidDimensions
  | tooManyPixels (pixels : Nat)
  | invalidRgbaLength (width height : UInt32)
  | encodedTooLarge (actual max : Nat)
  | unsupportedMime (mime : String)
  | image (error : ImageError)
  | invalidTransfer
  | offsetMismatch (expected actual : UInt32)
  | hashMismatch
  | transferExpired
  | invalidText
  deriving DecidableEq, Repr

inductive ImageFormat where
  | png
  | jpeg
  | bmp
  deriving DecidableEq, Repr

/-- `Sha256::digest` and what is used of the `image` crate: a PNG encoder, and for each format
    the size of an encoded image and, within its limits, its pixels as RGBA. -/
structure Codecs where
  sha256 : List UInt8 → Digest
  encodePng : UInt32 → UInt32 → List UInt8 → Except ImageError (List UInt8)
  dimensions : ImageFormat → List UInt8 → Except ImageError (UInt32 × UInt32)
  decode : ImageFormat → UInt32 → UInt32 → Nat → List UInt8 → Except ImageError (List UInt8)

/-- PNG gives back what was encoded. -/
structure Codecs.Lossless (codecs : Codecs) : Prop where
  dimensions : ∀ width height rgba png, codecs.encodePng width height rgba = .ok png →
    codecs.dimensions .png png = .ok (width, height)
  decode : ∀ width height rgba png, codecs.encodePng width height rgba = .ok png →
    codecs.decode .png width height (maxImagePixels * 4) png = .ok rgba

structure CanonicalImage where
  width : UInt32
  height : UInt32
  rgba : List UInt8
  png : List UInt8
  contentSha256 : Digest
  deriving DecidableEq, Repr

/-- The bytes of `u32::to_be_bytes`. -/
def toBeBytes (n : UInt32) : List UInt8 :=
  [(n >>> 24).toUInt8, (n >>> 16).toUInt8, (n >>> 8).toUInt8, n.toUInt8]

def hashBytes (codecs : Codecs) (bytes : List UInt8) : Digest := codecs.sha256 bytes

def hashImage (codecs : Codecs) (width height : UInt32) (rgba : List UInt8) : Digest :=
  codecs.sha256 (toBeBytes width ++ toBeBytes height ++ rgba)

def validateDimensions (width height : UInt32) (rgbaLength : Nat) : Except ClipboardError Unit := do
  let pixels := width.toNat * height.toNat
  ensure (width ≠ 0 ∧ height ≠ 0) .invalidDimensions
  ensure (pixels ≤ maxImagePixels) (.tooManyPixels pixels)
  ensure (pixels * 4 < UInt64.size) .invalidDimensions
  ensure (rgbaLength = pixels * 4) (.invalidRgbaLength width height)

namespace CanonicalImage

/-- `CanonicalImage::from_rgba` -/
def fromRgba (codecs : Codecs) (width height : UInt32) (rgba : List UInt8) (maxBytes : Nat) :
    Except ClipboardError CanonicalImage := do
  validateDimensions width height rgba.length
  let png ← (codecs.encodePng width height rgba).mapError .image
  ensure (png.length ≤ maxBytes) (.encodedTooLarge png.length maxBytes)
  pure { width, height, rgba, png, contentSha256 := hashImage codecs width height rgba }

/-- The formats of `CanonicalImage::from_encoded`. -/
def format (mime : String) : Except ClipboardError ImageFormat :=
  if mime = "image/png" then .ok .png
  else if mime = "image/jpeg" ∨ mime = "image/jpg" then .ok .jpeg
  else if mime = "image/bmp" ∨ mime = "image/x-bmp" then .ok .bmp
  else .error (.unsupportedMime mime)

/-- `CanonicalImage::from_encoded` -/
def fromEncoded (codecs : Codecs) (bytes : List UInt8) (mime : String) (maxBytes : Nat) :
    Except ClipboardError CanonicalImage := do
  ensure (bytes.length ≤ maxBytes) (.encodedTooLarge bytes.length maxBytes)
  let format ← format mime
  let (width, height) ← (codecs.dimensions format bytes).mapError .image
  ensure (width ≠ 0 ∧ height ≠ 0) .invalidDimensions
  ensure (width.toNat * height.toNat ≤ maxImagePixels) (.tooManyPixels (width.toNat * height.toNat))
  let rgba ← (codecs.decode format width height (maxImagePixels * 4) bytes).mapError .image
  fromRgba codecs width height rgba maxBytes

end CanonicalImage

inductive ClipboardItem where
  | text (text : String)
  | image (image : CanonicalImage)
  deriving DecidableEq, Repr

inductive ClipboardContentId where
  | text (contentSha256 : Digest)
  | image (contentSha256 : Digest)
  deriving DecidableEq, Repr

/-- `str::as_bytes` -/
def utf8 (text : String) : List UInt8 := text.toByteArray.data.toList

/-- `String::from_utf8` -/
def fromUtf8 (bytes : List UInt8) : Option String := String.fromUTF8? ⟨bytes.toArray⟩

/-- `ClipboardItem::id` -/
def ClipboardItem.id (codecs : Codecs) : ClipboardItem → ClipboardContentId
  | .text s => .text (hashBytes codecs (utf8 s))
  | .image picture => .image picture.contentSha256

/-! ## What they say -/

theorem fromUtf8_utf8 (text : String) : fromUtf8 (utf8 text) = some text := by
  simp [fromUtf8, utf8, String.fromUTF8?, String.fromUTF8, text.isValidUTF8]

theorem utf8_of_fromUtf8 {bytes : List UInt8} {text : String} (decoded : fromUtf8 bytes = some text) :
    utf8 text = bytes := by
  unfold fromUtf8 String.fromUTF8? at decoded
  split at decoded
  · obtain rfl := Option.some.inj decoded
    rfl
  · cases decoded

end EdgeKvm.Clipboard
