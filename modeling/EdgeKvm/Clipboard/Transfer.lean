import EdgeKvm.Clipboard.Item

/-!
# Chunked clipboard transfers

`OutgoingClipboardTransfer` and `IncomingClipboardTransfer` of `edge-clipboard/src/lib.rs`.
-/

namespace EdgeKvm.Clipboard

open EdgeKvm.Lib

/-! ## Sending -/

inductive OutgoingPayload where
  | image (image : CanonicalImage)
  | text (bytes : List UInt8) (contentSha256 : Digest)
  deriving DecidableEq, Repr

def OutgoingPayload.bytes : OutgoingPayload → List UInt8
  | .image picture => picture.png
  | .text bytes _ => bytes

inductive OutgoingStage where
  | start
  | chunks
  | finish
  | done
  deriving DecidableEq, Repr

structure OutgoingClipboardTransfer where
  transferId : UInt64
  sequence : UInt64
  payload : OutgoingPayload
  offset : Nat
  stage : OutgoingStage
  deriving DecidableEq, Repr

namespace OutgoingClipboardTransfer

def withPayload (transferId sequence : UInt64) (payload : OutgoingPayload) :
    OutgoingClipboardTransfer :=
  { transferId, sequence, payload, offset := 0, stage := .start }

def image (transferId sequence : UInt64) (image : CanonicalImage) : OutgoingClipboardTransfer :=
  withPayload transferId sequence (.image image)

def text (codecs : Codecs) (transferId sequence : UInt64) (text : String) :
    OutgoingClipboardTransfer :=
  withPayload transferId sequence (.text (utf8 text) (hashBytes codecs (utf8 text)))

def isText (t : OutgoingClipboardTransfer) : Bool :=
  match t.payload with
  | .text .. => true
  | .image _ => false

def isDone (t : OutgoingClipboardTransfer) : Bool := t.stage = .done

def cancelEvent (t : OutgoingClipboardTransfer) (reason : ClipboardCancelReason) :
    ClipboardEvent :=
  .imageCancel t.transferId reason

/-- The start frame of `next_event`. -/
def startEvent (t : OutgoingClipboardTransfer) : ClipboardEvent :=
  let totalBytes := UInt32.ofNat t.payload.bytes.length
  match t.payload with
  | .image picture => .imageStart t.transferId t.sequence picture.width picture.height totalBytes
      picture.contentSha256
  | .text _ contentSha256 => .textStart t.transferId t.sequence totalBytes contentSha256

/-- The chunk of `next_event` at the transfer's offset. -/
def chunkEvent (t : OutgoingClipboardTransfer) (bytes : List UInt8) : ClipboardEvent :=
  match t.payload with
  | .image _ => .imageChunk t.transferId (UInt32.ofNat t.offset) bytes
  | .text .. => .textChunk t.transferId (UInt32.ofNat t.offset) bytes

/-- The end frame of `next_event`. -/
def endEvent (t : OutgoingClipboardTransfer) : ClipboardEvent :=
  match t.payload with
  | .image _ => .imageEnd t.transferId
  | .text .. => .textEnd t.transferId

/-- `OutgoingClipboardTransfer::next_event` -/
def nextEvent (t : OutgoingClipboardTransfer) :
    Option ClipboardEvent × OutgoingClipboardTransfer :=
  match t.stage with
  | .start => (some t.startEvent, { t with stage := .chunks })
  | .chunks =>
    if t.payload.bytes.length ≤ t.offset then (some t.endEvent, { t with stage := .done })
    else
      let finish := min (t.offset + transferChunkBytes) t.payload.bytes.length
      let bytes := (t.payload.bytes.drop t.offset).take (finish - t.offset)
      (some (t.chunkEvent bytes), { t with offset := finish })
  | .finish => (some t.endEvent, { t with stage := .done })
  | .done => (none, t)

end OutgoingClipboardTransfer

/-! ## Receiving -/

structure TransferLimits where
  maxImageBytes : Nat
  maxTextBytes : Nat
  deriving DecidableEq, Repr

inductive IncomingKind where
  | image (width height : UInt32)
  | text
  deriving DecidableEq, Repr

def IncomingKind.isText : IncomingKind → Bool
  | .text => true
  | .image .. => false

structure IncomingState where
  transferId : UInt64
  kind : IncomingKind
  totalBytes : Nat
  contentSha256 : Digest
  bytes : List UInt8
  lastProgress : Nat
  deriving DecidableEq, Repr

structure IncomingClipboardTransfer where
  active : Option IncomingState := none
  deriving DecidableEq, Repr

/-- What `handle` returns. -/
abbrev Received := Except ClipboardError (Option ClipboardItem)

/-- An active transfer that is over, as the item it was. -/
def IncomingState.item (codecs : Codecs) (limits : TransferLimits) (state : IncomingState) :
    Except ClipboardError ClipboardItem :=
  match state.kind with
  | .image width height => do
    let image ← CanonicalImage.fromEncoded codecs state.bytes "image/png" limits.maxImageBytes
    ensure (image.width = width ∧ image.height = height ∧
      image.contentSha256 = state.contentSha256) .hashMismatch
    pure (.image image)
  | .text => do
    ensure (hashBytes codecs state.bytes = state.contentSha256) .hashMismatch
    match fromUtf8 state.bytes with
    | some text => pure (.text text)
    | none => .error .invalidText

/-- A chunk that is taken in. -/
def IncomingState.extend (state : IncomingState) (bytes : List UInt8) (now : Nat) : IncomingState :=
  { state with bytes := state.bytes ++ bytes, lastProgress := now }

namespace IncomingClipboardTransfer

def start (t : IncomingClipboardTransfer) (now : Nat) (transferId : UInt64) (kind : IncomingKind)
    (totalBytes maxBytes : Nat) (contentSha256 : Digest) : Received × IncomingClipboardTransfer :=
  if totalBytes = 0 ∨ maxBytes < totalBytes then (.error (.encodedTooLarge totalBytes maxBytes), t)
  else
    let state := { transferId, kind, totalBytes, contentSha256, bytes := [], lastProgress := now }
    (.ok none, { active := some state })

def chunk (t : IncomingClipboardTransfer) (now : Nat) (transferId : UInt64) (text : Bool)
    (offset : UInt32) (bytes : List UInt8) : Received × IncomingClipboardTransfer :=
  match t.active with
  | none => (.error .invalidTransfer, t)
  | some state =>
    let expected := UInt32.ofNat state.bytes.length
    if state.transferId ≠ transferId ∨ state.kind.isText ≠ text then (.error .invalidTransfer, t)
    else if offset ≠ expected then (.error (.offsetMismatch expected offset), t)
    else if bytes = [] ∨ transferChunkBytes < bytes.length ∨
        state.totalBytes < state.bytes.length + bytes.length then (.error .invalidTransfer, t)
    else (.ok none, { active := some (state.extend bytes now) })

/-- `finish` takes the active transfer before it looks at it. -/
def finish (codecs : Codecs) (t : IncomingClipboardTransfer) (transferId : UInt64) (text : Bool)
    (limits : TransferLimits) : Received × IncomingClipboardTransfer :=
  match t.active with
  | none => (.error .invalidTransfer, t)
  | some state =>
    if state.transferId ≠ transferId ∨ state.kind.isText ≠ text ∨
        state.bytes.length ≠ state.totalBytes then (.error .invalidTransfer, {})
    else ((state.item codecs limits).map some, {})

/-- The image case of `handle` checks the size of the pixels before it starts. -/
def imageDimensions (width height : UInt32) : Except ClipboardError Unit := do
  ensure (width.toNat * height.toNat * 4 < UInt64.size) .invalidDimensions
  validateDimensions width height (width.toNat * height.toNat * 4)

/-- `IncomingClipboardTransfer::handle` -/
def handle (codecs : Codecs) (t : IncomingClipboardTransfer) (event : ClipboardEvent)
    (limits : TransferLimits) (now : Nat) : Received × IncomingClipboardTransfer :=
  match event with
  | .imageStart transferId _ width height totalBytes contentSha256 =>
    match imageDimensions width height with
    | .error error => (.error error, t)
    | .ok () => t.start now transferId (.image width height) totalBytes.toNat limits.maxImageBytes
        contentSha256
  | .textStart transferId _ totalBytes contentSha256 =>
    t.start now transferId .text totalBytes.toNat limits.maxTextBytes contentSha256
  | .imageChunk transferId offset bytes => t.chunk now transferId false offset bytes
  | .textChunk transferId offset bytes => t.chunk now transferId true offset bytes
  | .imageEnd transferId => t.finish codecs transferId false limits
  | .textEnd transferId => t.finish codecs transferId true limits
  | .imageCancel transferId _ =>
    (.ok none, if t.active.any fun state => state.transferId = transferId then {} else t)
  | .textOffer .. | .textRequest | .contentRequest => (.error .invalidTransfer, t)

/-- `expire_transfer_id` -/
def expireTransferId (t : IncomingClipboardTransfer) (now : Nat) :
    Option UInt64 × IncomingClipboardTransfer :=
  match t.active with
  | none => (none, t)
  | some state =>
    if imageTransferTimeout < now - state.lastProgress then (some state.transferId, {})
    else (none, t)

def expire (t : IncomingClipboardTransfer) (now : Nat) :
    Except ClipboardError Unit × IncomingClipboardTransfer :=
  match t.expireTransferId now with
  | (some _, t) => (.error .transferExpired, t)
  | (none, t) => (.ok (), t)

end IncomingClipboardTransfer

end EdgeKvm.Clipboard
