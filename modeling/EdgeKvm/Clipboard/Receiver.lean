import EdgeKvm.Clipboard.Transfer
import EdgeKvm.Lib.Handler

/-!
# The clipboard of a session

`ReceiverClipboardState` of `apps/edge-receiver-linux/src/main.rs` with the tracker of
`edge-clipboard/src/lib.rs`. What the clipboard tools answer during a call is a parameter of the
call.
-/

namespace EdgeKvm.Clipboard

open EdgeKvm.Lib Handler

/-! ## Data -/

/-- `ClipboardPeerFeatures` -/
structure ClipboardPeerFeatures where
  images : Bool
  textChunks : Bool
  deriving DecidableEq, Repr

/-- What is used of `ClipboardConfig`. -/
structure ClipboardConfig where
  imagesEnabled : Bool
  maxImageBytes : Nat
  maxBytes : Nat
  deriving DecidableEq, Repr

structure ClipboardChangeTracker where
  sequence : UInt64 := 0
  lastObserved : Option ClipboardContentId := none
  deriving DecidableEq, Repr

namespace ClipboardChangeTracker

def isObserved (t : ClipboardChangeTracker) (current : Option ClipboardContentId) : Bool :=
  t.lastObserved = current

def markObserved (t : ClipboardChangeTracker) (current : Option ClipboardContentId) :
    ClipboardChangeTracker :=
  { t with lastObserved := current }

/-- `u64::saturating_add(1)` -/
def saturatingSucc (n : UInt64) : UInt64 := if n + 1 = 0 then n else n + 1

def offerCurrent (t : ClipboardChangeTracker) (current : Option ClipboardContentId) :
    Option UInt64 × ClipboardChangeTracker :=
  match current with
  | none => (none, { t with lastObserved := none })
  | some id =>
    let sequence := saturatingSucc t.sequence
    (some sequence, { lastObserved := some id, sequence })

def offerIfChanged (t : ClipboardChangeTracker) (current : Option ClipboardContentId) :
    Option UInt64 × ClipboardChangeTracker :=
  if t.isObserved current then (none, t) else t.offerCurrent current

end ClipboardChangeTracker

structure ReceiverClipboardState where
  tracker : ClipboardChangeTracker := {}
  outgoing : Option OutgoingClipboardTransfer := none
  incoming : IncomingClipboardTransfer := {}
  nextTransferId : UInt64 := 0
  peer : ClipboardPeerFeatures
  applyGeneration : UInt64 := 0
  recordsPhoneWrites : Bool := false
  withholdsPhoneContent : Bool := false
  deriving DecidableEq, Repr

/-- What does not change during a session; `fitsSecureFrame` is `fits_secure_frame` of a clipboard
    frame. -/
structure ClipboardHost where
  codecs : Codecs
  config : ClipboardConfig
  fitsSecureFrame : ClipboardEvent → Bool

/-- `ReceiverClipboardState::transfer_limits` -/
def ClipboardHost.transferLimits (host : ClipboardHost) : TransferLimits where
  maxImageBytes := host.config.maxImageBytes
  maxTextBytes := host.config.maxBytes

/-- What a call finds: what the clipboard can be read as, what a write fails with, what
    `PhoneOrigin` holds, and the time. -/
structure ClipboardSystem where
  current : Except String (Option ClipboardItem)
  currentText : Except String (Option String)
  writeFailure : Option String := none
  phoneContent : Option ClipboardContentId := none
  now : Nat := 0

/-- What a call does outside of its state. -/
inductive ClipboardOutput where
  | send (event : ClipboardEvent)
  | writeText (text : String)
  | writeImage (image : CanonicalImage)
  /-- `PhoneOrigin::record` -/
  | record (id : ClipboardContentId)
  deriving DecidableEq, Repr

abbrev ClipboardM := Handler ReceiverClipboardState ClipboardOutput String

/-! ## Sending -/

namespace ReceiverClipboardState

variable (host : ClipboardHost) (system : ClipboardSystem)

/-- A call that reads or writes the clipboard. -/
def system? {α : Type} (x : Except String α) : ClipboardM α := ofExcept id x

/-- `cancel_outgoing` -/
def cancelOutgoing : ClipboardM Unit := do
  let s ← read
  match s.outgoing with
  | some active =>
    update fun s => { s with outgoing := none }
    emit (.send (active.cancelEvent .replaced))
  | none => pure ()

/-- `next_transfer_id` of a state: `wrapping_add(1).max(1)`. -/
def followingId (s : ReceiverClipboardState) : UInt64 :=
  if s.nextTransferId + 1 = 0 then 1 else s.nextTransferId + 1

/-- `next_transfer_id`, and the transfer it is for. -/
def beginTransfer (transfer : UInt64 → OutgoingClipboardTransfer) : ClipboardM Unit :=
  update fun s =>
    { s with nextTransferId := s.followingId, outgoing := some (transfer s.followingId) }

/-- `send_text` -/
def sendText (sequence : UInt64) (text : String) : ClipboardM Bool := do
  cancelOutgoing
  if host.fitsSecureFrame (.textOffer sequence text) then
    emit (.send (.textOffer sequence text))
    pure true
  else
    let s ← read
    if s.peer.textChunks then
      beginTransfer fun id => .text host.codecs id sequence text
      pure true
    else pure false

/-- The offer of `offer_item`, once it has a sequence number. -/
def sendItem (sequence : UInt64) : ClipboardItem → ClipboardM Bool
  | .text text => sendText host sequence text
  | .image image => do
    let s ← read
    if s.peer.images && host.config.imagesEnabled then
      cancelOutgoing
      beginTransfer fun id => .image id sequence image
      pure true
    else pure false

/-- `offer_item` -/
def offerItem (current : Option ClipboardItem) (force : Bool) : ClipboardM Bool := do
  let s ← read
  let currentId := current.map (·.id host.codecs)
  if s.withholdsPhoneContent && currentId.isSome && system.phoneContent = currentId then
    update fun s => { s with tracker := s.tracker.markObserved currentId }
    pure false
  else
    let (sequence, tracker) :=
      if force then s.tracker.offerCurrent currentId else s.tracker.offerIfChanged currentId
    update fun s => { s with tracker }
    match sequence, current with
    | some sequence, some item => sendItem host sequence item
    | _, _ => pure false

/-- `send_local_offer` -/
def sendLocalOffer : ClipboardM Bool := do
  let current ← system? system.current
  offerItem host system current true

/-- `send_local_text_offer` -/
def sendLocalTextOffer : ClipboardM Bool := do
  match ← system? system.currentText with
  | none => pure false
  | some text =>
    let s ← read
    let (sequence, tracker) := s.tracker.offerCurrent (some (ClipboardItem.text text |>.id host.codecs))
    update fun s => { s with tracker }
    match sequence with
    | some sequence => sendText host sequence text
    | none => pure false

/-- `send_changed_offer` -/
def sendChangedOffer : ClipboardM Bool := do
  let current ← system? system.current
  offerItem host system current false

/-- `send_next_image_frame` -/
def sendNextImageFrame : ClipboardM Bool := do
  let s ← read
  match s.outgoing with
  | none => pure false
  | some transfer =>
    match transfer.nextEvent with
    | (none, _) =>
      update fun s => { s with outgoing := none }
      pure false
    | (some event, transfer) =>
      update fun s => { s with outgoing := some transfer }
      emit (.send event)
      let completed : Bool :=
        match event with
        | .imageEnd _ | .textEnd _ => true
        | _ => false
      if completed then update fun s => { s with outgoing := none }
      pure completed

/-! ## Receiving -/

/-- A remote item that differs from what the clipboard holds: the local content is offered when it
    was not observed yet, else the item is written. `remoteId` is observed either way it ends up
    on the clipboard. -/
def applyRemote (remote : ClipboardItem) (write : ClipboardOutput) : ClipboardM Bool := do
  let remoteId := remote.id host.codecs
  let current ← system? system.current
  let currentId := current.map (·.id host.codecs)
  let s ← read
  if currentId = some remoteId then
    update fun s => { s with tracker := s.tracker.markObserved currentId }
    pure false
  else if currentId.isSome && !s.tracker.isObserved currentId then
    let _ ← offerItem host system current false
    pure false
  else
    check system.writeFailure
    emit write
    update fun s =>
      { s with
        applyGeneration := s.applyGeneration + 1
        tracker := s.tracker.markObserved (some remoteId) }
    pure true

/-- `handle_text_offer` -/
def handleTextOffer (text : String) : ClipboardM Unit := do
  let applied ← applyRemote host system (.text text) (.writeText text)
  let s ← read
  if applied && s.recordsPhoneWrites then
    emit (.record (ClipboardItem.text text |>.id host.codecs))

/-- Whether `handle_event` passes a transfer frame on to the incoming transfer. -/
def supports (s : ReceiverClipboardState) (event : ClipboardEvent) : Bool :=
  match event with
  | .imageCancel .. => true
  | event =>
    if event.isTextTransfer then s.peer.textChunks
    else s.peer.images && host.config.imagesEnabled

/-- The reason of the cancel that answers a transfer frame. -/
def cancelReason : ClipboardError → ClipboardCancelReason
  | .encodedTooLarge .. | .tooManyPixels _ | .invalidDimensions => .rejected
  | _ => .invalid

/-- The cancel that answers a transfer frame, except a cancel. -/
def answerCancel (event : ClipboardEvent) (reason : ClipboardCancelReason) : ClipboardM Unit :=
  match event, event.transferId with
  | .imageCancel .., _ => pure ()
  | _, some transferId => emit (.send (.imageCancel transferId reason))
  | _, none => pure ()

/-- A frame that the incoming transfer takes in. -/
def takeIn (event : ClipboardEvent) : ClipboardM Bool := do
  let s ← read
  let (received, incoming) := s.incoming.handle host.codecs event host.transferLimits system.now
  update fun s => { s with incoming }
  match received with
  | .ok (some (.image image)) => applyRemote host system (.image image) (.writeImage image)
  | .ok (some (.text text)) =>
    handleTextOffer host system text
    pure true
  | .ok none => pure false
  | .error error =>
    update fun s => { s with incoming := {} }
    answerCancel event (cancelReason error)
    pure false

/-- The branch of `handle_event` for the frames of a transfer. -/
def handleTransfer (event : ClipboardEvent) : ClipboardM Bool := do
  let s ← read
  let cancelsOutgoing : Bool :=
    match event with
    | .imageCancel transferId _ => s.outgoing.any fun active => active.transferId = transferId
    | _ => false
  if cancelsOutgoing then
    update fun s => { s with outgoing := none }
    pure false
  else if s.supports host event then takeIn host system event
  else
    answerCancel event .rejected
    pure false

/-- `handle_event` -/
def handleEvent : ClipboardEvent → ClipboardM Bool
  | .textOffer _ text => do
    handleTextOffer host system text
    pure true
  | .textRequest => sendLocalTextOffer host system
  | .contentRequest => sendLocalOffer host system
  | event => handleTransfer host system event

/-- `expire_transfer_id` with the cancel that the session sends for it. -/
def expireIncoming : ClipboardM Bool := do
  let s ← read
  let (expired, incoming) := s.incoming.expireTransferId system.now
  update fun s => { s with incoming }
  match expired with
  | some transferId =>
    emit (.send (.imageCancel transferId .timedOut))
    pure true
  | none => pure false

end ReceiverClipboardState

end EdgeKvm.Clipboard
