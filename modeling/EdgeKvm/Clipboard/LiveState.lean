import EdgeKvm.Clipboard.Receiver
import EdgeKvm.Session.Protocol

/-!
# The clipboard of a Windows session

`LiveClipboardState` of the Windows `main.rs` and the branches of the session loop that use it.
What the clipboard answers during a call is a parameter of the call. Writes to the peer succeed.
-/

namespace EdgeKvm.Clipboard

open EdgeKvm.Lib Handler

/-! ## Data -/

/-- `CLIPBOARD_PASTE_BARRIER_TIMEOUT`, in milliseconds. -/
def clipboardPasteBarrierTimeout : Nat := 5000

/-- What is used of `ClipboardConfig`. -/
structure LiveConfig extends ClipboardConfig where
  enabled : Bool
  deriving DecidableEq, Repr

/-- A frame of the live input; `serial` is its place among the frames handed in, which the code
    does not keep. -/
structure LiveFrame where
  serial : Nat
  frame : Session.Frame
  deriving DecidableEq, Repr

/-- `Frame::input_event`. -/
def LiveFrame.inputEvent (live : LiveFrame) : Option Session.InputEvent :=
  match live.frame with
  | .input _ event => some event
  | _ => none

/-- The frames the session writes here. -/
inductive SessionFrame where
  | live (frame : LiveFrame)
  | clipboard (event : ClipboardEvent)
  deriving DecidableEq, Repr

/-- `Frame::input_event`. -/
def SessionFrame.inputEvent : SessionFrame → Option Session.InputEvent
  | live frame => frame.inputEvent
  | clipboard _ => none

/-- `PendingClipboardRead`, without its task. -/
structure PendingClipboardRead where
  sequence : UInt32
  generation : UInt64
  deriving DecidableEq, Repr

structure LiveClipboardState where
  ctrlDown : Bool := false
  tracker : ClipboardChangeTracker := {}
  lastClipboardSequence : UInt32 := 0
  outgoing : Option OutgoingClipboardTransfer := none
  incoming : IncomingClipboardTransfer := {}
  nextTransferId : UInt64 := 0
  peer : ClipboardPeerFeatures
  applyGeneration : UInt64 := 0
  pendingRead : Option PendingClipboardRead := none
  outgoingImageId : Option ClipboardContentId := none
  lastSentImageId : Option ClipboardContentId := none
  heldInput : List LiveFrame := []
  pasteBarrierDeadline : Option Nat := none
  deriving DecidableEq, Repr

/-- SHA-256, the `image` crate and `fits_secure_frame` of a clipboard frame. -/
structure LiveHost where
  codecs : Codecs
  fitsSecureFrame : ClipboardEvent → Bool

/-- What a call finds: what the clipboard can be read as, what a write fails with, the sequence
    number of the clipboard, and the time. -/
structure WindowsClipboard where
  current : Except String (Option ClipboardItem) := .ok none
  currentText : Except String (Option String) := .ok none
  writeFailure : Option String := none
  sequenceNumber : UInt32 := 0
  now : Nat := 0

/-- What a turn does outside of the state; `requestLater` is the task that sends a request after
    200 ms. -/
inductive LiveOutput where
  | write (frame : SessionFrame)
  | requestLater (event : ClipboardEvent)
  | writeText (text : String)
  | writeImage (image : CanonicalImage)
  deriving DecidableEq, Repr

abbrev LiveM := Handler LiveClipboardState LiveOutput String

namespace LiveClipboardState

variable (host : LiveHost) (config : LiveConfig) (system : WindowsClipboard)

/-- Writes a clipboard frame to the peer. -/
def send (event : ClipboardEvent) : LiveM Unit := emit (.write (.clipboard event))

/-- Writes each of them to the peer. -/
def sendAll : List ClipboardEvent → LiveM Unit
  | [] => pure ()
  | event :: events => do
    send event
    sendAll events

/-- `next_transfer_id.wrapping_add(1).max(1)` -/
def followingId (s : LiveClipboardState) : UInt64 :=
  if s.nextTransferId + 1 = 0 then 1 else s.nextTransferId + 1

/-! ## Offers -/

/-- The cancel of a transfer that is replaced. -/
def replaceOutgoing (s : LiveClipboardState) : List ClipboardEvent :=
  (s.outgoing.map (·.cancelEvent .replaced)).toList

/-- `push_text_offer`, with the frames it pushes. -/
def pushTextOffer (sequence : UInt64) (text : String) (contentId : Option ClipboardContentId) :
    LiveM (List ClipboardEvent) := do
  let s ← read
  update fun s => { s with outgoing := none, outgoingImageId := none }
  if host.fitsSecureFrame (.textOffer sequence text) then
    pure (s.replaceOutgoing ++ [.textOffer sequence text])
  else
    if s.peer.textChunks then
      update fun s => { s with
        nextTransferId := s.followingId
        outgoing := some (.text host.codecs s.followingId sequence text)
        outgoingImageId := contentId }
    pure s.replaceOutgoing

/-- `offer_item` -/
def offerItem (current : Option ClipboardItem) (force : Bool) : LiveM (List ClipboardEvent) := do
  let s ← read
  let currentId := current.map (·.id host.codecs)
  let (sequence, tracker) :=
    if force then s.tracker.offerCurrent currentId else s.tracker.offerIfChanged currentId
  update fun s => { s with tracker }
  match sequence, current with
  | some sequence, some (.text text) => pushTextOffer host sequence text currentId
  | some sequence, some (.image image) =>
    if s.peer.images && config.imagesEnabled then
      update fun s => { s with
        nextTransferId := s.followingId
        outgoing := some (.image s.followingId sequence image)
        outgoingImageId := currentId }
      pure s.replaceOutgoing
    else pure []
  | _, _ => pure []

/-- A call that reads the clipboard. -/
def system? {α : Type} (x : Except String α) : LiveM α := ofExcept id x

/-- `local_clipboard_offer` -/
def localClipboardOffer (force : Bool) : LiveM (List ClipboardEvent) := do
  let current ← system? system.current
  offerItem host config current force

/-! ## Live input -/

/-- The V key going down. -/
def isPasteKey (live : LiveFrame) : Bool := live.inputEvent = some (.key 47 true)

/-- A frame that moves the pointer. -/
def isMotion (live : LiveFrame) : Bool :=
  match live.inputEvent with
  | some (.pointerMotion _ _) => true
  | _ => false

/-- Puts the frame behind the held ones and sets the deadline. -/
def beginBarrier (live : LiveFrame) : LiveM Unit :=
  update fun s => { s with
    heldInput := s.heldInput ++ [live]
    pasteBarrierDeadline := some (system.now + clipboardPasteBarrierTimeout) }

/-- The paste of `prepare_input` over an image the peer can take. -/
def preparePasteImage (live : LiveFrame) (image : CanonicalImage) : LiveM (List SessionFrame) := do
  let s ← read
  let imageId : ClipboardContentId := .image image.contentSha256
  if s.lastSentImageId = some imageId then
    pure [.live live]
  else
    let prefixes ←
      if s.outgoingImageId = some imageId then pure []
      else offerItem host config (some (.image image)) true
    beginBarrier system live
    pure (prefixes.map .clipboard)

/-- The paste of `prepare_input` over anything else. -/
def preparePasteOther (live : LiveFrame) (current : Option ClipboardItem) :
    LiveM (List SessionFrame) := do
  let frames ← offerItem host config current true
  let s ← read
  if s.outgoing.any (·.isText) then
    beginBarrier system live
    pure (frames.map .clipboard)
  else
    pure (frames.map .clipboard ++ [.live live])

/-- The paste of `prepare_input`; a clipboard that cannot be read lets it through. -/
def preparePaste (live : LiveFrame) : LiveM (List SessionFrame) := do
  let s ← read
  match system.current with
  | .error _ => pure [.live live]
  | .ok (some (.image image)) =>
    if s.peer.images && config.imagesEnabled then preparePasteImage host config system live image
    else preparePasteOther host config system live (some (.image image))
  | .ok current => preparePasteOther host config system live current

/-- `prepare_input` -/
def prepareInput (live : LiveFrame) : LiveM (List SessionFrame) := do
  let s ← read
  if s.pasteBarrierDeadline.isSome then
    if isMotion live then pure [.live live]
    else
      update fun s => { s with heldInput := s.heldInput ++ [live] }
      pure []
  else if !config.enabled then
    pure [.live live]
  else if isPasteKey live && s.ctrlDown then
    preparePaste host config system live
  else
    pure [.live live]

/-- `after_input_sent` -/
def afterInputSent (frame : SessionFrame) : LiveM Unit := do
  let s ← read
  match frame.inputEvent with
  | some (.key code down) =>
    if code = 29 ∨ code = 97 then
      update fun s => { s with ctrlDown := down }
    else if code = 46 ∧ down ∧ s.ctrlDown ∧ config.enabled then
      emit (.requestLater
        (if s.peer.images && config.imagesEnabled then .contentRequest else .textRequest))
  | some .allKeysUp => update fun s => { s with ctrlDown := false }
  | _ => pure ()

/-- Writes the frames, with `after_input_sent` behind each. -/
def writeFrames : List SessionFrame → LiveM Unit
  | [] => pure ()
  | frame :: frames => do
    emit (.write frame)
    afterInputSent config frame
    writeFrames frames

/-- The live input branch. -/
def liveInput (live : LiveFrame) : LiveM Unit := do
  let prepared ← prepareInput host config system live
  writeFrames config prepared

/-- `take_held_input` and the writes of what it takes. -/
def releaseHeldInput : LiveM Unit := do
  let s ← read
  update fun s => { s with pasteBarrierDeadline := none, heldInput := [] }
  writeFrames config (s.heldInput.map .live)

/-! ## Sending a transfer -/

/-- The end frame of a transfer. -/
def completes : ClipboardEvent → Bool
  | .imageEnd _ | .textEnd _ => true
  | _ => false

/-- `next_image_frame`, its write and the release behind the end of a transfer. -/
def sendNextFrame : LiveM Unit := do
  let s ← read
  match s.outgoing with
  | none => pure ()
  | some transfer =>
    match transfer.nextEvent with
    | (none, transfer) => update fun s => { s with outgoing := some transfer }
    | (some event, transfer) =>
      if completes event then
        update fun s => { s with
          outgoing := none, lastSentImageId := s.outgoingImageId, outgoingImageId := none }
        send event
        releaseHeldInput config
      else
        update fun s => { s with outgoing := some transfer }
        send event

/-- `paste_barrier_expired` -/
def pasteBarrierExpired (s : LiveClipboardState) (now : Nat) : Bool :=
  s.pasteBarrierDeadline.any (· ≤ now)

/-- `needs_send_tick` -/
def needsSendTick (s : LiveClipboardState) : Bool :=
  s.outgoing.isSome || s.pasteBarrierDeadline.isSome

/-- `cancel_expired_paste_barrier`, and the write of its cancel. -/
def cancelExpiredPasteBarrier : LiveM Unit := do
  let s ← read
  update fun s => { s with pasteBarrierDeadline := none, outgoingImageId := none, outgoing := none }
  sendAll (s.outgoing.map (·.cancelEvent .timedOut)).toList

/-- The `clipboard_send` branch. -/
def sendTick (now : Nat) : LiveM Unit := do
  let s ← read
  if s.needsSendTick then
    if s.pasteBarrierExpired now then
      cancelExpiredPasteBarrier
      releaseHeldInput config
    else
      sendNextFrame config

/-! ## Changes of the clipboard -/

/-- `poll_local_change` -/
def pollLocalChange : LiveM Unit := do
  let s ← read
  if config.enabled && s.pendingRead.isNone &&
      (system.sequenceNumber = 0 || system.sequenceNumber ≠ s.lastClipboardSequence) then
    update fun s => { s with
      pendingRead := some { sequence := system.sequenceNumber, generation := s.applyGeneration } }

/-- `finished_local_read` and, in an unpaused session, `complete_local_read` with its writes. -/
def completeLocalRead (paused : Bool) (result : Except String (Option ClipboardItem)) :
    LiveM Unit := do
  let s ← read
  match s.pendingRead with
  | none => pure ()
  | some finished =>
    update fun s => { s with pendingRead := none }
    if !paused && finished.generation = s.applyGeneration then
      let current ← system? result
      let frames ← offerItem host config current false
      update fun s => { s with lastClipboardSequence := finished.sequence }
      sendAll frames

/-! ## Events of the peer -/

/-- `prefer_newer_local_clipboard` -/
def preferNewerLocalClipboard (remoteId : ClipboardContentId) : LiveM Bool := do
  let current ← system? system.current
  let currentId := current.map (·.id host.codecs)
  let s ← read
  if currentId = some remoteId then
    update fun s => { s with tracker := s.tracker.markObserved currentId }
    pure true
  else if currentId.isSome && !s.tracker.isObserved currentId then
    let frames ← offerItem host config current true
    sendAll frames
    pure true
  else
    pure false

/-- A remote item that is written unless the local clipboard is newer; `apply_remote_text` and the
    image case of `handle_remote_event`. -/
def applyRemote (remote : ClipboardItem) (write : LiveOutput) : LiveM Unit := do
  let newer ← preferNewerLocalClipboard host config system (remote.id host.codecs)
  if !newer then
    check system.writeFailure
    emit write
    update fun s => { s with
      applyGeneration := s.applyGeneration + 1
      tracker := s.tracker.markObserved (some (remote.id host.codecs))
      lastClipboardSequence := system.sequenceNumber }

/-- `ClipboardEvent::TextRequest` -/
def textRequest : LiveM Unit := do
  match ← system? system.currentText with
  | none => pure ()
  | some text =>
    let s ← read
    let id := (ClipboardItem.text text).id host.codecs
    let (sequence, tracker) := s.tracker.offerCurrent (some id)
    update fun s => { s with tracker }
    match sequence with
    | none => pure ()
    | some sequence =>
      let frames ← pushTextOffer host sequence text (some id)
      sendAll frames

/-- Whether a transfer frame is passed on to the incoming transfer. -/
def supports (s : LiveClipboardState) (event : ClipboardEvent) : Bool :=
  match event with
  | .imageCancel .. => true
  | event =>
    if event.isTextTransfer then s.peer.textChunks
    else s.peer.images && config.imagesEnabled

/-- The cancel that answers a transfer frame, except a cancel. -/
def answerCancel (event : ClipboardEvent) (reason : ClipboardCancelReason) : LiveM Unit :=
  match event, event.transferId with
  | .imageCancel .., _ => pure ()
  | _, some transferId => send (.imageCancel transferId reason)
  | _, none => pure ()

/-- A frame that the incoming transfer takes in. -/
def takeIn (event : ClipboardEvent) : LiveM Unit := do
  let s ← read
  let limits : TransferLimits :=
    { maxImageBytes := config.maxImageBytes, maxTextBytes := config.maxBytes }
  let (received, incoming) := s.incoming.handle host.codecs event limits system.now
  update fun s => { s with incoming }
  match received with
  | .ok (some (.text text)) => applyRemote host config system (.text text) (.writeText text)
  | .ok (some (.image image)) => applyRemote host config system (.image image) (.writeImage image)
  | .ok none => pure ()
  | .error error =>
    update fun s => { s with incoming := {} }
    answerCancel event (ReceiverClipboardState.cancelReason error)

/-- Whether the peer cancels the outgoing transfer. -/
def cancelsOutgoing (s : LiveClipboardState) : ClipboardEvent → Bool
  | .imageCancel transferId _ => s.outgoing.any fun active => active.transferId = transferId
  | _ => false

/-- The transfer frames of `handle_remote_event`. -/
def handleTransfer (event : ClipboardEvent) : LiveM Unit := do
  let s ← read
  if s.cancelsOutgoing event then
    update fun s => { s with outgoing := none }
    releaseHeldInput config
  else if s.supports config event then
    takeIn host config system event
  else
    answerCancel event .rejected

/-- `handle_remote_event` -/
def handleRemoteEvent (event : ClipboardEvent) : LiveM Unit := do
  if config.enabled then
    match event with
    | .textOffer _ text => applyRemote host config system (.text text) (.writeText text)
    | .textRequest => textRequest host system
    | .contentRequest => do
      let frames ← localClipboardOffer host config system true
      sendAll frames
    | event => handleTransfer host config system event

/-- The expiry of the incoming transfer in the watchdog branch. -/
def expireIncoming (now : Nat) : LiveM Unit := do
  let s ← read
  let (expired, incoming) := s.incoming.expireTransferId now
  update fun s => { s with incoming }
  match expired with
  | some transferId => send (.imageCancel transferId .timedOut)
  | none => pure ()

end LiveClipboardState

end EdgeKvm.Clipboard
