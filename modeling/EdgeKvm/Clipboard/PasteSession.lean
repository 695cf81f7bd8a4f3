import EdgeKvm.Clipboard.HeldInput

/-!
# What a paste finds

A Windows session with a history of its outputs, and what an observer of these knows: the content
that was exchanged last, the Control keys held down, and the V presses that wait for the content
they were prepared with. Content is known by its `ClipboardContentId`.
-/

namespace EdgeKvm.Clipboard

open EdgeKvm.Lib Machine

/-! ## The observer -/

/-- An entry of the history: a V press with the content that was read for it, the end of all
    waiting because a barrier timed out or the peer cancelled the transfer, or an output. -/
inductive PasteObservation where
  | pressed (frame : LiveFrame) (read : ClipboardContentId)
  | gaveUp
  | did (output : LiveOutput)
  deriving DecidableEq, Repr

/-- What the history tells. -/
structure Observed where
  /-- The transfer whose start was sent last, with its content. -/
  begun : Option (UInt64 × ClipboardContentId) := none
  /-- The content that was completely sent, or received and written, last. -/
  exchanged : Option ClipboardContentId := none
  /-- The Control keys held down. -/
  controls : List UInt16 := []
  /-- The V presses that nothing gave up. -/
  pressed : List (LiveFrame × ClipboardContentId) := []
  deriving DecidableEq, Repr

namespace Observed

variable (codecs : Codecs)

/-- The end of a transfer is sent. -/
def ended (o : Observed) (id : UInt64) : Observed :=
  match o.begun with
  | some (begun, content) => if begun = id then { o with exchanged := some content } else o
  | none => o

/-- A frame of the clipboard is sent. -/
def sent (o : Observed) : ClipboardEvent → Observed
  | .textOffer _ text => { o with exchanged := some ((ClipboardItem.text text).id codecs) }
  | .imageStart id _ _ _ _ contentSha256 => { o with begun := some (id, .image contentSha256) }
  | .textStart id _ _ contentSha256 => { o with begun := some (id, .text contentSha256) }
  | .imageEnd id | .textEnd id => o.ended id
  | _ => o

/-- A live frame is sent. -/
def typed (o : Observed) : Option Session.InputEvent → Observed
  | some (.key code down) =>
    if code = 29 ∨ code = 97 then
      { o with controls := if down then o.controls.insert code else o.controls.erase code }
    else o
  | some .allKeysUp => { o with controls := [] }
  | _ => o

def step (o : Observed) : PasteObservation → Observed
  | .pressed frame read => { o with pressed := o.pressed ++ [(frame, read)] }
  | .gaveUp => { o with pressed := [] }
  | .did (.write (.clipboard event)) => o.sent codecs event
  | .did (.write (.live frame)) => o.typed frame.inputEvent
  | .did (.writeText text) => { o with exchanged := some ((ClipboardItem.text text).id codecs) }
  | .did (.writeImage image) => { o with exchanged := some ((ClipboardItem.image image).id codecs) }
  | .did (.requestLater _) => o

/-- The observer behind further entries. -/
def along (o : Observed) (log : List PasteObservation) : Observed := log.foldl (step codecs) o

@[simp] theorem along_nil (o : Observed) : o.along codecs [] = o := rfl

@[simp] theorem along_cons (o : Observed) (entry : PasteObservation)
    (log : List PasteObservation) :
    o.along codecs (entry :: log) = (o.step codecs entry).along codecs log := rfl

@[simp] theorem along_append (o : Observed) (log more : List PasteObservation) :
    o.along codecs (log ++ more) = (o.along codecs log).along codecs more := List.foldl_append

end Observed

/-- What the whole history tells. -/
def observe (codecs : Codecs) (log : List PasteObservation) : Observed :=
  ({} : Observed).along codecs log

/-! ## The session -/

/-- The content of a transfer. -/
def OutgoingPayload.contentId : OutgoingPayload → ClipboardContentId
  | .image picture => .image picture.contentSha256
  | .text _ contentSha256 => .text contentSha256

namespace LiveClipboardState

/-- The peer supports the kind and the size of the item. -/
def canOffer (host : LiveHost) (config : LiveConfig) (s : LiveClipboardState) :
    ClipboardItem → Bool
  | .image _ => s.peer.images && config.imagesEnabled
  | .text text => s.peer.textChunks ||
      host.fitsSecureFrame (.textOffer (ClipboardChangeTracker.saturatingSucc s.tracker.sequence) text)

/-- A V press over the content is written at once, and nothing is offered. -/
def letsThrough (s : LiveClipboardState) : ClipboardContentId → Bool
  | .image contentSha256 => !s.ctrlDown || s.lastSentImageId = some (.image contentSha256)
  | .text _ => !s.ctrlDown

end LiveClipboardState

namespace LiveSession

/-- The barrier times out, or the peer cancels the transfer. -/
def givesUp (s : LiveSession) : LiveEvent → Bool
  | .sendTick now => !s.paused && s.clipboard.pasteBarrierExpired now
  | .peer event _ => !s.paused && s.config.enabled && s.clipboard.cancelsOutgoing event
  | _ => false

/-- The transfer whose end frame comes next. -/
def atEnd (s : LiveSession) : Option OutgoingClipboardTransfer :=
  s.clipboard.outgoing.filter fun transfer =>
    transfer.nextEvent.1.any LiveClipboardState.completes

/-- The transfer whose end frame the event sends. -/
def ending (s : LiveSession) : LiveEvent → Option OutgoingClipboardTransfer
  | .sendChunk => if s.paused then none else s.atEnd
  | .sendTick now =>
    if s.paused || s.clipboard.pasteBarrierExpired now then none else s.atEnd
  | _ => none

end LiveSession

/-- A session with its history. -/
structure PasteSession where
  live : LiveSession
  log : List PasteObservation := []

namespace PasteSession

variable (host : LiveHost)

def observed (s : PasteSession) : Observed := observe host.codecs s.log

/-- A V press while a Control key is held down and no barrier is set, over content that is read
    and that the peer supports. -/
def paste (s : PasteSession) : LiveEvent → Option (LiveFrame × ClipboardContentId)
  | .input frame system =>
    match system.current with
    | .ok (some item) =>
      if !s.live.paused && s.live.config.enabled &&
          s.live.clipboard.pasteBarrierDeadline.isNone &&
          LiveClipboardState.isPasteKey (s.live.nextFrame frame) &&
          !(s.observed host).controls.isEmpty &&
          s.live.clipboard.canOffer host s.live.config item then
        some (s.live.nextFrame frame, item.id host.codecs)
      else none
    | _ => none
  | _ => none

/-- What the history says of an event before its outputs. -/
def marks (s : PasteSession) (event : LiveEvent) : List PasteObservation :=
  if s.live.givesUp event then [.gaveUp]
  else ((s.paste host event).map fun press => .pressed press.1 press.2).toList

/-- The session loop. -/
def loop : Machine PasteSession LiveEvent where
  exec s event := ((LiveSession.loop host).exec s.live event).map fun live =>
    { live
      log := s.log ++ s.marks host event ++
        (s.live.turn host event s.live.clipboard).output.map .did }

/-- A session at its start. -/
structure Started (s : PasteSession) : Prop where
  live : s.live.Started
  log : s.log = []

/-! ## The property -/

/-- A V press that is written finds the content that was read for it exchanged last, unless
    something gave it up. -/
def Finds (codecs : Codecs) (before : List PasteObservation) : PasteObservation → Prop
  | .did (.write (.live live)) => ∀ read, (live, read) ∈ (observe codecs before).pressed →
      (observe codecs before).exchanged = some read
  | _ => True

def PastesWhatWasRead (s : PasteSession) : Prop := Before (Finds host.codecs) s.log

/-- A V press is let through although other content was exchanged last. -/
def passesStale (s : PasteSession) (event : LiveEvent) : Bool :=
  (s.paste host event).any fun press => s.live.clipboard.letsThrough press.2 &&
    decide ((s.observed host).exchanged ≠ some press.2)

/-- A transfer ends while a V press over other content is held back. -/
def endsOther (s : PasteSession) (event : LiveEvent) : Bool :=
  (s.live.ending event).any fun transfer => (s.observed host).pressed.any fun press =>
    decide (press.1 ∈ s.live.clipboard.heldInput) && decide (press.2 ≠ transfer.payload.contentId)

end PasteSession

end EdgeKvm.Clipboard
