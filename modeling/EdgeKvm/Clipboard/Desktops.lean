import EdgeKvm.Clipboard.Exchange
import EdgeKvm.Clipboard.RoundTrip

/-!
# Two desktops

Two PCs that share their clipboards: at each end the clipboard of the desktop, the notifications of
the clipboard hub, the background read of the session, and its `ReceiverClipboardState`, after
`apps/edge-receiver-linux/src/main.rs`. A read returns what was written last, and no content is a
phone's.
-/

namespace EdgeKvm.Clipboard

open EdgeKvm.Lib Handler Machine

/-- What does not change at the two ends. -/
structure DesktopHosts where
  codecs : Codecs
  config : Side → ClipboardConfig
  fitsSecureFrame : Side → ClipboardEvent → Bool

def DesktopHosts.host (hosts : DesktopHosts) (n : Side) : ClipboardHost where
  codecs := hosts.codecs
  config := hosts.config n
  fitsSecureFrame := hosts.fitsSecureFrame n

/-! ## The background read -/

/-- A task of `BackgroundClipboardRead`, with the generation it was started in and what it has
    read. -/
structure ReadTask where
  generation : UInt64
  result : Option (Option ClipboardItem) := none
  deriving DecidableEq, Repr

/-- `BackgroundClipboardRead`. -/
structure BackgroundClipboardRead where
  task : Option ReadTask := none
  rerun : Bool := false
  deriving DecidableEq, Repr

namespace BackgroundClipboardRead

/-- `BackgroundClipboardRead::request`. -/
def request (reader : BackgroundClipboardRead) (generation : UInt64) : BackgroundClipboardRead :=
  if reader.task.isSome then { reader with rerun := true }
  else { reader with task := some { generation } }

/-- `accept_background_clipboard_read`, once the task is taken: whether the result is current, and
    the reader. -/
def accept (reader : BackgroundClipboardRead) (currentGeneration readGeneration : UInt64) :
    Bool × BackgroundClipboardRead :=
  let stale : Bool := readGeneration ≠ currentGeneration
  let taken : BackgroundClipboardRead := { reader with rerun := false }
  (!stale, if reader.rerun || stale then taken.request currentGeneration else taken)

end BackgroundClipboardRead

/-! ## A desktop -/

/-- One PC: its session, its clipboard, whether the hub has announced a change that the session
    has not taken yet, and the background read. -/
structure Desktop where
  state : ReceiverClipboardState
  clipboard : Option ClipboardItem := none
  notified : Bool := false
  reader : BackgroundClipboardRead := {}
  deriving DecidableEq, Repr

namespace Desktop

/-- What a call finds. -/
def system (d : Desktop) (now : Nat) : ClipboardSystem where
  current := .ok d.clipboard
  currentText := .ok (match d.clipboard with
    | some (.text text) => some text
    | _ => none)
  now := now

/-- The items that a call writes to the clipboard. -/
def written (output : List ClipboardOutput) : List ClipboardItem :=
  output.filterMap fun
    | .writeText text => some (.text text)
    | .writeImage image => some (.image image)
    | _ => none

/-- The desktop after a call; the hub announces what it writes, too. -/
def after (d : Desktop) (turn : Turn ReceiverClipboardState ClipboardOutput String Bool) :
    Desktop :=
  { d with
    state := turn.state
    clipboard := (written turn.output).getLast?.or d.clipboard
    notified := d.notified || !(written turn.output).isEmpty }

end Desktop

/-- What happens at one end: the user copies an item; the session takes a notification of the hub;
    the background task reads the clipboard, and its result is handled; the oldest frame is
    handled; the next frame of the outgoing transfer is sent; the heartbeat looks at the incoming
    transfer. -/
inductive DesktopAction where
  | copy (item : ClipboardItem)
  | changed
  | readTakes
  | readFinished
  | deliver (now : Nat)
  | sendNext
  | expire (now : Nat)
  deriving DecidableEq, Repr

/-- Both ends, and the frames on their way to each, oldest first. -/
structure Desktops where
  desktop : Side → Desktop
  link : Side → List ClipboardEvent := fun _ => []

namespace Desktops

variable (hosts : DesktopHosts)

/-- The desktop at one end is replaced. -/
def set (w : Desktops) (n : Side) (d : Desktop) : Desktops :=
  { w with desktop := Function.update w.desktop n d }

/-- A call of one end, `d`, whose frames go to the other. -/
def call (w : Desktops) (n : Side) (d : Desktop) (body : ClipboardM Bool) : Desktops :=
  let turn := body d.state
  { desktop := Function.update w.desktop n (d.after turn)
    link := Function.update w.link n.other (w.link n.other ++ sent turn.output) }

def exec (w : Desktops) (n : Side) : DesktopAction → Option Desktops
  | .copy item => some (w.set n { w.desktop n with clipboard := some item, notified := true })
  | .changed =>
    let d := w.desktop n
    if d.notified then
      some (w.set n
        { d with notified := false, reader := d.reader.request d.state.applyGeneration })
    else none
  | .readTakes =>
    let d := w.desktop n
    match d.reader.task with
    | some ⟨generation, none⟩ =>
      some (w.set n { d with reader.task := some ⟨generation, some d.clipboard⟩ })
    | _ => none
  | .readFinished =>
    let d := w.desktop n
    match d.reader.task with
    | some ⟨generation, some current⟩ =>
      let (accepted, reader) :=
        ({ d.reader with task := none } : BackgroundClipboardRead).accept d.state.applyGeneration
          generation
      let d := { d with reader }
      some (if accepted then
        w.call n d (ReceiverClipboardState.offerItem (hosts.host n) (d.system 0) current false)
      else w.set n d)
    | _ => none
  | .deliver now =>
    match w.link n with
    | event :: rest =>
      let d := w.desktop n
      some (call { w with link := Function.update w.link n rest } n d
        (ReceiverClipboardState.handleEvent (hosts.host n) (d.system now) event))
    | [] => none
  | .sendNext => some (w.call n (w.desktop n) ReceiverClipboardState.sendNextImageFrame)
  | .expire now => some (w.call n (w.desktop n)
      (ReceiverClipboardState.expireIncoming ((w.desktop n).system now)))

def machine : Machine Desktops (Side × DesktopAction) where
  exec w action := w.exec hosts action.1 action.2

/-- A new session at both ends, which have observed what is on their clipboards, and support text
    and images. -/
structure Started (w : Desktops) : Prop where
  tracker : ∀ n, (w.desktop n).state.tracker.lastObserved =
    (w.desktop n).clipboard.map (·.id hosts.codecs)
  outgoing : ∀ n, (w.desktop n).state.outgoing = none
  incoming : ∀ n, (w.desktop n).state.incoming = {}
  images : ∀ n, (w.desktop n).state.peer.images = true
  textChunks : ∀ n, (w.desktop n).state.peer.textChunks = true
  imagesEnabled : ∀ n, (hosts.config n).imagesEnabled = true
  reader : ∀ n, (w.desktop n).reader = {}
  notified : ∀ n, (w.desktop n).notified = false
  link : ∀ n, w.link n = []

/-- No frame is on its way, no transfer is under way, and no notification or read is left. -/
def Settled (w : Desktops) : Prop :=
  ∀ n, w.link n = [] ∧ (w.desktop n).state.outgoing = none ∧
    (w.desktop n).state.incoming.active = none ∧ (w.desktop n).notified = false ∧
    (w.desktop n).reader.task = none

/-- Once nothing is left to be done, the clipboards hold the same content. -/
def Converges (w : Desktops) : Prop :=
  w.Settled → ∀ n m, (w.desktop n).clipboard.map (·.id hosts.codecs) =
    (w.desktop m).clipboard.map (·.id hosts.codecs)

end Desktops

/-! ## What a stream of frames brings -/

/-- The transfer without the times of its frames. -/
def IncomingClipboardTransfer.timeless (t : IncomingClipboardTransfer) :
    IncomingClipboardTransfer :=
  { active := t.active.map fun state => { state with lastProgress := 0 } }

namespace ClipboardHost

variable (host : ClipboardHost)

/-- The item that a frame completes, if it does, and the incoming transfer behind it; `none` if the
    frame is refused. -/
def takes (incoming : IncomingClipboardTransfer) :
    ClipboardEvent → Option (Option ClipboardItem × IncomingClipboardTransfer)
  | .textOffer _ text => some (some (.text text), incoming)
  | event =>
    match incoming.handle host.codecs event host.transferLimits 0 with
    | (.ok item, next) => some (item, next)
    | (.error _, _) => none

/-- The items that the frames bring, and the incoming transfer behind them. -/
def receive : IncomingClipboardTransfer → List ClipboardEvent →
    Option (List ClipboardItem × IncomingClipboardTransfer)
  | incoming, [] => some ([], incoming)
  | incoming, event :: events =>
    (host.takes incoming event).bind fun (item, next) =>
      (receive next events).map fun (items, last) => (item.toList ++ items, last)

end ClipboardHost

/-! ## Orderly runs -/

namespace Desktop

variable (hosts : DesktopHosts) (n : Side) (d : Desktop)

/-- The item that a frame completes. -/
def arrival (event : ClipboardEvent) : Option ClipboardItem :=
  ((hosts.host n).takes d.state.incoming.timeless event).bind (·.1)

/-- What `offer_item` offers of the content it is handed. -/
def offers (current : Option ClipboardItem) : Option ClipboardItem :=
  if d.state.tracker.isObserved (current.map (·.id hosts.codecs)) then none else current

/-- What the session offers of its own when a frame arrives: the content that it has not observed,
    if the frame brings another item. -/
def answers (event : ClipboardEvent) : Option ClipboardItem :=
  (d.arrival hosts n event).bind fun remote =>
    if d.clipboard.map (·.id hosts.codecs) = some (remote.id hosts.codecs) then none
    else d.offers hosts d.clipboard

/-- The item is a text that is offered in one frame. -/
def fitsFrame : ClipboardItem → Bool
  | .text text => hosts.fitsSecureFrame n
      (.textOffer (ClipboardChangeTracker.saturatingSucc d.state.tracker.sequence) text)
  | .image _ => false

/-- One frame is enough for the item, or the other end has room for it. -/
def Passes (item : ClipboardItem) : Prop :=
  d.fitsFrame hosts n item = true ∨
    item.Sendable hosts.codecs (hosts.host n.other).transferLimits

end Desktop

namespace Desktops

variable (hosts : DesktopHosts)

/-- The item that a step offers. -/
def offered (w : Desktops) (step : Side × DesktopAction) : Option ClipboardItem :=
  let d := w.desktop step.1
  match step.2 with
  | .readFinished =>
    match d.reader.task with
    | some ⟨generation, some current⟩ =>
      if generation = d.state.applyGeneration then d.offers hosts current else none
    | _ => none
  | .deliver _ => (w.link step.1).head?.bind fun event => d.answers hosts step.1 event
  | .copy _ | .changed | .readTakes | .sendNext | .expire _ => none

/-- Nothing is under way to the end of a step, apart from the frame that the step handles. -/
def idle (w : Desktops) (step : Side × DesktopAction) : Bool :=
  let waiting := match step.2 with
    | .deliver _ => (w.link step.1).tail
    | _ => w.link step.1
  waiting.isEmpty && (w.desktop step.1.other).state.outgoing.isNone

/-- A step that offers an item does so while nothing is under way to its end, and the item passes;
    no incoming transfer expires. -/
structure Orderly (w : Desktops) (step : Side × DesktopAction) : Prop where
  idle : ∀ item, w.offered hosts step = some item → w.idle step = true
  passes : ∀ item, w.offered hosts step = some item →
    (w.desktop step.1).Passes hosts step.1 item
  lasts : ∀ now, step.2 = .expire now →
    ((w.desktop step.1).state.incoming.expireTransferId now).1 = none

end Desktops

end EdgeKvm.Clipboard
