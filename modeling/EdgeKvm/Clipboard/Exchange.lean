import EdgeKvm.Clipboard.Turns
import EdgeKvm.Lib.Sides
import Mathlib.Logic.Function.Basic

/-!
# Two clipboards over a link

Two peers that run `ReceiverClipboardState`, and the frames between them. A transfer is named by
the side that sends it and its place among that side's transfers. Which transfer a frame is about,
and how transfers end, is recorded beside the states; the code knows transfers by their ids only.
-/

namespace EdgeKvm.Clipboard

open EdgeKvm.Lib Handler Machine

/-- One of the transfers of a side. -/
structure Name where
  owner : Side
  number : Nat
  deriving DecidableEq, Repr

/-- A frame on its way, and the transfer it is about. -/
structure Tagged where
  event : ClipboardEvent
  about : Option Name
  deriving DecidableEq, Repr

/-- A peer; `started` counts its transfers, the outgoing one is the last of them, and `taking` is
    the transfer it takes in. -/
structure ExchangePeer where
  state : ReceiverClipboardState
  started : Nat := 0
  taking : Option Name := none
  deriving DecidableEq, Repr

/-- How an outgoing transfer came to its end. -/
inductive Cause where
  | completed
  /-- `cancel_outgoing` -/
  | replaced
  /-- A cancel of the peer, with the transfer it is about. -/
  | cancelled (named : Option Name)
  | lost
  deriving DecidableEq, Repr

/-- An outgoing transfer came to its end, or a cancel ended an incoming one. -/
inductive Ending where
  | outgoing (ended : Name) (cause : Cause)
  | incoming (side : Side) (ended named : Option Name)
  deriving DecidableEq, Repr

/-- A cancel has ended the transfer it is about: an incoming copy of one of the peer's, or the
    outgoing transfer, if the peer has rejected it. No outgoing transfer ends otherwise, except
    completed or replaced. -/
def Ending.Proper (rejected : List Name) : Ending → Prop
  | .outgoing ended (.cancelled named) => named = some ended ∧ ended ∈ rejected
  | .outgoing _ cause => cause ≠ .lost
  | .incoming side ended named => ∃ name, ended = some name ∧ named = some name ∧
      name.owner = side.other

/-- Both peers and the frames on their way to each side, oldest first. `rejected` records the
    transfers that were answered with a cancel. -/
structure Exchange where
  peer : Side → ExchangePeer
  link : Side → List Tagged := fun _ => []
  endings : List Ending := []
  rejected : List Name := []

/-- The frames among the outputs. -/
def sent (outputs : List ClipboardOutput) : List ClipboardEvent :=
  outputs.filterMap fun
    | .send event => some event
    | _ => none

namespace ExchangePeer

variable (n : Side) (p : ExchangePeer) (handled : Option Tagged)

/-- What a frame that the peer sends is about: a cancel that replaces and the frames of a transfer
    are about the own one, any other cancel about the transfer of the frame it answers, or the
    one that expired. -/
def about (event : ClipboardEvent) : Option Name :=
  match event with
  | .imageCancel _ .replaced => some ⟨n, p.started⟩
  | .imageCancel _ _ =>
    match handled with
    | some frame => frame.about
    | none => p.taking
  | event => if event.transferId.isSome then some ⟨n, p.started⟩ else none

/-- The cause of the end of the outgoing transfer. -/
def cause (out : List ClipboardOutput) : Cause :=
  if handled.any (·.event.isCancel) then .cancelled (handled.bind (·.about))
  else if p.state.outgoing.any (·.isDone) || (sent out).any (·.isEnd) then .completed
  else if (sent out).any fun event => event.isCancel && !event.isRejection then .replaced
  else .lost

/-- The transfers that come to an end. -/
def endings (t : ReceiverClipboardState) (out : List ClipboardOutput) : List Ending :=
  (if p.state.outgoing.isSome &&
      !(t.outgoing.isSome && t.nextTransferId = p.state.nextTransferId) then
    [.outgoing ⟨n, p.started⟩ (p.cause handled out)]
  else []) ++
  if handled.any (·.event.isCancel) && p.state.incoming.active.isSome &&
      t.incoming.active.isNone then
    [.incoming n p.taking (handled.bind (·.about))]
  else []

/-- The transfer that is taken in after a turn. -/
def takes (host : ClipboardHost) (t : ReceiverClipboardState) : Option Name :=
  if t.incoming.active.isNone then none
  else
    match handled with
    | some frame =>
      if frame.event.isStart && p.state.supports host frame.event then frame.about else p.taking
    | none => p.taking

/-- The peer after a turn. -/
def after (host : ClipboardHost) (t : ReceiverClipboardState) : ExchangePeer where
  state := t
  started := if t.nextTransferId = p.state.nextTransferId then p.started else p.started + 1
  taking := p.takes handled host t

end ExchangePeer

/-- What happens at one peer: the session passes the oldest frame on, or drops it while it is
    paused; a background read is offered; the next frame of the outgoing transfer is sent; the
    heartbeat looks at the incoming transfer. -/
inductive ExchangeAction where
  | deliver (system : ClipboardSystem)
  | ignore
  | offer (system : ClipboardSystem) (current : Option ClipboardItem)
  | sendNext
  | expire (system : ClipboardSystem)

namespace Exchange

variable (host : ClipboardHost)

/-- A turn of one peer. -/
def turn (w : Exchange) (n : Side) (handled : Option Tagged) (call : ClipboardM Bool) :
    Exchange :=
  let p := w.peer n
  let turn := call p.state
  let events := sent turn.output
  { peer := Function.update w.peer n (p.after handled host turn.state)
    link := Function.update w.link n.other
      (w.link n.other ++ events.map fun event => ⟨event, p.about n handled event⟩)
    endings := w.endings ++ p.endings n handled turn.state turn.output
    rejected := w.rejected ++
      (events.filter (·.isRejection)).filterMap fun event => p.about n handled event }

/-- The link without its oldest frame. -/
def pop (w : Exchange) (n : Side) (rest : List Tagged) : Exchange :=
  { w with link := Function.update w.link n rest }

def exec (w : Exchange) (n : Side) : ExchangeAction → Option Exchange
  | .deliver system =>
    match w.link n with
    | frame :: rest =>
      some ((w.pop n rest).turn host n (some frame)
        (ReceiverClipboardState.handleEvent host system frame.event))
    | [] => none
  | .ignore =>
    match w.link n with
    | _ :: rest => some (w.pop n rest)
    | [] => none
  | .offer system current =>
    some (w.turn host n none (ReceiverClipboardState.offerItem host system current false))
  | .sendNext => some (w.turn host n none ReceiverClipboardState.sendNextImageFrame)
  | .expire system => some (w.turn host n none (ReceiverClipboardState.expireIncoming system))

def machine : Machine Exchange (Side × ExchangeAction) where
  exec w action := w.exec host action.1 action.2

/-- Two sessions that have not transferred anything. -/
structure Initial (w : Exchange) : Prop where
  outgoing : ∀ n, (w.peer n).state.outgoing = none
  incoming : ∀ n, (w.peer n).state.incoming.active = none
  nextTransferId : ∀ n, (w.peer n).state.nextTransferId = 0
  started : ∀ n, (w.peer n).started = 0
  link : ∀ n, w.link n = []
  endings : w.endings = []

end Exchange

end EdgeKvm.Clipboard
