import EdgeKvm.Pairing.Pins
import EdgeKvm.Lib.Machine
import EdgeKvm.Lib.Sides
import Mathlib.Logic.Function.Basic
import Mathlib.Data.List.Infix
import Mathlib.Data.String.Basic

/-!
# Two nodes that dial each other

The connections of `run_node` in `apps/edge-receiver-linux/src/main.rs`: every node accepts and
dials, so that two of them can have two connections on their way at once. Which one a node
keeps is decided at each of the places where its loop takes an `AcceptEvent::Peer`.
-/

namespace EdgeKvm.Dialling

open EdgeKvm.Lib
open EdgeKvm.Pairing (PinStore)

/-- A connection: who dialled it, and which of that computer's dials it is. -/
structure Connection where
  dialer : Side
  number : Nat
  deriving DecidableEq, Repr

/-- What `run_node` reads of the identity, the config and the pins. -/
structure Computer where
  fingerprint : String
  deviceName : String
  pins : PinStore
  /-- `config.peer.pinned_fingerprint`. -/
  pinnedFingerprint : String := ""

/-- `DUPLICATE_SESSION`. -/
def duplicateSession : String := "duplicate_session"

/-- `keep_own_dial`. -/
def keepOwnDial (localFingerprint peerFingerprint : String) : Bool :=
  localFingerprint < peerFingerprint

/-- `paired_computer_keys(..).is_empty()`. -/
def Computer.unpaired (computer : Computer) : Bool :=
  !(computer.pins.peers.anyValue fun _ => true) && computer.pinnedFingerprint = ""

/-- `locally_trusted` of `connect_linux_peer`. -/
def Computer.locallyTrusted (computer : Computer) (fingerprint : String) : Bool :=
  computer.pins.isPcKey fingerprint || computer.pinnedFingerprint = fingerprint

/-- `is_connected_peer`. -/
def isConnectedPeer (connectedName connectedFingerprint name fingerprint : String) : Bool :=
  name = connectedName && fingerprint = connectedFingerprint

/-- `DialFailure`. -/
inductive DialFailure where
  | unreachable
  | duplicate
  | upgradeRequired
  | other
  deriving DecidableEq, Repr

/-- `dial_failure`. -/
def dialFailure (message : String) : DialFailure :=
  if "Upgrade the other computer".toList <:+: message.toList then .upgradeRequired
  else if duplicateSession.toList <:+: message.toList then .duplicate
  else if "failed to connect to".toList <+: message.toList ∨
      "connection to ".toList <+: message.toList then .unreachable
  else .other

/-- The error `connect_linux_peer` makes of an error frame. -/
def peerError (code message : String) : String := "peer error: " ++ code ++ ": " ++ message

/-- The message with `DUPLICATE_SESSION`. -/
def duplicateMessage : String := "both computers connected at once; keeping the other connection"

/-- Being turned away as a duplicate does not stop a node from dialling again. -/
theorem dialFailure_duplicate :
    dialFailure (peerError duplicateSession duplicateMessage) = .duplicate := by decide +kernel

/-! ## The state -/

/-- Where `run_node` stands in its loop: in its `select!`, with or without a dial; between an
    accepted hello and the session; in the session of its own dial; in the session of an accepted
    connection. -/
inductive Phase where
  | waiting (dialing : Option Connection)
  | setup (incoming : Connection)
  | dialled (own : Connection)
  | accepted (incoming : Connection)
  deriving DecidableEq, Repr

namespace Phase

/-- The node's own dial, in progress or connected. -/
def own : Phase → Option Connection
  | waiting dialing => dialing
  | dialled c => some c
  | _ => none

/-- The connection the node has accepted. -/
def incoming : Phase → Option Connection
  | setup c => some c
  | accepted c => some c
  | _ => none

/-- The connection the node is in a session on. -/
def session : Phase → Option Connection
  | dialled c => some c
  | accepted c => some c
  | _ => none

end Phase

/-- The variables of `run_node`'s loop; `dials` counts the dials. -/
structure Node where
  phase : Phase := .waiting none
  replacement : Option Connection := none
  connectionEnabled : Bool := true
  dialBlocked : Bool := false
  dials : Nat := 0

/-- How far a connection has come: its hello waits at the acceptor, it is a `replacement`, it was
    answered with an error frame, with a hello and the pairing status, the dialling side sent its
    status, the accepting side started the session. -/
inductive Stage where
  | unused
  | offered
  | held
  | refused (code message : String)
  | answered
  | confirmed
  | ready
  deriving DecidableEq, Repr

namespace Stage

/-- The accepting side has answered the hello with its own. -/
def isTaken : Stage → Bool
  | answered => true
  | confirmed => true
  | ready => true
  | _ => false

/-- Both hellos and the dialling side's pairing status are sent. -/
def isConfirmed : Stage → Bool
  | confirmed => true
  | ready => true
  | _ => false

theorem isTaken_of_isConfirmed {stage : Stage} (confirmed : stage.isConfirmed = true) :
    stage.isTaken = true := by
  cases stage <;> simp_all [isTaken, isConfirmed]

end Stage

/-- A connection, and which of its ends are closed. -/
structure Link where
  stage : Stage := .unused
  dialerClosed : Bool := false
  acceptorClosed : Bool := false

/-- Both nodes and every connection between them. `duplicates` records the connections that were
    given up because of `keep_own_dial`. -/
structure World where
  node : Side → Node := fun _ => {}
  link : Connection → Link := fun _ => {}
  duplicates : List Connection := []

namespace World

def update (w : World) (n : Side) (f : Node → Node) : World :=
  { w with node := Function.update w.node n (f (w.node n)) }

def enter (w : World) (n : Side) (phase : Phase) : World := w.update n ({ · with phase })

def setStage (w : World) (c : Connection) (stage : Stage) : World :=
  { w with link := Function.update w.link c { w.link c with stage } }

/-- The node drops its end. -/
def close (w : World) (n : Side) (c : Connection) : World :=
  { w with
    link := Function.update w.link c
      (if c.dialer = n then { w.link c with dialerClosed := true }
      else { w.link c with acceptorClosed := true }) }

def duplicate (w : World) (c : Connection) : World := { w with duplicates := c :: w.duplicates }

/-- `reject_peer`. -/
def rejectPeer (w : World) (n : Side) (c : Connection) (code message : String) : World :=
  (w.setStage c (.refused code message)).close n c

end World

/-! ## The loop -/

variable (computers : Side → Computer)

namespace World

/-- What follows the `select!` for a connection, as far as the node's hello and pairing status. -/
def accept (w : World) (n : Side) (c : Connection) : World :=
  if !(w.node n).connectionEnabled then
    (w.rejectPeer n c "receiver_disconnected"
      "the other computer is disconnected from its tray").enter n (.waiting none)
  else if (computers n).pins.isPhoneKey (computers c.dialer).fingerprint then
    (w.rejectPeer n c "key_is_phone"
      "this key is paired as a phone; it can't connect as a computer").enter n (.waiting none)
  else (w.setStage c .answered).enter n (.setup c)

/-- A peer to take over the session; the one that waited for it is dropped. -/
def replaceBy (w : World) (n : Side) (c : Connection) : World :=
  let w :=
    match (w.node n).replacement with
    | some waiting => w.close n waiting
    | none => w
  (w.setStage c .held).update n ({ · with replacement := some c })

/-- `AcceptEvent::Peer`. -/
def peer (w : World) (n : Side) (c : Connection) : Option World :=
  let localFingerprint := (computers n).fingerprint
  let hello := computers c.dialer
  match (w.node n).phase with
  | .waiting none => some (w.accept computers n c)
  | .waiting (some own) =>
    if keepOwnDial localFingerprint hello.fingerprint then
      some ((w.rejectPeer n c duplicateSession duplicateMessage).duplicate c)
    else some (((w.close n own).duplicate own).accept computers n c)
  | .setup _ => none
  | .dialled own =>
    let connected := computers own.dialer.other
    if hello.fingerprint = connected.fingerprint ∧
        !keepOwnDial localFingerprint connected.fingerprint then
      some ((w.replaceBy n c).duplicate own)
    else if hello.fingerprint = connected.fingerprint then
      some ((w.rejectPeer n c duplicateSession duplicateMessage).duplicate c)
    else
      some (w.rejectPeer n c "receiver_busy"
        "this computer is already connected to another computer")
  | .accepted incoming =>
    -- `peer_while_connected`
    let connected := computers incoming.dialer
    if isConnectedPeer connected.deviceName connected.fingerprint hello.deviceName
        hello.fingerprint then
      some (w.replaceBy n c)
    else
      some (w.rejectPeer n c "receiver_busy"
        "this receiver is already connected to another computer")

/-- The end of a session: the loop goes on with the `replacement`, if there is one. -/
def leave (w : World) (n : Side) : World :=
  match (w.node n).replacement with
  | some c => (w.update n ({ · with replacement := none })).accept computers n c
  | none => w.enter n (.waiting none)

/-- `may_dial`, outside of a dial. -/
def mayDial (w : World) (n : Side) : Bool :=
  (w.node n).connectionEnabled && !(w.node n).dialBlocked && !(computers n).unpaired

/-- The next dial of a node. -/
def nextDial (w : World) (n : Side) : Connection := ⟨n, (w.node n).dials⟩

/-- A new `DialAttempt`. -/
def dial (w : World) (n : Side) : World :=
  (w.setStage (w.nextDial n) .offered).update n fun node =>
    { node with phase := .waiting (some (w.nextDial n)), dials := node.dials + 1 }

/-- Neither side asks for a pairing: `controller_trusted && peer_trusted`. -/
def bothTrust (c : Connection) : Bool :=
  let dialer := computers c.dialer
  let acceptor := computers c.dialer.other
  (acceptor.pins.status dialer.deviceName dialer.fingerprint).isTrusted &&
    dialer.locallyTrusted acceptor.fingerprint

/-- What `finish_dial` fails with: the error frame, when there is one. -/
def dialError (w : World) (c : Connection) (error : String) : String :=
  match (w.link c).stage with
  | .refused code message => peerError code message
  | _ => error

end World

/-- What happens at one node. -/
inductive NodeAction where
  /-- The dial timer. -/
  | dialDue
  | peer (c : Connection)
  /-- The dialling side reads the other hello and sends its pairing status. -/
  | helloRead
  | dialFinished
  | dialFailed (error : String)
  /-- The accepting side reads the pairing status and starts the session. -/
  | setupFinished
  | setupFailed
  | sessionEnded
  /-- `TrayCommand::Disconnect` and `TrayCommand::Reconnect`. -/
  | disconnect
  | reconnect
  deriving DecidableEq, Repr

namespace World

/-- The user disconnects this node. -/
def disconnect (w : World) (n : Side) : Option World :=
  let off := fun w : World => w.update n ({ · with connectionEnabled := false })
  match (w.node n).phase with
  | .waiting none => some (off w)
  | .waiting (some own) => some (off ((w.close n own).enter n (.waiting none)))
  | .setup _ => none
  | .dialled own => some ((off (w.close n own)).leave computers n)
  | .accepted incoming =>
    let w :=
      match (w.node n).replacement with
      | some waiting => w.close n waiting
      | none => w
    some (off ((w.close n incoming).update n
      ({ · with phase := .waiting none, replacement := none })))

/-- The user reconnects this node, which a session takes for another command. -/
def reconnect (w : World) (n : Side) : Option World :=
  match (w.node n).phase with
  | .waiting _ => some (w.update n ({ · with connectionEnabled := true, dialBlocked := false }))
  | _ => none

def exec (w : World) (n : Side) : NodeAction → Option World
  | .dialDue =>
    match (w.node n).phase with
    | .waiting none => if w.mayDial computers n then some (w.dial n) else none
    | _ => none
  | .peer c =>
    if c.dialer = n.other ∧ (w.link c).stage = .offered then w.peer computers n c else none
  | .helloRead =>
    match (w.node n).phase with
    | .waiting (some own) =>
      if (w.link own).stage = .answered then some (w.setStage own .confirmed) else none
    | _ => none
  | .dialFinished =>
    match (w.node n).phase with
    | .waiting (some own) =>
      if (w.link own).stage = .ready then some (w.enter n (.dialled own)) else none
    | _ => none
  | .dialFailed error =>
    match (w.node n).phase with
    | .waiting (some own) =>
      let blocked := dialFailure (w.dialError own error) = .upgradeRequired
      some ((w.close n own).update n fun node =>
        { node with phase := .waiting none, dialBlocked := node.dialBlocked || blocked })
    | _ => none
  | .setupFinished =>
    match (w.node n).phase with
    | .setup c =>
      if (w.link c).stage = .confirmed ∧ bothTrust computers c then
        some ((w.setStage c .ready).enter n (.accepted c))
      else none
    | _ => none
  | .setupFailed =>
    match (w.node n).phase with
    | .setup c => some ((w.close n c).enter n (.waiting none))
    | _ => none
  | .sessionEnded =>
    match (w.node n).phase.session with
    | some c => some ((w.close n c).leave computers n)
    | none => none
  | .disconnect => w.disconnect computers n
  | .reconnect => w.reconnect n

/-- Either node takes its next turn. -/
def machine : Machine World (Side × NodeAction) where
  exec w action := w.exec computers action.1 action.2

end World

end EdgeKvm.Dialling
