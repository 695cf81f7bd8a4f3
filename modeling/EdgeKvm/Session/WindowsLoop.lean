import EdgeKvm.Clipboard.HeldInput
import EdgeKvm.Session.Commands

/-!
# The whole Windows loop

The branches of `WindowsConnector` and those of the clipboard of `LiveSession`, through which live
input passes. What `set_forwarding_enabled` was last called with and the frames written to the peer
are recorded beside it, each frame with the connector that wrote it.
-/

namespace EdgeKvm.Session

open EdgeKvm.Lib Handler Machine
open Clipboard (LiveSession LiveEvent LiveHost LiveClipboardState WindowsClipboard)

/-! ## The loop -/

/-- `frame_with_role_epoch` -/
def frameWithRoleEpoch (frame : Frame) (roleEpoch : Nat) : Frame :=
  match frame with
  | .input _ event => .input roleEpoch event
  | .control _ event => .control roleEpoch event
  | frame => frame

namespace Frame

/-- Input that the peer acts on: events other than `AllKeysUp`, and the pointer's entry. -/
def drives : Frame → Bool
  | .input _ event => event ≠ .allKeysUp
  | .control _ (.enterRemote _ _) => true
  | _ => false

section Drives

variable {e : Nat}

@[simp] theorem drives_allKeysUp : (input e .allKeysUp).drives = false := rfl

@[simp] theorem drives_role {event : RoleEvent} : (role event).drives = false := rfl

@[simp] theorem drives_audio {control : AudioControl} : (audio control).drives = false := rfl

@[simp] theorem drives_other : other.drives = false := rfl

@[simp] theorem drives_leaveRemote {edge : Edge} {position : UInt32} :
    (control e (.leaveRemote edge position)).drives = false := rfl

@[simp] theorem drives_setInputForwarding {enabled : Bool} :
    (control e (.setInputForwarding enabled)).drives = false := rfl

end Drives

/-- The epoch that a frame of input or control names. -/
def epoch : Frame → Option Nat
  | .input epoch _ | .control epoch _ => some epoch
  | _ => none

end Frame

namespace WindowsConnector

/-- Windows is the committed controller, input is forwarded, the session is not paused, and no
    handover is pending. -/
def mayDrive (w : WindowsConnector) : Bool :=
  w.coordinator.stable.controllerFingerprint = some w.setup.localFingerprint &&
    w.inputForwardingEnabled && !w.sessionPaused && !w.coordinator.isTransitioning

/-- The frame may be written: it drives nothing, or Windows may drive, in this epoch. -/
def permits (w : WindowsConnector) (frame : Frame) : Bool :=
  !frame.drives || (w.mayDrive && frame.epoch = some w.coordinator.stable.roleEpoch)

/-- The frames among the effects. -/
def sentFrames (output : List WindowsEffect) : List Frame :=
  output.filterMap fun
    | .send frame => some frame
    | _ => none

/-- What `set_forwarding_enabled` was last called with. -/
def captures (before : Bool) : List WindowsEffect → Bool
  | [] => before
  | .setForwardingEnabled enabled :: output => captures enabled output
  | _ :: output => captures before output

end WindowsConnector

/-- The branches of the loop: those of the connector, the live input, and those of the
    clipboard. -/
inductive WindowsLoopEvent where
  | session (platform : WindowsPlatform) (event : WindowsSessionEvent)
  | input (frame : Frame) (system : WindowsClipboard)
  | clipboard (event : LiveEvent)

/-- A branch of the clipboard, none of those that the loop has of its own. -/
def ofClipboard : LiveEvent → Bool
  | .input _ _ | .pause _ => false
  | _ => true

/-- The variables of the loop; `capture` is what `set_forwarding_enabled` was last called with. -/
structure WindowsLoop where
  connector : WindowsConnector
  live : LiveSession
  capture : Bool
  written : List (Frame × WindowsConnector) := []

namespace WindowsLoop

variable (host : LiveHost) (w : WindowsLoop)

/-- The live frames that a branch of the clipboard writes. -/
def liveWrites (event : LiveEvent) : List Frame :=
  (Clipboard.liveFrames (Clipboard.writes
    (w.live.turn host event w.live.clipboard).output)).map (·.frame)

/-- A branch of the clipboard. -/
def passOn (event : LiveEvent) : Option WindowsLoop :=
  ((LiveSession.loop host).exec w.live event).map fun live =>
    { w with
      live
      written := w.written ++ (w.liveWrites host event).map fun frame => (frame, w.connector) }

def exec : WindowsLoopEvent → Option WindowsLoop
  | .session platform event =>
    let turn := WindowsConnector.handle platform event w.connector
    match turn.result with
    | .ok _ => some
      { connector := turn.state
        live := { w.live with paused := turn.state.sessionPaused }
        capture := WindowsConnector.captures w.capture turn.output
        written := w.written ++ (WindowsConnector.sentFrames turn.output).map fun frame =>
          (frame, w.connector) }
    | .error _ => none
  | .input frame system =>
    if w.connector.mayCapture then
      w.passOn host (.input (frameWithRoleEpoch frame w.connector.roleEpoch) system)
    else some w
  | .clipboard event => if ofClipboard event then w.passOn host event else none

def machine : Machine WindowsLoop WindowsLoopEvent where
  exec w event := w.exec host event

/-- A loop that starts: the capture was set as the connector says. -/
structure Started : Prop where
  connector : w.connector.Started
  live : w.live.Started
  paused : w.live.paused = w.connector.sessionPaused
  capture : w.capture = w.connector.mayCapture
  written : w.written = []

/-- The capture is on, and live input was written, for the active controller only. -/
structure Forwards : Prop where
  capture : w.capture = true → w.connector.mayDrive = true
  written : ∀ entry ∈ w.written, entry.2.permits entry.1 = true

end WindowsLoop

/-! ## Where the guards are missing -/

namespace WindowsConnector

/-- Both ways of switching forwarding on do not look at the pending handover. -/
def switchesOn (w : WindowsConnector) : WindowsSessionEvent → Bool
  | .trayTick =>
    w.nextOutcome = .inputForwardingChanged true && w.coordinator.isTransitioning &&
      w.localIsController && !w.sessionPaused
  | .frame (.control epoch (.setInputForwarding true)) =>
    epoch = w.roleEpoch && w.setup.peerSupportsInputToggle && w.coordinator.isTransitioning &&
      w.localIsController && !w.sessionPaused
  | _ => false

end WindowsConnector

/-- The next frame of the outgoing transfer is its end. -/
def sendsEnd (s : LiveClipboardState) : Bool :=
  s.outgoing.any fun transfer => transfer.nextEvent.1.any LiveClipboardState.completes

/-- The event releases the held input. -/
def releases (s : LiveSession) : LiveEvent → Bool
  | .sendTick now => !s.paused && s.clipboard.needsSendTick &&
      (s.clipboard.pasteBarrierExpired now || sendsEnd s.clipboard)
  | .sendChunk => !s.paused && sendsEnd s.clipboard
  | .peer event _ => !s.paused && s.config.enabled && s.clipboard.cancelsOutgoing event
  | _ => false

/-- `prepare_input` lets the frame through. -/
def passes (host : LiveHost) (s : LiveSession) (frame : Frame) (system : WindowsClipboard) :
    Bool :=
  match (LiveClipboardState.prepareInput host s.config system (s.nextFrame frame)
      s.clipboard).result with
  | .ok frames => frames.contains (.live (s.nextFrame frame))
  | .error _ => false

namespace WindowsLoop

/-- The event switches the capture on in a handover, forwards input in a handover, or releases
    held input that may not be written any more. -/
def strays (host : LiveHost) (w : WindowsLoop) : WindowsLoopEvent → Bool
  | .session _ event => w.connector.switchesOn event
  | .input frame system => w.connector.mayCapture && w.connector.coordinator.isTransitioning &&
      frame.drives && passes host w.live (frameWithRoleEpoch frame w.connector.roleEpoch) system
  | .clipboard event => releases w.live event &&
      w.live.clipboard.heldInput.any fun held => !w.connector.permits held.frame

end WindowsLoop

end EdgeKvm.Session
