import EdgeKvm.Session.ConnectorTurns
import EdgeKvm.Session.ListenerTurns
import EdgeKvm.Lib.Lockstep

/-!
# The two receivers

Both loops contain a receiver of input: what `Input` and `Control` frames do on the side that is
not the controller. `Connector.receive` and `Listener.receive` run these frames with the calls to
the injection backend as output, and `receive_alike_iff` says for which sequences of frames the
two cannot be told apart.
-/

namespace EdgeKvm.Session

open EdgeKvm.Lib Handler

/-- A call to the injection backend. -/
inductive BackendCall where
  | inject (event : InputEvent)
  | allKeysUp
  deriving DecidableEq, Repr

def BackendCall.injected? : BackendCall → Option InputEvent
  | .inject event => some event
  | .allKeysUp => none

/-- The frames that carry input or control. -/
def Frame.isReceived : Frame → Bool
  | .input _ _ | .control _ _ => true
  | _ => false

/-- The calls that the frame branch of the connector's loop makes on `Input` and `Control`. -/
def Connector.backendCalls (c : Connector) : Frame → List BackendCall
  | .input epoch event =>
    if epoch = c.roleEpoch && !c.localIsController && c.inputForwardingEnabled &&
        !c.sessionPaused then
      if event = .allKeysUp then [.allKeysUp]
      else if c.inputEpoch.acceptsInput then [.inject event]
      else []
    else []
  | .control epoch (.setInputForwarding enabled) =>
    if epoch = c.roleEpoch && !c.localIsController && !enabled then [.allKeysUp] else []
  | _ => []

/-- The calls that the frame branch of the listener's loop makes on `Input` and `Control`. -/
def Listener.backendCalls (l : Listener) : Frame → List BackendCall
  | .input epoch event =>
    if epoch = l.roleEpoch && !l.sessionPaused && !l.localIsController then
      if event = .allKeysUp then [.allKeysUp]
      else if l.inputForwardingEnabled && l.inputEpoch.acceptsInput then [.inject event]
      else []
    else []
  | .control epoch (.setInputForwarding enabled) =>
    if epoch = l.roleEpoch && l.setup.controllerSupportsInputToggle && !enabled then [.allKeysUp]
    else []
  | _ => []

/-- A frame as the receiver in the connector's loop takes it. -/
def Connector.receive (received : Platform × Frame) :
    Handler Connector BackendCall SessionExit Unit := fun c =>
  { Connector.handle received.1 (.frame received.2) c with output := c.backendCalls received.2 }

/-- A frame as the receiver in the listener's loop takes it. -/
def Listener.receive (received : Platform × Frame) :
    Handler Listener BackendCall SessionExit Unit := fun l =>
  { Listener.handle received.1 (.frame received.2) l with output := l.backendCalls received.2 }

/-- The variables that the receivers of both loops have. -/
structure Receiver where
  roleEpoch : Nat
  localIsController : Bool
  sessionPaused : Bool
  inputForwardingEnabled : Bool
  inputEpoch : InputEpochGate
  returnEdge : Option Edge
  deriving DecidableEq, Repr

def Connector.receiver (c : Connector) : Receiver :=
  { roleEpoch := c.roleEpoch, localIsController := c.localIsController
    sessionPaused := c.sessionPaused, inputForwardingEnabled := c.inputForwardingEnabled
    inputEpoch := c.inputEpoch, returnEdge := c.returnEdge }

def Listener.receiver (l : Listener) : Receiver :=
  { roleEpoch := l.roleEpoch, localIsController := l.localIsController
    sessionPaused := l.sessionPaused, inputForwardingEnabled := l.inputForwardingEnabled
    inputEpoch := l.inputEpoch, returnEdge := l.returnEdge }

/-- Two receivers in the same state. -/
def Alike (c : Connector) (l : Listener) : Prop :=
  c.receiver = l.receiver ∧ l.localIsController = false

/-- What the two loops show of their receivers: the gate, the forwarding and whether the return
    watcher is armed. -/
def ShownAlike (c : Connector) (l : Listener) : Prop :=
  c.inputEpoch = l.inputEpoch ∧ c.inputForwardingEnabled = l.inputForwardingEnabled ∧
    c.returnEdge.isSome = l.returnEdge.isSome

/-- The frames that the two receivers take differently: `AllKeysUp` while the forwarding is
    disabled; a leave, a release or the end of the forwarding while the return watcher is armed;
    and a forwarding that the listener passes over, unless it is enabled already. -/
def Listener.receivesApart (l : Listener) : Frame → Bool
  | .input epoch event =>
    epoch = l.roleEpoch && event = .allKeysUp && !l.sessionPaused && !l.inputForwardingEnabled
  | .control epoch event =>
    epoch = l.roleEpoch && match event with
      | .enterRemote _ _ => false
      | .leaveRemote _ _ | .releaseToLocal _ => l.returnEdge.isSome
      | .setInputForwarding enabled =>
        if l.setup.controllerSupportsInputToggle then !enabled && l.returnEdge.isSome
        else !(enabled && l.inputForwardingEnabled)
  | _ => false

/-- The result of a turn that makes these calls and gives up at the first that fails. -/
def called (p : Platform) : List BackendCall → Except SessionExit Unit
  | [] => .ok ()
  | .inject _ :: rest => match p.inject with
    | none => called p rest
    | some error => .error (.failed error)
  | .allKeysUp :: rest => match p.allKeysUp with
    | none => called p rest
    | some error => .error (.failed error)

namespace Connector

variable {c : Connector} {p : Platform}

/-- A receiving connector has no capture to arm again. -/
theorem wp_recoverLiveness {k : Unit → ConnectorM Unit}
    {Q : Except SessionExit Unit → Connector → List Effect → Prop}
    (receives : c.localIsController = false) :
    (recoverLiveness p >>= k).wp Q c ↔ (k ()).wp Q c := by
  have nothing : recoverLiveness p c = { result := .ok (), state := c } := by
    simp [recoverLiveness, mayCapture, receives, bind, Handler.read, pure]
  simp [Handler.wp, bind, nothing]

theorem receive_input (p : Platform) (epoch : Nat) (event : InputEvent)
    (receives : c.localIsController = false) :
    (onFrame p (.input epoch event)).wp (fun result c' out =>
      c'.receiver = c.receiver ∧
        result = called p (c.backendCalls (.input epoch event)) ∧
        injected out = (c.backendCalls (.input epoch event)).filterMap (·.injected?)) c := by
  refine (wp_recoverLiveness receives).mpr ?_
  simp only [onInput, backendCalls, wp_bind, wp_read]
  cases takes : epoch = c.roleEpoch && !c.localIsController && c.inputForwardingEnabled &&
    !c.sessionPaused with
  | false => simp [called]
  | true =>
    by_cases released : event = .allKeysUp
    · cases failed : p.allKeysUp <;> simp [released, failed, called, BackendCall.injected?]
    · cases accepts : c.inputEpoch.acceptsInput with
      | false => simp [released, called]
      | true => cases failed : p.inject <;> simp [released, failed, called, BackendCall.injected?]

theorem receive_control (p : Platform) (epoch : Nat) (event : ControlEvent)
    (receives : c.localIsController = false) :
    (onFrame p (.control epoch event)).wp (fun result c' out => result = .ok () ∧
      injected out = [] ∧ c'.receiver = if epoch = c.roleEpoch then
        match event with
        | .enterRemote edge _ =>
          { c.receiver with inputEpoch := { suspended := false }, returnEdge := some edge }
        | .setInputForwarding enabled =>
          { c.receiver with
            inputForwardingEnabled := enabled
            inputEpoch := if enabled then c.inputEpoch else c.inputEpoch.suspend }
        | .leaveRemote _ _ | .releaseToLocal _ => c.receiver
      else c.receiver) c := by
  refine (wp_recoverLiveness receives).mpr ?_
  simp only [onControl, onSetInputForwarding]
  by_cases current : epoch = c.roleEpoch
  · rcases event with _ | _ | _ | (_ | _) <;>
      simp [current, receives, receiver, InputEpochGate.observeControl]
  · simp [current]

end Connector

namespace Listener

variable {l : Listener} {p : Platform}

theorem receive_input (l : Listener) (p : Platform) (epoch : Nat) (event : InputEvent) :
    (onFrame p (.input epoch event)).wp (fun result l' out =>
      l'.receiver = l.receiver ∧
        result = called p (l.backendCalls (.input epoch event)) ∧
        injected out = (l.backendCalls (.input epoch event)).filterMap (·.injected?)) l := by
  simp only [onFrame, onInput, backendCalls, wp_bind, wp_read]
  cases takes : epoch = l.roleEpoch && !l.sessionPaused && !l.localIsController with
  | false => simp [called]
  | true =>
    by_cases released : event = .allKeysUp
    · cases failed : p.allKeysUp <;> simp [released, failed, called, BackendCall.injected?]
    · cases accepts : l.inputForwardingEnabled && l.inputEpoch.acceptsInput with
      | false => simp [released, called]
      | true => cases failed : p.inject <;> simp [released, failed, called, BackendCall.injected?]

theorem receive_control (p : Platform) (epoch : Nat) (event : ControlEvent)
    (receives : l.localIsController = false) :
    (onFrame p (.control epoch event)).wp (fun result l' out => result = .ok () ∧
      injected out = [] ∧ l'.receiver = if epoch = l.roleEpoch then
        match event with
        | .enterRemote edge _ =>
          { l.receiver with inputEpoch := { suspended := false }, returnEdge := some edge }
        | .setInputForwarding enabled =>
          if l.setup.controllerSupportsInputToggle then
            { l.receiver with
              inputForwardingEnabled := enabled
              inputEpoch := if enabled then l.inputEpoch else l.inputEpoch.suspend
              returnEdge := if enabled then l.returnEdge else none }
          else l.receiver
        | .leaveRemote _ _ | .releaseToLocal _ => { l.receiver with returnEdge := none }
      else l.receiver) l := by
  simp only [onFrame, onControl, onSetInputForwarding]
  by_cases current : epoch = l.roleEpoch
  · rcases event with _ | _ | _ | (_ | _) <;>
      cases toggles : l.setup.controllerSupportsInputToggle <;>
      simp [current, receives, receiver, toggles, recordControl, InputEpochGate.observeControl]
  · simp [current]

end Listener

/-! ## The receivers and the loops -/

section Loops

variable {c : Connector} {l : Listener} {p : Platform} {frame : Frame}

theorem Connector.receive_spec (receives : c.localIsController = false)
    (received : frame.isReceived = true) :
    (receive (p, frame) c).output = c.backendCalls frame ∧
      injected (handle p (.frame frame) c).output =
        (c.backendCalls frame).filterMap (·.injected?) := by
  refine ⟨rfl, ?_⟩
  cases frame with
  | input epoch event => exact (receive_input _ _ _ receives).2.2
  | control epoch event =>
    refine (receive_control _ _ _ receives).2.1.trans ?_
    cases event with
    | setInputForwarding enabled =>
      simp only [backendCalls]
      split <;> rfl
    | _ => rfl
  | _ => cases received

theorem Listener.receive_spec (receives : l.localIsController = false)
    (received : frame.isReceived = true) :
    (receive (p, frame) l).output = l.backendCalls frame ∧
      injected (handle p (.frame frame) l).output =
        (l.backendCalls frame).filterMap (·.injected?) := by
  refine ⟨rfl, ?_⟩
  cases frame with
  | input epoch event => exact (receive_input _ _ _ _).2.2
  | control epoch event =>
    refine (receive_control _ _ _ receives).2.1.trans ?_
    cases event with
    | setInputForwarding enabled =>
      simp only [backendCalls]
      split <;> rfl
    | _ => rfl
  | _ => cases received

end Loops

/-! ## The two receivers side by side -/

section Together

variable {c : Connector} {l : Listener} {a : Platform × Frame}

theorem Alike.shown (alike : Alike c l) : ShownAlike c l := by
  obtain ⟨same, -⟩ := alike
  simp only [Connector.receiver, Listener.receiver, Receiver.mk.injEq] at same
  obtain ⟨-, -, -, forwarding, gate, watcher⟩ := same
  exact ⟨gate, forwarding, congrArg _ watcher⟩

/-- The calls are the same unless the frame is taken apart. -/
theorem Alike.backendCalls_eq {frame : Frame} (alike : Alike c l)
    (together : l.receivesApart frame = false) : c.backendCalls frame = l.backendCalls frame := by
  obtain ⟨same, receives⟩ := alike
  simp only [Connector.receiver, Listener.receiver, Receiver.mk.injEq] at same
  obtain ⟨epoch, controls, paused, forwarding, gate, -⟩ := same
  cases frame with
  | input epoch' event =>
    have released : event = .allKeysUp → epoch' = l.roleEpoch → l.sessionPaused = false →
        l.inputForwardingEnabled = true := by
      rintro rfl
      simpa [Listener.receivesApart] using together
    simp only [Connector.backendCalls, Listener.backendCalls, epoch, controls, paused, forwarding,
      gate, receives]
    grind
  | control epoch' event =>
    cases event with
    | setInputForwarding enabled =>
      have toggles : epoch' = l.roleEpoch → enabled = false →
          l.setup.controllerSupportsInputToggle = true := by
        rintro rfl rfl
        exact (by simpa [Listener.receivesApart] using together :
          l.setup.controllerSupportsInputToggle = true ∧ l.returnEdge = none).1
      simp only [Connector.backendCalls, Listener.backendCalls, epoch, controls, receives]
      grind
    | _ => rfl
  | _ => rfl

/-- A frame that is not taken apart keeps the two receivers alike, with the same calls. -/
theorem Alike.step (received : a.2.isReceived = true) (alike : Alike c l)
    (together : l.receivesApart a.2 = false) :
    (Connector.receive a c).output = (Listener.receive a l).output ∧
      (Connector.receive a c).result = (Listener.receive a l).result ∧
      Alike (Connector.receive a c).state (Listener.receive a l).state := by
  obtain ⟨p, frame⟩ := a
  have calls := alike.backendCalls_eq together
  obtain ⟨same, receives⟩ := alike
  have connectorReceives : c.localIsController = false :=
    (congrArg Receiver.localIsController same).trans receives
  have kept : ∀ {c' : Connector} {l' : Listener}, c'.receiver = l'.receiver →
      c'.receiver.localIsController = false → Alike c' l' := fun same' receives' =>
    ⟨same', (congrArg Receiver.localIsController same').symm.trans receives'⟩
  cases frame with
  | input epoch event =>
    obtain ⟨connector, connectorResult, -⟩ :=
      Connector.receive_input p epoch event connectorReceives
    obtain ⟨listener, listenerResult, -⟩ :=
      Listener.receive_input l p epoch event
    refine ⟨calls, ?_, kept ?_ ?_⟩
    · exact connectorResult.trans ((congrArg _ calls).trans listenerResult.symm)
    · exact connector.trans (same.trans listener.symm)
    · exact (congrArg Receiver.localIsController connector).trans connectorReceives
  | control epoch event =>
    obtain ⟨connectorResult, -, connector⟩ :=
      Connector.receive_control p epoch event connectorReceives
    obtain ⟨listenerResult, -, listener⟩ :=
      Listener.receive_control p epoch event receives
    refine ⟨calls, connectorResult.trans listenerResult.symm, kept ?_ ?_⟩
    · refine connector.trans (Eq.trans ?_ listener.symm)
      rw [same, show c.roleEpoch = l.roleEpoch from congrArg Receiver.roleEpoch same,
        show c.inputEpoch = l.inputEpoch from congrArg Receiver.inputEpoch same]
      by_cases current : epoch = l.roleEpoch
      · simp only [Listener.receivesApart, current, decide_true, Bool.true_and] at together
        simp only [current, if_true]
        cases event with
        | enterRemote edge position => rfl
        | leaveRemote edge position | releaseToLocal reason =>
          have disarmed : l.returnEdge = none := by simpa using together
          simp [Listener.receiver, disarmed]
        | setInputForwarding enabled =>
          cases toggles : l.setup.controllerSupportsInputToggle <;> cases enabled <;>
            simp_all [Listener.receiver]
      · simp [current]
    · refine (congrArg Receiver.localIsController connector).trans ?_
      by_cases current : epoch = c.roleEpoch
      · cases event <;> simp [current, Connector.receiver, connectorReceives]
      · simp [current, Connector.receiver, connectorReceives]
  | _ => cases received

/-- A frame that is taken apart shows a difference. -/
theorem Alike.apart (alike : Alike c l) (differs : l.receivesApart a.2 = true) :
    ¬ ((Connector.receive a c).output = (Listener.receive a l).output ∧
      ShownAlike (Connector.receive a c).state (Listener.receive a l).state) := by
  obtain ⟨p, frame⟩ := a
  obtain ⟨same, receives⟩ := alike
  have connectorReceives : c.localIsController = false :=
    (congrArg Receiver.localIsController same).trans receives
  have epochs : c.roleEpoch = l.roleEpoch := congrArg Receiver.roleEpoch same
  have watchers : c.returnEdge = l.returnEdge := congrArg Receiver.returnEdge same
  have forwards : c.inputForwardingEnabled = l.inputForwardingEnabled :=
    congrArg Receiver.inputForwardingEnabled same
  rintro ⟨calls, -, forwarding, watcher⟩
  cases frame with
  | input epoch event =>
    simp only [Listener.receivesApart, Bool.and_eq_true, decide_eq_true_eq,
      Bool.not_eq_true'] at differs
    obtain ⟨⟨⟨rfl, rfl⟩, unpaused⟩, disabled⟩ := differs
    simp [Connector.receive, Listener.receive, Connector.backendCalls, Listener.backendCalls,
      epochs, forwards, unpaused, disabled, receives] at calls
  | control epoch event =>
    simp only [Listener.receivesApart, Bool.and_eq_true, decide_eq_true_eq] at differs
    obtain ⟨rfl, differs⟩ := differs
    obtain ⟨-, -, connector⟩ :=
      Connector.receive_control p l.roleEpoch event connectorReceives
    obtain ⟨-, -, listener⟩ :=
      Listener.receive_control p l.roleEpoch event receives
    simp only [epochs, if_true] at connector listener
    -- The watcher of the connector stays armed where the listener disarms its own.
    have disarms : (Connector.receive (p, .control l.roleEpoch event) c).state.returnEdge =
        c.returnEdge → (Listener.receive (p, .control l.roleEpoch event) l).state.returnEdge =
        none → l.returnEdge.isSome = true → False := by
      intro kept gone armed
      simp [kept, gone, watchers, armed] at watcher
    cases event with
    | enterRemote edge position => cases differs
    | leaveRemote edge position | releaseToLocal reason =>
      exact disarms (congrArg Receiver.returnEdge connector)
        (congrArg Receiver.returnEdge listener) differs
    | setInputForwarding enabled =>
      cases toggles : l.setup.controllerSupportsInputToggle with
      | true =>
        simp only [toggles, if_true, Bool.and_eq_true, Bool.not_eq_true'] at differs listener
        obtain ⟨rfl, armed⟩ := differs
        exact disarms (congrArg Receiver.returnEdge connector)
          (congrArg Receiver.returnEdge listener) armed
      | false =>
        simp only [toggles, Bool.false_eq_true, if_false] at differs listener
        cases enabled with
        | false =>
          simp [Connector.receive, Listener.receive, Connector.backendCalls,
            Listener.backendCalls, epochs, connectorReceives, toggles] at calls
        | true =>
          have changed := congrArg Receiver.inputForwardingEnabled connector
          have kept := congrArg Receiver.inputForwardingEnabled listener
          have enabled : true = l.inputForwardingEnabled :=
            changed.symm.trans (forwarding.trans kept)
          simp [← enabled] at differs
  | _ => cases differs

end Together

/-- Two receivers in the same state take every prefix of a sequence of `Input` and `Control`
    frames with the same calls to the backend, and show the same afterwards, exactly when no
    frame of the sequence is taken apart where it comes. -/
theorem receivers_alike_iff {c : Connector} {l : Listener} {frames : List (Platform × Frame)}
    (alike : Alike c l) (received : ∀ a ∈ frames, a.2.isReceived = true) :
    (∀ n, ShowAlike ShownAlike Connector.receive Listener.receive c l (frames.take n)) ↔
      allInputs (fun l a => !l.receivesApart a.2) Listener.receive l frames = true :=
  forM_alike_iff (fun _ _ alike => alike.shown)
    (fun _ _ _ received alike together => alike.step received (by simpa using together))
    (fun _ _ _ _ alike differs => alike.apart (by simpa using differs)) frames received alike

/-- A connector that receives. -/
def sampleReceivingConnector : Connector := { sampleConnector with localIsController := false }

/-- The pointer enters, moves and leaves no key pressed. -/
def sampleReceived : List (Platform × Frame) :=
  [({}, .control 1 (.enterRemote .left 0)), ({}, .input 1 (.pointerMotion 1 1)),
    ({}, .input 1 .allKeysUp), ({}, .control 1 (.setInputForwarding true))]

theorem receivers_alike_iff_sample :
    (∀ n, ShowAlike ShownAlike Connector.receive Listener.receive sampleReceivingConnector
      sampleListener (sampleReceived.take n)) ↔
      allInputs (fun l a => !l.receivesApart a.2) Listener.receive sampleListener
        sampleReceived = true :=
  receivers_alike_iff ⟨by decide +kernel, by decide +kernel⟩ (by decide +kernel)

/-- The peer disables the forwarding while the pointer is on this computer. -/
def sampleDisabled : List (Platform × Frame) :=
  [({}, .control 1 (.enterRemote .left 0)), ({}, .control 1 (.setInputForwarding false))]

/-- The return watcher of the connector stays armed. -/
theorem return_watcher_stays_armed :
    Alike sampleReceivingConnector sampleListener ∧
    (∀ a ∈ sampleDisabled, a.2.isReceived = true) ∧
    ¬ ShowAlike ShownAlike Connector.receive Listener.receive sampleReceivingConnector
      sampleListener sampleDisabled :=
  ⟨⟨by decide +kernel, by decide +kernel⟩, by decide +kernel,
    fun alike => absurd alike.2.2.2 (by decide +kernel)⟩

end EdgeKvm.Session
