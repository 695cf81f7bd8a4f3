import EdgeKvm.Lib.Machine
import Mathlib.Data.List.Basic

/-!
# Pairing over one connection

The two halves of the pairing exchange: `connect_linux_peer` dials, `run_node` accepts. Each
writes its `Hello` and its `Status`, and where the two do not trust each other yet, asks its user
and exchanges `Decision`s. A side may fail at any point; what it wrote before may still arrive.
-/

namespace EdgeKvm.Pairing

open EdgeKvm.Lib Machine

/-- `PairingStatus` of `edge-runtime`. -/
structure PairingStatus where
  trusted : Bool
  armed : Bool
  deriving DecidableEq, Repr

/-- `PairingResolution`. -/
inductive PairingResolution where
  | alreadyTrusted
  | approvalRequired
  | notArmed
  | declined
  | accepted
  deriving DecidableEq, Repr

/-- `resolve_pairing`. -/
def resolvePairing (local' peer : PairingStatus) (decisions : Option (Bool × Bool)) :
    PairingResolution :=
  if local'.trusted && peer.trusted then
    .alreadyTrusted
  else if !local'.armed || !peer.armed then
    .notArmed
  else
    match decisions with
    | none => .approvalRequired
    | some (true, true) => .accepted
    | some _ => .declined

/-- The statuses of both sides, as either half compares them. -/
theorem resolvePairing_status (status : PairingStatus) (trusted armed : Bool) :
    resolvePairing status ⟨trusted, armed⟩ none =
      if !status.trusted || !trusted then
        if !status.armed || !armed then .notArmed else .approvalRequired
      else .alreadyTrusted := by
  obtain ⟨ownTrusted, ownArmed⟩ := status
  cases ownTrusted <;> cases trusted <;> rfl

theorem resolvePairing_trusted {status peer : PairingStatus} {decisions : Option (Bool × Bool)} :
    resolvePairing status peer decisions = .alreadyTrusted ↔
      status.trusted = true ∧ peer.trusted = true := by
  unfold resolvePairing
  split
  · rename_i both
    simpa using both
  · rename_i untrusted
    simp only [Bool.and_eq_true, not_and] at untrusted
    split
    · simpa using untrusted
    · split <;> simpa using untrusted

theorem resolvePairing_approval {status peer : PairingStatus} :
    resolvePairing status peer none = .approvalRequired ↔
      ¬ (status.trusted = true ∧ peer.trusted = true) ∧
        status.armed = true ∧ peer.armed = true := by
  obtain ⟨trusted, armed⟩ := status
  obtain ⟨peerTrusted, peerArmed⟩ := peer
  cases trusted <;> cases armed <;> cases peerTrusted <;> cases peerArmed <;> decide

theorem resolvePairing_accepted {status peer : PairingStatus}
    (required : resolvePairing status peer none = .approvalRequired) :
    resolvePairing status peer (some (true, true)) = .accepted := by
  obtain ⟨untrusted, armed⟩ := resolvePairing_approval.mp required
  simp [resolvePairing, armed, untrusted]

/-- The frames of a connection up to its session. A `Hello` says whether its sender has
    `PAIRING_CONFIRMATION_EXTENSION`; `setup` stands for the first frames behind the pairing. -/
inductive PairingFrame where
  | hello (confirmation : Bool)
  | status (trusted armed : Bool)
  | decision (accepted : Bool)
  | error (code : String)
  | setup
  deriving DecidableEq, Repr

/-- Where a side is: before the `Hello`s, waiting for a frame of the peer, waiting for its user,
    through with the pairing, in the session, or done. -/
inductive Stage where
  | connected
  | hello
  | status
  | approval
  | decision
  | setup (newlyPaired : Bool)
  | session
  | ended
  deriving DecidableEq, Repr

/-- One side of the connection. `decision` is what its user chose, and `pinned` says that it
    pinned the key of the peer on this connection. -/
structure Side where
  status : PairingStatus
  stage : Stage := .connected
  decision : Option Bool := none
  pinned : Bool := false
  deriving DecidableEq, Repr

/-- What happens to a side. `enter` comes with the outcome of `pins.save`. -/
inductive Turn where
  | start
  | read (frame : PairingFrame)
  | decide (accepted : Bool)
  | enter (saved : Bool)
  | fail
  deriving DecidableEq, Repr

namespace Side

def ended (side : Side) : Side := { side with stage := .ended }

/-- The user answers `run_pairing_confirmation`, and the answer is sent. -/
def decide (side : Side) (accepted : Bool) : Option (Side × List PairingFrame) :=
  if side.stage = .approval then
    some ({ side with
      decision := some accepted, stage := if accepted then .decision else .ended },
      [.decision accepted])
  else none

/-- The pairing is through: a key that was paired just now is pinned and the pins are saved, and
    an error of that is one of `run_node`. -/
def enter (side : Side) (saved : Bool) : Option (Side × List PairingFrame) :=
  match side.stage with
  | .setup true =>
    some ({ side with pinned := true, stage := if saved then .session else .ended }, [])
  | .setup false => some ({ side with stage := .session }, [])
  | _ => none

/-- An error, a timeout, a lost connection, a closed window. -/
def fail (side : Side) : Option (Side × List PairingFrame) :=
  if side.stage = .ended then none else some (side.ended, [])

/-- `read_pairing_decision` and what follows it. -/
def readDecision (side : Side) : PairingFrame → Side × List PairingFrame
  | .decision true => ({ side with stage := .setup true }, [.setup])
  | _ => (side.ended, [])

/-- `connect_linux_peer`, up to the result of the dial in `run_node`. -/
def dial (side : Side) : Turn → Option (Side × List PairingFrame)
  | .start =>
    if side.stage = .connected then some ({ side with stage := .hello }, [.hello true]) else none
  | .read frame =>
    match side.stage, frame with
    | .hello, .hello true =>
      some ({ side with stage := .status }, [.status side.status.trusted side.status.armed])
    | .hello, .hello false =>
      if !side.status.trusted then some (side.ended, [])
      else some ({ side with stage := .setup false }, [.setup])
    | .hello, .error _ => some (side.ended, [])
    | .hello, _ => some (side, [])
    | .status, .status peerTrusted peerArmed =>
      if !side.status.trusted || !peerTrusted then
        if !side.status.armed || !peerArmed then some (side.ended, [.decision false])
        else some ({ side with stage := .approval }, [])
      else some ({ side with stage := .setup false }, [.setup])
    | .status, _ => some (side.ended, [])
    | .decision, frame => some (side.readDecision frame)
    | _, _ => none
  | .decide accepted => side.decide accepted
  | .enter saved => side.enter saved
  | .fail => side.fail

/-- The pairing of `run_node` with a computer that connected. -/
def accept (side : Side) : Turn → Option (Side × List PairingFrame)
  | .start => none
  | .read frame =>
    match side.stage, frame with
    | .connected, .hello true =>
      some ({ side with stage := .status },
        [.hello true, .status side.status.trusted side.status.armed])
    | .connected, .hello false =>
      if !side.status.trusted then
        some (side.ended, [.hello true, .error "pairing_update_required"])
      else some ({ side with stage := .setup false }, [.hello true, .setup])
    | .connected, _ => some (side.ended, [])
    | .status, .status peerTrusted peerArmed =>
      if !side.status.trusted || !peerTrusted then
        if !side.status.armed || !peerArmed then
          some (side.ended, [.error "pairing_not_armed"])
        else some ({ side with stage := .approval }, [])
      else some ({ side with stage := .setup false }, [.setup])
    | .status, _ => some (side.ended, [])
    | .decision, frame => some (side.readDecision frame)
    | _, _ => none
  | .decide accepted => side.decide accepted
  | .enter saved => side.enter saved
  | .fail => side.fail

end Side

/-- Both sides of a connection, and what is on its way. -/
structure Connection where
  dialer : Side
  accepter : Side
  toAccepter : List PairingFrame := []
  toDialer : List PairingFrame := []
  deriving DecidableEq, Repr

inductive PairingAction where
  | dialer (turn : Turn)
  | readDialer
  | accepter (turn : Turn)
  | readAccepter
  deriving DecidableEq, Repr

namespace Connection

def turnDialer (c : Connection) (turn : Turn) (toDialer : List PairingFrame) :
    Option Connection :=
  (c.dialer.dial turn).map fun moved =>
    { c with dialer := moved.1, toAccepter := c.toAccepter ++ moved.2, toDialer }

def turnAccepter (c : Connection) (turn : Turn) (toAccepter : List PairingFrame) :
    Option Connection :=
  (c.accepter.accept turn).map fun moved =>
    { c with accepter := moved.1, toDialer := c.toDialer ++ moved.2, toAccepter }

def exec (c : Connection) : PairingAction → Option Connection
  | .dialer (.read _) => none
  | .dialer turn => c.turnDialer turn c.toDialer
  | .readDialer =>
    match c.toDialer with
    | [] => none
    | frame :: toDialer => c.turnDialer (.read frame) toDialer
  | .accepter (.read _) => none
  | .accepter turn => c.turnAccepter turn c.toAccepter
  | .readAccepter =>
    match c.toAccepter with
    | [] => none
    | frame :: toAccepter => c.turnAccepter (.read frame) toAccepter

def machine : Machine Connection PairingAction := ⟨exec⟩

/-- A connection was just made. -/
def start (dialer accepter : PairingStatus) : Connection :=
  { dialer := { status := dialer }, accepter := { status := accepter } }

/-- What both users chose. -/
def decisions (c : Connection) : Option (Bool × Bool) :=
  match c.dialer.decision, c.accepter.decision with
  | some dialer, some accepter => some (dialer, accepter)
  | _, _ => none

end Connection

/-! ## What a side does -/

/-- A side that runs this code sends the frame at most as it is. -/
def PairingFrame.SentBy (side : Side) : PairingFrame → Prop
  | .hello confirmation => confirmation = true
  | .status trusted armed => side.status = ⟨trusted, armed⟩
  | .decision accepted => accepted = true → side.decision = some true
  | _ => True

/-- All either half does at a turn. -/
inductive Side.Moves (side : Side) : Turn → Side × List PairingFrame → Prop
  | greets (before : side.stage = .connected) :
      Side.Moves side .start ({ side with stage := .hello }, [.hello true])
  | declares {sent : List PairingFrame} (before : side.stage = .hello ∨ side.stage = .connected)
      (sends : ∀ frame ∈ sent, frame.SentBy side) :
      Side.Moves side (.read (.hello true)) ({ side with stage := .status }, sent)
  | ignores (frame : PairingFrame) (before : side.stage = .hello) :
      Side.Moves side (.read frame) (side, [])
  | unconfirmed {sent : List PairingFrame} (trusted : side.status.trusted = true)
      (sends : ∀ frame ∈ sent, frame.SentBy side) :
      Side.Moves side (.read (.hello false)) ({ side with stage := .setup false }, sent)
  | ends {turn : Turn} {sent : List PairingFrame} (sends : ∀ frame ∈ sent, frame.SentBy side) :
      Side.Moves side turn (side.ended, sent)
  | asks {trusted armed : Bool} (before : side.stage = .status)
      (resolved : resolvePairing side.status ⟨trusted, armed⟩ none = .approvalRequired) :
      Side.Moves side (.read (.status trusted armed)) ({ side with stage := .approval }, [])
  | knows {trusted armed : Bool} (before : side.stage = .status)
      (resolved : resolvePairing side.status ⟨trusted, armed⟩ none = .alreadyTrusted) :
      Side.Moves side (.read (.status trusted armed)) ({ side with stage := .setup false }, [.setup])
  | decides (accepted : Bool) (before : side.stage = .approval) :
      Side.Moves side (.decide accepted)
        ({ side with
          decision := some accepted, stage := if accepted then .decision else .ended },
          [.decision accepted])
  | approved (before : side.stage = .decision) :
      Side.Moves side (.read (.decision true)) ({ side with stage := .setup true }, [.setup])
  | pins (saved : Bool) (before : side.stage = .setup true) :
      Side.Moves side (.enter saved)
        ({ side with pinned := true, stage := if saved then .session else .ended }, [])
  | enters (saved : Bool) (before : side.stage = .setup false) :
      Side.Moves side (.enter saved) ({ side with stage := .session }, [])

namespace Side

variable {side peer : Side} {turn : Turn} {moved : Side × List PairingFrame}
  {frame : PairingFrame}

theorem decide_moves {accepted : Bool} (decided : side.decide accepted = some moved) :
    side.Moves (.decide accepted) moved := by
  unfold decide at decided
  split at decided
  · rename_i before
    cases decided
    exact .decides accepted before
  · cases decided

theorem enter_moves {saved : Bool} (entered : side.enter saved = some moved) :
    side.Moves (.enter saved) moved := by
  unfold enter at entered
  split at entered
  · rename_i before
    cases entered
    exact .pins saved before
  · rename_i before
    cases entered
    exact .enters saved before
  · cases entered

theorem fail_moves (failed : side.fail = some moved) : side.Moves .fail moved := by
  unfold fail at failed
  split at failed
  · cases failed
  · cases failed
    exact .ends nofun

theorem readDecision_moves (before : side.stage = .decision) :
    side.Moves (.read frame) (side.readDecision frame) := by
  unfold readDecision
  split
  · exact .approved before
  · exact .ends nofun

/-- The comparison of the statuses; `refusal` is what a side sends when one is not armed. -/
theorem readStatus_moves {trusted armed : Bool} {refusal : PairingFrame}
    (before : side.stage = .status) (harmless : refusal.SentBy side)
    (read : (if !side.status.trusted || !trusted then
        if !side.status.armed || !armed then some (side.ended, [refusal])
        else some ({ side with stage := .approval }, [])
      else some ({ side with stage := .setup false }, [.setup])) = some moved) :
    side.Moves (.read (.status trusted armed)) moved := by
  have resolved := resolvePairing_status side.status trusted armed
  split at read
  · rename_i untrusted
    rw [if_pos untrusted] at resolved
    split at read
    · cases read
      exact .ends (by simpa using harmless)
    · rename_i bothArmed
      rw [if_neg bothArmed] at resolved
      cases read
      exact .asks before resolved
  · rename_i bothTrusted
    rw [if_neg bothTrusted] at resolved
    cases read
    exact .knows before resolved

theorem dial_moves (dialed : side.dial turn = some moved) : side.Moves turn moved := by
  cases turn with
  | start =>
    simp only [dial] at dialed
    split at dialed
    · rename_i before
      cases dialed
      exact .greets before
    · cases dialed
  | decide accepted => exact decide_moves dialed
  | enter saved => exact enter_moves dialed
  | fail => exact fail_moves dialed
  | read frame =>
    simp only [dial] at dialed
    split at dialed
    · rename_i before
      cases dialed
      exact .declares (.inl before) (by simp [PairingFrame.SentBy])
    · split at dialed
      · cases dialed
        exact .ends nofun
      · rename_i trusted
        cases dialed
        exact .unconfirmed (by simpa using trusted) (by simp [PairingFrame.SentBy])
    · cases dialed
      exact .ends nofun
    · rename_i before _ _ _
      cases dialed
      exact .ignores _ before
    · rename_i before
      exact readStatus_moves before (by simp [PairingFrame.SentBy]) dialed
    · cases dialed
      exact .ends nofun
    · rename_i before
      cases dialed
      exact readDecision_moves before
    · cases dialed

theorem accept_moves (accepted : side.accept turn = some moved) : side.Moves turn moved := by
  cases turn with
  | start => cases accepted
  | decide answer => exact decide_moves accepted
  | enter saved => exact enter_moves accepted
  | fail => exact fail_moves accepted
  | read frame =>
    simp only [accept] at accepted
    split at accepted
    · rename_i before
      cases accepted
      exact .declares (.inr before) (by simp [PairingFrame.SentBy])
    · split at accepted
      · cases accepted
        exact .ends (by simp [PairingFrame.SentBy])
      · rename_i trusted
        cases accepted
        exact .unconfirmed (by simpa using trusted) (by simp [PairingFrame.SentBy])
    · cases accepted
      exact .ends nofun
    · rename_i before
      have harmless : PairingFrame.SentBy side (.error "pairing_not_armed") := trivial
      exact readStatus_moves before harmless accepted
    · cases accepted
      exact .ends nofun
    · rename_i before
      cases accepted
      exact readDecision_moves before
    · cases accepted

/-- What a side knows, and that the frames it has still to read are the peer's. -/
structure Sound (side peer : Side) (incoming : List PairingFrame) : Prop where
  incoming : ∀ frame ∈ incoming, frame.SentBy peer
  undecided : side.stage ∈ [.connected, .hello, .status, .approval] → side.decision = none
  asked : side.stage = .approval ∨ side.decision ≠ none →
    resolvePairing side.status peer.status none = .approvalRequired
  awaits : side.stage = .decision → side.decision = some true
  paired : side.stage = .setup true → side.decision = some true ∧ peer.decision = some true
  known : side.stage = .setup false →
    resolvePairing side.status peer.status none = .alreadyTrusted
  pinned : side.pinned = true → side.decision = some true ∧ peer.decision = some true
  session : side.stage = .session → side.pinned = true ∨
    resolvePairing side.status peer.status none = .alreadyTrusted

variable {incoming rest : List PairingFrame}

/-- A turn of a side, with the frame it read gone. -/
theorem Sound.moves (sound : side.Sound peer incoming) (moves : side.Moves turn moved)
    (read : ∀ frame, turn = .read frame → frame.SentBy peer)
    (left : ∀ frame ∈ rest, frame.SentBy peer) : moved.1.Sound peer rest := by
  cases moves with
  | greets before =>
    have fresh := sound.undecided (by simp [before])
    exact ⟨left, fun _ => fresh, fun asked => by simp [fresh] at asked, nofun, nofun, nofun,
      sound.pinned, nofun⟩
  | declares before =>
    have fresh : side.decision = none := sound.undecided (by
      rcases before with before | before
      · simp [before]
      · simp [before])
    exact ⟨left, fun _ => fresh, fun asked => by simp [fresh] at asked, nofun, nofun, nofun,
      sound.pinned, nofun⟩
  | ignores frame before => exact { sound with incoming := left }
  | unconfirmed trusted => cases read _ rfl
  | ends => 
    refine ⟨left, by simp [ended], fun asked => sound.asked (.inr ?_), nofun, nofun, nofun,
      sound.pinned, nofun⟩
    simpa [ended] using asked
  | asks before resolved =>
    have fresh := sound.undecided (by simp [before])
    rw [← read _ rfl] at resolved
    exact ⟨left, fun _ => fresh, fun _ => resolved, nofun, nofun, nofun, sound.pinned, nofun⟩
  | knows before resolved =>
    have fresh := sound.undecided (by simp [before])
    rw [← read _ rfl] at resolved
    refine ⟨left, fun _ => fresh, fun asked => by simp [fresh] at asked, nofun, nofun,
      fun _ => resolved, sound.pinned, nofun⟩
  | decides accepted before =>
    have resolved := sound.asked (.inl before)
    have fresh := sound.undecided (by simp [before])
    have unpinned : side.pinned = false := by
      by_contra pinned
      have both := sound.pinned (by simpa using pinned)
      simp [fresh] at both
    cases accepted with
    | true =>
      exact ⟨left, by simp, fun _ => resolved, fun _ => rfl, nofun, nofun,
        by simp [unpinned], nofun⟩
    | false =>
      exact ⟨left, by simp, fun _ => resolved, nofun, nofun, nofun, by simp [unpinned], nofun⟩
  | approved before =>
    have own := sound.awaits before
    have other := read _ rfl rfl
    exact ⟨left, by simp, fun _ => sound.asked (.inr (by simp [own])), nofun,
      fun _ => ⟨own, other⟩, nofun, sound.pinned, nofun⟩
  | pins saved before =>
    have both := sound.paired before
    have resolved := sound.asked (.inr (by simp [both.1]))
    cases saved with
    | true =>
      exact ⟨left, by simp, fun _ => resolved, nofun, nofun, nofun, fun _ => both,
        fun _ => .inl rfl⟩
    | false =>
      exact ⟨left, by simp, fun _ => resolved, nofun, nofun, nofun, fun _ => both, nofun⟩
  | enters saved before =>
    have known := sound.known before
    refine ⟨left, by simp, fun asked => sound.asked (.inr (by simpa using asked)), nofun, nofun,
      nofun, sound.pinned, fun _ => .inr known⟩

/-- What a turn of a side is to its peer. -/
structure Told (side : Side) (moved : Side × List PairingFrame) : Prop where
  status : moved.1.status = side.status
  decision : side.decision = some true → moved.1.decision = some true
  sent : ∀ frame ∈ moved.2, frame.SentBy moved.1

end Side

theorem PairingFrame.SentBy.mono {frame : PairingFrame} {side side' : Side}
    (sent : frame.SentBy side) (status : side'.status = side.status)
    (decision : side.decision = some true → side'.decision = some true) :
    frame.SentBy side' := by
  cases frame with
  | hello confirmation => exact sent
  | status trusted armed => exact status.trans sent
  | decision accepted => exact fun yes => decision (sent yes)
  | error code => trivial
  | setup => trivial

namespace Side

variable {side peer : Side} {turn : Turn} {moved : Side × List PairingFrame}
  {incoming : List PairingFrame}

theorem Sound.told (sound : side.Sound peer incoming) (moves : side.Moves turn moved) :
    side.Told moved := by
  cases moves with
  | greets before => exact ⟨rfl, id, by simp [PairingFrame.SentBy]⟩
  | declares before sends => exact ⟨rfl, id, fun frame sent => (sends frame sent).mono rfl id⟩
  | ignores frame before => exact ⟨rfl, id, nofun⟩
  | unconfirmed trusted sends => exact ⟨rfl, id, fun frame sent => (sends frame sent).mono rfl id⟩
  | ends sends => exact ⟨rfl, id, fun frame sent => (sends frame sent).mono rfl id⟩
  | asks before resolved => exact ⟨rfl, id, nofun⟩
  | knows before resolved => exact ⟨rfl, id, by simp [PairingFrame.SentBy]⟩
  | decides accepted before =>
    have fresh := sound.undecided (by simp [before])
    refine ⟨rfl, by simp [fresh], ?_⟩
    simp [PairingFrame.SentBy]
  | approved before => exact ⟨rfl, id, by simp [PairingFrame.SentBy]⟩
  | pins saved before => exact ⟨rfl, id, nofun⟩
  | enters saved before => exact ⟨rfl, id, nofun⟩

/-- The peer's turn leaves what a side knows. -/
theorem Sound.hears (sound : peer.Sound side incoming) (told : side.Told moved) :
    peer.Sound moved.1 (incoming ++ moved.2) := by
  refine ⟨fun frame member => ?_, sound.undecided, ?_, sound.awaits, fun stage => ?_, ?_,
    fun pinned => ?_, ?_⟩
  · rcases List.mem_append.mp member with old | new
    · exact (sound.incoming frame old).mono told.status told.decision
    · exact told.sent frame new
  · rw [told.status]
    exact sound.asked
  · exact ⟨(sound.paired stage).1, told.decision (sound.paired stage).2⟩
  · rw [told.status]
    exact sound.known
  · exact ⟨(sound.pinned pinned).1, told.decision (sound.pinned pinned).2⟩
  · rw [told.status]
    exact sound.session

end Side

/-! ## Runs -/

namespace Connection

/-- What holds of a connection at any time. -/
structure Inv (dialer accepter : PairingStatus) (c : Connection) : Prop where
  statuses : c.dialer.status = dialer ∧ c.accepter.status = accepter
  dialer : c.dialer.Sound c.accepter c.toDialer
  accepter : c.accepter.Sound c.dialer c.toAccepter

variable {dialer accepter : PairingStatus} {c c' : Connection} {turn : Turn}
  {left : List PairingFrame}

theorem Inv.turnDialer (inv : c.Inv dialer accepter) (turned : c.turnDialer turn left = some c')
    (read : ∀ frame, turn = .read frame → frame.SentBy c.accepter)
    (remains : ∀ frame ∈ left, frame.SentBy c.accepter) : c'.Inv dialer accepter := by
  obtain ⟨moved, dialed, rfl⟩ := Option.map_eq_some_iff.mp turned
  have moves := Side.dial_moves dialed
  have told := inv.dialer.told moves
  exact ⟨⟨told.status.trans inv.statuses.1, inv.statuses.2⟩, inv.dialer.moves moves read remains,
    inv.accepter.hears told⟩

theorem Inv.turnAccepter (inv : c.Inv dialer accepter)
    (turned : c.turnAccepter turn left = some c')
    (read : ∀ frame, turn = .read frame → frame.SentBy c.dialer)
    (remains : ∀ frame ∈ left, frame.SentBy c.dialer) : c'.Inv dialer accepter := by
  obtain ⟨moved, accepted, rfl⟩ := Option.map_eq_some_iff.mp turned
  have moves := Side.accept_moves accepted
  have told := inv.accepter.told moves
  exact ⟨⟨inv.statuses.1, told.status.trans inv.statuses.2⟩, inv.dialer.hears told,
    inv.accepter.moves moves read remains⟩

theorem Inv.exec {action : PairingAction} (inv : c.Inv dialer accepter)
    (executed : machine.exec c action = some c') : c'.Inv dialer accepter := by
  cases action with
  | dialer turn =>
    cases turn with
    | read => cases executed
    | _ => exact inv.turnDialer executed nofun inv.dialer.incoming
  | accepter turn =>
    cases turn with
    | start | read => cases executed
    | _ => exact inv.turnAccepter executed nofun inv.accepter.incoming
  | readDialer =>
    simp only [machine, Connection.exec] at executed
    split at executed
    · cases executed
    · rename_i frame left queued
      have sent := inv.dialer.incoming
      rw [queued] at sent
      refine inv.turnDialer executed ?_ fun other member => sent other (.tail _ member)
      rintro _ ⟨⟩
      exact sent frame (.head _)
  | readAccepter =>
    simp only [machine, Connection.exec] at executed
    split at executed
    · cases executed
    · rename_i frame left queued
      have sent := inv.accepter.incoming
      rw [queued] at sent
      refine inv.turnAccepter executed ?_ fun other member => sent other (.tail _ member)
      rintro _ ⟨⟩
      exact sent frame (.head _)

theorem inv_of_run (run : machine.Run anyAction (start dialer accepter) c) :
    c.Inv dialer accepter := by
  refine run.invariant (I := Inv dialer accepter) (fun _ _ _ _ executed inv => inv.exec executed) ?_
  have sound (status peer : PairingStatus) :
      Side.Sound { status } { status := peer } [] :=
    ⟨nofun, fun _ => rfl, by simp, nofun, nofun, nofun, nofun, nofun⟩
  exact ⟨⟨rfl, rfl⟩, sound dialer accepter, sound accepter dialer⟩

/-- Users are only asked where the computers do not trust each other. -/
theorem Inv.unasked (inv : c.Inv dialer accepter) (own : dialer.trusted = true)
    (other : accepter.trusted = true) : c.decisions = none ∧ c.dialer.decision = none ∧
      c.accepter.decision = none := by
  have first : c.dialer.decision = none := by
    by_contra asked
    have required := inv.dialer.asked (.inr asked)
    rw [inv.statuses.1, inv.statuses.2, resolvePairing_approval] at required
    exact required.1 ⟨own, other⟩
  have second : c.accepter.decision = none := by
    by_contra asked
    have required := inv.accepter.asked (.inr asked)
    rw [inv.statuses.1, inv.statuses.2, resolvePairing_approval] at required
    exact required.1 ⟨other, own⟩
  exact ⟨by simp [decisions, first], first, second⟩

/-- A side in the session: the computers trusted each other, or both users accepted. -/
theorem Inv.session (inv : c.Inv dialer accepter)
    (entered : c.dialer.stage = .session ∨ c.accepter.stage = .session) :
    dialer.trusted = true ∧ accepter.trusted = true ∨
      resolvePairing dialer accepter none = .approvalRequired ∧
        c.dialer.decision = some true ∧ c.accepter.decision = some true := by
  have required (accepted : c.dialer.decision = some true) :
      resolvePairing dialer accepter none = .approvalRequired := by
    have required := inv.dialer.asked (.inr (by simp [accepted]))
    rwa [inv.statuses.1, inv.statuses.2] at required
  rcases entered with entered | entered
  · rcases inv.dialer.session entered with pinned | known
    · have both := inv.dialer.pinned pinned
      exact .inr ⟨required both.1, both⟩
    · rw [inv.statuses.1, inv.statuses.2, resolvePairing_trusted] at known
      exact .inl known
  · rcases inv.accepter.session entered with pinned | known
    · have both := (inv.accepter.pinned pinned).symm
      exact .inr ⟨required both.1, both⟩
    · rw [inv.statuses.1, inv.statuses.2, resolvePairing_trusted] at known
      exact .inl known.symm

/-- Pairing needs both approvals: a side pins the key of its peer only when both users accepted,
    it enters the session with a key it has not pinned only after that, and a refusal in a status
    or a decision of either side keeps both out. What lets a side in is what `resolve_pairing`
    says of the exchange. -/
theorem pairing_needs_both_approvals
    (run : machine.Run anyAction (start dialer accepter) c) :
    (c.dialer.pinned = true ∨ c.accepter.pinned = true →
      c.dialer.decision = some true ∧ c.accepter.decision = some true) ∧
    (c.dialer.stage = .session → dialer.trusted = true ∨ c.dialer.pinned = true) ∧
    (c.accepter.stage = .session → accepter.trusted = true ∨ c.accepter.pinned = true) ∧
    (c.dialer.stage = .session ∨ c.accepter.stage = .session →
      resolvePairing dialer accepter c.decisions = .alreadyTrusted ∨
        resolvePairing dialer accepter c.decisions = .accepted) ∧
    (resolvePairing dialer accepter none = .notArmed ∨ c.dialer.decision = some false ∨
        c.accepter.decision = some false →
      c.dialer.stage ≠ .session ∧ c.accepter.stage ≠ .session) := by
  have inv := inv_of_run run
  refine ⟨?_, ?_, ?_, ?_, ?_⟩
  · rintro (pinned | pinned)
    · exact inv.dialer.pinned pinned
    · exact (inv.accepter.pinned pinned).symm
  · intro entered
    have known := inv.dialer.session entered
    rw [inv.statuses.1, inv.statuses.2, resolvePairing_trusted] at known
    exact known.symm.imp And.left id
  · intro entered
    have known := inv.accepter.session entered
    rw [inv.statuses.1, inv.statuses.2, resolvePairing_trusted] at known
    exact known.symm.imp And.left id
  · intro entered
    rcases inv.session entered with ⟨own, other⟩ | ⟨required, own, other⟩
    · exact .inl (resolvePairing_trusted.mpr ⟨own, other⟩)
    · refine .inr ?_
      rw [show c.decisions = some (true, true) by simp [decisions, own, other]]
      exact resolvePairing_accepted required
  · intro refused
    rw [← not_or]
    intro entered
    rcases inv.session entered with ⟨own, other⟩ | ⟨required, own, other⟩
    · have unasked := inv.unasked own other
      rcases refused with refused | refused | refused
      · rw [resolvePairing_trusted.mpr ⟨own, other⟩] at refused
        cases refused
      · simp [refused] at unasked
      · simp [refused] at unasked
    · rcases refused with refused | refused | refused
      · rw [required] at refused
        cases refused
      · simp [refused] at own
      · simp [refused] at other

/-- Two computers that meet for the first time, and both users accept. -/
def samplePairing : List PairingAction :=
  [.dialer .start, .readAccepter, .readDialer, .readDialer, .readAccepter,
    .dialer (.decide true), .accepter (.decide true), .readAccepter, .readDialer,
    .dialer (.enter true), .accepter (.enter true)]

theorem pairing_needs_both_approvals_sample :
    (machine.reach (start ⟨false, true⟩ ⟨false, true⟩) samplePairing).accepter.stage = .session ∧
    (machine.reach (start ⟨false, true⟩ ⟨false, true⟩) samplePairing).dialer.pinned = true ∧
    (machine.reach (start ⟨false, true⟩ ⟨false, true⟩) samplePairing).dialer.decision =
      some true := by
  have run : machine.Run anyAction (start ⟨false, true⟩ ⟨false, true⟩)
      (machine.reach (start ⟨false, true⟩ ⟨false, true⟩) samplePairing) :=
    run_reach samplePairing (by decide +kernel)
  refine ⟨by decide +kernel, by decide +kernel, ?_⟩
  exact ((pairing_needs_both_approvals run).1 (.inl (by decide +kernel))).1

end Connection

end EdgeKvm.Pairing
