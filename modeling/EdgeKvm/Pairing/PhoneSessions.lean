import EdgeKvm.Pairing.Pins
import EdgeKvm.Pairing.Window
import EdgeKvm.Lib.Machine

/-!
# Phone sessions

`PhoneSessions` of `phone.rs`: the running sessions by key, the pairing window, and the requests
that come from the sessions and from the control socket. `Receiver` is the part of `run_node` that
owns them together with the pins, and pins computers as well.
-/

namespace EdgeKvm.Pairing

open EdgeKvm.Lib

/-- How far `run_phone_session` is: before the `PairRequest` of an unpinned phone, waiting for the
    answer to it, past pairing, or finished. -/
inductive PhoneStage where
  | pairing
  | asked
  | answered (outcome : Except PairingRefusal PinnedPhone)
  | running
  | finished
  deriving DecidableEq

/-- `RunningPhone` and its task; `id` tells a session from the ones it replaced. -/
structure RunningPhone where
  id : Nat
  name : String
  pairing : Bool
  stage : PhoneStage
  deriving DecidableEq

/-- The session passed the pairing, or is about to. -/
def RunningPhone.admitted (running : RunningPhone) : Bool :=
  match running.stage with
  | .running | .answered (.ok _) => true
  | _ => false

/-- `PhoneRequest`, without the requests that change nothing here. A `pair` names the session
    that waits for the reply. -/
inductive PhoneRequest where
  | pair (id : Nat) (name fingerprint : String) (ip : IpAddr) (token : String)
  | forget (name fingerprint : String)
  | openPairing (token : String)
  | unpair (name : String)
  deriving DecidableEq, Repr

/-- `PhoneSessions`. -/
structure PhoneSessions where
  sessions : Table String RunningPhone := ∅
  pairing : Option PairingWindow := none
  requests : List PhoneRequest := []
  nextId : Nat := 0

/-- `MAX_PAIRING_SESSIONS`. -/
def maxPairingSessions : Nat := 4

/-- `PhoneAdmission`. -/
inductive PhoneAdmission where
  | accept (phone : PinnedPhone)
  | pair
  | reject (code message : String)
  deriving DecidableEq, Repr

/-- `admit_phone`. -/
def admitPhone (pins : PinStore) (name fingerprint : String) (pairingOpen : Bool) :
    PhoneAdmission :=
  if pins.isPcKey fingerprint then
    .reject "key_is_pc" "this key is paired as a computer, not a phone"
  else
    match pins.phoneStatus name fingerprint, pins.phone name with
    | .trusted, some phone => .accept phone
    | .unknown, _ =>
      if pairingOpen then .pair
      else .reject "phone_not_paired"
        "this phone isn't paired; run `edge-receiver-linux pair-phone` on the computer and scan the code"
    | _, _ =>
      if pairingOpen then .pair
      else .reject "phone_key_changed"
        "a different phone is paired under this name; pair again with `edge-receiver-linux pair-phone`"

namespace PhoneSessions

/-- `PhoneSessions::pairing_open`. -/
def pairingOpen (phones : PhoneSessions) (now : Instant) : Bool :=
  phones.pairing.any (·.isOpen now)

/-- The finished sessions are dropped. -/
def prune (phones : PhoneSessions) : PhoneSessions :=
  { phones with sessions := phones.sessions.retain fun _ running => running.stage ≠ .finished }

/-- A new session takes the place of an earlier one with the same key. -/
def insert (phones : PhoneSessions) (name fingerprint : String) (pairing : Bool)
    (stage : PhoneStage) : PhoneSessions :=
  { phones with
    sessions := phones.sessions.insert fingerprint { id := phones.nextId, name, pairing, stage }
    nextId := phones.nextId + 1 }

/-- `PhoneSessions::start`, with the code of a rejection. -/
def start (phones : PhoneSessions) (name fingerprint : String) (pins : PinStore)
    (now : Instant) : PhoneSessions × Except String Unit :=
  let phones := phones.prune
  match admitPhone pins name fingerprint (phones.pairingOpen now) with
  | .accept _ => (phones.insert name fingerprint false .running, .ok ())
  | .pair =>
    if maxPairingSessions ≤ phones.sessions.countValues (·.pairing) then
      (phones, .error "pairing_busy")
    else (phones.insert name fingerprint true .pairing, .ok ())
  | .reject code _ => (phones, .error code)

/-- `PhoneSessions::pair`; `saved` is the outcome of `pins.save`. -/
def pair (phones : PhoneSessions) (pins : PinStore) (name fingerprint : String) (ip : IpAddr)
    (token : String) (saved : Bool) (now : Instant) :
    PhoneSessions × PinStore × Except PairingRefusal PinnedPhone :=
  match phones.pairing with
  | none => (phones, pins, .error .closed)
  | some window =>
    match window.check token ip now with
    | (.error refusal, window) => ({ phones with pairing := some window }, pins, .error refusal)
    | (.ok _, _) =>
      if pins.isPcKey fingerprint then (phones, pins, .error .failed)
      else if !saved then (phones, pins, .error .failed)
      else
        -- One pin per phone key: an older entry under another name is dropped.
        ({ phones with pairing := none },
          (pins.dropPhoneKey fingerprint).pinPhone name fingerprint PhoneFeature.all,
          .ok ⟨fingerprint, PhoneFeature.all⟩)

/-- `PhoneSessions::unpair`; `removal` is the outcome of `NotificationHub::remove_phone`. -/
def unpair (phones : PhoneSessions) (pins : PinStore) (name : String) (saved : Bool)
    (removal : Except String Unit) : PhoneSessions × PinStore × Except String Bool :=
  match pins.removePhone name with
  | (none, _) => (phones, pins, .ok false)
  | (some removed, without) =>
    if !saved then (phones, pins, .error "failed to save pins")
    else
      ({ phones with sessions := phones.sessions.erase removed.fingerprint }, without,
        removal.map fun _ => true)

/-- The reply to a `Pair` request reaches the session that sent it, if that still waits. -/
def reply (phones : PhoneSessions) (id : Nat) (fingerprint : String)
    (outcome : Except PairingRefusal PinnedPhone) : PhoneSessions :=
  match phones.sessions.lookup fingerprint with
  | none => phones
  | some running =>
    if running.id = id ∧ running.stage = .asked then
      { phones with
        sessions := phones.sessions.insert fingerprint
          { running with stage := .answered outcome } }
    else phones

/-- `PhoneSessions::handle_request`. -/
def handleRequest (phones : PhoneSessions) (pins : PinStore) (saved : Bool)
    (removal : Except String Unit) (now : Instant) : PhoneRequest → PhoneSessions × PinStore
  | .pair id name fingerprint ip token =>
    let (phones, pins, outcome) := phones.pair pins name fingerprint ip token saved now
    (phones.reply id fingerprint outcome, pins)
  | .forget name fingerprint =>
    if (pins.phoneStatus name fingerprint).isTrusted then
      let (phones, pins, _) := phones.unpair pins name saved removal
      (phones, pins)
    else (phones, pins)
  | .openPairing token => ({ phones with pairing := some (.open' token now) }, pins)
  | .unpair name =>
    let (phones, pins, _) := phones.unpair pins name saved removal
    (phones, pins)

/-- The session of a key moves on. -/
def setStage (phones : PhoneSessions) (fingerprint : String) (running : RunningPhone)
    (stage : PhoneStage) : PhoneSessions :=
  { phones with sessions := phones.sessions.insert fingerprint { running with stage } }

/-- A request goes to the loop. -/
def push (phones : PhoneSessions) (request : PhoneRequest) : PhoneSessions :=
  { phones with requests := phones.requests ++ [request] }

/-- `pair_phone`: the phone presented a token. -/
def ask (phones : PhoneSessions) (fingerprint : String) (ip : IpAddr) (token : String) :
    Option PhoneSessions :=
  (phones.sessions.lookup fingerprint).bind fun running =>
    if running.stage = .pairing then
      some ((phones.setStage fingerprint running .asked).push
        (.pair running.id running.name fingerprint ip token))
    else none

/-- `pair_phone`: the reply arrived. -/
def proceed (phones : PhoneSessions) (fingerprint : String) : Option PhoneSessions :=
  (phones.sessions.lookup fingerprint).bind fun running =>
    match running.stage with
    | .answered (.ok _) => some (phones.setStage fingerprint running .running)
    | .answered (.error _) => some (phones.setStage fingerprint running .finished)
    | _ => none

/-- The phone sent `Unpair`. -/
def askForget (phones : PhoneSessions) (fingerprint : String) : Option PhoneSessions :=
  (phones.sessions.lookup fingerprint).bind fun running =>
    if running.stage = .running then
      some ((phones.setStage fingerprint running .finished).push
        (.forget running.name fingerprint))
    else none

/-- The session ends: a timeout, an error, a closed connection. -/
def finish (phones : PhoneSessions) (fingerprint : String) : Option PhoneSessions :=
  (phones.sessions.lookup fingerprint).bind fun running =>
    if running.stage = .finished then none
    else some (phones.setStage fingerprint running .finished)

end PhoneSessions

/-- What `run_node` owns; it is `stopped` after an error. -/
structure Receiver where
  pins : PinStore := {}
  phones : PhoneSessions := {}
  stopped : Bool := false

inductive ReceiverAction where
  | connectPhone (name fingerprint : String) (now : Instant)
  | ask (fingerprint : String) (ip : IpAddr) (token : String)
  | proceed (fingerprint : String)
  | askForget (fingerprint : String)
  | finish (fingerprint : String)
  | openPairing (token : String)
  | unpair (name : String)
  | handle (saved : Bool) (removal : Except String Unit) (now : Instant)
  | accepted (name fingerprint : String) (approved saved : Bool)
  | dialed (name fingerprint : String) (newlyPaired saved : Bool)

namespace Receiver

def withPhones (r : Receiver) (phones : PhoneSessions) : Receiver := { r with phones }

/-- `pins.pin(..); pins.save(&pins_path).await?;`, whose error ends `run_node`. -/
def pinComputer (r : Receiver) (name fingerprint : String) (saved : Bool) : Receiver :=
  { r with pins := r.pins.pin name fingerprint, stopped := !saved }

/-- The loop takes the oldest request. -/
def handle (r : Receiver) (saved : Bool) (removal : Except String Unit) (now : Instant) :
    Option Receiver :=
  match r.phones.requests with
  | [] => none
  | request :: requests =>
    let handled := ({ r.phones with requests } : PhoneSessions).handleRequest r.pins saved removal
      now request
    some { r with phones := handled.1, pins := handled.2 }

/-- A computer that connected: a phone's key is rejected, and the key is pinned when the pairing
    was approved on this connection. -/
def accepted (r : Receiver) (name fingerprint : String) (approved saved : Bool) : Receiver :=
  if r.pins.isPhoneKey fingerprint then r
  else if approved then r.pinComputer name fingerprint saved
  else r

/-- A computer that was dialled. -/
def dialed (r : Receiver) (name fingerprint : String) (newlyPaired saved : Bool) : Receiver :=
  if newlyPaired then r.pinComputer name fingerprint saved else r

def exec (r : Receiver) (action : ReceiverAction) : Option Receiver :=
  if r.stopped then none
  else match action with
  | .connectPhone name fingerprint now =>
    some (r.withPhones (r.phones.start name fingerprint r.pins now).1)
  | .ask fingerprint ip token => (r.phones.ask fingerprint ip token).map r.withPhones
  | .proceed fingerprint => (r.phones.proceed fingerprint).map r.withPhones
  | .askForget fingerprint => (r.phones.askForget fingerprint).map r.withPhones
  | .finish fingerprint => (r.phones.finish fingerprint).map r.withPhones
  | .openPairing token => some (r.withPhones (r.phones.push (.openPairing token)))
  | .unpair name => some (r.withPhones (r.phones.push (.unpair name)))
  | .handle saved removal now => r.handle saved removal now
  | .accepted name fingerprint approved saved => some (r.accepted name fingerprint approved saved)
  | .dialed name fingerprint newlyPaired saved =>
    some (r.dialed name fingerprint newlyPaired saved)

def machine : Machine Receiver ReceiverAction := ⟨exec⟩

end Receiver

end EdgeKvm.Pairing
