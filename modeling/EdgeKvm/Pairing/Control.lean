import EdgeKvm.Lib.Lines
import EdgeKvm.Pairing.PhoneSessions

/-!
# The control socket

`handle_client` answers one command line with lines of `<keyword> <value>`; `ControlLink` sends the
command and reads the lines. Texts are lists of characters.
-/

namespace EdgeKvm.Pairing

open EdgeKvm.Lib Lines

/-! ## Texts -/

abbrev Text : Type := List Char

/-- `char::is_whitespace`, the property `White_Space`. -/
def isWhitespace (c : Char) : Bool :=
  decide (0x9 ≤ c.toNat ∧ c.toNat ≤ 0xd) || c.toNat == 0x20 || c.toNat == 0x85 ||
    c.toNat == 0xa0 || c.toNat == 0x1680 || decide (0x2000 ≤ c.toNat ∧ c.toNat ≤ 0x200a) ||
    c.toNat == 0x2028 || c.toNat == 0x2029 || c.toNat == 0x202f || c.toNat == 0x205f ||
    c.toNat == 0x3000

/-- `split_whitespace`. -/
def splitWhitespace (text : Text) : List Text := splitBlank isWhitespace text

/-- `collect::<Vec<_>>().join(" ")`. -/
def joinWords (words : List Text) : Text := [' '].intercalate words

/-- `read_line`: the text up to the first newline, which is part of it. -/
def readLine (text : Text) : Text :=
  text.takeWhile (· ≠ '\n') ++ if '\n' ∈ text then ['\n'] else []

/-- `BufRead::lines`. -/
def replyLines (text : Text) : List Text := readLines '\n' '\r' text

/-- A line of `<keyword> <value>`. -/
def valueLine (keyword : String) (value : Text) : Text := keyword.toList ++ ' ' :: value

/-! ## The receiver's end -/

/-- The diagnostics that `TrayStatus` lists. -/
inductive Diagnostic where
  | transport
  | inputBackend
  | connections
  | inputEvents
  | clipboardEvents
  | phones
  | lastError
  deriving DecidableEq, Repr

def Diagnostic.key : Diagnostic → String
  | .transport => "transport"
  | .inputBackend => "input backend"
  | .connections => "connections"
  | .inputEvents => "input events"
  | .clipboardEvents => "clipboard events"
  | .phones => "phones"
  | .lastError => "last error"

structure TrayStatus where
  summary : String
  peer : Option String
  roundTripMs : Option Nat
  diagnostics : List (Diagnostic × String)
  deriving DecidableEq, Repr

/-- What `handle_client` asks the receiver for. -/
inductive ControlRequest where
  | openPairing
  | unpair (name : String)
  | list
  | notificationSetup
  | armPairing
  deriving DecidableEq, Repr

/-- The answers to the requests: the pairing link and the phone that paired in time, the result of
    an `unpair`, the phones, the notification settings, and the status with a tray. -/
structure ControlAnswers where
  uri : String
  expiresIn : Nat
  paired : Option String
  unpair : String → Except String Bool
  phones : List (String × Bool)
  notifications : Option (Except String String)
  tray : Option TrayStatus

/-- What follows the pairing link. -/
def pairedReply : Option String → List Text
  | some name => [valueLine "paired" name.toList]
  | none => ["closed".toList]

def phonesReply (phones : List (String × Bool)) : List Text :=
  phones.map (fun phone => valueLine "phone"
    (phone.1.toList ++ ' ' :: (if phone.2 then "connected" else "disconnected").toList)) ++
  ["end".toList]

/-- `status_reply` -/
def statusReply (status : TrayStatus) : List Text :=
  [valueLine "summary" status.summary.toList] ++
  status.peer.toList.map (fun peer => valueLine "peer" peer.toList) ++
  status.roundTripMs.toList.map (fun ping => valueLine "ping" (toString ping).toList) ++
  status.diagnostics.map (fun entry => valueLine "diag"
    (entry.1.key.toList ++ '=' :: entry.2.toList.map fun c => if c = '\n' then ' ' else c)) ++
  ["end".toList]

def unpairReply (name : Text) : Except String Bool → List Text
  | .ok true => [valueLine "unpaired" name]
  | .ok false => ["not-paired".toList]
  | .error error => [valueLine "error" error.toList]

/-- `handle_client`: the request it makes, and the lines it writes. -/
def handleClient (answers : ControlAnswers) (input : Text) :
    Option ControlRequest × List Text :=
  match splitWhitespace (readLine input) with
  | [] => (none, [valueLine "error" "unknown command".toList])
  | command :: words =>
    if command = "pair-phone".toList then
      (some .openPairing, [valueLine "uri" answers.uri.toList,
        valueLine "expires" (toString answers.expiresIn).toList] ++ pairedReply answers.paired)
    else if command = "unpair-phone".toList ∧ joinWords words ≠ [] then
      let name := String.ofList (joinWords words)
      (some (.unpair name), unpairReply (joinWords words) (answers.unpair name))
    else if command = "list-phones".toList then (some .list, phonesReply answers.phones)
    else if command = "notification-setup".toList then
      match answers.notifications with
      | some (.ok setup) => (some .notificationSetup, [valueLine "notifications" setup.toList])
      | some (.error error) => (some .notificationSetup, [valueLine "error" error.toList])
      | none => (none, [valueLine "error" "notification settings unavailable".toList])
    else if command = "status".toList then
      match answers.tray with
      | some status => (none, statusReply status)
      | none => (none, [valueLine "summary" "Running".toList, "end".toList])
    else if command = "arm-pairing".toList then
      match answers.tray with
      | some _ => (some .armPairing, ["ok".toList])
      | none => (none, [valueLine "error"
          "pairing needs the tray; restart without --no-tray".toList])
    else (none, [valueLine "error" "unknown command".toList])

/-- What `handle_client` writes, all of it. -/
def written (lines : List Text) : Text := writeLines '\n' lines

/-! ## The client's end -/

/-- `split` -/
def splitKeyword (line : Text) : Text × Text := (splitOnce ' ' line).getD (line, [])

/-- The keyword under which the client reads a line. -/
def keyword (line : Text) : Text := (splitKeyword line).1

structure PhoneEntry where
  name : String
  connected : Bool
  deriving DecidableEq, Repr

/-- What `parse_phones` makes of a line. -/
def parsePhone (line : Text) : Option PhoneEntry :=
  if keyword line = "phone".toList then
    (rsplitOnce ' ' (splitKeyword line).2).map fun parts =>
      ⟨String.ofList parts.1, parts.2 = "connected".toList⟩
  else none

def parsePhones (lines : List Text) : List PhoneEntry := lines.filterMap parsePhone

/-- The command line of `ControlLink::unpair_phone`. -/
def unpairCommand (name : String) : Text := valueLine "unpair-phone" name.toList ++ ['\n']

/-- What `ControlLink::unpair_phone` makes of the reply. -/
def unpairResult (lines : List Text) : Except Text Unit :=
  match lines.head? with
  | none => .error "unexpected reply from edge-kvm".toList
  | some line =>
    if keyword line = "unpaired".toList ∨ keyword line = "not-paired".toList then .ok ()
    else if keyword line = "error".toList then .error (splitKeyword line).2
    else .error "unexpected reply from edge-kvm".toList

/-! ## The phones -/

/-- `PhoneSessions::connected` -/
def PhoneSessions.connected (phones : PhoneSessions) : List String :=
  (phones.sessions.entries.filter fun entry =>
    !entry.2.pairing && decide (entry.2.stage ≠ .finished)).map fun entry => entry.2.name

/-- `PhoneRequest::List` -/
def PhoneSessions.list (phones : PhoneSessions) (pins : PinStore) : List (String × Bool) :=
  pins.phones.keys.map fun name => (name, phones.connected.contains name)

/-- The receiver as the control socket sees it. -/
structure ControlledReceiver where
  pins : PinStore
  phones : PhoneSessions
  /-- `pins.save` succeeds. -/
  saved : Bool
  /-- The outcome of `NotificationHub::remove_phone`. -/
  removal : Except String Unit

namespace ControlledReceiver

/-- The answers of a receiver; what it does not decide is given. -/
def answers (r : ControlledReceiver) (other : ControlAnswers) : ControlAnswers :=
  { other with
    unpair := fun name => (r.phones.unpair r.pins name r.saved r.removal).2.2
    phones := r.phones.list r.pins }

/-- The pins behind a request. -/
def pinsAfter (r : ControlledReceiver) : Option ControlRequest → PinStore
  | some (.unpair name) => (r.phones.unpair r.pins name r.saved r.removal).2.1
  | _ => r.pins

end ControlledReceiver

end EdgeKvm.Pairing
