import EdgeKvm.Lib.Handler
import EdgeKvm.Lib.Table
import EdgeKvm.Notification.PhoneSource

/-!
# The mirror of a phone's notifications

`NotificationMirror` of `notifications.rs`, with the desktop it shows notifications on. Every call
on the desktop addresses the daemon by the bus name the mirror last saw, so a daemon that has
started since does not get it. The daemon numbers what it shows and starts again when it restarts.
-/

namespace EdgeKvm.Notification

open EdgeKvm.Lib Handler

/-- `DesktopNotification`. -/
structure DesktopNotification where
  appName : String
  summary : String
  body : String
  iconPng : Option (List UInt8)
  deriving DecidableEq, Repr

/-- `desktop_notification`. -/
def desktopNotification (phone : PhoneNotification) (phoneName : String) : DesktopNotification :=
  let app := truncateChars phone.appName 64
  let title := truncateChars phone.title 256
  let summary := if title.toList.all isWhiteSpace then app else title
  { appName := app ++ " (" ++ phoneName ++ ")"
    summary := escapeMarkup summary
    body := escapeMarkup (truncateBytes phone.body 4096)
    iconPng := phone.iconPng.filter fun png => png.length ≤ maxIconBytes }

/-- `Shown`. -/
structure Shown where
  desktopId : UInt32
  digest : UInt64
  deriving DecidableEq, Repr

/-- `NotificationMirror`. `owner` is the bus name of the daemon; names are numbered from 1 in the
    order in which the bus gives them out, and 0 is the empty name. -/
structure NotificationMirror where
  shown : Table Nat Shown := ∅
  resent : Option (Finset Nat) := none
  owner : Nat := 0

/-- The daemon: its bus name and what it shows for this mirror. `given` and `touched` are the
    numbers it gave the mirror and those the mirror replaced or closed, each with the bus name the
    daemon had then. -/
structure MirrorDesktop where
  generation : Nat := 1
  opened : Table UInt32 DesktopNotification := ∅
  given : List (Nat × UInt32) := []
  touched : List (Nat × UInt32) := []

/-- How a call on the bus goes. The daemon may have restarted since the call before; `id` is the
    number a notification gets that replaces none. -/
structure DesktopAnswer where
  restarted : Bool := false
  accepted : Bool := true
  id : UInt32 := 0
  deriving DecidableEq, Repr

/-- What `apply` fails with. -/
inductive MirrorError where
  /-- The bus does not tell who owns the name of the daemon. -/
  | noOwner
  /-- "the desktop refused the notification" -/
  | refused
  /-- "couldn't close the desktop notification" -/
  | unclosed
  /-- The cache could not be written. -/
  | unsaved
  deriving DecidableEq, Repr

/-- The mirror, its desktop, the answers the desktop still gives, and the phone ids that were
    posted since the last `SnapshotStart`. -/
structure MirrorWorld where
  mirror : NotificationMirror := {}
  desktop : MirrorDesktop := {}
  answers : List DesktopAnswer := []
  sent : Option (Finset Nat) := none

namespace MirrorDesktop

/-- A new daemon shows nothing. -/
def restart (desktop : MirrorDesktop) : MirrorDesktop :=
  { desktop with generation := desktop.generation + 1, opened := ∅ }

def advance (desktop : MirrorDesktop) (answer : DesktopAnswer) : MirrorDesktop :=
  if answer.restarted then desktop.restart else desktop

/-- Opens a notification under a fresh number. -/
def give (desktop : MirrorDesktop) (id : UInt32) (notification : DesktopNotification) :
    MirrorDesktop :=
  { desktop with
    opened := desktop.opened.insert id notification
    given := (desktop.generation, id) :: desktop.given }

def replace (desktop : MirrorDesktop) (id : UInt32) (notification : DesktopNotification) :
    MirrorDesktop :=
  { desktop with
    opened := desktop.opened.insert id notification
    touched := (desktop.generation, id) :: desktop.touched }

def erase (desktop : MirrorDesktop) (id : UInt32) : MirrorDesktop :=
  { desktop with
    opened := desktop.opened.erase id
    touched := (desktop.generation, id) :: desktop.touched }

end MirrorDesktop

namespace MirrorWorld

/-- The mirror knows the daemon that runs. -/
def Current (w : MirrorWorld) : Prop := w.mirror.owner = w.desktop.generation

instance (w : MirrorWorld) : Decidable w.Current :=
  inferInstanceAs (Decidable (w.mirror.owner = w.desktop.generation))

def answer (w : MirrorWorld) : DesktopAnswer := w.answers.headD {}

/-- The desktop answers the next call. -/
def next (w : MirrorWorld) : MirrorWorld :=
  { w with desktop := w.desktop.advance w.answer, answers := w.answers.tail }

def withDesktop (w : MirrorWorld) (desktop : MirrorDesktop) : MirrorWorld := { w with desktop }

def withShown (w : MirrorWorld) (shown : Table Nat Shown) : MirrorWorld :=
  { w with mirror := { w.mirror with shown } }

def withResent (w : MirrorWorld) (resent : Option (Finset Nat)) : MirrorWorld :=
  { w with mirror := { w.mirror with resent } }

end MirrorWorld

/-- The body of `apply`. -/
abbrev MirrorM (α : Type) : Type := Handler MirrorWorld Empty MirrorError α

namespace NotificationMirror

open MirrorWorld

/-- `generation` and `sync_owner`. -/
def syncOwner : MirrorM Unit := do
  let before ← read
  update MirrorWorld.next
  if before.answer.accepted = false then leave .noOwner
  let w ← read
  if ¬ w.Current then
    update fun w => { w with mirror := { owner := w.desktop.generation } }

/-- `FreedesktopNotifications::show`. The daemon gives numbers that are not zero and not in use. -/
def show' (notification : DesktopNotification) (replaces : UInt32) : MirrorM UInt32 := do
  let before ← read
  update MirrorWorld.next
  let w ← read
  if ¬ w.Current ∨ before.answer.accepted = false then leave .refused
  else if replaces = 0 then
    if before.answer.id = 0 ∨ before.answer.id ∈ w.desktop.opened then leave .refused
    else do
      update fun w => w.withDesktop (w.desktop.give before.answer.id notification)
      pure before.answer.id
  else do
    update fun w => w.withDesktop (w.desktop.replace replaces notification)
    pure replaces

/-- `FreedesktopNotifications::close`. -/
def close (id : UInt32) : MirrorM Unit := do
  let before ← read
  update MirrorWorld.next
  let w ← read
  if ¬ w.Current ∨ before.answer.accepted = false then leave .unclosed
  else update fun w => w.withDesktop (w.desktop.erase id)

/-- `persist`. -/
def persist (saved : DesktopAnswer) : MirrorM Unit := do
  update fun w => w.withDesktop (w.desktop.advance saved)
  if saved.accepted = false then leave .unsaved

/-- Takes an entry out of `shown`, and then closes it. -/
def forget (id : Nat) : MirrorM Unit := do
  let w ← read
  match w.mirror.shown.lookup id with
  | none => pure ()
  | some shown => do
    update fun w => w.withShown (w.mirror.shown.erase id)
    close shown.desktopId

/-- The loop of `SnapshotEnd`; the first error ends it. -/
def forgetAll : List Nat → MirrorM Unit
  | [] => pure ()
  | id :: rest => do
    forget id
    forgetAll rest

/-- The phone ids in `shown` that were not resent, in the order in which the map yields them. -/
def gone (mirror : NotificationMirror) (resent : Finset Nat) (order : List Nat) : List Nat :=
  let ids := mirror.shown.keys.filter (· ∉ resent)
  order.filter (· ∈ ids) ++ ids.filter (· ∉ order)

end NotificationMirror

/-- One call of `apply`: the event, how the calls on the desktop go, the order of the map. -/
structure ApplyCall where
  event : NotificationEvent
  phoneName : String := ""
  generation : DesktopAnswer := {}
  answers : List DesktopAnswer := []
  saved : DesktopAnswer := {}
  order : List Nat := []

namespace NotificationMirror

open MirrorWorld

variable (digest : DesktopNotification → UInt64)

/-- Shows a notification, unless the entry of the phone id has the same digest. -/
def present (id : Nat) (notification : DesktopNotification) (saved : DesktopAnswer) :
    MirrorM Unit := do
  let w ← read
  let existing := w.mirror.shown.lookup id
  if existing.map (·.digest) = some (digest notification) then pure ()
  else do
    let desktopId ← show' notification ((existing.map (·.desktopId)).getD 0)
    update fun w => w.withShown (w.mirror.shown.insert id ⟨desktopId, digest notification⟩)
    persist saved

/-- `Posted`. -/
def post (phone : PhoneNotification) (phoneName : String) (saved : DesktopAnswer) :
    MirrorM Unit := do
  update fun w => w.withResent (w.mirror.resent.map (insert phone.id))
  present digest phone.id (desktopNotification phone phoneName) saved

/-- `SnapshotEnd`. -/
def endSnapshot (order : List Nat) (saved : DesktopAnswer) : MirrorM Unit := do
  let w ← read
  match w.mirror.resent with
  | none => pure ()
  | some resent => do
    update fun w => w.withResent none
    forgetAll (w.mirror.gone resent order)
    persist saved

/-- The `match` of `apply`. -/
def handle (call : ApplyCall) : MirrorM Unit :=
  match call.event with
  | .posted phone => post digest phone call.phoneName call.saved
  | .removed id => do
    forget id
    persist call.saved
  | .snapshotStart => do
    update fun w => w.withResent (some ∅)
    persist call.saved
  | .snapshotEnd => endSnapshot call.order call.saved

/-- `apply`. -/
def apply (call : ApplyCall) : MirrorM Unit := do
  syncOwner
  handle digest call

end NotificationMirror

/-- The events whose calls on the desktop are closes. -/
def NotificationEvent.closes : NotificationEvent → Bool
  | .removed _ | .snapshotEnd => true
  | .posted _ | .snapshotStart => false

/-- What the phone has sent after an event. -/
def sentAfter (sent : Option (Finset Nat)) : NotificationEvent → Option (Finset Nat)
  | .posted phone => sent.map (insert phone.id)
  | .removed _ => sent
  | .snapshotStart => some ∅
  | .snapshotEnd => none

/-- The phone sends an event, whose answers are those of the call. -/
def MirrorWorld.begin (w : MirrorWorld) (call : ApplyCall) : MirrorWorld :=
  { w with answers := call.generation :: call.answers, sent := sentAfter w.sent call.event }

/-- The mirror applies one event after the other; an error of `apply` is only logged. -/
def mirrorMachine (digest : DesktopNotification → UInt64) : Machine MirrorWorld ApplyCall where
  exec w call := some (NotificationMirror.apply digest call (w.begin call)).state

end EdgeKvm.Notification
