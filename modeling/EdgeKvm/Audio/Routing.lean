import EdgeKvm.Lib.Machine
import Mathlib.Logic.Function.Basic

/-!
# Redirecting the sound of this computer

While its sound is played by a peer, the default sink of a computer is a null sink. The journal of a
redirect says how to undo it, and is written before the default changes. Every command and every
file operation of `AudioRoutingGuard` is one step, at which it may fail, or the task that runs it
may be aborted.
-/

namespace EdgeKvm.Audio

open EdgeKvm.Lib

/-- `REMOTE_SINK` and `PHONE_SINK`. -/
inductive VirtualSink where
  | remote
  | phone
  deriving DecidableEq, Repr

/-- `VirtualSink::name`. -/
def VirtualSink.name : VirtualSink → String
  | .remote => "edge_kvm_remote"
  | .phone => "edge_kvm_phone"

/-- `SINKS`. -/
def virtualSinks : List VirtualSink := [.phone, .remote]

/-- A sink that a computer has, or one of a null-sink module. -/
inductive Sink where
  | device (name : String)
  | virtual (sink : VirtualSink)
  deriving DecidableEq, Repr

/-- `RoutingJournal`. -/
structure RoutingJournal where
  previousSink : Sink
  moduleId : Nat
  deriving DecidableEq, Repr

/-! ## The sound server -/

/-- The sinks, the null-sink modules by their numbers, and the streams of all programs by theirs. -/
structure SoundServer where
  devices : List String
  defaultSink : Sink
  modules : List (Nat × VirtualSink) := []
  nextModule : Nat := 0
  inputs : List (Nat × Sink) := []

namespace SoundServer

def loaded (s : SoundServer) (sink : VirtualSink) : Bool := s.modules.any (·.2 = sink)

def hasSink (s : SoundServer) : Sink → Bool
  | .device name => s.devices.contains name
  | .virtual sink => s.loaded sink

/-- `pactl set-default-sink`. -/
def setDefaultSink (s : SoundServer) (sink : Sink) : Option SoundServer :=
  if s.hasSink sink then some { s with defaultSink := sink } else none

/-- `pactl list short sink-inputs`. -/
def sinkInputs (s : SoundServer) : List Nat := s.inputs.map (·.1)

/-- `pactl move-sink-input`. -/
def moveSinkInput (s : SoundServer) (input : Nat) (sink : Sink) : Option SoundServer :=
  if s.hasSink sink ∧ input ∈ s.sinkInputs then
    some { s with
      inputs := s.inputs.map fun held => if held.1 = input then (input, sink) else held }
  else
    none

/-- `pactl load-module module-null-sink`. -/
def loadModule (s : SoundServer) (sink : VirtualSink) : SoundServer :=
  { s with modules := (s.nextModule, sink) :: s.modules, nextModule := s.nextModule + 1 }

/-- `pactl unload-module`. -/
def unloadModule (s : SoundServer) (moduleId : Nat) : SoundServer :=
  { s with modules := s.modules.filter (·.1 ≠ moduleId) }

end SoundServer

/-! ## The calls -/

/-- A journal file; one that is being written cannot be read. -/
inductive JournalFile where
  | missing
  | torn
  | whole (journal : RoutingJournal)
  deriving DecidableEq, Repr

/-- The call a task runs: `activate_sink`, the rest of one that could not route the streams,
    `restore_now`, the task of `drop`, and `recover_portable_routing` with the sinks it still has
    to recover. -/
inductive RoutingCall where
  | activate (redirect : Bool)
  | failed
  | restoreNow
  | dropped
  | recover (rest : List VirtualSink)
  deriving DecidableEq, Repr

/-- What a call does next. -/
inductive RoutingStage where
  | readJournal
  | restoreDefault (journal : RoutingJournal)
  | restoreList (journal : RoutingJournal)
  | restoreMove (journal : RoutingJournal) (inputs : List Nat)
  | unload (journal : RoutingJournal)
  | removeJournal
  | getDefault
  | load (previousSink : Sink)
  | createJournal (journal : RoutingJournal)
  | writeJournal (journal : RoutingJournal)
  | setDefault (journal : RoutingJournal)
  | list (journal : RoutingJournal)
  | move (journal : RoutingJournal) (inputs : List Nat)
  deriving DecidableEq, Repr

structure RoutingTask where
  sink : VirtualSink
  call : RoutingCall
  stage : RoutingStage
  deriving DecidableEq, Repr

/-- `AudioRoutingGuard`; `journal` is `none` for a stream that redirects nothing. -/
structure AudioRoutingGuard where
  sink : VirtualSink
  journal : Option RoutingJournal
  deriving DecidableEq, Repr

/-- The sound server, the journal files, and what the process holds: its guards, the calls it
    runs, and how the last call returned unless another has begun since. -/
structure Routing where
  server : SoundServer
  journals : VirtualSink → JournalFile := fun _ => .missing
  guards : List AudioRoutingGuard := []
  tasks : List RoutingTask := []
  returned : Option (RoutingCall × Bool) := none

/-- How a call goes on: with another step, or by returning. -/
inductive RoutingNext where
  | goesOn (task : RoutingTask)
  | returns (ok : Bool) (made : Option AudioRoutingGuard)

namespace RoutingTask

variable (t : RoutingTask)

def goTo (stage : RoutingStage) : RoutingNext := .goesOn { t with stage }

/-- Behind the journal of a sink that needs no recovery, or that has been removed. -/
def afterRemoval : RoutingNext :=
  match t.call with
  | .activate _ => t.goTo .getDefault
  | .failed => .returns false none
  | .restoreNow | .dropped => .returns true none
  | .recover [] => .returns true none
  | .recover (sink :: rest) => .goesOn { sink, call := .recover rest, stage := .readJournal }

/-- `route_to_virtual_sink` has failed. -/
def undo (journal : RoutingJournal) : RoutingNext :=
  .goesOn { t with call := .failed, stage := .restoreDefault journal }

/-- One step of a call. A command or a file operation that `fails` has no effect, a default sink
    without a name counts as a failure to get it. -/
def step (server : SoundServer) (file : JournalFile) (fails : Bool) :
    SoundServer × JournalFile × RoutingNext :=
  match t.stage with
  | .readJournal =>
    if fails then (server, file, .returns false none)
    else
      match file with
      | .missing => (server, file, t.afterRemoval)
      | .torn => (server, file, .returns false none)
      | .whole journal => (server, file, t.goTo (.restoreDefault journal))
  | .restoreDefault journal =>
    let set := if fails then none else server.setDefaultSink journal.previousSink
    (set.getD server, file, t.goTo (.restoreList journal))
  | .restoreList journal =>
    if fails then (server, file, t.goTo (.unload journal))
    else (server, file, t.goTo (.restoreMove journal server.sinkInputs))
  | .restoreMove journal [] => (server, file, t.goTo (.unload journal))
  | .restoreMove journal (input :: inputs) =>
    let moved := if fails then none else server.moveSinkInput input journal.previousSink
    (moved.getD server, file, t.goTo (.restoreMove journal inputs))
  | .unload journal =>
    (if fails then server else server.unloadModule journal.moduleId, file, t.goTo .removeJournal)
  | .removeJournal =>
    if fails then (server, file, .returns (t.call = .dropped) none)
    else (server, .missing, t.afterRemoval)
  | .getDefault =>
    if fails then (server, file, .returns false none)
    else if t.call = .activate true then (server, file, t.goTo (.load server.defaultSink))
    else (server, file, .returns true (some { sink := t.sink, journal := none }))
  | .load previousSink =>
    if fails then (server, file, .returns false none)
    else
      (server.loadModule t.sink, file,
        t.goTo (.createJournal { previousSink, moduleId := server.nextModule }))
  | .createJournal journal =>
    if fails then (server, file, .returns false none)
    else (server, .torn, t.goTo (.writeJournal journal))
  | .writeJournal journal =>
    if fails then (server, file, .returns false none)
    else (server, .whole journal, t.goTo (.setDefault journal))
  | .setDefault journal =>
    match if fails then none else server.setDefaultSink (.virtual t.sink) with
    | some set => (set, file, t.goTo (.list journal))
    | none => (server, file, t.undo journal)
  | .list journal =>
    if fails then (server, file, t.undo journal)
    else (server, file, t.goTo (.move journal server.sinkInputs))
  | .move journal [] =>
    (server, file, .returns true (some { sink := t.sink, journal := some journal }))
  | .move journal (input :: inputs) =>
    match if fails then none else server.moveSinkInput input (.virtual t.sink) with
    | some moved => (moved, file, t.goTo (.move journal inputs))
    | none => (server, file, t.undo journal)

end RoutingTask

/-- A call begins, a guard is stopped or dropped, a call takes a step, a task is aborted, the
    process ends, or another program opens, closes or moves a stream. -/
inductive RoutingAction where
  | activate (sink : VirtualSink) (redirect : Bool)
  | restoreNow (index : Nat)
  | drop (index : Nat)
  | recover
  | step (index : Nat) (fails : Bool)
  | abort (index : Nat)
  | crash
  | streams (inputs : List (Nat × Sink))

namespace Routing

/-- A call begins. -/
def begin (r : Routing) (task : RoutingTask) : Routing :=
  { r with tasks := r.tasks ++ [task], returned := none }

/-- A step of the call at `index`. -/
def stepTask (r : Routing) (index : Nat) (task : RoutingTask) (fails : Bool) : Routing :=
  let (server, file, next) := task.step r.server (r.journals task.sink) fails
  let r := { r with server, journals := Function.update r.journals task.sink file }
  match next with
  | .goesOn task => { r with tasks := r.tasks.set index task }
  | .returns ok made =>
    { r with
      tasks := r.tasks.eraseIdx index
      guards := r.guards ++ made.toList
      returned := some (task.call, ok) }

/-- `restore_now`, behind which the guard is gone. -/
def restoreNow (r : Routing) (index : Nat) (guard : AudioRoutingGuard) : Routing :=
  { r with guards := r.guards.eraseIdx index }.begin
    { sink := guard.sink, call := .restoreNow
      stage := guard.journal.elim .removeJournal .restoreDefault }

/-- `Drop for AudioRoutingGuard`. -/
def drop (r : Routing) (index : Nat) (guard : AudioRoutingGuard) : Routing :=
  let r := { r with guards := r.guards.eraseIdx index }
  match guard.journal with
  | none => r
  | some journal =>
    r.begin { sink := guard.sink, call := .dropped, stage := .restoreDefault journal }

/-- Everything that can happen to the routing. -/
def machine : Machine Routing RoutingAction where
  exec r
    | .activate sink redirect =>
      some (r.begin { sink, call := .activate redirect, stage := .readJournal })
    | .restoreNow index => r.guards[index]?.map (r.restoreNow index)
    | .drop index => r.guards[index]?.map (r.drop index)
    | .recover =>
      match virtualSinks with
      | [] => none
      | sink :: rest => some (r.begin { sink, call := .recover rest, stage := .readJournal })
    | .step index fails => r.tasks[index]?.map fun task => r.stepTask index task fails
    | .abort index =>
      r.tasks[index]?.map fun _ => { r with tasks := r.tasks.eraseIdx index, returned := none }
    | .crash => some { r with tasks := [], guards := [], returned := none }
    | .streams inputs => some { r with server := { r.server with inputs } }

end Routing

/-! ## Where the sound of a phone is played -/

/-- `choose_phone_sink`. -/
def choosePhoneSink (default : Sink) (phonePrevious : Option Sink) (available : List Sink) : Sink :=
  if default ≠ .virtual .phone then default
  else
    ((phonePrevious.toList ++ available).find? fun sink =>
      sink ≠ .virtual .phone && available.contains sink).getD default

namespace Routing

/-- `pactl list short sinks`. -/
def sinks (r : Routing) : List Sink :=
  r.server.devices.map .device ++ r.server.modules.map fun loaded => .virtual loaded.2

/-- `phone_playback_sink`, whose three reads see one state. -/
def phonePlaybackSink (r : Routing) : Sink :=
  choosePhoneSink r.server.defaultSink
    (match r.journals .phone with
      | .whole journal => some journal.previousSink
      | _ => none)
    r.sinks

end Routing

end EdgeKvm.Audio
