import EdgeKvm.Session.Protocol

/-!
# The audio stream of one end

The audio variables both session loops keep: the committed source, the stream objects, the task
that starts a sender and the channel it reports through. An aborted task may already be past its
last await point, so it may still report.
-/

namespace EdgeKvm.Session

/-- `AudioStartResult`; a result that is not an error holds the sender it started. -/
structure AudioStartResult where
  generation : Nat
  result : Except String SessionSecrets

/-- A spawned start task that has not ended. -/
structure AudioStartTask where
  generation : Nat
  secrets : SessionSecrets
  aborted : Bool := false

/-- The audio variables of a session loop: `sender` and `receiver` are the secrets of the stream
    objects held, `startTask` says whether a task handle is held, `tasks` are the tasks still
    running and `results` the unread channel. `stored` is the route in `audio.toml`. -/
structure AudioEnd where
  source : Option String := none
  sender : Option SessionSecrets := none
  receiver : Option SessionSecrets := none
  startTask : Bool := false
  generation : Nat := 0
  tasks : List AudioStartTask := []
  results : List AudioStartResult := []
  stored : Option (Option String) := none

namespace AudioEnd

/-- `drop(audio_start_task.take())`: the handle aborts its task. -/
def dropStartTask (audio : AudioEnd) : AudioEnd :=
  { audio with
    startTask := false
    tasks := audio.tasks.map fun task => { task with aborted := true } }

/-- `audio_start_generation.wrapping_add(1)`. -/
def nextGeneration (audio : AudioEnd) : Nat := (audio.generation + 1) % UInt64.size

/-- The statements every route change, pause and stop runs. -/
def stopStreams (audio : AudioEnd) : AudioEnd :=
  { audio.dropStartTask with
    generation := audio.nextGeneration, sender := none, receiver := none }

/-- The end of the session: every stream object is dropped. -/
def finish (audio : AudioEnd) : AudioEnd :=
  { audio.dropStartTask with sender := none, receiver := none }

/-- `Start`: an older sender is stopped and a new start task spawned. -/
def spawnStart (audio : AudioEnd) (secrets : SessionSecrets) : AudioEnd :=
  { audio.dropStartTask with
    sender := none
    startTask := true
    generation := audio.nextGeneration
    tasks := audio.dropStartTask.tasks ++ [{ generation := audio.nextGeneration, secrets }] }

/-- A start task ends and reports. -/
def report (audio : AudioEnd) (index : Nat) (failure : Option String) : Option AudioEnd :=
  audio.tasks[index]?.map fun task =>
    { audio with
      tasks := audio.tasks.eraseIdx index
      results := audio.results ++
        [{ generation := task.generation
           result := failure.elim (.ok task.secrets) .error }] }

/-- An aborted start task ends without a report. -/
def cancel (audio : AudioEnd) (index : Nat) : Option AudioEnd :=
  audio.tasks[index]?.bind fun task =>
    if task.aborted then some { audio with tasks := audio.tasks.eraseIdx index } else none

/-- The `audio_start_rx` branch, and the frame it sends; `none` while its guard is false. -/
def takeResult (audio : AudioEnd) : Option (AudioEnd × Option AudioControl) :=
  if audio.startTask then
    match audio.results with
    | [] => none
    | started :: results =>
      if started.generation ≠ audio.generation then
        some ({ audio with results }, none)
      else
        match started.result with
        | .ok secrets =>
          some ({ audio with results, startTask := false, sender := some secrets },
            some (.state .streaming none))
        | .error error =>
          some ({ audio with results, startTask := false }, some (.state .error (some error)))
  else
    none

end AudioEnd

/-- `edge_audio::FRAME_MS`. -/
def frameMs : Nat := 5

end EdgeKvm.Session
