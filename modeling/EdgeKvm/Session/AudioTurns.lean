import EdgeKvm.Session.Audio

/-!
# What one turn does to the audio of an end

`AudioEnd.Turned` lists everything a turn of either loop can do to its audio variables, with the
audio messages it sends.
-/

namespace EdgeKvm.Session

/-! ## Audio messages -/

def Frame.audioControl : Frame → Option AudioControl
  | .audio message => some message
  | _ => none

/-- The audio messages among frames. -/
def audioControls (frames : List Frame) : List AudioControl := frames.filterMap Frame.audioControl

/-- The audio messages among the effects. -/
def spoken (effects : List Effect) : List AudioControl := audioControls (sent effects)

/-- The messages that say what the route is. -/
def AudioControl.isRoute : AudioControl → Bool
  | .setRoute _ | .setEnabled _ => true
  | _ => false

/-- The secrets a `Start` carries. -/
def AudioControl.startSecrets : AudioControl → Option SessionSecrets
  | .start _ secrets _ _ _ => some secrets
  | _ => none

/-- The route of a listener that is told `control`. -/
def AudioControl.route (listener : String) (source : Option String) : AudioControl → Option String
  | .setRoute source => source
  | .setEnabled enabled => if enabled then some listener else none
  | _ => source

/-- The secrets of the `Start` messages, oldest first. -/
def startSecrets (controls : List AudioControl) : List SessionSecrets :=
  controls.filterMap AudioControl.startSecrets

section Spoken

variable {a b rest : List Effect} {frame : Frame} {event : InputEvent}

@[simp] theorem spoken_nil : spoken [] = [] := rfl

@[simp] theorem spoken_append : spoken (a ++ b) = spoken a ++ spoken b := by
  simp [spoken, audioControls, sent]

@[simp] theorem spoken_send :
    spoken (.send frame :: rest) = frame.audioControl.toList ++ spoken rest := by
  cases spoke : frame.audioControl <;> simp [spoken, audioControls, sent, spoke]

@[simp] theorem spoken_inject : spoken (.inject event :: rest) = spoken rest := rfl

theorem audioControls_append {frames more : List Frame} :
    audioControls (frames ++ more) = audioControls frames ++ audioControls more :=
  List.filterMap_append

@[simp] theorem startSecrets_nil : startSecrets [] = [] := rfl

@[simp] theorem startSecrets_cons {control : AudioControl} {controls : List AudioControl} :
    startSecrets (control :: controls) = control.startSecrets.toList ++ startSecrets controls := by
  cases started : control.startSecrets <;> simp [startSecrets, started]

theorem startSecrets_append {controls more : List AudioControl} :
    startSecrets (controls ++ more) = startSecrets controls ++ startSecrets more :=
  List.filterMap_append

end Spoken

/-! ## The audio of one end -/

namespace AudioEnd

/-- A `Start` that an end with this source refuses. -/
def Refuses (localFingerprint : String) (a : AudioEnd) (received : Option AudioControl) : Prop :=
  ∀ udpPort secrets jitterTargetMs,
    received = some (.start udpPort secrets .pcmS16Stereo48Khz frameMs jitterTargetMs) →
    udpPort ≠ 0 → a.source ≠ some localFingerprint

/-- What a turn does to the audio variables of an end, and the audio messages it sends. -/
inductive Turned (p : Platform) (localFingerprint peerFingerprint : String) (audioPort : Nat)
    (received : Option AudioControl) (a : AudioEnd) : AudioEnd → List AudioControl → Prop
  /-- Nothing changes. -/
  | same {out : List AudioControl} (refused : a.Refuses localFingerprint received)
      (quiet : startSecrets out = []) :
      Turned p localFingerprint peerFingerprint audioPort received a a out
  /-- The streams are stopped, for a route that may be another. -/
  | stopped (source : Option String) (stored : Option (Option String)) {out : List AudioControl}
      (quiet : startSecrets out = []) :
      Turned p localFingerprint peerFingerprint audioPort received a
        { a.stopStreams with source, stored } out
  /-- Streams have ended on their own. -/
  | reaped {sender receiver : Option SessionSecrets} {out : List AudioControl}
      (own : received = none) (fewerSenders : sender = none ∨ sender = a.sender)
      (fewerReceivers : receiver = none ∨ receiver = a.receiver)
      (quiet : startSecrets out = []) :
      Turned p localFingerprint peerFingerprint audioPort received a { a with sender, receiver } out
  /-- A start task ends. -/
  | ended {a' : AudioEnd} (own : received = none)
      (ends : ∃ index, (∃ failure, a.report index failure = some a') ∨ a.cancel index = some a') :
      Turned p localFingerprint peerFingerprint audioPort received a a' []
  /-- The report of a start task is taken. -/
  | started {a' : AudioEnd} {control : Option AudioControl} {out : List AudioControl}
      (own : received = none) (taken : a.takeResult = some (a', control))
      (quiet : startSecrets out = []) :
      Turned p localFingerprint peerFingerprint audioPort received a a' out
  /-- An `Offer` is answered with a `Start`, behind which the receiver starts or fails to. -/
  | answered (jitterTargetMs : Nat) (control : AudioControl)
      (offer : ∀ answer, received = some answer → answer.startSecrets = none)
      (receives : a.source = some peerFingerprint) (quiet : control.startSecrets = none) :
      Turned p localFingerprint peerFingerprint audioPort received a
        { a with receiver := if p.receiverStart.isNone then some p.secrets else a.receiver }
        [.start audioPort p.secrets .pcmS16Stereo48Khz frameMs jitterTargetMs, control]
  /-- A `Start` is followed by a start task. -/
  | spawned {udpPort jitterTargetMs : Nat} {codec : AudioCodec} {frame : Nat}
      {secrets : SessionSecrets} {out : List AudioControl}
      (asked : received = some (.start udpPort secrets codec frame jitterTargetMs))
      (sends : a.source = some localFingerprint) (quiet : startSecrets out = []) :
      Turned p localFingerprint peerFingerprint audioPort received a (a.spawnStart secrets) out

theorem refuses_none {a : AudioEnd} {localFingerprint : String} :
    a.Refuses localFingerprint none := by
  intro _ _ _ absent
  cases absent

/-- A start task that ends is counted once more, as a result or not at all. -/
theorem ended_eq_some {a a' : AudioEnd}
    (ends : ∃ index, (∃ failure, a.report index failure = some a') ∨ a.cancel index = some a') :
    a'.source = a.source ∧ ∃ index task, a.tasks[index]? = some task ∧
      (a' = { a with tasks := a.tasks.eraseIdx index } ∨
        ∃ result, (∀ secrets, result = .ok secrets → secrets = task.secrets) ∧
          a' = { a with
            tasks := a.tasks.eraseIdx index
            results := a.results ++ [{ generation := task.generation, result }] }) := by
  obtain ⟨index, ⟨failure, reported⟩ | cancelled⟩ := ends
  · obtain ⟨task, running, rfl⟩ := Option.map_eq_some_iff.mp reported
    refine ⟨rfl, index, task, running, .inr ⟨_, ?_, rfl⟩⟩
    cases failure with
    | none =>
      rintro secrets ⟨⟩
      rfl
    | some error =>
      intro secrets other
      cases other
  · obtain ⟨task, running, ended⟩ := Option.bind_eq_some_iff.mp cancelled
    split at ended
    · cases ended
      exact ⟨rfl, index, task, running, .inl rfl⟩
    · cases ended

/-- The branches of the report of a start task. -/
theorem takeResult_eq_some {a a' : AudioEnd} {control : Option AudioControl}
    (taken : a.takeResult = some (a', control)) :
    a'.source = a.source ∧
      (∃ started results, a.startTask = true ∧ a.results = started :: results ∧
        (started.generation ≠ a.generation ∧ a' = { a with results } ∨
          started.generation = a.generation ∧ ∃ sender, a' = { a with
            results, startTask := false, sender } ∧
            (sender = a.sender ∨ ∃ secrets, sender = some secrets ∧
              started.result = .ok secrets))) ∧
      ∀ message, control = some message →
        message.isRoute = false ∧ message.startSecrets = none := by
  unfold takeResult at taken
  split at taken
  · rename_i held
    split at taken
    · cases taken
    · rename_i started results unread
      split at taken
      · rename_i older
        cases taken
        refine ⟨rfl, ⟨started, results, held, unread, .inl ⟨older, rfl⟩⟩, ?_⟩
        intro message absent
        cases absent
      · rename_i current
        have current := not_not.mp current
        cases result : started.result with
        | ok secrets =>
          rw [result] at taken
          cases taken
          refine ⟨rfl, ⟨started, results, held, unread, .inr ⟨current, some secrets, rfl,
            .inr ⟨secrets, rfl, result⟩⟩⟩, ?_⟩
          rintro message ⟨⟩
          exact ⟨rfl, rfl⟩
        | error error =>
          rw [result] at taken
          cases taken
          refine ⟨rfl, ⟨started, results, held, unread, .inr ⟨current, a.sender, rfl,
            .inl rfl⟩⟩, ?_⟩
          rintro message ⟨⟩
          exact ⟨rfl, rfl⟩
  · cases taken

end AudioEnd

end EdgeKvm.Session
