import EdgeKvm.Clipboard.LiveTurns
import EdgeKvm.Clipboard.RoundTrip
import EdgeKvm.Lib.Log
import Mathlib.Data.List.Nodup
import Mathlib.Data.List.Range

/-!
# The order of live input

A whole Windows session as a machine, with a log of what it was handed and what it wrote. Live
input is written in order behind a paste barrier, except the pointer's motion, which passes it.
-/

namespace EdgeKvm.Clipboard

open EdgeKvm.Lib Handler Machine

/-! ## The session -/

/-- The branches of the session loop that use the clipboard, the task that sends a delayed
    request, and the changes of the variables around it. -/
inductive LiveEvent where
  | input (frame : Session.Frame) (system : WindowsClipboard)
  | peer (event : ClipboardEvent) (system : WindowsClipboard)
  | poll (system : WindowsClipboard)
  | readFinished (result : Except String (Option ClipboardItem))
  | sendChunk
  | sendTick (now : Nat)
  | requestDue
  | expireIncoming (now : Nat)
  | pause (paused : Bool)
  | configure (config : LiveConfig)

/-- An entry of the log. `began` says that a paste barrier began, with the transfer that was
    outgoing then. -/
inductive LiveObservation where
  | handed (frame : LiveFrame)
  | began (transfer : Option UInt64) (deadline : Nat)
  | received (event : ClipboardEvent)
  | tick (now : Nat)
  | wrote (frame : SessionFrame)
  deriving DecidableEq, Repr

/-- The variables of the session; the log is a history. -/
structure LiveSession where
  clipboard : LiveClipboardState
  config : LiveConfig
  paused : Bool
  requests : List ClipboardEvent := []
  log : List LiveObservation := []

/-- The live frames handed in. -/
def handedIn (log : List LiveObservation) : List LiveFrame :=
  log.filterMap fun
    | .handed frame => some frame
    | _ => none

/-- The live frames written. -/
def writtenIn (log : List LiveObservation) : List LiveFrame :=
  log.filterMap fun
    | .wrote (.live frame) => some frame
    | _ => none

section Logs

variable (log more : List LiveObservation) (frames : List SessionFrame)

@[simp] theorem handedIn_nil : handedIn [] = [] := rfl

@[simp] theorem handedIn_append : handedIn (log ++ more) = handedIn log ++ handedIn more :=
  List.filterMap_append

@[simp] theorem handedIn_handed (live : LiveFrame) :
    handedIn (.handed live :: log) = live :: handedIn log := rfl

@[simp] theorem handedIn_wrote : handedIn (frames.map .wrote) = [] := by
  simp [handedIn]

@[simp] theorem writtenIn_nil : writtenIn [] = [] := rfl

@[simp] theorem writtenIn_append : writtenIn (log ++ more) = writtenIn log ++ writtenIn more :=
  List.filterMap_append

@[simp] theorem writtenIn_wrote : writtenIn (frames.map .wrote) = liveFrames frames := by
  simp only [writtenIn, liveFrames, List.filterMap_map]
  congr 1
  funext frame
  cases frame <;> rfl

theorem mem_handedIn {live : LiveFrame} : live ∈ handedIn log ↔ .handed live ∈ log := by
  simp only [handedIn, List.mem_filterMap]
  constructor
  · rintro ⟨observation, found, same⟩
    split at same <;> cases same
    exact found
  · exact fun found => ⟨_, found, rfl⟩

theorem mem_writtenIn {live : LiveFrame} : live ∈ writtenIn log ↔ .wrote (.live live) ∈ log := by
  simp only [writtenIn, List.mem_filterMap]
  constructor
  · rintro ⟨observation, found, same⟩
    split at same <;> cases same
    exact found
  · exact fun found => ⟨_, found, rfl⟩

end Logs

namespace LiveSession

/-- The frames of the live input, in the order they were handed in. -/
def handed (s : LiveSession) : List LiveFrame := handedIn s.log

/-- The live frames written, in the order they were. -/
def written (s : LiveSession) : List LiveFrame := writtenIn s.log

/-- The frame as it is handed in next. -/
def nextFrame (s : LiveSession) (frame : Session.Frame) : LiveFrame :=
  { serial := s.handed.length, frame }

/-- What the loop does on an event. A paused session drops live input and clipboard frames, and
    sends no transfer. -/
def turn (host : LiveHost) (s : LiveSession) : LiveEvent → LiveM Unit
  | .input frame system =>
    if s.paused then pure ()
    else LiveClipboardState.liveInput host s.config system (s.nextFrame frame)
  | .peer event system =>
    if s.paused then pure ()
    else LiveClipboardState.handleRemoteEvent host s.config system event
  | .poll system =>
    if s.paused then pure () else LiveClipboardState.pollLocalChange s.config system
  | .readFinished result => LiveClipboardState.completeLocalRead host s.config s.paused result
  | .sendChunk => if s.paused then pure () else LiveClipboardState.sendNextFrame s.config
  | .sendTick now => if s.paused then pure () else LiveClipboardState.sendTick s.config now
  | .requestDue =>
    if s.paused then pure () else LiveClipboardState.sendAll s.requests.head?.toList
  | .expireIncoming now => LiveClipboardState.expireIncoming now
  | .pause _ | .configure _ => pure ()

/-- What the log says of an event before it is handled. -/
def announced (s : LiveSession) : LiveEvent → List LiveObservation
  | .input frame _ => if s.paused then [] else [.handed (s.nextFrame frame)]
  | .peer event _ => if s.paused then [] else [.received event]
  | .sendTick now => if s.paused then [] else [.tick now]
  | _ => []

/-- The entry of a barrier that began. -/
def barrierBegan (before after : LiveClipboardState) : List LiveObservation :=
  match before.pasteBarrierDeadline, after.pasteBarrierDeadline with
  | none, some deadline => [.began (after.outgoing.map (·.transferId)) deadline]
  | _, _ => []

/-- The requests whose task still sleeps. -/
def requestsAfter (s : LiveSession) (event : LiveEvent) (output : List LiveOutput) :
    List ClipboardEvent :=
  (match event with
    | .requestDue => s.requests.tail
    | _ => s.requests) ++
  output.filterMap fun
    | .requestLater request => some request
    | _ => none

/-- The session behind a turn. -/
def behind (s : LiveSession) (event : LiveEvent)
    (done : Turn LiveClipboardState LiveOutput String Unit) : LiveSession :=
  { clipboard := done.state
    config := match event with
      | .configure config => config
      | _ => s.config
    paused := match event with
      | .pause paused => paused
      | _ => s.paused
    requests := s.requestsAfter event done.output
    log := s.log ++ s.announced event ++ barrierBegan s.clipboard done.state ++
      (writes done.output).map .wrote }

/-- An error in the live input branch ends the session; the other branches only show theirs. -/
def endsSession : LiveEvent → Bool
  | .input _ _ => true
  | _ => false

/-- The session loop. -/
def loop (host : LiveHost) : Machine LiveSession LiveEvent where
  exec s event :=
    match (s.turn host event s.clipboard).result with
    | .ok () => some (s.behind event (s.turn host event s.clipboard))
    | .error _ =>
      if endsSession event then none else some (s.behind event (s.turn host event s.clipboard))

/-- A session at its start: `LiveClipboardState::new`. -/
structure Started (s : LiveSession) : Prop where
  clipboard : ∃ lastObserved lastClipboardSequence peer,
    s.clipboard = { tracker := { lastObserved }, lastClipboardSequence, peer }
  requests : s.requests = []
  log : s.log = []

/-! ## The property -/

/-- A pointer entering the other screen. -/
def isEntry (live : LiveFrame) : Bool :=
  match live.frame with
  | .control _ (.enterRemote _ _) => true
  | _ => false

/-- The entry says that the transfer was sent completely, replaced or cancelled by the peer, or
    that the deadline passed. -/
def opens (transfer : UInt64) (deadline : Nat) : LiveObservation → Bool
  | .wrote frame => frame.settles transfer
  | .received (.imageCancel id _) => id = transfer
  | .tick now => deadline ≤ now
  | _ => false

/-- A live frame is written that does not move the pointer. -/
def writesStill : LiveObservation → Bool
  | .wrote (.live frame) => !LiveClipboardState.isMotion frame
  | _ => false

/-- The pointer's motion is written that was handed in behind `entry`. -/
def overtakes (entry : LiveFrame) : LiveObservation → Bool
  | .wrote (.live frame) =>
    LiveClipboardState.isMotion frame && decide (entry.serial < frame.serial)
  | _ => false

/-- No motion is written ahead of an entry handed in before it. -/
def Entered (s : LiveSession) : Prop :=
  ∀ entry ∈ s.handed, isEntry entry = true →
    Precedes (· = .wrote (.live entry)) (overtakes entry · = true) s.log

/-- What has become of the live input: every frame is written once or held, all but motion in
    order; frames are held only behind a deadline; and behind a barrier nothing but motion is
    written until the transfer it began with is settled or the deadline has passed. -/
structure Faithful (host : LiveHost) (s : LiveSession) : Prop where
  once : (s.written ++ s.clipboard.heldInput).Perm s.handed ∧ s.handed.Nodup
  ordered : (s.written ++ s.clipboard.heldInput).filter (!LiveClipboardState.isMotion ·) =
    s.handed.filter (!LiveClipboardState.isMotion ·)
  entered : s.Entered
  guarded : s.clipboard.heldInput ≠ [] → s.clipboard.pasteBarrierDeadline.isSome
  awaited : ∀ before transfer deadline after,
    s.log = before ++ .began (some transfer) deadline :: after →
      Precedes (opens transfer deadline · = true) (writesStill · = true) after
  released : ∀ now t, s.paused = false → s.clipboard.pasteBarrierExpired now = true →
    (loop host).exec s (.sendTick now) = some t →
      t.clipboard.heldInput = [] ∧ t.clipboard.pasteBarrierDeadline = none ∧
        t.written = s.written ++ s.clipboard.heldInput

/-- Motion is handed in while an entry is held back. -/
def overtaking (s : LiveSession) : LiveEvent → Bool
  | .input frame _ =>
    !s.paused && LiveClipboardState.isMotion (s.nextFrame frame) &&
      s.clipboard.heldInput.any isEntry
  | _ => false

/-! ## What a turn does -/

/-- What a turn does to held input: nothing, or it is all released behind what opens the barrier,
    or a frame is prepared. -/
inductive Turned (s : LiveSession) (event : LiveEvent) (t : LiveClipboardState)
    (frames : List SessionFrame) : Prop
  | quiet (silent : handedIn (s.announced event) = []) (kept : s.clipboard.Quiet t frames)
  | released (silent : handedIn (s.announced event) = []) (events : List ClipboardEvent)
      (written : frames = events.map .clipboard ++ s.clipboard.heldInput.map .live)
      (emptied : t.heldInput = []) (free : t.pasteBarrierDeadline = none)
      (opened : ∀ active deadline, s.clipboard.outgoing = some active →
        s.clipboard.pasteBarrierDeadline = some deadline →
          ∃ o ∈ s.announced event ++ (events.map .clipboard).map .wrote,
            opens active.transferId deadline o = true)
  | prepared (frame : Session.Frame)
      (handedIn : s.announced event = [.handed (s.nextFrame frame)])
      (kind : overtaking s event = (LiveClipboardState.isMotion (s.nextFrame frame) &&
        s.clipboard.heldInput.any isEntry))
      (prepared : LiveClipboardState.Prepared s.clipboard t (s.nextFrame frame) frames)

section Turns

variable {host : LiveHost} {s t : LiveSession} {event : LiveEvent}

theorem quiet_turned {h : LiveM Unit} (silent : handedIn (s.announced event) = [])
    (quietly : LiveClipboardState.Quietly h s.clipboard) :
    h.wp (fun _ t output => s.Turned event t (writes output)) s.clipboard :=
  Handler.wp_mono (fun _ _ _ kept => .quiet silent kept) quietly

theorem liveInput_turned {frame : Session.Frame} {system : WindowsClipboard}
    (running : s.paused = false) :
    (LiveClipboardState.liveInput host s.config system (s.nextFrame frame)).wp
      (fun _ t output => s.Turned (.input frame system) t (writes output)) s.clipboard := by
  refine Handler.wp_seq LiveClipboardState.prepareInput_prepares ?_ ?_
  · rintro e t output ⟨-, frames, failed, -⟩
    cases failed
  · rintro frames t output ⟨rfl, same, returned, prepared⟩
    cases returned
    refine Handler.wp_mono ?_ (LiveClipboardState.writeFrames_spec frames t)
    rintro r u more ⟨-, written, ctrlDown, rfl⟩
    refine .prepared frame (by simp [announced, running]) (by simp [overtaking, running]) ?_
    rw [List.nil_append, written]
    cases prepared with
    | passed events same quiet mayPass =>
      exact .passed events same ⟨quiet.held, quiet.deadline, quiet.carries, quiet.silent⟩ mayPass
    | held events same queued barred still waits =>
      exact .held events same queued barred still waits

theorem sendNextFrame_turned (silent : handedIn (s.announced event) = []) :
    (LiveClipboardState.sendNextFrame s.config).wp
      (fun _ t output => s.Turned event t (writes output)) s.clipboard := by
  unfold LiveClipboardState.sendNextFrame
  rw [Handler.wp_read_bind]
  cases active : s.clipboard.outgoing with
  | none => exact .quiet silent (LiveClipboardState.Quiet.of_eq rfl rfl rfl rfl)
  | some transfer =>
    have carried {after : OutgoingClipboardTransfer} (same : after.transferId = transfer.transferId)
        (frames : List SessionFrame) :
        s.clipboard.Carries { s.clipboard with outgoing := some after } frames := by
      intro current found
      rw [active] at found
      cases found
      exact .inl ⟨after, rfl, same⟩
    have same := transfer.nextEvent_transferId
    dsimp only
    split
    · rename_i after next
      rw [next] at same
      exact .quiet silent ⟨rfl, rfl, carried same [], rfl⟩
    · rename_i sent after next
      rw [next] at same
      split
      · rename_i complete
        have settled := settles_of_completes (by rw [next]) complete
        rw [Handler.wp_bind, wp_update, Handler.wp_bind, LiveClipboardState.send, wp_emit]
        refine Handler.wp_mono ?_ LiveClipboardState.releaseHeldInput_spec
        rintro r t output ⟨-, written, emptied, free, -⟩
        refine .released silent [sent] ?_ emptied free ?_
        · simp [written]
        · intro current deadline found _
          rw [active] at found
          cases found
          exact ⟨.wrote (.clipboard sent), by simp, settled⟩
      · exact .quiet silent ⟨rfl, rfl, carried same _, rfl⟩

theorem sendTick_turned {now : Nat} (running : s.paused = false) :
    (LiveClipboardState.sendTick s.config now).wp
      (fun _ t output => s.Turned (.sendTick now) t (writes output)) s.clipboard := by
  have silent : handedIn (s.announced (.sendTick now)) = [] := by
    simp [announced, running, handedIn]
  by_cases expired : s.clipboard.pasteBarrierExpired now = true
  · refine Handler.wp_mono ?_ (LiveClipboardState.sendTick_expired expired)
    rintro r t output ⟨events, written, emptied, free⟩
    refine .released silent events written emptied free ?_
    intro active deadline _ found
    refine ⟨.tick now, by simp [announced, running], ?_⟩
    simpa [LiveClipboardState.pasteBarrierExpired, found, opens] using expired
  · unfold LiveClipboardState.sendTick
    rw [Handler.wp_read_bind, if_neg expired]
    split
    · exact sendNextFrame_turned silent
    · exact .quiet silent (LiveClipboardState.Quiet.of_eq rfl rfl rfl rfl)

theorem handleRemoteEvent_turned {event : ClipboardEvent} {system : WindowsClipboard}
    (running : s.paused = false) :
    (LiveClipboardState.handleRemoteEvent host s.config system event).wp
      (fun _ t output => s.Turned (.peer event system) t (writes output)) s.clipboard := by
  have silent : handedIn (s.announced (.peer event system)) = [] := by
    simp [announced, running, handedIn]
  by_cases goesOn : s.config.enabled = false ∨ s.clipboard.cancelsOutgoing event = false
  · exact quiet_turned silent (LiveClipboardState.handleRemoteEvent_within LiveClipboardState.steady_quiet goesOn)
  · rw [not_or, Bool.not_eq_false, Bool.not_eq_false] at goesOn
    obtain ⟨enabled, cancels⟩ := goesOn
    unfold LiveClipboardState.handleRemoteEvent
    rw [if_pos enabled]
    cases event with
    | imageCancel id reason =>
      unfold LiveClipboardState.handleTransfer
      rw [Handler.wp_read_bind, if_pos cancels, Handler.wp_bind, wp_update]
      refine Handler.wp_mono ?_ LiveClipboardState.releaseHeldInput_spec
      rintro r t output ⟨-, written, emptied, free, -⟩
      refine .released silent [] (by simpa using written) emptied free ?_
      intro active deadline found _
      simp only [LiveClipboardState.cancelsOutgoing, found, Option.any_some,
        decide_eq_true_eq] at cancels
      exact ⟨.received (.imageCancel id reason), by simp [announced, running],
        by simp [opens, cancels]⟩
    | textOffer | textRequest | contentRequest | imageStart | imageChunk | imageEnd | textStart
    | textChunk | textEnd => cases cancels

theorem turned : (s.turn host event).wp (fun _ t output => s.Turned event t (writes output))
    s.clipboard := by
  have paused (silent : handedIn (s.announced event) = []) :
      (pure () : LiveM Unit).wp (fun _ t output => s.Turned event t (writes output)) s.clipboard :=
    .quiet silent (LiveClipboardState.Quiet.of_eq rfl rfl rfl rfl)
  cases event with
  | input frame system =>
    simp only [turn]
    split
    · rename_i stopped
      exact paused (by simp [announced, stopped])
    · rename_i running
      exact liveInput_turned (Bool.not_eq_true _ ▸ running)
  | peer event system =>
    simp only [turn]
    split
    · rename_i stopped
      exact paused (by simp [announced, stopped])
    · rename_i running
      exact handleRemoteEvent_turned (Bool.not_eq_true _ ▸ running)
  | poll system =>
    simp only [turn]
    split
    · exact paused rfl
    · exact quiet_turned rfl (LiveClipboardState.pollLocalChange_within LiveClipboardState.steady_quiet)
  | readFinished result => exact quiet_turned rfl (LiveClipboardState.completeLocalRead_within LiveClipboardState.steady_quiet)
  | sendChunk =>
    simp only [turn]
    split
    · exact paused rfl
    · exact sendNextFrame_turned rfl
  | sendTick now =>
    simp only [turn]
    split
    · rename_i stopped
      exact paused (by simp [announced, stopped])
    · rename_i running
      exact sendTick_turned (Bool.not_eq_true _ ▸ running)
  | requestDue =>
    simp only [turn]
    split
    · exact paused rfl
    · refine Handler.wp_mono ?_ (LiveClipboardState.sendAll_spec _ _)
      rintro r t output ⟨-, rfl, rfl⟩
      exact .quiet rfl (LiveClipboardState.Quiet.of_eq rfl rfl rfl (by simp))
  | expireIncoming now => exact quiet_turned rfl (LiveClipboardState.expireIncoming_within LiveClipboardState.steady_quiet)
  | pause | configure => exact paused rfl

end Turns

/-! ## The invariant -/

/-- The barrier that began with `transfer` and `deadline` is behind the session, or still there
    with its transfer under way. -/
def Waiting (s : LiveSession) (transfer : UInt64) (deadline : Nat) (after : List LiveObservation) :
    Prop :=
  (∃ o ∈ after, opens transfer deadline o = true) ∨
    (s.clipboard.pasteBarrierDeadline = some deadline ∧
      ∃ active, s.clipboard.outgoing = some active ∧ active.transferId = transfer)

/-- What the log says behind an entry that begins a barrier. -/
def Barred (s : LiveSession) (o : LiveObservation) (after : List LiveObservation) : Prop :=
  ∀ transfer deadline, o = .began (some transfer) deadline →
    Precedes (opens transfer deadline · = true) (writesStill · = true) after ∧
      s.Waiting transfer deadline after

/-- What holds in every reachable state. -/
structure Inv (s : LiveSession) : Prop where
  guarded : s.clipboard.heldInput ≠ [] → s.clipboard.pasteBarrierDeadline.isSome
  still : ∀ live ∈ s.clipboard.heldInput, LiveClipboardState.isMotion live = false
  ordered : s.written.filter (!LiveClipboardState.isMotion ·) ++ s.clipboard.heldInput =
    s.handed.filter (!LiveClipboardState.isMotion ·)
  motion : s.written.filter LiveClipboardState.isMotion =
    s.handed.filter LiveClipboardState.isMotion
  serials : s.handed.map (·.serial) = List.range s.handed.length
  barred : After s.Barred s.log

section Steps

variable {host : LiveHost} {s t : LiveSession} {event : LiveEvent}

theorem exec_behind (executed : (loop host).exec s event = some t) :
    t = s.behind event (s.turn host event s.clipboard) := by
  unfold loop at executed
  simp only at executed
  split at executed
  · exact (Option.some.inj executed).symm
  · split at executed
    · cases executed
    · exact (Option.some.inj executed).symm

/-- What an executed event adds to the log, and the state behind it. -/
theorem exec_turned (executed : (loop host).exec s event = some t) :
    ∃ frames, s.Turned event t.clipboard frames ∧
      t.log = s.log ++ s.announced event ++ barrierBegan s.clipboard t.clipboard ++
        frames.map .wrote := by
  have turned := @turned host s event
  rw [exec_behind executed]
  exact ⟨_, turned, rfl⟩

theorem barrierBegan_of_eq {before after : LiveClipboardState}
    (same : after.pasteBarrierDeadline = before.pasteBarrierDeadline) :
    barrierBegan before after = [] := by
  unfold barrierBegan
  rw [same]
  cases before.pasteBarrierDeadline <;> rfl

theorem barrierBegan_of_none {before after : LiveClipboardState}
    (free : after.pasteBarrierDeadline = none) : barrierBegan before after = [] := by
  unfold barrierBegan
  rw [free]
  cases before.pasteBarrierDeadline <;> rfl

/-- The entry of a barrier is no live frame. -/
@[simp] theorem handedIn_barrierBegan (before after : LiveClipboardState) :
    handedIn (barrierBegan before after) = [] := by
  unfold barrierBegan
  split <;> rfl

@[simp] theorem writtenIn_barrierBegan (before after : LiveClipboardState) :
    writtenIn (barrierBegan before after) = [] := by
  unfold barrierBegan
  split <;> rfl

@[simp] theorem writtenIn_announced : writtenIn (s.announced event) = [] := by
  cases event <;> cases stopped : s.paused <;> simp [announced, stopped, writtenIn]

/-- The entries a turn adds to the log. -/
def added (s : LiveSession) (event : LiveEvent) (after : LiveClipboardState)
    (frames : List SessionFrame) : List LiveObservation :=
  s.announced event ++ barrierBegan s.clipboard after ++ frames.map .wrote

/-- No still frame is among entries that write clipboard frames only. -/
theorem silent_announced : ∀ o ∈ s.announced event, ¬ writesStill o = true := by
  intro o found
  cases event <;> cases stopped : s.paused <;> simp [announced, stopped] at found <;>
    simp [found, writesStill]

theorem silent_clipboard (events : List ClipboardEvent) :
    ∀ o ∈ (events.map SessionFrame.clipboard).map LiveObservation.wrote,
      ¬ writesStill o = true := by
  intro o found
  simp only [List.map_map, List.mem_map] at found
  obtain ⟨event, -, rfl⟩ := found
  simp [writesStill]

theorem silent_liveFrames {frames : List SessionFrame} (silent : liveFrames frames = []) :
    ∀ o ∈ frames.map LiveObservation.wrote, ¬ writesStill o = true := by
  intro o found
  obtain ⟨frame, written, rfl⟩ := List.mem_map.mp found
  cases frame with
  | clipboard event => simp [writesStill]
  | live live =>
    have listed : live ∈ liveFrames frames :=
      List.mem_filterMap.mpr ⟨.live live, written, rfl⟩
    rw [silent] at listed
    cases listed

/-- A turn behind a barrier keeps it, or opens it before it writes a still frame. -/
theorem Turned.waiting {after : LiveClipboardState} {frames : List SessionFrame}
    (turned : s.Turned event after frames) {deadline : Nat} {active : OutgoingClipboardTransfer}
    (barrier : s.clipboard.pasteBarrierDeadline = some deadline)
    (outgoing : s.clipboard.outgoing = some active) :
    Precedes (opens active.transferId deadline · = true) (writesStill · = true)
        (s.added event after frames) ∧
      ((∃ o ∈ s.added event after frames, opens active.transferId deadline o = true) ∨
        (after.pasteBarrierDeadline = some deadline ∧
          ∃ next, after.outgoing = some next ∧ next.transferId = active.transferId)) := by
  unfold added
  cases turned with
  | quiet silent kept =>
    rw [barrierBegan_of_eq kept.deadline, List.append_nil]
    refine ⟨precedes_of_none ?_, ?_⟩
    · intro o found
      rcases List.mem_append.mp found with found | found
      · exact silent_announced o found
      · exact silent_liveFrames kept.silent o found
    · rcases kept.carries active outgoing with onward | ⟨frame, written, settled⟩
      · exact .inr ⟨kept.deadline.trans barrier, onward⟩
      · exact .inl ⟨.wrote frame, List.mem_append_right _ (List.mem_map_of_mem written), settled⟩
  | released silent events written emptied free opened =>
    obtain ⟨o, found, opening⟩ := opened active deadline outgoing barrier
    rw [barrierBegan_of_none free, List.append_nil, written, List.map_append, ← List.append_assoc]
    refine ⟨precedes_append.mpr ⟨precedes_of_none ?_, .inl ⟨o, found, opening⟩⟩,
      .inl ⟨o, List.mem_append_left _ found, opening⟩⟩
    intro o found
    rcases List.mem_append.mp found with found | found
    · exact silent_announced o found
    · exact silent_clipboard events o found
  | prepared frame handed kind prepared =>
    cases prepared with
    | passed events written quiet mayPass =>
      have moves : LiveClipboardState.isMotion (s.nextFrame frame) = true :=
        mayPass.resolve_left (by simp [barrier])
      rw [barrierBegan_of_eq quiet.deadline, List.append_nil, written]
      refine ⟨precedes_of_none ?_, ?_⟩
      · intro o found
        rcases List.mem_append.mp found with found | found
        · exact silent_announced o found
        · rw [List.map_append] at found
          rcases List.mem_append.mp found with found | found
          · exact silent_clipboard events o found
          · simp only [List.map_cons, List.map_nil, List.mem_singleton] at found
            simp [found, writesStill, moves]
      · rcases quiet.carries active outgoing with onward | ⟨frame, settles, settled⟩
        · exact .inr ⟨quiet.deadline.trans barrier, onward⟩
        · refine .inl ⟨.wrote frame, List.mem_append_right _ (List.mem_map_of_mem ?_), settled⟩
          exact List.mem_append_left _ settles
    | held events written queued barred still waits =>
      obtain ⟨-, same, kept⟩ := waits (by simp [barrier])
      rw [barrierBegan_of_eq same, List.append_nil, written]
      refine ⟨precedes_of_none ?_, .inr ⟨same.trans barrier, active, kept.trans outgoing, rfl⟩⟩
      intro o found
      rcases List.mem_append.mp found with found | found
      · exact silent_announced o found
      · exact silent_clipboard events o found

theorem barred_announced : ∀ o ∈ s.announced event, ∀ rest, t.Barred o rest := by
  rintro o found rest transfer deadline rfl
  cases event <;> cases stopped : s.paused <;> simp [announced, stopped] at found

theorem barred_wrote (frames : List SessionFrame) :
    ∀ o ∈ frames.map LiveObservation.wrote, ∀ rest, t.Barred o rest := by
  rintro o found rest transfer deadline rfl
  simp at found

/-- A barrier that begins waits for the transfer outgoing then. -/
theorem Turned.began {frames : List SessionFrame} (turned : s.Turned event t.clipboard frames) :
    After t.Barred (s.added event t.clipboard frames) := by
  have none (same : barrierBegan s.clipboard t.clipboard = []) :
      After t.Barred (s.added event t.clipboard frames) := by
    unfold added
    rw [same, List.append_nil]
    refine after_of_forall fun o found => ?_
    rcases List.mem_append.mp found with found | found
    · exact barred_announced o found
    · exact barred_wrote frames o found
  cases turned with
  | quiet silent kept => exact none (barrierBegan_of_eq kept.deadline)
  | released silent events written emptied free opened => exact none (barrierBegan_of_none free)
  | prepared frame handed kind prepared =>
    cases prepared with
    | passed events written quiet mayPass => exact none (barrierBegan_of_eq quiet.deadline)
    | held events written queued barred still waits =>
      cases barrier : s.clipboard.pasteBarrierDeadline with
      | some deadline =>
        obtain ⟨-, same, -⟩ := waits (by simp [barrier])
        exact none (barrierBegan_of_eq same)
      | none =>
        obtain ⟨deadline, set⟩ := Option.isSome_iff_exists.mp barred
        have began : barrierBegan s.clipboard t.clipboard =
            [.began (t.clipboard.outgoing.map (·.transferId)) deadline] := by
          simp [barrierBegan, barrier, set]
        unfold added
        rw [began, handed, written]
        simp only [List.cons_append, List.nil_append, after_cons]
        refine ⟨fun _ _ same => ?_, fun transfer deadline' same => ?_,
          after_of_forall (barred_wrote _)⟩
        · cases same
        obtain ⟨outgoing, rfl⟩ := LiveObservation.began.inj same
        obtain ⟨active, found, named⟩ := Option.map_eq_some_iff.mp outgoing
        refine ⟨precedes_of_none (silent_clipboard events), .inr ⟨set, active, found, named⟩⟩

theorem Inv.no_motion_held (inv : s.Inv) :
    s.clipboard.heldInput.filter LiveClipboardState.isMotion = [] := by
  simpa [List.filter_eq_nil_iff] using inv.still

theorem Inv.all_held_still (inv : s.Inv) :
    s.clipboard.heldInput.filter (!LiveClipboardState.isMotion ·) = s.clipboard.heldInput := by
  simpa [List.filter_eq_self] using inv.still

theorem Inv.step (inv : s.Inv) (executed : (loop host).exec s event = some t) : t.Inv := by
  obtain ⟨frames, turned, log⟩ := exec_turned executed
  have handed : t.handed = s.handed ++ handedIn (s.announced event) := by
    simp [LiveSession.handed, log]
  have written : t.written = s.written ++ liveFrames frames := by
    simp [LiveSession.written, log]
  have barred : After t.Barred t.log := by
    rw [log, List.append_assoc, List.append_assoc, ← List.append_assoc (s.announced event)]
    refine inv.barred.append ?_ turned.began
    intro o after _ behind transfer deadline began
    obtain ⟨ordered, waiting⟩ := behind transfer deadline began
    rcases waiting with ⟨o, found, opened⟩ | ⟨barrier, active, outgoing, rfl⟩
    · exact ⟨precedes_append.mpr ⟨ordered, .inl ⟨o, found, opened⟩⟩,
        .inl ⟨o, List.mem_append_left _ found, opened⟩⟩
    · obtain ⟨still, waits⟩ := turned.waiting barrier outgoing
      refine ⟨precedes_append.mpr ⟨ordered, .inr still⟩, ?_⟩
      rcases waits with ⟨o, found, opened⟩ | onward
      · exact .inl ⟨o, List.mem_append_right _ found, opened⟩
      · exact .inr onward
  cases turned with
  | quiet silent quiet =>
    rw [silent, List.append_nil] at handed
    rw [quiet.silent, List.append_nil] at written
    refine ⟨?_, ?_, ?_, ?_, ?_, barred⟩
    · rw [quiet.held, quiet.deadline]
      exact inv.guarded
    · rw [quiet.held]
      exact inv.still
    · rw [handed, written, quiet.held]
      exact inv.ordered
    · rw [handed, written]
      exact inv.motion
    · rw [handed]
      exact inv.serials
  | released silent events same emptied free opened =>
    rw [silent, List.append_nil] at handed
    rw [same, liveFrames_append, liveFrames_map_clipboard, liveFrames_map_live,
      List.nil_append] at written
    refine ⟨by simp [emptied], by simp [emptied], ?_, ?_, ?_, barred⟩
    · rw [handed, written, emptied, List.append_nil, List.filter_append, inv.all_held_still]
      exact inv.ordered
    · rw [handed, written, List.filter_append, inv.no_motion_held, List.append_nil]
      exact inv.motion
    · rw [handed]
      exact inv.serials
  | prepared frame announced kind prepared =>
    rw [announced] at handed
    have serials : t.handed.map (·.serial) = List.range t.handed.length := by
      rw [handed]
      simp [inv.serials, nextFrame, List.range_succ]
    have added (live : LiveFrame) : handedIn [.handed live] = [live] := rfl
    rw [added] at handed
    cases prepared with
    | passed events same quiet mayPass =>
      rw [same, liveFrames_append, liveFrames_map_clipboard, liveFrames_live, liveFrames_nil,
        List.nil_append] at written
      refine ⟨?_, ?_, ?_, ?_, serials, barred⟩
      · rw [quiet.held, quiet.deadline]
        exact inv.guarded
      · rw [quiet.held]
        exact inv.still
      · rw [handed, written, quiet.held, List.filter_append, List.filter_append, ← inv.ordered]
        rcases mayPass with free | moves
        · have empty : s.clipboard.heldInput = [] := by
            by_contra waiting
            simpa [free] using inv.guarded waiting
          simp [empty]
        · simp [moves]
      · rw [handed, written, List.filter_append, List.filter_append, inv.motion]
    | held events same queued set still waits =>
      rw [same, liveFrames_map_clipboard, List.append_nil] at written
      refine ⟨fun _ => set, ?_, ?_, ?_, serials, barred⟩
      · rw [queued]
        intro live found
        rcases List.mem_append.mp found with found | found
        · exact inv.still live found
        · rw [List.mem_singleton.mp found]
          exact still
      · rw [handed, written, queued, List.filter_append, ← inv.ordered, ← List.append_assoc]
        simp [still]
      · rw [handed, written, List.filter_append, inv.motion]
        simp [still]

/-- A pointer entering the other screen is no motion. -/
theorem isMotion_of_isEntry {live : LiveFrame} (entry : isEntry live = true) :
    LiveClipboardState.isMotion live = false := by
  unfold isEntry at entry
  split at entry
  · rename_i same
    simp [LiveClipboardState.isMotion, LiveFrame.inputEvent, same]
  · cases entry

/-- Written and held, the frames are those handed in. -/
theorem Inv.perm (inv : s.Inv) : (s.written ++ s.clipboard.heldInput).Perm s.handed := by
  have motion : (s.written ++ s.clipboard.heldInput).filter LiveClipboardState.isMotion =
      s.handed.filter LiveClipboardState.isMotion := by
    rw [List.filter_append, inv.motion, inv.no_motion_held, List.append_nil]
  have others : (s.written ++ s.clipboard.heldInput).filter (!LiveClipboardState.isMotion ·) =
      s.handed.filter (!LiveClipboardState.isMotion ·) := by
    rw [List.filter_append, inv.all_held_still, inv.ordered]
  refine (List.filter_append_perm LiveClipboardState.isMotion _).symm.trans ?_
  rw [motion, others]
  exact List.filter_append_perm _ _

theorem Inv.nodup (inv : s.Inv) : s.handed.Nodup := by
  refine List.Nodup.of_map (·.serial) ?_
  rw [inv.serials]
  exact List.nodup_range

/-- The serials of the frames handed in are below their number. -/
theorem Inv.serial_lt (inv : s.Inv) {live : LiveFrame} (handed : live ∈ s.handed) :
    live.serial < s.handed.length := by
  have listed : live.serial ∈ s.handed.map (·.serial) := List.mem_map_of_mem handed
  rw [inv.serials] at listed
  exact List.mem_range.mp listed

/-- The motion a turn writes was handed in with it. -/
theorem Turned.motion {after : LiveClipboardState} {frames : List SessionFrame} (inv : s.Inv)
    (turned : s.Turned event after frames) {live : LiveFrame} (written : live ∈ liveFrames frames)
    (moves : LiveClipboardState.isMotion live = true) :
    s.announced event = [.handed live] ∧ live.serial = s.handed.length ∧
      s.overtaking event = s.clipboard.heldInput.any isEntry := by
  cases turned with
  | quiet silent kept =>
    rw [kept.silent] at written
    cases written
  | released silent events same emptied free opened =>
    rw [same, liveFrames_append, liveFrames_map_clipboard, liveFrames_map_live,
      List.nil_append] at written
    rw [inv.still live written] at moves
    cases moves
  | prepared frame handed kind prepared =>
    cases prepared with
    | passed events same quiet mayPass =>
      rw [same, liveFrames_append, liveFrames_map_clipboard, liveFrames_live, liveFrames_nil,
        List.nil_append, List.mem_singleton] at written
      subst written
      exact ⟨handed, rfl, by rw [kind, moves, Bool.true_and]⟩
    | held events same queued set still waits =>
      rw [same, liveFrames_map_clipboard] at written
      cases written

theorem serial_of_announced {live : LiveFrame} (found : live ∈ handedIn (s.announced event)) :
    live.serial = s.handed.length := by
  cases event <;> cases stopped : s.paused <;>
    simp [announced, stopped, handedIn, nextFrame] at found
  rw [found]

/-- An entry of a turn that overtakes is a frame the turn writes. -/
theorem overtakes_added {after : LiveClipboardState} {frames : List SessionFrame}
    {entry : LiveFrame} {o : LiveObservation} (found : o ∈ s.added event after frames)
    (ahead : overtakes entry o = true) :
    ∃ live ∈ liveFrames frames, LiveClipboardState.isMotion live = true ∧
      entry.serial < live.serial := by
  unfold overtakes at ahead
  split at ahead
  · rename_i live
    rw [Bool.and_eq_true, decide_eq_true_eq] at ahead
    refine ⟨live, ?_, ahead⟩
    have listed : live ∈ writtenIn (s.added event after frames) := (mem_writtenIn _).mpr found
    simpa [added] using listed
  · cases ahead

/-- Motion passes the entries in front of it only where it is handed in behind a held one. -/
theorem Entered.step (inv : s.Inv) (entered : s.Entered)
    (executed : (loop host).exec s event = some t) (behind : s.overtaking event = false) :
    t.Entered := by
  obtain ⟨frames, turned, log⟩ := exec_turned executed
  have handed : t.handed = s.handed ++ handedIn (s.announced event) := by
    simp [LiveSession.handed, log]
  intro entry found enters
  rw [log, List.append_assoc, List.append_assoc, ← List.append_assoc (s.announced event)]
  rw [handed, List.mem_append] at found
  refine precedes_append.mpr ⟨?_, ?_⟩
  · rcases found with found | found
    · exact entered entry found enters
    · -- The new frame's serial is above those of the motion written so far.
      refine precedes_of_none fun o written ahead => ?_
      unfold overtakes at ahead
      split at ahead
      · rename_i live
        rw [Bool.and_eq_true, decide_eq_true_eq] at ahead
        have moved : live ∈ s.handed := by
          have listed : live ∈ s.written.filter LiveClipboardState.isMotion :=
            List.mem_filter.mpr ⟨(mem_writtenIn _).mpr written, ahead.1⟩
          rw [inv.motion] at listed
          exact (List.mem_filter.mp listed).1
        have serial : entry.serial = s.handed.length := serial_of_announced found
        have below := inv.serial_lt moved
        omega
      · cases ahead
  · by_cases written : entry ∈ s.written
    · exact .inl ⟨_, (mem_writtenIn _).mp written, rfl⟩
    · refine .inr (precedes_of_none fun o new ahead => ?_)
      obtain ⟨live, moved, moves, later⟩ := overtakes_added new ahead
      obtain ⟨announced, serial, kind⟩ := turned.motion inv moved moves
      rcases found with found | found
      · -- An entry handed in earlier that is not written is held.
        have held : entry ∈ s.clipboard.heldInput := by
          have listed := inv.perm.mem_iff.mpr found
          exact (List.mem_append.mp listed).resolve_left written
        rw [behind, Eq.comm, List.any_eq_false] at kind
        exact kind entry held enters
      · have serial : entry.serial = s.handed.length := serial_of_announced found
        omega

theorem Inv.of_started (started : s.Started) : s.Inv := by
  obtain ⟨lastObserved, sequence, peer, fresh⟩ := started.clipboard
  constructor <;> simp [fresh, handed, written, started.log]

/-! ## What a session keeps -/

theorem Inv.released (running : s.paused = false) {now : Nat}
    (expired : s.clipboard.pasteBarrierExpired now = true)
    (executed : (loop host).exec s (.sendTick now) = some t) :
    t.clipboard.heldInput = [] ∧ t.clipboard.pasteBarrierDeadline = none ∧
      t.written = s.written ++ s.clipboard.heldInput := by
  have spec := @LiveClipboardState.sendTick_expired s.config s.clipboard now expired
  have ticks : s.turn host (.sendTick now) = LiveClipboardState.sendTick s.config now := by
    simp [turn, running]
  rw [exec_behind executed, ticks]
  obtain ⟨events, frames, emptied, free⟩ := spec
  refine ⟨emptied, free, ?_⟩
  simp only [written, behind, frames, writtenIn_append, writtenIn_announced,
    writtenIn_barrierBegan, writtenIn_wrote, liveFrames_append, liveFrames_map_clipboard,
    liveFrames_map_live, List.append_nil, List.nil_append]

theorem Inv.faithful (inv : s.Inv) (entered : s.Entered) : s.Faithful host where
  once := ⟨inv.perm, inv.nodup⟩
  ordered := by rw [List.filter_append, inv.all_held_still, inv.ordered]
  entered := entered
  guarded := inv.guarded
  awaited before transfer deadline after split :=
    (inv.barred before _ after split transfer deadline rfl).1
  released now t running expired executed := Inv.released running expired executed

/-- Motion handed in behind a held entry is written ahead of it. -/
theorem Inv.overtaken (inv : s.Inv) (executed : (loop host).exec s event = some t)
    (overtaking : s.overtaking event = true) : ¬ t.Entered := by
  intro entered
  obtain ⟨frames, turned, log⟩ := exec_turned executed
  have tInv := inv.step executed
  cases turned with
  | quiet silent kept =>
    cases event <;> simp only [LiveSession.overtaking, Bool.false_eq_true] at overtaking
    simp only [Bool.and_eq_true, Bool.not_eq_true'] at overtaking
    simp [announced, overtaking, handedIn] at silent
  | released silent events same emptied free opened =>
    cases event <;> simp only [LiveSession.overtaking, Bool.false_eq_true] at overtaking
    simp only [Bool.and_eq_true, Bool.not_eq_true'] at overtaking
    simp [announced, overtaking, handedIn] at silent
  | prepared frame handed kind prepared =>
    rw [kind, Bool.and_eq_true, List.any_eq_true] at overtaking
    obtain ⟨moves, entry, held, enters⟩ := overtaking
    cases prepared with
    | held events same queued set still waits =>
      rw [still] at moves
      cases moves
    | passed events same quiet mayPass =>
      have waiting : entry ∈ t.clipboard.heldInput := by rwa [quiet.held]
      have given : entry ∈ t.handed := tInv.perm.mem_iff.mp (List.mem_append_right _ waiting)
      have earlier : entry.serial < (s.nextFrame frame).serial :=
        inv.serial_lt (inv.perm.mem_iff.mp (List.mem_append_right _ held))
      -- The motion is the last entry of the log.
      have last : t.log = (s.log ++ s.announced event ++ barrierBegan s.clipboard t.clipboard ++
          (events.map SessionFrame.clipboard).map .wrote) ++
            .wrote (.live (s.nextFrame frame)) :: [] := by
        rw [log, same, List.map_append, ← List.append_assoc]
        rfl
      obtain ⟨o, found, rfl⟩ := entered entry given enters _ _ _ last
        (by simp [overtakes, moves, earlier])
      have written : entry ∈ t.written := by
        refine (mem_writtenIn _).mpr ?_
        rw [last]
        exact List.mem_append_left _ found
      have apart := (tInv.perm.nodup_iff.mpr tInv.nodup)
      exact (List.nodup_append.mp apart).2.2 entry written entry waiting rfl

end Steps

/-- Live input is faithful as long as no motion is handed in while an entry is held back; such
    motion is written ahead of it. -/
theorem held_input_keeps_its_order {host : LiveHost} {first s : LiveSession}
    (started : first.Started)
    (run : (loop host).Run (fun s event => s.overtaking event = false) first s) :
    s.Faithful host ∧ ∀ event t, (loop host).exec s event = some t →
      (t.Faithful host ↔ s.overtaking event = false) := by
  have kept : s.Inv ∧ s.Entered := by
    refine run.invariant (I := fun s => s.Inv ∧ s.Entered) ?_ ⟨Inv.of_started started, ?_⟩
    · rintro s event t behind executed ⟨inv, entered⟩
      exact ⟨inv.step executed, entered.step inv executed behind⟩
    · intro entry found
      simp [handed, started.log] at found
  obtain ⟨inv, entered⟩ := kept
  refine ⟨inv.faithful entered, fun event t executed => ⟨fun faithful => ?_, fun behind => ?_⟩⟩
  · rw [← Bool.not_eq_true]
    exact fun overtaking => inv.overtaken executed overtaking faithful.entered
  · exact (inv.step executed).faithful (entered.step inv executed behind)

end LiveSession

/-! ## A held entry -/

/-- A host for which no text fits one frame. -/
def liveHost : LiveHost where
  codecs := sampleCodecs
  fitsSecureFrame _ := false

/-- A session with a peer that takes in chunked text. -/
def newLiveSession : LiveSession where
  clipboard := { peer := { images := true, textChunks := true } }
  config := { imagesEnabled := true, maxImageBytes := 64, maxBytes := 64, enabled := true }
  paused := false

theorem newLiveSession_started : newLiveSession.Started :=
  ⟨⟨none, 0, _, rfl⟩, rfl, rfl⟩

/-- Live input while the clipboard holds a text. -/
def typed (event : Session.InputEvent) : LiveEvent :=
  .input (.input 0 event) { current := .ok (some (.text "hi")) }

/-- A paste is held back, and the pointer enters the other screen behind it. -/
def heldEntry : List LiveEvent :=
  [typed (.key 29 true), typed (.key 47 true), .input (.control 0 (.enterRemote .left 0)) {}]

theorem held_input_keeps_its_order_released :
    ((LiveSession.loop liveHost).reach newLiveSession (heldEntry ++ [.sendTick 5000])).Faithful
      liveHost := by
  refine (LiveSession.held_input_keeps_its_order newLiveSession_started
    (run_reach_of_allowedList (fun s event => !s.overtaking event) ?_ _ (by decide +kernel)
      (by decide +kernel))).1
  intro s event behind
  simpa using behind

/-- The motion behind the entry is written first. -/
theorem motion_overtakes_entry : ¬ ∀ (host : LiveHost) (first s : LiveSession), first.Started →
    (LiveSession.loop host).Run anyAction first s → s.Faithful host := by
  intro faithful
  have entered := (faithful liveHost newLiveSession _ newLiveSession_started
    (run_reach (heldEntry ++ [typed (.pointerMotion 0 0)]) (by decide +kernel))).entered
  have waits := entered ⟨2, .control 0 (.enterRemote .left 0)⟩ (by decide +kernel) rfl
    (((LiveSession.loop liveHost).reach newLiveSession (heldEntry ++
      [typed (.pointerMotion 0 0)])).log.dropLast)
    (.wrote (.live ⟨3, .input 0 (.pointerMotion 0 0)⟩)) [] (by decide +kernel) (by decide)
  obtain ⟨o, found, rfl⟩ := waits
  exact absurd found (by decide +kernel)

end EdgeKvm.Clipboard
