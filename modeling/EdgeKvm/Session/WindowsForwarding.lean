import EdgeKvm.Session.WindowsGuards

/-!
# When Windows captures and forwards

Live input is written by the live input branch, if `prepare_input` lets it through, and by the
branches of the clipboard that release what it held back. The first asks for the controller but not
for a pending handover, the others ask for neither.
-/

namespace EdgeKvm.Session

open EdgeKvm.Lib Handler Machine
open Clipboard (LiveSession LiveEvent LiveHost LiveClipboardState WindowsClipboard)

/-! ## The branches of the clipboard -/

section Live

open Clipboard

variable {host : LiveHost} {s : LiveSession} {event : LiveEvent}

theorem sendNextFrame_silent {config : LiveConfig} {c : LiveClipboardState}
    (goesOn : sendsEnd c = false) :
    (LiveClipboardState.sendNextFrame config).wp
      (fun _ _ output => liveFrames (writes output) = []) c := by
  unfold LiveClipboardState.sendNextFrame
  rw [Handler.wp_read_bind]
  cases active : c.outgoing with
  | none => exact rfl
  | some transfer =>
    dsimp only
    split
    · exact rfl
    · rename_i sent after next
      have incomplete : LiveClipboardState.completes sent = false := by
        simpa [sendsEnd, active, next] using goesOn
      rw [if_neg (by simp [incomplete])]
      exact rfl

/-- A branch that does not release the held input writes no live frame. -/
theorem silent_of_not_releases (mine : ofClipboard event = true)
    (keeps : releases s event = false) :
    liveFrames (writes (s.turn host event s.clipboard).output) = [] := by
  have quiet : ∀ {h : LiveM Unit}, h.Within (fun s t output => s.Quiet t (writes output))
      s.clipboard → liveFrames (writes (h s.clipboard).output) = [] := fun kept => kept.silent
  cases event with
  | input | pause => cases mine
  | configure => rfl
  | poll system =>
    simp only [LiveSession.turn]
    split
    · rfl
    · exact quiet (LiveClipboardState.pollLocalChange_within LiveClipboardState.steady_quiet)
  | readFinished result =>
    exact quiet (LiveClipboardState.completeLocalRead_within LiveClipboardState.steady_quiet)
  | expireIncoming now =>
    exact quiet (LiveClipboardState.expireIncoming_within LiveClipboardState.steady_quiet)
  | requestDue =>
    simp only [LiveSession.turn]
    split
    · rfl
    · obtain ⟨-, -, written⟩ := LiveClipboardState.sendAll_spec s.requests.head?.toList s.clipboard
      rw [written]
      simp
  | peer event system =>
    simp only [LiveSession.turn]
    split
    · rfl
    · rename_i running
      refine quiet (LiveClipboardState.handleRemoteEvent_within LiveClipboardState.steady_quiet ?_)
      simpa [releases, running, or_iff_not_imp_left] using keeps
  | sendChunk =>
    simp only [LiveSession.turn]
    split
    · rfl
    · rename_i running
      exact sendNextFrame_silent (by simpa [releases, running] using keeps)
  | sendTick now =>
    simp only [LiveSession.turn]
    split
    · rfl
    · rename_i running
      unfold LiveClipboardState.sendTick
      by_cases needed : s.clipboard.needsSendTick = true
      · have keeps : s.clipboard.pasteBarrierExpired now = false ∧
            sendsEnd s.clipboard = false := by
          simpa [releases, running, needed] using keeps
        show liveFrames (writes ((if s.clipboard.needsSendTick then _ else _ : LiveM Unit)
          s.clipboard).output) = []
        rw [if_pos needed, if_neg (by simp [keeps.1])]
        exact sendNextFrame_silent keeps.2
      · show liveFrames (writes ((if s.clipboard.needsSendTick then _ else _ : LiveM Unit)
          s.clipboard).output) = []
        rw [if_neg needed]
        rfl

/-- Every live frame that a branch of the clipboard writes was held. -/
theorem held_of_writes (mine : ofClipboard event = true) {live : LiveFrame}
    (found : live ∈ liveFrames (writes (s.turn host event s.clipboard).output)) :
    live ∈ s.clipboard.heldInput := by
  have turned : s.Turned event (s.turn host event s.clipboard).state
      (writes (s.turn host event s.clipboard).output) := LiveSession.turned
  cases turned with
  | quiet silent kept =>
    rw [kept.silent] at found
    cases found
  | released silent events written emptied free opened =>
    rw [written] at found
    simpa using found
  | prepared frame handedIn kind prepared =>
    cases event with
    | input | pause => cases mine
    | peer | sendTick =>
      simp only [LiveSession.announced] at handedIn
      split at handedIn <;> cases handedIn
    | poll | readFinished | sendChunk | requestDue | expireIncoming | configure => cases handedIn

/-- The live input branch writes the frame it was handed, if it is let through. -/
theorem writes_input {frame : Frame} {system : WindowsClipboard} {live : LiveFrame}
    (found : live ∈ liveFrames (writes (s.turn host (.input frame system) s.clipboard).output)) :
    live = s.nextFrame frame ∧ passes host s frame system = true := by
  by_cases stopped : s.paused = true
  · simp only [LiveSession.turn, if_pos stopped] at found
    cases found
  · simp only [LiveSession.turn, if_neg stopped, LiveClipboardState.liveInput] at found
    obtain ⟨silent, frames, returned, prepared⟩ :=
      @LiveClipboardState.prepareInput_prepares host s.config system s.clipboard (s.nextFrame frame)
    have first : (LiveClipboardState.prepareInput host s.config system (s.nextFrame frame)).wp
        (fun r _ output => output = [] ∧ r = .ok frames) s.clipboard := ⟨silent, returned⟩
    have written : (do
        let prepared ← LiveClipboardState.prepareInput host s.config system (s.nextFrame frame)
        LiveClipboardState.writeFrames s.config prepared : LiveM Unit).wp
          (fun _ _ output => writes output = frames) s.clipboard := by
      refine Handler.wp_seq first ?_ ?_
      · rintro e t output ⟨-, failed⟩
        cases failed
      · rintro a t output ⟨rfl, same⟩
        cases same
        refine Handler.wp_mono ?_ (LiveClipboardState.writeFrames_spec frames t)
        rintro r u more ⟨-, written, -⟩
        exact written
    rw [show writes _ = frames from written] at found
    unfold passes
    rw [returned]
    cases prepared with
    | passed events same quiet mayPass =>
      rw [same] at found ⊢
      have same : live = s.nextFrame frame := by simpa using found
      exact ⟨same, by simp⟩
    | held events same queued barred still waits =>
      rw [same] at found
      simp at found

end Live

/-! ## Every run -/

namespace WindowsLoop

variable {host : LiveHost} {w v : WindowsLoop}

/-- What every careful event keeps. -/
structure Inv (w : WindowsLoop) : Prop where
  fits : WindowsConnector.Fits w.capture w.connector
  written : ∀ entry ∈ w.written, entry.2.permits entry.1 = true

theorem Inv.passOn (inv : w.Inv) {event : LiveEvent} (passed : w.passOn host event = some v)
    (permitted : ∀ frame ∈ w.liveWrites host event, w.connector.permits frame = true) : v.Inv := by
  obtain ⟨live, -, rfl⟩ := Option.map_eq_some_iff.mp passed
  refine ⟨inv.fits, fun entry found => ?_⟩
  rcases List.mem_append.mp found with found | found
  · exact inv.written entry found
  · obtain ⟨frame, written, rfl⟩ := List.mem_map.mp found
    exact permitted frame written

theorem drives_frameWithRoleEpoch {frame : Frame} {epoch : Nat} :
    (frameWithRoleEpoch frame epoch).drives = frame.drives := by
  cases frame with
  | control e event => cases event <;> rfl
  | input | role | audio | error | other => rfl

theorem epoch_frameWithRoleEpoch {frame : Frame} {epoch : Nat} (drives : frame.drives = true) :
    (frameWithRoleEpoch frame epoch).epoch = some epoch := by
  cases frame with
  | input | control => rfl
  | role | audio | error | other => cases drives

theorem Inv.session (inv : w.Inv) {platform : WindowsPlatform} {event : WindowsSessionEvent}
    (careful : w.connector.switchesOn event = false)
    (executed : w.exec host (.session platform event) = some v) : v.Inv := by
  obtain ⟨silent, fits⟩ := WindowsConnector.handle_guards (p := platform) inv.fits careful
  simp only [exec] at executed
  split at executed
  · rename_i a done
    cases executed
    refine ⟨fits a done, fun entry found => ?_⟩
    rcases List.mem_append.mp found with found | found
    · exact inv.written entry found
    · obtain ⟨frame, sent, rfl⟩ := List.mem_map.mp found
      obtain ⟨effect, emitted, same⟩ := List.mem_filterMap.mp sent
      cases effect with
      | send sent =>
        cases same
        simp [WindowsConnector.permits, silent _ emitted]
      | inject | allKeysUp | setForwardingEnabled | forceReleaseToLocal | releaseToLocal
      | handleReceiverRelease => cases same
  · cases executed

theorem Inv.input (inv : w.Inv) {frame : Frame} {system : WindowsClipboard}
    (careful : w.strays host (.input frame system) = false)
    (executed : w.exec host (.input frame system) = some v) : v.Inv := by
  simp only [exec] at executed
  split at executed
  · rename_i controls
    refine inv.passOn executed fun written found => ?_
    obtain ⟨live, wrote, rfl⟩ := List.mem_map.mp found
    obtain ⟨rfl, passed⟩ := writes_input wrote
    obtain ⟨controls, enabled, unpaused⟩ := WindowsConnector.mayCapture_iff.mp controls
    show w.connector.permits (frameWithRoleEpoch frame w.connector.roleEpoch) = true
    by_cases drives : frame.drives = true
    · have free : w.connector.coordinator.pending = none := by
        simpa [strays, WindowsConnector.mayCapture, controls, enabled, unpaused, drives, passed]
          using careful
      have may := WindowsConnector.mayDrive_iff.mpr
        ⟨inv.fits.coordinated.controls.mp controls, enabled, unpaused, free⟩
      simp [WindowsConnector.permits, may, epoch_frameWithRoleEpoch drives,
        inv.fits.coordinated.epoch]
    · simp [WindowsConnector.permits, drives_frameWithRoleEpoch, drives]
  · cases executed
    exact inv

theorem Inv.clipboard (inv : w.Inv) {event : LiveEvent}
    (careful : w.strays host (.clipboard event) = false)
    (executed : w.exec host (.clipboard event) = some v) : v.Inv := by
  simp only [exec] at executed
  split at executed
  · rename_i mine
    refine inv.passOn executed fun written found => ?_
    obtain ⟨live, wrote, rfl⟩ := List.mem_map.mp found
    by_cases keeps : releases w.live event = true
    · have permitted : ∀ held ∈ w.live.clipboard.heldInput,
          w.connector.permits held.frame = true := by
        simpa [strays, keeps] using careful
      exact permitted live (held_of_writes mine wrote)
    · rw [silent_of_not_releases mine (Bool.not_eq_true _ ▸ keeps)] at wrote
      cases wrote
  · cases executed

theorem Inv.exec {event : WindowsLoopEvent} (inv : w.Inv)
    (careful : w.strays host event = false) (executed : w.exec host event = some v) : v.Inv := by
  cases event with
  | session platform event => exact inv.session careful executed
  | input frame system => exact inv.input careful executed
  | clipboard event => exact inv.clipboard careful executed

theorem Started.inv (started : w.Started) : w.Inv := by
  refine ⟨?_, fun entry found => ?_⟩
  · rw [started.capture]
    exact started.connector.fits
  · rw [started.written] at found
    cases found

/-- As long as no event strays, the capture is on and input is written for the active controller
    only, in the committed epoch. -/
theorem windows_forwards_as_controller {first : WindowsLoop} (started : first.Started)
    (run : (machine host).Run (fun w event => w.strays host event = false) first w) :
    w.Forwards := by
  have inv : w.Inv := run.invariant (I := Inv)
    (fun _ _ _ careful executed inv => inv.exec careful executed) started.inv
  exact ⟨inv.fits.drives, inv.written⟩

/-! ### Runs -/

/-- A Windows controller with nothing on its clipboard's way. -/
def sampleLoop : WindowsLoop where
  connector := sampleWindowsFirst
  live := Clipboard.newLiveSession
  capture := true

theorem sampleLoop_started : sampleLoop.Started :=
  ⟨sampleWindows_started, Clipboard.newLiveSession_started, rfl, rfl, rfl⟩

/-- The user picks a command. -/
def picks (command : WindowsTrayCommand) : List WindowsLoopEvent :=
  [.session {} (.trayCommand command), .session {} .trayTick]

/-- Control and V go down while the clipboard holds a text; V is held back. -/
def pastes : List WindowsLoopEvent :=
  [.input (.input 0 (.key 29 true)) {},
    .input (.input 0 (.key 47 true)) { current := .ok (some (.text "hi")) }]

/-- The peer is ready to take the control over. -/
def peerReady : WindowsLoopEvent :=
  .session {} (.frame (.role (.ready (initialRoleEpoch + 1) true true none)))

theorem windows_forwards_as_controller_released :
    ((machine Clipboard.liveHost).reach sampleLoop
      (pastes ++ [.clipboard (.sendTick 5000)] ++ picks (.setController .peer))).Forwards ∧
    ((machine Clipboard.liveHost).reach sampleLoop
      (pastes ++ [.clipboard (.sendTick 5000)])).written.map (·.1) =
        [.input initialRoleEpoch (.key 29 true), .input initialRoleEpoch (.key 47 true)] := by
  refine ⟨windows_forwards_as_controller sampleLoop_started
    (run_reach_of_allowedList (fun w event => !w.strays Clipboard.liveHost event) ?_ _
      (by decide +kernel) (by decide +kernel)), by decide +kernel⟩
  intro w event careful
  simpa using careful

/-- Forwarding is switched off and on in a handover; a held paste is written in the old epoch
    behind a handover, which left Windows without control. -/
theorem windows_forwards_unguarded :
    (∃ w, (machine Clipboard.liveHost).Run anyAction sampleLoop w ∧ w.capture = true ∧
      w.connector.coordinator.isTransitioning = true ∧ ¬ w.Forwards) ∧
    ∃ w, (machine Clipboard.liveHost).Run anyAction sampleLoop w ∧
      w.connector.localIsController = false ∧ w.connector.roleEpoch = initialRoleEpoch + 1 ∧
      (.input initialRoleEpoch (.key 47 true), w.connector) ∈ w.written ∧ ¬ w.Forwards := by
  constructor
  · have on : (reach (machine Clipboard.liveHost) sampleLoop (picks (.setController .peer) ++
        picks .toggleInputForwarding ++ picks .toggleInputForwarding)).capture = true := by
      decide +kernel
    refine ⟨_, run_reach _ (by decide +kernel), on, by decide +kernel, fun forwards => ?_⟩
    exact absurd (forwards.capture on) (by decide +kernel)
  · have wrote : (.input initialRoleEpoch (.key 47 true),
        (reach (machine Clipboard.liveHost) sampleLoop (pastes ++ picks (.setController .peer) ++
          [peerReady, .clipboard (.sendTick 5000)])).connector) ∈
        (reach (machine Clipboard.liveHost) sampleLoop (pastes ++ picks (.setController .peer) ++
          [peerReady, .clipboard (.sendTick 5000)])).written := by decide +kernel
    refine ⟨_, run_reach _ (by decide +kernel), by decide +kernel, by decide +kernel, wrote,
      fun forwards => ?_⟩
    exact absurd (forwards.written _ wrote) (by decide +kernel)

end WindowsLoop

end EdgeKvm.Session
