import EdgeKvm.Clipboard.PasteTurns

/-!
# Pastes of the content that was read

A V press over supported content is written once the content that was read for it is the content
exchanged last, unless the barrier timed out or the peer cancelled the transfer; two kinds of
events break this (`passesStale`, `endsOther`), each at once.
-/

namespace EdgeKvm.Clipboard

open EdgeKvm.Lib Handler Machine

/-! ## What an observer learns -/

namespace Observed

variable {codecs : Codecs} {o : Observed} {output : LiveOutput}

/-- What every entry leaves alone is left alone by the whole log. -/
theorem along_keeps {α : Type} (f : Observed → α) {log : List PasteObservation}
    (keeps : ∀ entry ∈ log, ∀ o : Observed, f (o.step codecs entry) = f o) :
    ∀ o : Observed, f (o.along codecs log) = f o := by
  induction log with
  | nil => exact fun o => rfl
  | cons entry log ih =>
    intro o
    rw [along_cons, ih (fun other found => keeps other (List.mem_cons_of_mem _ found))]
    exact keeps entry List.mem_cons_self o

theorem ended_pressed (id : UInt64) : (o.ended id).pressed = o.pressed := by
  unfold ended
  split
  · split <;> rfl
  · rfl

theorem sent_pressed (event : ClipboardEvent) : (o.sent codecs event).pressed = o.pressed := by
  cases event with
  | imageEnd id | textEnd id => exact ended_pressed id
  | _ => rfl

theorem typed_eq (event : Option Session.InputEvent) :
    ∃ controls, o.typed event = { o with controls } := by
  rcases event with _ | event
  · exact ⟨o.controls, rfl⟩
  · cases event with
    | key code down =>
      by_cases control : code = 29 ∨ code = 97
      · exact ⟨_, if_pos control⟩
      · exact ⟨o.controls, if_neg control⟩
    | allKeysUp => exact ⟨[], rfl⟩
    | pointerMotion | pointerButton | pointerWheel => exact ⟨o.controls, rfl⟩

/-- Outputs give up no V press. -/
theorem step_pressed (output : LiveOutput) :
    (o.step codecs (.did output)).pressed = o.pressed := by
  cases output with
  | write frame =>
    cases frame with
    | live live =>
      obtain ⟨controls, same⟩ := @typed_eq o live.inputEvent
      show (o.typed live.inputEvent).pressed = o.pressed
      rw [same]
    | clipboard event => exact sent_pressed event
  | requestLater | writeText | writeImage => rfl

/-- Outputs beside a transfer begin none. -/
theorem step_begun (aside : output.aside = true) :
    (o.step codecs (.did output)).begun = o.begun := by
  cases output with
  | write frame =>
    cases frame with
    | live live => cases aside
    | clipboard event => cases event <;> first | rfl | cases aside
  | requestLater => rfl
  | writeText | writeImage => rfl

/-- Live frames and the tasks of requests exchange nothing. -/
theorem step_idle (idle : (∃ live, output = .write (.live live)) ∨ output.later = true) :
    (o.step codecs (.did output)).begun = o.begun ∧
      (o.step codecs (.did output)).exchanged = o.exchanged := by
  rcases idle with ⟨live, rfl⟩ | later
  · obtain ⟨controls, same⟩ := @typed_eq o live.inputEvent
    show (o.typed live.inputEvent).begun = o.begun ∧
      (o.typed live.inputEvent).exchanged = o.exchanged
    rw [same]
    exact ⟨rfl, rfl⟩
  · cases output with
    | requestLater => exact ⟨rfl, rfl⟩
    | write | writeText | writeImage => cases later

theorem along_pressed (outputs : List LiveOutput) :
    (o.along codecs (outputs.map .did)).pressed = o.pressed :=
  along_keeps pressed (List.forall_mem_map.mpr fun output _ _ => step_pressed output) o

theorem along_begun {outputs : List LiveOutput} (aside : ∀ output ∈ outputs, output.aside = true) :
    (o.along codecs (outputs.map .did)).begun = o.begun :=
  along_keeps begun
    (List.forall_mem_map.mpr fun output found _ => step_begun (aside output found)) o

theorem along_idle {outputs : List LiveOutput} (idle : ∀ output ∈ outputs,
      (∃ live, output = .write (.live live)) ∨ output.later = true) :
    (o.along codecs (outputs.map .did)).begun = o.begun ∧
      (o.along codecs (outputs.map .did)).exchanged = o.exchanged :=
  ⟨along_keeps begun
      (List.forall_mem_map.mpr fun output found _ => (step_idle (idle output found)).1) o,
    along_keeps exchanged
      (List.forall_mem_map.mpr fun output found _ => (step_idle (idle output found)).2) o⟩

end Observed

namespace PasteSession

/-! ## What an event does -/

/-- What an event does: frames beside the outgoing transfer, a live frame behind such, a frame of
    the transfer, its end with the held input behind it, or all waiting is given up. -/
inductive Effect (host : LiveHost) (s : PasteSession) (event : LiveEvent) (t : LiveClipboardState)
    (output : List LiveOutput) : Prop
  | aside (kept : LiveClipboardState.Aside s.live.clipboard t output)
      (offers : ∀ press, s.paste host event = some press →
        s.live.clipboard.letsThrough press.2 = false)
      (goesOn : s.live.ending event = none)
  | passed (live : LiveFrame) (fresh : live ∉ s.live.handed) (events : List ClipboardEvent)
      (requests : List LiveOutput) (later : ∀ o ∈ requests, o.later = true)
      (same : output = frameOutputs events ++ .write (.live live) :: requests)
      (kept : LiveClipboardState.Aside s.live.clipboard t (frameOutputs events))
      (reads : ∀ press, s.paste host event = some press →
        if s.live.clipboard.letsThrough press.2 then press.1 = live ∧ events = []
        else ∀ o : Observed, (o.along host.codecs ((frameOutputs events).map .did)).exchanged =
          some press.2)
      (goesOn : s.live.ending event = none)
  | sent (transfer next : OutgoingClipboardTransfer) (frame : ClipboardEvent)
      (active : s.live.clipboard.outgoing = some transfer)
      (produced : transfer.nextEvent = (some frame, next))
      (partly : LiveClipboardState.completes frame = false) (outgoing : t.outgoing = some next)
      (same : output = [.write (.clipboard frame)]) (unread : s.paste host event = none)
      (goesOn : s.live.ending event = none)
  | ended (transfer : OutgoingClipboardTransfer) (frame : ClipboardEvent) (rest : List LiveOutput)
      (active : s.live.clipboard.outgoing = some transfer)
      (produced : transfer.nextEvent.1 = some frame)
      (complete : LiveClipboardState.completes frame = true) (outgoing : t.outgoing = none)
      (same : output = .write (.clipboard frame) :: rest)
      (released : writes rest = s.live.clipboard.heldInput.map .live)
      (only : ∀ o ∈ rest, (∃ live ∈ s.live.clipboard.heldInput, o = .write (.live live)) ∨
        o.later = true)
      (unread : s.paste host event = none) (ends : s.live.ending event = some transfer)
  | gaveUp (gave : s.live.givesUp event = true) (outgoing : t.outgoing = none)
      (calm : ∀ request, .requestLater request ∈ output → request.aside = true)
      (unread : s.paste host event = none) (goesOn : s.live.ending event = none)

section Effects

variable {host : LiveHost} {s : PasteSession} {event : LiveEvent}

/-- A V press is handed in by a running session. -/
theorem paste_some {press : LiveFrame × ClipboardContentId}
    (found : s.paste host event = some press) : ∃ frame system item,
      event = .input frame system ∧ system.current = .ok (some item) ∧ s.live.paused = false ∧
      s.live.config.enabled = true ∧ s.live.clipboard.pasteBarrierDeadline = none ∧
      LiveClipboardState.isPasteKey (s.live.nextFrame frame) = true ∧
      s.live.clipboard.canOffer host s.live.config item = true ∧
      press = (s.live.nextFrame frame, item.id host.codecs) := by
  unfold paste at found
  split at found
  · rename_i frame system
    split at found
    · rename_i item read
      split at found
      · rename_i pressed
        simp only [Bool.and_eq_true, Bool.not_eq_true', Option.isNone_iff_eq_none] at pressed
        obtain ⟨⟨⟨⟨⟨running, enabled⟩, free⟩, paste⟩, -⟩, can⟩ := pressed
        exact ⟨frame, system, item, rfl, read, running, enabled, free, paste, can,
          (Option.some.inj found).symm⟩
      · cases found
    · cases found
  · cases found

/-- A call that stays beside the transfer. -/
theorem aside_effect {h : LiveM Unit} (unread : s.paste host event = none)
    (goesOn : s.live.ending event = none)
    (within : h.Within LiveClipboardState.Aside s.live.clipboard) :
    h.wp (fun _ t output => s.Effect host event t output) s.live.clipboard := by
  refine Handler.wp_mono (fun r t output kept => .aside kept (fun press found => ?_) goesOn) within
  rw [unread] at found
  cases found

theorem paused_effect (unread : s.paste host event = none) (goesOn : s.live.ending event = none) :
    (pure () : LiveM Unit).wp (fun _ t output => s.Effect host event t output)
      s.live.clipboard :=
  aside_effect unread goesOn (LiveClipboardState.within_pure LiveClipboardState.steady_aside ())

/-- The frame that is handed in is a new one. -/
theorem fresh_nextFrame (inv : s.live.Inv) (frame : Session.Frame) :
    s.live.nextFrame frame ∉ s.live.handed := by
  intro handed
  have below := inv.serial_lt handed
  exact absurd below (Nat.lt_irrefl _)

/-- The frames of an offer tell where it ends. -/
theorem offered_inj {events more : List ClipboardEvent} (live : LiveFrame)
    (same : events.map SessionFrame.clipboard ++ [.live live] =
      more.map .clipboard ++ [.live live]) : events = more :=
  List.map_injective_iff.mpr (fun _ _ alike => SessionFrame.clipboard.inj alike)
    (List.append_inj' same rfl).1

theorem offered_ne {events more : List ClipboardEvent} {live : LiveFrame} :
    events.map SessionFrame.clipboard ++ [.live live] ≠ more.map .clipboard := by
  intro same
  simpa using congrArg liveFrames same

theorem liveInput_effect (inv : s.live.Inv) {frame : Session.Frame} {system : WindowsClipboard} :
    (LiveClipboardState.liveInput host s.live.config system (s.live.nextFrame frame)).wp
      (fun _ t output => s.Effect host (.input frame system) t output) s.live.clipboard := by
  have outcome : (LiveClipboardState.prepareInput host s.live.config system
      (s.live.nextFrame frame)).wp (fun r _ _ =>
        ∀ press, s.paste host (.input frame system) = some press →
          if s.live.clipboard.letsThrough press.2 then
            press.1 = s.live.nextFrame frame ∧ r = .ok [.live (s.live.nextFrame frame)]
          else ∃ events, r = .ok (events.map .clipboard) ∨
            r = .ok (events.map .clipboard ++ [.live (s.live.nextFrame frame)]) ∧
              ∀ o : Observed, (o.along host.codecs ((frameOutputs events).map .did)).exchanged =
                some press.2) s.live.clipboard := by
    refine fun press found => ?_
    obtain ⟨frame', system', item, same, read, -, enabled, free, paste, can, rfl⟩ :=
      paste_some found
    cases same
    split
    · rename_i passes
      exact ⟨rfl, LiveClipboardState.prepareInput_passes free read can passes⟩
    · rename_i offers
      exact LiveClipboardState.prepareInput_offers enabled free paste read can
        (Bool.not_eq_true _ ▸ offers)
  refine Handler.wp_seq
    (Handler.wp_and LiveClipboardState.prepareInput_readies outcome) ?_ ?_
  · rintro e t output ⟨⟨-, frames, failed, -⟩, -⟩
    cases failed
  · rintro frames t output ⟨⟨rfl, same, returned, readied⟩, outcome⟩
    cases returned
    cases readied with
    | held events kept written =>
      subst written
      have wrote := @LiveClipboardState.writeFrames_clipboard s.live.config t events []
        (fun r u more => u = t ∧ more = []) ⟨rfl, rfl⟩
      rw [List.append_nil] at wrote
      refine Handler.wp_mono ?_ wrote
      rintro r u output ⟨more, rfl, rfl, rfl⟩
      rw [List.nil_append, List.append_nil]
      refine .aside kept (fun press found => ?_) rfl
      have returned := outcome press found
      cases passes : s.live.clipboard.letsThrough press.2 with
      | false => rfl
      | true =>
        rw [passes, if_pos rfl] at returned
        have alike := congrArg liveFrames (Except.ok.inj returned.2)
        simp at alike
    | passed events kept written =>
      subst written
      refine Handler.wp_mono ?_ (LiveClipboardState.writeFrames_clipboard events _
        (LiveClipboardState.writeFrames_live (s.live.nextFrame frame)))
      rintro r u output ⟨more, rfl, -, unchanged, requests, rfl, later⟩
      rw [List.nil_append]
      refine .passed (s.live.nextFrame frame) (fresh_nextFrame inv frame) events requests later rfl
        ⟨kept.aside, fun next found => kept.outgoing next (unchanged ▸ found)⟩
        (fun press found => ?_) rfl
      have returned := outcome press found
      split at returned
      · rename_i passes
        rw [if_pos passes]
        refine ⟨returned.1, offered_inj (s.live.nextFrame frame) ?_⟩
        exact Except.ok.inj returned.2
      · rename_i offers
        rw [if_neg offers]
        obtain ⟨other, same | ⟨same, exchanges⟩⟩ := returned
        · exact absurd (Except.ok.inj same) offered_ne
        · rw [offered_inj _ (Except.ok.inj same)]
          exact exchanges

theorem sendNextFrame_effect (unread : s.paste host event = none)
    (ends : s.live.ending event = s.live.atEnd) :
    (LiveClipboardState.sendNextFrame s.live.config).wp
      (fun _ t output => s.Effect host event t output) s.live.clipboard := by
  have nothing : ∀ press, s.paste host event = some press →
      s.live.clipboard.letsThrough press.2 = false := by
    intro press found
    rw [unread] at found
    cases found
  have resting : LiveClipboardState.Aside s.live.clipboard s.live.clipboard [] :=
    LiveClipboardState.steady_aside.changed rfl rfl rfl
  unfold LiveSession.atEnd at ends
  unfold LiveClipboardState.sendNextFrame
  rw [Handler.wp_read_bind]
  cases active : s.live.clipboard.outgoing with
  | none =>
    rw [active] at ends
    exact .aside resting nothing ends
  | some transfer =>
    rw [active] at ends
    dsimp only
    split
    · rename_i after produced
      have same : after = transfer := by
        unfold OutgoingClipboardTransfer.nextEvent at produced
        split at produced <;> try split at produced
        all_goals first | (cases produced; rfl) | cases produced
      subst same
      refine .aside ⟨resting.aside, fun next found => .inl (active.trans found)⟩ nothing ?_
      rw [ends, Option.filter_some, produced]
      rfl
    · rename_i frame after produced
      split
      · rename_i complete
        rw [Handler.wp_bind, wp_update, Handler.wp_bind, LiveClipboardState.send, wp_emit]
        refine Handler.wp_mono ?_ LiveClipboardState.releaseHeldInput_outputs
        rintro r t output ⟨-, unchanged, released, only⟩
        refine .ended transfer frame output active (by rw [produced]) complete unchanged rfl
          released only unread ?_
        rw [ends, Option.filter_some, produced, Option.any_some, if_pos complete]
      · rename_i partly
        refine .sent transfer after frame active produced (Bool.not_eq_true _ ▸ partly) rfl rfl
          unread ?_
        rw [ends, Option.filter_some, produced, Option.any_some, if_neg partly]

theorem sendTick_effect {now : Nat} (running : s.live.paused = false) :
    (LiveClipboardState.sendTick s.live.config now).wp
      (fun _ t output => s.Effect host (.sendTick now) t output) s.live.clipboard := by
  unfold LiveClipboardState.sendTick
  rw [Handler.wp_read_bind]
  by_cases expired : s.live.clipboard.pasteBarrierExpired now = true
  · have gave : s.live.givesUp (.sendTick now) = true := by
      simp [LiveSession.givesUp, running, expired]
    have goesOn : s.live.ending (.sendTick now) = none := by
      simp [LiveSession.ending, expired]
    split
    · unfold LiveClipboardState.cancelExpiredPasteBarrier
      rw [Handler.wp_bind, Handler.wp_read_bind, Handler.wp_bind, wp_update]
      refine Handler.wp_mono ?_ (LiveClipboardState.sendAll_spec _ _)
      rintro r t output ⟨rfl, rfl, rfl⟩
      refine Handler.wp_mono ?_ LiveClipboardState.releaseHeldInput_outputs
      rintro r u more ⟨-, unchanged, -, only⟩
      refine .gaveUp gave unchanged (fun request found => ?_) rfl goesOn
      rcases List.mem_append.mp found with cancel | released
      · obtain ⟨event, -, same⟩ := List.mem_map.mp cancel
        cases same
      · obtain ⟨live, -, same⟩ | later := only _ released
        · cases same
        · exact later
    · rename_i idle
      have needed : s.live.clipboard.needsSendTick = true := by
        obtain ⟨deadline, found, -⟩ := (Option.any_eq_true _ _).mp expired
        simp [LiveClipboardState.needsSendTick, found]
      exact absurd needed idle
  · have ends : s.live.ending (.sendTick now) = s.live.atEnd := by
      simp [LiveSession.ending, running, expired]
    split
    · exact sendNextFrame_effect rfl ends
    · rename_i idle
      refine aside_effect rfl ?_ (LiveClipboardState.within_pure LiveClipboardState.steady_aside ())
      have none : s.live.clipboard.outgoing = none := by
        simp only [LiveClipboardState.needsSendTick, Bool.or_eq_true, not_or,
          Option.not_isSome_iff_eq_none] at idle
        exact idle.1
      rw [ends, LiveSession.atEnd, none]
      rfl

theorem handleRemoteEvent_effect {event : ClipboardEvent} {system : WindowsClipboard}
    (running : s.live.paused = false) :
    (LiveClipboardState.handleRemoteEvent host s.live.config system event).wp
      (fun _ t output => s.Effect host (.peer event system) t output) s.live.clipboard := by
  by_cases goesOn : s.live.config.enabled = false ∨ s.live.clipboard.cancelsOutgoing event = false
  · exact aside_effect rfl rfl
      (LiveClipboardState.handleRemoteEvent_within LiveClipboardState.steady_aside goesOn)
  · rw [not_or, Bool.not_eq_false, Bool.not_eq_false] at goesOn
    obtain ⟨enabled, cancels⟩ := goesOn
    have gave : s.live.givesUp (.peer event system) = true := by
      simp [LiveSession.givesUp, running, enabled, cancels]
    unfold LiveClipboardState.handleRemoteEvent
    rw [if_pos enabled]
    cases event with
    | imageCancel id reason =>
      unfold LiveClipboardState.handleTransfer
      rw [Handler.wp_read_bind, if_pos cancels, Handler.wp_bind, wp_update]
      refine Handler.wp_mono ?_ LiveClipboardState.releaseHeldInput_outputs
      rintro r t output ⟨-, unchanged, -, only⟩
      refine .gaveUp gave unchanged (fun request found => ?_) rfl rfl
      obtain ⟨live, -, same⟩ | later := only _ found
      · cases same
      · exact later
    | textOffer | textRequest | contentRequest | imageStart | imageChunk | imageEnd | textStart
    | textChunk | textEnd => cases cancels

theorem turn_effect (inv : s.live.Inv)
    (requests : ∀ request ∈ s.live.requests, request.aside = true) :
    (s.live.turn host event).wp (fun _ t output => s.Effect host event t output)
      s.live.clipboard := by
  have steady := LiveClipboardState.steady_aside
  cases event with
  | input frame system =>
    simp only [LiveSession.turn]
    split
    · rename_i stopped
      refine paused_effect (Option.eq_none_iff_forall_ne_some.mpr fun press found => ?_) rfl
      obtain ⟨-, -, -, -, -, running, -⟩ := paste_some found
      rw [stopped] at running
      cases running
    · exact liveInput_effect inv
  | peer event system =>
    simp only [LiveSession.turn]
    split
    · exact paused_effect rfl rfl
    · rename_i running
      exact handleRemoteEvent_effect (Bool.not_eq_true _ ▸ running)
  | poll system =>
    simp only [LiveSession.turn]
    split
    · exact paused_effect rfl rfl
    · exact aside_effect rfl rfl (LiveClipboardState.pollLocalChange_within steady)
  | readFinished result =>
    exact aside_effect rfl rfl (LiveClipboardState.completeLocalRead_within steady)
  | sendChunk =>
    simp only [LiveSession.turn]
    split
    · rename_i stopped
      exact paused_effect rfl (if_pos stopped)
    · rename_i running
      exact sendNextFrame_effect rfl (if_neg running)
  | sendTick now =>
    simp only [LiveSession.turn]
    split
    · rename_i stopped
      refine paused_effect rfl ?_
      simp [LiveSession.ending, stopped]
    · rename_i running
      exact sendTick_effect (Bool.not_eq_true _ ▸ running)
  | requestDue =>
    simp only [LiveSession.turn]
    split
    · exact paused_effect rfl rfl
    · refine aside_effect rfl rfl (Handler.wp_mono ?_ (LiveClipboardState.sendAll_spec _ _))
      rintro r t output ⟨-, rfl, rfl⟩
      refine ⟨fun o found => ?_, fun next found => .inl found⟩
      obtain ⟨request, member, rfl⟩ := List.mem_map.mp found
      exact requests request (List.mem_of_mem_head? (Option.mem_toList.mp member))
  | expireIncoming now =>
    exact aside_effect rfl rfl (LiveClipboardState.expireIncoming_within steady)
  | pause | configure => exact paused_effect rfl rfl

end Effects

/-! ## The invariant -/

/-- What holds in every reachable state. -/
structure Inv (host : LiveHost) (s : PasteSession) : Prop where
  live : s.live.Inv
  requests : ∀ request ∈ s.live.requests, request.aside = true
  known : ∀ press ∈ (s.observed host).pressed, press.1 ∈ s.live.handed
  underWay : ∀ transfer, s.live.clipboard.outgoing = some transfer →
    transfer.UnderWay (s.observed host)

section Steps

variable {host : LiveHost} {s t : PasteSession} {event : LiveEvent}

/-- The observer once the event is announced. -/
def facing (host : LiveHost) (s : PasteSession) (event : LiveEvent) : Observed :=
  (s.observed host).along host.codecs (s.marks host event)

theorem facing_begun : (s.facing host event).begun = (s.observed host).begun := by
  unfold facing marks
  split
  · rfl
  · cases s.paste host event <;> rfl

theorem facing_exchanged : (s.facing host event).exchanged = (s.observed host).exchanged := by
  unfold facing marks
  split
  · rfl
  · cases s.paste host event <;> rfl

theorem facing_pressed : (s.facing host event).pressed =
    if s.live.givesUp event then []
    else (s.observed host).pressed ++ (s.paste host event).toList := by
  unfold facing marks
  split
  · rfl
  · cases s.paste host event with
    | none => exact (List.append_nil _).symm
    | some press => rfl

/-- The session behind an event. -/
theorem exec_paste (executed : (loop host).exec s event = some t) : ∃ output,
    (LiveSession.loop host).exec s.live event = some t.live ∧
    output = (s.live.turn host event s.live.clipboard).output ∧
    t.live = s.live.behind event (s.live.turn host event s.live.clipboard) ∧
    t.log = s.log ++ s.marks host event ++ output.map .did := by
  obtain ⟨live, ran, rfl⟩ := Option.map_eq_some_iff.mp executed
  exact ⟨_, ran, rfl, LiveSession.exec_behind ran, rfl⟩

theorem observed_behind {output : List LiveOutput}
    (log : t.log = s.log ++ s.marks host event ++ output.map .did) :
    t.observed host = (s.facing host event).along host.codecs (output.map .did) := by
  unfold observed observe facing
  rw [log, Observed.along_append, Observed.along_append]
  rfl

/-- No task of a request sends a frame of a transfer. -/
theorem Effect.requests {after : LiveClipboardState} {output : List LiveOutput}
    (effect : s.Effect host event after output) {request : ClipboardEvent}
    (found : .requestLater request ∈ output) : request.aside = true := by
  cases effect with
  | aside kept => exact absurd (kept.aside _ found) (by simp [LiveOutput.aside])
  | passed live fresh events requests later same kept =>
    rw [same] at found
    rcases List.mem_append.mp found with offered | found
    · exact absurd (kept.aside _ offered) (by simp [LiveOutput.aside])
    · rcases List.mem_cons.mp found with same | found
      · cases same
      · exact later _ found
  | sent transfer next frame active produced partly outgoing same =>
    rw [same] at found
    cases List.mem_singleton.mp found
  | ended transfer frame rest active produced complete outgoing same released only =>
    rw [same] at found
    rcases List.mem_cons.mp found with same | found
    · cases same
    · rcases only _ found with ⟨live, -, same⟩ | later
      · cases same
      · exact later
  | gaveUp gave outgoing calm => exact calm request found

/-- The outgoing transfer stays the one that was begun last. -/
theorem Effect.underWay {after : LiveClipboardState} {output : List LiveOutput}
    (effect : s.Effect host event after output) (inv : s.Inv host)
    {transfer : OutgoingClipboardTransfer} (found : after.outgoing = some transfer) :
    transfer.UnderWay ((s.facing host event).along host.codecs (output.map .did)) := by
  have kept (o : Observed) (begun : o.begun = (s.observed host).begun)
      (keeps : s.live.clipboard.KeepsOutgoing after) : transfer.UnderWay o := by
    intro started
    rcases keeps transfer found with earlier | fresh
    · rw [begun]
      exact inv.underWay transfer earlier started
    · exact absurd fresh started
  cases effect with
  | aside stays =>
    refine kept _ ?_ stays.outgoing
    rw [Observed.along_begun stays.aside, facing_begun]
  | passed live fresh events requests later same stays =>
    refine kept _ ?_ stays.outgoing
    have idle : ∀ o ∈ LiveOutput.write (.live live) :: requests,
        (∃ live, o = .write (.live live)) ∨ o.later = true :=
      List.forall_mem_cons.mpr ⟨.inl ⟨live, rfl⟩, fun o member => .inr (later o member)⟩
    rw [same, List.map_append, Observed.along_append, (Observed.along_idle idle).1,
      Observed.along_begun stays.aside, facing_begun]
  | sent before next frame active produced partly outgoing same =>
    rw [found] at outgoing
    obtain rfl := Option.some.inj outgoing
    have earlier : before.UnderWay (s.facing host event) := by
      intro started
      rw [facing_begun]
      exact inv.underWay before active started
    rw [same]
    exact earlier.onward produced partly
  | ended before frame rest active produced complete outgoing => rw [outgoing] at found; cases found
  | gaveUp gave outgoing => rw [outgoing] at found; cases found

theorem Inv.effect (inv : s.Inv host) (event : LiveEvent) : (s.live.turn host event).wp
    (fun _ after output => s.Effect host event after output) s.live.clipboard :=
  turn_effect inv.live inv.requests

theorem Inv.step (inv : s.Inv host) (executed : (loop host).exec s event = some t) :
    t.Inv host := by
  obtain ⟨output, ran, rfl, behind, log⟩ := exec_paste executed
  have observed := observed_behind log
  have effect := inv.effect event
  have handed : t.live.handed = s.live.handed ++ handedIn (s.live.announced event) := by
    obtain ⟨frames, -, grown⟩ := LiveSession.exec_turned ran
    simp [LiveSession.handed, grown]
  refine ⟨inv.live.step ran, fun request found => ?_, fun press found => ?_, ?_⟩
  · rw [behind] at found
    rcases List.mem_append.mp found with waiting | added
    · refine inv.requests request ?_
      split at waiting
      · exact List.mem_of_mem_tail waiting
      · exact waiting
    · obtain ⟨o, member, same⟩ := List.mem_filterMap.mp added
      split at same <;> cases same
      exact Effect.requests effect member
  · rw [observed, Observed.along_pressed, facing_pressed] at found
    rw [handed]
    split at found
    · cases found
    · rcases List.mem_append.mp found with earlier | new
      · exact List.mem_append_left _ (inv.known press earlier)
      · obtain ⟨frame, system, item, rfl, -, running, -, -, -, -, rfl⟩ :=
          paste_some (Option.mem_toList.mp new)
        refine List.mem_append_right _ ?_
        simp [LiveSession.announced, running]
  · rw [observed, behind]
    exact fun transfer found => Effect.underWay effect inv found

/-! ## V presses -/

/-- Entries that write no live frame find nothing. -/
theorem finds_of_silent {codecs : Codecs} {past : List PasteObservation} {output : LiveOutput}
    (silent : ∀ live, output ≠ .write (.live live)) : Finds codecs past (.did output) := by
  cases output with
  | write frame =>
    cases frame with
    | live live => exact absurd rfl (silent live)
    | clipboard => trivial
  | requestLater | writeText | writeImage => trivial

theorem live_of_aside {output : LiveOutput} (aside : output.aside = true) (live : LiveFrame) :
    output ≠ .write (.live live) := by
  rintro rfl
  cases aside

theorem live_of_later {output : LiveOutput} (later : output.later = true) (live : LiveFrame) :
    output ≠ .write (.live live) := by
  rintro rfl
  cases later

/-- Outputs that write no live frame keep the property. -/
theorem before_of_silent {codecs : Codecs} {past : List PasteObservation}
    {output : List LiveOutput} (silent : ∀ o ∈ output, ∀ live, o ≠ .write (.live live)) :
    Before (fun front => Finds codecs (past ++ front)) (output.map .did) :=
  before_of_forall (List.forall_mem_map.mpr fun o found _ => finds_of_silent (silent o found))

theorem pastes_iff {output : List LiveOutput} (pastes : s.PastesWhatWasRead host)
    (log : t.log = s.log ++ s.marks host event ++ output.map .did) :
    t.PastesWhatWasRead host ↔
      Before (fun front => Finds host.codecs (s.log ++ s.marks host event ++ front))
        (output.map .did) := by
  have marks : Before (fun front => Finds host.codecs (s.log ++ front)) (s.marks host event) := by
    refine before_of_forall fun entry found _ => ?_
    unfold marks at found
    split at found
    · rw [List.mem_singleton.mp found]
      trivial
    · obtain ⟨press, -, rfl⟩ := Option.map_eq_some_iff.mp (Option.mem_toList.mp found)
      trivial
  unfold PastesWhatWasRead at *
  rw [log, before_append, before_append]
  exact ⟨fun all => all.2, fun added => ⟨⟨pastes, marks⟩, added⟩⟩

theorem facing_eq (front : List PasteObservation) :
    observe host.codecs (s.log ++ s.marks host event ++ front) =
      (s.facing host event).along host.codecs front := by
  unfold observe facing
  rw [Observed.along_append, Observed.along_append]
  rfl

/-- Behind the end of a transfer its content is exchanged. -/
theorem exchanged_ended (inv : s.Inv host) (event : LiveEvent) {transfer : OutgoingClipboardTransfer}
    {frame : ClipboardEvent} (active : s.live.clipboard.outgoing = some transfer)
    (produced : transfer.nextEvent.1 = some frame)
    (complete : LiveClipboardState.completes frame = true) {rest : List LiveOutput}
    (idle : ∀ o ∈ rest, (∃ live, o = .write (.live live)) ∨ o.later = true) :
    ((s.facing host event).along host.codecs
      (.did (.write (.clipboard frame)) :: rest.map .did)).exchanged =
        some transfer.payload.contentId := by
  have underWay : transfer.UnderWay (s.facing host event) := by
    intro started
    rw [facing_begun]
    exact inv.underWay transfer active started
  rw [Observed.along_cons, (Observed.along_idle idle).2]
  exact underWay.ended produced complete

/-- An event that makes no mistake keeps the property. -/
theorem Effect.pastes {after : LiveClipboardState} {output : List LiveOutput}
    (effect : s.Effect host event after output) (inv : s.Inv host)
    (current : s.passesStale host event = false) (awaited : s.endsOther host event = false) :
    Before (fun front => Finds host.codecs (s.log ++ s.marks host event ++ front))
      (output.map .did) := by
  cases effect with
  | aside kept => exact before_of_silent fun o found => live_of_aside (kept.aside o found)
  | sent transfer next frame active produced partly outgoing same =>
    refine before_of_silent fun o found live => ?_
    rw [same] at found
    rw [List.mem_singleton.mp found]
    exact fun alike => nomatch alike
  | gaveUp gave =>
    intro front entry behind split
    obtain ⟨first, rest, rfl, rfl, -⟩ := List.map_eq_append_iff.mp split
    cases entry with
    | did o =>
      refine match o with
        | .write (.live live) => fun read found => ?_
        | .write (.clipboard _) | .requestLater _ | .writeText _ | .writeImage _ => trivial
      rw [facing_eq, Observed.along_pressed, facing_pressed, if_pos gave] at found
      cases found
    | pressed | gaveUp => trivial
  | passed live fresh events requests later same kept reads =>
    rw [same, List.map_append, before_append, List.map_cons, before_cons]
    refine ⟨before_of_silent fun o found => live_of_aside (kept.aside o found), ?_, ?_⟩
    · intro read found
      rw [List.append_nil, facing_eq, Observed.along_pressed, facing_pressed] at found
      rw [List.append_nil, facing_eq]
      split at found
      · cases found
      · rcases List.mem_append.mp found with earlier | new
        · exact absurd (inv.known _ earlier) fresh
        · have pressed := Option.mem_toList.mp new
          have read' := reads _ pressed
          split at read'
          · rename_i passes
            rw [read'.2]
            show (s.facing host event).exchanged = some read
            rw [facing_exchanged]
            simpa [passesStale, Option.mem_def.mp pressed, passes] using current
          · exact read' _
    · exact before_of_forall (List.forall_mem_map.mpr fun o found _ =>
        finds_of_silent (live_of_later (later o found)))
  | ended transfer frame rest active produced complete outgoing same released only unread ends =>
    rw [same, List.map_cons, before_cons]
    refine ⟨trivial, fun front entry behind split => ?_⟩
    obtain ⟨first, others, rfl, rfl, beyond⟩ := List.map_eq_append_iff.mp split
    obtain ⟨o, later, rfl, rfl, -⟩ := List.map_eq_cons_iff.mp beyond
    refine match o, only o (by simp) with
      | .write (.live live), written => fun read found => ?_
      | .write (.clipboard _), _ | .requestLater _, _ | .writeText _, _ | .writeImage _, _ => trivial
    have idle : ∀ o ∈ first, (∃ live, o = .write (.live live)) ∨ o.later = true := by
      intro o found
      rcases only o (List.mem_append_left _ found) with ⟨live, -, rfl⟩ | later
      · exact .inl ⟨live, rfl⟩
      · exact .inr later
    have exchanged := exchanged_ended inv event active produced complete idle
    have held : live ∈ s.live.clipboard.heldInput := by
      rcases written with ⟨other, held, alike⟩ | later
      · cases alike
        exact held
      · cases later
    rw [facing_eq] at found ⊢
    rw [exchanged]
    have waits : (live, read) ∈ (s.observed host).pressed := by
      rw [← List.map_cons, Observed.along_pressed, facing_pressed, unread] at found
      split at found
      · cases found
      · rw [Option.toList_none, List.append_nil] at found
        exact found
    unfold endsOther at awaited
    rw [ends, Option.any_some, List.any_eq_false] at awaited
    have same := awaited (live, read) waits
    simp only [held, decide_true, Bool.true_and, decide_eq_true_eq, not_not] at same
    rw [same]

/-- A V press that is let through over other content than was exchanged breaks the property. -/
theorem Effect.stale {after : LiveClipboardState} {output : List LiveOutput}
    (effect : s.Effect host event after output) (stale : s.passesStale host event = true) :
    ¬ Before (fun front => Finds host.codecs (s.log ++ s.marks host event ++ front))
      (output.map .did) := by
  obtain ⟨press, pressed, wrong⟩ := (Option.any_eq_true _ _).mp stale
  rw [Bool.and_eq_true, decide_eq_true_eq] at wrong
  have unread (none : s.paste host event = none) : False := by
    rw [none] at pressed
    cases pressed
  cases effect with
  | aside kept offers =>
    rw [offers press pressed] at wrong
    cases wrong.1
  | passed live fresh events requests later same kept reads =>
    intro holds
    have through := reads press pressed
    rw [if_pos wrong.1] at through
    obtain ⟨rfl, rfl⟩ := through
    rw [same] at holds
    have finds := holds [] _ _ rfl press.2
    obtain ⟨frame, system, item, rfl, -⟩ := paste_some pressed
    have goesOn : s.live.givesUp (.input frame system) = false := rfl
    rw [facing_eq, Observed.along_nil, facing_pressed, facing_exchanged, goesOn,
      if_neg Bool.false_ne_true] at finds
    exact wrong.2 (finds (List.mem_append_right _ (Option.mem_toList.mpr pressed)))
  | sent transfer next frame active produced partly outgoing same none => exact (unread none).elim
  | ended transfer frame rest active produced complete outgoing same released only none =>
    exact (unread none).elim
  | gaveUp gave outgoing calm none => exact (unread none).elim

theorem givesUp_of_ending {transfer : OutgoingClipboardTransfer}
    (ends : s.live.ending event = some transfer) : s.live.givesUp event = false := by
  cases event with
  | sendTick now =>
    simp only [LiveSession.ending] at ends
    split at ends
    · cases ends
    · rename_i goesOn
      simp only [Bool.or_eq_true, not_or, Bool.not_eq_true] at goesOn
      simp [LiveSession.givesUp, goesOn]
  | peer => cases ends
  | _ => rfl

/-- A transfer that ends while a V press over other content is held back breaks the property. -/
theorem Effect.other {after : LiveClipboardState} {output : List LiveOutput}
    (effect : s.Effect host event after output) (inv : s.Inv host)
    (other : s.endsOther host event = true) :
    ¬ Before (fun front => Finds host.codecs (s.log ++ s.marks host event ++ front))
      (output.map .did) := by
  obtain ⟨transfer, ends, wrong⟩ := (Option.any_eq_true _ _).mp other
  obtain ⟨press, waits, wrong⟩ := List.any_eq_true.mp wrong
  rw [Bool.and_eq_true, decide_eq_true_eq, decide_eq_true_eq] at wrong
  have goesOn (none : s.live.ending event = none) : False := by
    rw [none] at ends
    cases ends
  cases effect with
  | aside kept offers none => exact (goesOn none).elim
  | passed live fresh events requests later same kept reads none => exact (goesOn none).elim
  | sent before next frame active produced partly outgoing same unread none =>
    exact (goesOn none).elim
  | gaveUp gave outgoing calm unread none => exact (goesOn none).elim
  | ended ending frame rest active produced complete outgoing same released only unread found =>
    rw [ends] at found
    obtain rfl := Option.some.inj found
    intro holds
    have written : .write (.live press.1) ∈ rest := by
      have listed : SessionFrame.live press.1 ∈ writes rest := by
        rw [released]
        exact List.mem_map_of_mem wrong.1
      obtain ⟨o, member, same⟩ := List.mem_filterMap.mp listed
      split at same <;> cases same
      exact member
    obtain ⟨first, later, rfl⟩ := List.append_of_mem written
    rw [same] at holds
    have finds := holds (.did (.write (.clipboard frame)) :: first.map .did)
      (.did (.write (.live press.1))) (later.map .did)
      (by rw [List.map_cons, List.map_append]; rfl) press.2
    have idle : ∀ o ∈ first, (∃ live, o = .write (.live live)) ∨ o.later = true := by
      intro o found
      rcases only o (List.mem_append_left _ found) with ⟨live, -, rfl⟩ | later
      · exact .inl ⟨live, rfl⟩
      · exact .inr later
    rw [facing_eq, exchanged_ended inv event active produced complete idle, ← List.map_cons,
      Observed.along_pressed, facing_pressed, if_neg (by rw [givesUp_of_ending ends]; decide)] at finds
    exact wrong.2 (Option.some.inj (finds (List.mem_append_left _ waits))).symm

theorem pastes_step (inv : s.Inv host) (pastes : s.PastesWhatWasRead host)
    (executed : (loop host).exec s event = some t) : t.PastesWhatWasRead host ↔
      s.passesStale host event = false ∧ s.endsOther host event = false := by
  obtain ⟨output, -, rfl, -, log⟩ := exec_paste executed
  have effect := inv.effect event
  rw [pastes_iff pastes log]
  constructor
  · intro holds
    refine ⟨?_, ?_⟩
    · by_contra stale
      exact Effect.stale effect (Bool.not_eq_false _ ▸ stale) holds
    · by_contra other
      exact Effect.other effect inv (Bool.not_eq_false _ ▸ other) holds
  · rintro ⟨current, awaited⟩
    exact Effect.pastes effect inv current awaited

end Steps

theorem Inv.of_started {host : LiveHost} {s : PasteSession} (started : s.Started) :
    s.Inv host := by
  obtain ⟨lastObserved, sequence, peer, fresh⟩ := started.live.clipboard
  have silent : s.observed host = {} := by
    unfold observed
    rw [started.log]
    rfl
  refine ⟨.of_started started.live, ?_, ?_, ?_⟩
  · rw [started.live.requests]
    exact fun request found => absurd found List.not_mem_nil
  · rw [silent]
    exact fun press found => absurd found List.not_mem_nil
  · rw [fresh]
    exact fun transfer found => nomatch found

/-- A paste finds what was read for it as long as no V press is let through over other content than
    was exchanged last and no transfer ends while a V press over other content is held back; either
    event breaks it. -/
theorem paste_finds_what_was_read {host : LiveHost} {first s : PasteSession}
    (started : first.Started) (run : (loop host).Run (fun s event =>
      s.passesStale host event = false ∧ s.endsOther host event = false) first s) :
    s.PastesWhatWasRead host ∧ ∀ event t, (loop host).exec s event = some t →
      (t.PastesWhatWasRead host ↔
        s.passesStale host event = false ∧ s.endsOther host event = false) := by
  have kept : s.Inv host ∧ s.PastesWhatWasRead host := by
    refine run.invariant (I := fun s => s.Inv host ∧ s.PastesWhatWasRead host) ?_
      ⟨Inv.of_started started, ?_⟩
    · rintro s event t right executed ⟨inv, pastes⟩
      exact ⟨inv.step executed, (pastes_step inv pastes executed).mpr right⟩
    · unfold PastesWhatWasRead
      rw [started.log]
      exact before_of_forall fun entry found => absurd found List.not_mem_nil
  exact ⟨kept.2, fun event t executed => pastes_step kept.1 kept.2 executed⟩


end PasteSession

/-! ## An image that is copied again -/

/-- A host for which every text fits one frame. -/
def inlineHost : LiveHost where
  codecs := sampleCodecs
  fitsSecureFrame _ := true

def samplePicture : CanonicalImage where
  width := 1
  height := 1
  rgba := [1, 2, 3, 4]
  png := [1, 2, 3, 4]
  contentSha256 := Vector.replicate 32 7

def newPasteSession : PasteSession := { live := newLiveSession }

theorem newPasteSession_started : newPasteSession.Started := ⟨newLiveSession_started, rfl⟩

/-- A copy on the Windows computer that is read. -/
def copied (sequence : UInt32) (item : ClipboardItem) : List LiveEvent :=
  [.poll { sequenceNumber := sequence }, .readFinished (.ok (some item))]

/-- Control and V while the clipboard holds the item. -/
def pasted (item : ClipboardItem) : List LiveEvent :=
  [.input (.input 0 (.key 29 true)) {},
    .input (.input 0 (.key 47 true)) { current := .ok (some item) }]

/-- The V press of such a paste. -/
def pastePress : LiveFrame := ⟨1, .input 0 (.key 47 true)⟩

/-- A copied image is pasted while its transfer is under way. -/
def pastedInTime : List LiveEvent :=
  copied 1 (.image samplePicture) ++ pasted (.image samplePicture) ++
    [.sendChunk, .sendChunk, .sendChunk]

/-- An image is copied and sent, then a text, and the image is pasted once more. -/
def pastedAgain : List LiveEvent :=
  copied 1 (.image samplePicture) ++ [.sendChunk, .sendChunk, .sendChunk] ++
    copied 2 (.text "hi") ++ pasted (.image samplePicture)

theorem paste_finds_what_was_read_held :
    ((PasteSession.loop inlineHost).reach newPasteSession pastedInTime).PastesWhatWasRead
      inlineHost ∧
    .did (.write (.live pastePress)) ∈
      ((PasteSession.loop inlineHost).reach newPasteSession pastedInTime).log := by
  refine ⟨(PasteSession.paste_finds_what_was_read newPasteSession_started
    (run_reach_of_allowedList (fun s event =>
      !s.passesStale inlineHost event && !s.endsOther inlineHost event) ?_ _ (by decide +kernel)
      (by decide +kernel))).1, by decide +kernel⟩
  intro s event right
  simpa using right

/-- The image is remembered as sent, and the text is pasted. -/
theorem remembered_image_pastes_text : ¬ ∀ (host : LiveHost) (first s : PasteSession),
    first.Started → (PasteSession.loop host).Run anyAction first s → s.PastesWhatWasRead host := by
  intro all
  have pastes := all inlineHost newPasteSession _ newPasteSession_started
    (run_reach pastedAgain (by decide +kernel))
  have found := pastes
    ((PasteSession.loop inlineHost).reach newPasteSession pastedAgain).log.dropLast
    (.did (.write (.live pastePress))) [] (by decide +kernel) (.image samplePicture.contentSha256)
    (by decide +kernel)
  exact absurd found (by decide +kernel)

end EdgeKvm.Clipboard
