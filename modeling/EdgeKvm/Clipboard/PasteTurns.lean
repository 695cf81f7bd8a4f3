import EdgeKvm.Clipboard.PasteSession

/-!
# What the calls exchange

What each branch of the session loop puts out, as far as the observer of a session is concerned:
frames beside the outgoing transfer, a frame of it, its end with the held input behind it, or a
live frame behind what was offered for it.
-/

namespace EdgeKvm.Clipboard

open EdgeKvm.Lib Handler

/-- The task of a request that is no frame of a transfer. -/
def LiveOutput.later : LiveOutput → Bool
  | .requestLater event => event.aside
  | _ => false

namespace LiveClipboardState

/-- The outgoing transfer stays as it is, or a new one is still to be started. -/
def KeepsOutgoing (s t : LiveClipboardState) : Prop :=
  ∀ next, t.outgoing = some next → s.outgoing = some next ∨ next.stage = .start

/-- No live frame is written, and no frame of a transfer. -/
structure Aside (s t : LiveClipboardState) (output : List LiveOutput) : Prop where
  aside : ∀ o ∈ output, o.aside = true
  outgoing : s.KeepsOutgoing t

theorem KeepsOutgoing.trans {s t u : LiveClipboardState} (first : s.KeepsOutgoing t)
    (rest : t.KeepsOutgoing u) : s.KeepsOutgoing u := by
  intro next found
  rcases rest next found with earlier | fresh
  · exact first next earlier
  · exact .inr fresh

theorem steady_aside : Steady Aside where
  trans first rest := by
    refine ⟨fun o found => ?_, first.outgoing.trans rest.outgoing⟩
    rcases List.mem_append.mp found with found | found
    · exact first.aside o found
    · exact rest.aside o found
  changed _ _ outgoing := by
    refine ⟨fun o found => absurd found List.not_mem_nil, fun next found => .inl ?_⟩
    rw [← outgoing, found]
  said aside := by
    refine ⟨fun o found => ?_, fun next found => .inl found⟩
    rw [List.mem_singleton.mp found]
    exact aside
  replaced {s t} _ _ fresh := by
    refine ⟨fun o found => ?_, fun next found => .inr (fresh next found)⟩
    obtain ⟨event, member, rfl⟩ := List.mem_map.mp found
    obtain ⟨active, -, rfl⟩ := Option.map_eq_some_iff.mp (Option.mem_toList.mp member)
    rfl

variable {host : LiveHost} {config : LiveConfig} {system : WindowsClipboard}
  {s : LiveClipboardState} {live : LiveFrame}

/-! ## Writing frames -/

/-- `after_input_sent` puts out at most the task of a request. -/
theorem afterInputSent_later (frame : SessionFrame) :
    (afterInputSent config frame).wp (fun r t output => r = .ok () ∧ t.outgoing = s.outgoing ∧
      ∀ o ∈ output, o.later = true) s := by
  unfold afterInputSent
  rw [Handler.wp_read_bind]
  have silent {t : LiveClipboardState} (same : t.outgoing = s.outgoing) :
      (Except.ok () : Except String Unit) = .ok () ∧ t.outgoing = s.outgoing ∧
        ∀ o ∈ ([] : List LiveOutput), o.later = true :=
    ⟨rfl, same, fun o found => absurd found List.not_mem_nil⟩
  generalize frame.inputEvent = event
  rcases event with _ | event
  · exact silent rfl
  · cases event with
    | key code down =>
      show Handler.wp (if code = 29 ∨ code = 97 then _ else _) _ s
      split
      · exact silent rfl
      · split
        · refine ⟨rfl, rfl, fun o found => ?_⟩
          rw [List.mem_singleton.mp found]
          cases s.peer.images && config.imagesEnabled <;> rfl
        · exact silent rfl
    | allKeysUp => exact silent rfl
    | _ => exact silent rfl

/-- The frames are put out, and tasks of requests. -/
theorem writeFrames_outputs (frames : List SessionFrame) : ∀ s : LiveClipboardState,
    (writeFrames config frames).wp (fun r t output => r = .ok () ∧ t.outgoing = s.outgoing ∧
      ∀ o ∈ output, (∃ frame ∈ frames, o = .write frame) ∨ o.later = true) s := by
  induction frames with
  | nil =>
    intro s
    exact ⟨rfl, rfl, fun o found => absurd found List.not_mem_nil⟩
  | cons frame frames ih =>
    intro s
    unfold writeFrames
    rw [Handler.wp_bind, wp_emit]
    refine Handler.wp_seq (afterInputSent_later frame) ?_ ?_
    · rintro e t output ⟨failed, -⟩
      cases failed
    · rintro - t output ⟨-, same, later⟩
      refine Handler.wp_mono ?_ (ih t)
      rintro r u more ⟨done, kept, written⟩
      refine ⟨done, kept.trans same, fun o found => ?_⟩
      rcases List.mem_append.mp found with found | found
      · exact .inl ⟨frame, List.mem_cons_self, List.mem_singleton.mp found⟩
      · rcases List.mem_append.mp found with found | found
        · exact .inr (later o found)
        · rcases written o found with ⟨other, member, same⟩ | later
          · exact .inl ⟨other, List.mem_cons_of_mem _ member, same⟩
          · exact .inr later

/-- Clipboard frames are put out one behind the other. -/
theorem writeFrames_clipboard (events : List ClipboardEvent) (frames : List SessionFrame)
    {Q : Except String Unit → LiveClipboardState → List LiveOutput → Prop}
    (rest : (writeFrames config frames).wp Q s) :
    (writeFrames config (events.map .clipboard ++ frames)).wp (fun r t output =>
      ∃ more, output = frameOutputs events ++ more ∧ Q r t more) s := by
  induction events with
  | nil => exact ⟨_, rfl, rest⟩
  | cons event events ih =>
    obtain ⟨more, same, holds⟩ := ih
    exact ⟨more, congrArg (LiveOutput.write (.clipboard event) :: ·) same, holds⟩

/-- A live frame is put out in front of the tasks of requests. -/
theorem writeFrames_live (live : LiveFrame) :
    (writeFrames config [.live live]).wp (fun r t output => r = .ok () ∧
      t.outgoing = s.outgoing ∧ ∃ requests, output = .write (.live live) :: requests ∧
        ∀ o ∈ requests, o.later = true) s := by
  unfold writeFrames
  rw [Handler.wp_bind, wp_emit]
  refine Handler.wp_seq (afterInputSent_later (.live live)) ?_ ?_
  · rintro e t output ⟨failed, -⟩
    cases failed
  · rintro - t output ⟨-, same, later⟩
    refine ⟨rfl, same, output, ?_, later⟩
    show [LiveOutput.write (.live live)] ++ (output ++ []) = _
    rw [List.append_nil]
    rfl

/-! ## Live input -/

/-- What `prepare_input` returns: frames beside the transfer, and the live frame behind them
    unless it is held. -/
inductive Readied (s t : LiveClipboardState) (live : LiveFrame) (frames : List SessionFrame) :
    Prop
  | held (events : List ClipboardEvent) (kept : Aside s t (frameOutputs events))
      (written : frames = events.map .clipboard)
  | passed (events : List ClipboardEvent) (kept : Aside s t (frameOutputs events))
      (written : frames = events.map .clipboard ++ [.live live])

/-- A call that returns such frames. -/
def Readies (h : LiveM (List SessionFrame)) (s : LiveClipboardState) (live : LiveFrame) : Prop :=
  h.wp (fun r t output => output = [] ∧ ∃ frames, r = .ok frames ∧ Readied s t live frames) s

theorem readies_at_once : Readies (pure [.live live]) s live :=
  ⟨rfl, _, rfl, .passed [] (steady_aside.changed rfl rfl rfl) rfl⟩

/-- A barrier leaves the outgoing transfer alone. -/
theorem Aside.barrier {t : LiveClipboardState} {output : List LiveOutput} (kept : Aside s t output)
    (held : List LiveFrame) (deadline : Option Nat) :
    Aside s { t with heldInput := held, pasteBarrierDeadline := deadline } output :=
  ⟨kept.aside, kept.outgoing⟩

theorem preparePasteOther_readies {current : Option ClipboardItem} :
    Readies (preparePasteOther host config system live current) s live := by
  refine Handler.wp_seq (offerItem_offersWithin steady_aside) ?_ ?_
  · rintro e t output ⟨-, events, failed, -⟩
    cases failed
  · rintro events t output ⟨rfl, same, returned, kept⟩
    cases returned
    rw [Handler.wp_read_bind]
    split
    · exact ⟨rfl, _, rfl, .held events (kept.barrier _ _) rfl⟩
    · exact ⟨rfl, _, rfl, .passed events kept rfl⟩

theorem preparePasteImage_readies {image : CanonicalImage} :
    Readies (preparePasteImage host config system live image) s live := by
  unfold Readies preparePasteImage
  rw [Handler.wp_read_bind]
  dsimp only
  split
  · exact readies_at_once
  · split
    · exact ⟨rfl, [], rfl, .held [] ((steady_aside.changed rfl rfl rfl : Aside s s []).barrier _ _) rfl⟩
    · refine Handler.wp_seq (offerItem_offersWithin steady_aside) ?_ ?_
      · rintro e t output ⟨-, events, failed, -⟩
        cases failed
      · rintro events t output ⟨rfl, same, returned, kept⟩
        cases returned
        exact ⟨rfl, _, rfl, .held events (kept.barrier _ _) rfl⟩

theorem prepareInput_readies : Readies (prepareInput host config system live) s live := by
  unfold Readies prepareInput
  rw [Handler.wp_read_bind]
  split
  · split
    · exact readies_at_once
    · exact ⟨rfl, [], rfl, .held [] ((steady_aside.changed rfl rfl rfl : Aside s s []).barrier _ _) rfl⟩
  · split
    · exact readies_at_once
    · split
      · unfold preparePaste
        rw [Handler.wp_read_bind]
        split
        · exact readies_at_once
        · split
          · exact preparePasteImage_readies
          · exact preparePasteOther_readies
        · exact preparePasteOther_readies
      · exact readies_at_once

/-! ## A paste -/

/-- The text is offered and exchanged, or its transfer begins. -/
theorem pushTextOffer_text {sequence : UInt64} {text : String}
    {contentId : Option ClipboardContentId}
    (can : s.peer.textChunks = true ∨ host.fitsSecureFrame (.textOffer sequence text) = true) :
    (pushTextOffer host sequence text contentId).wp (fun r t output => output = [] ∧
      ∃ events, r = .ok events ∧ (t.outgoing.any (·.isText) = true ∨
        ∀ o : Observed, (o.along host.codecs ((frameOutputs events).map .did)).exchanged =
          some ((ClipboardItem.text text).id host.codecs))) s := by
  unfold pushTextOffer
  rw [Handler.wp_read_bind]
  by_cases fits : host.fitsSecureFrame (.textOffer sequence text) = true
  · simp only [fits, wp_bind, wp_update, wp_pure, if_true]
    refine ⟨rfl, _, rfl, .inr fun o => ?_⟩
    rw [frameOutputs_append, List.map_append, Observed.along_append]
    rfl
  · have chunks : s.peer.textChunks = true := can.resolve_right fits
    simp only [fits, chunks, wp_bind, wp_update, wp_pure, if_true, if_false, Bool.false_eq_true]
    exact ⟨rfl, _, rfl, .inl rfl⟩

theorem offerItem_text {text : String} (can : s.canOffer host config (.text text) = true) :
    (offerItem host config (some (.text text)) true).wp (fun r t output => output = [] ∧
      ∃ events, r = .ok events ∧ (t.outgoing.any (·.isText) = true ∨
        ∀ o : Observed, (o.along host.codecs ((frameOutputs events).map .did)).exchanged =
          some ((ClipboardItem.text text).id host.codecs))) s := by
  unfold offerItem
  rw [Handler.wp_read_bind, Handler.wp_bind, wp_update]
  exact pushTextOffer_text (Bool.or_eq_true_iff.mp can)

/-- What a paste over an item returns that is not let through: the V press is held, or it stands
    behind the frames that exchange the item. -/
theorem prepareInput_offers {item : ClipboardItem} (enabled : config.enabled = true)
    (free : s.pasteBarrierDeadline = none) (paste : isPasteKey live = true)
    (found : system.current = .ok (some item)) (can : s.canOffer host config item = true)
    (offers : s.letsThrough (item.id host.codecs) = false) :
    (prepareInput host config system live).wp (fun r _ _ => ∃ events,
      r = .ok (events.map .clipboard) ∨ r = .ok (events.map .clipboard ++ [.live live]) ∧
        ∀ o : Observed, (o.along host.codecs ((frameOutputs events).map .did)).exchanged =
          some (item.id host.codecs)) s := by
  have down : s.ctrlDown = true := by
    cases item with
    | text text => simpa [letsThrough, ClipboardItem.id] using offers
    | image image =>
      simp only [letsThrough, ClipboardItem.id, Bool.or_eq_false_iff, Bool.not_eq_false'] at offers
      exact offers.1
  unfold prepareInput
  rw [Handler.wp_read_bind, free, if_neg (by decide), if_neg (by simp [enabled]),
    if_pos (by simp [paste, down])]
  unfold preparePaste
  rw [Handler.wp_read_bind, found]
  cases item with
  | text text =>
    refine Handler.wp_seq (offerItem_text can) ?_ ?_
    · rintro e t output ⟨-, events, failed, -⟩
      cases failed
    · rintro events t output ⟨rfl, same, returned, outcome⟩
      cases returned
      rw [Handler.wp_read_bind]
      split
      · exact ⟨events, .inl rfl⟩
      · rename_i passes
        exact ⟨events, .inr ⟨rfl, outcome.resolve_left passes⟩⟩
  | image image =>
    have other : s.lastSentImageId ≠ some (.image image.contentSha256) := by
      simp only [letsThrough, ClipboardItem.id, Bool.or_eq_false_iff, decide_eq_false_iff_not]
        at offers
      exact offers.2
    show Handler.wp (if s.peer.images && config.imagesEnabled then _ else _) _ s
    rw [if_pos (show (s.peer.images && config.imagesEnabled) = true from can)]
    unfold preparePasteImage
    rw [Handler.wp_read_bind]
    dsimp only
    rw [if_neg other]
    split
    · exact ⟨[], .inl rfl⟩
    · refine Handler.wp_seq (offerItem_offersWithin steady_aside) ?_ ?_
      · rintro e t output ⟨-, events, failed, -⟩
        cases failed
      · rintro events t output ⟨rfl, same, returned, kept⟩
        cases returned
        exact ⟨events, .inl rfl⟩

/-- What a paste returns that is let through. -/
theorem prepareInput_passes {item : ClipboardItem} (free : s.pasteBarrierDeadline = none)
    (found : system.current = .ok (some item)) (can : s.canOffer host config item = true)
    (passes : s.letsThrough (item.id host.codecs) = true) :
    (prepareInput host config system live).wp (fun r _ _ => r = .ok [.live live]) s := by
  unfold prepareInput
  rw [Handler.wp_read_bind, free, if_neg (by decide)]
  split
  · rfl
  · cases down : s.ctrlDown with
    | false =>
      rw [if_neg (by simp)]
      rfl
    | true =>
      split
      · unfold preparePaste
        rw [Handler.wp_read_bind, found]
        cases item with
        | text text => simp [letsThrough, ClipboardItem.id, down] at passes
        | image image =>
          have remembered : s.lastSentImageId = some (.image image.contentSha256) := by
            simpa [letsThrough, ClipboardItem.id, down] using passes
          show Handler.wp (if s.peer.images && config.imagesEnabled then _ else _) _ s
          rw [if_pos (show (s.peer.images && config.imagesEnabled) = true from can)]
          unfold preparePasteImage
          rw [Handler.wp_read_bind]
          dsimp only
          rw [if_pos remembered]
          rfl
      · rfl

/-! ## Releasing held input -/

/-- The held frames are put out, and tasks of requests. -/
theorem releaseHeldInput_outputs :
    (releaseHeldInput config).wp (fun r t output => r = .ok () ∧ t.outgoing = s.outgoing ∧
      writes output = s.heldInput.map .live ∧
      ∀ o ∈ output, (∃ live ∈ s.heldInput, o = .write (.live live)) ∨ o.later = true) s := by
  unfold releaseHeldInput
  rw [Handler.wp_read_bind, Handler.wp_bind, wp_update]
  refine Handler.wp_mono ?_ (Handler.wp_and
    (writeFrames_outputs (s.heldInput.map .live) _) (writeFrames_spec _ _))
  rintro r t output ⟨⟨done, same, outputs⟩, -, written, -⟩
  refine ⟨done, same, written, fun o found => ?_⟩
  rcases outputs o found with ⟨frame, member, rfl⟩ | later
  · obtain ⟨live, held, rfl⟩ := List.mem_map.mp member
    exact .inl ⟨live, held, rfl⟩
  · exact .inr later

end LiveClipboardState

/-! ## The frames of a transfer -/

namespace OutgoingClipboardTransfer

variable {codecs : Codecs} {transfer next : OutgoingClipboardTransfer} {event : ClipboardEvent}
  {o : Observed}

/-- A transfer under way is the one that was begun last. -/
def UnderWay (transfer : OutgoingClipboardTransfer) (o : Observed) : Prop :=
  transfer.stage ≠ .start → o.begun = some (transfer.transferId, transfer.payload.contentId)

theorem sent_startEvent :
    (o.sent codecs transfer.startEvent).begun =
      some (transfer.transferId, transfer.payload.contentId) := by
  unfold startEvent
  cases transfer.payload <;> rfl

theorem sent_chunkEvent {bytes : List UInt8} :
    (o.sent codecs (transfer.chunkEvent bytes)).begun = o.begun := by
  unfold chunkEvent
  cases transfer.payload <;> rfl

theorem sent_endEvent
    (begun : o.begun = some (transfer.transferId, transfer.payload.contentId)) :
    (o.sent codecs transfer.endEvent).exchanged = some transfer.payload.contentId := by
  unfold endEvent
  cases payload : transfer.payload with
  | image picture | text bytes contentSha256 =>
    rw [payload] at begun
    simp only [Observed.sent, Observed.ended, begun, if_true]

theorem completes_endEvent : LiveClipboardState.completes transfer.endEvent = true := by
  unfold endEvent
  cases transfer.payload <;> rfl

/-- The start and the chunks keep a transfer under way. -/
theorem UnderWay.onward (underWay : transfer.UnderWay o)
    (produced : transfer.nextEvent = (some event, next))
    (goesOn : LiveClipboardState.completes event = false) :
    next.UnderWay (o.sent codecs event) := by
  intro _
  unfold nextEvent at produced
  cases stage : transfer.stage with
  | start =>
    rw [stage] at produced
    cases produced
    exact sent_startEvent
  | chunks =>
    rw [stage] at produced
    dsimp only at produced
    split at produced
    · cases produced
      rw [completes_endEvent] at goesOn
      cases goesOn
    · cases produced
      rw [sent_chunkEvent]
      exact underWay (by rw [stage]; decide)
  | finish =>
    rw [stage] at produced
    cases produced
    rw [completes_endEvent] at goesOn
    cases goesOn
  | done =>
    rw [stage] at produced
    cases produced

/-- The end frame exchanges what the transfer carries. -/
theorem UnderWay.ended (underWay : transfer.UnderWay o)
    (produced : transfer.nextEvent.1 = some event)
    (complete : LiveClipboardState.completes event = true) :
    (o.sent codecs event).exchanged = some transfer.payload.contentId := by
  unfold nextEvent at produced
  cases stage : transfer.stage with
  | start =>
    rw [stage] at produced
    obtain rfl := Option.some.inj produced
    unfold startEvent at complete
    cases payload : transfer.payload <;> rw [payload] at complete <;> cases complete
  | chunks =>
    rw [stage] at produced
    dsimp only at produced
    split at produced
    · obtain rfl := Option.some.inj produced
      exact sent_endEvent (underWay (by rw [stage]; decide))
    · obtain rfl := Option.some.inj produced
      unfold chunkEvent at complete
      cases payload : transfer.payload <;> rw [payload] at complete <;> cases complete
  | finish =>
    rw [stage] at produced
    obtain rfl := Option.some.inj produced
    exact sent_endEvent (underWay (by rw [stage]; decide))
  | done =>
    rw [stage] at produced
    cases produced

end OutgoingClipboardTransfer

end EdgeKvm.Clipboard
