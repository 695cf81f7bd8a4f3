import EdgeKvm.Clipboard.LiveState

/-!
# Calls that offer and take in

Most calls of `LiveClipboardState` only offer content, take it in and answer frames. A relation
between the states around such a call and its outputs is proved along all of them once, from what
it says of a changed variable, an output and a replaced transfer (`Steady`).
-/

namespace EdgeKvm.Clipboard

open EdgeKvm.Lib Handler

/-- A frame that is no start, chunk or end of a transfer. -/
def ClipboardEvent.aside : ClipboardEvent → Bool
  | .textOffer .. | .textRequest | .contentRequest | .imageCancel .. => true
  | _ => false

/-- An output that does not go on with a transfer. -/
def LiveOutput.aside : LiveOutput → Bool
  | .write (.clipboard event) => event.aside
  | .writeText _ | .writeImage _ => true
  | _ => false

/-- The frames as they are put out. -/
def frameOutputs (events : List ClipboardEvent) : List LiveOutput :=
  events.map fun event => .write (.clipboard event)

@[simp] theorem frameOutputs_nil : frameOutputs [] = [] := rfl

@[simp] theorem frameOutputs_cons (event : ClipboardEvent) (events : List ClipboardEvent) :
    frameOutputs (event :: events) = .write (.clipboard event) :: frameOutputs events := rfl

@[simp] theorem frameOutputs_append (events more : List ClipboardEvent) :
    frameOutputs (events ++ more) = frameOutputs events ++ frameOutputs more := List.map_append

namespace LiveClipboardState

/-- A relation between the states around a call and its outputs which the calls keep that offer
    content, take it in and answer frames. -/
structure Steady (R : LiveClipboardState → LiveClipboardState → List LiveOutput → Prop) :
    Prop where
  trans : ∀ {s t u output more}, R s t output → R t u more → R s u (output ++ more)
  changed : ∀ {s t : LiveClipboardState}, t.heldInput = s.heldInput →
    t.pasteBarrierDeadline = s.pasteBarrierDeadline → t.outgoing = s.outgoing → R s t []
  said : ∀ {s o}, o.aside = true → R s s [o]
  replaced : ∀ {s t : LiveClipboardState}, t.heldInput = s.heldInput →
    t.pasteBarrierDeadline = s.pasteBarrierDeadline →
    (∀ next, t.outgoing = some next → next.stage = .start) →
    R s t (frameOutputs s.replaceOutgoing)

/-- A call that keeps `R` once the frames it returns are written. -/
def OffersWithin (R : LiveClipboardState → LiveClipboardState → List LiveOutput → Prop)
    (h : LiveM (List ClipboardEvent)) (s : LiveClipboardState) : Prop :=
  h.wp (fun r t output => output = [] ∧ ∃ events, r = .ok events ∧ R s t (frameOutputs events)) s

variable {R : LiveClipboardState → LiveClipboardState → List LiveOutput → Prop}
  {host : LiveHost} {config : LiveConfig} {system : WindowsClipboard} {s : LiveClipboardState}

section Rules

theorem within_pure (steady : Steady R) {α : Type} (a : α) : (pure a : LiveM α).Within R s :=
  steady.changed rfl rfl rfl

theorem within_system (steady : Steady R) {α : Type} (x : Except String α) :
    (system? x).Within R s := by
  unfold Handler.Within system?
  rw [wp_ofExcept]
  exact ⟨fun _ _ => steady.changed rfl rfl rfl, fun _ _ => steady.changed rfl rfl rfl⟩

theorem within_update (steady : Steady R) {f : LiveClipboardState → LiveClipboardState}
    (held : (f s).heldInput = s.heldInput)
    (deadline : (f s).pasteBarrierDeadline = s.pasteBarrierDeadline)
    (outgoing : (f s).outgoing = s.outgoing) : (update f : LiveM Unit).Within R s :=
  steady.changed held deadline outgoing

theorem within_read {α : Type} {f : LiveClipboardState → LiveM α} (rest : (f s).Within R s) :
    (read >>= f).Within R s := Handler.wp_read_bind.mpr rest

theorem within_emit (steady : Steady R) {o : LiveOutput} (aside : o.aside = true) :
    (emit o : LiveM Unit).Within R s := steady.said aside

theorem within_seq (steady : Steady R) {α β : Type} {h : LiveM α} {f : α → LiveM β}
    (first : h.Within R s) (rest : ∀ a t, (f a).Within R t) : (h >>= f).Within R s :=
  first.bind steady.trans rest

end Rules

theorem sendAll_spec (events : List ClipboardEvent) : ∀ s : LiveClipboardState,
    (sendAll events).wp (fun r t output => r = .ok () ∧ t = s ∧ output = frameOutputs events) s := by
  induction events with
  | nil =>
    intro s
    exact ⟨rfl, rfl, rfl⟩
  | cons event events ih =>
    intro s
    obtain ⟨result, state, written⟩ := ih s
    unfold sendAll
    rw [Handler.wp_bind]
    exact ⟨result, state, congrArg (LiveOutput.write (.clipboard event) :: ·) written⟩

/-- Writing what was offered, and then something that keeps `R`. -/
theorem OffersWithin.seq (steady : Steady R) {α : Type} {h : LiveM (List ClipboardEvent)}
    {f : LiveM α} (offers : OffersWithin R h s) (rest : ∀ t, f.Within R t) :
    (do let events ← h; sendAll events; f).Within R s := by
  refine Handler.wp_seq offers ?_ ?_
  · rintro e t output ⟨-, events, failed, -⟩
    cases failed
  · rintro events t output ⟨rfl, same, returned, related⟩
    cases returned
    refine Handler.wp_seq (sendAll_spec events t) ?_ ?_
    · rintro e u more ⟨failed, -⟩
      cases failed
    · rintro - u more ⟨-, rfl, rfl⟩
      refine Handler.wp_mono ?_ (rest u)
      intro r v last further
      show R s v (frameOutputs events ++ last)
      exact steady.trans related further

/-- Writing what was offered. -/
theorem OffersWithin.sendAll {h : LiveM (List ClipboardEvent)} (offers : OffersWithin R h s) :
    (do let events ← h; LiveClipboardState.sendAll events).Within R s := by
  refine Handler.wp_seq offers ?_ ?_
  · rintro e t output ⟨-, events, failed, -⟩
    cases failed
  · rintro events t output ⟨rfl, same, returned, related⟩
    cases returned
    refine Handler.wp_mono ?_ (sendAll_spec events t)
    rintro r u more ⟨-, rfl, rfl⟩
    exact related

/-! ## Offers -/

theorem pushTextOffer_offers (steady : Steady R) {sequence : UInt64} {text : String}
    {contentId : Option ClipboardContentId} :
    OffersWithin R (pushTextOffer host sequence text contentId) s := by
  unfold OffersWithin pushTextOffer
  rw [Handler.wp_read_bind]
  have cleared : R s { s with outgoing := none, outgoingImageId := none }
      (frameOutputs s.replaceOutgoing) := by
    refine steady.replaced rfl rfl fun next found => ?_
    cases found
  by_cases fits : host.fitsSecureFrame (.textOffer sequence text)
  · simp only [fits, wp_bind, wp_update, wp_pure, if_true]
    refine ⟨rfl, _, rfl, ?_⟩
    rw [frameOutputs_append]
    exact steady.trans cleared (steady.said rfl)
  · cases s.peer.textChunks with
    | false =>
      simp only [fits, wp_bind, wp_update, wp_pure, if_false, Bool.false_eq_true]
      exact ⟨rfl, _, rfl, cleared⟩
    | true =>
      simp only [fits, wp_bind, wp_update, wp_pure, if_true, if_false, Bool.false_eq_true]
      refine ⟨rfl, _, rfl, steady.replaced rfl rfl fun next found => ?_⟩
      rw [← Option.some.inj found]
      rfl

theorem offerItem_offersWithin (steady : Steady R) {current : Option ClipboardItem}
    {force : Bool} : OffersWithin R (offerItem host config current force) s := by
  have untouched (tracker : ClipboardChangeTracker) : R s { s with tracker } [] :=
    steady.changed rfl rfl rfl
  unfold OffersWithin offerItem
  rw [Handler.wp_read_bind]
  dsimp only
  generalize (if force = true then s.tracker.offerCurrent _ else s.tracker.offerIfChanged _) = offer
  obtain ⟨sequence, tracker⟩ := offer
  rw [Handler.wp_bind, wp_update]
  cases sequence with
  | none => exact ⟨rfl, [], rfl, untouched tracker⟩
  | some sequence =>
    cases current with
    | none => exact ⟨rfl, [], rfl, untouched tracker⟩
    | some item =>
      cases item with
      | text text =>
        refine Handler.wp_mono ?_ (pushTextOffer_offers steady)
        rintro r t output ⟨rfl, events, rfl, related⟩
        exact ⟨rfl, events, rfl, steady.trans (untouched tracker) related⟩
      | image image =>
        dsimp only
        split
        · refine ⟨rfl, _, rfl, steady.replaced rfl rfl fun next found => ?_⟩
          rw [← Option.some.inj found]
          rfl
        · exact ⟨rfl, [], rfl, untouched tracker⟩

theorem textRequest_within (steady : Steady R) : (textRequest host system).Within R s := by
  refine within_seq steady (within_system steady _) fun text s => ?_
  cases text with
  | none => exact within_pure steady ()
  | some text =>
    refine within_read (within_seq steady (within_update steady rfl rfl rfl) fun _ s => ?_)
    dsimp only [ClipboardChangeTracker.offerCurrent]
    exact (pushTextOffer_offers steady).sendAll

theorem localClipboardOffer_within (steady : Steady R) {force : Bool} :
    (do let events ← localClipboardOffer host config system force; sendAll events).Within R s := by
  unfold localClipboardOffer
  cases system.current with
  | error error => exact steady.changed rfl rfl rfl
  | ok current => exact (offerItem_offersWithin steady).sendAll

theorem completeLocalRead_within (steady : Steady R) {paused : Bool}
    {result : Except String (Option ClipboardItem)} :
    (completeLocalRead host config paused result).Within R s := by
  refine within_read ?_
  split
  · exact within_pure steady ()
  · rename_i finished _
    refine within_seq steady (within_update steady rfl rfl rfl) fun _ s => ?_
    split
    · refine within_seq steady (within_system steady _) fun current s => ?_
      refine Handler.wp_seq (offerItem_offersWithin steady) ?_ ?_
      · rintro e t output ⟨-, events, failed, -⟩
        cases failed
      · rintro events t output ⟨rfl, same, returned, related⟩
        cases returned
        rw [Handler.wp_bind, wp_update]
        refine Handler.wp_mono ?_ (sendAll_spec events _)
        rintro r u more ⟨-, rfl, rfl⟩
        have numbered : R t { t with lastClipboardSequence := finished.sequence } [] :=
          steady.changed rfl rfl rfl
        have further := steady.trans related numbered
        rw [List.append_nil] at further
        exact further
    · exact within_pure steady ()

theorem pollLocalChange_within (steady : Steady R) :
    (pollLocalChange config system).Within R s := by
  refine within_read ?_
  split
  · exact within_update steady rfl rfl rfl
  · exact within_pure steady ()

/-! ## Events of the peer -/

theorem preferNewer_within (steady : Steady R) {remoteId : ClipboardContentId} :
    (preferNewerLocalClipboard host config system remoteId).Within R s := by
  refine within_seq steady (within_system steady _) fun current s => within_read ?_
  split
  · exact within_seq steady (within_update steady rfl rfl rfl) fun _ _ => within_pure steady true
  · split
    · exact (offerItem_offersWithin steady).seq steady fun _ => within_pure steady true
    · exact within_pure steady false

theorem applyRemote_within (steady : Steady R) {remote : ClipboardItem} {write : LiveOutput}
    (aside : write.aside = true) :
    (applyRemote host config system remote write).Within R s := by
  refine within_seq steady (preferNewer_within steady) fun newer s => ?_
  cases newer with
  | true => exact within_pure steady ()
  | false =>
    have checked (s : LiveClipboardState) :
        (check system.writeFailure : LiveM Unit).Within R s := by
      unfold Handler.Within
      rw [wp_check]
      exact ⟨fun _ => steady.changed rfl rfl rfl, fun _ _ => steady.changed rfl rfl rfl⟩
    exact within_seq steady (checked s) fun _ s =>
      within_seq steady (within_emit steady aside) fun _ s => within_update steady rfl rfl rfl

theorem answerCancel_within (steady : Steady R) {event : ClipboardEvent}
    {reason : ClipboardCancelReason} : (answerCancel event reason).Within R s := by
  unfold answerCancel
  split
  · exact within_pure steady ()
  · exact within_emit steady rfl
  · exact within_pure steady ()

theorem takeIn_within (steady : Steady R) {event : ClipboardEvent} :
    (takeIn host config system event).Within R s := by
  refine within_read (within_seq steady (within_update steady rfl rfl rfl) fun _ s => ?_)
  split
  · exact applyRemote_within steady rfl
  · exact applyRemote_within steady rfl
  · exact within_pure steady ()
  · exact within_seq steady (within_update steady rfl rfl rfl) fun _ _ =>
      answerCancel_within steady

theorem expireIncoming_within (steady : Steady R) {now : Nat} :
    (expireIncoming now).Within R s := by
  refine within_read (within_seq steady (within_update steady rfl rfl rfl) fun _ s => ?_)
  split
  · exact within_emit steady rfl
  · exact within_pure steady ()

/-- Every event of the peer except the cancel of the outgoing transfer. -/
theorem handleRemoteEvent_within (steady : Steady R) {event : ClipboardEvent}
    (goesOn : config.enabled = false ∨ s.cancelsOutgoing event = false) :
    (handleRemoteEvent host config system event).Within R s := by
  have transfer {event : ClipboardEvent} (goesOn : s.cancelsOutgoing event = false) :
      (handleTransfer host config system event).Within R s := by
    refine within_read ?_
    rw [if_neg (by simp [goesOn])]
    split
    · exact takeIn_within steady
    · exact answerCancel_within steady
  unfold handleRemoteEvent
  by_cases enabled : config.enabled = true
  · rw [if_pos enabled]
    have goesOn := goesOn.resolve_left (by simp [enabled])
    cases event with
    | textOffer => exact applyRemote_within steady rfl
    | textRequest => exact textRequest_within steady
    | contentRequest => exact localClipboardOffer_within steady
    | imageStart | imageChunk | imageEnd | imageCancel | textStart | textChunk | textEnd =>
      exact transfer goesOn
  · rw [if_neg enabled]
    exact within_pure steady ()

end LiveClipboardState

end EdgeKvm.Clipboard
