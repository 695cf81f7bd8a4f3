import EdgeKvm.Clipboard.Turns

/-!
# What a turn offers

Whether a call on `ReceiverClipboardState` offers what it read from the clipboard, decided before
the call: as a frame, or as a transfer that begins.
-/

namespace EdgeKvm.Clipboard

open EdgeKvm.Lib Handler

/-- A frame that carries content of the clipboard, or part of it. -/
def ClipboardEvent.carries : ClipboardEvent → Bool
  | .textOffer .. | .imageStart .. | .imageChunk .. | .imageEnd _ | .textStart .. | .textChunk ..
  | .textEnd _ => true
  | .textRequest | .contentRequest | .imageCancel .. => false

namespace ReceiverClipboardState

/-- What a call does with content: it offers none, it sends a text, or a transfer of its own
    begins. -/
inductive Outcome (s t : ReceiverClipboardState) (out : List ClipboardOutput) : Bool → Prop
  | kept (silent : ∀ event, .send event ∈ out → event.carries = false)
      (same : t.nextTransferId = s.nextTransferId)
      (kind : t.withholdsPhoneContent = s.withholdsPhoneContent) : Outcome s t out false
  | said (event : ClipboardEvent) (found : .send event ∈ out) (carries : event.carries = true)
      (same : t.nextTransferId = s.nextTransferId)
      (kind : t.withholdsPhoneContent = s.withholdsPhoneContent) : Outcome s t out true
  | began (silent : ∀ event, .send event ∈ out → event.carries = false)
      (following : t.nextTransferId = s.followingId)
      (kind : t.withholdsPhoneContent = s.withholdsPhoneContent) : Outcome s t out true

variable (host : ClipboardHost) (system : ClipboardSystem) (s : ReceiverClipboardState)

/-- The peer takes the item, which is offered under the sequence number. -/
def sendable (sequence : UInt64) : ClipboardItem → Bool
  | .text text => host.fitsSecureFrame (.textOffer sequence text) || s.peer.textChunks
  | .image _ => s.peer.images && host.config.imagesEnabled

/-- The sequence number of the next offer. -/
def followingSequence : UInt64 := ClipboardChangeTracker.saturatingSucc s.tracker.sequence

/-- The item is withheld by `offer_item`. -/
def withholds (item : ClipboardItem) : Bool :=
  s.withholdsPhoneContent && system.phoneContent = some (item.id host.codecs)

/-- The item that `offer_item` offers unless it is withheld. -/
def toOffer (current : Option ClipboardItem) (force : Bool) : Option ClipboardItem :=
  current.filter fun item =>
    (force || !s.tracker.isObserved (some (item.id host.codecs))) &&
      s.sendable host s.followingSequence item

/-- The item that is offered in place of a remote one, unless it is withheld. -/
def toPrefer (remote : ClipboardItem) : Option ClipboardItem :=
  match system.current with
  | .ok current =>
    if current.map (·.id host.codecs) = some (remote.id host.codecs) then none
    else s.toOffer host current false
  | .error _ => none

/-- The item that is offered in place of the one that a transfer frame completes. -/
def toTakeIn (event : ClipboardEvent) : Option (ClipboardItem × Bool) :=
  if s.supports host event then
    match (s.incoming.handle host.codecs event host.transferLimits system.now).1 with
    | .ok (some remote) => (s.toPrefer host system remote).map (·, true)
    | _ => none
  else none

/-- The item that `handle_event` offers unless it is withheld, and whether it may be. -/
def toAnswer : ClipboardEvent → Option (ClipboardItem × Bool)
  | .textOffer _ text => (s.toPrefer host system (.text text)).map (·, true)
  | .textRequest =>
    match system.currentText with
    | .ok (some text) =>
      if s.sendable host s.followingSequence (.text text) then some (.text text, false) else none
    | _ => none
  | .contentRequest =>
    match system.current with
    | .ok current => (s.toOffer host current true).map (·, true)
    | .error _ => none
  | event =>
    if event.isCancel && s.outgoing.any fun active => some active.transferId = event.transferId then
      none
    else s.toTakeIn host system event

/-- Something is offered, and not withheld. -/
def offersAny (offer : Option (ClipboardItem × Bool)) : Bool :=
  offer.any fun entry => !(entry.2 && s.withholds host system entry.1)

section Outcomes

variable {host : ClipboardHost} {system : ClipboardSystem} {s t : ReceiverClipboardState}
  {out out' : List ClipboardOutput}

theorem Outcome.congr {s' : ReceiverClipboardState} {offers : Bool}
    (outcome : Outcome s' t out offers) (next : s'.nextTransferId = s.nextTransferId)
    (kind : s'.withholdsPhoneContent = s.withholdsPhoneContent) : Outcome s t out offers := by
  cases outcome with
  | kept silent same kept => exact .kept silent (same.trans next) (kept.trans kind)
  | said event found carries same kept =>
    exact .said event found carries (same.trans next) (kept.trans kind)
  | began silent following kept =>
    refine .began silent ?_ (kept.trans kind)
    rw [following]
    simp only [followingId, next]

/-- Outputs that send nothing change nothing. -/
theorem Outcome.append {offers : Bool} (outcome : Outcome s t out offers)
    (silent : ∀ event, .send event ∉ out') : Outcome s t (out ++ out') offers := by
  have still (quiet : ∀ event, .send event ∈ out → event.carries = false) :
      ∀ event, .send event ∈ out ++ out' → event.carries = false := by
    intro event found
    rcases List.mem_append.mp found with found | found
    · exact quiet event found
    · exact absurd found (silent event)
  cases outcome with
  | kept quiet same kind => exact .kept (still quiet) same kind
  | said event found carries same kind =>
    exact .said event (List.mem_append_left _ found) carries same kind
  | began quiet following kind => exact .began (still quiet) following kind

/-- A call that sends nothing and begins no transfer. -/
theorem outcome_of_eq (silent : ∀ event, .send event ∉ out)
    (next : t.nextTransferId = s.nextTransferId)
    (kind : t.withholdsPhoneContent = s.withholdsPhoneContent) : Outcome s t out false :=
  .kept (fun event found => absurd found (silent event)) next kind

theorem silent_cancels (event : ClipboardEvent)
    (found : .send event ∈ s.cancels.map ClipboardOutput.send) : event.carries = false := by
  obtain ⟨cancel, member, same⟩ := List.mem_map.mp found
  cases same
  obtain ⟨active, -, rfl⟩ := Option.map_eq_some_iff.mp (Option.mem_toList.mp member)
  rfl

theorem sendText_outcome {sequence : UInt64} {text : String} :
    (sendText host sequence text).wp (fun _ t out => Outcome s t out
      (host.fitsSecureFrame (.textOffer sequence text) || s.peer.textChunks)) s := by
  unfold sendText
  rw [wp_bind, wp_cancelOutgoing]
  by_cases fits : host.fitsSecureFrame (.textOffer sequence text) = true
  · simp only [fits, if_true, Bool.true_or, wp_bind, wp_emit, wp_pure]
    exact .said (.textOffer sequence text) (by simp) rfl rfl rfl
  · simp only [fits, if_false, Bool.false_eq_true, wp_bind, wp_read, Bool.false_or]
    cases chunks : s.peer.textChunks with
    | false =>
      simp only [if_false, Bool.false_eq_true, wp_pure, List.append_nil]
      exact .kept silent_cancels rfl rfl
    | true =>
      simp only [if_true, wp_bind, wp_beginTransfer, wp_pure, List.append_nil]
      exact .began silent_cancels rfl rfl

theorem sendItem_outcome {sequence : UInt64} {item : ClipboardItem} :
    (sendItem host sequence item).wp
      (fun _ t out => Outcome s t out (s.sendable host sequence item)) s := by
  cases item with
  | text text => exact sendText_outcome
  | image image =>
    unfold sendItem sendable
    simp only [wp_bind, wp_read, List.nil_append]
    cases images : s.peer.images && host.config.imagesEnabled with
    | false => exact outcome_of_eq (fun event => List.not_mem_nil) rfl rfl
    | true =>
      simp only [if_true, wp_bind, wp_cancelOutgoing, wp_beginTransfer, wp_pure, List.append_nil]
      exact .began silent_cancels rfl rfl

theorem offerItem_outcome {current : Option ClipboardItem} {force : Bool} :
    (offerItem host system current force).wp (fun _ t out => Outcome s t out
      ((s.toOffer host current force).any fun item => !s.withholds host system item)) s := by
  unfold offerItem
  rw [wp_bind, wp_read]
  dsimp only [List.nil_append]
  cases current with
  | none =>
    have nothing (tracker : ClipboardChangeTracker) :
        Outcome s { s with tracker } [] false :=
      outcome_of_eq (fun event => List.not_mem_nil) rfl rfl
    rw [if_neg (by simp)]
    dsimp only [Option.map_none, toOffer, Option.filter_none, Option.any_none]
    generalize (if force = true then s.tracker.offerCurrent none
      else s.tracker.offerIfChanged none) = offer
    obtain ⟨sequence, tracker⟩ := offer
    cases sequence <;> exact nothing tracker
  | some item =>
    dsimp only [Option.map_some, Option.isSome_some]
    by_cases withheld : s.withholds host system item = true
    · have found : (s.withholdsPhoneContent && true &&
          decide (system.phoneContent = some (item.id host.codecs))) = true := by
        simpa [withholds] using withheld
      rw [if_pos found]
      have none : ((s.toOffer host (some item) force).any fun item =>
          !s.withholds host system item) = false := by
        unfold toOffer
        rw [Option.filter_some]
        split
        · simp [withheld]
        · rfl
      rw [none]
      exact outcome_of_eq (fun event => List.not_mem_nil) rfl rfl
    · have passed : ¬ (s.withholdsPhoneContent && true &&
          decide (system.phoneContent = some (item.id host.codecs))) = true := by
        simpa [withholds] using withheld
      have offered : ((s.toOffer host (some item) force).any fun item =>
          !s.withholds host system item) =
          ((force || !s.tracker.isObserved (some (item.id host.codecs))) &&
            s.sendable host s.followingSequence item) := by
        unfold toOffer
        rw [Option.filter_some]
        split
        · rename_i offered
          simp [withheld, offered]
        · rename_i quiet
          exact (Bool.not_eq_true _ ▸ quiet).symm
      rw [if_neg passed, offered]
      have sends (tracker : ClipboardChangeTracker) :
          (sendItem host s.followingSequence item).wp (fun _ t out =>
            Outcome s t out (s.sendable host s.followingSequence item)) { s with tracker } := by
        have same : s.sendable host s.followingSequence item =
            sendable host { s with tracker } s.followingSequence item := by
          cases item <;> rfl
        rw [same]
        refine wp_mono ?_ sendItem_outcome
        intro r t out outcome
        exact outcome.congr rfl rfl
      cases force with
      | true => exact sends _
      | false =>
        by_cases observed : s.tracker.isObserved (some (item.id host.codecs)) = true
        · simp only [ClipboardChangeTracker.offerIfChanged, observed, if_true, Bool.not_true,
            Bool.or_false, Bool.false_and, Bool.false_eq_true, if_false]
          exact outcome_of_eq (fun event => List.not_mem_nil) rfl rfl
        · simp only [ClipboardChangeTracker.offerIfChanged, observed, if_false,
            Bool.false_eq_true, Bool.not_false, Bool.or_true, Bool.true_and]
          exact sends _

/-- Content that was observed is not offered. -/
theorem toOffer_observed {current : Option ClipboardItem}
    (observed : ¬ ((current.map (·.id host.codecs)).isSome &&
      !s.tracker.isObserved (current.map (·.id host.codecs))) = true) :
    s.toOffer host current false = none := by
  cases current with
  | none => rfl
  | some item =>
    simp only [Option.map_some, Option.isSome_some, Bool.true_and, Bool.not_eq_true',
      Bool.not_eq_false] at observed
    simp [toOffer, Option.filter_some, observed]

theorem applyRemote_outcome {remote : ClipboardItem} {write : ClipboardOutput}
    (silent : ∀ event, write ≠ .send event) :
    (applyRemote host system remote write).wp (fun _ t out => Outcome s t out
      ((s.toPrefer host system remote).any fun item => !s.withholds host system item)) s := by
  unfold applyRemote toPrefer
  cases system.current with
  | error error => exact outcome_of_eq (fun event => List.not_mem_nil) rfl rfl
  | ok current =>
    simp only [wp_bind, wp_system?, Except.ok.injEq, reduceCtorEq, false_implies, implies_true,
      and_true, forall_eq', wp_read, List.nil_append]
    by_cases same : current.map (·.id host.codecs) = some (remote.id host.codecs)
    · rw [if_pos same, if_pos same]
      exact outcome_of_eq (fun event => List.not_mem_nil) rfl rfl
    · rw [if_neg same, if_neg same]
      by_cases newer : ((current.map (·.id host.codecs)).isSome &&
          !s.tracker.isObserved (current.map (·.id host.codecs))) = true
      · rw [if_pos newer]
        refine wp_seq offerItem_outcome (fun _ _ _ outcome => outcome) ?_
        intro offered t out outcome
        exact outcome.append fun event => List.not_mem_nil
      · rw [if_neg newer, toOffer_observed newer]
        simp only [wp_bind, wp_check, wp_emit, wp_update, wp_pure, List.nil_append,
          List.append_nil]
        refine ⟨fun _ => ?_, fun _ _ => ?_⟩
        · refine outcome_of_eq (fun event found => ?_) rfl rfl
          exact silent event (List.mem_singleton.mp found).symm
        · exact outcome_of_eq (fun event => List.not_mem_nil) rfl rfl

theorem handleTextOffer_outcome {text : String} :
    (handleTextOffer host system text).wp (fun _ t out => Outcome s t out
      ((s.toPrefer host system (.text text)).any fun item => !s.withholds host system item)) s := by
  unfold handleTextOffer
  refine wp_seq (applyRemote_outcome fun event same => nomatch same)
    (fun _ _ _ outcome => outcome) fun applied t out outcome => ?_
  simp only [wp_bind, wp_read, wp_ite, wp_emit, wp_pure, List.nil_append]
  refine ⟨fun _ => outcome.append fun event found => ?_, fun _ => outcome.append fun event =>
    List.not_mem_nil⟩
  cases List.mem_singleton.mp found

theorem offersAny_map (offer : Option ClipboardItem) :
    s.offersAny host system (offer.map (·, true)) =
      offer.any fun item => !s.withholds host system item := by
  cases offer <;> rfl

theorem answerCancel_outcome {reason : ClipboardCancelReason} {event : ClipboardEvent} :
    (answerCancel event reason).wp (fun _ t out => Outcome s t out false) s := by
  unfold answerCancel
  split
  · exact outcome_of_eq (fun event => List.not_mem_nil) rfl rfl
  · refine .kept (fun event found => ?_) rfl rfl
    cases List.mem_singleton.mp found
    rfl
  · exact outcome_of_eq (fun event => List.not_mem_nil) rfl rfl

theorem takeIn_outcome {event : ClipboardEvent} :
    (takeIn host system event).wp (fun _ t out => Outcome s t out (s.offersAny host system
      (match (s.incoming.handle host.codecs event host.transferLimits system.now).1 with
        | .ok (some remote) => (s.toPrefer host system remote).map (·, true)
        | _ => none))) s := by
  unfold takeIn
  rw [wp_bind, wp_read]
  dsimp only [List.nil_append]
  generalize s.incoming.handle host.codecs event host.transferLimits system.now = handled
  obtain ⟨received, incoming⟩ := handled
  rw [wp_bind, wp_update]
  dsimp only
  rcases received with error | item | item
  · rw [wp_bind, wp_update]
    refine wp_seq answerCancel_outcome (fun _ _ _ outcome => outcome.congr rfl rfl) ?_
    intro _ t out outcome
    have still : Outcome s t out false := outcome.congr rfl rfl
    exact still.append fun event => List.not_mem_nil
  · exact outcome_of_eq (fun event => List.not_mem_nil) rfl rfl
  · cases item with
    | text text =>
      rw [offersAny_map]
      refine wp_seq handleTextOffer_outcome (fun _ _ _ outcome => outcome.congr rfl rfl) ?_
      intro _ t out outcome
      have still : Outcome s t out ((s.toPrefer host system (.text text)).any fun item =>
        !s.withholds host system item) := outcome.congr rfl rfl
      exact still.append fun event => List.not_mem_nil
    | image image =>
      rw [offersAny_map]
      refine wp_mono ?_ (applyRemote_outcome fun event same => nomatch same)
      intro _ t out outcome
      exact outcome.congr rfl rfl

theorem sendLocalTextOffer_outcome :
    (sendLocalTextOffer host system).wp (fun _ t out => Outcome s t out
      (s.offersAny host system (s.toAnswer host system .textRequest))) s := by
  unfold sendLocalTextOffer toAnswer
  cases system.currentText with
  | error error => exact outcome_of_eq (fun event => List.not_mem_nil) rfl rfl
  | ok text =>
    cases text with
    | none => exact outcome_of_eq (fun event => List.not_mem_nil) rfl rfl
    | some text =>
      have offers : s.offersAny host system
          (if s.sendable host s.followingSequence (.text text) then some (.text text, false)
            else none) = s.sendable host s.followingSequence (.text text) := by
        cases s.sendable host s.followingSequence (.text text) <;> rfl
      rw [offers]
      have sent (tracker : ClipboardChangeTracker) :
          (sendText host s.followingSequence text).wp (fun _ t out =>
            Outcome s t out (s.sendable host s.followingSequence (.text text)))
              { s with tracker } := by
        refine wp_mono ?_ sendText_outcome
        intro r t out outcome
        exact outcome.congr rfl rfl
      exact sent _

theorem sendLocalOffer_outcome :
    (sendLocalOffer host system).wp (fun _ t out => Outcome s t out
      (s.offersAny host system (s.toAnswer host system .contentRequest))) s := by
  unfold sendLocalOffer toAnswer
  cases system.current with
  | error error => exact outcome_of_eq (fun event => List.not_mem_nil) rfl rfl
  | ok current =>
    rw [offersAny_map]
    have outcome := @offerItem_outcome host system s current true
    exact outcome

theorem handleTransfer_outcome {event : ClipboardEvent} (transfers : event.transferId.isSome) :
    (handleTransfer host system event).wp (fun _ t out => Outcome s t out
      (s.offersAny host system (s.toAnswer host system event))) s := by
  have supported : (if s.supports host event = true then takeIn host system event
      else do answerCancel event .rejected; pure false).wp
      (fun _ t out => Outcome s t out (s.offersAny host system (s.toTakeIn host system event)))
        s := by
    unfold toTakeIn
    split
    · exact takeIn_outcome
    · refine wp_seq answerCancel_outcome (fun _ _ _ outcome => outcome) ?_
      intro _ t out outcome
      exact outcome.append fun event => List.not_mem_nil
  unfold handleTransfer
  rw [wp_bind, wp_read]
  cases event with
  | imageCancel id reason =>
    by_cases cancels : (s.outgoing.any fun active => decide (active.transferId = id)) = true
    · have answered : s.toAnswer host system (.imageCancel id reason) = none := by
        refine if_pos ?_
        simpa [ClipboardEvent.isCancel, ClipboardEvent.transferId,
          ClipboardEvent.imageTransferId] using cancels
      dsimp only
      rw [answered, if_pos cancels]
      exact .kept (fun event found => absurd found List.not_mem_nil) rfl rfl
    · have answered : s.toAnswer host system (.imageCancel id reason) =
          s.toTakeIn host system (.imageCancel id reason) := by
        refine if_neg ?_
        simpa [ClipboardEvent.isCancel, ClipboardEvent.transferId,
          ClipboardEvent.imageTransferId] using cancels
      dsimp only
      rw [answered, if_neg cancels]
      exact supported
  | imageStart | imageChunk | imageEnd | textStart | textChunk | textEnd => exact supported
  | textOffer | textRequest | contentRequest => cases transfers

/-- What `handle_event` offers. -/
theorem handleEvent_outcome (event : ClipboardEvent) :
    (handleEvent host system event).wp (fun _ t out => Outcome s t out
      (s.offersAny host system (s.toAnswer host system event))) s := by
  cases event with
  | textOffer sequence text =>
    refine wp_seq handleTextOffer_outcome (fun _ _ _ outcome => ?_) ?_
    · rw [toAnswer, offersAny_map]
      exact outcome
    · intro _ t out outcome
      rw [toAnswer, offersAny_map]
      exact outcome.append fun event => List.not_mem_nil
  | textRequest => exact sendLocalTextOffer_outcome
  | contentRequest => exact sendLocalOffer_outcome
  | imageStart | imageChunk | imageEnd | imageCancel | textStart | textChunk | textEnd =>
    exact handleTransfer_outcome rfl

end Outcomes

end ReceiverClipboardState

end EdgeKvm.Clipboard
