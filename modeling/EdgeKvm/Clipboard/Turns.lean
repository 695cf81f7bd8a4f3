import EdgeKvm.Clipboard.Receiver

/-!
# The transfers of a turn

What one call on `ReceiverClipboardState` does to the outgoing and the incoming transfer, and
which frames of transfers it sends.
-/

namespace EdgeKvm.Clipboard

open EdgeKvm.Lib Handler

/-! ## Frames of transfers -/

/-- The frames of transfers among the outputs. -/
def transferFrames (outputs : List ClipboardOutput) : List ClipboardEvent :=
  outputs.filterMap fun
    | .send event => if event.transferId.isSome then some event else none
    | _ => none

section Frames

variable {out out' : List ClipboardOutput} {output : ClipboardOutput} {event : ClipboardEvent}

@[simp] theorem transferFrames_nil : transferFrames [] = [] := rfl

@[simp] theorem transferFrames_append :
    transferFrames (out ++ out') = transferFrames out ++ transferFrames out' :=
  List.filterMap_append ..

@[simp] theorem transferFrames_send : transferFrames (.send event :: out) =
    (if event.transferId.isSome then [event] else []) ++ transferFrames out := by
  cases event <;> rfl

@[simp] theorem transferFrames_writeText {text : String} :
    transferFrames (.writeText text :: out) = transferFrames out := rfl

@[simp] theorem transferFrames_writeImage {image : CanonicalImage} :
    transferFrames (.writeImage image :: out) = transferFrames out := rfl

@[simp] theorem transferFrames_record {id : ClipboardContentId} :
    transferFrames (.record id :: out) = transferFrames out := rfl

end Frames

/-- What ends a transfer that is sent completely. -/
def ClipboardEvent.isEnd : ClipboardEvent → Bool
  | .imageEnd _ | .textEnd _ => true
  | _ => false

def ClipboardEvent.isStart : ClipboardEvent → Bool
  | .imageStart .. | .textStart .. => true
  | _ => false

def ClipboardEvent.isCancel : ClipboardEvent → Bool
  | .imageCancel .. => true
  | _ => false

/-- A cancel of a transfer that its sender takes in; a cancel of its own says `replaced`. -/
def ClipboardEvent.isRejection : ClipboardEvent → Bool
  | .imageCancel _ reason => reason ≠ .replaced
  | _ => false

namespace OutgoingClipboardTransfer

variable {t t' : OutgoingClipboardTransfer} {event : ClipboardEvent}

theorem nextEvent_transferId : t.nextEvent.2.transferId = t.transferId := by
  unfold nextEvent
  split
  · rfl
  · split <;> rfl
  · rfl
  · rfl

/-- Every frame of a transfer carries its id and is none of its cancels. -/
theorem nextEvent_event (next : t.nextEvent.1 = some event) :
    event.transferId = some t.transferId ∧ event.isCancel = false := by
  have startEvent : t.startEvent.transferId = some t.transferId ∧
      t.startEvent.isCancel = false := by
    unfold startEvent
    cases t.payload <;> exact ⟨rfl, rfl⟩
  have chunkEvent : ∀ bytes, (t.chunkEvent bytes).transferId = some t.transferId ∧
      (t.chunkEvent bytes).isCancel = false := by
    intro bytes
    unfold chunkEvent
    cases t.payload <;> exact ⟨rfl, rfl⟩
  have endEvent : t.endEvent.transferId = some t.transferId ∧ t.endEvent.isCancel = false := by
    unfold endEvent
    cases t.payload <;> exact ⟨rfl, rfl⟩
  unfold nextEvent at next
  split at next
  · obtain rfl := Option.some.inj next
    exact startEvent
  · split at next
    · obtain rfl := Option.some.inj next
      exact endEvent
    · obtain rfl := Option.some.inj next
      exact chunkEvent _
  · obtain rfl := Option.some.inj next
    exact endEvent
  · cases next

theorem isDone_of_nextEvent (next : t.nextEvent.1 = none) : t.isDone = true := by
  unfold nextEvent at next
  cases stage : t.stage with
  | start => simp [stage] at next
  | chunks =>
    simp only [stage] at next
    split at next <;> cases next
  | finish => simp [stage] at next
  | done => simp [isDone, stage]

end OutgoingClipboardTransfer

/-! ## Offers -/

namespace ReceiverClipboardState

variable {host : ClipboardHost} {system : ClipboardSystem} {s t : ReceiverClipboardState}
  {out out' : List ClipboardOutput} {event : ClipboardEvent}

/-- The cancel that `cancel_outgoing` sends. -/
def cancels (s : ReceiverClipboardState) : List ClipboardEvent :=
  (s.outgoing.map (·.cancelEvent .replaced)).toList

/-- What an offer does: nothing to the transfers, or it cancels the outgoing one, for a new one or
    for none. -/
structure Offers (s t : ReceiverClipboardState) (out : List ClipboardOutput) : Prop where
  incoming : t.incoming = s.incoming
  outgoing :
    transferFrames out = [] ∧ t.outgoing = s.outgoing ∧ t.nextTransferId = s.nextTransferId ∨
    transferFrames out = s.cancels ∧ t.outgoing = none ∧ t.nextTransferId = s.nextTransferId ∨
    transferFrames out = s.cancels ∧ t.nextTransferId = s.followingId ∧
      ∃ transfer, t.outgoing = some transfer ∧ transfer.transferId = s.followingId

theorem Offers.unchanged (silent : transferFrames out = []) (incoming : t.incoming = s.incoming)
    (outgoing : t.outgoing = s.outgoing) (next : t.nextTransferId = s.nextTransferId) :
    Offers s t out := ⟨incoming, .inl ⟨silent, outgoing, next⟩⟩

/-- Only the transfers count. -/
theorem Offers.congr {s' : ReceiverClipboardState} (offers : Offers s' t out)
    (incoming : s'.incoming = s.incoming) (outgoing : s'.outgoing = s.outgoing)
    (next : s'.nextTransferId = s.nextTransferId) : Offers s t out := by
  have cancels : s'.cancels = s.cancels := by rw [ReceiverClipboardState.cancels, outgoing]; rfl
  have following : s'.followingId = s.followingId := by simp only [followingId, next]
  constructor
  · rw [offers.incoming, incoming]
  · rw [← cancels, ← following, ← outgoing, ← next]
    exact offers.outgoing

theorem Offers.append (offers : Offers s t out) (silent : transferFrames out' = []) :
    Offers s t (out ++ out') := by
  refine ⟨offers.incoming, ?_⟩
  rw [transferFrames_append, silent, List.append_nil]
  exact offers.outgoing

@[simp] theorem wp_system? {α : Type} {x : Except String α}
    {Q : Except String α → ReceiverClipboardState → List ClipboardOutput → Prop} :
    (system? x).wp Q s ↔ (∀ a, x = .ok a → Q (.ok a) s []) ∧
      ∀ e, x = .error e → Q (.error e) s [] := wp_ofExcept

@[simp] theorem wp_beginTransfer {transfer : UInt64 → OutgoingClipboardTransfer}
    {Q : Except String Unit → ReceiverClipboardState → List ClipboardOutput → Prop} :
    (beginTransfer transfer).wp Q s ↔
      Q (.ok ()) { s with
        nextTransferId := s.followingId, outgoing := some (transfer s.followingId) } [] := Iff.rfl

@[simp] theorem wp_cancelOutgoing
    {Q : Except String Unit → ReceiverClipboardState → List ClipboardOutput → Prop} :
    cancelOutgoing.wp Q s ↔
      Q (.ok ()) { s with outgoing := none } (s.cancels.map .send) := by
  unfold cancelOutgoing cancels
  cases active : s.outgoing with
  | none =>
    have same : { s with outgoing := none } = s := by rw [← active]
    simp [active, same]
  | some transfer => simp [active]

@[simp] theorem transferFrames_cancels : transferFrames (s.cancels.map .send) = s.cancels := by
  unfold cancels
  cases s.outgoing <;> rfl

theorem sendText_offers {sequence : UInt64} {text : String} :
    (sendText host sequence text).wp (fun _ t out => Offers s t out) s := by
  unfold sendText
  simp only [wp_bind, wp_cancelOutgoing, wp_ite, wp_emit, wp_pure, wp_read, wp_beginTransfer]
  refine ⟨fun _ => ?_, fun _ => ⟨fun _ => ?_, fun _ => ?_⟩⟩
  · exact ⟨rfl, .inr (.inl ⟨by simp [ClipboardEvent.transferId, ClipboardEvent.imageTransferId],
      rfl, rfl⟩)⟩
  · exact ⟨rfl, .inr (.inr ⟨by simp, rfl, _, rfl, rfl⟩)⟩
  · exact ⟨rfl, .inr (.inl ⟨by simp, rfl, rfl⟩)⟩

theorem sendItem_offers {sequence : UInt64} {item : ClipboardItem} :
    (sendItem host sequence item).wp (fun _ t out => Offers s t out) s := by
  cases item with
  | text text => exact sendText_offers
  | image image =>
    simp only [sendItem, wp_bind, wp_cancelOutgoing, wp_ite, wp_pure, wp_read, wp_beginTransfer]
    refine ⟨fun _ => ?_, fun _ => ?_⟩
    · exact ⟨rfl, .inr (.inr ⟨by simp, rfl, _, rfl, rfl⟩)⟩
    · exact .unchanged rfl rfl rfl rfl

theorem offerItem_offers {current : Option ClipboardItem} {force : Bool} :
    (offerItem host system current force).wp (fun _ t out => Offers s t out) s := by
  unfold offerItem
  simp only [wp_bind, wp_read, wp_ite, wp_update, wp_pure, List.nil_append]
  refine ⟨fun _ => .unchanged rfl rfl rfl rfl, fun _ => ?_⟩
  split
  · refine wp_mono (fun _ t out offers => ?_) sendItem_offers
    exact Offers.congr offers rfl rfl rfl
  · exact .unchanged rfl rfl rfl rfl

theorem sendLocalOffer_offers :
    (sendLocalOffer host system).wp (fun _ t out => Offers s t out) s := by
  unfold sendLocalOffer
  simp only [wp_bind, wp_system?, List.nil_append]
  exact ⟨fun _ _ => offerItem_offers, fun _ _ => .unchanged rfl rfl rfl rfl⟩

theorem sendLocalTextOffer_offers :
    (sendLocalTextOffer host system).wp (fun _ t out => Offers s t out) s := by
  unfold sendLocalTextOffer
  simp only [wp_bind, wp_system?, List.nil_append]
  refine ⟨fun text _ => ?_, fun _ _ => .unchanged rfl rfl rfl rfl⟩
  cases text with
  | none => exact .unchanged rfl rfl rfl rfl
  | some text =>
    simp only [wp_bind, wp_read, wp_update, List.nil_append]
    split
    · refine wp_mono (fun _ t out offers => ?_) sendText_offers
      exact Offers.congr offers rfl rfl rfl
    · exact .unchanged rfl rfl rfl rfl

theorem applyRemote_offers {remote : ClipboardItem} {write : ClipboardOutput}
    (silent : transferFrames [write] = []) :
    (applyRemote host system remote write).wp (fun _ t out => Offers s t out) s := by
  unfold applyRemote
  simp only [wp_bind, wp_system?, wp_read, wp_ite, wp_update, wp_pure, wp_check, wp_emit,
    List.nil_append]
  refine ⟨fun current _ => ⟨fun _ => ?_, fun _ => ⟨fun _ => ?_, fun _ => ⟨fun _ => ?_, ?_⟩⟩⟩, ?_⟩
  · exact .unchanged rfl rfl rfl rfl
  · refine wp_mono (fun result t out offers => ?_) offerItem_offers
    cases result with
    | error _ => exact offers
    | ok _ => exact offers.append rfl
  · exact .unchanged (by simpa using silent) rfl rfl rfl
  · exact fun _ _ => .unchanged rfl rfl rfl rfl
  · exact fun _ _ => .unchanged rfl rfl rfl rfl

theorem handleTextOffer_offers {text : String} :
    (handleTextOffer host system text).wp (fun _ t out => Offers s t out) s := by
  unfold handleTextOffer
  refine wp_seq (applyRemote_offers rfl) (fun _ _ _ offers => offers) fun applied t out offers => ?_
  simp only [wp_bind, wp_read, wp_ite, wp_emit, wp_pure, List.nil_append]
  exact ⟨fun _ => offers.append rfl, fun _ => offers.append rfl⟩

end ReceiverClipboardState

/-! ## Frames of a transfer -/

namespace IncomingClipboardTransfer

variable {codecs : Codecs} {t : IncomingClipboardTransfer} {event : ClipboardEvent}
  {limits : TransferLimits} {now : Nat} {item : Option ClipboardItem} {a : IncomingState}

/-- A transfer that is taken in after a frame was started by it, or was active before. -/
theorem handle_active (taken : (t.handle codecs event limits now).1 = .ok item)
    (active : (t.handle codecs event limits now).2.active = some a) :
    event.isStart = true ∧ event.transferId = some a.transferId ∨
      event.isStart = false ∧ ∃ a', t.active = some a' ∧ a'.transferId = a.transferId := by
  have starts : ∀ id kind total max digest,
      (t.start now id kind total max digest).1 = .ok item →
      (t.start now id kind total max digest).2.active = some a → a.transferId = id := by
    intro id kind total max digest taken active
    unfold start at taken active
    split at taken
    · cases taken
    next fits =>
      rw [if_neg fits] at active
      cases active
      rfl
  have chunks : ∀ id text offset bytes, (t.chunk now id text offset bytes).1 = .ok item →
      (t.chunk now id text offset bytes).2.active = some a →
      ∃ a', t.active = some a' ∧ a'.transferId = a.transferId := by
    intro id text offset bytes taken active
    unfold chunk at taken active
    cases before : t.active with
    | none => simp [before] at taken
    | some a' =>
      simp only [before] at taken active
      split at taken
      · cases taken
      next matching =>
        rw [if_neg matching] at active
        split at taken
        · cases taken
        next inOrder =>
          rw [if_neg inOrder] at active
          split at taken
          · cases taken
          next fits =>
            rw [if_neg fits] at active
            cases active
            exact ⟨a', rfl, rfl⟩
  have ends : ∀ id text, (t.finish codecs id text limits).1 = .ok item →
      (t.finish codecs id text limits).2.active ≠ some a := by
    intro id text taken
    unfold finish at taken ⊢
    cases before : t.active with
    | none => simp [before] at taken
    | some a' =>
      simp only [before] at taken ⊢
      split <;> simp
  cases event with
  | textOffer => simp [handle] at taken
  | textRequest => simp [handle] at taken
  | contentRequest => simp [handle] at taken
  | imageStart id sequence width height total digest =>
    simp only [handle] at taken active
    cases dimensions : imageDimensions width height with
    | error error => simp [dimensions] at taken
    | ok _ =>
      simp only [dimensions] at taken active
      exact .inl ⟨rfl, congrArg some (starts _ _ _ _ _ taken active).symm⟩
  | textStart id sequence total digest =>
    exact .inl ⟨rfl, congrArg some (starts _ _ _ _ _ taken active).symm⟩
  | imageChunk id offset bytes => exact .inr ⟨rfl, chunks _ _ _ _ taken active⟩
  | textChunk id offset bytes => exact .inr ⟨rfl, chunks _ _ _ _ taken active⟩
  | imageEnd id => exact absurd active (ends _ _ taken)
  | textEnd id => exact absurd active (ends _ _ taken)
  | imageCancel id reason =>
    refine .inr ⟨rfl, a, ?_, rfl⟩
    simp only [handle] at active
    split at active
    · cases active
    · exact active

end IncomingClipboardTransfer

namespace ReceiverClipboardState

variable {host : ClipboardHost} {system : ClipboardSystem} {s t : ReceiverClipboardState}
  {out : List ClipboardOutput} {event : ClipboardEvent}

/-- What a frame of a transfer does, unless it is a cancel: the incoming transfer is the one it
    starts or goes on, and the answer is a cancel of the frame's transfer, or what an offer
    does. -/
structure Takes (host : ClipboardHost) (event : ClipboardEvent) (s t : ReceiverClipboardState)
    (out : List ClipboardOutput) : Prop where
  incoming : ∀ {a}, t.incoming.active = some a →
    (event.isStart && s.supports host event) = true ∧ event.transferId = some a.transferId ∨
    (event.isStart && s.supports host event) = false ∧
      ∃ a', s.incoming.active = some a' ∧ a'.transferId = a.transferId
  answers : Offers { s with incoming := t.incoming } t out ∨
    t.outgoing = s.outgoing ∧ t.nextTransferId = s.nextTransferId ∧
      ∃ id reason, event.transferId = some id ∧ reason ≠ .replaced ∧
        transferFrames out = [.imageCancel id reason]

theorem wp_answerCancel {reason : ClipboardCancelReason} {id : UInt64}
    {Q : Except String Unit → ReceiverClipboardState → List ClipboardOutput → Prop}
    (carries : event.transferId = some id) (noCancel : event.isCancel = false) :
    (answerCancel event reason).wp Q s ↔ Q (.ok ()) s [.send (.imageCancel id reason)] := by
  cases event with
  | imageCancel id reason => cases noCancel
  | _ => cases carries <;> rfl

theorem cancelReason_ne (error : ClipboardError) : cancelReason error ≠ .replaced := by
  cases error <;> simp [cancelReason]

theorem takeIn_takes {id : UInt64} (carries : event.transferId = some id)
    (noCancel : event.isCancel = false) (supported : s.supports host event = true) :
    (takeIn host system event).wp (fun _ t out => Takes host event s t out) s := by
  have kept : ∀ item incoming, (s.incoming.handle host.codecs event host.transferLimits
      system.now) = (.ok item, incoming) → ∀ {t out},
      Offers { s with incoming } t out → Takes host event s t out := by
    intro item incoming handled t out offers
    have same := offers.incoming
    constructor
    · intro a active
      rw [same] at active
      have origin := IncomingClipboardTransfer.handle_active (a := a) (by rw [handled])
        (by rw [handled]; exact active)
      simpa [supported] using origin
    · left
      rw [same]
      exact offers
  unfold takeIn
  simp only [wp_bind, wp_read, wp_update, List.nil_append]
  cases handled : s.incoming.handle host.codecs event host.transferLimits system.now with
  | mk received incoming =>
    cases received with
    | ok item =>
      cases item with
      | none => exact kept none incoming handled (.unchanged rfl rfl rfl rfl)
      | some item =>
        cases item with
        | image image =>
          exact wp_mono (fun _ t out offers => kept _ incoming handled offers)
            (applyRemote_offers rfl)
        | text text =>
          refine wp_seq handleTextOffer_offers
            (fun _ _ _ offers => kept _ incoming handled offers) fun _ t out offers => ?_
          exact kept _ incoming handled (offers.append rfl)
    | error error =>
      simp only [wp_bind, wp_update, wp_answerCancel carries noCancel, wp_pure]
      refine ⟨fun active => by simp at active, .inr ⟨rfl, rfl, id, _, carries,
        cancelReason_ne error, ?_⟩⟩
      rfl

theorem handleTransfer_takes {id : UInt64} (carries : event.transferId = some id)
    (noCancel : event.isCancel = false) :
    (handleTransfer host system event).wp (fun _ t out => Takes host event s t out) s := by
  unfold handleTransfer
  simp only [wp_bind, wp_read, wp_ite, wp_update, wp_pure, List.nil_append]
  refine ⟨fun cancels => ?_, fun _ => ⟨takeIn_takes carries noCancel, fun unsupported => ?_⟩⟩
  · cases event with
    | imageCancel id reason => cases noCancel
    | _ => simp at cancels
  · rw [wp_answerCancel carries noCancel]
    refine ⟨fun active => .inr ⟨by simp [unsupported], _, active, rfl⟩, .inr ⟨rfl, rfl, id, _,
      carries, by decide, rfl⟩⟩

/-- A cancel drops the outgoing transfer with its id, or else the incoming one. -/
theorem handleTransfer_cancel {id : UInt64} {reason : ClipboardCancelReason} :
    (handleTransfer host system (.imageCancel id reason) s).output = [] ∧
    (handleTransfer host system (.imageCancel id reason) s).state =
      if s.outgoing.any (·.transferId = id) then { s with outgoing := none }
      else { s with incoming :=
        if s.incoming.active.any (·.transferId = id) then {} else s.incoming } := by
  have both : (handleTransfer host system (.imageCancel id reason)).wp (fun _ t out => out = [] ∧
      t = if s.outgoing.any (·.transferId = id) then { s with outgoing := none }
        else { s with incoming :=
          if s.incoming.active.any (·.transferId = id) then {} else s.incoming }) s := by
    unfold handleTransfer takeIn
    simp only [wp_bind, wp_read, wp_ite, wp_update, wp_pure, List.nil_append, supports,
      IncomingClipboardTransfer.handle]
    refine ⟨fun names => ?_, fun other => ⟨fun _ => ?_, by simp⟩⟩
    · simp only [names, if_true, and_self]
    · simp [other]
  exact both

/-- `send_next_image_frame`. -/
theorem sendNextImageFrame_spec :
    sendNextImageFrame.wp (fun _ t out => t.incoming = s.incoming ∧
      t.nextTransferId = s.nextTransferId ∧
      ((t = s ∧ s.outgoing = none ∧ out = []) ∨
        ∃ transfer, s.outgoing = some transfer ∧
          (transfer.isDone = true ∧ t.outgoing = none ∧ out = [] ∨
            ∃ event, out = [.send event] ∧ event.transferId = some transfer.transferId ∧
              event.isCancel = false ∧
              (event.isEnd = true ∧ t.outgoing = none ∨
                t.outgoing = some transfer.nextEvent.2)))) s := by
  unfold sendNextImageFrame
  simp only [wp_bind, wp_read, List.nil_append]
  cases active : s.outgoing with
  | none => exact ⟨rfl, rfl, .inl ⟨rfl, rfl, rfl⟩⟩
  | some transfer =>
    cases next : transfer.nextEvent with
    | mk event later =>
      cases event with
      | none =>
        have ended := OutgoingClipboardTransfer.isDone_of_nextEvent (t := transfer) (by rw [next])
        simp only [next, wp_bind, wp_update, wp_pure, true_and]
        refine .inr ⟨transfer, rfl, .inl ?_⟩
        simp [ended]
      | some event =>
        have carried : event.transferId = some transfer.transferId ∧ event.isCancel = false :=
          OutgoingClipboardTransfer.nextEvent_event (by rw [next])
        simp only [next, wp_bind, wp_update, wp_emit, wp_ite, wp_pure, List.nil_append, true_and]
        refine ⟨fun ended => ?_, fun _ => ?_⟩
        · have ended : event.isEnd = true := by
            cases event with
            | imageEnd id => rfl
            | textEnd id => rfl
            | _ => simp at ended
          refine .inr ⟨transfer, rfl, .inr ⟨event, rfl, carried.1, carried.2, .inl ?_⟩⟩
          simp [ended]
        · refine .inr ⟨transfer, rfl, .inr ⟨event, rfl, carried.1, carried.2, .inr ?_⟩⟩
          rw [next]

/-- An expired transfer is given up with a cancel. -/
theorem expireIncoming_spec :
    (expireIncoming system).wp (fun _ t out => t.outgoing = s.outgoing ∧
      t.nextTransferId = s.nextTransferId ∧
      (t = s ∧ out = [] ∨
        ∃ a, s.incoming.active = some a ∧ t.incoming.active = none ∧
          out = [.send (.imageCancel a.transferId .timedOut)])) s := by
  unfold expireIncoming IncomingClipboardTransfer.expireTransferId
  simp only [wp_bind, wp_read, wp_update, List.nil_append]
  cases active : s.incoming.active with
  | none => exact ⟨rfl, rfl, .inl ⟨rfl, rfl⟩⟩
  | some a =>
    by_cases late : imageTransferTimeout < system.now - a.lastProgress
    · simp only [late, if_true, wp_bind, wp_emit, wp_pure]
      refine ⟨trivial, trivial, .inr ⟨a, rfl, ?_⟩⟩
      simp
    · simp only [late, if_false, wp_pure]
      simp

end ReceiverClipboardState

end EdgeKvm.Clipboard
