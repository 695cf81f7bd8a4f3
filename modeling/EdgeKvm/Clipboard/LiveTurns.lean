import EdgeKvm.Clipboard.LiveCalls
import EdgeKvm.Clipboard.Turns

/-!
# What the Windows clipboard does to held input

Most calls of `LiveClipboardState` write clipboard frames only and leave the held input, its
deadline and, unless they announce its end, the outgoing transfer alone (`Quiet`).
-/

namespace EdgeKvm.Clipboard

open EdgeKvm.Lib Handler

/-- The frames written to the peer. -/
def writes (output : List LiveOutput) : List SessionFrame :=
  output.filterMap fun
    | .write frame => some frame
    | _ => none

/-- The live frames among them. -/
def liveFrames (frames : List SessionFrame) : List LiveFrame :=
  frames.filterMap fun
    | .live frame => some frame
    | .clipboard _ => none

section Lists

variable (a b : List LiveOutput) (frames more : List SessionFrame)

@[simp] theorem writes_nil : writes [] = [] := rfl

@[simp] theorem writes_append : writes (a ++ b) = writes a ++ writes b := List.filterMap_append

@[simp] theorem writes_write (frame : SessionFrame) :
    writes (.write frame :: a) = frame :: writes a := rfl

@[simp] theorem writes_requestLater (event : ClipboardEvent) :
    writes (.requestLater event :: a) = writes a := rfl

@[simp] theorem writes_writeText (text : String) : writes (.writeText text :: a) = writes a := rfl

@[simp] theorem writes_writeImage (image : CanonicalImage) :
    writes (.writeImage image :: a) = writes a := rfl

@[simp] theorem writes_frameOutputs (events : List ClipboardEvent) :
    writes (frameOutputs events) = events.map .clipboard := by
  simp [writes, frameOutputs]

@[simp] theorem liveFrames_nil : liveFrames [] = [] := rfl

@[simp] theorem liveFrames_append :
    liveFrames (frames ++ more) = liveFrames frames ++ liveFrames more := List.filterMap_append

@[simp] theorem liveFrames_live (frame : LiveFrame) :
    liveFrames (.live frame :: frames) = frame :: liveFrames frames := rfl

@[simp] theorem liveFrames_clipboard (event : ClipboardEvent) :
    liveFrames (.clipboard event :: frames) = liveFrames frames := rfl

@[simp] theorem liveFrames_map_clipboard (events : List ClipboardEvent) :
    liveFrames (events.map .clipboard) = [] := by
  simp [liveFrames]

@[simp] theorem liveFrames_map_live (held : List LiveFrame) :
    liveFrames (held.map .live) = held := by
  simp [liveFrames]

end Lists

/-- A frame that says that a transfer of this session is over: its end, or that it was
    replaced. -/
def SessionFrame.settles (transferId : UInt64) : SessionFrame → Bool
  | .clipboard (.imageEnd id) | .clipboard (.textEnd id)
  | .clipboard (.imageCancel id .replaced) => id = transferId
  | _ => false

/-- The end frame of a transfer settles it. -/
theorem settles_of_completes {transfer : OutgoingClipboardTransfer} {event : ClipboardEvent}
    (next : transfer.nextEvent.1 = some event)
    (complete : LiveClipboardState.completes event = true) :
    (SessionFrame.clipboard event).settles transfer.transferId = true := by
  have named := (OutgoingClipboardTransfer.nextEvent_event next).1
  cases event with
  | imageEnd id | textEnd id =>
    simp only [ClipboardEvent.transferId, ClipboardEvent.imageTransferId,
      Option.some.injEq] at named
    simp [SessionFrame.settles, named]
  | textOffer | textRequest | contentRequest | imageStart | imageChunk | imageCancel | textStart
  | textChunk => cases complete

namespace LiveClipboardState

/-- The transfer of `s` goes on in `t`, unless one of the frames settles it. -/
def Carries (s t : LiveClipboardState) (frames : List SessionFrame) : Prop :=
  ∀ active, s.outgoing = some active →
    (∃ next, t.outgoing = some next ∧ next.transferId = active.transferId) ∨
      ∃ frame ∈ frames, frame.settles active.transferId

/-- The held input stays, and no live frame is written. -/
structure Quiet (s t : LiveClipboardState) (frames : List SessionFrame) : Prop where
  held : t.heldInput = s.heldInput
  deadline : t.pasteBarrierDeadline = s.pasteBarrierDeadline
  carries : s.Carries t frames
  silent : liveFrames frames = []

namespace Quiet

variable {s t u : LiveClipboardState} {frames more : List SessionFrame}

/-- A change of other variables. -/
theorem of_eq (held : t.heldInput = s.heldInput)
    (deadline : t.pasteBarrierDeadline = s.pasteBarrierDeadline)
    (outgoing : t.outgoing = s.outgoing) (silent : liveFrames frames = []) : s.Quiet t frames :=
  ⟨held, deadline, fun active found => .inl ⟨active, outgoing.trans found, rfl⟩, silent⟩

theorem trans (first : s.Quiet t frames) (rest : t.Quiet u more) :
    s.Quiet u (frames ++ more) where
  held := rest.held.trans first.held
  deadline := rest.deadline.trans first.deadline
  silent := by rw [liveFrames_append, first.silent, rest.silent]; rfl
  carries := by
    intro active found
    rcases first.carries active found with ⟨next, onward, same⟩ | ⟨frame, written, settled⟩
    · rcases rest.carries next onward with ⟨last, kept, alike⟩ | ⟨frame, written, settled⟩
      · exact .inl ⟨last, kept, alike.trans same⟩
      · rw [same] at settled
        exact .inr ⟨frame, List.mem_append_right _ written, settled⟩
    · exact .inr ⟨frame, List.mem_append_left _ written, settled⟩

end Quiet

/-- A call that is quiet, however it ends. -/
def Quietly {α : Type} (h : LiveM α) (s : LiveClipboardState) : Prop :=
  h.wp (fun _ t output => s.Quiet t (writes output)) s

/-- A call that is quiet once the frames it returns are written. -/
def Offers (h : LiveM (List ClipboardEvent)) (s : LiveClipboardState) : Prop :=
  h.wp (fun r t output => output = [] ∧ ∃ events, r = .ok events ∧
    s.Quiet t (events.map .clipboard)) s

section Specs

variable {host : LiveHost} {config : LiveConfig} {system : WindowsClipboard}
  {s : LiveClipboardState}

/-- The cancel of a replaced transfer settles it. -/
theorem replaceOutgoing_carries {t : LiveClipboardState} :
    s.Carries t (s.replaceOutgoing.map .clipboard) := by
  intro active found
  refine .inr ⟨.clipboard (active.cancelEvent .replaced), ?_, ?_⟩
  · exact List.mem_map_of_mem (by simp [replaceOutgoing, found])
  · simp [OutgoingClipboardTransfer.cancelEvent, SessionFrame.settles]

theorem steady_quiet : Steady fun s t output => s.Quiet t (writes output) where
  trans first rest := by
    rw [writes_append]
    exact first.trans rest
  changed held deadline outgoing := Quiet.of_eq held deadline outgoing rfl
  said {s o} aside := by
    refine Quiet.of_eq rfl rfl rfl ?_
    cases o with
    | write frame =>
      cases frame with
      | live frame => cases aside
      | clipboard event => rfl
    | requestLater | writeText | writeImage => rfl
  replaced held deadline _ := by
    rw [writes_frameOutputs]
    exact ⟨held, deadline, replaceOutgoing_carries, liveFrames_map_clipboard _⟩

theorem offerItem_offers {current : Option ClipboardItem} {force : Bool} :
    Offers (offerItem host config current force) s := by
  refine Handler.wp_mono ?_ (offerItem_offersWithin steady_quiet)
  rintro r t output ⟨silent, events, returned, quiet⟩
  rw [writes_frameOutputs] at quiet
  exact ⟨silent, events, returned, quiet⟩

/-! ## Writing live frames -/

/-- `after_input_sent` writes nothing, and looks after the control key only. -/
theorem afterInputSent_spec {frame : SessionFrame} :
    (afterInputSent config frame).wp (fun r t output => r = .ok () ∧ writes output = [] ∧
      ∃ ctrlDown, t = { s with ctrlDown }) s := by
  unfold afterInputSent
  rw [Handler.wp_read_bind]
  generalize frame.inputEvent = event
  rcases event with _ | event
  · exact ⟨rfl, rfl, s.ctrlDown, rfl⟩
  · cases event with
    | key code down =>
      show Handler.wp (if code = 29 ∨ code = 97 then _ else _) _ s
      split
      · exact ⟨rfl, rfl, _, rfl⟩
      · split
        · exact ⟨rfl, rfl, s.ctrlDown, rfl⟩
        · exact ⟨rfl, rfl, s.ctrlDown, rfl⟩
    | allKeysUp => exact ⟨rfl, rfl, _, rfl⟩
    | _ => exact ⟨rfl, rfl, s.ctrlDown, rfl⟩

theorem writeFrames_spec (frames : List SessionFrame) : ∀ s : LiveClipboardState,
    (writeFrames config frames).wp (fun r t output => r = .ok () ∧ writes output = frames ∧
      ∃ ctrlDown, t = { s with ctrlDown }) s := by
  induction frames with
  | nil =>
    intro s
    exact ⟨rfl, rfl, s.ctrlDown, rfl⟩
  | cons frame frames ih =>
    intro s
    unfold writeFrames
    rw [Handler.wp_bind, wp_emit]
    refine Handler.wp_seq afterInputSent_spec ?_ ?_
    · rintro e t output ⟨failed, -⟩
      cases failed
    · rintro - t output ⟨-, silent, ctrlDown, rfl⟩
      refine Handler.wp_mono ?_ (ih _)
      rintro r u more ⟨done, written, ctrlDown', rfl⟩
      exact ⟨done, by simp [silent, written], ctrlDown', rfl⟩

/-- The held frames are all written. -/
theorem releaseHeldInput_spec :
    (releaseHeldInput config).wp (fun r t output => r = .ok () ∧
      writes output = s.heldInput.map .live ∧ t.heldInput = [] ∧
      t.pasteBarrierDeadline = none ∧ t.outgoing = s.outgoing) s := by
  unfold releaseHeldInput
  rw [Handler.wp_read_bind, Handler.wp_bind, wp_update]
  refine Handler.wp_mono ?_ (writeFrames_spec _ _)
  rintro r t output ⟨done, written, ctrlDown, rfl⟩
  exact ⟨done, written, rfl, rfl, rfl⟩

/-- The expiry leaves the held input to be released. -/
theorem cancelExpiredPasteBarrier_spec :
    cancelExpiredPasteBarrier.wp (fun r t output => r = .ok () ∧ t.heldInput = s.heldInput ∧
      ∃ events : List ClipboardEvent, writes output = events.map .clipboard) s := by
  unfold cancelExpiredPasteBarrier
  rw [Handler.wp_read_bind, Handler.wp_bind, wp_update]
  refine Handler.wp_mono ?_ (sendAll_spec _ _)
  rintro r t output ⟨done, rfl, rfl⟩
  exact ⟨done, rfl, _, writes_frameOutputs _⟩

/-- A tick behind the deadline releases everything held. -/
theorem sendTick_expired {now : Nat} (expired : s.pasteBarrierExpired now = true) :
    (sendTick config now).wp (fun _ t output => ∃ events : List ClipboardEvent,
      writes output = events.map .clipboard ++ s.heldInput.map .live ∧ t.heldInput = [] ∧
        t.pasteBarrierDeadline = none) s := by
  have needed : s.needsSendTick = true := by
    unfold pasteBarrierExpired at expired
    obtain ⟨deadline, found, -⟩ := (Option.any_eq_true _ _).mp expired
    simp [needsSendTick, found]
  unfold sendTick
  rw [Handler.wp_read_bind, if_pos needed, if_pos expired]
  refine Handler.wp_seq cancelExpiredPasteBarrier_spec ?_ ?_
  · rintro e t output ⟨failed, -⟩
    cases failed
  · rintro - t output ⟨-, kept, events, written⟩
    refine Handler.wp_mono ?_ releaseHeldInput_spec
    rintro r u more ⟨-, released, emptied, free, -⟩
    exact ⟨events, by rw [writes_append, written, released, kept], emptied, free⟩

end Specs

/-! ## Turns -/

/-- What `prepare_input` does with a frame: it lets it through, or holds it back. -/
inductive Prepared (s t : LiveClipboardState) (live : LiveFrame) (frames : List SessionFrame) :
    Prop
  | passed (events : List ClipboardEvent) (written : frames = events.map .clipboard ++ [.live live])
      (quiet : s.Quiet t (events.map .clipboard))
      (mayPass : s.pasteBarrierDeadline = none ∨ isMotion live = true)
  | held (events : List ClipboardEvent) (written : frames = events.map .clipboard)
      (queued : t.heldInput = s.heldInput ++ [live]) (barred : t.pasteBarrierDeadline.isSome)
      (still : isMotion live = false)
      (waits : s.pasteBarrierDeadline.isSome → events = [] ∧
        t.pasteBarrierDeadline = s.pasteBarrierDeadline ∧ t.outgoing = s.outgoing)

section Turns

variable {host : LiveHost} {config : LiveConfig} {system : WindowsClipboard}
  {s : LiveClipboardState} {live : LiveFrame}

/-- A call that prepares `live`. -/
def Prepares (h : LiveM (List SessionFrame)) (s : LiveClipboardState) (live : LiveFrame) : Prop :=
  h.wp (fun r t output => output = [] ∧ ∃ frames, r = .ok frames ∧ Prepared s t live frames) s

theorem prepares_at_once (free : s.pasteBarrierDeadline = none ∨ isMotion live = true) :
    Prepares (pure [.live live]) s live :=
  ⟨rfl, _, rfl, .passed [] rfl (Quiet.of_eq rfl rfl rfl rfl) free⟩

theorem isMotion_of_isPasteKey (paste : isPasteKey live = true) : isMotion live = false := by
  unfold isPasteKey at paste
  simp only [decide_eq_true_eq] at paste
  simp [isMotion, paste]

theorem preparePasteOther_prepares {current : Option ClipboardItem}
    (free : s.pasteBarrierDeadline = none) (still : isMotion live = false) :
    Prepares (preparePasteOther host config system live current) s live := by
  refine Handler.wp_seq offerItem_offers ?_ ?_
  · rintro e t output ⟨-, events, failed, -⟩
    cases failed
  · rintro events t output ⟨rfl, same, returned, quiet⟩
    cases returned
    rw [Handler.wp_read_bind]
    split
    · refine ⟨rfl, _, rfl, .held events rfl (congrArg (· ++ [live]) quiet.held) rfl still ?_⟩
      simp [free]
    · exact ⟨rfl, _, rfl, .passed events rfl quiet (.inl free)⟩

theorem preparePasteImage_prepares {image : CanonicalImage}
    (free : s.pasteBarrierDeadline = none) (still : isMotion live = false) :
    Prepares (preparePasteImage host config system live image) s live := by
  unfold Prepares preparePasteImage
  rw [Handler.wp_read_bind]
  dsimp only
  split
  · exact prepares_at_once (.inl free)
  · split
    · refine ⟨rfl, [], rfl, .held [] rfl rfl rfl still ?_⟩
      simp [free]
    · refine Handler.wp_seq offerItem_offers ?_ ?_
      · rintro e t output ⟨-, events, failed, -⟩
        cases failed
      · rintro events t output ⟨rfl, same, returned, quiet⟩
        cases returned
        refine ⟨rfl, _, rfl, .held events rfl (congrArg (· ++ [live]) quiet.held) rfl still ?_⟩
        simp [free]

theorem prepareInput_prepares : Prepares (prepareInput host config system live) s live := by
  unfold Prepares prepareInput
  rw [Handler.wp_read_bind]
  cases barrier : s.pasteBarrierDeadline with
  | some deadline =>
    simp only [Option.isSome_some, if_true]
    cases moves : isMotion live with
    | true => exact prepares_at_once (.inr moves)
    | false =>
      refine ⟨rfl, [], rfl, .held [] rfl rfl ?_ moves fun _ => ⟨rfl, rfl, rfl⟩⟩
      exact barrier ▸ rfl
  | none =>
    simp only [Option.isSome_none, Bool.false_eq_true, if_false]
    split
    · exact prepares_at_once (.inl barrier)
    · split
      · rename_i paste
        simp only [Bool.and_eq_true] at paste
        have still := isMotion_of_isPasteKey paste.1
        unfold preparePaste
        rw [Handler.wp_read_bind]
        split
        · exact prepares_at_once (.inl barrier)
        · split
          · exact preparePasteImage_prepares barrier still
          · exact preparePasteOther_prepares barrier still
        · exact preparePasteOther_prepares barrier still
      · exact prepares_at_once (.inl barrier)

end Turns

end LiveClipboardState

end EdgeKvm.Clipboard
