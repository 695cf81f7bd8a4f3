import EdgeKvm.Clipboard.Streams
import EdgeKvm.Clipboard.Offered

/-!
# The turns of a desktop

What an offer that passes leaves, and what a session does with a frame of a stream that brings it
its items.
-/

namespace EdgeKvm.Clipboard

open EdgeKvm.Lib Handler Machine

/-! ## What is sent and written -/

section Outputs

variable {out out' : List ClipboardOutput} {output : ClipboardOutput} {events : List ClipboardEvent}

@[simp] theorem sent_nil : sent [] = [] := rfl

@[simp] theorem sent_append : sent (out ++ out') = sent out ++ sent out' :=
  List.filterMap_append ..

@[simp] theorem sent_send {event : ClipboardEvent} :
    sent (.send event :: out) = event :: sent out := rfl

@[simp] theorem sent_map_send : sent (events.map .send) = events := by
  induction events with
  | nil => rfl
  | cons event events ih => rw [List.map_cons, sent_send, ih]

namespace Desktop

@[simp] theorem written_nil : written [] = [] := rfl

@[simp] theorem written_append : written (out ++ out') = written out ++ written out' :=
  List.filterMap_append ..

@[simp] theorem written_send {event : ClipboardEvent} :
    written (.send event :: out) = written out := rfl

@[simp] theorem written_map_send : written (events.map .send) = [] := by
  induction events with
  | nil => rfl
  | cons event events ih => rw [List.map_cons, written_send, ih]

end Desktop

end Outputs

/-! ## Offers -/

namespace ReceiverClipboardState

/-- A call that offers the item: the outgoing transfer is cancelled, and what is sent in its place
    brings the receiver the item. -/
structure Presents (receiver : ClipboardHost) (s t : ReceiverClipboardState)
    (item : ClipboardItem) (out : List ClipboardOutput) : Prop where
  incoming : t.incoming = s.incoming
  peer : t.peer = s.peer
  observed : t.tracker.lastObserved = some (item.id receiver.codecs)
  written : Desktop.written out = []
  frames : ∃ more, sent out = s.cancels ++ more ∧
    receiver.receive {} (more ++ ahead t.outgoing) = some ([item], {}) ∧
    (∀ event, (more ++ ahead t.outgoing).getLast? = some event →
      ClipboardHost.completes event = true) ∧
    (t.outgoing.isSome → more = [])

end ReceiverClipboardState

namespace OutgoingClipboardTransfer

variable {t : OutgoingClipboardTransfer} {event : ClipboardEvent}

/-- The last frame of a transfer ends it. -/
theorem completes_last (stage : t.stage = .start) (offset : t.offset = 0)
    (final : t.events.getLast? = some event) : ClipboardHost.completes event = true := by
  obtain ⟨chunks, -, -, frames⟩ := events_of_start stage offset
  rw [frames, List.getLast?_concat] at final
  obtain rfl := Option.some.inj final
  unfold endEvent
  cases t.payload <;> rfl

end OutgoingClipboardTransfer

section Presenting

open ReceiverClipboardState

variable {hosts : DesktopHosts} {n : Side} {d : Desktop} {item : ClipboardItem} {now : Nat}

/-- A transfer that arrives is what an offer may begin. -/
theorem presents_began {transfer : OutgoingClipboardTransfer} {s t : ReceiverClipboardState}
    {receiver : ClipboardHost} (incoming : t.incoming = s.incoming) (peer : t.peer = s.peer)
    (observed : t.tracker.lastObserved = some (item.id receiver.codecs))
    (outgoing : t.outgoing = some transfer) (stage : transfer.stage = .start)
    (offset : transfer.offset = 0)
    (arrives : receiver.receive {} transfer.events = some ([item], {})) :
    Presents receiver s t item (s.cancels.map .send) := by
  refine ⟨incoming, peer, observed, by simp, [], by simp, ?_, ?_, fun _ => rfl⟩
  · simpa [outgoing, ahead] using arrives
  · intro event final
    refine OutgoingClipboardTransfer.completes_last stage offset ?_
    simpa [outgoing, ahead] using final

/-- What passes and was not observed is presented. -/
theorem offerItem_presents (now : Nat) (images : d.state.peer.images = true)
    (textChunks : d.state.peer.textChunks = true) (enabled : (hosts.config n).imagesEnabled = true)
    (unobserved : d.state.tracker.isObserved (some (item.id hosts.codecs)) = false)
    (lossless : hosts.codecs.Lossless) (passes : d.Passes hosts n item) :
    (offerItem (hosts.host n) (d.system now) (some item) false).wp
      (fun _ t out => Presents (hosts.host n.other) d.state t item out) d.state := by
  have open' : ¬ (d.state.withholdsPhoneContent &&
      (some (item.id (hosts.host n).codecs)).isSome &&
      decide ((d.system now).phoneContent = some (item.id (hosts.host n).codecs))) = true := by
    simp [Desktop.system]
  have fresh : d.state.tracker.offerIfChanged (some (item.id (hosts.host n).codecs)) =
      (some d.state.followingSequence,
        { lastObserved := some (item.id hosts.codecs), sequence := d.state.followingSequence }) := by
    have unobserved' : d.state.tracker.isObserved (some (item.id (hosts.host n).codecs)) = false :=
      unobserved
    simp only [ClipboardChangeTracker.offerIfChanged, unobserved', Bool.false_eq_true, if_false]
    rfl
  unfold offerItem
  rw [wp_read_bind]
  dsimp only [Option.map_some]
  rw [if_neg open', if_neg Bool.false_ne_true, fresh]
  simp only [wp_bind, wp_update, List.nil_append]
  cases item with
  | text text =>
    unfold sendItem sendText
    simp only [wp_bind, wp_cancelOutgoing, wp_ite, wp_emit, wp_pure, wp_read, wp_beginTransfer,
      List.append_nil]
    refine ⟨fun fits => ?_, fun long => ⟨fun _ => ?_, fun refused => ?_⟩⟩
    · refine ⟨rfl, rfl, rfl, ?_, [.textOffer d.state.followingSequence text], ?_, rfl, ?_, ?_⟩
      · simp
      · simp
        rfl
      · intro event final
        obtain rfl := Option.some.inj final
        rfl
      · intro none
        cases none
    · exact presents_began rfl rfl rfl rfl rfl rfl (ClipboardHost.receive_outgoing
        (hosts.host n.other) lossless (passes.resolve_left long) _ _)
    · exact absurd textChunks refused
  | image image =>
    unfold sendItem
    simp only [wp_bind, wp_cancelOutgoing, wp_ite, wp_pure, wp_read, wp_beginTransfer,
      List.append_nil, List.nil_append]
    refine ⟨fun _ => ?_, fun refused => ?_⟩
    · exact presents_began rfl rfl rfl rfl rfl rfl (ClipboardHost.receive_outgoing
        (hosts.host n.other) lossless (passes.resolve_left Bool.false_ne_true) _ _)
    · exact absurd (by simp [images, DesktopHosts.host, enabled]) refused

end Presenting

/-! ## Frames that arrive -/

/-- What a session does with an item that a frame completes: it ends up on the clipboard, observed,
    or the content of the clipboard is offered instead. -/
inductive Adopts (hosts : DesktopHosts) (n : Side) (d : Desktop) (t : ReceiverClipboardState)
    (remote : ClipboardItem) (out : List ClipboardOutput) : Prop
  | took (incoming : t.incoming = d.state.incoming) (peer : t.peer = d.state.peer)
      (outgoing : t.outgoing = d.state.outgoing)
      (observed : t.tracker.lastObserved = some (remote.id hosts.codecs)) (silent : sent out = [])
      (written : Desktop.written out = [] ∧
          d.clipboard.map (·.id hosts.codecs) = some (remote.id hosts.codecs) ∨
        Desktop.written out = [remote])
  | offered (item : ClipboardItem) (present : d.clipboard = some item)
      (different : item.id hosts.codecs ≠ remote.id hosts.codecs)
      (unobserved : d.state.tracker.isObserved (some (item.id hosts.codecs)) = false)
      (presents : ReceiverClipboardState.Presents (hosts.host n.other) d.state t item out)

section Arriving

open ReceiverClipboardState

variable {hosts : DesktopHosts} {n : Side} {d : Desktop} {remote : ClipboardItem} {now : Nat}
  {t : ReceiverClipboardState} {out out' : List ClipboardOutput}

theorem ReceiverClipboardState.Presents.append {receiver : ClipboardHost}
    {s : ReceiverClipboardState} {item : ClipboardItem} (presents : Presents receiver s t item out)
    (silent : sent out' = []) (kept : Desktop.written out' = []) :
    Presents receiver s t item (out ++ out') := by
  refine ⟨presents.incoming, presents.peer, presents.observed, ?_, ?_⟩
  · rw [Desktop.written_append, presents.written, kept, List.append_nil]
  · rw [sent_append, silent, List.append_nil]
    exact presents.frames

theorem Adopts.append (adopts : Adopts hosts n d t remote out) (silent : sent out' = [])
    (kept : Desktop.written out' = []) : Adopts hosts n d t remote (out ++ out') := by
  cases adopts with
  | took incoming peer outgoing observed quiet written =>
    refine .took incoming peer outgoing observed ?_ ?_
    · rw [sent_append, quiet, silent, List.append_nil]
    · rwa [Desktop.written_append, kept, List.append_nil]
  | offered item present different unobserved presents =>
    exact .offered item present different unobserved (presents.append silent kept)

/-- The session supports what the other end sends. -/
structure Supports (hosts : DesktopHosts) (n : Side) (d : Desktop) : Prop where
  images : d.state.peer.images = true
  textChunks : d.state.peer.textChunks = true
  enabled : (hosts.config n).imagesEnabled = true

theorem applyRemote_adopts {write : ClipboardOutput} (lossless : hosts.codecs.Lossless) (supports : Supports hosts n d)
    (silent : sent [write] = []) (writes : Desktop.written [write] = [remote])
    (passes : ∀ item, d.clipboard = some item → item.id hosts.codecs ≠ remote.id hosts.codecs →
      d.state.tracker.isObserved (some (item.id hosts.codecs)) = false →
      d.Passes hosts n item) :
    (applyRemote (hosts.host n) (d.system now) remote write).wp
      (fun _ t out => Adopts hosts n d t remote out) d.state := by
  unfold applyRemote
  simp only [wp_bind, wp_system?, wp_read, wp_ite, wp_update, wp_pure, wp_check, wp_emit,
    List.nil_append, List.append_nil]
  refine ⟨fun current found => ?_, fun _ failed => by cases failed⟩
  obtain rfl : d.clipboard = current := Except.ok.inj found
  refine ⟨fun same => ?_, fun different => ⟨fun newer => ?_, fun old => ⟨fun _ => ?_, ?_⟩⟩⟩
  · exact .took rfl rfl rfl same rfl (.inl ⟨rfl, same⟩)
  · obtain ⟨some', unobserved⟩ := Bool.and_eq_true_iff.mp newer
    cases present : d.clipboard with
    | none => simp [present] at some'
    | some item =>
      rw [present] at different unobserved
      have fresh : d.state.tracker.isObserved (some (item.id hosts.codecs)) = false :=
        (Bool.not_eq_true' _).mp unobserved
      have other : item.id hosts.codecs ≠ remote.id hosts.codecs := by
        intro same
        exact different (congrArg some same)
      refine wp_mono ?_ (offerItem_presents now supports.images supports.textChunks supports.enabled
        fresh lossless (passes item present other fresh))
      intro r t out presents
      have offered : Adopts hosts n d t remote out := .offered item present other fresh presents
      cases r with
      | error _ => exact offered
      | ok _ => exact offered
  · exact .took rfl rfl rfl rfl silent (.inr writes)
  · intro _ failed
    cases failed

theorem handleTextOffer_adopts {text : String} (lossless : hosts.codecs.Lossless) (supports : Supports hosts n d)
    (passes : ∀ item, d.clipboard = some item →
      item.id hosts.codecs ≠ (ClipboardItem.text text).id hosts.codecs →
      d.state.tracker.isObserved (some (item.id hosts.codecs)) = false →
      d.Passes hosts n item) :
    (handleTextOffer (hosts.host n) (d.system now) text).wp
      (fun _ t out => Adopts hosts n d t (.text text) out) d.state := by
  unfold handleTextOffer
  refine wp_seq (applyRemote_adopts lossless supports rfl rfl passes) (fun _ _ _ adopts => adopts) ?_
  intro applied t out adopts
  simp only [wp_bind, wp_read, wp_ite, wp_emit, wp_pure, List.nil_append]
  exact ⟨fun _ => adopts.append rfl rfl, fun _ => adopts.append rfl rfl⟩

/-- The desktop with another incoming transfer. -/
def Desktop.taking (d : Desktop) (incoming : IncomingClipboardTransfer) : Desktop :=
  { d with state := { d.state with incoming } }

/-- A frame of a transfer is taken in. -/
theorem takeIn_adopts {event : ClipboardEvent} {item : Option ClipboardItem}
    {next : IncomingClipboardTransfer} (lossless : hosts.codecs.Lossless) (supports : Supports hosts n d)
    (transfer : event.transferId.isSome = true)
    (taken : (hosts.host n).takes d.state.incoming.timeless event = some (item, next))
    (passes : ∀ remote, item = some remote → ∀ own, d.clipboard = some own →
      own.id hosts.codecs ≠ remote.id hosts.codecs →
      d.state.tracker.isObserved (some (own.id hosts.codecs)) = false →
      d.Passes hosts n own) :
    (takeIn (hosts.host n) (d.system now) event).wp (fun _ t out => ∃ incoming,
      incoming.timeless = next ∧
        (item = none ∧ t = (d.taking incoming).state ∧ out = [] ∨
          ∃ remote, item = some remote ∧ Adopts hosts n (d.taking incoming) t remote out))
      d.state := by
  have handled := (ClipboardHost.takes_handle transfer).mp taken
  rw [IncomingClipboardTransfer.handle_timeless now] at handled
  obtain ⟨received, timeless⟩ := Prod.mk.injEq .. ▸ handled
  unfold takeIn
  rw [wp_read_bind]
  have split : d.state.incoming.handle (hosts.host n).codecs event (hosts.host n).transferLimits
      (d.system now).now = (.ok item,
        (d.state.incoming.handle (hosts.host n).codecs event (hosts.host n).transferLimits now).2) :=
    Prod.ext received rfl
  rw [split]
  generalize (d.state.incoming.handle (hosts.host n).codecs event
    (hosts.host n).transferLimits now).2 = incoming at timeless
  have same : Supports hosts n (d.taking incoming) :=
    ⟨supports.images, supports.textChunks, supports.enabled⟩
  simp only [wp_bind, wp_update, List.nil_append]
  cases item with
  | none => exact ⟨incoming, timeless, .inl ⟨rfl, rfl, rfl⟩⟩
  | some remote =>
    cases remote with
    | image image =>
      refine wp_mono ?_ (applyRemote_adopts (d := d.taking incoming) lossless same rfl rfl
        (passes _ rfl))
      intro r t out adopts
      exact ⟨incoming, timeless, .inr ⟨_, rfl, adopts⟩⟩
    | text text =>
      refine wp_seq (handleTextOffer_adopts (d := d.taking incoming) lossless same (passes _ rfl)) ?_ ?_
      · intro e t out adopts
        exact ⟨incoming, timeless, .inr ⟨_, rfl, adopts⟩⟩
      · intro _ t out adopts
        exact ⟨incoming, timeless, .inr ⟨_, rfl, adopts.append rfl rfl⟩⟩

/-- Every frame that the end takes in. -/
theorem handleEvent_adopts (now : Nat) {event : ClipboardEvent} {item : Option ClipboardItem}
    {next : IncomingClipboardTransfer} (lossless : hosts.codecs.Lossless) (supports : Supports hosts n d)
    (idle : d.state.outgoing = none)
    (taken : (hosts.host n).takes d.state.incoming.timeless event = some (item, next))
    (passes : ∀ remote, item = some remote → ∀ own, d.clipboard = some own →
      own.id hosts.codecs ≠ remote.id hosts.codecs →
      d.state.tracker.isObserved (some (own.id hosts.codecs)) = false →
      d.Passes hosts n own) :
    (handleEvent (hosts.host n) (d.system now) event).wp (fun _ t out => ∃ incoming,
      incoming.timeless = next ∧
        (item = none ∧ t = (d.taking incoming).state ∧ out = [] ∨
          ∃ remote, item = some remote ∧ Adopts hosts n (d.taking incoming) t remote out))
      d.state := by
  have transfers (transfer : event.transferId.isSome = true) :
      (handleTransfer (hosts.host n) (d.system now) event).wp (fun _ t out => ∃ incoming,
        incoming.timeless = next ∧
          (item = none ∧ t = (d.taking incoming).state ∧ out = [] ∨
            ∃ remote, item = some remote ∧ Adopts hosts n (d.taking incoming) t remote out))
        d.state := by
    have supported : d.state.supports (hosts.host n) event = true := by
      cases event <;>
        simp [ReceiverClipboardState.supports, ClipboardEvent.isTextTransfer, supports.images,
          supports.textChunks, DesktopHosts.host, supports.enabled]
    unfold handleTransfer
    rw [wp_read_bind, if_neg, if_pos supported]
    · exact takeIn_adopts lossless supports transfer taken passes
    · rw [idle]
      cases event <;> simp
  cases event with
  | textOffer sequence text =>
    cases taken
    refine wp_seq (handleTextOffer_adopts lossless supports (passes _ rfl)) ?_ ?_
    · intro e t out adopts
      exact ⟨d.state.incoming, rfl, .inr ⟨_, rfl, adopts⟩⟩
    · intro _ t out adopts
      exact ⟨d.state.incoming, rfl, .inr ⟨_, rfl, adopts.append rfl rfl⟩⟩
  | textRequest | contentRequest => cases taken
  | imageStart | imageChunk | imageEnd | imageCancel | textStart | textChunk | textEnd =>
    exact transfers rfl

end Arriving

end EdgeKvm.Clipboard
