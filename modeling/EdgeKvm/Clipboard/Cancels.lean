import EdgeKvm.Clipboard.Exchange
import EdgeKvm.Clipboard.RoundTrip

/-!
# What a cancel reaches

Both sides number their transfers from one, and a cancel carries a number only. It reaches the
transfer it is about as long as no cancel arrives at a side that has another transfer of the same
number in the place where the code looks first.
-/

namespace EdgeKvm.Clipboard

open EdgeKvm.Lib Handler Machine ReceiverClipboardState

section Sent

variable {out out' : List ClipboardOutput} {event : ClipboardEvent}

theorem mem_sent : event ∈ sent out ↔ .send event ∈ out := by
  unfold sent
  rw [List.mem_filterMap]
  constructor
  · rintro ⟨output, member, carried⟩
    cases output <;> cases carried
    exact member
  · exact fun member => ⟨_, member, rfl⟩

theorem mem_transferFrames :
    event ∈ transferFrames out ↔ event ∈ sent out ∧ event.transferId.isSome = true := by
  rw [mem_sent]
  unfold transferFrames
  rw [List.mem_filterMap]
  constructor
  · rintro ⟨output, member, carried⟩
    cases output with
    | send sentEvent =>
      simp only [Option.ite_none_right_eq_some] at carried
      obtain ⟨transfer, same⟩ := carried
      cases same
      exact ⟨member, transfer⟩
    | _ => cases carried
  · rintro ⟨member, transfer⟩
    exact ⟨_, member, by simp [transfer]⟩

theorem transferId_of_isRejection (rejects : event.isRejection = true) :
    ∃ id reason, event = .imageCancel id reason ∧ reason ≠ .replaced := by
  cases event with
  | imageCancel id reason => exact ⟨id, reason, rfl, by simpa [ClipboardEvent.isRejection] using rejects⟩
  | _ => cases rejects

end Sent

/-! ## What a turn does -/

/-- What a turn does to the transfers of a peer, and what it sends about them. -/
structure Moves (host : ClipboardHost) (handled : Option ClipboardEvent)
    (s t : ReceiverClipboardState) (out : List ClipboardOutput) : Prop where
  outgoing :
    t.nextTransferId = s.nextTransferId ∧ (∀ {o}, t.outgoing = some o →
      ∃ o', s.outgoing = some o' ∧ o'.transferId = o.transferId) ∨
    t.nextTransferId = s.followingId ∧ ∃ o, t.outgoing = some o ∧ o.transferId = s.followingId
  incoming : ∀ {a}, t.incoming.active = some a →
    (∃ event, handled = some event ∧ (event.isStart && s.supports host event) = true ∧
      event.transferId = some a.transferId) ∨
    (∀ event, handled = some event → (event.isStart && s.supports host event) = false) ∧
      ∃ a', s.incoming.active = some a' ∧ a'.transferId = a.transferId
  frames : ∀ {event id}, event ∈ sent out → event.transferId = some id →
    event.isRejection = false ∧ (∃ o, s.outgoing = some o ∧ id = o.transferId) ∨
    event.isRejection = true ∧
      match handled with
      | some answered => answered.transferId = some id ∧ answered.isCancel = false
      | none => ∃ a, s.incoming.active = some a ∧ id = a.transferId
  /-- An outgoing transfer is given up openly. -/
  openly : handled.any (·.isCancel) = false → ∀ {o}, s.outgoing = some o →
    t.outgoing.isSome = true ∧ t.nextTransferId = s.nextTransferId ∨ o.isDone = true ∨
      (∃ event ∈ sent out, event.isEnd = true) ∨
      ∃ event ∈ sent out, event.isCancel = true ∧ event.isRejection = false

namespace Moves

variable {host : ClipboardHost} {system : ClipboardSystem} {handled : Option ClipboardEvent}
  {s t : ReceiverClipboardState} {out : List ClipboardOutput} {event : ClipboardEvent}

/-- What an offer sends is about the own transfer. -/
theorem cancels_about {id : UInt64} (cancel : event ∈ s.cancels)
    (carries : event.transferId = some id) :
    event.isCancel = true ∧ event.isRejection = false ∧
      ∃ o, s.outgoing = some o ∧ id = o.transferId := by
  unfold cancels at cancel
  cases active : s.outgoing with
  | none => simp [active] at cancel
  | some o =>
    simp only [active, Option.map_some, Option.toList_some, List.mem_singleton] at cancel
    subst cancel
    obtain rfl := Option.some.inj carries
    exact ⟨rfl, rfl, o, rfl, rfl⟩

theorem cancels_of_outgoing {o : OutgoingClipboardTransfer} (active : s.outgoing = some o) :
    o.cancelEvent .replaced ∈ s.cancels := by
  simp [cancels, active]

/-- An offer only sends about the own transfer. -/
theorem offers_frames {id : UInt64} (offers : Offers s t out) (member : event ∈ sent out)
    (carries : event.transferId = some id) :
    event.isRejection = false ∧ ∃ o, s.outgoing = some o ∧ id = o.transferId := by
  have listed : event ∈ transferFrames out := mem_transferFrames.mpr ⟨member, by simp [carries]⟩
  obtain ⟨silent, _⟩ | ⟨cancels, _⟩ | ⟨cancels, _⟩ := offers.outgoing
  · simp [silent] at listed
  · rw [cancels] at listed
    exact (cancels_about listed carries).2
  · rw [cancels] at listed
    exact (cancels_about listed carries).2

theorem offers_outgoing (offers : Offers s t out) :
    t.nextTransferId = s.nextTransferId ∧ (∀ {o}, t.outgoing = some o →
      ∃ o', s.outgoing = some o' ∧ o'.transferId = o.transferId) ∨
    t.nextTransferId = s.followingId ∧
      ∃ o, t.outgoing = some o ∧ o.transferId = s.followingId := by
  obtain ⟨_, same, next⟩ | ⟨_, gone, next⟩ | ⟨_, next, begun⟩ := offers.outgoing
  · exact .inl ⟨next, fun {o} active => ⟨o, by rw [← same]; exact active, rfl⟩⟩
  · exact .inl ⟨next, fun {o} active => by rw [gone] at active; cases active⟩
  · exact .inr ⟨next, begun⟩

/-- An offer keeps the outgoing transfer or gives it up with a cancel. -/
theorem offers_openly {o : OutgoingClipboardTransfer} (offers : Offers s t out)
    (active : s.outgoing = some o) :
    t.outgoing.isSome = true ∧ t.nextTransferId = s.nextTransferId ∨
      ∃ event ∈ sent out, event.isCancel = true ∧ event.isRejection = false := by
  have cancelled : transferFrames out = s.cancels →
      ∃ event ∈ sent out, event.isCancel = true ∧ event.isRejection = false := by
    intro cancels
    have listed := cancels_of_outgoing active
    rw [← cancels] at listed
    exact ⟨_, (mem_transferFrames.mp listed).1, rfl, rfl⟩
  obtain ⟨_, same, next⟩ | ⟨cancels, _⟩ | ⟨cancels, _⟩ := offers.outgoing
  · exact .inl ⟨by rw [same, active]; rfl, next⟩
  · exact .inr (cancelled cancels)
  · exact .inr (cancelled cancels)

theorem of_offers (offers : Offers s t out)
    (noStart : ∀ event, handled = some event → (event.isStart && s.supports host event) = false) :
    Moves host handled s t out where
  outgoing := offers_outgoing offers
  incoming {a} active := by
    rw [offers.incoming] at active
    exact .inr ⟨noStart, a, active, rfl⟩
  frames member carries := .inl (offers_frames offers member carries)
  openly _ _ active := by
    obtain kept | cancelled := offers_openly offers active
    · exact .inl kept
    · exact .inr (.inr (.inr cancelled))

theorem of_takes (noCancel : event.isCancel = false) (takes : Takes host event s t out) :
    Moves host (some event) s t out := by
  have incoming : ∀ {a}, t.incoming.active = some a →
      (∃ event', some event = some event' ∧ (event'.isStart && s.supports host event') = true ∧
        event'.transferId = some a.transferId) ∨
      (∀ event', some event = some event' →
        (event'.isStart && s.supports host event') = false) ∧
        ∃ a', s.incoming.active = some a' ∧ a'.transferId = a.transferId := by
    intro a active
    obtain ⟨starts, carries⟩ | ⟨goesOn, before⟩ := takes.incoming active
    · exact .inl ⟨event, rfl, starts, carries⟩
    · refine .inr ⟨fun event' same => ?_, before⟩
      cases same
      exact goesOn
  obtain offers | ⟨same, next, id, reason, carries, noReplace, sends⟩ := takes.answers
  · have outgoing := offers_outgoing offers
    refine ⟨outgoing, incoming, ?_, ?_⟩
    · intro sentEvent id member carries
      have own := offers_frames offers member carries
      exact .inl own
    · intro _ o active
      have openly := offers_openly offers active
      obtain kept | cancelled := openly
      · exact .inl kept
      · exact .inr (.inr (.inr cancelled))
  · refine ⟨.inl ⟨next, fun {o} active => ⟨o, by rw [← same]; exact active, rfl⟩⟩, incoming, ?_, ?_⟩
    · intro sentEvent id' member carries'
      have listed : sentEvent ∈ transferFrames out :=
        mem_transferFrames.mpr ⟨member, by simp [carries']⟩
      rw [sends, List.mem_singleton] at listed
      subst listed
      cases carries'
      exact .inr ⟨by simpa [ClipboardEvent.isRejection] using noReplace, carries, noCancel⟩
    · intro _ o active
      exact .inl ⟨by rw [same, active]; rfl, next⟩

/-- A frame other than a cancel. -/
theorem handleEvent (noCancel : event.isCancel = false) :
    (ReceiverClipboardState.handleEvent host system event).wp
      (fun _ t out => Moves host (some event) s t out) s := by
  have silent : event.isStart = false → ∀ other, some event = some other →
      (other.isStart && s.supports host other) = false := by
    intro noStart other same
    cases same
    simp [noStart]
  have transfer : ∀ id, event.transferId = some id →
      (handleTransfer host system event).wp (fun _ t out => Moves host (some event) s t out) s :=
    fun id carries => wp_mono (fun _ t out takes => of_takes noCancel takes)
      (handleTransfer_takes carries noCancel)
  cases event with
  | textOffer sequence text =>
    simp only [ReceiverClipboardState.handleEvent]
    refine wp_seq handleTextOffer_offers (fun _ _ _ offers => of_offers offers (silent rfl))
      fun _ _ _ offers => ?_
    exact of_offers (offers.append rfl) (silent rfl)
  | textRequest =>
    exact wp_mono (fun _ t out offers => of_offers offers (silent rfl)) sendLocalTextOffer_offers
  | contentRequest =>
    exact wp_mono (fun _ t out offers => of_offers offers (silent rfl)) sendLocalOffer_offers
  | imageCancel id reason => cases noCancel
  | imageStart id _ _ _ _ _ => exact transfer id rfl
  | imageChunk id _ _ => exact transfer id rfl
  | imageEnd id => exact transfer id rfl
  | textStart id _ _ _ => exact transfer id rfl
  | textChunk id _ _ => exact transfer id rfl
  | textEnd id => exact transfer id rfl

theorem offerItem {current : Option ClipboardItem} :
    (ReceiverClipboardState.offerItem host system current false).wp
      (fun _ t out => Moves host none s t out) s :=
  wp_mono (fun _ t out offers => of_offers offers (by simp)) offerItem_offers

theorem sendNext : sendNextImageFrame.wp (fun _ t out => Moves host none s t out) s := by
  refine wp_mono (fun _ t out spec => ?_) sendNextImageFrame_spec
  obtain ⟨incoming, next, turned⟩ := spec
  have incoming : ∀ {a}, t.incoming.active = some a →
      (∃ event, none = some event ∧ (event.isStart && s.supports host event) = true ∧
        event.transferId = some a.transferId) ∨
      (∀ event, none = some event → (event.isStart && s.supports host event) = false) ∧
        ∃ a', s.incoming.active = some a' ∧ a'.transferId = a.transferId := by
    intro a active
    rw [incoming] at active
    exact .inr ⟨by simp, a, active, rfl⟩
  obtain ⟨rfl, idle, rfl⟩ | ⟨transfer, active, ended | ⟨event, rfl, carries, noCancel, goesOn⟩⟩ :=
    turned
  · refine ⟨.inl ⟨rfl, fun {o} active => ⟨o, active, rfl⟩⟩, incoming, ?_, ?_⟩
    · intro event id member
      cases member
    · intro _ o active
      simp [idle] at active
  · obtain ⟨done, gone, rfl⟩ := ended
    refine ⟨.inl ⟨next, fun {o} active => by rw [gone] at active; cases active⟩, incoming, ?_, ?_⟩
    · intro event id member
      cases member
    · intro _ o active'
      rw [active] at active'
      cases active'
      exact .inr (.inl done)
  · refine ⟨.inl ⟨next, ?_⟩, incoming, ?_, ?_⟩
    · intro o active'
      obtain ⟨_, gone⟩ | same := goesOn
      · rw [gone] at active'
        cases active'
      · rw [same] at active'
        cases active'
        exact ⟨transfer, active, OutgoingClipboardTransfer.nextEvent_transferId.symm⟩
    · intro event' id member carries'
      obtain rfl : event' = event := by simpa [sent] using member
      rw [carries] at carries'
      cases carries'
      refine .inl ⟨?_, transfer, active, rfl⟩
      cases event' with
      | imageCancel id reason => cases noCancel
      | _ => rfl
    · intro _ o active'
      rw [active] at active'
      cases active'
      obtain ⟨ended, _⟩ | same := goesOn
      · exact .inr (.inr (.inl ⟨event, by simp [sent], ended⟩))
      · exact .inl ⟨by rw [same]; rfl, next⟩

theorem expire : (expireIncoming system).wp (fun _ t out => Moves host none s t out) s := by
  refine wp_mono (fun _ t out spec => ?_) expireIncoming_spec
  obtain ⟨outgoing, next, turned⟩ := spec
  have kept : ∀ {o}, s.outgoing = some o →
      t.outgoing.isSome = true ∧ t.nextTransferId = s.nextTransferId :=
    fun {o} active => ⟨by rw [outgoing, active]; rfl, next⟩
  have outgoing : ∀ {o}, t.outgoing = some o →
      ∃ o', s.outgoing = some o' ∧ o'.transferId = o.transferId :=
    fun {o} active => ⟨o, by rw [← outgoing]; exact active, rfl⟩
  obtain ⟨rfl, rfl⟩ | ⟨a, active, gone, rfl⟩ := turned
  · refine ⟨.inl ⟨next, outgoing⟩, fun {a} active => .inr ⟨by simp, a, active, rfl⟩, ?_, ?_⟩
    · intro event id member
      cases member
    · exact fun _ _ active => .inl (kept active)
  · refine ⟨.inl ⟨next, outgoing⟩, fun {a} active => (by rw [gone] at active; cases active), ?_, ?_⟩
    · intro event id member carries
      obtain rfl : event = .imageCancel a.transferId .timedOut := by simpa [sent] using member
      cases carries
      exact .inr ⟨rfl, a, active, rfl⟩
    · exact fun _ _ active => .inl (kept active)

end Moves

/-! ## Names and ids -/

/-- The frame with its id is about a transfer with that number: one of the side that receives it,
    which it rejects, or one of the side that sent it. -/
def Tagged.Fits (rejected : List Name) (n : Side) (frame : Tagged) : Prop :=
  ∀ id, frame.event.transferId = some id → ∃ name, frame.about = some name ∧
    name.number = id.toNat ∧
    if frame.event.isRejection then name.owner = n ∧ name ∈ rejected else name.owner = n.other

/-- The names of a peer's transfers belong to their ids. -/
structure ExchangePeer.Fits (n : Side) (p : ExchangePeer) : Prop where
  started : p.started = p.state.nextTransferId.toNat
  outgoing : ∀ {o}, p.state.outgoing = some o → o.transferId = p.state.nextTransferId
  taking : ∀ {a}, p.state.incoming.active = some a → ∃ name, p.taking = some name ∧
    name.number = a.transferId.toNat ∧ name.owner = n.other

/-- Names and ids belong together, and every ending was a proper one. -/
structure Exchange.Fits (w : Exchange) : Prop where
  peer : ∀ n, (w.peer n).Fits n
  link : ∀ n, ∀ frame ∈ w.link n, frame.Fits w.rejected n
  endings : ∀ ending ∈ w.endings, ending.Proper w.rejected

theorem Tagged.Fits.mono {rejected rejected' : List Name} {n : Side} {frame : Tagged}
    (fits : frame.Fits rejected n) (more : ∀ name ∈ rejected, name ∈ rejected') :
    frame.Fits rejected' n := by
  intro id carries
  obtain ⟨name, about, number, owner⟩ := fits id carries
  refine ⟨name, about, number, ?_⟩
  by_cases rejects : frame.event.isRejection = true
  · rw [if_pos rejects] at owner ⊢
    exact ⟨owner.1, more _ owner.2⟩
  · rw [if_neg rejects] at owner ⊢
    exact owner

theorem Ending.Proper.mono {rejected rejected' : List Name} {ending : Ending}
    (proper : ending.Proper rejected) (more : ∀ name ∈ rejected, name ∈ rejected') :
    ending.Proper rejected' := by
  cases ending with
  | incoming side ended named => exact proper
  | outgoing ended cause =>
    cases cause with
    | cancelled named => exact ⟨proper.1, more _ proper.2⟩
    | _ => exact proper

/-! ## When a cancel is not ambiguous -/

/-- A cancel of the peer's own transfer does not carry the id of the outgoing one, and the cancel
    of a transfer that is not outgoing any more does not carry the id of the incoming one. -/
def ReceiverClipboardState.unambiguous (s : ReceiverClipboardState) : ClipboardEvent → Bool
  | .imageCancel id reason =>
    if reason = .replaced then !(s.outgoing.any (·.transferId = id))
    else s.outgoing.any (·.transferId = id) || !(s.incoming.active.any (·.transferId = id))
  | _ => true

/-- The ids of a side have not come round, and no ambiguous cancel arrives. -/
def Exchange.clear (w : Exchange) : Side × ExchangeAction → Bool
  | (n, .deliver _) =>
    (w.peer n).state.nextTransferId + 1 ≠ 0 &&
      (w.link n).head?.all fun frame => (w.peer n).state.unambiguous frame.event
  | (n, _) => (w.peer n).state.nextTransferId + 1 ≠ 0

section Turn

variable {host : ClipboardHost} {w : Exchange} {n : Side} {p : ExchangePeer}
  {handled : Option Tagged} {t : ReceiverClipboardState} {out : List ClipboardOutput}
  {rejected : List Name}

theorem toNat_followingId {s : ReceiverClipboardState} (fresh : s.nextTransferId + 1 ≠ 0) :
    s.followingId.toNat = s.nextTransferId.toNat + 1 ∧ s.followingId ≠ s.nextTransferId := by
  have below : s.nextTransferId.toNat + 1 < UInt64.size := by
    by_contra last
    apply fresh
    have bound := s.nextTransferId.toNat_lt
    have same : s.nextTransferId.toNat = UInt64.size - 1 := by
      simp only [UInt64.size] at *
      omega
    apply UInt64.toNat_inj.mp
    rw [UInt64.toNat_add, same]
    rfl
  have number : s.followingId.toNat = s.nextTransferId.toNat + 1 := by
    rw [followingId, if_neg fresh, UInt64.toNat_add]
    exact Nat.mod_eq_of_lt below
  refine ⟨number, fun same => ?_⟩
  rw [same] at number
  omega

namespace ExchangePeer.Fits

theorem after (fits : p.Fits n) (fresh : p.state.nextTransferId + 1 ≠ 0)
    (moves : Moves host (handled.map (·.event)) p.state t out)
    (frame : ∀ frame, handled = some frame → frame.Fits rejected n) :
    (p.after handled host t).Fits n where
  started := by
    obtain ⟨number, ne⟩ := toNat_followingId fresh
    obtain ⟨same, _⟩ | ⟨next, _⟩ := moves.outgoing
    · simpa [ExchangePeer.after, same] using fits.started
    · simp [ExchangePeer.after, next, ne, number, fits.started]
  outgoing {o} active := by
    change t.outgoing = some o at active
    change o.transferId = t.nextTransferId
    obtain ⟨same, before⟩ | ⟨next, o', begun, id⟩ := moves.outgoing
    · obtain ⟨o', active', id⟩ := before active
      rw [same, ← id]
      exact fits.outgoing active'
    · rw [begun] at active
      cases active
      rw [next, id]
  taking {a} active := by
    change t.incoming.active = some a at active
    change ∃ name, p.takes handled host t = some name ∧ _
    have some_ : t.incoming.active.isNone = false := by rw [active]; rfl
    cases handled with
    | none =>
      obtain ⟨event, absent, _⟩ | ⟨_, a', before, id⟩ := moves.incoming active
      · cases absent
      · rw [← id]
        simpa [ExchangePeer.takes, some_] using fits.taking before
    | some tagged =>
      obtain ⟨event, same, starts, carries⟩ | ⟨goesOn, a', before, id⟩ := moves.incoming active
      · cases same
        obtain ⟨name, about, number, owner⟩ := frame tagged rfl _ carries
        have noRejection : tagged.event.isRejection = false := by
          cases event : tagged.event with
          | imageCancel id reason => simp [event, ClipboardEvent.isStart] at starts
          | _ => rfl
        rw [noRejection] at owner
        refine ⟨name, ?_, number, owner⟩
        simp [ExchangePeer.takes, some_, starts, about]
      · rw [← id]
        have goesOn := goesOn tagged.event rfl
        simpa [ExchangePeer.takes, some_, goesOn] using fits.taking before

/-- What the peer sends fits. -/
theorem about (fits : p.Fits n) (moves : Moves host (handled.map (·.event)) p.state t out)
    (frame : ∀ frame, handled = some frame → frame.Fits rejected n) {event : ClipboardEvent}
    (member : event ∈ sent out)
    (noted : ∀ name, event.isRejection = true → p.about n handled event = some name →
      name ∈ rejected) :
    Tagged.Fits rejected n.other ⟨event, p.about n handled event⟩ := by
  intro id carries
  obtain ⟨own, o, active, rfl⟩ | ⟨rejects, answered⟩ := moves.frames member carries
  · refine ⟨⟨n, p.started⟩, ?_, ?_, ?_⟩
    · cases event with
      | imageCancel id reason =>
        obtain rfl : reason = .replaced := by simpa [ClipboardEvent.isRejection] using own
        rfl
      | textOffer => cases carries
      | textRequest => cases carries
      | contentRequest => cases carries
      | _ => rfl
    · rw [fits.started, fits.outgoing active]
    · rw [own]
      simp
  · obtain ⟨id', reason, rfl, noReplace⟩ := transferId_of_isRejection rejects
    cases carries
    have owned : ∀ name, p.about n handled (.imageCancel id reason) = some name →
        name.number = id.toNat → name.owner = n.other →
        ∃ name, p.about n handled (.imageCancel id reason) = some name ∧
          name.number = id.toNat ∧
          if ClipboardEvent.isRejection (.imageCancel id reason) then
            name.owner = n.other ∧ name ∈ rejected
          else name.owner = n.other.other := by
      intro name about number owner
      refine ⟨name, about, number, ?_⟩
      rw [rejects]
      exact ⟨owner, noted name rejects about⟩
    cases handled with
    | none =>
      obtain ⟨a, active, rfl⟩ := answered
      obtain ⟨name, taking, number, owner⟩ := fits.taking active
      refine owned name ?_ number owner
      cases reason <;> first | exact absurd rfl noReplace | exact taking
    | some tagged =>
      obtain ⟨carries, noCancel⟩ := answered
      obtain ⟨name, about, number, owner⟩ := frame tagged rfl _ carries
      have noRejection : tagged.event.isRejection = false := by
        cases event : tagged.event with
        | imageCancel id reason => simp [event, ClipboardEvent.isCancel] at noCancel
        | _ => rfl
      rw [noRejection] at owner
      refine owned name ?_ number owner
      cases reason <;> first | exact absurd rfl noReplace | exact about

end ExchangePeer.Fits

end Turn

/-! ## Runs -/

namespace Exchange.Fits

variable {host : ClipboardHost} {w : Exchange} {n : Side} {handled : Option Tagged}
  {call : ClipboardM Bool} {rest : List Tagged} {frame : Tagged}

theorem start (initial : w.Initial) : w.Fits where
  peer n :=
    { started := by rw [initial.started, initial.nextTransferId]; rfl
      outgoing := by simp [initial.outgoing]
      taking := by simp [initial.incoming] }
  link n frame member := by simp [initial.link] at member
  endings ending member := by simp [initial.endings] at member

theorem pop (fits : w.Fits) (queue : w.link n = frame :: rest) : (w.pop n rest).Fits where
  peer := fits.peer
  link m tagged member := by
    by_cases same : m = n
    · subst same
      refine fits.link m tagged ?_
      rw [queue]
      exact List.mem_cons_of_mem _ (by simpa [Exchange.pop] using member)
    · exact fits.link m tagged (by simpa [Exchange.pop, same] using member)
  endings := fits.endings

/-- A turn whose moves are known and whose endings are proper. -/
theorem turn (fits : w.Fits) (fresh : (w.peer n).state.nextTransferId + 1 ≠ 0)
    (tagged : ∀ frame, handled = some frame → frame.Fits w.rejected n)
    (moves : Moves host (handled.map (·.event)) (w.peer n).state (call (w.peer n).state).state
      (call (w.peer n).state).output)
    (proper : ∀ ending ∈ (w.peer n).endings n handled (call (w.peer n).state).state
      (call (w.peer n).state).output, ending.Proper w.rejected) :
    (w.turn host n handled call).Fits := by
  have more : ∀ name ∈ w.rejected, name ∈ (w.turn host n handled call).rejected :=
    fun name member => List.mem_append_left _ member
  refine ⟨?_, ?_, ?_⟩
  · refine Side.forall_of_other n ?_ ?_
    · simpa [Exchange.turn] using (fits.peer n).after fresh moves tagged
    · simpa [Exchange.turn] using fits.peer n.other
  · refine Side.forall_of_other n ?_ ?_
    · intro frame member
      exact (fits.link n frame (by simpa [Exchange.turn] using member)).mono more
    · intro frame member
      simp only [Exchange.turn, Function.update_self, List.mem_append, List.mem_map] at member
      obtain old | ⟨event, new, rfl⟩ := member
      · exact (fits.link n.other frame old).mono more
      · refine (fits.peer n).about moves (fun f same => (tagged f same).mono more) new ?_
        intro name rejects about
        refine List.mem_append_right _ (List.mem_filterMap.mpr ⟨event, ?_, about⟩)
        exact List.mem_filter.mpr ⟨new, rejects⟩
  · intro ending member
    obtain old | new := List.mem_append.mp member
    · exact (fits.endings ending old).mono more
    · exact (proper ending new).mono more

/-- Without a cancel to handle, an outgoing transfer ends completed or replaced. -/
theorem proper_of_moves {p : ExchangePeer} {t : ReceiverClipboardState}
    {out : List ClipboardOutput} {rejected : List Name}
    (moves : Moves host (handled.map (·.event)) p.state t out)
    (noCancel : handled.any (·.event.isCancel) = false) :
    ∀ ending ∈ p.endings n handled t out, ending.Proper rejected := by
  intro ending member
  simp only [ExchangePeer.endings, noCancel, Bool.false_and, Bool.false_eq_true, if_false,
    List.append_nil] at member
  split at member
  next ended =>
    obtain rfl := List.mem_singleton.mp member
    rw [Bool.and_eq_true] at ended
    obtain ⟨o, active⟩ := Option.isSome_iff_exists.mp ended.1
    have openly := moves.openly (by simpa [Option.any_map] using noCancel) active
    have notLost : p.cause handled out ≠ .lost ∧ ∀ named, p.cause handled out ≠ .cancelled named := by
      unfold ExchangePeer.cause
      rw [if_neg (by simp [noCancel])]
      split
      · simp
      next going =>
        split
        · simp
        next silent =>
          exfalso
          simp only [active, Option.any_some, Bool.or_eq_true, List.any_eq_true, not_or,
            not_exists, not_and] at going
          obtain kept | done | ⟨event, sends, ended⟩ | ⟨event, sends, cancel, own⟩ := openly
          · simp [kept] at ended
          · exact going.1 done
          · exact going.2 event sends ended
          · apply silent
            rw [List.any_eq_true]
            exact ⟨event, sends, by simp [cancel, own]⟩
    cases cause : p.cause handled out with
    | completed => simp [Ending.Proper]
    | replaced => simp [Ending.Proper]
    | cancelled named => exact absurd cause (notLost.2 named)
    | lost => exact absurd cause notLost.1
  next => cases member

/-- What a cancel does, and that what it ends is the transfer it is about. -/
theorem cancel {p : ExchangePeer} {id : UInt64} {reason : ClipboardCancelReason}
    {about : Option Name} {rejected : List Name} {system : ClipboardSystem}
    (fits : p.Fits n) (tagged : Tagged.Fits rejected n ⟨.imageCancel id reason, about⟩)
    (unambiguous : p.state.unambiguous (.imageCancel id reason) = true) :
    Moves host (some (.imageCancel id reason)) p.state
        (handleTransfer host system (.imageCancel id reason) p.state).state
        (handleTransfer host system (.imageCancel id reason) p.state).output ∧
      ∀ ending ∈ p.endings n (some ⟨.imageCancel id reason, about⟩)
        (handleTransfer host system (.imageCancel id reason) p.state).state
        (handleTransfer host system (.imageCancel id reason) p.state).output,
        ending.Proper rejected := by
  obtain ⟨output, state⟩ := @handleTransfer_cancel host system p.state id reason
  obtain ⟨name, names, number, owner⟩ := tagged id rfl
  rw [output, state]
  by_cases outgoing : p.state.outgoing.any (·.transferId = id) = true
  · rw [if_pos outgoing]
    obtain ⟨o, active, same⟩ : ∃ o, p.state.outgoing = some o ∧ o.transferId = id := by
      simpa [Option.any_eq_true] using outgoing
    -- A cancel that comes here is an answer of the peer.
    have rejects : reason ≠ .replaced := by
      rintro rfl
      simp [ReceiverClipboardState.unambiguous, outgoing] at unambiguous
    rw [if_pos (by simpa [ClipboardEvent.isRejection] using rejects)] at owner
    constructor
    · refine ⟨.inl ⟨rfl, by simp⟩, ?_, ?_, ?_⟩
      · intro a active
        refine .inr ⟨fun event same => ?_, a, active, rfl⟩
        cases same
        rfl
      · intro event id' member
        cases member
      · intro noCancel
        cases noCancel
    · intro ending member
      have named : name = ⟨n, p.started⟩ := by
        have counted : name.number = p.started := by
          rw [number, fits.started, ← fits.outgoing active, same]
        obtain ⟨owner, _⟩ := owner
        cases name
        simp_all
      obtain rfl : ending = .outgoing ⟨n, p.started⟩ (.cancelled about) := by
        cases taken : p.state.incoming.active <;>
          simpa [ExchangePeer.endings, ExchangePeer.cause, ClipboardEvent.isCancel, active, taken]
            using member
      refine ⟨?_, ?_⟩
      · rw [← named]
        exact names
      · rw [← named]
        exact owner.2
  · rw [if_neg outgoing]
    constructor
    · refine ⟨.inl ⟨rfl, fun {o} active => ⟨o, active, rfl⟩⟩, ?_, ?_, ?_⟩
      · intro a active
        refine .inr ⟨fun event same => ?_, a, ?_, rfl⟩
        · cases same
          rfl
        · dsimp only at active
          split at active
          · cases active
          · exact active
      · intro event id' member
        cases member
      · intro noCancel
        cases noCancel
    · intro ending member
      by_cases incoming : p.state.incoming.active.any (·.transferId = id) = true
      · obtain ⟨a, active, same⟩ : ∃ a, p.state.incoming.active = some a ∧ a.transferId = id := by
          simpa [Option.any_eq_true] using incoming
        -- A cancel that comes here is about the peer's own transfer.
        have replaces : reason = .replaced := by
          by_contra rejects
          simp [ReceiverClipboardState.unambiguous, rejects, outgoing, incoming] at unambiguous
        rw [if_neg (by simp [ClipboardEvent.isRejection, replaces])] at owner
        obtain ⟨name', taking, number', owner'⟩ := fits.taking active
        have named : name' = name := by
          rw [same] at number'
          cases name
          cases name'
          simp_all
        obtain rfl : ending = .incoming n p.taking about := by
          cases held : p.state.outgoing <;>
            simpa [ExchangePeer.endings, ClipboardEvent.isCancel, active, same, held] using member
        exact ⟨name, by rw [taking, named], names, owner⟩
      · exfalso
        cases held : p.state.outgoing <;> cases taken : p.state.incoming.active <;>
          simp_all [ExchangePeer.endings, ClipboardEvent.isCancel]

theorem exec {action : ExchangeAction} {w' : Exchange} (fits : w.Fits)
    (clear : w.clear (n, action) = true) (executed : w.exec host n action = some w') :
    w'.Fits := by
  have fresh : (w.peer n).state.nextTransferId + 1 ≠ 0 := by
    cases action <;> simp_all [Exchange.clear]
  have own : ∀ {call : ClipboardM Bool},
      call.wp (fun _ t out => Moves host none (w.peer n).state t out) (w.peer n).state →
      (w.turn host n none call).Fits := by
    intro call moves
    exact fits.turn fresh (by simp) moves (proper_of_moves moves rfl)
  cases action with
  | deliver system =>
    simp only [Exchange.exec] at executed
    cases queue : w.link n with
    | nil => simp [queue] at executed
    | cons frame rest =>
      simp only [queue] at executed
      cases executed
      have tagged : frame.Fits w.rejected n := fits.link n frame (by simp [queue])
      have fits := fits.pop queue
      have taken : ∀ f, some frame = some f → f.Fits (w.pop n rest).rejected n := by
        intro f same
        cases same
        exact tagged
      cases cancel : frame.event.isCancel with
      | false =>
        have moves : Moves host (some frame.event) _ _ _ :=
          @Moves.handleEvent host system (w.peer n).state frame.event cancel
        exact fits.turn fresh taken moves (proper_of_moves moves cancel)
      | true =>
        obtain ⟨event, about⟩ := frame
        cases event with
        | imageCancel id reason =>
          have unambiguous : (w.peer n).state.unambiguous (.imageCancel id reason) = true := by
            simp only [Exchange.clear, queue, Bool.and_eq_true] at clear
            simpa using clear.2
          obtain ⟨moves, proper⟩ :=
            @Exchange.Fits.cancel host n _ _ _ _ _ system (fits.peer n) tagged unambiguous
          exact fits.turn fresh taken moves proper
        | _ => cases cancel
  | ignore =>
    simp only [Exchange.exec] at executed
    cases queue : w.link n with
    | nil => simp [queue] at executed
    | cons frame rest =>
      simp only [queue] at executed
      cases executed
      exact fits.pop queue
  | offer system current =>
    cases executed
    exact own Moves.offerItem
  | sendNext =>
    cases executed
    exact own Moves.sendNext
  | expire system =>
    cases executed
    exact own Moves.expire

end Exchange.Fits

/-- In every run in which no ambiguous cancel arrives, a cancel only ends the transfer it is about,
    and an outgoing transfer ends completed, replaced, or rejected by the peer. -/
theorem cancel_reaches_its_transfer (host : ClipboardHost) {w₀ w : Exchange}
    (initial : w₀.Initial)
    (run : (Exchange.machine host).Run (fun w action => w.clear action = true) w₀ w) :
    ∀ ending ∈ w.endings, ending.Proper w.rejected := by
  have fits : w.Fits :=
    run.invariant (I := Exchange.Fits)
      (fun _ _ _ clear executed fits => Exchange.Fits.exec fits clear executed) (.start initial)
  exact fits.endings

/-! ## Two transfers with one number -/

/-- SHA-256 for two texts. -/
def twoTexts : Codecs :=
  { sampleCodecs with
    sha256 bytes :=
      if bytes = [104, 111] then
        #v[168, 33, 198, 46, 129, 4, 248, 81, 157, 99, 155, 76, 9, 72, 174, 206, 100, 27, 20,
        63, 102, 1, 250, 20, 89, 147, 187, 46, 44, 114, 153, 212]
      else sampleCodecs.sha256 bytes }

/-- A host for which no text fits one frame. -/
def sampleHost : ClipboardHost where
  codecs := twoTexts
  config := { imagesEnabled := true, maxImageBytes := 64, maxBytes := 64 }
  fitsSecureFrame _ := false

/-- Two new sessions with peers that take in chunked text. -/
def newExchange : Exchange where
  peer _ := { state := { peer := { images := true, textChunks := true } } }

theorem newExchange_initial : newExchange.Initial :=
  ⟨fun _ => rfl, fun _ => rfl, fun _ => rfl, fun _ => rfl, fun _ => rfl, rfl⟩

/-- What a call finds when the clipboard holds the text. -/
def holding (text : String) : ClipboardSystem where
  current := .ok (some (.text text))
  currentText := .ok (some text)

def copy (n : Side) (text : String) : Side × ExchangeAction :=
  (n, .offer (holding text) (some (.text text)))

/-- One side copies twice and sends the start of its second transfer; the other side takes in the
    cancel of the first. -/
def replacedOnce : List (Side × ExchangeAction) :=
  [copy .first "hi", (.first, .sendNext), (.second, .deliver (holding "")), copy .first "ho",
    (.second, .deliver (holding ""))]

theorem cancel_reaches_its_transfer_replaced :
    Ending.Proper ((Exchange.machine sampleHost).reach newExchange replacedOnce).rejected
      (.incoming .second (some ⟨.first, 1⟩) (some ⟨.first, 1⟩)) :=
  cancel_reaches_its_transfer sampleHost newExchange_initial
    (run_reach_of_allowedList Exchange.clear (fun _ _ clear => clear) replacedOnce
      (by decide +kernel) (by decide +kernel))
    (.incoming .second (some ⟨.first, 1⟩) (some ⟨.first, 1⟩)) (by decide +kernel)

/-- Both sides copy, and one of them copies again. -/
def crossedCopies : List (Side × ExchangeAction) :=
  [copy .first "hi", copy .second "hi", copy .first "ho", (.second, .deliver (holding "hi"))]

theorem crossedCopies_endings :
    ((Exchange.machine sampleHost).reach newExchange crossedCopies).endings =
      [.outgoing ⟨.first, 1⟩ .replaced,
        .outgoing ⟨.second, 1⟩ (.cancelled (some ⟨.first, 1⟩))] := by decide +kernel

/-- The cancel of the first side's replaced transfer drops the outgoing one of the second side. -/
theorem cancel_reaches_another : ¬ ∀ (host : ClipboardHost) (w₀ w : Exchange), w₀.Initial →
    (Exchange.machine host).Run anyAction w₀ w →
    ∀ ending ∈ w.endings, ending.Proper w.rejected := by
  intro claimed
  have proper := claimed sampleHost newExchange _ newExchange_initial
    (run_reach crossedCopies (by decide +kernel))
    (.outgoing ⟨.second, 1⟩ (.cancelled (some ⟨.first, 1⟩)))
    (by rw [crossedCopies_endings]; decide)
  exact absurd proper.1 (by decide)

end EdgeKvm.Clipboard
