import EdgeKvm.Clipboard.Desktops

/-!
# Streams between desktops

What is on its way from one end to the other is the frames on the link and those the outgoing
transfer has still to send. A stream that flows brings its items, and the last of them is what the
sender has observed last.
-/

namespace EdgeKvm.Clipboard

open EdgeKvm.Lib Handler

/-! ## Receiving without times -/

namespace IncomingClipboardTransfer

variable {codecs : Codecs} {limits : TransferLimits} {t : IncomingClipboardTransfer}
  {event : ClipboardEvent} {now total max : Nat} {id : UInt64} {kind : IncomingKind}
  {digest : Digest} {text : Bool} {offset : UInt32} {bytes : List UInt8}

theorem start_timeless : t.timeless.start 0 id kind total max digest =
    ((t.start now id kind total max digest).1, (t.start now id kind total max digest).2.timeless) := by
  unfold start
  split <;> rfl

theorem chunk_timeless : t.timeless.chunk 0 id text offset bytes =
    ((t.chunk now id text offset bytes).1, (t.chunk now id text offset bytes).2.timeless) := by
  unfold chunk
  cases active : t.active with
  | none => simp [timeless, active]
  | some state =>
    simp only [timeless, active, Option.map_some, IncomingState.extend]
    split
    · simp [active]
    · split
      · simp [active]
      · split
        · simp [active]
        · rfl

theorem finish_timeless : t.timeless.finish codecs id text limits =
    ((t.finish codecs id text limits).1, (t.finish codecs id text limits).2.timeless) := by
  unfold finish
  cases active : t.active with
  | none => simp [timeless, active]
  | some state =>
    simp only [timeless, active, Option.map_some]
    split <;> rfl

/-- The times of the frames only matter to the expiry. -/
theorem handle_timeless (now : Nat) : t.timeless.handle codecs event limits 0 =
    ((t.handle codecs event limits now).1, (t.handle codecs event limits now).2.timeless) := by
  cases event with
  | textOffer | textRequest | contentRequest => rfl
  | imageStart id sequence width height totalBytes contentSha256 =>
    simp only [handle]
    cases imageDimensions width height with
    | error error => rfl
    | ok u => exact start_timeless
  | textStart => exact start_timeless
  | imageChunk | textChunk => exact chunk_timeless
  | imageEnd | textEnd => exact finish_timeless
  | imageCancel id reason =>
    have same : (t.timeless.active.any fun state => state.transferId = id) =
        t.active.any fun state => state.transferId = id := by
      simp only [timeless]
      cases t.active <;> rfl
    simp only [handle, same]
    split <;> rfl

theorem timeless_eq_empty (gone : t.timeless = {}) : t.active = none := by
  have none : t.timeless.active = none := by rw [gone]
  simpa [timeless] using none

end IncomingClipboardTransfer

/-- An end frame is the last one. -/
theorem OutgoingClipboardTransfer.done_of_end {t later : OutgoingClipboardTransfer}
    {event : ClipboardEvent} (next : t.nextEvent = (some event, later))
    (ended : event.isEnd = true) : later.stage = .done := by
  have others : t.startEvent.isEnd = false ∧ ∀ bytes, (t.chunkEvent bytes).isEnd = false := by
    unfold startEvent chunkEvent
    cases t.payload <;> exact ⟨rfl, fun _ => rfl⟩
  unfold nextEvent at next
  split at next
  · cases next
    rw [others.1] at ended
    cases ended
  · split at next
    · cases next
      rfl
    · cases next
      rw [others.2] at ended
      cases ended
  · cases next
    rfl
  · cases next

/-! ## The items of a stream -/

namespace ClipboardHost

variable {host : ClipboardHost} {incoming middle last : IncomingClipboardTransfer}
  {events more : List ClipboardEvent} {items : List ClipboardItem} {event : ClipboardEvent}
  {item : Option ClipboardItem}

theorem receive_append : host.receive incoming (events ++ more) =
    (host.receive incoming events).bind fun (items, middle) =>
      (host.receive middle more).map fun (others, last) => (items ++ others, last) := by
  induction events generalizing incoming with
  | nil =>
    simp only [List.nil_append, receive, Option.bind_some]
    cases host.receive incoming more <;> rfl
  | cons event events ih =>
    simp only [List.cons_append, receive, ih]
    cases host.takes incoming event with
    | none => rfl
    | some taken =>
      simp only [Option.bind_some]
      cases host.receive taken.2 events with
      | none => rfl
      | some brought =>
        simp only [Option.bind_some, Option.map_some]
        cases host.receive brought.2 more <;> simp

/-- What is added goes on behind what is there. -/
theorem receive_add (first : host.receive incoming events = some (items, middle))
    {others : List ClipboardItem} (rest : host.receive middle more = some (others, last)) :
    host.receive incoming (events ++ more) = some (items ++ others, last) := by
  simp [receive_append, first, rest]

theorem receive_single (taken : host.takes incoming event = some (item, last)) :
    host.receive incoming [event] = some (item.toList, last) := by
  simp [receive, taken]

theorem receive_cons (received : host.receive incoming (event :: events) = some (items, last)) :
    ∃ item next others, host.takes incoming event = some (item, next) ∧
      host.receive next events = some (others, last) ∧ items = item.toList ++ others := by
  simp only [receive, Option.bind_eq_some_iff, Option.map_eq_some_iff] at received
  obtain ⟨⟨item, next⟩, taken, ⟨others, behind⟩, rest, same⟩ := received
  cases same
  exact ⟨item, next, others, taken, rest, rfl⟩

/-- A frame that completes an item. -/
def completes : ClipboardEvent → Bool
  | .textOffer .. | .textEnd _ | .imageEnd _ => true
  | _ => false

theorem completes_transfer {id : UInt64} (carried : event.transferId = some id) :
    completes event = event.isEnd := by
  cases event with
  | textOffer => cases carried
  | _ => rfl

theorem finish_some {codecs : Codecs} {limits : TransferLimits} {id : UInt64} {text : Bool}
    {next : IncomingClipboardTransfer}
    (ended : incoming.finish codecs id text limits = (.ok item, next)) :
    item.isSome = true ∧ next = {} := by
  unfold IncomingClipboardTransfer.finish at ended
  split at ended
  · cases ended
  · split at ended
    · cases ended
    · rename_i state active matching
      cases made : state.item codecs limits with
      | error error => simp [made, Except.map] at ended
      | ok made' =>
        simp only [made, Except.map, Prod.mk.injEq, Except.ok.injEq] at ended
        obtain ⟨rfl, rfl⟩ := ended
        exact ⟨rfl, rfl⟩

theorem takes_handle {next : IncomingClipboardTransfer} (transfer : event.transferId.isSome = true) :
    host.takes incoming event = some (item, next) ↔
      incoming.handle host.codecs event host.transferLimits 0 = (.ok item, next) := by
  cases event with
  | textOffer | textRequest | contentRequest => cases transfer
  | _ =>
    simp only [takes]
    split
    · rename_i taken
      rw [taken]
      simp
    · rename_i failed
      rw [failed]
      simp

theorem takes_completes (complete : completes event = true)
    (taken : host.takes incoming event = some (item, last)) : item.isSome = true := by
  cases event with
  | textOffer =>
    cases taken
    rfl
  | textEnd | imageEnd => exact (finish_some ((takes_handle rfl).mp taken)).1
  | _ => cases complete

theorem takes_cancel {id : UInt64} {reason : ClipboardCancelReason}
    (own : incoming.active.all (·.transferId = id)) :
    host.takes incoming (.imageCancel id reason) = some (none, {}) := by
  rw [takes_handle rfl]
  cases incoming with
  | mk active => cases active with
    | none => simp [IncomingClipboardTransfer.handle]
    | some state => simpa [IncomingClipboardTransfer.handle] using own

/-- The frames of a transfer keep the receiver at it. -/
theorem takes_own {id : UInt64} (carried : event.transferId = some id)
    (own : incoming.active.all (·.transferId = id))
    (taken : host.takes incoming event = some (item, last)) :
    last.active.all (·.transferId = id) = true := by
  have handled := (takes_handle (by rw [carried]; rfl)).mp taken
  cases active : last.active with
  | none => rfl
  | some state =>
    have source := @IncomingClipboardTransfer.handle_active host.codecs incoming event
      host.transferLimits 0 item state (by rw [handled]) (by rw [handled]; exact active)
    obtain ⟨-, named⟩ | ⟨-, before, was, same⟩ := source
    · rw [carried] at named
      simpa using (Option.some.inj named).symm
    · rw [was] at own
      simpa [same] using own

/-- A stream whose last frame completes an item brings one. -/
theorem receive_completes (complete : ∃ e, events.getLast? = some e ∧ completes e = true)
    (received : host.receive incoming events = some (items, last)) : items ≠ [] := by
  obtain ⟨e, final, complete⟩ := complete
  obtain ⟨front, rfl⟩ := List.getLast?_eq_some_iff.mp final
  rw [receive_append] at received
  obtain ⟨⟨first, middle⟩, -, more⟩ := Option.bind_eq_some_iff.mp received
  obtain ⟨⟨others, behind⟩, ended, same⟩ := Option.map_eq_some_iff.mp more
  cases same
  obtain ⟨item, next, rest, taken, -, rfl⟩ := receive_cons ended
  obtain ⟨made, rfl⟩ := Option.isSome_iff_exists.mp (takes_completes complete taken)
  simp

end ClipboardHost

/-! ## A transfer that arrives -/

theorem OutgoingClipboardTransfer.carries {t : OutgoingClipboardTransfer} :
    t.startEvent.transferId.isSome = true ∧ t.endEvent.transferId.isSome = true ∧
      ∀ chunks offset, ∀ event ∈ t.chunkEvents offset chunks, event.transferId.isSome = true := by
  unfold startEvent endEvent
  refine ⟨by cases t.payload <;> rfl, by cases t.payload <;> rfl, ?_⟩
  intro chunks
  induction chunks with
  | nil =>
    intro offset event none
    cases none
  | cons bytes chunks ih =>
    intro offset event member
    rcases List.mem_cons.mp member with rfl | member
    · unfold chunkEvent
      cases t.payload <;> rfl
    · exact ih _ event member

namespace ClipboardHost

variable {host : ClipboardHost} {item : ClipboardItem}

/-- Frames that complete nothing. -/
theorem receive_of_handleAll : ∀ {events : List ClipboardEvent} {t last : IncomingClipboardTransfer},
    (∀ event ∈ events, event.transferId.isSome = true) →
    t.handleAll host.codecs host.transferLimits (events.map fun event => (event, 0)) =
      (List.replicate events.length (.ok none), last) → host.receive t events = some ([], last) := by
  intro events
  induction events with
  | nil =>
    intro t last _ handled
    cases handled
    rfl
  | cons event events ih =>
    intro t last carries handled
    simp only [List.map_cons, IncomingClipboardTransfer.handleAll, List.length_cons,
      List.replicate_succ, Prod.mk.injEq, List.cons.injEq] at handled
    obtain ⟨⟨first, others⟩, behind⟩ := handled
    have taken : host.takes t event = some (none,
        (t.handle host.codecs event host.transferLimits 0).2) :=
      (takes_handle (carries event List.mem_cons_self)).mpr (Prod.ext first rfl)
    have rest := ih (fun event member => carries event (List.mem_cons_of_mem _ member))
      (Prod.ext others behind)
    simp [receive, taken, rest]

/-- The frames of a sendable item bring it. -/
theorem receive_outgoing (host : ClipboardHost) (lossless : host.codecs.Lossless)
    (sendable : item.Sendable host.codecs host.transferLimits) (id sequence : UInt64) :
    host.receive {} (item.outgoing host.codecs id sequence).events = some ([item], {}) := by
  have mirrors : (item.started host.codecs id 0).Mirrors
      (item.outgoing host.codecs id sequence) := by
    cases item <;> exact ⟨rfl, rfl, rfl⟩
  have new : (item.outgoing host.codecs id sequence).stage = .start ∧
      (item.outgoing host.codecs id sequence).offset = 0 ∧
      (item.outgoing host.codecs id sequence).payload.bytes = item.bytes := by
    cases item <;> exact ⟨rfl, rfl, rfl⟩
  have begins := handle_start sendable {} id sequence 0
  generalize item.outgoing host.codecs id sequence = transfer at *
  obtain ⟨chunks, whole, each, frames⟩ := events_of_start new.1 new.2.1
  rw [new.2.2] at whole
  obtain ⟨starts, ends, carries⟩ := @OutgoingClipboardTransfer.carries transfer
  have room : (item.started host.codecs id 0).bytes.length + chunks.flatten.length ≤
      transfer.payload.bytes.length := by
    rw [whole, new.2.2]
    exact Nat.le_of_eq (Nat.zero_add _)
  obtain ⟨progress, middle⟩ := @handleAll_chunks host.codecs host.transferLimits
    _ _ _ ((transfer.chunkEvents 0 chunks).map fun event => (event, 0)) mirrors each room (by rw [List.map_map]; exact List.map_id _)
  rw [whole, List.length_map] at middle
  have extended : ((item.started host.codecs id 0).extend item.bytes progress).Mirrors transfer :=
    ⟨mirrors.transferId, mirrors.kind, mirrors.total⟩
  have ended := handle_end extended rfl (item_of_started lossless sendable id 0 progress) 0
  have last : host.takes { active := some ((item.started host.codecs id 0).extend item.bytes
      progress) } transfer.endEvent = some (some item, {}) := by
    refine (takes_handle ends).mpr (Prod.ext ended ?_)
    unfold OutgoingClipboardTransfer.endEvent
    cases transfer.payload <;>
      simp only [IncomingClipboardTransfer.handle, IncomingClipboardTransfer.finish] <;>
      split <;> rfl
  rw [frames]
  have first : host.receive {} [transfer.startEvent] = some ([],
      { active := some (item.started host.codecs id 0) }) :=
    receive_single ((takes_handle starts).mpr begins)
  have all := receive_add (receive_add first (receive_of_handleAll (carries _ _) middle))
    (receive_single last)
  exact all

end ClipboardHost

/-! ## Flows -/

/-- The frames that an outgoing transfer has still to send. -/
def ahead (outgoing : Option OutgoingClipboardTransfer) : List ClipboardEvent :=
  outgoing.elim [] (·.events)

/-- What is on its way to one end, behind what is taken in already: it arrives, the last item is
    the one that its sender has observed, and so it is when the outgoing transfer is replaced by a
    cancel. -/
structure Flow (host : ClipboardHost) (incoming : IncomingClipboardTransfer)
    (link : List ClipboardEvent) (outgoing : Option OutgoingClipboardTransfer)
    (observed : Option ClipboardContentId) : Prop where
  arrives : ∃ items, host.receive incoming (link ++ ahead outgoing) = some (items, {}) ∧
    ∀ item, items.getLast? = some item → observed = some (item.id host.codecs)
  completes : ∀ event, (link ++ ahead outgoing).getLast? = some event →
    ClipboardHost.completes event = true
  sends : ∀ transfer, outgoing = some transfer → transfer.events ≠ [] ∧
    ∃ items middle, host.receive incoming link = some (items, middle) ∧
      middle.active.all (·.transferId = transfer.transferId)

namespace Flow

open ClipboardHost

variable {host : ClipboardHost} {incoming next : IncomingClipboardTransfer}
  {link rest : List ClipboardEvent} {outgoing : Option OutgoingClipboardTransfer}
  {transfer : OutgoingClipboardTransfer} {observed : Option ClipboardContentId}
  {event : ClipboardEvent} {item : ClipboardItem}

theorem empty : Flow host {} [] none observed := by
  refine ⟨⟨[], rfl, ?_⟩, ?_, ?_⟩
  · intro item none
    cases none
  · intro event none
    cases none
  · intro transfer none
    cases none

/-- Where nothing is on its way, nothing is taken in. -/
theorem incoming_empty (flow : Flow host incoming link outgoing observed)
    (nothing : link ++ ahead outgoing = []) : incoming = {} := by
  obtain ⟨items, received, -⟩ := flow.arrives
  rw [nothing] at received
  cases received
  rfl

/-- The outgoing transfer is replaced: a cancel ends what is taken in of it. -/
theorem cancelled (flow : Flow host incoming link outgoing observed) :
    ∃ items, host.receive incoming
      (link ++ (outgoing.map (·.cancelEvent .replaced)).toList) = some (items, {}) := by
  cases active : outgoing with
  | none =>
    obtain ⟨items, received, -⟩ := flow.arrives
    exact ⟨items, by simpa [active, ahead] using received⟩
  | some transfer =>
    obtain ⟨-, items, middle, received, own⟩ := flow.sends transfer active
    refine ⟨items ++ [], ?_⟩
    exact receive_add received (receive_single (takes_cancel own))

/-- An item that is offered behind what is there. -/
theorem offered (items : List ClipboardItem) {more : List ClipboardEvent}
    (before : host.receive incoming link = some (items, {}))
    (brings : host.receive {} (more ++ ahead outgoing) = some ([item], {}))
    (completes : ∀ event, (more ++ ahead outgoing).getLast? = some event →
      ClipboardHost.completes event = true)
    (silent : outgoing.isSome → more = []) :
    Flow host incoming (link ++ more) outgoing (some (item.id host.codecs)) := by
  have nonempty : more ++ ahead outgoing ≠ [] := by
    intro empty
    rw [empty] at brings
    cases brings
  constructor
  · refine ⟨items ++ [item], ?_, ?_⟩
    · rw [List.append_assoc]
      exact receive_add before brings
    · intro last final
      rw [List.getLast?_append] at final
      obtain rfl : item = last := by simpa using final
      rfl
  · intro event final
    rw [List.append_assoc, List.getLast?_append_of_ne_nil _ nonempty] at final
    exact completes event final
  · intro transfer active
    obtain rfl := silent (by rw [active]; rfl)
    subst active
    refine ⟨nonempty, items, {}, ?_, rfl⟩
    simpa using before

/-- The next frame of the outgoing transfer moves to the link. -/
theorem sent {later : OutgoingClipboardTransfer}
    (flow : Flow host incoming link (some transfer) observed)
    (next : transfer.nextEvent = (some event, later)) :
    Flow host incoming (link ++ [event]) (if event.isEnd then none else some later) observed := by
  have first : transfer.nextEvent.1 = some event := by rw [next]
  obtain ⟨carried, -⟩ := OutgoingClipboardTransfer.nextEvent_event first
  have same : later.transferId = transfer.transferId := by
    have kept := @OutgoingClipboardTransfer.nextEvent_transferId transfer
    rwa [next] at kept
  have frames : transfer.events = event :: later.events :=
    OutgoingClipboardTransfer.events_cons next
  have stream : link ++ [event] ++ ahead (if event.isEnd then none else some later) =
      link ++ ahead (some transfer) := by
    have ends : event.isEnd = true → later.events = [] := by
      intro ended
      exact OutgoingClipboardTransfer.events_done (OutgoingClipboardTransfer.done_of_end next ended)
    simp only [ahead, Option.elim_some, frames, List.append_assoc, List.singleton_append]
    split
    · rename_i ended
      rw [ends ended, Option.elim_none]
    · rfl
  obtain ⟨items, received, last⟩ := flow.arrives
  constructor
  · rw [stream]
    exact ⟨items, received, last⟩
  · rw [stream]
    exact flow.completes
  · intro other active
    split at active
    · cases active
    · rename_i middle
      obtain rfl := Option.some.inj active
      obtain ⟨-, before, state, reached, own⟩ := flow.sends transfer rfl
      constructor
      · intro nothing
        have final : (link ++ ahead (some transfer)).getLast? = some event := by
          simp [ahead, frames, nothing]
        have complete := flow.completes event final
        rw [completes_transfer carried] at complete
        exact middle complete
      · rw [receive_append, reached] at received
        obtain ⟨⟨others, behind⟩, going, -⟩ := Option.map_eq_some_iff.mp received
        rw [ahead, Option.elim_some, frames] at going
        obtain ⟨item, after, rest, taken, -, -⟩ := receive_cons going
        refine ⟨before ++ item.toList, after, receive_add reached (receive_single taken), ?_⟩
        rw [same]
        exact takes_own carried own taken

/-- The oldest frame is taken in. -/
theorem taken (flow : Flow host incoming (event :: rest) outgoing observed) :
    ∃ item next, host.takes incoming event = some (item, next) ∧
      Flow host next rest outgoing observed ∧
      (rest ++ ahead outgoing = [] → ∃ remote, item = some remote ∧
        observed = some (remote.id host.codecs)) := by
  obtain ⟨items, received, last⟩ := flow.arrives
  rw [List.cons_append] at received
  obtain ⟨item, next, others, taken, going, rfl⟩ := receive_cons received
  refine ⟨item, next, taken, ⟨⟨others, going, ?_⟩, ?_, ?_⟩, ?_⟩
  · intro remote final
    refine last remote ?_
    rw [List.getLast?_append, final]
    rfl
  · intro later final
    refine flow.completes later ?_
    rw [List.cons_append, List.getLast?_cons, final]
    rfl
  · intro transfer active
    obtain ⟨nonempty, before, middle, reached, own⟩ := flow.sends transfer active
    obtain ⟨_, _, more, again, further, -⟩ := receive_cons reached
    cases taken.symm.trans again
    exact ⟨nonempty, more, middle, further, own⟩
  · intro nothing
    have complete := flow.completes event (by rw [List.cons_append, nothing]; rfl)
    obtain ⟨remote, rfl⟩ := Option.isSome_iff_exists.mp (takes_completes complete taken)
    refine ⟨remote, rfl, last remote ?_⟩
    rw [nothing] at going
    cases going
    rfl

end Flow

end EdgeKvm.Clipboard
