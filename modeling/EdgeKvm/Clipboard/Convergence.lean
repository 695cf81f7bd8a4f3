import EdgeKvm.Clipboard.DesktopTurns

/-!
# The clipboards converge

In an orderly run, frames flow in one direction at a time, and where nothing is on its way, both
ends have observed the same content. What an end has observed is on its clipboard, unless the
clipboard is still to be read.
-/

namespace EdgeKvm.Clipboard

open EdgeKvm.Lib Handler Machine

/-! ## The background read -/

/-- What is observed is on the clipboard, or the clipboard is read again; a result that is not
    what the clipboard holds any more is followed by another read. -/
structure Reads (codecs : Codecs) (d : Desktop) : Prop where
  current : d.state.tracker.lastObserved = d.clipboard.map (·.id codecs) ∨ d.notified = true ∨
    d.reader.task.isSome = true
  result : ∀ generation found, d.reader.task = some ⟨generation, some found⟩ →
    found.isSome = true ∧ (found = d.clipboard ∨ d.notified = true ∨ d.reader.rerun = true)
  filled : d.notified = true ∨ d.reader.task.isSome = true → d.clipboard.isSome = true

namespace BackgroundClipboardRead

variable {reader : BackgroundClipboardRead} {generation current read : UInt64}

theorem request_isSome : (reader.request generation).task.isSome = true := by
  unfold request
  split
  · assumption
  · rfl

/-- A read that is under way is followed by another one. -/
theorem request_result {found : Option ClipboardItem}
    (task : (reader.request generation).task = some ⟨read, some found⟩) :
    reader.task = some ⟨read, some found⟩ ∧ (reader.request generation).rerun = true := by
  unfold request at task ⊢
  split
  · rename_i busy
    rw [if_pos busy] at task
    exact ⟨task, rfl⟩
  · rename_i free
    rw [if_neg free] at task
    cases task

/-- Without a task, a result is followed by a read that has no result yet, or by none. -/
theorem accept_task : ({ reader with task := none }.accept current read).2.task =
    if reader.rerun || decide (read ≠ current) then some { generation := current } else none := by
  unfold accept request
  split <;> simp_all

end BackgroundClipboardRead

namespace Reads

variable {codecs : Codecs} {d d' : Desktop}

/-- Only what is observed changes, if anything does. -/
theorem observing (reads : Reads codecs d) (reader : d'.reader = d.reader)
    (clipboard : d'.clipboard = d.clipboard) (notified : d'.notified = d.notified)
    (observed : d'.state.tracker.lastObserved = d.state.tracker.lastObserved ∨
      d'.state.tracker.lastObserved = d.clipboard.map (·.id codecs)) : Reads codecs d' := by
  constructor
  · rw [reader, clipboard, notified]
    rcases observed with same | same
    · rw [same]
      exact reads.current
    · exact .inl same
  · rw [reader, clipboard, notified]
    exact reads.result
  · rw [reader, clipboard, notified]
    exact reads.filled

/-- A content that is announced will be read. -/
theorem announced (reads : Reads codecs d) (reader : d'.reader = d.reader)
    (clipboard : d'.clipboard.isSome = true) (notified : d'.notified = true) :
    Reads codecs d' := by
  refine ⟨.inr (.inl notified), ?_, fun _ => clipboard⟩
  intro generation found task
  rw [reader] at task
  exact ⟨(reads.result generation found task).1, .inr (.inl notified)⟩

/-- The session takes a notification. -/
theorem requested (reads : Reads codecs d) (notified : d.notified = true) {generation : UInt64} :
    Reads codecs { d with notified := false, reader := d.reader.request generation } := by
  refine ⟨.inr (.inr BackgroundClipboardRead.request_isSome), ?_, ?_⟩
  · intro read found task
    obtain ⟨busy, rerun⟩ := BackgroundClipboardRead.request_result task
    exact ⟨(reads.result read found busy).1, .inr (.inr rerun)⟩
  · intro _
    exact reads.filled (.inl notified)

/-- The task reads the clipboard. -/
theorem taken (reads : Reads codecs d) {generation : UInt64}
    (task : d.reader.task = some ⟨generation, none⟩) :
    Reads codecs { d with reader.task := some ⟨generation, some d.clipboard⟩ } := by
  have busy : d.reader.task.isSome = true := by rw [task]; rfl
  refine ⟨.inr (.inr rfl), ?_, fun _ => reads.filled (.inr busy)⟩
  intro read found same
  cases same
  exact ⟨reads.filled (.inr busy), .inl rfl⟩

/-- A result is handled; what it found is observed, if it is current. -/
theorem finished (reads : Reads codecs d) {current generation : UInt64}
    {found : Option ClipboardItem} (task : d.reader.task = some ⟨generation, some found⟩)
    (reader : d'.reader = ({ d.reader with task := none }.accept current generation).2)
    (clipboard : d'.clipboard = d.clipboard) (notified : d'.notified = d.notified)
    (observed : generation = current →
      d'.state.tracker.lastObserved = found.map (·.id codecs)) : Reads codecs d' := by
  have busy : d.reader.task.isSome = true := by rw [task]; rfl
  have next := @BackgroundClipboardRead.accept_task d.reader current generation
  rw [← reader] at next
  obtain ⟨-, fresh⟩ := reads.result generation found task
  constructor
  · rw [clipboard, notified]
    by_cases again : (d.reader.rerun || decide (generation ≠ current)) = true
    · rw [if_pos again] at next
      exact .inr (.inr (by rw [next]; rfl))
    · obtain ⟨once, same⟩ : d.reader.rerun = false ∧ generation = current := by
        simpa using again
      rw [observed same]
      rcases fresh with same | announced | rerun
      · exact .inl (by rw [same])
      · exact .inr (.inl announced)
      · rw [once] at rerun
        cases rerun
  · intro read result still
    rw [next] at still
    split at still <;> cases still
  · intro _
    rw [clipboard]
    exact reads.filled (.inr busy)

end Reads

/-- A call that writes nothing. -/
theorem Desktop.after_unwritten {d : Desktop}
    (turn : Turn ReceiverClipboardState ClipboardOutput String Bool)
    (nothing : Desktop.written turn.output = []) :
    (d.after turn).clipboard = d.clipboard ∧ (d.after turn).notified = d.notified := by
  simp [Desktop.after, nothing]

/-! ## Both ends -/

/-- Both ends, seen from one of them, `n`: the frames towards it and back. -/
structure Accord (hosts : DesktopHosts) (n : Side) (mine theirs : Desktop)
    (inbound outbound : List ClipboardEvent) : Prop where
  toward : Flow (hosts.host n) mine.state.incoming.timeless inbound theirs.state.outgoing
    theirs.state.tracker.lastObserved
  back : Flow (hosts.host n.other) theirs.state.incoming.timeless outbound mine.state.outgoing
    mine.state.tracker.lastObserved
  oneWay : inbound ++ ahead theirs.state.outgoing = [] ∨ outbound ++ ahead mine.state.outgoing = []
  agree : inbound ++ ahead theirs.state.outgoing = [] → outbound ++ ahead mine.state.outgoing = [] →
    mine.state.tracker.lastObserved = theirs.state.tracker.lastObserved
  supports : Supports hosts n mine
  theySupport : Supports hosts n.other theirs
  reads : Reads hosts.codecs mine
  theyRead : Reads hosts.codecs theirs

namespace Accord

variable {hosts : DesktopHosts} {n : Side} {mine mine' theirs : Desktop}
  {inbound outbound : List ClipboardEvent}

theorem symm (accord : Accord hosts n mine theirs inbound outbound) :
    Accord hosts n.other theirs mine outbound inbound where
  toward := accord.back
  back := by
    rw [Side.other_other]
    exact accord.toward
  oneWay := accord.oneWay.symm
  agree back toward := (accord.agree toward back).symm
  supports := accord.theySupport
  theySupport := by
    rw [Side.other_other]
    exact accord.supports
  reads := accord.theyRead
  theyRead := accord.reads

/-- A transfer that is under way has frames to send. -/
theorem idle (accord : Accord hosts n mine theirs inbound outbound)
    (nothing : inbound ++ ahead theirs.state.outgoing = []) :
    inbound = [] ∧ theirs.state.outgoing = none := by
  obtain ⟨empty, rest⟩ := List.append_eq_nil_iff.mp nothing
  refine ⟨empty, ?_⟩
  cases active : theirs.state.outgoing with
  | none => rfl
  | some transfer =>
    rw [active] at rest
    exact absurd rest (accord.toward.sends transfer active).1

/-- One end reads; its transfers and what it has observed stay. -/
theorem reading (accord : Accord hosts n mine theirs inbound outbound)
    (incoming : mine'.state.incoming.timeless = mine.state.incoming.timeless)
    (outgoing : mine'.state.outgoing = mine.state.outgoing)
    (observed : mine'.state.tracker.lastObserved = mine.state.tracker.lastObserved)
    (peer : mine'.state.peer = mine.state.peer) (reads : Reads hosts.codecs mine') :
    Accord hosts n mine' theirs inbound outbound where
  toward := by
    rw [incoming]
    exact accord.toward
  back := by
    rw [outgoing, observed]
    exact accord.back
  oneWay := by
    rw [outgoing]
    exact accord.oneWay
  agree := by
    rw [outgoing, observed]
    exact accord.agree
  supports := by
    refine ⟨?_, ?_, accord.supports.enabled⟩
    · rw [peer]
      exact accord.supports.images
    · rw [peer]
      exact accord.supports.textChunks
  theySupport := accord.theySupport
  reads := reads
  theyRead := accord.theyRead

/-- The next frame of the outgoing transfer is sent. -/
theorem sending (accord : Accord hosts n mine theirs inbound outbound)
    {transfer later : OutgoingClipboardTransfer} {event : ClipboardEvent}
    (active : mine.state.outgoing = some transfer)
    (next : transfer.nextEvent = (some event, later))
    (incoming : mine'.state.incoming = mine.state.incoming)
    (outgoing : mine'.state.outgoing = if event.isEnd then none else some later)
    (observed : mine'.state.tracker.lastObserved = mine.state.tracker.lastObserved)
    (peer : mine'.state.peer = mine.state.peer) (reads : Reads hosts.codecs mine') :
    Accord hosts n mine' theirs inbound (outbound ++ [event]) := by
  have under : outbound ++ ahead mine.state.outgoing ≠ [] := by
    intro nothing
    have none := (accord.symm.idle nothing).2
    rw [active] at none
    cases none
  have quiet := accord.oneWay.resolve_right under
  have flow := accord.back
  rw [active] at flow
  constructor
  · rw [incoming]
    exact accord.toward
  · rw [outgoing, observed]
    exact flow.sent next
  · exact .inl quiet
  · intro _ nothing
    simp at nothing
  · refine ⟨?_, ?_, accord.supports.enabled⟩
    · rw [peer]
      exact accord.supports.images
    · rw [peer]
      exact accord.supports.textChunks
  · exact accord.theySupport
  · exact reads
  · exact accord.theyRead

/-- One end offers an item while nothing is on its way to it. -/
theorem presenting (accord : Accord hosts n mine theirs inbound outbound)
    {s : ReceiverClipboardState} {item : ClipboardItem} {out : List ClipboardOutput}
    (quiet : theirs.state.outgoing = none) (incoming : s.incoming.timeless = {})
    (same : s.outgoing = mine.state.outgoing) (peer : s.peer = mine.state.peer)
    (presents : s.Presents (hosts.host n.other) mine'.state item out)
    (reads : Reads hosts.codecs mine') : Accord hosts n mine' theirs [] (outbound ++ sent out) := by
  obtain ⟨more, frames, brings, completes, silent⟩ := presents.frames
  obtain ⟨items, before⟩ := accord.back.cancelled
  have stream : outbound ++ sent out = outbound ++ s.cancels ++ more := by
    rw [frames, List.append_assoc]
  constructor
  · rw [presents.incoming, incoming, quiet]
    exact .empty
  · rw [stream, presents.observed]
    refine Flow.offered items ?_ brings completes silent
    rw [ReceiverClipboardState.cancels, same]
    exact before
  · rw [quiet]
    exact .inl rfl
  · intro _ nothing
    rw [stream, List.append_assoc, List.append_eq_nil_iff] at nothing
    rw [nothing.2] at brings
    cases brings
  · refine ⟨?_, ?_, accord.supports.enabled⟩
    · rw [presents.peer, peer]
      exact accord.supports.images
    · rw [presents.peer, peer]
      exact accord.supports.textChunks
  · exact accord.theySupport
  · exact reads
  · exact accord.theyRead

/-- One end takes in the oldest frame, and offers nothing. -/
theorem receiving {event : ClipboardEvent} {rest : List ClipboardEvent}
    (accord : Accord hosts n mine theirs (event :: rest) outbound)
    (flow : Flow (hosts.host n) mine'.state.incoming.timeless rest theirs.state.outgoing
      theirs.state.tracker.lastObserved)
    (outgoing : mine'.state.outgoing = mine.state.outgoing) (peer : mine'.state.peer = mine.state.peer)
    (agree : rest ++ ahead theirs.state.outgoing = [] →
      mine'.state.tracker.lastObserved = theirs.state.tracker.lastObserved)
    (reads : Reads hosts.codecs mine') : Accord hosts n mine' theirs rest outbound := by
  have nothing := accord.oneWay.resolve_left (by simp)
  obtain ⟨empty, none⟩ := accord.symm.idle nothing
  constructor
  · exact flow
  · rw [accord.back.incoming_empty nothing, outgoing, none, empty]
    exact .empty
  · rw [outgoing]
    exact .inr nothing
  · exact fun ended _ => agree ended
  · refine ⟨?_, ?_, accord.supports.enabled⟩
    · rw [peer]
      exact accord.supports.images
    · rw [peer]
      exact accord.supports.textChunks
  · exact accord.theySupport
  · exact reads
  · exact accord.theyRead

/-- A frame that completes no item. -/
theorem passing {event : ClipboardEvent} {rest : List ClipboardEvent}
    {incoming : IncomingClipboardTransfer}
    {turn : Turn ReceiverClipboardState ClipboardOutput String Bool}
    (accord : Accord hosts n mine theirs (event :: rest) outbound)
    (flow : Flow (hosts.host n) incoming.timeless rest theirs.state.outgoing
      theirs.state.tracker.lastObserved)
    (state : turn.state = (mine.taking incoming).state) (output : turn.output = [])
    (goesOn : rest ++ ahead theirs.state.outgoing ≠ []) :
    Accord hosts n (mine.after turn) theirs rest (outbound ++ sent turn.output) := by
  have after : (mine.after turn).state = (mine.taking incoming).state := state
  obtain ⟨clipboard, notified⟩ := Desktop.after_unwritten (d := mine) turn
    (by rw [output]; rfl)
  rw [output, sent_nil, List.append_nil]
  refine accord.receiving ?_ ?_ ?_ ?_ (accord.reads.observing rfl clipboard notified (.inl ?_))
  · rw [after]
    exact flow
  · rw [after]
    rfl
  · rw [after]
    rfl
  · exact fun through => absurd through goesOn
  · rw [after]
    rfl

/-- A frame that completes an item. -/
theorem adopting {event : ClipboardEvent} {rest : List ClipboardEvent}
    {incoming : IncomingClipboardTransfer} {remote : ClipboardItem}
    {turn : Turn ReceiverClipboardState ClipboardOutput String Bool}
    (accord : Accord hosts n mine theirs (event :: rest) outbound)
    (flow : Flow (hosts.host n) incoming.timeless rest theirs.state.outgoing
      theirs.state.tracker.lastObserved)
    (last : rest ++ ahead theirs.state.outgoing = [] →
      theirs.state.tracker.lastObserved = some (remote.id hosts.codecs))
    (alone : ∀ own, mine.clipboard = some own → own.id hosts.codecs ≠ remote.id hosts.codecs →
      mine.state.tracker.isObserved (some (own.id hosts.codecs)) = false →
      rest = [] ∧ theirs.state.outgoing = none)
    (adopts : Adopts hosts n (mine.taking incoming) turn.state remote turn.output) :
    Accord hosts n (mine.after turn) theirs rest (outbound ++ sent turn.output) := by
  cases adopts with
  | took same peer outgoing observed silent written =>
    rw [silent, List.append_nil]
    refine accord.receiving ?_ outgoing peer (fun through => observed.trans (last through).symm) ?_
    · have taking : (mine.after turn).state.incoming = incoming := same
      rw [taking]
      exact flow
    · rcases written with ⟨nothing, held⟩ | written
      · obtain ⟨clipboard, notified⟩ := Desktop.after_unwritten (d := mine) _ nothing
        exact accord.reads.observing rfl clipboard notified (.inr (observed.trans held.symm))
      · refine accord.reads.announced rfl ?_ ?_
        · simp [Desktop.after, written]
        · simp [Desktop.after, written]
  | offered own present different unobserved presents =>
    obtain ⟨rfl, quiet⟩ := alone own present different unobserved
    obtain ⟨clipboard, notified⟩ := Desktop.after_unwritten (d := mine) _ presents.written
    refine accord.presenting (s := (mine.taking incoming).state) quiet ?_ rfl rfl presents
      (accord.reads.observing rfl clipboard notified (.inr ?_))
    · exact flow.incoming_empty (by rw [quiet]; rfl)
    · rw [show mine.clipboard = some own from present]
      exact presents.observed

end Accord

/-! ## Runs -/

namespace Desktops

variable {hosts : DesktopHosts} {w w' : Desktops} {n : Side}

def Agrees (hosts : DesktopHosts) (w : Desktops) : Prop :=
  ∀ n, Accord hosts n (w.desktop n) (w.desktop n.other) (w.link n) (w.link n.other)

theorem agrees_of (accord : Accord hosts n (w.desktop n) (w.desktop n.other) (w.link n)
    (w.link n.other)) : Agrees hosts w := by
  refine Side.forall_of_other n accord ?_
  rw [Side.other_other]
  exact accord.symm

section Updates

variable {d : Desktop} {body : ClipboardM Bool}

@[simp] theorem set_desktop : (w.set n d).desktop n = d := by simp [set]

@[simp] theorem set_desktop_other : (w.set n d).desktop n.other = w.desktop n.other := by
  simp [set]

@[simp] theorem set_link : (w.set n d).link = w.link := rfl

@[simp] theorem call_desktop : (w.call n d body).desktop n = d.after (body d.state) := by
  simp [call]

@[simp] theorem call_desktop_other : (w.call n d body).desktop n.other = w.desktop n.other := by
  simp [call]

@[simp] theorem call_link : (w.call n d body).link n = w.link n := by
  simp [call]

@[simp] theorem call_link_other :
    (w.call n d body).link n.other = w.link n.other ++ sent (body d.state).output := by
  simp [call]

end Updates

/-- One end changes, and no frame is sent. -/
theorem Agrees.set {d : Desktop} (agrees : Agrees hosts w) (state : d.state = (w.desktop n).state)
    (reads : Reads hosts.codecs d) : Agrees hosts (w.set n d) := by
  apply agrees_of (n := n)
  rw [set_desktop, set_desktop_other, set_link]
  refine (agrees n).reading ?_ ?_ ?_ ?_ reads <;> rw [state]

/-- A call that does nothing to the session, of an end that may have finished a read. -/
theorem Agrees.silent {d : Desktop} {body : ClipboardM Bool} (agrees : Agrees hosts w)
    (state : (body d.state).state = (w.desktop n).state) (output : (body d.state).output = [])
    (reads : Reads hosts.codecs (d.after (body d.state))) : Agrees hosts (w.call n d body) := by
  have after : (d.after (body d.state)).state = (w.desktop n).state := state
  apply agrees_of (n := n)
  rw [call_desktop, call_desktop_other, call_link, call_link_other, output, sent_nil,
    List.append_nil]
  refine (agrees n).reading ?_ ?_ ?_ ?_ reads <;> rw [after]

/-- A call that does nothing. -/
theorem Agrees.still {body : ClipboardM Bool} (agrees : Agrees hosts w)
    (state : (body (w.desktop n).state).state = (w.desktop n).state)
    (output : (body (w.desktop n).state).output = []) :
    Agrees hosts (w.call n (w.desktop n) body) := by
  have after : ((w.desktop n).after (body (w.desktop n).state)).state = (w.desktop n).state := state
  obtain ⟨clipboard, notified⟩ := Desktop.after_unwritten (d := w.desktop n)
    (body (w.desktop n).state) (by rw [output]; rfl)
  refine agrees.silent state output ((agrees n).reads.observing rfl clipboard notified (.inl ?_))
  rw [after]

/-- Content that was observed is not offered again. -/
theorem offerItem_observed {host : ClipboardHost} {d : Desktop} {now : Nat}
    {s : ReceiverClipboardState} {current : Option ClipboardItem}
    (observed : s.tracker.isObserved (current.map (·.id host.codecs)) = true) :
    (ReceiverClipboardState.offerItem host (d.system now) current false).wp
      (fun _ t out => t = s ∧ out = []) s := by
  have open' : ¬ (s.withholdsPhoneContent && (current.map (·.id host.codecs)).isSome &&
      decide ((d.system now).phoneContent = current.map (·.id host.codecs))) = true := by
    cases current <;> simp [Desktop.system]
  unfold ReceiverClipboardState.offerItem
  rw [wp_read_bind]
  dsimp only
  rw [if_neg open', if_neg Bool.false_ne_true, ClipboardChangeTracker.offerIfChanged,
    if_pos observed]
  exact ⟨rfl, rfl⟩

/-- The desktop once the result of a read is accepted or not. -/
def accepting (w : Desktops) (n : Side) (generation : UInt64) : Desktop :=
  { w.desktop n with
    reader := (({ (w.desktop n).reader with task := none } : BackgroundClipboardRead).accept
      (w.desktop n).state.applyGeneration generation).2 }

theorem exec_readFinished (executed : w.exec hosts n .readFinished = some w') :
    ∃ generation current, (w.desktop n).reader.task = some ⟨generation, some current⟩ ∧
      (generation ≠ (w.desktop n).state.applyGeneration ∧ w' = w.set n (w.accepting n generation) ∨
        generation = (w.desktop n).state.applyGeneration ∧
          w' = w.call n (w.accepting n generation) (ReceiverClipboardState.offerItem (hosts.host n)
            ((w.accepting n generation).system 0) current false)) := by
  simp only [exec] at executed
  split at executed
  · rename_i generation current task
    refine ⟨generation, current, task, ?_⟩
    have done := Option.some.inj executed
    by_cases same : generation = (w.desktop n).state.applyGeneration
    · refine .inr ⟨same, ?_⟩
      rw [← done]
      simp only [BackgroundClipboardRead.accept, same, ne_eq, not_true, decide_false, Bool.not_false,
        if_true, accepting]
    · refine .inl ⟨same, ?_⟩
      rw [← done]
      simp only [BackgroundClipboardRead.accept, same, ne_eq, not_false_eq_true, decide_true,
        Bool.not_true, Bool.false_eq_true, if_false, accepting]
  · cases executed

/-- The result of a read is offered, if it is current. -/
theorem agrees_readFinished (lossless : hosts.codecs.Lossless) (agrees : Agrees hosts w)
    (orderly : w.Orderly hosts (n, .readFinished))
    (executed : w.exec hosts n .readFinished = some w') : Agrees hosts w' := by
  have reads := (agrees n).reads
  obtain ⟨generation, current, task, ⟨older, rfl⟩ | ⟨fresh, rfl⟩⟩ := exec_readFinished executed
  · refine agrees.set rfl (reads.finished task rfl rfl rfl ?_)
    exact fun same => absurd same older
  · obtain ⟨filled, -⟩ := reads.result generation current task
    obtain ⟨item, rfl⟩ := Option.isSome_iff_exists.mp filled
    by_cases observed : (w.desktop n).state.tracker.isObserved
        (some (item.id hosts.codecs)) = true
    · obtain ⟨state, output⟩ := @offerItem_observed (hosts.host n)
        (w.accepting n generation) 0 (w.accepting n generation).state (some item) observed
      refine agrees.silent state output (reads.finished task rfl ?_ ?_ ?_)
      · exact (Desktop.after_unwritten _ (by rw [output]; rfl)).1
      · exact (Desktop.after_unwritten _ (by rw [output]; rfl)).2
      · intro _
        have same : (w.desktop n).state.tracker.lastObserved = some (item.id hosts.codecs) := by
          simpa [ClipboardChangeTracker.isObserved] using observed
        rw [Desktop.after]
        dsimp only
        rw [state]
        exact same
    · have offered : w.offered hosts (n, .readFinished) = some item := by
        simp [Desktops.offered, task, fresh, Desktop.offers, observed]
      have idle := orderly.idle item offered
      simp only [Desktops.idle, Bool.and_eq_true, List.isEmpty_iff, Option.isNone_iff_eq_none]
        at idle
      obtain ⟨nothing, quiet⟩ := idle
      have supports := (agrees n).supports
      have presents := offerItem_presents (n := n)
        (d := w.accepting n generation) 0 supports.images supports.textChunks
        supports.enabled ((Bool.not_eq_true _).mp observed) lossless (orderly.passes item offered)
      apply agrees_of (n := n)
      rw [call_desktop, call_desktop_other, call_link, call_link_other, nothing]
      refine (agrees n).presenting quiet ?_ rfl rfl presents (reads.finished task rfl ?_ ?_ ?_)
      · refine (agrees n).toward.incoming_empty ?_
        rw [nothing, quiet]
        rfl
      · exact (Desktop.after_unwritten _ presents.written).1
      · exact (Desktop.after_unwritten _ presents.written).2
      · exact fun _ => presents.observed

/-- The oldest frame is handled. -/
theorem agrees_deliver {now : Nat} (lossless : hosts.codecs.Lossless) (agrees : Agrees hosts w)
    (orderly : w.Orderly hosts (n, .deliver now))
    (executed : w.exec hosts n (.deliver now) = some w') : Agrees hosts w' := by
  have accord := agrees n
  simp only [exec] at executed
  split at executed
  · rename_i event rest link
    cases executed
    rw [link] at accord
    obtain ⟨item, next, taken, flow, ends⟩ := accord.toward.taken
    have idle := (accord.symm.idle (accord.oneWay.resolve_left (by simp))).2
    have answers : ∀ remote, item = some remote → ∀ own, (w.desktop n).clipboard = some own →
        own.id hosts.codecs ≠ remote.id hosts.codecs →
        (w.desktop n).state.tracker.isObserved (some (own.id hosts.codecs)) = false →
        (rest = [] ∧ (w.desktop n.other).state.outgoing = none) ∧
          (w.desktop n).Passes hosts n own := by
      intro remote arrives own present other unobserved
      have offered : w.offered hosts (n, .deliver now) = some own := by
        simp [Desktops.offered, link, Desktop.answers, Desktop.arrival, taken, arrives, present,
          other, Desktop.offers, unobserved]
      refine ⟨?_, orderly.passes own offered⟩
      simpa [Desktops.idle, link] using orderly.idle own offered
    obtain ⟨incoming, timeless, result⟩ := handleEvent_adopts now lossless accord.supports
      idle taken fun remote arrives own present other unobserved =>
        (answers remote arrives own present other unobserved).2
    rw [← timeless] at flow
    apply agrees_of (n := n)
    rw [call_desktop, call_desktop_other, call_link, call_link_other]
    simp only [Function.update_self, ne_eq, Side.other_ne, not_false_eq_true,
      Function.update_of_ne]
    rcases result with ⟨nothing, state, output⟩ | ⟨remote, arrives, adopts⟩
    · refine accord.passing flow state output fun through => ?_
      obtain ⟨remote, arrives, -⟩ := ends through
      rw [nothing] at arrives
      cases arrives
    · refine accord.adopting flow ?_ ?_ adopts
      · intro through
        obtain ⟨remote', arrives', observed⟩ := ends through
        cases arrives.symm.trans arrives'
        exact observed
      · exact fun own present other unobserved =>
          (answers remote arrives own present other unobserved).1
  · cases executed

/-- `send_next_image_frame` of a transfer with frames to send. -/
theorem sendNext_some {s : ReceiverClipboardState} {transfer later : OutgoingClipboardTransfer}
    {event : ClipboardEvent} (active : s.outgoing = some transfer)
    (next : transfer.nextEvent = (some event, later)) :
    ReceiverClipboardState.sendNextImageFrame.wp (fun _ t out => out = [.send event] ∧
      t = { s with outgoing := if event.isEnd then none else some later }) s := by
  unfold ReceiverClipboardState.sendNextImageFrame
  rw [wp_read_bind]
  simp only [active, next, wp_bind, wp_update, wp_emit, wp_ite, wp_pure, List.nil_append]
  cases event <;> exact ⟨fun _ => by simp_all [ClipboardEvent.isEnd], fun _ => by
    simp_all [ClipboardEvent.isEnd]⟩

theorem agrees_sendNext (agrees : Agrees hosts w) :
    Agrees hosts (w.call n (w.desktop n) ReceiverClipboardState.sendNextImageFrame) := by
  have accord := agrees n
  cases active : (w.desktop n).state.outgoing with
  | none =>
    have idle : ReceiverClipboardState.sendNextImageFrame.wp (fun _ t out =>
        t = (w.desktop n).state ∧ out = []) (w.desktop n).state := by
      unfold ReceiverClipboardState.sendNextImageFrame
      rw [wp_read_bind]
      simp only [active]
      exact ⟨rfl, rfl⟩
    exact agrees.still idle.1 idle.2
  | some transfer =>
    have frames : transfer.events ≠ [] := (accord.symm.toward.sends transfer active).1
    cases next : transfer.nextEvent with
    | mk event later =>
      cases event with
      | none => exact absurd (OutgoingClipboardTransfer.events_nil next) frames
      | some event =>
        obtain ⟨output, state⟩ := sendNext_some active next
        obtain ⟨clipboard, notified⟩ := Desktop.after_unwritten (d := w.desktop n)
          (ReceiverClipboardState.sendNextImageFrame (w.desktop n).state)
          (by rw [output]; rfl)
        have after : ((w.desktop n).after (ReceiverClipboardState.sendNextImageFrame
            (w.desktop n).state)).state = { (w.desktop n).state with
              outgoing := if event.isEnd then none else some later } := state
        apply agrees_of (n := n)
        rw [call_desktop, call_desktop_other, call_link, call_link_other, output]
        refine accord.sending active next ?_ ?_ ?_ ?_
          (accord.reads.observing rfl clipboard notified (.inl ?_)) <;> rw [after]

/-- No transfer expires. -/
theorem agrees_expire {now : Nat} (agrees : Agrees hosts w)
    (orderly : w.Orderly hosts (n, .expire now)) :
    Agrees hosts (w.call n (w.desktop n)
      (ReceiverClipboardState.expireIncoming ((w.desktop n).system now))) := by
  obtain ⟨-, -, ⟨state, output⟩ | ⟨active, found, -, output⟩⟩ :=
    @ReceiverClipboardState.expireIncoming_spec ((w.desktop n).system now) (w.desktop n).state
  · exact agrees.still state output
  · have quiet : (ReceiverClipboardState.expireIncoming ((w.desktop n).system now)).wp
        (fun _ _ out => out = []) (w.desktop n).state := by
      unfold ReceiverClipboardState.expireIncoming
      rw [wp_read_bind]
      have expires' : ((w.desktop n).state.incoming.expireTransferId
          ((w.desktop n).system now).now).1 = none := orderly.lasts now rfl
      dsimp only
      rw [wp_bind, wp_update, expires']
      rfl
    cases output.symm.trans quiet

/-- The invariant of orderly runs. -/
theorem agrees_exec {action : Side × DesktopAction} (lossless : hosts.codecs.Lossless)
    (agrees : Agrees hosts w) (orderly : w.Orderly hosts action)
    (executed : (machine hosts).exec w action = some w') : Agrees hosts w' := by
  obtain ⟨n, action⟩ := action
  have reads := (agrees n).reads
  cases action with
  | copy item =>
    cases executed
    exact agrees.set rfl (reads.announced rfl rfl rfl)
  | changed =>
    simp only [machine, exec] at executed
    split at executed
    · rename_i notified
      cases executed
      exact agrees.set rfl (reads.requested notified)
    · cases executed
  | readTakes =>
    simp only [machine, exec] at executed
    split at executed
    · rename_i task
      cases executed
      exact agrees.set rfl (reads.taken task)
    · cases executed
  | readFinished => exact agrees_readFinished lossless agrees orderly executed
  | deliver now => exact agrees_deliver lossless agrees orderly executed
  | sendNext =>
    cases executed
    exact agrees_sendNext agrees
  | expire now =>
    cases executed
    exact agrees_expire agrees orderly

theorem Started.agrees (started : w.Started hosts)
    (same : ∀ n m, (w.desktop n).clipboard.map (·.id hosts.codecs) =
      (w.desktop m).clipboard.map (·.id hosts.codecs)) : Agrees hosts w := by
  have reads : ∀ n, Reads hosts.codecs (w.desktop n) := by
    intro n
    refine ⟨.inl (started.tracker n), ?_, ?_⟩
    · intro generation found task
      rw [started.reader n] at task
      cases task
    · rintro (notified | task)
      · rw [started.notified n] at notified
        cases notified
      · rw [started.reader n] at task
        cases task
  have supports : ∀ n, Supports hosts n (w.desktop n) := fun n =>
    ⟨started.images n, started.textChunks n, started.imagesEnabled n⟩
  intro n
  constructor
  · rw [started.incoming n, started.link n, started.outgoing n.other]
    exact .empty
  · rw [started.incoming n.other, started.link n.other, started.outgoing n]
    exact .empty
  · rw [started.link n, started.outgoing n.other]
    exact .inl rfl
  · intro _ _
    rw [started.tracker n, started.tracker n.other]
    exact same n n.other
  · exact supports n
  · exact supports n.other
  · exact reads n
  · exact reads n.other

/-- What an end has observed is on its clipboard, once nothing is left to be read. -/
theorem observed_of_settled (agrees : Agrees hosts w) (settled : w.Settled) :
    (w.desktop n).state.tracker.lastObserved = (w.desktop n).clipboard.map (·.id hosts.codecs) := by
  obtain ⟨-, -, -, notified, task⟩ := settled n
  rcases (agrees n).reads.current with current | announced | busy
  · exact current
  · rw [notified] at announced
    cases announced
  · rw [task] at busy
    cases busy

theorem Agrees.converges (agrees : Agrees hosts w) : w.Converges hosts := by
  intro settled n
  have nothing : ∀ m : Side, w.link m ++ ahead (w.desktop m.other).state.outgoing = [] := by
    intro m
    rw [(settled m).1, (settled m.other).2.1]
    rfl
  refine Side.forall_of_other n rfl ?_
  rw [← observed_of_settled agrees settled, ← observed_of_settled agrees settled]
  refine (agrees n).agree (nothing n) ?_
  have back := nothing n.other
  rwa [Side.other_other] at back

/-- Desktops whose texts fit a frame. -/
def sampleDesktopHosts : DesktopHosts where
  codecs := sampleCodecs
  config _ := { imagesEnabled := true, maxImageBytes := 64, maxBytes := 64 }
  fitsSecureFrame _ _ := true

def emptyDesktops : Desktops where
  desktop _ := { state := { peer := { images := true, textChunks := true } } }

/-- A text is copied, offered, and written at the other end, which reads it back. -/
def copiedOnce : List (Side × DesktopAction) :=
  [(.first, .copy (.text "hi")), (.first, .changed), (.first, .readTakes), (.first, .readFinished),
    (.second, .deliver 0), (.second, .changed), (.second, .readTakes), (.second, .readFinished)]

end Desktops

end EdgeKvm.Clipboard
