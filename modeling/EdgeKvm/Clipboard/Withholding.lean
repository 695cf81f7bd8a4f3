import EdgeKvm.Clipboard.Offered
import EdgeKvm.Clipboard.RoundTrip

/-!
# Phone content and a session with a PC

A session with a PC, which withholds what phones put on the clipboard, and the sessions of phones
that share the clipboard with it (`ClipboardHub`). A read takes its time: what it finds is dealt
with later. A phone's session records what it wrote after it has written it, and only text. Where
the content on the clipboard comes from is noted beside the states; the code knows the one content
that `PhoneOrigin` holds.
-/

namespace EdgeKvm.Clipboard

open EdgeKvm.Lib Handler Machine

/-! ## The clipboard and the sessions -/

/-- What the clipboard can be read as, and whether a session with a phone wrote it. -/
structure Held where
  item : Option ClipboardItem := none
  text : Option String := none
  fromPhone : Bool := false

/-- What a read of the clipboard found. -/
structure Reading where
  current : Except String (Option ClipboardItem)
  text : Except String (Option String)
  fromPhone : Bool

/-- How `wl-paste` answers. -/
inductive ReadAnswer where
  | failed (error : String)
  | nothing
  | content

def Held.read (held : Held) : ReadAnswer → Reading
  | .failed error => ⟨.error error, .error error, held.fromPhone⟩
  | .nothing => ⟨.ok none, .ok none, held.fromPhone⟩
  | .content => ⟨.ok held.item, .ok held.text, held.fromPhone⟩

/-- A session with a phone, and what is left of the call that it is in. -/
structure PhoneClipboard where
  state : ReceiverClipboardState
  effects : List ClipboardOutput := []

/-- The task of `BackgroundClipboardRead`. -/
structure BackgroundRead where
  generation : UInt64
  reading : Option Reading := none

/-- A frame that the session with the PC deals with, and what it read for it. -/
structure PcTurn where
  event : ClipboardEvent
  reading : Option Reading := none

/-- Content that the session with the PC gave away, and whether it came from a phone. -/
inductive Given where
  | frame (event : ClipboardEvent) (fromPhone : Bool)
  | transfer (transferId : UInt64) (fromPhone : Bool)
  deriving DecidableEq

def Given.fromPhone : Given → Bool
  | .frame _ fromPhone | .transfer _ fromPhone => fromPhone

/-- `recorded` is what `PhoneOrigin` holds; `sendingFromPhone` says where the content of the
    outgoing transfer comes from. -/
structure HubWorld where
  held : Held
  recorded : Option ClipboardContentId
  phones : List PhoneClipboard
  pc : ReceiverClipboardState
  task : Option BackgroundRead := none
  rerun : Bool := false
  turn : Option PcTurn := none
  sendingFromPhone : Bool := false
  given : List Given := []

/-- What a session with a phone calls. -/
inductive PhoneCall where
  | handleEvent (event : ClipboardEvent)
  | sendChangedOffer
  | sendNextImageFrame
  | expireIncoming

def PhoneCall.run (host : ClipboardHost) (system : ClipboardSystem) :
    PhoneCall → ClipboardM Bool
  | .handleEvent event => ReceiverClipboardState.handleEvent host system event
  | .sendChangedOffer => ReceiverClipboardState.sendChangedOffer host system
  | .sendNextImageFrame => ReceiverClipboardState.sendNextImageFrame
  | .expireIncoming => ReceiverClipboardState.expireIncoming system

inductive HubAction where
  /-- Another application takes the clipboard. -/
  | copy (item : Option ClipboardItem) (text : Option String)
  | phoneJoins (peer : ClipboardPeerFeatures) (observed : Option ClipboardContentId)
  /-- A session with a phone ends, wherever it is. -/
  | phoneLeaves (phone : Nat)
  | phoneCalls (phone : Nat) (call : PhoneCall) (system : ClipboardSystem)
  /-- The next write, record or frame of the phone's call. -/
  | phoneGoesOn (phone : Nat)
  /-- The session with the PC hears of a change. -/
  | changed
  | backgroundReads (answer : ReadAnswer)
  /-- `BackgroundClipboardRead::finished`; a paused session drops what was read. -/
  | backgroundFinished (paused : Bool)
  /-- The session with the PC takes a frame, reads the clipboard for it, and answers it. -/
  | receive (event : ClipboardEvent)
  | reads (answer : ReadAnswer)
  | answer (writeFailure : Option String) (now : Nat)
  | sendNext
  | expire (now : Nat)

/-- What a call of the session with the PC gives away. -/
def givenBy (fromPhone : Bool) (s t : ReceiverClipboardState) (out : List ClipboardOutput) :
    List Given :=
  (out.filterMap fun
    | .send event => if event.carries then some (.frame event fromPhone) else none
    | _ => none) ++
  if t.nextTransferId = s.nextTransferId then [] else [.transfer t.nextTransferId fromPhone]

namespace HubWorld

variable (host : ClipboardHost) (w : HubWorld)

/-- What an output does to the clipboard and to `PhoneOrigin`. -/
def apply (fromPhone : Bool) : ClipboardOutput → HubWorld
  | .send _ => w
  | .writeText text => { w with held := ⟨some (.text text), some text, fromPhone⟩ }
  | .writeImage image => { w with held := ⟨some (.image image), none, fromPhone⟩ }
  | .record id => { w with recorded := some id }

/-- A call of the session with the PC, about content of this origin. -/
def pcCalls (fromPhone : Bool) (call : ClipboardM Bool) : HubWorld :=
  let turn := call w.pc
  let after := turn.output.foldl (fun w output => w.apply false output) w
  { after with
    pc := turn.state
    sendingFromPhone :=
      if turn.state.nextTransferId = w.pc.nextTransferId then w.sendingFromPhone else fromPhone
    given := w.given ++ givenBy fromPhone w.pc turn.state turn.output }

/-- `BackgroundClipboardRead::request` -/
def request : HubWorld :=
  match w.task with
  | some _ => { w with rerun := true }
  | none => { w with task := some { generation := w.pc.applyGeneration } }

/-- What a call on the state of the session with the PC finds. -/
def system (reading : Reading) (writeFailure : Option String) (now : Nat) : ClipboardSystem where
  current := reading.current
  currentText := reading.text
  writeFailure
  phoneContent := w.recorded
  now

/-- The offer of a background read. -/
def offerRead (reading : Reading) : ClipboardM Bool := do
  let current ← ReceiverClipboardState.system? reading.current
  ReceiverClipboardState.offerItem host (w.system reading none 0) current false

def exec : HubAction → Option HubWorld
  | .copy item text => some { w with held := { item, text } }
  | .phoneJoins peer observed =>
    let state : ReceiverClipboardState :=
      { tracker := { lastObserved := observed }, peer, recordsPhoneWrites := true }
    some { w with phones := w.phones ++ [{ state }] }
  | .phoneLeaves phone => some { w with phones := w.phones.eraseIdx phone }
  | .phoneCalls phone call system =>
    match w.phones[phone]? with
    | some ⟨state, []⟩ =>
      let turn := call.run host system state
      some { w with phones := w.phones.set phone ⟨turn.state, turn.output⟩ }
    | _ => none
  | .phoneGoesOn phone =>
    match w.phones[phone]? with
    | some ⟨state, output :: rest⟩ =>
      some ({ w with phones := w.phones.set phone ⟨state, rest⟩ }.apply true output)
    | _ => none
  | .changed => if w.turn.isNone then some w.request else none
  | .backgroundReads answer =>
    match w.task with
    | some ⟨generation, none⟩ =>
      some { w with task := some ⟨generation, some (w.held.read answer)⟩ }
    | _ => none
  | .backgroundFinished paused =>
    match w.turn, w.task with
    | none, some ⟨generation, some reading⟩ =>
      let stale : Bool := generation ≠ w.pc.applyGeneration
      let idle : HubWorld := { w with task := none, rerun := false }
      let idle := if w.rerun || stale then idle.request else idle
      if stale || paused then some idle
      else some (idle.pcCalls reading.fromPhone (w.offerRead host reading))
    | _, _ => none
  | .receive event => if w.turn.isNone then some { w with turn := some { event } } else none
  | .reads answer =>
    match w.turn with
    | some ⟨event, none⟩ => some { w with turn := some ⟨event, some (w.held.read answer)⟩ }
    | _ => none
  | .answer writeFailure now =>
    match w.turn with
    | some ⟨event, some reading⟩ =>
      some ({ w with turn := none }.pcCalls reading.fromPhone
        (ReceiverClipboardState.handleEvent host (w.system reading writeFailure now) event))
    | _ => none
  | .sendNext =>
    if w.turn.isNone then
      some (w.pcCalls w.sendingFromPhone ReceiverClipboardState.sendNextImageFrame)
    else none
  | .expire now =>
    if w.turn.isNone then
      some (w.pcCalls false (ReceiverClipboardState.expireIncoming
        { current := .ok none, currentText := .ok none, now }))
    else none

def machine : Machine HubWorld HubAction where
  exec w action := w.exec host action

/-- A session with a PC begins, which withholds phone content: whatever is on the clipboard,
    whoever wrote it, and whichever phones are there. -/
def start (held : Held) (recorded : Option ClipboardContentId) (phones : List PhoneClipboard)
    (peer : ClipboardPeerFeatures) (observed : Option ClipboardContentId) : HubWorld where
  held
  recorded
  phones
  pc := { tracker := { lastObserved := observed }, peer, withholdsPhoneContent := true }

/-! ## What is given away -/

/-- Nothing that a phone wrote was given away. -/
def Withheld : Prop := ∀ given ∈ w.given, given.fromPhone = false

/-- The offer is not one that `offer_item` holds back as what `PhoneOrigin` holds. -/
def passes (offer : Option (ClipboardItem × Bool)) : Bool :=
  offer.any fun entry => !(entry.2 && w.recorded = some (entry.1.id host.codecs))

/-- The offer that a background read makes unless it is withheld. -/
def toOffer (reading : Reading) : Option (ClipboardItem × Bool) :=
  match reading.current with
  | .ok current => (w.pc.toOffer host current false).map (·, true)
  | .error _ => none

/-- The action is about to offer what a phone wrote, without the check of `offer_item` or while
    `PhoneOrigin` holds something else. -/
def discloses : HubAction → Bool
  | .answer writeFailure now =>
    match w.turn with
    | some ⟨event, some reading⟩ => reading.fromPhone && w.passes host
        (w.pc.toAnswer host (w.system reading writeFailure now) event)
    | _ => false
  | .backgroundFinished paused =>
    match w.task with
    | some ⟨generation, some reading⟩ => reading.fromPhone &&
        (!paused && generation = w.pc.applyGeneration && w.passes host (w.toOffer host reading))
    | _ => false
  | _ => false

/-- The session withholds, and an outgoing transfer of phone content was noted as given away. -/
structure Sound : Prop where
  withholds : w.pc.withholdsPhoneContent = true
  sending : w.Withheld → w.sendingFromPhone = false

variable {host : ClipboardHost} {w v : HubWorld}

/-! ## One call -/

theorem followingId_ne {s : ReceiverClipboardState} : s.followingId ≠ s.nextTransferId := by
  unfold ReceiverClipboardState.followingId
  split
  · rename_i wrapped
    intro same
    rw [← same] at wrapped
    exact absurd wrapped (by decide)
  · intro same
    have one : (1 : UInt64) = 0 := by
      calc (1 : UInt64) = s.nextTransferId + 1 - s.nextTransferId := by
            rw [UInt64.add_comm, UInt64.add_sub_cancel]
        _ = 0 := by rw [same, UInt64.sub_self]
    cases one

variable {s t : ReceiverClipboardState} {out : List ClipboardOutput} {fromPhone : Bool}

theorem givenBy_fromPhone {given : Given} (found : given ∈ givenBy fromPhone s t out) :
    given.fromPhone = fromPhone := by
  rcases List.mem_append.mp found with found | found
  · obtain ⟨output, -, same⟩ := List.mem_filterMap.mp found
    cases output with
    | send event =>
      by_cases carries : event.carries = true
      · simp only [carries, if_true] at same
        cases same
        rfl
      · simp only [carries, if_false, Bool.false_eq_true] at same
        cases same
    | _ => cases same
  · by_cases same : t.nextTransferId = s.nextTransferId
    · rw [if_pos same] at found
      cases found
    · rw [if_neg same] at found
      cases List.mem_singleton.mp found
      rfl

/-- Something is given away exactly if something is offered. -/
theorem givenBy_eq_nil {offers : Bool}
    (outcome : ReceiverClipboardState.Outcome s t out offers) :
    givenBy fromPhone s t out = [] ↔ offers = false := by
  have quiet (silent : ∀ event, .send event ∈ out → event.carries = false) :
      (out.filterMap fun
        | .send event => if event.carries then some (Given.frame event fromPhone) else none
        | _ => none) = [] := by
    refine List.filterMap_eq_nil_iff.mpr fun output found => ?_
    cases output with
    | send event => simp [silent event found]
    | _ => rfl
  cases outcome with
  | kept silent same kind =>
    refine iff_of_true ?_ rfl
    rw [givenBy, quiet silent, if_pos same]
    rfl
  | said event found carries same kind =>
    refine iff_of_false (fun none => ?_) (by simp)
    have frames := (List.append_eq_nil_iff.mp none).1
    have skipped := List.filterMap_eq_nil_iff.mp frames _ found
    simp [carries] at skipped
  | began silent following kind =>
    refine iff_of_false (fun none => ?_) (by simp)
    have transfers := (List.append_eq_nil_iff.mp none).2
    rw [if_neg (following ▸ followingId_ne)] at transfers
    cases transfers

theorem pcCalls_withheld {call : ClipboardM Bool} : (w.pcCalls fromPhone call).Withheld ↔
    w.Withheld ∧ (givenBy fromPhone w.pc (call w.pc).state (call w.pc).output = [] ∨
      fromPhone = false) := by
  constructor
  · intro withheld
    refine ⟨fun given found => withheld given (List.mem_append_left _ found), ?_⟩
    cases new : givenBy fromPhone w.pc (call w.pc).state (call w.pc).output with
    | nil => exact .inl rfl
    | cons given rest =>
      have found : given ∈ givenBy fromPhone w.pc (call w.pc).state (call w.pc).output := by
        rw [new]
        exact List.mem_cons_self
      right
      rw [← givenBy_fromPhone found]
      exact withheld given (List.mem_append_right _ found)
  · rintro ⟨withheld, none⟩ given found
    rcases List.mem_append.mp found with old | new
    · exact withheld given old
    · rcases none with none | clean
      · rw [none] at new
        cases new
      · rw [givenBy_fromPhone new, clean]

theorem Sound.pcCalls {call : ClipboardM Bool} (sound : w.Sound)
    (kind : (call w.pc).state.withholdsPhoneContent = w.pc.withholdsPhoneContent) :
    (w.pcCalls fromPhone call).Sound := by
  refine ⟨kind.trans sound.withholds, fun withheld => ?_⟩
  obtain ⟨before, none⟩ := pcCalls_withheld.mp withheld
  show (if (call w.pc).state.nextTransferId = w.pc.nextTransferId then w.sendingFromPhone
    else fromPhone) = false
  by_cases same : (call w.pc).state.nextTransferId = w.pc.nextTransferId
  · rw [if_pos same]
    exact sound.sending before
  · rw [if_neg same]
    rcases none with none | clean
    · have transfers := (List.append_eq_nil_iff.mp none).2
      rw [if_neg same] at transfers
      cases transfers
    · exact clean

/-! ## Every action -/

/-- The session with the PC is where it was. -/
structure Alike (w v : HubWorld) : Prop where
  pc : v.pc = w.pc
  given : v.given = w.given
  sending : v.sendingFromPhone = w.sendingFromPhone

theorem Alike.withheld (alike : w.Alike v) : v.Withheld ↔ w.Withheld := by
  unfold Withheld
  rw [alike.given]

theorem Alike.sound (alike : w.Alike v) (sound : w.Sound) : v.Sound := by
  refine ⟨?_, fun withheld => ?_⟩
  · rw [alike.pc]
    exact sound.withholds
  · rw [alike.sending]
    exact sound.sending (alike.withheld.mp withheld)

theorem alike_apply {output : ClipboardOutput} : w.Alike (w.apply fromPhone output) := by
  cases output <;> exact ⟨rfl, rfl, rfl⟩

theorem alike_request : w.Alike w.request := by
  unfold request
  cases w.task <;> exact ⟨rfl, rfl, rfl⟩

/-- What an action does: nothing at the session with the PC, or a call there. -/
structure Answered (host : ClipboardHost) (w : HubWorld) (action : HubAction) (v : HubWorld) :
    Prop where
  sound : v.Sound
  withheld : v.Withheld ↔ w.Withheld ∧ w.discloses host action = false

theorem Alike.answered {action : HubAction} (alike : w.Alike v) (sound : w.Sound)
    (quiet : w.discloses host action = false) : Answered host w action v :=
  ⟨alike.sound sound, alike.withheld.trans (iff_self_and.mpr fun _ => quiet)⟩

/-- A call that offers what passes. -/
theorem Sound.answered {action : HubAction} {call : ClipboardM Bool} {offers : Bool} {u : HubWorld}
    (sound : w.Sound) (alike : w.Alike u)
    (outcome : call.wp
      (fun _ t out => ReceiverClipboardState.Outcome w.pc t out offers) w.pc)
    (discloses : w.discloses host action = (fromPhone && offers)) :
    Answered host w action (u.pcCalls fromPhone call) := by
  have outcome : ReceiverClipboardState.Outcome u.pc (call u.pc).state (call u.pc).output
      offers := by
    rw [alike.pc]
    exact outcome
  constructor
  · refine (alike.sound sound).pcCalls ?_
    cases outcome <;> assumption
  · rw [pcCalls_withheld, alike.withheld, givenBy_eq_nil outcome, discloses]
    cases offers <;> cases fromPhone <;> simp

theorem offersAny_eq_passes {system : ClipboardSystem} {offer : Option (ClipboardItem × Bool)}
    (sound : w.Sound) (origin : system.phoneContent = w.recorded) :
    w.pc.offersAny host system offer = w.passes host offer := by
  unfold ReceiverClipboardState.offersAny passes ReceiverClipboardState.withholds
  simp only [sound.withholds, Bool.true_and, origin]

theorem offerRead_outcome {reading : Reading} (sound : w.Sound) :
    (w.offerRead host reading).wp (fun _ t out => ReceiverClipboardState.Outcome w.pc t out
      (w.passes host (w.toOffer host reading))) w.pc := by
  rw [← @offersAny_eq_passes host w (w.system reading none 0) _ sound rfl]
  unfold offerRead toOffer
  cases reading.current with
  | error error => exact ReceiverClipboardState.outcome_of_eq (fun _ => List.not_mem_nil) rfl rfl
  | ok current =>
    rw [ReceiverClipboardState.offersAny_map]
    have outcome := @ReceiverClipboardState.offerItem_outcome host (w.system reading none 0) w.pc
      current false
    exact outcome

theorem expireIncoming_kind {system : ClipboardSystem} :
    (ReceiverClipboardState.expireIncoming system s).state.withholdsPhoneContent =
      s.withholdsPhoneContent := by
  have kept : (ReceiverClipboardState.expireIncoming system).wp
      (fun _ t _ => t.withholdsPhoneContent = s.withholdsPhoneContent) s := by
    unfold ReceiverClipboardState.expireIncoming
    simp only [wp_bind, wp_read, wp_update]
    split <;> rfl
  exact kept

/-- The next frame of a transfer says no more than the transfer. -/
theorem sendNext_spec : (ReceiverClipboardState.sendNextImageFrame s).state.nextTransferId =
      s.nextTransferId ∧
    (ReceiverClipboardState.sendNextImageFrame s).state.withholdsPhoneContent =
      s.withholdsPhoneContent := by
  have kept : ReceiverClipboardState.sendNextImageFrame.wp
      (fun _ t _ => t.nextTransferId = s.nextTransferId ∧
        t.withholdsPhoneContent = s.withholdsPhoneContent) s := by
    unfold ReceiverClipboardState.sendNextImageFrame
    simp only [wp_bind, wp_read]
    split
    · exact ⟨rfl, rfl⟩
    · split
      · exact ⟨rfl, rfl⟩
      · simp only [wp_bind, wp_update, wp_emit, wp_ite, wp_pure]
        exact ⟨fun _ => ⟨trivial, trivial⟩, fun _ => ⟨trivial, trivial⟩⟩
  exact kept

theorem Sound.exec {action : HubAction} (sound : w.Sound)
    (executed : w.exec host action = some v) : Answered host w action v := by
  cases action with
  | copy item text =>
    cases executed
    exact Alike.answered ⟨rfl, rfl, rfl⟩ sound rfl
  | phoneJoins peer observed =>
    cases executed
    exact Alike.answered ⟨rfl, rfl, rfl⟩ sound rfl
  | phoneLeaves phone =>
    cases executed
    exact Alike.answered ⟨rfl, rfl, rfl⟩ sound rfl
  | phoneCalls phone call system =>
    simp only [HubWorld.exec] at executed
    split at executed
    · cases executed
      exact Alike.answered ⟨rfl, rfl, rfl⟩ sound rfl
    · cases executed
  | phoneGoesOn phone =>
    simp only [HubWorld.exec] at executed
    split at executed
    · cases executed
      rename_i state output rest found
      have after := @alike_apply { w with phones := w.phones.set phone ⟨state, rest⟩ } true output
      exact Alike.answered ⟨after.pc, after.given, after.sending⟩ sound rfl
    · cases executed
  | changed =>
    simp only [HubWorld.exec, Option.ite_none_right_eq_some, Option.some.injEq] at executed
    obtain ⟨-, rfl⟩ := executed
    exact alike_request.answered sound rfl
  | backgroundReads answer =>
    simp only [HubWorld.exec] at executed
    split at executed
    · cases executed
      exact Alike.answered ⟨rfl, rfl, rfl⟩ sound rfl
    · cases executed
  | backgroundFinished paused =>
    simp only [HubWorld.exec] at executed
    split at executed
    · rename_i generation reading idle task
      have alike : w.Alike (if (w.rerun || decide (generation ≠ w.pc.applyGeneration)) = true then
          HubWorld.request { w with task := none, rerun := false }
          else { w with task := none, rerun := false }) := by
        split
        · have after := alike_request (w := { w with task := none, rerun := false })
          exact ⟨after.pc, after.given, after.sending⟩
        · exact ⟨rfl, rfl, rfl⟩
      by_cases dropped : (decide (generation ≠ w.pc.applyGeneration) || paused) = true
      · rw [if_pos dropped] at executed
        cases executed
        refine alike.answered sound ?_
        simp only [discloses, task]
        by_cases stale : generation = w.pc.applyGeneration
        · have held : paused = true := by simpa [stale] using dropped
          simp [held]
        · simp [stale]
      · rw [if_neg dropped] at executed
        cases executed
        refine sound.answered alike (offerRead_outcome sound) ?_
        simp only [Bool.not_eq_true, Bool.or_eq_false_iff, decide_eq_false_iff_not,
          Decidable.not_not] at dropped
        simp [discloses, task, dropped.1, dropped.2]
    · cases executed
  | receive event =>
    simp only [HubWorld.exec, Option.ite_none_right_eq_some, Option.some.injEq] at executed
    obtain ⟨-, rfl⟩ := executed
    exact Alike.answered ⟨rfl, rfl, rfl⟩ sound rfl
  | reads answer =>
    simp only [HubWorld.exec] at executed
    split at executed
    · cases executed
      exact Alike.answered ⟨rfl, rfl, rfl⟩ sound rfl
    · cases executed
  | answer writeFailure now =>
    simp only [HubWorld.exec] at executed
    split at executed
    · rename_i event reading taken
      cases executed
      have outcome := @ReceiverClipboardState.handleEvent_outcome host
        (w.system reading writeFailure now) w.pc event
      rw [offersAny_eq_passes sound rfl] at outcome
      refine sound.answered ⟨rfl, rfl, rfl⟩ outcome ?_
      simp only [discloses, taken]
    · cases executed
  | sendNext =>
    simp only [HubWorld.exec, Option.ite_none_right_eq_some, Option.some.injEq] at executed
    obtain ⟨-, rfl⟩ := executed
    refine ⟨sound.pcCalls sendNext_spec.2, pcCalls_withheld.trans ?_⟩
    refine and_congr_right fun withheld => iff_of_true (.inr ?_) rfl
    exact sound.sending withheld
  | expire now =>
    simp only [HubWorld.exec, Option.ite_none_right_eq_some, Option.some.injEq] at executed
    obtain ⟨-, rfl⟩ := executed
    refine ⟨sound.pcCalls expireIncoming_kind, pcCalls_withheld.trans ?_⟩
    exact and_congr_right fun _ => iff_of_true (.inr rfl) rfl

/-! ## Every run -/

/-- In a run of a session with a PC nothing that a phone wrote is given away exactly if no action
    discloses it. -/
theorem phone_content_withheld {held : Held} {recorded : Option ClipboardContentId}
    {phones : List PhoneClipboard} {peer : ClipboardPeerFeatures}
    {observed : Option ClipboardContentId} {actions : List HubAction}
    (ran : (machine host).runList (start held recorded phones peer observed) actions = some w) :
    w.Withheld ↔ (machine host).allowedList (fun w action => !w.discloses host action)
      (start held recorded phones peer observed) actions = true := by
  have initial : (start held recorded phones peer observed).Sound := ⟨rfl, fun _ => rfl⟩
  have nothing : (start held recorded phones peer observed).Withheld :=
    fun _ found => absurd found List.not_mem_nil
  have kept : w.Withheld ↔ (start held recorded phones peer observed).Withheld ∧
      (machine host).allowedList (fun w action => !w.discloses host action)
        (start held recorded phones peer observed) actions = true := by
    refine iff_allowedList (I := Sound) ?_ ?_ actions initial ran
    · intro w action v executed sound
      exact (sound.exec executed).sound
    · intro w action v executed sound
      rw [Bool.not_eq_true']
      exact (sound.exec executed).withheld
  exact kept.trans (and_iff_right nothing)

instance : Decidable w.Withheld :=
  inferInstanceAs (Decidable (∀ given ∈ w.given, given.fromPhone = false))

/-! ### Runs -/

/-- SHA-256 for two texts. -/
def deskCodecs : Codecs :=
  { sampleCodecs with
    sha256 bytes :=
      if bytes = utf8 "code 42" then
        #v[223, 133, 137, 145, 67, 48, 175, 15, 51, 189, 236, 155, 196, 6, 245, 179, 60, 210, 12,
          121, 208, 157, 90, 247, 47, 94, 80, 167, 36, 167, 226, 122]
      else if bytes = utf8 "notes" then
        #v[171, 90, 169, 112, 116, 196, 84, 160, 99, 32, 87, 231, 4, 34, 13, 154, 102, 120, 251,
          247, 115, 160, 165, 128, 111, 192, 155, 129, 115, 176, 115, 9]
      else sampleCodecs.sha256 bytes }

def deskHost : ClipboardHost where
  codecs := deskCodecs
  config := { imagesEnabled := true, maxImageBytes := 64, maxBytes := 64 }
  fitsSecureFrame _ := true

def desk : HubWorld :=
  start {} none [] { images := true, textChunks := true } none

/-- A phone's text is written and recorded. -/
def phoneCopies : List HubAction :=
  [.phoneJoins { images := true, textChunks := false } none,
    .phoneCalls 0 (.handleEvent (.textOffer 1 "code 42"))
      { current := .ok none, currentText := .ok none },
    .phoneGoesOn 0, .phoneGoesOn 0]

/-- The change is heard of and the content asked for; then another text is copied. -/
def askedForContent : List HubAction :=
  phoneCopies ++ [.changed, .backgroundReads .content, .backgroundFinished false,
    .receive .contentRequest, .reads .content, .answer none 0,
    .copy (some (.text "notes")) (some "notes"), .receive .textRequest, .reads .content,
    .answer none 1]

theorem phone_content_withheld_asked : (reach (machine deskHost) desk askedForContent).Withheld ∧
    (reach (machine deskHost) desk askedForContent).given =
      [.frame (.textOffer 1 "notes") false] := by
  have enabled : ((machine deskHost).runList desk askedForContent).isSome := by decide +kernel
  exact ⟨(phone_content_withheld (runList_reach enabled)).mpr (by decide +kernel),
    by decide +kernel⟩

/-- The phone's text is recorded, and a request for text gives it away. -/
theorem phone_text_given_away : ∃ w, (machine deskHost).Run anyAction desk w ∧
    w.recorded = some (ClipboardItem.id deskCodecs (.text "code 42")) ∧
    w.given = [.frame (.textOffer 1 "code 42") true] ∧ ¬ w.Withheld := by
  have run : (machine deskHost).Run anyAction desk (reach (machine deskHost) desk
      (phoneCopies ++ [.receive .textRequest, .reads .content, .answer none 0])) :=
    run_reach _ (by decide +kernel)
  exact ⟨_, run, by decide +kernel, by decide +kernel, by decide +kernel⟩

end HubWorld

end EdgeKvm.Clipboard
