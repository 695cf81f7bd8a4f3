import EdgeKvm.Clipboard.RoundTrip
import Mathlib.Data.List.Induction

/-!
# What an incoming transfer takes in

An `IncomingClipboardTransfer` over any sequence of events and expiry calls: an item is returned
only for a start that was accepted and not ended since, and consists of the chunks accepted since
then.
-/

namespace EdgeKvm.Clipboard

open EdgeKvm.Lib

inductive IncomingCall where
  | handle (event : ClipboardEvent) (limits : TransferLimits) (now : Nat)
  | expire (now : Nat)
  deriving DecidableEq, Repr

namespace IncomingClipboardTransfer

variable (codecs : Codecs)

def call (t : IncomingClipboardTransfer) : IncomingCall → Received × IncomingClipboardTransfer
  | .handle event limits now => t.handle codecs event limits now
  | .expire now => ((t.expire now).1.map fun _ => none, (t.expire now).2)

/-- One call after what was called before it. -/
def push (history : List (IncomingCall × Received) × IncomingClipboardTransfer)
    (call : IncomingCall) : List (IncomingCall × Received) × IncomingClipboardTransfer :=
  (history.1 ++ [(call, (history.2.call codecs call).1)], (history.2.call codecs call).2)

/-- All calls, with what they returned, and the transfer behind them. -/
def run (calls : List IncomingCall) :
    List (IncomingCall × Received) × IncomingClipboardTransfer :=
  calls.foldl (push codecs) ([], {})

theorem run_append_singleton (calls : List IncomingCall) (c : IncomingCall) :
    run codecs (calls ++ [c]) = push codecs (run codecs calls) c := by
  rw [run, List.foldl_append]
  rfl

end IncomingClipboardTransfer

/-! ## What a start announces -/

structure Announcement where
  transferId : UInt64
  kind : IncomingKind
  totalBytes : Nat
  limit : Nat
  contentSha256 : Digest
  deriving DecidableEq, Repr

namespace IncomingCall

/-- What a start frame announces, and the limit it is checked against. -/
def announces : IncomingCall → Option Announcement
  | .handle (.imageStart id _ width height total hash) limits _ =>
    some ⟨id, .image width height, total.toNat, limits.maxImageBytes, hash⟩
  | .handle (.textStart id _ total hash) limits _ =>
    some ⟨id, .text, total.toNat, limits.maxTextBytes, hash⟩
  | _ => none

/-- The id and kind that an end frame names. -/
def ending : IncomingCall → Option (UInt64 × Bool)
  | .handle (.imageEnd id) _ _ => some (id, false)
  | .handle (.textEnd id) _ _ => some (id, true)
  | _ => none

/-- The id, the kind and the bytes of a chunk. -/
def chunk : IncomingCall → Option (UInt64 × Bool × List UInt8)
  | .handle (.imageChunk id _ bytes) _ _ => some (id, false, bytes)
  | .handle (.textChunk id _ bytes) _ _ => some (id, true, bytes)
  | _ => none

def cancels : IncomingCall → Option UInt64
  | .handle (.imageCancel id _) _ _ => some id
  | _ => none

end IncomingCall

/-- The state in which an accepted start leaves the transfer. -/
def Announcement.started (a : Announcement) (now : Nat) : IncomingState :=
  ⟨a.transferId, a.kind, a.totalBytes, a.contentSha256, [], now⟩

/-- All a call can do to a transfer, with what it returns. -/
inductive Outcome (codecs : Codecs) (t : IncomingClipboardTransfer) (call : IncomingCall) :
    Received → IncomingClipboardTransfer → Prop
  | refused (error : ClipboardError) (named : t.active.isSome → call.ending = none)
      (frame : call.cancels = none ∧ ∀ now, call ≠ .expire now) :
      Outcome codecs t call (.error error) t
  | started (a : Announcement) (now : Nat) (announced : call.announces = some a)
      (positive : 0 < a.totalBytes) (within : a.totalBytes ≤ a.limit) :
      Outcome codecs t call (.ok none) { active := some (a.started now) }
  | extended (state : IncomingState) (bytes : List UInt8) (now : Nat)
      (active : t.active = some state)
      (named : call.chunk = some (state.transferId, state.kind.isText, bytes))
      (room : state.bytes.length + bytes.length ≤ state.totalBytes) :
      Outcome codecs t call (.ok none) { active := some (state.extend bytes now) }
  | completed (state : IncomingState) (item : ClipboardItem) (limits : TransferLimits)
      (active : t.active = some state)
      (named : call.ending = some (state.transferId, state.kind.isText))
      (all : state.bytes.length = state.totalBytes)
      (whole : state.item codecs limits = .ok item) : Outcome codecs t call (.ok (some item)) {}
  | dropped (state : IncomingState) (error : ClipboardError) (active : t.active = some state)
      (ended : call.ending.isSome) : Outcome codecs t call (.error error) {}
  | cancelled (state : IncomingState) (active : t.active = some state)
      (named : call.cancels = some state.transferId) : Outcome codecs t call (.ok none) {}
  | kept (cancelled : ∀ state, t.active = some state → call.cancels ≠ some state.transferId)
      (other : call.cancels.isSome ∨ ∃ now, call = .expire now) : Outcome codecs t call (.ok none) t
  | expired (state : IncomingState) (now : Nat) (active : t.active = some state)
      (expiring : call = .expire now) : Outcome codecs t call (.error .transferExpired) {}

namespace Outcome

variable {codecs : Codecs} {t : IncomingClipboardTransfer} {event : ClipboardEvent}
  {limits : TransferLimits} {now : Nat}

theorem start {a : Announcement}
    (announced : (IncomingCall.handle event limits now).announces = some a)
    (frame : (IncomingCall.handle event limits now).ending = none ∧
      (IncomingCall.handle event limits now).cancels = none) :
    Outcome codecs t (.handle event limits now)
      (t.start now a.transferId a.kind a.totalBytes a.limit a.contentSha256).1
      (t.start now a.transferId a.kind a.totalBytes a.limit a.contentSha256).2 := by
  unfold IncomingClipboardTransfer.start
  split
  · exact .refused _ (fun _ => frame.1) ⟨frame.2, by simp⟩
  · rename_i accepted
    rw [not_or] at accepted
    exact .started a now announced (Nat.pos_of_ne_zero accepted.1) (Nat.le_of_not_lt accepted.2)

theorem chunk {transferId : UInt64} {text : Bool} {offset : UInt32} {bytes : List UInt8}
    (named : (IncomingCall.handle event limits now).chunk = some (transferId, text, bytes))
    (frame : (IncomingCall.handle event limits now).ending = none ∧
      (IncomingCall.handle event limits now).cancels = none) :
    Outcome codecs t (.handle event limits now) (t.chunk now transferId text offset bytes).1
      (t.chunk now transferId text offset bytes).2 := by
  have refused : ∀ error, Outcome codecs t (.handle event limits now) (.error error) t :=
    fun error => .refused error (fun _ => frame.1) ⟨frame.2, by simp⟩
  unfold IncomingClipboardTransfer.chunk
  split
  · exact refused _
  · rename_i state active
    by_cases other : state.transferId ≠ transferId ∨ state.kind.isText ≠ text
    · simpa only [other, if_true] using refused _
    · simp only [other, if_false]
      split
      · exact refused _
      · split
        · exact refused _
        · rename_i fits
          simp only [not_or, not_not, ne_eq, Nat.not_lt] at other fits
          exact .extended state bytes now active (by rw [named, other.1, other.2]) fits.2.2

theorem finish {transferId : UInt64} {text : Bool}
    (named : (IncomingCall.handle event limits now).ending = some (transferId, text))
    (frame : (IncomingCall.handle event limits now).cancels = none) :
    Outcome codecs t (.handle event limits now) (t.finish codecs transferId text limits).1
      (t.finish codecs transferId text limits).2 := by
  unfold IncomingClipboardTransfer.finish
  split
  · rename_i none
    exact .refused _ (by simp [none]) ⟨frame, by simp⟩
  · rename_i state active
    split
    · exact .dropped state _ active (by simp [named])
    · rename_i ended
      simp only [not_or, not_not, ne_eq] at ended
      cases item : state.item codecs limits with
      | error error => exact .dropped state error active (by simp [named])
      | ok item' =>
        exact .completed state item' limits active (by rw [named, ended.1, ended.2.1]) ended.2.2 item

end Outcome

theorem call_outcome (codecs : Codecs) (t : IncomingClipboardTransfer) (call : IncomingCall) :
    Outcome codecs t call (t.call codecs call).1 (t.call codecs call).2 := by
  cases call with
  | expire now =>
    simp only [IncomingClipboardTransfer.call, IncomingClipboardTransfer.expire,
      IncomingClipboardTransfer.expireTransferId]
    cases active : t.active with
    | none => exact .kept (by simp [active]) (.inr ⟨now, rfl⟩)
    | some state =>
      by_cases late : imageTransferTimeout < now - state.lastProgress
      · simp only [late, if_true]
        exact .expired state now active rfl
      · simp only [late, if_false]
        exact .kept (fun _ _ => by simp [IncomingCall.cancels]) (.inr ⟨now, rfl⟩)
  | handle event limits now =>
    cases event with
    | imageStart id sequence width height total hash =>
      simp only [IncomingClipboardTransfer.call, IncomingClipboardTransfer.handle]
      cases IncomingClipboardTransfer.imageDimensions width height with
      | error error => exact .refused _ (fun _ => rfl) ⟨rfl, by simp⟩
      | ok => exact .start (a := ⟨_, _, _, _, _⟩) rfl ⟨rfl, rfl⟩
    | textStart id sequence total hash => exact .start (a := ⟨_, _, _, _, _⟩) rfl ⟨rfl, rfl⟩
    | imageChunk id offset bytes => exact .chunk rfl ⟨rfl, rfl⟩
    | textChunk id offset bytes => exact .chunk rfl ⟨rfl, rfl⟩
    | imageEnd id => exact .finish rfl rfl
    | textEnd id => exact .finish rfl rfl
    | imageCancel id reason =>
      simp only [IncomingClipboardTransfer.call, IncomingClipboardTransfer.handle]
      cases active : t.active with
      | none => exact .kept (by simp [active]) (.inl rfl)
      | some state =>
        by_cases named : state.transferId = id
        · simp only [Option.any_some, named, decide_true, if_true]
          exact .cancelled state active (by rw [named]; rfl)
        · simp only [Option.any_some, named, decide_false]
          refine .kept (fun other same => ?_) (.inl rfl)
          cases active.symm.trans same
          exact fun cancels => named (Option.some.inj cancels).symm
    | _ => exact .refused _ (fun _ => rfl) ⟨rfl, by simp⟩

/-! ## What was taken in since a start -/

/-- A step after which nothing is left of a transfer: an accepted start, an end that gave an item,
    a cancel that names it, an expiry. -/
def Ends (transferId : UInt64) (step : IncomingCall × Received) : Prop :=
  (step.1.announces.isSome ∧ step.2 = .ok none) ∨ (∃ item, step.2 = .ok (some item)) ∨
    step.1.cancels = some transferId ∨
    (∃ now, step.1 = .expire now ∧ step.2 = .error .transferExpired)

/-- The bytes of the chunks that were accepted. -/
def acceptedBytes (history : List (IncomingCall × Received)) : List UInt8 :=
  history.flatMap fun step =>
    match step.1.chunk, step.2 with
    | some (_, _, bytes), .ok none => bytes
    | _, _ => []

/-- The last start that was accepted is `a`, it has not ended, and `bytes` are the chunks accepted
    since. -/
def Since (history : List (IncomingCall × Received)) (a : Announcement) (bytes : List UInt8) :
    Prop :=
  ∃ before start between, history = before ++ start :: between ∧ start.1.announces = some a ∧
    start.2 = .ok none ∧ (∀ step ∈ between, ¬ Ends a.transferId step) ∧
    bytes = acceptedBytes between

theorem Since.push {history : List (IncomingCall × Received)} {a : Announcement}
    {bytes : List UInt8} {step : IncomingCall × Received} (since : Since history a bytes)
    (goesOn : ¬ Ends a.transferId step) :
    Since (history ++ [step]) a (bytes ++ acceptedBytes [step]) := by
  obtain ⟨before, start, between, rfl, announced, accepted, quiet, rfl⟩ := since
  refine ⟨before, start, between ++ [step], by simp, announced, accepted, ?_, ?_⟩
  · intro other member
    rcases List.mem_append.mp member with member | member
    · exact quiet other member
    · rw [List.mem_singleton.mp member]
      exact goesOn
  · rw [acceptedBytes, acceptedBytes, acceptedBytes, List.flatMap_append]

/-- The active transfer is what was announced, and holds what was accepted since. -/
structure Taken (history : List (IncomingCall × Received)) (state : IncomingState)
    (a : Announcement) : Prop where
  since : Since history a state.bytes
  transferId : state.transferId = a.transferId
  kind : state.kind = a.kind
  total : state.totalBytes = a.totalBytes
  hash : state.contentSha256 = a.contentSha256
  within : state.bytes.length ≤ a.totalBytes
  limited : a.totalBytes ≤ a.limit

/-- Whatever is active was announced. -/
def Inv (history : List (IncomingCall × Received) × IncomingClipboardTransfer) : Prop :=
  ∀ state, history.2.active = some state → ∃ a, Taken history.1 state a

/-- A chunk is neither a start nor a cancel. -/
theorem frames_of_chunk {call : IncomingCall} {chunk : UInt64 × Bool × List UInt8}
    (named : call.chunk = some chunk) :
    call.announces = none ∧ call.cancels = none ∧ call.ending = none ∧
      ∀ now, call ≠ .expire now := by
  cases call with
  | expire now => cases named
  | handle event limits now => cases event <;> first | exact ⟨rfl, rfl, rfl, by simp⟩ | cases named

/-- A cancel is neither a start nor a chunk. -/
theorem frames_of_cancels {call : IncomingCall} (cancels : call.cancels.isSome ∨
    ∃ now, call = .expire now) :
    call.announces = none ∧ call.chunk = none ∧ call.ending = none := by
  cases call with
  | expire now => exact ⟨rfl, rfl, rfl⟩
  | handle event limits now =>
    have cancels : (IncomingCall.handle event limits now).cancels.isSome := by simpa using cancels
    cases event <;> first | exact ⟨rfl, rfl, rfl⟩ | cases cancels

/-- An end is not a start. -/
theorem announces_of_ending {call : IncomingCall} (ending : call.ending.isSome) :
    call.announces = none := by
  cases call with
  | expire now => rfl
  | handle event limits now => cases event <;> first | rfl | cases ending

variable {codecs : Codecs} {t t' : IncomingClipboardTransfer} {call : IncomingCall}
  {received : Received} {history : List (IncomingCall × Received)} {state : IncomingState}

theorem Taken.push {a : Announcement} (taken : Taken history state a)
    (goesOn : ¬ Ends a.transferId (call, received)) (nothing : acceptedBytes [(call, received)] = []) :
    Taken (history ++ [(call, received)]) state a := by
  refine { taken with since := ?_ }
  have since := taken.since.push goesOn
  rwa [nothing, List.append_nil] at since

/-- One more call: what is active was announced. -/
theorem Outcome.taken (outcome : Outcome codecs t call received t')
    (inv : ∀ state, t.active = some state → ∃ a, Taken history state a)
    (active : t'.active = some state) : ∃ a, Taken (history ++ [(call, received)]) state a := by
  cases outcome with
  | refused error named frame =>
    obtain ⟨a, taken⟩ := inv state active
    refine ⟨a, taken.push ?_ (by simp [acceptedBytes])⟩
    rintro (⟨-, ok⟩ | ⟨_, ok⟩ | cancels | ⟨now, expire, -⟩)
    · cases ok
    · cases ok
    · rw [frame.1] at cancels
      cases cancels
    · exact frame.2 now expire
  | started a now announced positive within =>
    obtain rfl := Option.some.inj active
    exact ⟨a, ⟨history, _, [], rfl, announced, rfl, by simp, rfl⟩, rfl, rfl, rfl, rfl,
      Nat.zero_le _, within⟩
  | extended before bytes now was named room =>
    obtain rfl := Option.some.inj active
    obtain ⟨announces, cancels, -, expire⟩ := frames_of_chunk named
    obtain ⟨a, taken⟩ := inv before was
    have goesOn : ¬ Ends a.transferId (call, .ok none) := by
      rintro (⟨starts, -⟩ | ⟨_, ok⟩ | names | ⟨now, expires, -⟩)
      · simp [announces] at starts
      · cases ok
      · simp [cancels] at names
      · exact expire now expires
    have since := taken.since.push goesOn
    have added : acceptedBytes [(call, .ok none)] = bytes := by simp [acceptedBytes, named]
    rw [added] at since
    refine ⟨a, since, taken.transferId, taken.kind, taken.total, taken.hash, ?_, taken.limited⟩
    rw [← taken.total, IncomingState.extend, List.length_append]
    exact room
  | completed before item limits was named all whole => cases active
  | dropped before error was ended => cases active
  | cancelled before was named => cases active
  | kept uncancelled other =>
    obtain ⟨announces, chunk, -⟩ := frames_of_cancels other
    obtain ⟨a, taken⟩ := inv state active
    refine ⟨a, taken.push ?_ (by simp [acceptedBytes, chunk])⟩
    rintro (⟨starts, -⟩ | ⟨_, ok⟩ | names | ⟨now, -, error⟩)
    · simp [announces] at starts
    · cases ok
    · exact uncancelled state active (by rw [taken.transferId]; exact names)
    · cases error
  | expired before now was expiring => cases active

/-- Whatever is active after any calls was announced by one of them. -/
theorem run_inv (codecs : Codecs) (calls : List IncomingCall) :
    Inv (IncomingClipboardTransfer.run codecs calls) := by
  induction calls using List.reverseRecOn with
  | nil =>
    intro state active
    cases active
  | append_singleton calls call ih =>
    rw [IncomingClipboardTransfer.run_append_singleton]
    intro state active
    exact (call_outcome codecs _ call).taken ih active

/-! ## Integrity -/

/-- An event about another transfer, or about one of the other kind. -/
def IncomingState.NamesOther (state : IncomingState) : ClipboardEvent → Prop
  | .imageStart id _ _ _ _ _ | .imageChunk id _ _ | .imageEnd id =>
    id ≠ state.transferId ∨ state.kind.isText = true
  | .textStart id _ _ _ | .textChunk id _ _ | .textEnd id =>
    id ≠ state.transferId ∨ state.kind.isText = false
  | .imageCancel id _ => id ≠ state.transferId
  | .textOffer .. | .textRequest | .contentRequest => False

/-- An item that `bytes` say, which were announced with its kind, its size and its hash. -/
def ClipboardItem.MadeOf (codecs : Codecs) (a : Announcement) (bytes : List UInt8) :
    ClipboardItem → Prop
  | .text s => a.kind = .text ∧ utf8 s = bytes ∧ hashBytes codecs bytes = a.contentSha256
  | .image picture => a.kind = .image picture.width picture.height ∧
    (∃ maxBytes, CanonicalImage.fromEncoded codecs bytes "image/png" maxBytes = .ok picture) ∧
    hashImage codecs picture.width picture.height picture.rgba = a.contentSha256

/-- What a call after `earlier` ones returns and leaves. -/
structure IntegrityAt (codecs : Codecs) (earlier : List IncomingCall) (call : IncomingCall) :
    Prop where
  item : ∀ item, ((IncomingClipboardTransfer.run codecs earlier).2.call codecs call).1 =
    .ok (some item) → ∃ a bytes, Since (IncomingClipboardTransfer.run codecs earlier).1 a bytes ∧
      call.ending = some (a.transferId, a.kind.isText) ∧ bytes.length = a.totalBytes ∧
      item.MadeOf codecs a bytes
  buffer : ∀ state, ((IncomingClipboardTransfer.run codecs earlier).2.call codecs call).2.active =
    some state → ∃ a, Taken (IncomingClipboardTransfer.run codecs (earlier ++ [call])).1 state a
  other : ∀ event limits now state, call = .handle event limits now →
    (IncomingClipboardTransfer.run codecs earlier).2.active = some state → state.NamesOther event →
    ((IncomingClipboardTransfer.run codecs earlier).2.call codecs call).2.active = some state ∨
      call.announces.isSome ∧
        ((IncomingClipboardTransfer.run codecs earlier).2.call codecs call).1 = .ok none

/-- Every call keeps the transfer's integrity. -/
def Integrity (codecs : Codecs) (calls : List IncomingCall) : Prop :=
  ∀ earlier call later, calls = earlier ++ call :: later → IntegrityAt codecs earlier call

/-- While a transfer is active, an end names it. -/
def EndsNamed (codecs : Codecs) (calls : List IncomingCall) : Prop :=
  ∀ earlier call later, calls = earlier ++ call :: later → ∀ state,
    (IncomingClipboardTransfer.run codecs earlier).2.active = some state →
      ∀ named, call.ending = some named → named = (state.transferId, state.kind.isText)

/-- A decoded image carries the hash of its pixels. -/
theorem fromEncoded_hash {bytes : List UInt8} {mime : String} {maxBytes : Nat}
    {picture : CanonicalImage}
    (decoded : CanonicalImage.fromEncoded codecs bytes mime maxBytes = .ok picture) :
    picture.contentSha256 = hashImage codecs picture.width picture.height picture.rgba := by
  simp only [CanonicalImage.fromEncoded, unit_bind_eq_ok] at decoded
  obtain ⟨-, decoded⟩ := decoded
  obtain ⟨format, -, decoded⟩ := bind_eq_ok.mp decoded
  obtain ⟨⟨width, height⟩, -, decoded⟩ := bind_eq_ok.mp decoded
  simp only [unit_bind_eq_ok] at decoded
  obtain ⟨-, -, decoded⟩ := decoded
  obtain ⟨rgba, -, decoded⟩ := bind_eq_ok.mp decoded
  obtain ⟨-, png, -, -, rfl⟩ := fromRgba_eq_ok.mp decoded
  rfl

/-- What a complete transfer gives is made of its bytes. -/
theorem item_madeOf {limits : TransferLimits} {item : ClipboardItem} {a : Announcement}
    (taken : Taken history state a) (whole : state.item codecs limits = .ok item) :
    item.MadeOf codecs a state.bytes := by
  unfold IncomingState.item at whole
  split at whole
  · rename_i width height kind
    obtain ⟨picture, decoded, whole⟩ := bind_eq_ok.mp whole
    simp only [unit_bind_eq_ok, ensure_eq_ok, pure_eq_ok] at whole
    obtain ⟨⟨rfl, rfl, hash⟩, rfl⟩ := whole
    refine ⟨taken.kind.symm.trans kind, ⟨_, decoded⟩, ?_⟩
    rw [← fromEncoded_hash decoded, hash, taken.hash]
  · rename_i kind
    simp only [unit_bind_eq_ok, ensure_eq_ok] at whole
    obtain ⟨hash, whole⟩ := whole
    split at whole
    · rename_i s decoded
      obtain rfl := pure_eq_ok.mp whole
      exact ⟨taken.kind.symm.trans kind, utf8_of_fromUtf8 decoded, by rw [hash, taken.hash]⟩
    · cases whole

/-- After an end nothing is active. -/
theorem Outcome.ended (outcome : Outcome codecs t call received t') (active : t.active.isSome)
    (ending : call.ending.isSome) : t'.active = none := by
  cases outcome with
  | refused error named frame => simp [named active] at ending
  | started a now announced positive within =>
    simp [announces_of_ending ending] at announced
  | extended before bytes now was named room => simp [(frames_of_chunk named).2.2.1] at ending
  | kept uncancelled other => simp [(frames_of_cancels other).2.2] at ending
  | _ => rfl

/-- A chunk, an end or a cancel that names the active transfer is not about another one. -/
theorem not_namesOther {event : ClipboardEvent} {limits : TransferLimits} {now : Nat}
    (named : (∃ bytes, (IncomingCall.handle event limits now).chunk =
        some (state.transferId, state.kind.isText, bytes)) ∨
      (IncomingCall.handle event limits now).ending = some (state.transferId, state.kind.isText) ∨
      (IncomingCall.handle event limits now).cancels = some state.transferId) :
    ¬ state.NamesOther event := by
  cases event <;>
    simp_all [IncomingCall.chunk, IncomingCall.ending, IncomingCall.cancels,
      IncomingState.NamesOther]

/-- An end that does not name the active transfer is about another one. -/
theorem namesOther_of_ending {event : ClipboardEvent} {limits : TransferLimits} {now : Nat}
    {named : UInt64 × Bool} (ending : (IncomingCall.handle event limits now).ending = some named)
    (other : named ≠ (state.transferId, state.kind.isText)) : state.NamesOther event := by
  cases event with
  | imageEnd id =>
    obtain rfl := Option.some.inj ending
    by_cases same : id = state.transferId
    · right
      simpa [same] using other
    · exact .inl same
  | textEnd id =>
    obtain rfl := Option.some.inj ending
    by_cases same : id = state.transferId
    · right
      simpa [same] using other
    · exact .inl same
  | _ => cases ending

/-- Unless it is an end, an event about another transfer leaves the active one as it is or replaces
    it. -/
theorem Outcome.other {event : ClipboardEvent} {limits : TransferLimits} {now : Nat}
    (outcome : Outcome codecs t (.handle event limits now) received t')
    (active : t.active = some state) (other : state.NamesOther event)
    (ends : ∀ named, (IncomingCall.handle event limits now).ending = some named →
      named = (state.transferId, state.kind.isText)) :
    t'.active = some state ∨
      (IncomingCall.handle event limits now).announces.isSome ∧ received = .ok none := by
  cases outcome with
  | refused error named frame => exact .inl active
  | started a now announced positive within => exact .inr ⟨by simp [announced], rfl⟩
  | extended before bytes now was named room =>
    cases active.symm.trans was
    exact absurd other (not_namesOther (.inl ⟨bytes, named⟩))
  | completed before item limits was named all whole =>
    cases active.symm.trans was
    exact absurd other (not_namesOther (.inr (.inl named)))
  | dropped before error was ended =>
    obtain ⟨named, ending⟩ := Option.isSome_iff_exists.mp ended
    have same := ends named ending
    rw [same] at ending
    exact absurd other (not_namesOther (.inr (.inl ending)))
  | cancelled before was named =>
    cases active.symm.trans was
    exact absurd other (not_namesOther (.inr (.inr named)))
  | kept uncancelled other => exact .inl active
  | expired before now was expiring => cases expiring

/-- Over any calls an item is returned for the last accepted start only, and made of the chunks
    accepted since; the active transfer is left alone by events about others just when no end
    names another one. -/
theorem incoming_integrity (codecs : Codecs) (calls : List IncomingCall) :
    Integrity codecs calls ↔ EndsNamed codecs calls := by
  constructor
  · intro integrity earlier call later split state active named ending
    by_contra different
    cases call with
    | expire now => cases ending
    | handle event limits now =>
      have kept := (integrity earlier _ later split).other event limits now state rfl active
        (namesOther_of_ending ending different)
      rw [(call_outcome codecs _ _).ended (by simp [active]) (by simp [ending]),
        announces_of_ending (by simp [ending])] at kept
      simp at kept
  · intro named earlier call later split
    have outcome := call_outcome codecs (IncomingClipboardTransfer.run codecs earlier).2 call
    refine ⟨fun item returned => ?_, fun state active => ?_, ?_⟩
    · rw [returned] at outcome
      generalize ((IncomingClipboardTransfer.run codecs earlier).2.call codecs call).2 = after
        at outcome
      cases outcome with
      | completed state item limits active named all whole =>
        obtain ⟨a, taken⟩ := run_inv codecs earlier state active
        refine ⟨a, state.bytes, taken.since, ?_, by rw [all, taken.total], item_madeOf taken whole⟩
        rw [named, taken.transferId, taken.kind]
    · have inv := run_inv codecs (earlier ++ [call]) state
      rw [IncomingClipboardTransfer.run_append_singleton] at inv ⊢
      exact inv active
    · rintro event limits now state rfl active other
      exact outcome.other active other (named earlier _ later split state active)

/-- A text of three bytes is on its way. -/
def announcedText : IncomingCall :=
  .handle (.textStart 1 1 3 (Vector.replicate 32 0)) ⟨64, 64⟩ 0

/-- The end of another transfer. -/
def strayEnd : IncomingCall := .handle (.textEnd 2) ⟨64, 64⟩ 0

theorem strayEnd_drops : ¬ ∀ codecs calls, Integrity codecs calls := by
  intro claimed
  have kept := (claimed sampleCodecs [announcedText, strayEnd] [announcedText] strayEnd [] rfl).other
    (.textEnd 2) ⟨64, 64⟩ 0 ⟨1, .text, 3, Vector.replicate 32 0, [], 0⟩ rfl (by decide +kernel)
    (.inl (by decide))
  have dropped : ((IncomingClipboardTransfer.run sampleCodecs [announcedText]).2.call sampleCodecs
      strayEnd).2.active = none := by decide +kernel
  rw [dropped] at kept
  rcases kept with kept | ⟨starts, -⟩
  · cases kept
  · cases starts

end EdgeKvm.Clipboard
