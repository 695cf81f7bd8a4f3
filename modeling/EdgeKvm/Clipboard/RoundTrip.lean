import EdgeKvm.Clipboard.Transfer
import Mathlib.Tactic.Cases

/-!
# What is sent is what is received

The events of an `OutgoingClipboardTransfer`, from the first `next_event` to the `None` at its
end, and what an `IncomingClipboardTransfer` makes of them.
-/

namespace EdgeKvm.Clipboard

open EdgeKvm.Lib

namespace OutgoingClipboardTransfer

variable {t t' : OutgoingClipboardTransfer} {event : ClipboardEvent}

/-- How far a transfer is from its end. -/
def remaining (t : OutgoingClipboardTransfer) : Nat :=
  match t.stage with
  | .start => t.payload.bytes.length - t.offset + 3
  | .chunks => t.payload.bytes.length - t.offset + 2
  | .finish => 1
  | .done => 0

theorem remaining_nextEvent (next : t.nextEvent = (some event, t')) :
    t'.remaining < t.remaining := by
  unfold nextEvent at next
  cases stage : t.stage with
  | start =>
    obtain ⟨-, rfl⟩ : _ ∧ _ = t' := by simpa [stage] using next
    simp [remaining, stage]
  | chunks =>
    by_cases through : t.payload.bytes.length ≤ t.offset
    · obtain ⟨-, rfl⟩ : _ ∧ _ = t' := by simpa [stage, through] using next
      simp [remaining, stage]
    · obtain ⟨-, rfl⟩ : _ ∧ _ = t' := by simpa [stage, through] using next
      simp only [remaining, stage, transferChunkBytes]
      omega
  | finish =>
    obtain ⟨-, rfl⟩ : _ ∧ _ = t' := by simpa [stage] using next
    simp [remaining, stage]
  | done => simp [stage] at next

/-- The events of `next_event`, called until it returns `None`. -/
def events (t : OutgoingClipboardTransfer) : List ClipboardEvent :=
  match next : t.nextEvent with
  | (none, _) => []
  | (some event, t') => event :: t'.events
termination_by t.remaining
decreasing_by exact remaining_nextEvent next

theorem events_cons (next : t.nextEvent = (some event, t')) : t.events = event :: t'.events := by
  rw [events]
  split
  · rename_i none
    rw [next] at none
    cases none
  · rename_i some
    cases next.symm.trans some
    rfl

theorem events_nil (next : t.nextEvent = (none, t')) : t.events = [] := by
  rw [events]
  split
  · rfl
  · rename_i some
    rw [next] at some
    cases some

theorem events_done (done : t.stage = .done) : t.events = [] :=
  events_nil (by rw [nextEvent, done])

theorem events_through (chunks : t.stage = .chunks) (through : t.payload.bytes.length ≤ t.offset) :
    t.events = [t.endEvent] := by
  have next : t.nextEvent = (some t.endEvent, { t with stage := .done }) := by
    simp [nextEvent, chunks, through]
  rw [events_cons next, events_done rfl]

/-- The chunk frames of a transfer that is cut into `chunks` from `offset` on. -/
def chunkEvents (t : OutgoingClipboardTransfer) : Nat → List (List UInt8) → List ClipboardEvent
  | _, [] => []
  | offset, bytes :: chunks =>
    { t with offset }.chunkEvent bytes :: t.chunkEvents (offset + bytes.length) chunks

/-- The chunk frames depend on the payload and the id only. -/
theorem chunkEvents_eq (id : t.transferId = t'.transferId) (payload : t.payload = t'.payload) :
    ∀ (chunks : List (List UInt8)) (offset : Nat),
      t.chunkEvents offset chunks = t'.chunkEvents offset chunks := by
  intro chunks
  induction chunks with
  | nil => intro offset; rfl
  | cons bytes chunks ih =>
    intro offset
    rw [chunkEvents, chunkEvents, ih, chunkEvent, chunkEvent, id, payload]

/-- What is left of the payload is cut into chunks that are not empty and not too long. -/
theorem events_chunks : ∀ (n : Nat) (t : OutgoingClipboardTransfer), t.stage = .chunks →
    t.offset ≤ t.payload.bytes.length → t.payload.bytes.length - t.offset ≤ n →
    ∃ chunks : List (List UInt8), chunks.flatten = t.payload.bytes.drop t.offset ∧
      (∀ bytes ∈ chunks, bytes ≠ [] ∧ bytes.length ≤ transferChunkBytes) ∧
      t.events = t.chunkEvents t.offset chunks ++ [t.endEvent] := by
  intro n
  induction n with
  | zero =>
    intro t stage within short
    refine ⟨[], ?_, by simp, ?_⟩
    · rw [List.drop_eq_nil_of_le (by omega), List.flatten_nil]
    · exact events_through stage (by omega)
  | succ n ih =>
    intro t stage within short
    by_cases through : t.payload.bytes.length ≤ t.offset
    · refine ⟨[], ?_, by simp, events_through stage through⟩
      rw [List.drop_eq_nil_of_le through, List.flatten_nil]
    · obtain ⟨finish, finishEq⟩ : ∃ finish, finish =
          min (t.offset + transferChunkBytes) t.payload.bytes.length := ⟨_, rfl⟩
      obtain ⟨bytes, bytesEq⟩ : ∃ bytes, bytes =
          (t.payload.bytes.drop t.offset).take (finish - t.offset) := ⟨_, rfl⟩
      have next : t.nextEvent = (some (t.chunkEvent bytes), { t with offset := finish }) := by
        simp only [nextEvent, stage, through, if_false, finishEq, bytesEq]
      have ahead : t.offset < finish ∧ finish ≤ t.payload.bytes.length ∧
          finish - t.offset ≤ transferChunkBytes := by
        simp only [finishEq, transferChunkBytes]
        omega
      have length : bytes.length = finish - t.offset := by
        rw [bytesEq, List.length_take, List.length_drop]
        omega
      obtain ⟨chunks, whole, each, rest⟩ := ih { t with offset := finish } stage ahead.2.1
        (by simp only; omega)
      refine ⟨bytes :: chunks, ?_, ?_, ?_⟩
      · rw [List.flatten_cons, whole, bytesEq]
        have : t.payload.bytes.drop finish =
            (t.payload.bytes.drop t.offset).drop (finish - t.offset) := by
          rw [List.drop_drop]
          congr 1
          omega
        rw [this, List.take_append_drop]
      · intro c member
        rcases List.mem_cons.mp member with rfl | member
        · refine ⟨List.ne_nil_of_length_pos (by omega), by omega⟩
        · exact each c member
      · have same : { t with offset := finish }.chunkEvents finish chunks =
            t.chunkEvents finish chunks := chunkEvents_eq (by rfl) (by rfl) chunks finish
        rw [events_cons next, rest, chunkEvents, length,
          show t.offset + (finish - t.offset) = finish by omega, ← same]
        rfl

end OutgoingClipboardTransfer

/-! ## Receiving them -/

namespace IncomingClipboardTransfer

/-- `handle` on events that come in one after the other, each with its time. -/
def handleAll (codecs : Codecs) (limits : TransferLimits) :
    IncomingClipboardTransfer → List (ClipboardEvent × Nat) →
      List Received × IncomingClipboardTransfer
  | t, [] => ([], t)
  | t, (event, now) :: rest =>
    let handled := t.handle codecs event limits now
    let after := handleAll codecs limits handled.2 rest
    (handled.1 :: after.1, after.2)

variable {codecs : Codecs} {limits : TransferLimits}

theorem handleAll_append (t : IncomingClipboardTransfer) (first rest : List (ClipboardEvent × Nat)) :
    t.handleAll codecs limits (first ++ rest) =
      ((t.handleAll codecs limits first).1 ++
        ((t.handleAll codecs limits first).2.handleAll codecs limits rest).1,
        ((t.handleAll codecs limits first).2.handleAll codecs limits rest).2) := by
  induction first generalizing t with
  | nil => rfl
  | cons timed first ih => simp only [List.cons_append, handleAll, ih]

end IncomingClipboardTransfer

/-- An incoming transfer that takes in what `outgoing` sends. -/
structure IncomingState.Mirrors (state : IncomingState) (outgoing : OutgoingClipboardTransfer) :
    Prop where
  transferId : state.transferId = outgoing.transferId
  kind : state.kind.isText = outgoing.isText
  total : state.totalBytes = outgoing.payload.bytes.length

section Chunks

variable {codecs : Codecs} {limits : TransferLimits} {outgoing : OutgoingClipboardTransfer}

/-- A chunk at the end of what is there already is taken in. -/
theorem handle_chunk {state : IncomingState} (mirrors : state.Mirrors outgoing)
    {bytes : List UInt8} {now : Nat} (nonempty : bytes ≠ [])
    (short : bytes.length ≤ transferChunkBytes)
    (room : state.bytes.length + bytes.length ≤ outgoing.payload.bytes.length) :
    IncomingClipboardTransfer.handle codecs { active := some state }
        ({ outgoing with offset := state.bytes.length }.chunkEvent bytes) limits now =
      (.ok none, { active := some (state.extend bytes now) }) := by
  have kind := mirrors.kind
  have fits : ¬(bytes = [] ∨ transferChunkBytes < bytes.length ∨
      state.totalBytes < state.bytes.length + bytes.length) := by
    rw [mirrors.total]
    rintro (empty | long | beyond)
    · exact nonempty empty
    · omega
    · omega
  cases payload : outgoing.payload with
  | image picture =>
    have image : state.kind.isText = false := by simpa [OutgoingClipboardTransfer.isText, payload]
      using kind
    simp [OutgoingClipboardTransfer.chunkEvent, IncomingClipboardTransfer.handle,
      IncomingClipboardTransfer.chunk, mirrors.transferId, image, fits]
  | text textBytes hash =>
    have text : state.kind.isText = true := by simpa [OutgoingClipboardTransfer.isText, payload]
      using kind
    simp [OutgoingClipboardTransfer.chunkEvent, IncomingClipboardTransfer.handle,
      IncomingClipboardTransfer.chunk, mirrors.transferId, text, fits]

/-- The chunk frames of a transfer are taken in one after the other. -/
theorem handleAll_chunks {chunks : List (List UInt8)} :
    ∀ {state : IncomingState} {timed : List (ClipboardEvent × Nat)}, state.Mirrors outgoing →
      (∀ bytes ∈ chunks, bytes ≠ [] ∧ bytes.length ≤ transferChunkBytes) →
      state.bytes.length + chunks.flatten.length ≤ outgoing.payload.bytes.length →
      timed.map Prod.fst = outgoing.chunkEvents state.bytes.length chunks →
      ∃ last, IncomingClipboardTransfer.handleAll codecs limits { active := some state } timed =
        (List.replicate timed.length (.ok none),
          { active := some (state.extend chunks.flatten last) }) := by
  induction chunks with
  | nil =>
    intro state timed mirrors each room fed
    obtain rfl : timed = [] := by simpa [OutgoingClipboardTransfer.chunkEvents] using fed
    exact ⟨state.lastProgress, by simp [IncomingClipboardTransfer.handleAll, IncomingState.extend]⟩
  | cons bytes chunks ih =>
    intro state timed mirrors each room fed
    obtain ⟨⟨event, now⟩, rest, rfl, rfl, later⟩ := List.map_eq_cons_iff.mp fed
    obtain ⟨nonempty, short⟩ := each bytes List.mem_cons_self
    rw [List.flatten_cons, List.length_append] at room
    have later : rest.map Prod.fst =
        outgoing.chunkEvents (state.extend bytes now).bytes.length chunks := by
      rw [later, IncomingState.extend, List.length_append]
    have extended : (state.extend bytes now).Mirrors outgoing :=
      ⟨mirrors.transferId, mirrors.kind, mirrors.total⟩
    obtain ⟨last, handled⟩ := ih extended
      (fun bytes member => each bytes (List.mem_cons_of_mem _ member))
      (by rw [IncomingState.extend, List.length_append]; omega) later
    refine ⟨last, ?_⟩
    rw [IncomingClipboardTransfer.handleAll, handle_chunk mirrors nonempty short (by omega), handled]
    simp [IncomingState.extend, List.replicate_succ]

end Chunks

/-! ## Items -/

namespace ClipboardItem

/-- What is sent of an item. -/
def bytes : ClipboardItem → List UInt8
  | .text s => utf8 s
  | .image picture => picture.png

/-- The transfer that sends an item. -/
def outgoing (codecs : Codecs) (transferId sequence : UInt64) :
    ClipboardItem → OutgoingClipboardTransfer
  | .text s => .text codecs transferId sequence s
  | .image picture => .image transferId sequence picture

def limit (limits : TransferLimits) : ClipboardItem → Nat
  | .text _ => limits.maxTextBytes
  | .image _ => limits.maxImageBytes

/-- An item that the receiver's limits and the wire's lengths have room for; an image is one that
    `CanonicalImage::from_rgba` has made. -/
structure Sendable (codecs : Codecs) (limits : TransferLimits) (item : ClipboardItem) : Prop where
  nonempty : item.bytes ≠ []
  short : item.bytes.length < UInt32.size
  within : item.bytes.length ≤ item.limit limits
  canonical : ∀ picture, item = .image picture → ∃ maxBytes,
    CanonicalImage.fromRgba codecs picture.width picture.height picture.rgba maxBytes = .ok picture

end ClipboardItem

variable {codecs : Codecs} {limits : TransferLimits}

theorem validateDimensions_eq_ok {width height : UInt32} {length : Nat} {u : Unit} :
    validateDimensions width height length = .ok u ↔
      (width ≠ 0 ∧ height ≠ 0) ∧ width.toNat * height.toNat ≤ maxImagePixels ∧
        length = width.toNat * height.toNat * 4 := by
  simp only [validateDimensions, unit_bind_eq_ok, ensure_eq_ok]
  constructor
  · rintro ⟨positive, small, -, same⟩
    exact ⟨positive, small, same⟩
  · rintro ⟨positive, small, same⟩
    refine ⟨positive, small, ?_, same⟩
    simp only [UInt64.size]
    unfold maxImagePixels at small
    omega

/-- What `from_rgba` checks and computes. -/
theorem fromRgba_eq_ok {width height : UInt32} {rgba : List UInt8} {maxBytes : Nat}
    {picture : CanonicalImage} :
    CanonicalImage.fromRgba codecs width height rgba maxBytes = .ok picture ↔
      validateDimensions width height rgba.length = .ok () ∧
      ∃ png, codecs.encodePng width height rgba = .ok png ∧ png.length ≤ maxBytes ∧
        ⟨width, height, rgba, png, hashImage codecs width height rgba⟩ = picture := by
  simp only [CanonicalImage.fromRgba, unit_bind_eq_ok, bind_eq_ok (α := List UInt8), ensure_eq_ok,
    mapError_eq_ok, pure_eq_ok]

/-- A canonical image is decoded from its own bytes. -/
theorem fromEncoded_png (lossless : codecs.Lossless) {picture : CanonicalImage} {made limit : Nat}
    (canonical : CanonicalImage.fromRgba codecs picture.width picture.height picture.rgba made =
      .ok picture) (within : picture.png.length ≤ limit) :
    CanonicalImage.fromEncoded codecs picture.png "image/png" limit = .ok picture := by
  obtain ⟨valid, png, encoded, -, same⟩ := fromRgba_eq_ok.mp canonical
  obtain ⟨positive, small, -⟩ := validateDimensions_eq_ok.mp valid
  obtain rfl : png = picture.png := congrArg CanonicalImage.png same
  have again := fromRgba_eq_ok.mpr ⟨valid, _, encoded, within, same⟩
  simp only [CanonicalImage.fromEncoded, unit_bind_eq_ok, ensure_eq_ok]
  refine ⟨within, ?_⟩
  rw [show CanonicalImage.format "image/png" = .ok .png from rfl]
  refine bind_eq_ok.mpr ⟨_, rfl, bind_eq_ok.mpr ⟨(picture.width, picture.height), ?_, ?_⟩⟩
  · exact mapError_eq_ok.mpr (lossless.dimensions _ _ _ _ encoded)
  · simp only [unit_bind_eq_ok, ensure_eq_ok]
    refine ⟨positive, small, bind_eq_ok.mpr ⟨picture.rgba, ?_, again⟩⟩
    exact mapError_eq_ok.mpr (lossless.decode _ _ _ _ encoded)

/-- The state in which the start frame of an item is taken in. -/
def ClipboardItem.started (codecs : Codecs) (transferId : UInt64) (now : Nat)
    (item : ClipboardItem) : IncomingState where
  transferId := transferId
  kind := match item with
    | .text _ => .text
    | .image picture => .image picture.width picture.height
  totalBytes := item.bytes.length
  contentSha256 := match item with
    | .text s => hashBytes codecs (utf8 s)
    | .image picture => picture.contentSha256
  bytes := []
  lastProgress := now

/-- The start frame of a sendable item is accepted whatever was taken in before. -/
theorem handle_start {item : ClipboardItem} (sendable : item.Sendable codecs limits)
    (t : IncomingClipboardTransfer) (transferId sequence : UInt64) (now : Nat) :
    t.handle codecs (item.outgoing codecs transferId sequence).startEvent limits now =
      (.ok none, { active := some (item.started codecs transferId now) }) := by
  have total : (UInt32.ofNat item.bytes.length).toNat = item.bytes.length :=
    UInt32.toNat_ofNat_of_lt' sendable.short
  have positive := List.length_pos_of_ne_nil sendable.nonempty
  have within := sendable.within
  have accepted : ¬(item.bytes.length = 0 ∨ item.limit limits < item.bytes.length) := by omega
  cases item with
  | text s =>
    change t.start now transferId .text (UInt32.ofNat (ClipboardItem.text s).bytes.length).toNat
      limits.maxTextBytes (hashBytes codecs (utf8 s)) = _
    rw [total]
    exact if_neg accepted
  | image picture =>
    obtain ⟨made, canonical⟩ := sendable.canonical picture rfl
    obtain ⟨valid, -⟩ := fromRgba_eq_ok.mp canonical
    obtain ⟨positive, small, -⟩ := validateDimensions_eq_ok.mp valid
    have checked : IncomingClipboardTransfer.imageDimensions picture.width picture.height =
        .ok () := by
      simp only [IncomingClipboardTransfer.imageDimensions, unit_bind_eq_ok, ensure_eq_ok]
      refine ⟨?_, validateDimensions_eq_ok.mpr ⟨positive, small, rfl⟩⟩
      simp only [UInt64.size]
      unfold maxImagePixels at small
      omega
    have started : t.handle codecs ((ClipboardItem.image picture).outgoing codecs transferId
        sequence).startEvent limits now =
        t.start now transferId (.image picture.width picture.height)
          (UInt32.ofNat (ClipboardItem.image picture).bytes.length).toNat limits.maxImageBytes
          picture.contentSha256 := by
      simp only [ClipboardItem.outgoing, OutgoingClipboardTransfer.image,
        OutgoingClipboardTransfer.withPayload, OutgoingClipboardTransfer.startEvent,
        IncomingClipboardTransfer.handle, checked]
      rfl
    rw [started, total]
    exact if_neg accepted

/-- What was taken in of an item, once it is all there. -/
theorem item_of_started (lossless : codecs.Lossless) {item : ClipboardItem}
    (sendable : item.Sendable codecs limits) (transferId : UInt64) (now last : Nat) :
    ((item.started codecs transferId now).extend item.bytes last).item codecs limits = .ok item := by
  cases item with
  | text s =>
    simp only [IncomingState.item, IncomingState.extend, ClipboardItem.started, List.nil_append,
      ClipboardItem.bytes, unit_bind_eq_ok, ensure_eq_ok, fromUtf8_utf8]
    exact ⟨trivial, rfl⟩
  | image picture =>
    obtain ⟨made, canonical⟩ := sendable.canonical picture rfl
    simp only [IncomingState.item, IncomingState.extend, ClipboardItem.started, List.nil_append,
      ClipboardItem.bytes]
    refine bind_eq_ok.mpr ⟨picture, fromEncoded_png lossless canonical sendable.within, ?_⟩
    simp only [unit_bind_eq_ok, ensure_eq_ok]
    exact ⟨⟨trivial, trivial, trivial⟩, rfl⟩

/-- The last frame gives the item that is all there. -/
theorem handle_end {outgoing : OutgoingClipboardTransfer} {state : IncomingState}
    {item : ClipboardItem} (mirrors : state.Mirrors outgoing)
    (all : state.bytes.length = state.totalBytes) (whole : state.item codecs limits = .ok item)
    (now : Nat) :
    (IncomingClipboardTransfer.handle codecs { active := some state } outgoing.endEvent limits
      now).1 = .ok (some item) := by
  have kind := mirrors.kind
  cases payload : outgoing.payload with
  | image picture =>
    have image : state.kind.isText = false := by
      simpa [OutgoingClipboardTransfer.isText, payload] using kind
    simp [OutgoingClipboardTransfer.endEvent, payload, IncomingClipboardTransfer.handle,
      IncomingClipboardTransfer.finish, mirrors.transferId, image, all, whole, Except.map]
  | text bytes hash =>
    have text : state.kind.isText = true := by
      simpa [OutgoingClipboardTransfer.isText, payload] using kind
    simp [OutgoingClipboardTransfer.endEvent, payload, IncomingClipboardTransfer.handle,
      IncomingClipboardTransfer.finish, mirrors.transferId, text, all, whole, Except.map]

/-- The frames of a transfer: a start, the chunks of the payload, an end. -/
theorem events_of_start {outgoing : OutgoingClipboardTransfer} (stage : outgoing.stage = .start)
    (offset : outgoing.offset = 0) :
    ∃ chunks : List (List UInt8), chunks.flatten = outgoing.payload.bytes ∧
      (∀ bytes ∈ chunks, bytes ≠ [] ∧ bytes.length ≤ transferChunkBytes) ∧
      outgoing.events =
        outgoing.startEvent :: outgoing.chunkEvents 0 chunks ++ [outgoing.endEvent] := by
  have next : outgoing.nextEvent = (some outgoing.startEvent, { outgoing with stage := .chunks }) := by
    rw [OutgoingClipboardTransfer.nextEvent, stage]
  obtain ⟨chunks, whole, each, rest⟩ := OutgoingClipboardTransfer.events_chunks
    outgoing.payload.bytes.length { outgoing with stage := .chunks } rfl (by simp [offset])
    (by simp [offset])
  refine ⟨chunks, ?_, each, ?_⟩
  · rw [whole]
    simp [offset]
  · have same : { outgoing with stage := .chunks }.chunkEvents outgoing.offset chunks =
        outgoing.chunkEvents 0 chunks := by
      rw [offset]
      exact OutgoingClipboardTransfer.chunkEvents_eq (by rfl) (by rfl) chunks 0
    rw [OutgoingClipboardTransfer.events_cons next, rest, ← same]
    rfl

/-- An item that is sent event by event is received as it was, at the last event and not before;
    its chunks are contiguous, not empty, not too long, and make up the payload. -/
theorem transfer_round_trip (codecs : Codecs) (lossless : codecs.Lossless) (limits : TransferLimits)
    (item : ClipboardItem) (sendable : item.Sendable codecs limits) (transferId sequence : UInt64)
    (t : IncomingClipboardTransfer) (timed : List (ClipboardEvent × Nat))
    (fed : timed.map Prod.fst = (item.outgoing codecs transferId sequence).events) :
    (t.handleAll codecs limits timed).1 =
        List.replicate (timed.length - 1) (.ok none) ++ [.ok (some item)] ∧
      ∃ chunks : List (List UInt8), chunks.flatten = item.bytes ∧
        (∀ bytes ∈ chunks, bytes ≠ [] ∧ bytes.length ≤ transferChunkBytes) ∧
        timed.map Prod.fst = (item.outgoing codecs transferId sequence).startEvent ::
          (item.outgoing codecs transferId sequence).chunkEvents 0 chunks ++
            [(item.outgoing codecs transferId sequence).endEvent] := by
  have started := handle_start sendable t transferId sequence
  have mirrors : ∀ now, (item.started codecs transferId now).Mirrors
      (item.outgoing codecs transferId sequence) := by
    intro now
    cases item <;> exact ⟨rfl, rfl, rfl⟩
  have outgoing : (item.outgoing codecs transferId sequence).stage = .start ∧
      (item.outgoing codecs transferId sequence).offset = 0 ∧
      (item.outgoing codecs transferId sequence).payload.bytes = item.bytes := by
    cases item <;> exact ⟨rfl, rfl, rfl⟩
  generalize item.outgoing codecs transferId sequence = transfer at *
  obtain ⟨chunks, whole, each, frames⟩ := events_of_start outgoing.1 outgoing.2.1
  rw [outgoing.2.2] at whole
  refine ⟨?_, chunks, whole, each, fed.trans frames⟩
  rw [frames] at fed
  obtain ⟨first, last, rfl, firstFed, lastFed⟩ := List.map_eq_append_iff.mp fed
  obtain ⟨⟨event, now⟩, middle, rfl, rfl, middleFed⟩ := List.map_eq_cons_iff.mp firstFed
  obtain ⟨⟨event, late⟩, rfl, rfl⟩ := List.map_eq_singleton_iff.mp lastFed
  have room : (item.started codecs transferId now).bytes.length + chunks.flatten.length ≤
      transfer.payload.bytes.length := by
    rw [whole, outgoing.2.2]
    exact Nat.le_of_eq (Nat.zero_add _)
  obtain ⟨progress, taken⟩ := @handleAll_chunks codecs limits _ _ _ _ (mirrors now) each room
    middleFed
  rw [whole] at taken
  have extended : ((item.started codecs transferId now).extend item.bytes progress).Mirrors
      transfer := ⟨(mirrors now).transferId, (mirrors now).kind, (mirrors now).total⟩
  have ended := handle_end extended rfl
    (item_of_started lossless sendable transferId now progress) late
  rw [IncomingClipboardTransfer.handleAll_append, IncomingClipboardTransfer.handleAll, started, taken]
  simp [IncomingClipboardTransfer.handleAll, ended, List.replicate_succ]

/-- SHA-256 where it is needed here, and images of one pixel only. -/
def sampleCodecs : Codecs where
  sha256 bytes :=
    if bytes = [104, 105] then
      #v[143, 67, 67, 70, 100, 143, 107, 150, 223, 137, 221, 169, 1, 197, 23, 107, 16, 166, 216, 57,
        97, 221, 60, 26, 200, 139, 89, 178, 220, 50, 122, 164]
    else Vector.replicate 32 0
  encodePng width height rgba :=
    if width = 1 ∧ height = 1 then .ok rgba else .error "unsupported size"
  dimensions _ _ := .ok (1, 1)
  decode _ _ _ _ bytes := .ok bytes

theorem sampleCodecs_lossless : sampleCodecs.Lossless := by
  have pixel : ∀ width height rgba png, sampleCodecs.encodePng width height rgba = .ok png →
      (width = 1 ∧ height = 1) ∧ rgba = png := by
    intro width height rgba png encoded
    simp only [sampleCodecs] at encoded
    split at encoded
    · rename_i pixel
      exact ⟨pixel, Except.ok.inj encoded⟩
    · cases encoded
  constructor
  · intro width height rgba png encoded
    obtain ⟨⟨rfl, rfl⟩, -⟩ := pixel _ _ _ _ encoded
    rfl
  · intro width height rgba png encoded
    obtain ⟨-, rfl⟩ := pixel _ _ _ _ encoded
    rfl

theorem transfer_round_trip_text :
    (IncomingClipboardTransfer.handleAll sampleCodecs ⟨64, 64⟩ {}
      (((ClipboardItem.text "hi").outgoing sampleCodecs 1 1).events.map fun event => (event, 0))).1 =
        List.replicate (((ClipboardItem.text "hi").outgoing sampleCodecs 1 1).events.length - 1)
          (.ok none) ++ [.ok (some (.text "hi"))] := by
  have sendable : (ClipboardItem.text "hi").Sendable sampleCodecs ⟨64, 64⟩ :=
    ⟨by decide +kernel, by decide +kernel, by decide +kernel, fun _ image => by cases image⟩
  have received := (transfer_round_trip sampleCodecs sampleCodecs_lossless ⟨64, 64⟩ (.text "hi")
    sendable 1 1 {} (((ClipboardItem.text "hi").outgoing sampleCodecs 1 1).events.map
      fun event => (event, 0)) (by rw [List.map_map]; exact List.map_id _)).1
  rwa [List.length_map] at received

end EdgeKvm.Clipboard
