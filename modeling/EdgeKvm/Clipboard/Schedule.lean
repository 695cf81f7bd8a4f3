import EdgeKvm.Clipboard.Item
import Mathlib.Data.List.Induction

/-!
# When the next chunk is due

`ImageTransferSchedule` of `edge-clipboard/src/lib.rs` inside the `SecureFrameWriter` of
`edge-runtime/src/lib.rs`: frames in both directions spend a budget, and a chunk that was sent
restores it. The encoder and the cipher stream are parameters.
-/

namespace EdgeKvm.Clipboard

/-- `MAX_HIGH_PRIORITY_FRAMES_BEFORE_IMAGE_CHUNK` -/
def maxHighPriorityFramesBeforeImageChunk : UInt8 := 64

/-- `MAX_SECURE_FRAME_BYTES` -/
def maxSecureFrameBytes : Nat := 65535 - 16

/-- `u8::saturating_add` -/
def saturatingAdd (a b : UInt8) : UInt8 := if a.toNat + b.toNat < 256 then a + b else 255

/-- `edge_protocol::Frame`: the clipboard frames, and all others as `β`. -/
inductive WireFrame (β : Type) where
  | clipboard (event : ClipboardEvent)
  | other (body : β)

namespace WireFrame

variable {β : Type}

/-- The frame is an `ImageChunk` or a `TextChunk`. -/
def isChunk : WireFrame β → Bool
  | .clipboard (.imageChunk ..) | .clipboard (.textChunk ..) => true
  | _ => false

def isClipboard : WireFrame β → Bool
  | .clipboard _ => true
  | .other _ => false

end WireFrame

/-! ## The schedule -/

structure ImageTransferSchedule where
  highPriorityFramesSinceChunk : UInt8 := 0
  deriving DecidableEq, Repr

namespace ImageTransferSchedule

variable {β : Type}

def recordHighPriorityFrame (schedule : ImageTransferSchedule) : ImageTransferSchedule :=
  { highPriorityFramesSinceChunk := saturatingAdd schedule.highPriorityFramesSinceChunk 1 }

def recordImageChunk (_schedule : ImageTransferSchedule) : ImageTransferSchedule :=
  { highPriorityFramesSinceChunk := 0 }

def imageChunkIsDue (schedule : ImageTransferSchedule) : Bool :=
  maxHighPriorityFramesBeforeImageChunk ≤ schedule.highPriorityFramesSinceChunk

/-- `record_sent_frame`: chunks reset the budget, everything else spends it. -/
def recordSentFrame (schedule : ImageTransferSchedule) (frame : WireFrame β) :
    ImageTransferSchedule :=
  if frame.isChunk then schedule.recordImageChunk else schedule.recordHighPriorityFrame

/-- `record_received_frame`: clipboard frames must not spend the budget of their own transfer. -/
def recordReceivedFrame (schedule : ImageTransferSchedule) (frame : WireFrame β) :
    ImageTransferSchedule :=
  if frame.isClipboard then schedule else schedule.recordHighPriorityFrame

end ImageTransferSchedule

/-! ## The writer -/

/-- What stops `SecureFrameWriter::write`. -/
inductive FrameWriteError (ε : Type) where
  | encode (error : ε)
  | frameTooLarge (length : Nat)
  | packet
  deriving DecidableEq, Repr

/-- `encode_secure_frame`; `FrameTooLarge` carries the length as a `u32`. -/
def encodeSecureFrame {β ε : Type} (encodeFrame : WireFrame β → Except ε (List UInt8))
    (frame : WireFrame β) : Except (FrameWriteError ε) (List UInt8) :=
  match encodeFrame frame with
  | .error error => .error (.encode error)
  | .ok payload =>
    if maxSecureFrameBytes < payload.length then
      .error (.frameTooLarge
        (if payload.length < UInt32.size then payload.length else UInt32.size - 1))
    else .ok payload

/-- `SecureFrameWriter`, without the `NoiseWriter` inside it. -/
structure SecureFrameWriter where
  imageSchedule : ImageTransferSchedule := {}
  deriving DecidableEq, Repr

namespace SecureFrameWriter

variable {β ε : Type}

/-- `SecureFrameWriter::write`; `delivered` is whether `write_packet` succeeds. -/
def write (encodeFrame : WireFrame β → Except ε (List UInt8)) (frame : WireFrame β)
    (delivered : Bool) (writer : SecureFrameWriter) :
    Except (FrameWriteError ε) Unit × SecureFrameWriter :=
  match encodeSecureFrame encodeFrame frame with
  | .error error => (.error error, writer)
  | .ok _ =>
    if delivered then
      (.ok (), { writer with imageSchedule := writer.imageSchedule.recordSentFrame frame })
    else (.error .packet, writer)

/-- `SecureFrameWriter::bulk_is_due` -/
def bulkIsDue (writer : SecureFrameWriter) : Bool := writer.imageSchedule.imageChunkIsDue

/-- `SecureFrameWriter::record_received` -/
def recordReceived (frame : WireFrame β) (writer : SecureFrameWriter) : SecureFrameWriter :=
  { writer with imageSchedule := writer.imageSchedule.recordReceivedFrame frame }

end SecureFrameWriter

/-! ## Sequences of frames -/

/-- A call of `write` or of `record_received`. -/
inductive WriterCall (β : Type) where
  | write (frame : WireFrame β) (delivered : Bool)
  | recordReceived (frame : WireFrame β)

/-- A frame that went through the session. -/
inductive Passed (β : Type) where
  | sent (frame : WireFrame β)
  | received (frame : WireFrame β)

namespace Passed

variable {β : Type}

/-- A chunk went out. -/
def isChunk : Passed β → Bool
  | .sent frame => frame.isChunk
  | .received _ => false

/-- The frame is one of those that keep a transfer waiting. -/
def counts : Passed β → Bool
  | .sent frame => !frame.isChunk
  | .received frame => !frame.isClipboard

/-- How many frames that count passed since the last chunk went out, newest first. -/
def sinceChunk (passed : List (Passed β)) : Nat :=
  (passed.takeWhile fun frame => !frame.isChunk).countP fun frame => frame.counts

end Passed

/-- A writer and what passed through its session so far, newest first. -/
structure WriterRun (β : Type) where
  writer : SecureFrameWriter := {}
  passed : List (Passed β) := []

namespace WriterRun

variable {β ε : Type} (encodeFrame : WireFrame β → Except ε (List UInt8))

def call (run : WriterRun β) : WriterCall β → WriterRun β
  | .write frame delivered =>
    let (result, writer) := run.writer.write encodeFrame frame delivered
    { writer, passed := if result.isOk then .sent frame :: run.passed else run.passed }
  | .recordReceived frame =>
    { writer := run.writer.recordReceived frame, passed := .received frame :: run.passed }

/-- A new writer after the calls, in their order. -/
def after (calls : List (WriterCall β)) : WriterRun β := calls.foldl (call encodeFrame) {}

end WriterRun

/-! ## The counter -/

theorem toNat_saturatingAdd (a b : UInt8) :
    (saturatingAdd a b).toNat = min (a.toNat + b.toNat) 255 := by
  unfold saturatingAdd
  by_cases fits : a.toNat + b.toNat < 256
  · rw [if_pos fits, UInt8.toNat_add, Nat.mod_eq_of_lt fits]
    omega
  · have most : (255 : UInt8).toNat = 255 := rfl
    rw [if_neg fits, most]
    omega

namespace Passed

variable {β : Type} {frame : Passed β} {passed : List (Passed β)}

theorem sinceChunk_of_chunk (chunk : frame.isChunk = true) : sinceChunk (frame :: passed) = 0 := by
  simp [sinceChunk, chunk]

theorem sinceChunk_of_counts (counts : frame.counts = true) :
    sinceChunk (frame :: passed) = sinceChunk passed + 1 := by
  have chunk : frame.isChunk = false := by
    cases frame with
    | sent frame => simpa [Passed.counts, Passed.isChunk] using counts
    | received frame => rfl
  simp [sinceChunk, chunk, counts]

theorem sinceChunk_of_idle (chunk : frame.isChunk = false) (counts : frame.counts = false) :
    sinceChunk (frame :: passed) = sinceChunk passed := by
  simp [sinceChunk, chunk, counts]

end Passed

namespace WriterRun

variable {β ε : Type} {encodeFrame : WireFrame β → Except ε (List UInt8)} {run : WriterRun β}

/-- The counter of the schedule is the number of frames that count, cut off at the largest `u8`. -/
def Counted (run : WriterRun β) : Prop :=
  run.writer.imageSchedule.highPriorityFramesSinceChunk.toNat =
    min (Passed.sinceChunk run.passed) 255

/-- A frame that counts adds one to both sides. -/
theorem Counted.spend {frame : Passed β} (counted : run.Counted) (counts : frame.counts = true) :
    Counted ⟨⟨run.writer.imageSchedule.recordHighPriorityFrame⟩, frame :: run.passed⟩ := by
  have one : (1 : UInt8).toNat = 1 := rfl
  unfold Counted at counted ⊢
  rw [Passed.sinceChunk_of_counts counts, ImageTransferSchedule.recordHighPriorityFrame,
    toNat_saturatingAdd, counted, one]
  omega

theorem Counted.send {frame : WireFrame β} (counted : run.Counted) :
    Counted ⟨⟨run.writer.imageSchedule.recordSentFrame frame⟩, .sent frame :: run.passed⟩ := by
  unfold ImageTransferSchedule.recordSentFrame
  by_cases chunk : frame.isChunk = true
  · have restored : Passed.sinceChunk (.sent frame :: run.passed) = 0 :=
      Passed.sinceChunk_of_chunk chunk
    rw [if_pos chunk, Counted, restored]
    rfl
  · rw [if_neg chunk]
    exact counted.spend (by simpa [Passed.counts] using chunk)

theorem Counted.receive {frame : WireFrame β} (counted : run.Counted) :
    Counted ⟨run.writer.recordReceived frame, .received frame :: run.passed⟩ := by
  unfold SecureFrameWriter.recordReceived ImageTransferSchedule.recordReceivedFrame
  by_cases clipboard : frame.isClipboard = true
  · rw [if_pos clipboard, Counted,
      Passed.sinceChunk_of_idle rfl (by simpa [Passed.counts] using clipboard)]
    exact counted
  · rw [if_neg clipboard]
    exact counted.spend (by simpa [Passed.counts] using clipboard)

/-- A write that fails, for whatever reason, leaves no trace. -/
theorem write_failed {frame : WireFrame β} {delivered : Bool} {writer : SecureFrameWriter}
    (failed : (writer.write encodeFrame frame delivered).1.isOk = false) :
    (writer.write encodeFrame frame delivered).2 = writer := by
  unfold SecureFrameWriter.write at failed ⊢
  cases encoded : encodeSecureFrame encodeFrame frame with
  | error error => rfl
  | ok payload =>
    rw [encoded] at failed
    cases delivered with
    | false => rfl
    | true => cases failed

/-- A write that succeeds records its frame. -/
theorem write_ok {frame : WireFrame β} {delivered : Bool} {writer : SecureFrameWriter}
    (written : (writer.write encodeFrame frame delivered).1.isOk = true) :
    (writer.write encodeFrame frame delivered).2 =
      ⟨writer.imageSchedule.recordSentFrame frame⟩ := by
  unfold SecureFrameWriter.write at written ⊢
  cases encoded : encodeSecureFrame encodeFrame frame with
  | error error =>
    rw [encoded] at written
    cases written
  | ok payload =>
    rw [encoded] at written
    cases delivered with
    | false => cases written
    | true => rfl

theorem Counted.call (counted : run.Counted) (call : WriterCall β) :
    (run.call encodeFrame call).Counted := by
  cases call with
  | recordReceived frame => exact counted.receive
  | write frame delivered =>
    unfold WriterRun.call
    cases result : (run.writer.write encodeFrame frame delivered).1.isOk with
    | false =>
      simp only [result, Bool.false_eq_true, if_false, write_failed result]
      exact counted
    | true =>
      simp only [result, if_true, write_ok result]
      exact counted.send

/-- The counter is right after every sequence of calls. -/
theorem counted_after (calls : List (WriterCall β)) : (after encodeFrame calls).Counted := by
  induction calls using List.reverseRecOn with
  | nil => rfl
  | append_singleton calls call ih =>
    rw [after, List.foldl_append]
    exact ih.call call

theorem Counted.bulkIsDue_iff (counted : run.Counted) :
    run.writer.bulkIsDue = true ↔ 64 ≤ Passed.sinceChunk run.passed := by
  have most : maxHighPriorityFramesBeforeImageChunk.toNat = 64 := rfl
  unfold Counted at counted
  rw [SecureFrameWriter.bulkIsDue, ImageTransferSchedule.imageChunkIsDue, decide_eq_true_iff,
    UInt8.le_iff_toNat_le, counted, most]
  omega

/-- A frame that does not fit is rejected before anything is recorded. -/
theorem call_oversized {frame : WireFrame β} {payload : List UInt8} {delivered : Bool}
    (encoded : encodeFrame frame = .ok payload) (large : maxSecureFrameBytes < payload.length) :
    run.call encodeFrame (.write frame delivered) = run := by
  have rejected : run.writer.write encodeFrame frame delivered =
      (.error (.frameTooLarge
        (if payload.length < UInt32.size then payload.length else UInt32.size - 1)),
        run.writer) := by
    simp only [SecureFrameWriter.write, encodeSecureFrame, encoded, if_pos large]
  simp only [call, rejected]
  rfl

/-- Bulk data is due exactly after 64 frames that count since the last chunk went out, and a frame
    that is too large changes nothing for the calls after it. -/
theorem bulk_is_due_after (encodeFrame : WireFrame β → Except ε (List UInt8))
    (calls : List (WriterCall β)) :
    ((after encodeFrame calls).writer.bulkIsDue = true ↔
      64 ≤ Passed.sinceChunk (after encodeFrame calls).passed) ∧
    ∀ frame payload delivered rest, encodeFrame frame = .ok payload →
      maxSecureFrameBytes < payload.length →
      after encodeFrame (calls ++ .write frame delivered :: rest) =
        after encodeFrame (calls ++ rest) := by
  refine ⟨(counted_after calls).bulkIsDue_iff, ?_⟩
  intro frame payload delivered rest encoded large
  rw [after, after, List.foldl_append, List.foldl_append, List.foldl_cons,
    call_oversized encoded large]

/-- An encoder under which every frame is one byte too long. -/
def tooLong (_frame : WireFrame Unit) : Except Unit (List UInt8) :=
  .ok (List.replicate (maxSecureFrameBytes + 1) 0)

theorem bulk_is_due_after_tooLong :
    after tooLong ([] ++ .write (.other ()) true :: [.recordReceived (.other ())]) =
      after tooLong ([] ++ [.recordReceived (.other ())]) :=
  (bulk_is_due_after tooLong []).2 (.other ()) (List.replicate (maxSecureFrameBytes + 1) 0) true _
    rfl (by rw [List.length_replicate]; exact Nat.lt_succ_self _)

end WriterRun

end EdgeKvm.Clipboard
