import Mathlib.Data.Rat.Floor
import Mathlib.Tactic.Linarith
import Mathlib.Tactic.Ring

/-!
# The resampler

`OutputConverter`: 48 kHz stereo to the rate and the channels of the device, chunk after chunk.
Positions are exact; the arithmetic of the samples is left open.
-/

namespace EdgeKvm.Audio

universe u

variable {α : Type u}

/-! ## The converter -/

/-- `SAMPLE_RATE` -/
def sampleRate : Nat := 48000

/-- The arithmetic of samples: a point between two of them, and the mean of both channels. -/
structure SampleArithmetic (α : Type u) where
  between : α → α → ℚ → α
  mean : α → α → α

structure OutputConverter (α : Type u) where
  outputRate : Nat
  outputChannels : Nat
  sourcePosition : ℚ := 0
  inputFrames : List (α × α) := []
  deriving DecidableEq, Repr

/-- `as_chunks`: the whole stereo frames of the input. -/
def stereoFrames : List α → List (α × α)
  | left :: right :: rest => (left, right) :: stereoFrames rest
  | _ => []

/-- An output frame between two stereo frames. -/
def outputFrame (arithmetic : SampleArithmetic α) (channels : Nat) (left right : α × α)
    (fraction : ℚ) : List α :=
  let stereo := (arithmetic.between left.1 right.1 fraction,
    arithmetic.between left.2 right.2 fraction)
  (List.range channels).map fun channel =>
    match channel with
    | 0 => stereo.1
    | 1 => stereo.2
    | _ => arithmetic.mean stereo.1 stereo.2

/-- The loop of `convert`: nothing where an index is out of range or the loop goes on after
    `fuel` rounds. -/
def convertLoop (arithmetic : SampleArithmetic α) (channels : Nat) (frames : List (α × α))
    (step : ℚ) : Nat → ℚ → List α → Option (ℚ × List α)
  | 0, _, _ => none
  | fuel + 1, position, output =>
    if position + 1 < frames.length then do
      let leftIndex := ⌊position⌋₊
      let left ← frames[leftIndex]?
      let right ← frames[leftIndex + 1]?
      convertLoop arithmetic channels frames step fuel (position + step)
        (output ++ outputFrame arithmetic channels left right (position - leftIndex))
    else some (position, output)

namespace OutputConverter

def new (outputRate outputChannels : Nat) : OutputConverter α where
  outputRate := outputRate
  outputChannels := outputChannels

/-- The distance of two output frames in the input. -/
def step (outputRate : Nat) (rateScale : ℚ) : ℚ := sampleRate / (outputRate * rateScale)

/-- The rounds that the loop reserves room for. -/
def estimatedFrames (frames : Nat) (position step : ℚ) : Nat :=
  ⌈max (frames - position) 0 / step⌉₊

/-- The loop may go one round beyond those it has room for, to find that it has ended. -/
def convert (arithmetic : SampleArithmetic α) (converter : OutputConverter α) (input : List α)
    (rateScale : ℚ) : Option (OutputConverter α × List α) :=
  if input.isEmpty || converter.outputChannels == 0 || converter.outputRate == 0 then
    some (converter, [])
  else
    let frames := converter.inputFrames ++ stereoFrames input
    let step := step converter.outputRate rateScale
    let estimated := estimatedFrames frames.length converter.sourcePosition step
    (convertLoop arithmetic converter.outputChannels frames step (estimated + 1)
        converter.sourcePosition []).map fun (position, output) =>
      let consumed := min ⌊position⌋₊ frames.length
      ({ converter with
        sourcePosition := position - consumed
        inputFrames := frames.drop consumed }, output)

/-- The outputs of the chunks, one behind the other. -/
def convertChunks (arithmetic : SampleArithmetic α) (rateScale : ℚ) :
    OutputConverter α → List (List α) → Option (OutputConverter α × List α)
  | converter, [] => some (converter, [])
  | converter, chunk :: chunks => do
    let (converter, output) ← converter.convert arithmetic chunk rateScale
    let (converter, more) ← convertChunks arithmetic rateScale converter chunks
    some (converter, output ++ more)

end OutputConverter

/-! ## Output frames of the whole input -/

/-- The output frames that lie between frames of the input. -/
def outputCount (frames : Nat) (step : ℚ) : Nat := ⌈((frames : ℚ) - 1) / step⌉₊

/-- The output frame with a number. -/
def frameAt (arithmetic : SampleArithmetic α) (channels : Nat) (all : List (α × α)) (step : ℚ)
    (number : Nat) : List α :=
  match all[⌊number * step⌋₊]?, all[⌊number * step⌋₊ + 1]? with
  | some left, some right =>
    outputFrame arithmetic channels left right (number * step - ⌊number * step⌋₊)
  | _, _ => []

/-- The output frames from one number on. -/
def framesFrom (arithmetic : SampleArithmetic α) (channels : Nat) (all : List (α × α)) (step : ℚ)
    (first count : Nat) : List α :=
  (List.range' first count).flatMap (frameAt arithmetic channels all step)

/-- The input frames that are no longer kept. -/
def drained (frames : Nat) (step : ℚ) : Nat := min ⌊outputCount frames step * step⌋₊ frames

/-- The converter behind an input. -/
def OutputConverter.behind (outputRate outputChannels : Nat) (step : ℚ) (all : List (α × α)) :
    OutputConverter α where
  outputRate := outputRate
  outputChannels := outputChannels
  sourcePosition := outputCount all.length step * step - drained all.length step
  inputFrames := all.drop (drained all.length step)

section Counting

variable {frames frames' number base : Nat} {step : ℚ}

theorem lt_outputCount (positive : 0 < step) :
    number < outputCount frames step ↔ number * step + 1 < frames := by
  rw [outputCount, Nat.lt_ceil, lt_div_iff₀ positive]
  exact lt_sub_iff_add_lt

theorem outputCount_zero (positive : 0 < step) : outputCount 0 step = 0 := by
  by_contra other
  have first := (lt_outputCount positive).mp (Nat.pos_of_ne_zero other)
  norm_num at first

theorem outputCount_mono (positive : 0 < step) (more : frames ≤ frames') :
    outputCount frames step ≤ outputCount frames' step := by
  by_contra other
  have inside := (lt_outputCount positive).mp (not_le.mp other)
  have more : (frames : ℚ) ≤ frames' := Nat.cast_le.mpr more
  exact lt_irrefl _ ((lt_outputCount positive).mpr (inside.trans_le more))

theorem drained_le (positive : 0 < step) :
    (drained frames step : ℚ) ≤ outputCount frames step * step := by
  have behind : (0 : ℚ) ≤ outputCount frames step * step :=
    mul_nonneg (Nat.cast_nonneg _) positive.le
  have least : (drained frames step : ℚ) ≤ ⌊outputCount frames step * step⌋₊ :=
    Nat.cast_le.mpr (Nat.min_le_left _ _)
  exact least.trans (Nat.floor_le behind)

/-- The whole part of a position behind drained frames. -/
theorem add_floor_sub {position : ℚ} (behind : (base : ℚ) ≤ position) :
    base + ⌊position - base⌋₊ = ⌊position⌋₊ := by
  have floor := Nat.floor_add_natCast (sub_nonneg.mpr behind) base
  rw [sub_add_cancel] at floor
  omega

/-- There is room for the output frames that are left. -/
theorem outputCount_le_add_estimated (positive : 0 < step) (kept : base ≤ frames) :
    outputCount frames step ≤
      number + OutputConverter.estimatedFrames (frames - base) (number * step - base) step := by
  by_contra other
  have inside := (lt_outputCount positive).mp (not_le.mp other)
  rw [Nat.cast_add, add_mul] at inside
  have room : ((frames - base : ℕ) : ℚ) - (number * step - base) ≤
      OutputConverter.estimatedFrames (frames - base) (number * step - base) step * step := by
    rw [← div_le_iff₀ positive]
    refine le_trans ?_ (Nat.le_ceil _)
    exact div_le_div_of_nonneg_right (le_max_left _ _) positive.le
  rw [Nat.cast_sub kept] at room
  linarith

end Counting

section Looping

variable (arithmetic : SampleArithmetic α) (channels : Nat) (all : List (α × α)) {step : ℚ}

/-- An output frame lies between two frames of the input. -/
theorem frameAt_eq (positive : 0 < step) {number : Nat}
    (inside : number < outputCount all.length step) : ∃ left right,
      all[⌊number * step⌋₊]? = some left ∧ all[⌊number * step⌋₊ + 1]? = some right ∧
        frameAt arithmetic channels all step number =
          outputFrame arithmetic channels left right (number * step - ⌊number * step⌋₊) := by
  have behind : (0 : ℚ) ≤ number * step := mul_nonneg (Nat.cast_nonneg _) positive.le
  have room := (lt_outputCount positive).mp inside
  have floor := Nat.floor_le behind
  have last : ⌊number * step⌋₊ + 1 < all.length := by
    have cast : ((⌊number * step⌋₊ + 1 : ℕ) : ℚ) < all.length := by
      push_cast
      linarith
    exact Nat.cast_lt.mp cast
  have left := List.getElem?_eq_getElem (l := all) (show ⌊number * step⌋₊ < all.length by omega)
  have right := List.getElem?_eq_getElem last
  refine ⟨_, _, left, right, ?_⟩
  rw [frameAt, left, right]

theorem framesFrom_cons {first count : Nat} :
    framesFrom arithmetic channels all step first (count + 1) =
      frameAt arithmetic channels all step first ++
        framesFrom arithmetic channels all step (first + 1) count := rfl

theorem goesOn_iff (positive : 0 < step) {base number : Nat} (kept : base ≤ all.length) :
    (number * step - base + 1 : ℚ) < (all.drop base).length ↔
      number < outputCount all.length step := by
  rw [lt_outputCount positive, List.length_drop, Nat.cast_sub kept]
  constructor <;> intro before <;> linarith

/-- The loop writes the output frames that are left, and ends; `base` frames were drained. -/
theorem convertLoop_eq (positive : 0 < step) {base : Nat} (kept : base ≤ all.length) :
    ∀ (count fuel number : Nat) (output : List α),
      outputCount all.length step = number + count → count ≤ fuel → (base : ℚ) ≤ number * step →
      convertLoop arithmetic channels (all.drop base) step (fuel + 1) (number * step - base)
          output =
        some ((number + count : ℕ) * step - base,
          output ++ framesFrom arithmetic channels all step number count) := by
  intro count
  induction count with
  | zero =>
    intro fuel number output counted _ _
    have ended : ¬ (number * step - base + 1 : ℚ) < (all.drop base).length := by
      rw [goesOn_iff all positive kept]
      omega
    rw [convertLoop, if_neg ended, framesFrom, List.range'_zero, List.flatMap_nil, List.append_nil,
      Nat.add_zero]
  | succ count ih =>
    intro fuel number output counted room behind
    have inside : number < outputCount all.length step := by omega
    obtain ⟨fuel, rfl⟩ : ∃ rest, fuel = rest + 1 := ⟨fuel - 1, by omega⟩
    obtain ⟨left, right, leftAt, rightAt, frame⟩ :=
      frameAt_eq arithmetic channels all positive inside
    have floor := add_floor_sub behind
    have moved : (number * step - base + step : ℚ) = (number + 1 : ℕ) * step - base := by
      push_cast
      ring
    have fraction : (number * step - base - ⌊(number * step - base : ℚ)⌋₊ : ℚ) =
        number * step - ⌊(number * step : ℚ)⌋₊ := by
      rw [← floor]
      push_cast
      ring
    have first : (all.drop base)[⌊(number * step - base : ℚ)⌋₊]? = some left := by
      rw [List.getElem?_drop, floor]
      exact leftAt
    have second : (all.drop base)[⌊(number * step - base : ℚ)⌋₊ + 1]? = some right := by
      rw [List.getElem?_drop, ← Nat.add_assoc, floor]
      exact rightAt
    have behindNext : (base : ℚ) ≤ (number + 1 : ℕ) * step := by
      push_cast
      linarith
    rw [convertLoop, if_pos ((goesOn_iff all positive kept).mpr inside)]
    simp only [first, second, Option.bind_eq_bind, Option.bind_some]
    rw [fraction, moved, ← frame, ih fuel (number + 1) _ (by omega) (by omega) behindNext,
      framesFrom_cons, List.append_assoc, Nat.add_right_comm, Nat.add_assoc]

theorem framesFrom_add (step : ℚ) (first count more : Nat) :
    framesFrom arithmetic channels all step first count ++
        framesFrom arithmetic channels all step (first + count) more =
      framesFrom arithmetic channels all step first (count + more) := by
  unfold framesFrom
  rw [← List.flatMap_append, List.range'_append_1]

/-- Later input leaves an output frame as it is. -/
theorem frameAt_append (positive : 0 < step) {number : Nat}
    (inside : number < outputCount all.length step) (more : List (α × α)) :
    frameAt arithmetic channels (all ++ more) step number =
      frameAt arithmetic channels all step number := by
  obtain ⟨left, right, leftAt, rightAt, frame⟩ :=
    frameAt_eq arithmetic channels all positive inside
  have leftKnown := (List.getElem?_eq_some_iff.mp leftAt).1
  have rightKnown := (List.getElem?_eq_some_iff.mp rightAt).1
  rw [frame, frameAt, List.getElem?_append_left leftKnown, List.getElem?_append_left rightKnown,
    leftAt, rightAt]

theorem framesFrom_append (positive : 0 < step) {first count : Nat}
    (inside : first + count ≤ outputCount all.length step) (more : List (α × α)) :
    framesFrom arithmetic channels (all ++ more) step first count =
      framesFrom arithmetic channels all step first count := by
  induction count generalizing first with
  | zero => rfl
  | succ count ih =>
    rw [framesFrom_cons, framesFrom_cons, ih (by omega),
      frameAt_append arithmetic channels all positive (by omega)]

theorem length_framesFrom (positive : 0 < step) {first count : Nat}
    (inside : first + count ≤ outputCount all.length step) :
    (framesFrom arithmetic channels all step first count).length = count * channels := by
  induction count generalizing first with
  | zero => rw [Nat.zero_mul]; rfl
  | succ count ih =>
    obtain ⟨left, right, -, -, frame⟩ :=
      @frameAt_eq _ arithmetic channels all step positive first (by omega)
    rw [framesFrom_cons, List.length_append, ih (by omega), frame, outputFrame, List.length_map,
      List.length_range, Nat.add_mul, Nat.one_mul, Nat.add_comm]

end Looping

/-! ## Chunks -/

theorem length_stereoFrames (input : List α) : (stereoFrames input).length = input.length / 2 := by
  fun_induction stereoFrames input with
  | case1 left right rest ih =>
    rw [List.length_cons, ih, List.length_cons, List.length_cons]
    omega
  | case2 input short =>
    cases input with
    | nil => exact (Nat.zero_div 2).symm
    | cons left rest =>
      cases rest with
      | nil => rw [List.length_nil, List.length_singleton]
      | cons right rest => exact absurd rfl (short left right rest)

/-- Whole frames are found chunk by chunk. -/
theorem stereoFrames_append (input more : List α) (whole : 2 ∣ input.length) :
    stereoFrames (input ++ more) = stereoFrames input ++ stereoFrames more := by
  fun_induction stereoFrames input with
  | case1 left right rest ih =>
    rw [List.length_cons, List.length_cons] at whole
    exact congrArg ((left, right) :: ·) (ih (by omega))
  | case2 input short =>
    cases input with
    | nil => rfl
    | cons left rest =>
      cases rest with
      | nil =>
        rw [List.length_singleton] at whole
        omega
      | cons right rest => exact absurd rfl (short left right rest)

namespace OutputConverter

variable (arithmetic : SampleArithmetic α) {outputRate outputChannels : Nat} {rateScale : ℚ}

theorem step_pos (rate : 0 < outputRate) (scale : 0 < rateScale) :
    0 < step outputRate rateScale := by
  have positive : (0 : ℚ) < outputRate := Nat.cast_pos.mpr rate
  have samples : (0 : ℚ) < sampleRate := Nat.cast_pos.mpr (by decide)
  exact div_pos samples (mul_pos positive scale)

theorem behind_nil (outputRate outputChannels : Nat) {step : ℚ} (positive : 0 < step) :
    behind outputRate outputChannels step [] = new (α := α) outputRate outputChannels := by
  unfold behind new drained
  rw [List.length_nil, outputCount_zero positive, Nat.min_zero, List.drop_nil, Nat.cast_zero,
    zero_mul, sub_zero]

/-- A chunk adds its frames to the input, and its output frames to the output. -/
theorem convert_behind (rate : 0 < outputRate) (channels : 0 < outputChannels)
    (scale : 0 < rateScale) (all : List (α × α)) (input : List α) :
    (behind outputRate outputChannels (step outputRate rateScale) all).convert arithmetic input
        rateScale =
      some (behind outputRate outputChannels (step outputRate rateScale)
          (all ++ stereoFrames input),
        framesFrom arithmetic outputChannels (all ++ stereoFrames input)
          (step outputRate rateScale) (outputCount all.length (step outputRate rateScale))
          (outputCount (all ++ stereoFrames input).length (step outputRate rateScale) -
            outputCount all.length (step outputRate rateScale))) := by
  have positive := step_pos rate scale
  cases input with
  | nil =>
    rw [show stereoFrames ([] : List α) = [] from rfl, List.append_nil, Nat.sub_self]
    rfl
  | cons first rest =>
    have guarded : ((first :: rest).isEmpty || outputChannels == 0 || outputRate == 0) = false := by
      simp only [List.isEmpty_cons, Bool.false_or, Bool.or_eq_false_iff, beq_eq_false_iff_ne]
      exact ⟨channels.ne', rate.ne'⟩
    unfold convert
    rw [show (behind outputRate outputChannels (step outputRate rateScale) all).outputChannels =
      outputChannels from rfl, show (behind outputRate outputChannels (step outputRate rateScale)
      all).outputRate = outputRate from rfl, if_neg (Bool.eq_false_iff.mp guarded)]
    generalize stereoFrames (first :: rest) = more
    generalize step outputRate rateScale = step at *
    have kept : drained all.length step ≤ all.length := Nat.min_le_right _ _
    have known : drained all.length step ≤ (all ++ more).length :=
      kept.trans (List.sublist_append_left _ _).length_le
    have counted : outputCount all.length step ≤ outputCount (all ++ more).length step :=
      outputCount_mono positive (List.sublist_append_left _ _).length_le
    have joined : all.drop (drained all.length step) ++ more =
        (all ++ more).drop (drained all.length step) := (List.drop_append_of_le_length kept).symm
    have behindAll := @drained_le all.length step positive
    have behindMore : (drained all.length step : ℚ) ≤
        outputCount (all ++ more).length step * step :=
      behindAll.trans (mul_le_mul_of_nonneg_right (Nat.cast_le.mpr counted) positive.le)
    have room := @outputCount_le_add_estimated _ (outputCount all.length step) _ step positive known
    have loop := convertLoop_eq arithmetic outputChannels (all ++ more) positive known
      (outputCount (all ++ more).length step - outputCount all.length step)
      (estimatedFrames ((all ++ more).length - drained all.length step)
        (outputCount all.length step * step - drained all.length step) step)
      (outputCount all.length step) [] (by omega) (by omega) behindAll
    rw [Nat.add_sub_cancel' counted, List.nil_append] at loop
    have floor := add_floor_sub behindMore
    have consumed : drained all.length step +
        min ⌊outputCount (all ++ more).length step * step - drained all.length step⌋₊
          ((all ++ more).length - drained all.length step) =
        drained (all ++ more).length step := by
      show _ = min _ _
      omega
    simp only [behind, joined, List.length_drop, loop, Option.map_some, List.drop_drop, consumed]
    have position : (outputCount (all ++ more).length step * step - drained all.length step -
        (min ⌊outputCount (all ++ more).length step * step - drained all.length step⌋₊
          ((all ++ more).length - drained all.length step) : ℕ) : ℚ) =
        outputCount (all ++ more).length step * step - drained (all ++ more).length step := by
      rw [← consumed, Nat.cast_add]
      ring
    rw [position]

/-- The chunks add their frames, one chunk after the other. -/
theorem convertChunks_behind (rate : 0 < outputRate) (channels : 0 < outputChannels)
    (scale : 0 < rateScale) : ∀ (chunks : List (List α)) (all : List (α × α)),
      (∀ chunk ∈ chunks, 2 ∣ chunk.length) →
      convertChunks arithmetic rateScale
          (behind outputRate outputChannels (step outputRate rateScale) all) chunks =
        some (behind outputRate outputChannels (step outputRate rateScale)
            (all ++ stereoFrames chunks.flatten),
          framesFrom arithmetic outputChannels (all ++ stereoFrames chunks.flatten)
            (step outputRate rateScale) (outputCount all.length (step outputRate rateScale))
            (outputCount (all ++ stereoFrames chunks.flatten).length (step outputRate rateScale) -
              outputCount all.length (step outputRate rateScale))) := by
  have positive := step_pos rate scale
  intro chunks
  induction chunks with
  | nil =>
    intro all _
    rw [List.flatten_nil, show stereoFrames ([] : List α) = [] from rfl, List.append_nil,
      Nat.sub_self]
    rfl
  | cons chunk chunks ih =>
    intro all whole
    have first := convert_behind arithmetic rate channels scale all chunk
    have rest := ih (all ++ stereoFrames chunk) fun other member =>
      whole other (List.mem_cons_of_mem _ member)
    rw [List.flatten_cons, stereoFrames_append _ _ (whole chunk List.mem_cons_self),
      ← List.append_assoc]
    generalize stereoFrames chunk = more at *
    generalize stereoFrames chunks.flatten = later at *
    rw [convertChunks, first]
    simp only [Option.bind_eq_bind, Option.bind_some, rest]
    have firstMore : outputCount all.length (step outputRate rateScale) ≤
        outputCount (all ++ more).length (step outputRate rateScale) :=
      outputCount_mono positive (List.sublist_append_left _ _).length_le
    have moreLater : outputCount (all ++ more).length (step outputRate rateScale) ≤
        outputCount (all ++ more ++ later).length (step outputRate rateScale) :=
      outputCount_mono positive (List.sublist_append_left _ _).length_le
    have glued := framesFrom_add arithmetic outputChannels (all ++ more ++ later)
      (step outputRate rateScale) (outputCount all.length (step outputRate rateScale))
      (outputCount (all ++ more).length (step outputRate rateScale) -
        outputCount all.length (step outputRate rateScale))
      (outputCount (all ++ more ++ later).length (step outputRate rateScale) -
        outputCount (all ++ more).length (step outputRate rateScale))
    rw [Nat.add_sub_cancel' firstMore, Nat.add_comm (_ - _),
      Nat.sub_add_sub_cancel moreLater firstMore] at glued
    rw [← framesFrom_append arithmetic outputChannels (all ++ more) positive
      (Nat.add_sub_cancel' firstMore).le later, glued]

/-- Chunks of whole frames make the output that the whole input makes at once. The loops end, and
    no index is out of range. -/
theorem chunks_convert_alike (arithmetic : SampleArithmetic α) {outputRate outputChannels : Nat}
    {rateScale : ℚ} (rate : 0 < outputRate) (channels : 0 < outputChannels)
    (scale : 0 < rateScale) (chunks : List (List α)) (whole : ∀ chunk ∈ chunks, 2 ∣ chunk.length) :
    ∃ converter output,
      convertChunks arithmetic rateScale (new outputRate outputChannels) chunks =
        some (converter, output) ∧
      (new outputRate outputChannels).convert arithmetic chunks.flatten rateScale =
        some (converter, output) ∧
      ∃ count, (∀ k : ℕ, k < count ↔
          k * step outputRate rateScale + 1 < (chunks.flatten.length / 2 : ℕ)) ∧
        output.length = count * outputChannels := by
  have positive := step_pos rate scale
  have chunked := convertChunks_behind arithmetic rate channels scale chunks [] whole
  have whole := convert_behind arithmetic rate channels scale [] chunks.flatten
  rw [behind_nil outputRate outputChannels positive] at chunked whole
  rw [List.nil_append, List.length_nil, outputCount_zero positive, Nat.sub_zero] at chunked whole
  refine ⟨_, _, chunked, whole,
    outputCount (stereoFrames chunks.flatten).length (step outputRate rateScale), fun k => ?_, ?_⟩
  · rw [lt_outputCount positive, length_stereoFrames]
  · rw [length_framesFrom arithmetic outputChannels _ positive (Nat.zero_add _).le]

/-- Samples with exact arithmetic. -/
def exactSamples : SampleArithmetic ℚ where
  between left right fraction := left + (right - left) * fraction
  mean left right := (left + right) * (1 / 2)

/-- One output frame for every six input frames, from chunks of one frame and of seven. -/
theorem chunks_convert_alike_downsampling : ∃ converter output,
    convertChunks exactSamples 1 (new 8000 1) [[1, 0], List.replicate 14 3] =
      some (converter, output) ∧
    (new 8000 1).convert exactSamples ([1, 0] ++ List.replicate 14 3) 1 =
      some (converter, output) ∧
    ∃ count : ℕ, (∀ k : ℕ, k < count ↔ k * step 8000 1 + 1 < 8) ∧ output.length = count * 1 := by
  have alike := @chunks_convert_alike _ exactSamples 8000 1 1 (by decide) (by decide) (by decide)
    [[1, 0], List.replicate 14 3] (by decide)
  exact alike

end OutputConverter

end EdgeKvm.Audio
