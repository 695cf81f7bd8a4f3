import EdgeKvm.Audio.LossReporter
import EdgeKvm.Audio.RingTurns
import Mathlib.Algebra.Order.Ring.Rat
import Mathlib.Tactic.Linarith

/-!
# Playout

`PlayoutState`: the output callback, which renders from the ring while the network task pushes
whole frames into it. Every access of the callback to the ring is a step of its own. Samples and
gains are exact.
-/

namespace EdgeKvm.Audio

open EdgeKvm.Lib Machine

/-! ## The callback's state -/

/-- `FADE_FRAMES` -/
def fadeFrames : Nat := 48

/-- What the gain moves by in one output frame. -/
def fadeStep : ℚ := 1 / fadeFrames

structure PlayoutState where
  channels : Nat
  prebufferSamples : Nat
  playing : Bool := false
  gain : ℚ := 0
  lastFrame : List ℚ
  positive : 0 < channels
  whole : lastFrame.length = channels

namespace PlayoutState

def new (channels prebufferSamples : Nat) : PlayoutState where
  channels := max channels 1
  prebufferSamples := prebufferSamples
  lastFrame := List.replicate (max channels 1) 0
  positive := lt_of_lt_of_le Nat.zero_lt_one (Nat.le_max_right _ _)
  whole := List.length_replicate

/-- The queue is long enough to start. -/
def prebuffered (state : PlayoutState) (queued : Nat) : Bool :=
  decide (max state.prebufferSamples state.channels ≤ queued)

def start (state : PlayoutState) (queued : Nat) : PlayoutState :=
  if !state.playing && state.prebuffered queued then { state with playing := true } else state

/-- A sample of the frame that is played next. -/
def fill (state : PlayoutState) (index : Nat) (sample : ℚ) : PlayoutState :=
  { state with
    lastFrame := state.lastFrame.set index sample
    whole := by rw [List.length_set]; exact state.whole }

def fadeIn (state : PlayoutState) : PlayoutState :=
  { state with gain := min (state.gain + fadeStep) 1 }

/-- The last frame decays. -/
def starve (state : PlayoutState) : PlayoutState :=
  { state with
    playing := false
    gain := max (state.gain - fadeStep) 0 }

end PlayoutState

/-! ## Steps -/

/-- How far the callback is; `left` output samples are not yet written. -/
inductive Rendering where
  | idle
  | frame (left : Nat)
  /-- It is decided whether it plays. -/
  | ready (left : Nat)
  /-- `index` samples of the frame are popped. -/
  | filling (left index : Nat)
  deriving DecidableEq, Repr

/-- An output frame, with the room that was left for it. -/
structure OutputFrame where
  consumed : Bool
  frame : List ℚ
  gain : ℚ
  left : Nat
  deriving DecidableEq, Repr

/-- What is written of the frame, as far as there is room. -/
def OutputFrame.chunk (output : OutputFrame) : List ℚ :=
  (output.frame.take output.left).map (· * output.gain)

/-- The callback and the ring, with the output frames written and the queue at every start. -/
structure Playback where
  turns : RingRun ℚ
  state : PlayoutState
  stats : PlaybackStats := {}
  rendering : Rendering := .idle
  written : List OutputFrame := []
  starts : List Nat := []

inductive PlaybackAction where
  /-- The producer pushes, in whole frames. -/
  | push (input : List ℚ)
  | produce
  /-- The device asks for that many samples. -/
  | render (length : Nat)
  | step
  deriving DecidableEq, Repr

/-- The next step of the consumer's call of `pop`. -/
def RingRun.popAction {α : Type} (s : RingRun α) : RingAction α :=
  match s.consumer with
  | .idle => .pop
  | _ => .consume

/-- What `pop` returns, when the next step is its last. -/
def RingRun.returned {α : Type} (s : RingRun α) : Option (Option α) :=
  match s.consumer with
  | .loaded read => if read = s.ring.write then some none else none
  | .taken _ sample => some (some sample)
  | _ => none

namespace Playback

def new (capacity : UInt64) (channels prebufferSamples : Nat) : Playback where
  turns := RingRun.new capacity 0
  state := PlayoutState.new channels prebufferSamples

/-- An output frame is written. -/
def write (s : Playback) (left : Nat) (consumed : Bool) (state : PlayoutState) : Playback :=
  { s with
    state := state
    rendering := .frame (left - state.channels)
    written := s.written ++ [⟨consumed, state.lastFrame, state.gain, left⟩] }

/-- A starved frame; the first of them is an underrun. -/
def starve (s : Playback) (left : Nat) : Playback :=
  { s.write left false s.state.starve with
    stats :=
      { s.stats with
        outputUnderruns := s.stats.outputUnderruns + if s.state.playing then 1 else 0 } }

/-- The callback starts to play when enough is queued. -/
def decideStart (s : Playback) (left : Nat) : Playback :=
  { s with
    state := s.state.start s.turns.ring.len
    rendering := .ready left
    starts := s.starts ++
      if !s.state.playing && s.state.prebuffered s.turns.ring.len then [s.turns.ring.len] else [] }

/-- The next step of `render`. -/
def step (s : Playback) : Option Playback :=
  match s.rendering with
  | .idle => none
  | .frame left =>
    if left = 0 then
      some { s with
        stats := { s.stats with queuedOutputSamples := s.turns.ring.len }
        rendering := .idle }
    else some (s.decideStart left)
  | .ready left =>
    if s.state.playing && decide (s.state.channels ≤ s.turns.ring.len) then
      some { s with rendering := .filling left 0 }
    else some (s.starve left)
  | .filling left index =>
    if index < s.state.channels then
      (s.turns.exec s.turns.popAction).map fun turns =>
        match s.turns.returned with
        | none => { s with turns := turns }
        | some sample =>
          { s with
            turns := turns
            state := s.state.fill index (sample.getD 0)
            rendering := .filling left (index + 1) }
    else some (s.write left true s.state.fadeIn)

def exec (s : Playback) : PlaybackAction → Option Playback
  | .push input =>
    (s.turns.exec (.push input s.state.channels)).map fun turns => { s with turns := turns }
  | .produce => (s.turns.exec .produce).map fun turns => { s with turns := turns }
  | .render length =>
    match s.rendering with
    | .idle => some { s with rendering := .frame length }
    | _ => none
  | .step => s.step

end Playback

def playback : Machine Playback PlaybackAction where
  exec := Playback.exec

/-- What a step does. -/
inductive Playback.Turn (s : Playback) : PlaybackAction → Playback → Prop where
  | push {input : List ℚ} {turns : RingRun ℚ}
      (pushed : s.turns.exec (.push input s.state.channels) = some turns) :
      Turn s (.push input) { s with turns := turns }
  | produce {turns : RingRun ℚ} (produced : s.turns.exec .produce = some turns) :
      Turn s .produce { s with turns := turns }
  | render {length : Nat} (idle : s.rendering = .idle) :
      Turn s (.render length) { s with rendering := .frame length }
  | finish (frame : s.rendering = .frame 0) :
      Turn s .step { s with
        stats := { s.stats with queuedOutputSamples := s.turns.ring.len }
        rendering := .idle }
  | decideStart {left : Nat} (frame : s.rendering = .frame left) (more : left ≠ 0) :
      Turn s .step (s.decideStart left)
  | enter {left : Nat} (ready : s.rendering = .ready left) (playing : s.state.playing = true)
      (queued : s.state.channels ≤ s.turns.ring.len) :
      Turn s .step { s with rendering := .filling left 0 }
  | starve {left : Nat} (ready : s.rendering = .ready left)
      (short : s.state.playing = true → s.turns.ring.len < s.state.channels) :
      Turn s .step (s.starve left)
  | pop {left index : Nat} {turns : RingRun ℚ} (filling : s.rendering = .filling left index)
      (more : index < s.state.channels) (popped : s.turns.exec s.turns.popAction = some turns)
      (unfinished : s.turns.returned = none) :
      Turn s .step { s with turns := turns }
  | fill {left index : Nat} {turns : RingRun ℚ} {sample : Option ℚ}
      (filling : s.rendering = .filling left index) (more : index < s.state.channels)
      (popped : s.turns.exec s.turns.popAction = some turns)
      (returned : s.turns.returned = some sample) :
      Turn s .step { s with
        turns := turns
        state := s.state.fill index (sample.getD 0)
        rendering := .filling left (index + 1) }
  | write {left index : Nat} (filling : s.rendering = .filling left index)
      (full : ¬ index < s.state.channels) :
      Turn s .step (s.write left true s.state.fadeIn)

theorem Playback.turn_of_exec {s t : Playback} {action : PlaybackAction}
    (executed : s.exec action = some t) : s.Turn action t := by
  cases action with
  | push input =>
    obtain ⟨turns, pushed, rfl⟩ := Option.map_eq_some_iff.mp executed
    exact .push pushed
  | produce =>
    obtain ⟨turns, produced, rfl⟩ := Option.map_eq_some_iff.mp executed
    exact .produce produced
  | render length =>
    unfold exec at executed
    cases idle : s.rendering with
    | idle =>
      rw [idle] at executed
      cases executed
      exact .render idle
    | _ => rw [idle] at executed; cases executed
  | step =>
    unfold exec step at executed
    cases place : s.rendering with
    | idle => rw [place] at executed; cases executed
    | frame left =>
      simp only [place] at executed
      by_cases none_left : left = 0
      · rw [if_pos none_left] at executed
        cases executed
        exact .finish (by rw [place, none_left])
      · rw [if_neg none_left] at executed
        cases executed
        exact .decideStart place none_left
    | ready left =>
      simp only [place, Bool.and_eq_true, decide_eq_true_eq] at executed
      by_cases plays : s.state.playing = true ∧ s.state.channels ≤ s.turns.ring.len
      · rw [if_pos plays] at executed
        cases executed
        exact .enter place plays.1 plays.2
      · rw [if_neg plays] at executed
        cases executed
        exact .starve place fun playing => not_le.mp fun queued => plays ⟨playing, queued⟩
    | filling left index =>
      simp only [place] at executed
      by_cases more : index < s.state.channels
      · rw [if_pos more] at executed
        obtain ⟨turns, popped, made⟩ := Option.map_eq_some_iff.mp executed
        cases returned : s.turns.returned with
        | none =>
          rw [returned] at made
          cases made
          simpa only [place] using Turn.pop place more popped returned
        | some sample =>
          rw [returned] at made
          cases made
          exact .fill place more popped returned
      · rw [if_neg more] at executed
        cases executed
        exact .write place more

/-! ## What the ring's steps change -/

namespace RingRun

variable {α : Type} {s t : RingRun α} {capacity : UInt64}

/-- Every call and the producer's are made with one alignment. -/
structure Aligned (s : RingRun α) (alignment : Nat) : Prop where
  calls : ∀ call ∈ s.calls ++ s.producer.call, call.alignment = alignment
  loaded : ∀ input other write, s.producer = .loaded input other write → other = alignment

/-- The producer leaves the consumer alone. -/
structure Fed (s t : RingRun α) : Prop where
  popped : t.popped = s.popped
  consumer : t.consumer = s.consumer
  accepted : s.accepted.length ≤ t.accepted.length

theorem fed_of_push {input : List α} {alignment : Nat}
    (executed : s.exec (.push input alignment) = some t) : s.Fed t := by
  cases turn_of_exec executed
  exact ⟨rfl, rfl, le_rfl⟩

theorem fed_of_produce (executed : s.exec .produce = some t) : s.Fed t := by
  cases turn_of_exec executed with
  | loadRead _ _ => exact ⟨rfl, rfl, le_rfl⟩
  | put _ _ => exact ⟨rfl, rfl, le_rfl⟩
  | @publish call _ _ _ _ =>
    refine ⟨rfl, rfl, ?_⟩
    show _ ≤ ((s.calls ++ [call]).flatMap PushCall.accepted).length
    rw [accepted_publish, List.length_append]
    exact Nat.le_add_right _ _

theorem Aligned.push {input : List α} {alignment : Nat} (aligned : s.Aligned alignment)
    (executed : s.exec (.push input alignment) = some t) : t.Aligned alignment := by
  cases turn_of_exec executed with
  | push _ _ idle =>
    have calls := aligned.calls
    rw [idle] at calls
    refine ⟨calls, fun _ _ _ loaded => ?_⟩
    cases loaded
    rfl

theorem Aligned.produce {alignment : Nat} (aligned : s.Aligned alignment)
    (executed : s.exec .produce = some t) : t.Aligned alignment := by
  obtain ⟨calls, known⟩ := aligned
  cases turn_of_exec executed with
  | loadRead loaded counted =>
    refine ⟨fun call member => ?_, fun _ _ _ other => nomatch other⟩
    obtain old | new := List.mem_append.mp member
    · exact calls call (List.mem_append_left _ old)
    · rw [List.mem_singleton.mp new, counted]
      exact known _ _ _ loaded
  | put writing _ =>
    rw [writing] at calls
    exact ⟨calls, fun _ _ _ other => nomatch other⟩
  | @publish call _ _ writing _ =>
    rw [writing] at calls
    refine ⟨fun other member => ?_, fun _ _ _ other => nomatch other⟩
    exact calls other (List.append_nil (s.calls ++ [call]) ▸ member)

/-- The consumer leaves the producer alone. -/
theorem kept_of_pop (executed : s.exec s.popAction = some t) :
    t.producer = s.producer ∧ t.calls = s.calls := by
  unfold popAction at executed
  cases place : s.consumer <;> rw [place] at executed <;> cases turn_of_exec executed <;>
    exact ⟨rfl, rfl⟩

theorem Aligned.pop {alignment : Nat} (aligned : s.Aligned alignment)
    (executed : s.exec s.popAction = some t) : t.Aligned alignment := by
  obtain ⟨producer, calls⟩ := kept_of_pop executed
  refine ⟨?_, ?_⟩
  · rw [producer, calls]
    exact aligned.calls
  · rw [producer]
    exact aligned.loaded

theorem length_accepted_dvd {alignment : Nat} (positive : 0 < alignment)
    (counted : s.Counted capacity) (aligned : s.Aligned alignment) :
    alignment ∣ s.accepted.length := by
  have each : ∀ call ∈ s.calls, alignment ∣ call.accepted.length := by
    intro call member
    have member := List.mem_append_left s.producer.call member
    have regular := counted.regular call member
    rw [regular.length_accepted, ← Nat.max_eq_left (show 1 ≤ alignment from positive),
      ← aligned.calls call member]
    exact regular.aligned
  unfold accepted
  generalize s.calls = calls at each
  induction calls with
  | nil => exact Nat.dvd_zero _
  | cons call calls ih =>
    rw [List.flatMap_cons, List.length_append]
    exact Nat.dvd_add (each call List.mem_cons_self)
      (ih fun other member => each other (List.mem_cons_of_mem _ member))

/-- A pop that goes on has popped nothing yet. -/
theorem popped_of_unfinished (executed : s.exec s.popAction = some t)
    (unfinished : s.returned = none) : t.popped = s.popped := by
  unfold popAction at executed
  unfold returned at unfinished
  cases place : s.consumer with
  | taken read sample => rw [place] at unfinished; cases unfinished
  | _ => rw [place] at executed; cases turn_of_exec executed <;> first | rfl | simp_all

/-- A pop where something is queued returns the sample it pops. -/
theorem popped_of_returned {sample : Option α} (executed : s.exec s.popAction = some t)
    (returned : s.returned = some sample) (counted : s.Counted capacity)
    (queued : s.popped.length < s.accepted.length) :
    ∃ x, sample = some x ∧ t.popped = s.popped ++ [x] ∧ t.consumer = .idle := by
  have consumer := counted.consumer
  unfold popAction at executed
  unfold RingRun.returned at returned
  cases place : s.consumer with
  | idle => rw [place] at returned; cases returned
  | loaded read =>
    simp only [place] at returned
    rw [place] at consumer
    obtain rfl : read = s.ring.read := consumer
    have ahead : s.ring.read ≠ s.ring.write :=
      mt counted.counts.read_eq_write_iff.mp (Nat.ne_of_lt queued)
    rw [if_neg ahead] at returned
    cases returned
  | nonEmpty read => rw [place] at returned; cases returned
  | taken read x =>
    rw [place] at executed returned
    cases returned
    cases turn_of_exec executed with
    | release taken =>
      rw [place] at taken
      cases taken
      exact ⟨x, rfl, rfl, rfl⟩
    | _ => simp_all

end RingRun

/-! ## Accounts -/

namespace Playback

/-- The frames consumed, in the order they were played. -/
def consumed (s : Playback) : List (List ℚ) :=
  (s.written.filter OutputFrame.consumed).map OutputFrame.frame

/-- The samples of the next frame that are popped. -/
def filled (s : Playback) : Nat :=
  match s.rendering with
  | .filling _ index => index
  | _ => 0

/-- A frame is popped only where all of it is queued; between frames no pop is open. -/
def InFrame (s : Playback) : Prop :=
  match s.rendering with
  | .filling _ index => s.state.playing = true ∧
    (index < s.state.channels →
      s.turns.popped.length + (s.state.channels - index) ≤ s.turns.accepted.length) ∧
    (¬ index < s.state.channels → index = s.state.channels ∧ s.turns.consumer = .idle)
  | _ => s.turns.consumer = .idle

structure Steady (capacity : UInt64) (channels prebufferSamples : Nat) (s : Playback) : Prop where
  width : s.state.channels = channels
  prebuffer : s.state.prebufferSamples = prebufferSamples
  counted : s.turns.Counted capacity
  aligned : s.turns.Aligned channels
  inFrame : s.InFrame

variable {capacity : UInt64} {channels prebufferSamples : Nat} {s t : Playback}
  {action : PlaybackAction} {left index : Nat}

theorem steady_new (capacity : UInt64) (channels prebufferSamples : Nat) :
    (new capacity channels prebufferSamples).Steady (max capacity 2) (max channels 1)
      prebufferSamples where
  width := rfl
  prebuffer := rfl
  counted := RingRun.counted_new capacity 0
  aligned := ⟨fun _ member => absurd member List.not_mem_nil, fun _ _ _ loaded => nomatch loaded⟩
  inFrame := rfl

/-- More may be queued than before. -/
theorem InFrame.fed {turns : RingRun ℚ} (inFrame : s.InFrame) (fed : s.turns.Fed turns) :
    ({ s with turns := turns } : Playback).InFrame := by
  unfold InFrame at *
  cases place : s.rendering with
  | filling left index =>
    simp only [place] at inFrame ⊢
    obtain ⟨playing, room, full⟩ := inFrame
    refine ⟨playing, fun more => ?_, fun other => ⟨(full other).1, ?_⟩⟩
    · rw [fed.popped]
      exact (room more).trans fed.accepted
    · rw [fed.consumer]
      exact (full other).2
  | _ =>
    simp only [place] at inFrame ⊢
    rw [fed.consumer]
    exact inFrame

theorem start_kept (state : PlayoutState) (queued : Nat) :
    (state.start queued).channels = state.channels ∧
      (state.start queued).prebufferSamples = state.prebufferSamples ∧
      (state.start queued).lastFrame = state.lastFrame ∧
      (state.start queued).gain = state.gain := by
  unfold PlayoutState.start
  split <;> exact ⟨rfl, rfl, rfl, rfl⟩

theorem step_steady (executed : s.exec action = some t)
    (steady : s.Steady capacity channels prebufferSamples) :
    t.Steady capacity channels prebufferSamples := by
  obtain ⟨same, prebuffer, counted, aligned, inFrame⟩ := steady
  subst same
  cases turn_of_exec executed with
  | push pushed =>
    exact ⟨rfl, prebuffer, RingRun.step_counted pushed counted, aligned.push pushed,
      inFrame.fed (RingRun.fed_of_push pushed)⟩
  | produce produced =>
    exact ⟨rfl, prebuffer, RingRun.step_counted produced counted, aligned.produce produced,
      inFrame.fed (RingRun.fed_of_produce produced)⟩
  | render idle =>
    unfold InFrame at inFrame
    rw [idle] at inFrame
    exact ⟨rfl, prebuffer, counted, aligned, inFrame⟩
  | finish frame =>
    unfold InFrame at inFrame
    rw [frame] at inFrame
    exact ⟨rfl, prebuffer, counted, aligned, inFrame⟩
  | decideStart frame _ =>
    unfold InFrame at inFrame
    rw [frame] at inFrame
    obtain ⟨channels, samples, -, -⟩ := start_kept s.state s.turns.ring.len
    exact ⟨channels, samples.trans prebuffer, counted, aligned, inFrame⟩
  | enter ready playing queued =>
    unfold InFrame at inFrame
    rw [ready] at inFrame
    refine ⟨rfl, prebuffer, counted, aligned, playing, fun _ => ?_, fun none => ?_⟩
    · rw [counted.counts.len] at queued
      have positive := s.state.positive
      show s.turns.popped.length + (s.state.channels - 0) ≤ s.turns.accepted.length
      omega
    · exact absurd s.state.positive none
  | starve ready _ =>
    unfold InFrame at inFrame
    rw [ready] at inFrame
    exact ⟨rfl, prebuffer, counted, aligned, inFrame⟩
  | @pop left index turns filling more popped unfinished =>
    refine ⟨rfl, prebuffer, RingRun.step_counted popped counted, aligned.pop popped, ?_⟩
    unfold InFrame at *
    simp only [filling] at inFrame ⊢
    refine ⟨inFrame.1, fun _ => ?_, fun other => absurd more other⟩
    rw [RingRun.popped_of_unfinished popped unfinished,
      RingRun.accepted, (RingRun.kept_of_pop popped).2]
    exact inFrame.2.1 more
  | @fill left index turns sample filling more popped returned =>
    refine ⟨rfl, prebuffer, RingRun.step_counted popped counted, aligned.pop popped, ?_⟩
    unfold InFrame at inFrame
    simp only [filling] at inFrame
    have room := inFrame.2.1 more
    obtain ⟨x, -, longer, idle⟩ := RingRun.popped_of_returned popped returned counted (by omega)
    refine ⟨inFrame.1, fun further => ?_, fun other => ⟨?_, idle⟩⟩
    · show turns.popped.length + (s.state.channels - (index + 1)) ≤ turns.accepted.length
      rw [longer, List.length_append, RingRun.accepted, (RingRun.kept_of_pop popped).2]
      have further : index + 1 < s.state.channels := further
      show s.turns.popped.length + 1 + _ ≤ s.turns.accepted.length
      omega
    · have other : ¬ index + 1 < s.state.channels := other
      show index + 1 = s.state.channels
      omega
  | write filling full =>
    unfold InFrame at inFrame
    simp only [filling] at inFrame
    exact ⟨rfl, prebuffer, counted, aligned, (inFrame.2.2 full).2⟩

theorem run_steady (run : playback.Run anyAction (new capacity channels prebufferSamples) s) :
    s.Steady (max capacity 2) (max channels 1) prebufferSamples :=
  run.invariant (fun _ _ _ _ => step_steady) (steady_new capacity channels prebufferSamples)

/-- The samples popped are the frames consumed, each played once and in order, and the first
    samples of the next frame. Every start is followed by one underrun, or the callback plays. -/
structure Accounted (s : Playback) : Prop where
  played : s.consumed.flatten ++ s.state.lastFrame.take s.filled = s.turns.popped
  frames : ∀ frame ∈ s.consumed, frame.length = s.state.channels
  starts : ∀ queued ∈ s.starts, max s.state.prebufferSamples s.state.channels ≤ queued
  underruns : s.stats.outputUnderruns + (if s.state.playing then 1 else 0) = s.starts.length
  gain : 0 ≤ s.state.gain ∧ s.state.gain ≤ 1
  gains : ∀ output ∈ s.written, 0 ≤ output.gain ∧ output.gain ≤ 1

/-- What one step may change. -/
structure Moves (s t : Playback) : Prop where
  /-- It starts when the queue has reached the prebuffer. -/
  starts : s.state.playing = false → t.state.playing = true →
    max s.state.prebufferSamples s.state.channels ≤
      s.turns.accepted.length - s.turns.popped.length
  /-- It starves when less than a frame is queued. -/
  starves : s.state.playing = true → t.state.playing = false →
    s.turns.accepted.length - s.turns.popped.length < s.state.channels
  underruns : t.stats.outputUnderruns =
    s.stats.outputUnderruns + if s.state.playing && !t.state.playing then 1 else 0
  /-- The gain moves by at most one fade step, and only with an output frame. -/
  gain : (t.written = s.written ∧ t.state.gain = s.state.gain) ∨
    ∃ output, t.written = s.written ++ [output] ∧ output.gain = t.state.gain ∧
      |t.state.gain - s.state.gain| ≤ fadeStep

theorem fadeStep_pos : 0 < fadeStep := by decide +kernel

/-- A step of the gain up to one. -/
theorem fadeIn_gain (state : PlayoutState) (bounded : 0 ≤ state.gain ∧ state.gain ≤ 1) :
    (0 ≤ state.fadeIn.gain ∧ state.fadeIn.gain ≤ 1) ∧
      |state.fadeIn.gain - state.gain| ≤ fadeStep := by
  obtain ⟨low, high⟩ := bounded
  have positive := fadeStep_pos
  show (0 ≤ min (state.gain + fadeStep) 1 ∧ min (state.gain + fadeStep) 1 ≤ 1) ∧
    |min (state.gain + fadeStep) 1 - state.gain| ≤ fadeStep
  refine ⟨⟨le_min (by linarith) zero_le_one, min_le_right _ _⟩, abs_le.mpr ⟨?_, ?_⟩⟩
  · have above := le_min (show state.gain ≤ state.gain + fadeStep by linarith) high
    linarith
  · have below := min_le_left (state.gain + fadeStep) 1
    linarith

/-- A step of the gain down to zero. -/
theorem starve_gain (state : PlayoutState) (bounded : 0 ≤ state.gain ∧ state.gain ≤ 1) :
    (0 ≤ state.starve.gain ∧ state.starve.gain ≤ 1) ∧
      |state.starve.gain - state.gain| ≤ fadeStep := by
  obtain ⟨low, high⟩ := bounded
  have positive := fadeStep_pos
  show (0 ≤ max (state.gain - fadeStep) 0 ∧ max (state.gain - fadeStep) 0 ≤ 1) ∧
    |max (state.gain - fadeStep) 0 - state.gain| ≤ fadeStep
  refine ⟨⟨le_max_right _ _, max_le (by linarith) zero_le_one⟩, abs_le.mpr ⟨?_, ?_⟩⟩
  · have above := le_max_left (state.gain - fadeStep) 0
    linarith
  · have below := max_le (show state.gain - fadeStep ≤ state.gain by linarith) low
    linarith

/-- The next sample of the frame. -/
theorem take_fill (state : PlayoutState) {index : Nat} (more : index < state.channels) (x : ℚ) :
    (state.fill index x).lastFrame.take (index + 1) = state.lastFrame.take index ++ [x] := by
  show (state.lastFrame.set index x).take (index + 1) = _
  have inside : index < state.lastFrame.length := by
    rw [state.whole]
    exact more
  rw [List.take_add_one, List.getElem?_set_self inside, List.take_set_of_le le_rfl]
  rfl

theorem consumed_write (s : Playback) (left : Nat) (consumed : Bool) (state : PlayoutState) :
    (s.write left consumed state).consumed =
      s.consumed ++ if consumed then [state.lastFrame] else [] := by
  unfold Playback.consumed write
  rw [List.filter_append, List.map_append]
  cases consumed <;> rfl

/-- The queue as the callback sees it. -/
theorem Steady.len (steady : s.Steady capacity channels prebufferSamples) :
    s.turns.ring.len = s.turns.accepted.length - s.turns.popped.length :=
  steady.counted.counts.len

theorem decideStart_cases (s : Playback) (left : Nat) :
    (s.state.playing = false ∧
      max s.state.prebufferSamples s.state.channels ≤ s.turns.ring.len ∧
      s.decideStart left = { s with
        state := { s.state with playing := true }
        rendering := .ready left
        starts := s.starts ++ [s.turns.ring.len] }) ∨
    s.decideStart left = { s with rendering := .ready left } := by
  unfold decideStart PlayoutState.start
  by_cases begins : (!s.state.playing && s.state.prebuffered s.turns.ring.len) = true
  · left
    rw [if_pos begins, if_pos begins]
    rw [Bool.and_eq_true, Bool.not_eq_true', PlayoutState.prebuffered, decide_eq_true_eq] at begins
    exact ⟨begins.1, begins.2, rfl⟩
  · right
    rw [if_neg begins, if_neg begins, List.append_nil]

theorem gains_append {written : List OutputFrame} {output : OutputFrame}
    (gains : ∀ output ∈ written, 0 ≤ output.gain ∧ output.gain ≤ 1)
    (last : 0 ≤ output.gain ∧ output.gain ≤ 1) :
    ∀ other ∈ written ++ [output], 0 ≤ other.gain ∧ other.gain ≤ 1 := by
  intro other member
  obtain old | new := List.mem_append.mp member
  · exact gains other old
  · rw [List.mem_singleton.mp new]
    exact last

theorem step_accounted (executed : s.exec action = some t)
    (steady : s.Steady capacity channels prebufferSamples) (accounted : s.Accounted) :
    t.Accounted := by
  obtain ⟨played, frames, starts, underruns, gain, gains⟩ := accounted
  cases turn_of_exec executed with
  | push pushed =>
    exact ⟨played.trans (RingRun.fed_of_push pushed).popped.symm, frames, starts, underruns, gain,
      gains⟩
  | produce produced =>
    exact ⟨played.trans (RingRun.fed_of_produce produced).popped.symm, frames, starts, underruns,
      gain, gains⟩
  | render idle =>
    unfold filled at played
    rw [idle] at played
    exact ⟨played, frames, starts, underruns, gain, gains⟩
  | finish frame =>
    unfold filled at played
    rw [frame] at played
    exact ⟨played, frames, starts, underruns, gain, gains⟩
  | @decideStart left frame _ =>
    unfold filled at played
    rw [frame] at played
    obtain ⟨quiet, enough, made⟩ | made := decideStart_cases s left
    · rw [made]
      refine ⟨played, frames, ?_, ?_, gain, gains⟩
      · intro queued member
        obtain old | new := List.mem_append.mp member
        · exact starts queued old
        · rw [List.mem_singleton.mp new]
          exact enough
      · show s.stats.outputUnderruns + 1 = (s.starts ++ [_]).length
        rw [List.length_append, ← underruns, quiet]
        rfl
    · rw [made]
      exact ⟨played, frames, starts, underruns, gain, gains⟩
  | enter ready playing queued =>
    unfold filled at played
    rw [ready] at played
    exact ⟨played, frames, starts, underruns, gain, gains⟩
  | @starve left ready short =>
    unfold filled at played
    rw [ready] at played
    obtain ⟨bounded, -⟩ := starve_gain s.state gain
    have same : (s.starve left).consumed = s.consumed :=
      (consumed_write s left false s.state.starve).trans (List.append_nil _)
    refine ⟨?_, ?_, starts, underruns, bounded, gains_append gains bounded⟩
    · rw [same]
      exact played
    · rw [same]
      exact frames
  | pop filling more popped unfinished =>
    exact ⟨played.trans (RingRun.popped_of_unfinished popped unfinished).symm, frames, starts,
      underruns, gain, gains⟩
  | @fill left index turns sample filling more popped returned =>
    have inFrame := steady.inFrame
    unfold InFrame at inFrame
    unfold filled at played
    simp only [filling] at inFrame played
    have room := inFrame.2.1 more
    obtain ⟨x, rfl, longer, -⟩ :=
      RingRun.popped_of_returned popped returned steady.counted (by omega)
    refine ⟨?_, frames, starts, underruns, gain, gains⟩
    show s.consumed.flatten ++ (s.state.fill index x).lastFrame.take (index + 1) = turns.popped
    rw [take_fill s.state more, ← List.append_assoc, played, longer]
  | @write left index filling full =>
    have inFrame := steady.inFrame
    unfold InFrame at inFrame
    unfold filled at played
    simp only [filling] at inFrame played
    obtain ⟨rfl, -⟩ := inFrame.2.2 full
    obtain ⟨bounded, -⟩ := fadeIn_gain s.state gain
    have longer : (s.write left true s.state.fadeIn).consumed = s.consumed ++ [s.state.lastFrame] :=
      consumed_write s left true s.state.fadeIn
    refine ⟨?_, ?_, starts, underruns, bounded, gains_append gains bounded⟩
    · rw [longer, List.flatten_append, List.flatten_singleton]
      show _ ++ s.state.lastFrame ++ [] = s.turns.popped
      rw [List.append_nil, ← played, List.take_of_length_le s.state.whole.le]
    · rw [longer]
      intro frame member
      obtain old | new := List.mem_append.mp member
      · exact frames frame old
      · rw [List.mem_singleton.mp new]
        exact s.state.whole

theorem step_moves (executed : s.exec action = some t)
    (steady : s.Steady capacity channels prebufferSamples) (accounted : s.Accounted) :
    s.Moves t := by
  have bounded := accounted.gain
  -- A step that leaves the callback's state alone.
  have still : t.state.playing = s.state.playing → t.state.gain = s.state.gain →
      t.stats.outputUnderruns = s.stats.outputUnderruns → t.written = s.written → s.Moves t := by
    intro playing gain underruns written
    refine ⟨fun quiet plays => ?_, fun plays quiet => ?_, ?_, .inl ⟨written, gain⟩⟩
    · rw [playing, quiet] at plays
      cases plays
    · rw [playing, plays] at quiet
      cases quiet
    · rw [underruns, playing]
      cases s.state.playing <;> rfl
  cases turn_of_exec executed with
  | push _ => exact still rfl rfl rfl rfl
  | produce _ => exact still rfl rfl rfl rfl
  | render _ => exact still rfl rfl rfl rfl
  | finish _ => exact still rfl rfl rfl rfl
  | @decideStart left _ _ =>
    obtain ⟨quiet, enough, made⟩ | made := decideStart_cases s left
    · rw [steady.len] at enough
      rw [made]
      refine ⟨fun _ _ => enough, fun _ stops => (nomatch stops), ?_, .inl ⟨rfl, rfl⟩⟩
      rw [quiet]
      rfl
    · rw [made] at still ⊢
      exact still rfl rfl rfl rfl
  | enter _ _ _ => exact still rfl rfl rfl rfl
  | @starve left ready short =>
    obtain ⟨-, near⟩ := starve_gain s.state bounded
    rw [steady.len] at short
    refine ⟨fun _ plays => (nomatch plays), fun playing _ => short playing, ?_,
      .inr ⟨_, rfl, rfl, near⟩⟩
    show _ + _ = _ + if s.state.playing && !false then 1 else 0
    rw [Bool.not_false, Bool.and_true]
  | pop _ _ _ _ => exact still rfl rfl rfl rfl
  | fill _ _ _ _ => exact still rfl rfl rfl rfl
  | write _ _ =>
    obtain ⟨-, near⟩ := fadeIn_gain s.state bounded
    refine ⟨fun quiet plays => ?_, fun plays quiet => ?_, ?_, .inr ⟨_, rfl, rfl, near⟩⟩
    · exact absurd (quiet.symm.trans plays) (by decide)
    · exact absurd (plays.symm.trans quiet) (by decide)
    · show s.stats.outputUnderruns = _ + if s.state.playing && !s.state.playing then 1 else 0
      cases s.state.playing <;> rfl

theorem run_accounted (run : playback.Run anyAction (new capacity channels prebufferSamples) s) :
    s.Accounted := by
  have both : s.Steady (max capacity 2) (max channels 1) prebufferSamples ∧ s.Accounted := by
    refine run.invariant (I := fun s =>
      s.Steady (max capacity 2) (max channels 1) prebufferSamples ∧ s.Accounted) ?_
      ⟨steady_new capacity channels prebufferSamples, ?_⟩
    · rintro s action t - executed ⟨steady, accounted⟩
      exact ⟨step_steady executed steady, step_accounted executed steady accounted⟩
    · exact ⟨rfl, fun _ member => absurd member List.not_mem_nil,
        fun _ member => absurd member List.not_mem_nil, rfl, ⟨le_rfl, zero_le_one⟩,
        fun _ member => absurd member List.not_mem_nil⟩
  exact both.2

theorem length_flatten_frames {frames : List (List ℚ)} {width : Nat}
    (whole : ∀ frame ∈ frames, frame.length = width) :
    frames.flatten.length = frames.length * width := by
  induction frames with
  | nil => rw [List.flatten_nil, List.length_nil, List.length_nil, Nat.zero_mul]
  | cons frame frames ih =>
    rw [List.flatten_cons, List.length_append, whole frame List.mem_cons_self,
      ih fun other member => whole other (List.mem_cons_of_mem _ member), List.length_cons,
      Nat.add_mul, Nat.one_mul, Nat.add_comm]

theorem InFrame.filled_le (inFrame : s.InFrame) : s.filled ≤ s.state.channels := by
  unfold InFrame at inFrame
  unfold filled
  cases place : s.rendering with
  | filling left index =>
    simp only [place] at inFrame ⊢
    by_cases more : index < s.state.channels
    · exact more.le
    · exact (inFrame.2.2 more).1.le
  | _ => exact Nat.zero_le _

/-- The callback consumes whole frames, whole frames are pushed, and the accounts hold after every
    step of every interleaving and across the step that comes next. -/
theorem playout_accounting (capacity : UInt64) (channels prebufferSamples : Nat) {s : Playback}
    (run : playback.Run anyAction (new capacity channels prebufferSamples) s) :
    s.state.channels = max channels 1 ∧
      s.turns.popped.length = s.consumed.length * s.state.channels + s.filled ∧
      s.state.channels ∣ s.turns.accepted.length ∧ s.Accounted ∧
      ∀ action t, playback.exec s action = some t → s.Moves t := by
  have steady := run_steady run
  have accounted := run_accounted run
  refine ⟨steady.width, ?_, ?_, accounted, fun action t executed =>
    step_moves executed steady accounted⟩
  · rw [← accounted.played, List.length_append, length_flatten_frames accounted.frames,
      List.length_take, s.state.whole, Nat.min_eq_left steady.inFrame.filled_le]
  · have positive := s.state.positive
    rw [steady.width] at positive ⊢
    exact RingRun.length_accepted_dvd positive steady.counted steady.aligned

/-- One frame is pushed, and the device asks for a frame and a half. -/
def underrun : List PlaybackAction :=
  [.push [1, 2], .produce, .render 3] ++ List.replicate 3 .produce ++ List.replicate 14 .step

theorem playout_accounting_underrun :
    (playback.reach (new 4 2 2) underrun).stats.outputUnderruns +
      (if (playback.reach (new 4 2 2) underrun).state.playing then 1 else 0) = 1 :=
  (playout_accounting 4 2 2 (run_reach underrun (by decide +kernel))).2.2.2.1.underruns.trans
    (by decide +kernel)

/-! ## What is played, while no unread sample is overwritten -/

/-- The producer's step is one that `RingRun.bounded_fifo` is about. -/
def SlotFree (s : Playback) : PlaybackAction → Prop
  | .produce => s.turns.SlotFree .produce
  | _ => True

/-- The ring takes one of its own steps, or none. -/
theorem turns_step (free : s.SlotFree action) (executed : s.exec action = some t) :
    t.turns = s.turns ∨ ∃ turn, s.turns.SlotFree turn ∧ s.turns.exec turn = some t.turns := by
  cases turn_of_exec executed with
  | push pushed => exact .inr ⟨.push _ _, trivial, pushed⟩
  | produce produced => exact .inr ⟨.produce, free, produced⟩
  | pop _ _ popped _ =>
    refine .inr ⟨_, ?_, popped⟩
    unfold RingRun.popAction
    split <;> trivial
  | fill _ _ popped _ =>
    refine .inr ⟨_, ?_, popped⟩
    unfold RingRun.popAction
    split <;> trivial
  | _ => exact .inl rfl

/-- The ring's part of a run is a run of the ring. -/
theorem run_turns (run : playback.Run SlotFree (new capacity channels prebufferSamples) s) :
    (ringTurns ℚ).Run RingRun.SlotFree (RingRun.new capacity 0) s.turns := by
  refine run.invariant (I := fun s =>
    (ringTurns ℚ).Run RingRun.SlotFree (RingRun.new capacity 0) s.turns) ?_ .refl
  intro s action t free executed turns
  obtain same | ⟨turn, allowed, made⟩ := turns_step free executed
  · rw [same]
    exact turns
  · exact turns.tail ⟨turn, allowed, made⟩

theorem getElem?_flatten_frames {frames : List (List ℚ)} {width number channel : Nat}
    {frame : List ℚ} (whole : ∀ frame ∈ frames, frame.length = width)
    (found : frames[number]? = some frame) (inside : channel < width) :
    frames.flatten[number * width + channel]? = frame[channel]? := by
  induction frames generalizing number with
  | nil => cases found
  | cons first frames ih =>
    have length := whole first List.mem_cons_self
    cases number with
    | zero =>
      cases found
      rw [List.flatten_cons, Nat.zero_mul, Nat.zero_add,
        List.getElem?_append_left (by rw [length]; exact inside)]
    | succ number =>
      have behind : (number + 1) * width + channel = first.length + (number * width + channel) := by
        rw [length, Nat.add_mul, Nat.one_mul]
        omega
      rw [List.flatten_cons, behind, List.getElem?_append_right (Nat.le_add_right _ _),
        Nat.add_sub_cancel_left]
      exact ih (fun other member => whole other (List.mem_cons_of_mem _ member)) found

/-- The frames played are the frames pushed, in order: a sample keeps its channel. -/
theorem consumed_as_pushed (run : playback.Run SlotFree (new capacity channels prebufferSamples) s)
    {number channel : Nat} {frame : List ℚ} (played : s.consumed[number]? = some frame)
    (inside : channel < s.state.channels) :
    frame[channel]? = s.turns.accepted[number * s.state.channels + channel]? := by
  have anywhere := @Run.mono _ _ _ _ anyAction _ _ (fun _ _ _ => trivial) run
  have accounted := run_accounted anywhere
  have place := getElem?_flatten_frames accounted.frames played inside
  have known : channel < frame.length :=
    accounted.frames frame (List.mem_of_getElem? played) ▸ inside
  rw [List.getElem?_eq_getElem known] at place ⊢
  rw [← (RingRun.bounded_fifo capacity 0 (run_turns run)).1, ← accounted.played, List.append_assoc,
    List.getElem?_append_left (List.getElem?_eq_some_iff.mp place).1]
  exact place.symm

end Playback

end EdgeKvm.Audio
