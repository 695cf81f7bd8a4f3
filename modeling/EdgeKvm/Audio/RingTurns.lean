import EdgeKvm.Audio.Ring

/-!
# The ring between its two threads

Every order of the steps of the producer's `push_slice_aligned` and of the consumer's `pop`. A step
is an atomic load, an atomic store, or one sample that is written or read.
-/

namespace EdgeKvm.Audio

open EdgeKvm.Lib Machine

universe u

variable {α : Type u}

/-! ## Steps -/

/-- How far the producer's call is. -/
inductive Producer (α : Type u) where
  | idle
  /-- The write counter is loaded. -/
  | loaded (input : List α) (alignment : Nat) (write : UInt64)
  /-- The read counter is loaded as well, and `offset` samples are written. -/
  | writing (call : PushCall α) (write : UInt64) (offset : Nat)
  deriving DecidableEq, Repr

/-- How far the consumer's call is. -/
inductive Consumer (α : Type u) where
  | idle
  | loaded (read : UInt64)
  /-- The write counter was another one. -/
  | nonEmpty (read : UInt64)
  | taken (read : UInt64) (sample : α)
  deriving DecidableEq, Repr

/-- The ring and its threads, with the calls that returned and the samples popped. -/
structure RingRun (α : Type u) where
  ring : AudioRing α
  producer : Producer α := .idle
  consumer : Consumer α := .idle
  calls : List (PushCall α) := []
  popped : List α := []

inductive RingAction (α : Type u) where
  /-- The producer calls `push_slice_aligned` and loads its counter. -/
  | push (input : List α) (alignment : Nat)
  | produce
  /-- The consumer calls `pop` and loads its counter. -/
  | pop
  | consume
  deriving DecidableEq, Repr

namespace RingRun

def new (capacity : UInt64) (silence : α) : RingRun α := { ring := AudioRing.new capacity silence }

/-- The accepted inputs, one behind the other. -/
def accepted (s : RingRun α) : List α := s.calls.flatMap PushCall.accepted

/-- The next step of `push_slice_aligned`. -/
def produce (s : RingRun α) : Option (RingRun α) :=
  match s.producer with
  | .idle => none
  | .loaded input alignment write =>
    let count := AudioRing.acceptedCount s.ring.capacity write s.ring.read input.length alignment
    some { s with producer := .writing ⟨input, alignment, count⟩ write 0 }
  | .writing call write offset =>
    match call.accepted[offset]? with
    | some sample =>
      some { s with
        ring := s.ring.put (write + UInt64.ofNat offset) sample
        producer := .writing call write (offset + 1) }
    | none =>
      some { s with
        ring := s.ring.storeWrite (write + UInt64.ofNat call.count)
        producer := .idle
        calls := s.calls ++ [call] }

/-- The next step of `pop`. -/
def consume (s : RingRun α) : Option (RingRun α) :=
  match s.consumer with
  | .idle => none
  | .loaded read =>
    if read = s.ring.write then some { s with consumer := .idle }
    else some { s with consumer := .nonEmpty read }
  | .nonEmpty read => some { s with consumer := .taken read (s.ring.sample read) }
  | .taken read sample =>
    some { s with
      ring := s.ring.storeRead (read + 1)
      consumer := .idle
      popped := s.popped ++ [sample] }

def exec (s : RingRun α) : RingAction α → Option (RingRun α)
  | .push input alignment =>
    match s.producer with
    | .idle => some { s with producer := .loaded input alignment s.ring.write }
    | _ => none
  | .produce => s.produce
  | .pop =>
    match s.consumer with
    | .idle => some { s with consumer := .loaded s.ring.read }
    | _ => none
  | .consume => s.consume

end RingRun

def ringTurns (α : Type u) : Machine (RingRun α) (RingAction α) where
  exec := RingRun.exec

/-- The sample the producer writes next and the unread ones before it have slots of their own. -/
def RingRun.SlotFree (s : RingRun α) : RingAction α → Prop
  | .produce =>
    match s.producer with
    | .writing call write offset => offset < call.accepted.length →
      s.ring.Separate ((write - s.ring.read).toNat + offset + 1)
    | _ => True
  | _ => True

instance (s : RingRun α) (action : RingAction α) : Decidable (s.SlotFree action) := by
  unfold RingRun.SlotFree
  split
  · split <;> infer_instance
  · infer_instance

/-! ## One step -/

/-- What a step does. -/
inductive RingRun.Turn (s : RingRun α) : RingAction α → RingRun α → Prop where
  | push (input : List α) (alignment : Nat) (idle : s.producer = .idle) :
      Turn s (.push input alignment)
        { s with producer := .loaded input alignment s.ring.write }
  | loadRead {input : List α} {alignment : Nat} {write : UInt64} {call : PushCall α}
      (loaded : s.producer = .loaded input alignment write)
      (counted : call = ⟨input, alignment,
        AudioRing.acceptedCount s.ring.capacity write s.ring.read input.length alignment⟩) :
      Turn s .produce { s with producer := .writing call write 0 }
  | put {call : PushCall α} {write : UInt64} {offset : Nat} {sample : α}
      (writing : s.producer = .writing call write offset)
      (next : call.accepted[offset]? = some sample) :
      Turn s .produce { s with
        ring := s.ring.put (write + UInt64.ofNat offset) sample
        producer := .writing call write (offset + 1) }
  | publish {call : PushCall α} {write : UInt64} {offset : Nat}
      (writing : s.producer = .writing call write offset)
      (done : call.accepted[offset]? = none) :
      Turn s .produce { s with
        ring := s.ring.storeWrite (write + UInt64.ofNat call.count)
        producer := .idle
        calls := s.calls ++ [call] }
  | pop (idle : s.consumer = .idle) : Turn s .pop { s with consumer := .loaded s.ring.read }
  | nothing {read : UInt64} (loaded : s.consumer = .loaded read) (empty : read = s.ring.write) :
      Turn s .consume { s with consumer := .idle }
  | something {read : UInt64} (loaded : s.consumer = .loaded read) (ahead : read ≠ s.ring.write) :
      Turn s .consume { s with consumer := .nonEmpty read }
  | take {read : UInt64} (nonEmpty : s.consumer = .nonEmpty read) :
      Turn s .consume { s with consumer := .taken read (s.ring.sample read) }
  | release {read : UInt64} {sample : α} (taken : s.consumer = .taken read sample) :
      Turn s .consume { s with
        ring := s.ring.storeRead (read + 1)
        consumer := .idle
        popped := s.popped ++ [sample] }

theorem RingRun.turn_of_exec {s t : RingRun α} {action : RingAction α}
    (executed : s.exec action = some t) : s.Turn action t := by
  cases action with
  | push input alignment =>
    unfold exec at executed
    cases idle : s.producer with
    | idle =>
      rw [idle] at executed
      cases executed
      exact .push input alignment idle
    | _ => rw [idle] at executed; cases executed
  | produce =>
    unfold exec produce at executed
    cases place : s.producer with
    | idle => rw [place] at executed; cases executed
    | loaded input alignment write =>
      rw [place] at executed
      cases executed
      exact .loadRead place rfl
    | writing call write offset =>
      simp only [place] at executed
      cases next : call.accepted[offset]? with
      | some sample =>
        rw [next] at executed
        cases executed
        exact .put place next
      | none =>
        rw [next] at executed
        cases executed
        exact .publish place next
  | pop =>
    unfold exec at executed
    cases idle : s.consumer with
    | idle =>
      rw [idle] at executed
      cases executed
      exact .pop idle
    | _ => rw [idle] at executed; cases executed
  | consume =>
    unfold exec consume at executed
    cases place : s.consumer with
    | idle => rw [place] at executed; cases executed
    | loaded read =>
      simp only [place] at executed
      by_cases empty : read = s.ring.write
      · rw [if_pos empty] at executed
        cases executed
        exact .nothing place empty
      · rw [if_neg empty] at executed
        cases executed
        exact .something place empty
    | nonEmpty read =>
      rw [place] at executed
      cases executed
      exact .take place
    | taken read sample =>
      rw [place] at executed
      cases executed
      exact .release place

/-! ## The counters, in every run -/

/-- The call that the producer is in, once it knows what it accepts. -/
def Producer.call : Producer α → List (PushCall α)
  | .writing call _ _ => [call]
  | _ => []

/-- What the call accepts. -/
def Producer.pending : Producer α → List α
  | .writing call _ _ => call.accepted
  | _ => []

def Producer.offset : Producer α → Nat
  | .writing _ _ offset => offset
  | _ => 0

/-- What the producer has loaded is still there. -/
def Producer.UpToDate (ring : AudioRing α) : Producer α → Prop
  | .idle => True
  | .loaded _ _ write => write = ring.write
  | .writing call write offset => write = ring.write ∧ offset ≤ call.accepted.length

/-- What the consumer has loaded is still there, and it goes on only where a sample is `queued`. -/
def Consumer.UpToDate (ring : AudioRing α) (queued : Prop) : Consumer α → Prop
  | .idle => True
  | .loaded read => read = ring.read
  | .nonEmpty read => read = ring.read ∧ queued
  | .taken read _ => read = ring.read ∧ queued

/-- A multiple of the alignment, of what was given. -/
structure PushCall.Regular (call : PushCall α) : Prop where
  aligned : max call.alignment 1 ∣ call.count
  within : call.count ≤ call.input.length

theorem PushCall.Regular.length_accepted {call : PushCall α} (regular : call.Regular) :
    call.accepted.length = call.count := by
  rw [PushCall.accepted, List.length_take, Nat.min_eq_left regular.within]

theorem Consumer.UpToDate.mono {ring ring' : AudioRing α} {queued queued' : Prop}
    {consumer : Consumer α} (uptodate : consumer.UpToDate ring queued)
    (read : ring'.read = ring.read) (kept : queued → queued') :
    consumer.UpToDate ring' queued' := by
  cases consumer with
  | idle => trivial
  | loaded loadedRead => exact uptodate.trans read.symm
  | nonEmpty loadedRead => exact ⟨uptodate.1.trans read.symm, kept uptodate.2⟩
  | taken loadedRead sample => exact ⟨uptodate.1.trans read.symm, kept uptodate.2⟩

namespace RingRun

/-- The samples accepted, those of the producer's call included. -/
def all (s : RingRun α) : List α := s.accepted ++ s.producer.pending

/-- The number of samples written to their slots. -/
def written (s : RingRun α) : Nat := s.accepted.length + s.producer.offset

structure Counted (capacity : UInt64) (s : RingRun α) : Prop where
  capacity : s.ring.capacity = capacity
  counts : s.ring.Counts s.popped.length s.accepted.length
  fits : s.all.length ≤ s.popped.length + s.ring.capacity.toNat
  regular : ∀ call ∈ s.calls ++ s.producer.call, call.Regular
  producer : s.producer.UpToDate s.ring
  consumer : s.consumer.UpToDate s.ring (s.popped.length < s.accepted.length)

variable {capacity : UInt64} {s t : RingRun α} {action : RingAction α}

theorem counted_new (capacity : UInt64) (silence : α) :
    (new capacity silence).Counted (max capacity 2) where
  capacity := rfl
  counts := ⟨rfl, rfl, le_rfl, Nat.zero_le _⟩
  fits := Nat.zero_le _
  regular := fun _ member => absurd member List.not_mem_nil
  producer := trivial
  consumer := trivial

theorem accepted_publish (s : RingRun α) (call : PushCall α) :
    (s.calls ++ [call]).flatMap PushCall.accepted = s.accepted ++ call.accepted := by
  rw [List.flatMap_append, List.flatMap_singleton]
  rfl

/-- The producer's call has written all it accepts. -/
theorem Counted.offset_eq (counted : s.Counted capacity) {call : PushCall α} {write : UInt64}
    {offset : Nat} (writing : s.producer = .writing call write offset)
    (done : call.accepted[offset]? = none) :
    call.accepted.length = call.count ∧ offset = call.count := by
  have regular := counted.regular
  have producer := counted.producer
  rw [writing] at regular producer
  have length := (regular call (List.mem_append_right _ (List.mem_singleton_self _))).length_accepted
  have past := List.getElem?_eq_none_iff.mp done
  have notPast : offset ≤ call.accepted.length := producer.2
  exact ⟨length, by omega⟩

theorem step_counted (executed : s.exec action = some t) (counted : s.Counted capacity) :
    t.Counted capacity := by
  have finished := @counted.offset_eq
  obtain ⟨same, counts, fits, regular, producer, consumer⟩ := counted
  have order := counts.order
  unfold all at fits
  cases turn_of_exec executed with
  | push input alignment idle =>
    rw [idle] at fits regular
    exact ⟨same, counts, fits, regular, rfl, consumer⟩
  | @loadRead input alignment write call loaded counted =>
    rw [loaded] at fits regular producer
    obtain rfl : write = s.ring.write := producer
    obtain ⟨aligned, within, free⟩ := AudioRing.acceptedCount_spec s.ring.capacity s.ring.write
      s.ring.read input.length alignment
    have ok : call.Regular := by
      subst counted
      exact ⟨aligned, within⟩
    have count : call.count ≤ s.ring.capacity.toNat - (s.accepted.length - s.popped.length) := by
      rw [← counts.difference, counted]
      exact free
    refine ⟨same, counts, ?_, ?_, ⟨rfl, Nat.zero_le _⟩, consumer⟩
    · show (s.accepted ++ call.accepted).length ≤ s.popped.length + s.ring.capacity.toNat
      have room := counts.room
      rw [List.length_append, ok.length_accepted]
      omega
    · intro other member
      obtain old | new := List.mem_append.mp member
      · exact regular other (List.mem_append_left _ old)
      · rw [List.mem_singleton.mp new]
        exact ok
  | put writing next =>
    rw [writing] at fits regular producer
    have inside := (List.getElem?_eq_some_iff.mp next).1
    exact ⟨same, ⟨counts.read, counts.write, order, counts.room⟩, fits, regular,
      ⟨producer.1, inside⟩, consumer.mono rfl id⟩
  | @publish call write offset writing done =>
    obtain ⟨length, rfl⟩ := finished writing done
    rw [writing] at fits regular producer
    obtain ⟨rfl, -⟩ := producer
    have published := counts.publish (List.length_append ▸ Nat.le_add_right _ _) fits
    rw [List.length_append, show (Producer.writing call s.ring.write call.count).pending.length =
      call.count from length, UInt64.ofNat_add, ← counts.write] at published
    have joined : ((s.calls ++ [call]).flatMap PushCall.accepted).length =
        s.accepted.length + call.count := by
      rw [accepted_publish, List.length_append, length]
    refine ⟨same, ?_, ?_, ?_, trivial, consumer.mono rfl ?_⟩
    · show (s.ring.storeWrite _).Counts s.popped.length
        ((s.calls ++ [call]).flatMap PushCall.accepted).length
      rw [joined]
      exact published
    · show ((s.calls ++ [call]).flatMap PushCall.accepted ++ []).length ≤ _
      rw [List.append_nil, accepted_publish]
      exact fits
    · intro other member
      exact regular other (List.append_nil (s.calls ++ [call]) ▸ member)
    · show _ → s.popped.length < ((s.calls ++ [call]).flatMap PushCall.accepted).length
      omega
  | pop idle => exact ⟨same, counts, fits, regular, producer, rfl⟩
  | nothing loaded empty => exact ⟨same, counts, fits, regular, producer, trivial⟩
  | something loaded ahead =>
    rw [loaded] at consumer
    obtain rfl := consumer
    refine ⟨same, counts, fits, regular, producer, rfl, ?_⟩
    exact lt_of_le_of_ne order (mt counts.read_eq_write_iff.mpr ahead)
  | take nonEmpty =>
    rw [nonEmpty] at consumer
    exact ⟨same, counts, fits, regular, producer, consumer⟩
  | @release read sample taken =>
    rw [taken] at consumer
    obtain ⟨rfl, more⟩ := consumer
    have longer : (s.popped ++ [sample]).length = s.popped.length + 1 := List.length_append
    refine ⟨same, ?_, ?_, regular, ?_, trivial⟩
    · show (s.ring.storeRead _).Counts (s.popped ++ [sample]).length s.accepted.length
      rw [longer]
      exact counts.release more
    · show s.all.length ≤ (s.popped ++ [sample]).length + s.ring.capacity.toNat
      rw [longer]
      exact fits.trans (by omega)
    · obtain ⟨ring, producerState, _, _, _⟩ := s
      cases producerState <;> exact producer

theorem run_counted {silence : α}
    (run : (ringTurns α).Run anyAction (new capacity silence) s) : s.Counted (max capacity 2) :=
  run.invariant (fun _ _ _ _ => step_counted) (counted_new capacity silence)

/-! ## The samples, while no unread one is overwritten -/

structure Sound (s : RingRun α) : Prop where
  stores : s.ring.Stores s.all s.popped.length s.written
  popped : s.popped = s.accepted.take s.popped.length
  taken : ∀ read sample, s.consumer = .taken read sample →
    s.accepted[s.popped.length]? = some sample

theorem sound_new (capacity : UInt64) (silence : α) : (new capacity silence).Sound where
  stores := ⟨le_rfl, fun _ _ _ _ high => absurd high (Nat.not_lt_zero _),
    fun _ _ high => absurd high (Nat.not_lt_zero _)⟩
  popped := rfl
  taken := fun _ _ taken => nomatch taken

theorem step_sound (free : s.SlotFree action) (executed : s.exec action = some t)
    (counted : s.Counted capacity) (sound : s.Sound) : t.Sound := by
  obtain ⟨stores, popped, taken⟩ := sound
  have finished := @counted.offset_eq
  obtain ⟨-, counts, fits, -, producer, consumer⟩ := counted
  have order := counts.order
  cases turn_of_exec executed with
  | push input alignment idle =>
    unfold all written at stores
    rw [idle] at stores
    exact ⟨stores, popped, taken⟩
  | @loadRead input alignment write call loaded _ =>
    unfold all written at stores
    rw [loaded] at stores
    refine ⟨?_, popped, taken⟩
    have longer : s.ring.Stores ((s.accepted ++ []) ++ call.accepted) s.popped.length
      s.accepted.length := stores.append call.accepted
    rw [List.append_nil] at longer
    exact longer
  | @put call write offset sample writing next =>
    unfold all written at *
    simp only [SlotFree, writing] at free
    rw [writing] at stores fits producer
    obtain ⟨rfl, -⟩ := producer
    have inside := (List.getElem?_eq_some_iff.mp next).1
    have placed : (s.accepted ++ call.accepted)[s.accepted.length + offset]? = some sample := by
      rw [List.getElem?_append_right (Nat.le_add_right _ _), Nat.add_sub_cancel_left]
      exact next
    have separate := free inside
    rw [counts.difference, show s.accepted.length - s.popped.length + offset + 1 =
      s.accepted.length + offset - s.popped.length + 1 by omega] at separate
    rw [List.length_append] at fits
    have fits : s.accepted.length + call.accepted.length ≤ _ := fits
    have stored := stores.put counts (Nat.le_add_right _ _) separate placed
      (show s.accepted.length + offset < _ by omega)
    rw [show (Producer.writing call s.ring.write offset).offset = offset from rfl,
      UInt64.ofNat_add, ← counts.write] at stored
    exact ⟨stored, popped, taken⟩
  | @publish call write offset writing done =>
    obtain ⟨length, rfl⟩ := finished writing done
    unfold all written at *
    rw [writing] at stores
    refine ⟨?_, ?_, fun read sample found => ?_⟩
    · show AudioRing.Stores _ ((s.calls ++ [call]).flatMap PushCall.accepted ++ []) _
        (((s.calls ++ [call]).flatMap PushCall.accepted).length + 0)
      rw [List.append_nil, accepted_publish, List.length_append, length, Nat.add_zero]
      exact ⟨stores.known, stores.apart, stores.holds⟩
    · show s.popped = ((s.calls ++ [call]).flatMap PushCall.accepted).take s.popped.length
      rw [accepted_publish, List.take_append_of_le_length order]
      exact popped
    · have next := taken read sample found
      show ((s.calls ++ [call]).flatMap PushCall.accepted)[s.popped.length]? = some sample
      rw [accepted_publish, List.getElem?_append_left (List.getElem?_eq_some_iff.mp next).1]
      exact next
  | pop idle => exact ⟨stores, popped, fun _ _ taken => nomatch taken⟩
  | nothing loaded empty => exact ⟨stores, popped, fun _ _ taken => nomatch taken⟩
  | something loaded ahead => exact ⟨stores, popped, fun _ _ taken => nomatch taken⟩
  | take nonEmpty =>
    rw [nonEmpty] at consumer
    obtain ⟨rfl, more⟩ := consumer
    refine ⟨stores, popped, fun read sample taken => ?_⟩
    cases taken
    have first := stores.first counts (lt_of_lt_of_le more (Nat.le_add_right _ _))
    rw [all, List.getElem?_append_left more] at first
    exact first.symm
  | @release read sample found =>
    rw [found] at consumer
    obtain ⟨rfl, more⟩ := consumer
    have longer : (s.popped ++ [sample]).length = s.popped.length + 1 := List.length_append
    refine ⟨?_, ?_, fun _ _ taken => nomatch taken⟩
    · show (s.ring.storeRead _).Stores s.all (s.popped ++ [sample]).length s.written
      rw [longer]
      exact stores.release
    · show s.popped ++ [sample] = s.accepted.take (s.popped ++ [sample]).length
      rw [longer, List.take_add_one, ← popped, taken _ _ found]
      rfl

theorem run_sound {silence : α} (run : (ringTurns α).Run SlotFree (new capacity silence) s) :
    s.Counted (max capacity 2) ∧ s.Sound := by
  refine run.invariant (I := fun s => s.Counted (max capacity 2) ∧ s.Sound) ?_
    ⟨counted_new capacity silence, sound_new capacity silence⟩
  rintro s action t free executed ⟨counted, sound⟩
  exact ⟨step_counted executed counted, step_sound free executed counted sound⟩

/-- Otherwise the sample that is written next overwrites an unread one. -/
theorem Sound.overwrites (sound : s.Sound) (counted : s.Counted capacity) {call : PushCall α}
    {write : UInt64} {offset : Nat} (writing : s.producer = .writing call write offset)
    (more : offset < call.accepted.length) (shared : ¬ s.SlotFree .produce) :
    ∃ k < (write - s.ring.read).toNat + offset,
      (s.ring.read + UInt64.ofNat k) % s.ring.capacity =
        (write + UInt64.ofNat offset) % s.ring.capacity := by
  obtain ⟨-, counts, fits, -, producer, -⟩ := counted
  have stores := sound.stores
  simp only [SlotFree, writing, more, forall_const] at shared
  unfold all written at *
  rw [writing] at stores fits producer
  simp only [Producer.pending, Producer.offset, List.length_append] at *
  obtain ⟨rfl, -⟩ := producer
  have order := counts.order
  rw [counts.difference, show s.accepted.length - s.popped.length + offset + 1 =
    s.accepted.length + offset + 1 - s.popped.length by omega,
    counts.separate_iff (by omega) (by omega)] at shared
  -- The places before the next one are apart, so that the next one is one of the two.
  obtain ⟨i, j, low, less, high, same⟩ : ∃ i j, s.popped.length ≤ i ∧ i < j ∧
      j < s.accepted.length + offset + 1 ∧
      Ring.slot counterRange s.ring.capacity.toNat i =
        Ring.slot counterRange s.ring.capacity.toNat j := by
    simpa only [Ring.Apart, not_forall, exists_prop, not_not] using shared
  obtain rfl : j = s.accepted.length + offset := by
    by_contra other
    exact stores.apart i j low less (by omega) same
  refine ⟨i - s.popped.length, by rw [counts.difference]; omega, ?_⟩
  rw [← UInt64.toNat_inj, counts.read, counts.write, ← UInt64.ofNat_add, ← UInt64.ofNat_add,
    slot_of_place, slot_of_place, Nat.add_sub_cancel' low]
  exact same

/-- While no sample is written to the slot of an unread one, what is popped and what is unread
    are together what was accepted, in every order of the steps. -/
theorem bounded_fifo (capacity : UInt64) (silence : α) {s : RingRun α}
    (run : (ringTurns α).Run SlotFree (new capacity silence) s) :
    s.popped ++ s.ring.unread = s.accepted ∧
      s.ring.len = s.accepted.length - s.popped.length ∧
      s.accepted.length ≤ s.popped.length + (max capacity 2).toNat ∧
      ∀ call ∈ s.calls, max call.alignment 1 ∣ call.count ∧ call.count ≤ call.input.length := by
  obtain ⟨counted, sound⟩ := run_sound run
  refine ⟨?_, counted.counts.len, ?_, ?_⟩
  · rw [sound.stores.unread counted.counts (Nat.le_add_right _ _), all, List.take_left]
    nth_rewrite 1 [sound.popped]
    exact List.take_append_drop _ _
  · have room := counted.counts.room
    rw [counted.capacity] at room
    exact room
  · intro call member
    have regular := counted.regular call (List.mem_append_left _ member)
    exact ⟨regular.aligned, regular.within⟩

/-- Two pushes and two pops of which each takes its steps while the other does. -/
def interleaved : List (RingAction Nat) :=
  [.push [1, 2] 2, .produce, .produce, .produce, .produce, .pop, .consume, .push [3, 4, 5] 2,
    .consume, .produce, .consume, .produce, .pop, .produce, .consume, .consume, .produce, .consume]

theorem bounded_fifo_interleaved :
    ((ringTurns Nat).reach (new 4 0) interleaved).popped ++
      ((ringTurns Nat).reach (new 4 0) interleaved).ring.unread = [1, 2, 3, 4] :=
  (bounded_fifo 4 0 (run_reach_of_allowedList (fun s a => decide (s.SlotFree a))
    (fun _ _ => of_decide_eq_true) interleaved (by decide +kernel) (by decide +kernel))).1.trans
    (by decide +kernel)

/-! ## Calls that nothing interrupts -/

/-- The loop of the producer, alone. -/
theorem run_writing {call : PushCall α} {write : UInt64} : ∀ (rest : List α) {s : RingRun α}
    {offset : Nat}, s.producer = .writing call write offset → call.accepted.drop offset = rest →
    (ringTurns α).Run anyAction s { s with
      ring := (AudioRing.putFrom write offset rest s.ring).storeWrite
        (write + UInt64.ofNat call.count)
      producer := .idle
      calls := s.calls ++ [call] } := by
  intro rest
  induction rest with
  | nil =>
    intro s offset writing dropped
    refine .head (a := .produce) trivial ?_ .refl
    show s.produce = _
    have past : call.accepted[offset]? = none :=
      List.getElem?_eq_none (List.drop_eq_nil_iff.mp dropped)
    simp only [produce, writing, past]
    rfl
  | cons x rest ih =>
    intro s offset writing dropped
    have next : call.accepted[offset]? = some x := by
      rw [← Nat.add_zero offset, ← List.getElem?_drop, dropped]
      rfl
    have behind : call.accepted.drop (offset + 1) = rest := by
      rw [← List.drop_drop, dropped]
      rfl
    refine .head (a := .produce) trivial (t := { s with
      ring := s.ring.put (write + UInt64.ofNat offset) x
      producer := .writing call write (offset + 1) }) ?_ (ih rfl behind)
    show s.produce = _
    simp only [produce, writing, next]

/-- The steps of a push, alone, are the push. -/
theorem run_push (input : List α) (alignment : Nat) (idle : s.producer = .idle) :
    (ringTurns α).Run anyAction s { s with
      ring := (s.ring.pushSliceAligned input alignment).1
      producer := .idle
      calls := s.calls ++ [⟨input, alignment, (s.ring.pushSliceAligned input alignment).2⟩] } := by
  refine .head (a := .push input alignment) trivial
    (t := { s with producer := .loaded input alignment s.ring.write }) ?_ ?_
  · show s.exec (.push input alignment) = _
    simp only [exec, idle]
  · exact .head (a := .produce) trivial rfl (run_writing (s := { s with
      producer := .writing ⟨input, alignment, _⟩ s.ring.write 0 }) _ rfl rfl)

/-- The steps of a pop that finds a sample, alone, are the pop. -/
theorem run_pop (idle : s.consumer = .idle) {ring : AudioRing α}
    (popped : s.ring.pop = (ring, some sample)) :
    (ringTurns α).Run anyAction s { s with
      ring := ring
      consumer := .idle
      popped := s.popped ++ [sample] } := by
  unfold AudioRing.pop at popped
  by_cases empty : s.ring.read = s.ring.write
  · rw [if_pos empty] at popped
    cases popped
  · rw [if_neg empty] at popped
    cases popped
    refine .head (a := .pop) trivial (t := { s with consumer := .loaded s.ring.read }) ?_ ?_
    · show s.exec .pop = _
      simp only [exec, idle]
    · refine .head (a := .consume) trivial
        (t := { s with consumer := .nonEmpty s.ring.read }) ?_ ?_
      · exact if_neg empty
      · exact .head (a := .consume) trivial rfl (.head (a := .consume) trivial rfl .refl)

/-! ## Counters that wrap -/

/-- Three slots, after `count` samples were pushed and popped one by one. -/
def level (count : Nat) : RingRun Nat where
  ring :=
    { samples := [0, 0, 0]
      capacity := 3
      read := UInt64.ofNat count
      write := UInt64.ofNat count
      slots := rfl
      positive := by decide }
  calls := List.replicate count ⟨[0], 1, 1⟩
  popped := List.replicate count 0

/-- Two samples in the slots of the largest counter and of the one behind it. -/
def wrapped : AudioRing Nat where
  samples := [2, 0, 0]
  capacity := 3
  read := UInt64.ofNat (counterRange - 1)
  write := UInt64.ofNat (counterRange + 1)
  slots := rfl
  positive := by decide

theorem level_push (count : Nat) :
    (level count).ring.pushSliceAligned [0] 1 =
      ((level count).ring.storeWrite (UInt64.ofNat (count + 1)), 1) := by
  have counted : AudioRing.acceptedCount 3 (UInt64.ofNat count) (UInt64.ofNat count) 1 1 = 1 := by
    rw [AudioRing.acceptedCount, UInt64.sub_self]
    rfl
  show (AudioRing.storeWrite (AudioRing.putFrom _ 0 (List.take _ [0]) _) _, _) = _
  simp only [level, List.length_singleton, counted]
  refine Prod.ext (AudioRing.ext ?_ rfl rfl ?_) rfl
  · exact List.set_replicate_self (n := 3)
  · exact (UInt64.ofNat_add _ _).symm

theorem level_pop (count : Nat) :
    ((level count).ring.storeWrite (UInt64.ofNat (count + 1))).pop =
      ((level (count + 1)).ring, some 0) := by
  have behind : UInt64.ofNat (count + 1) = UInt64.ofNat count + 1 := UInt64.ofNat_add _ _
  have ahead : UInt64.ofNat count ≠ UInt64.ofNat (count + 1) := by
    rw [behind]
    intro same
    exact absurd (UInt64.add_eq_left.mp same.symm) (by decide)
  have stored : (level count).ring.sample (UInt64.ofNat count) = 0 :=
    List.eq_of_mem_replicate (n := 3) (List.get_mem _ _)
  refine (if_neg ahead).trans (Prod.ext (AudioRing.ext rfl rfl behind.symm rfl) ?_)
  exact congrArg some stored

theorem run_level (count : Nat) : (ringTurns Nat).Run anyAction (new 3 0) (level count) := by
  induction count with
  | zero => exact .refl
  | succ count ih =>
    have pushed := run_push (s := level count) [0] 1 rfl
    rw [level_push] at pushed
    have popped := (ih.trans pushed).trans (run_pop rfl (level_pop count))
    have again : level (count + 1) = { level count with
        ring := (level (count + 1)).ring
        producer := .idle
        consumer := .idle
        calls := (level count).calls ++ [⟨[0], 1, 1⟩]
        popped := (level count).popped ++ [0] } := by
      simp only [level, List.replicate_succ']
    rw [again]
    exact popped

theorem accepted_level (count : Nat) : (level count).accepted = List.replicate count 0 := by
  induction count with
  | zero => rfl
  | succ count ih =>
    rw [accepted, show (level (count + 1)).calls = (level count).calls ++ [⟨[0], 1, 1⟩] from
      List.replicate_succ', List.flatMap_append, List.replicate_succ']
    exact congrArg₂ _ ih rfl

/-- Two samples pushed at the wrap go to one slot, and the first of them is lost. -/
theorem wrap_loses_a_sample : ∃ s, (ringTurns Nat).Run anyAction (new 3 0) s ∧
    ¬ s.popped <+: s.accepted := by
  obtain ⟨count, last⟩ : ∃ count, count = counterRange - 1 := ⟨_, rfl⟩
  have stored : (level count).ring.pushSliceAligned [1, 2] 1 = (wrapped, 2) := by
    subst last
    exact Prod.ext (AudioRing.ext (by decide +kernel) rfl rfl (by decide +kernel))
      (by decide +kernel)
  have taken : wrapped.pop = (wrapped.storeRead 0, some 2) :=
    Prod.ext (AudioRing.ext rfl rfl (by decide +kernel) rfl) (by decide +kernel)
  have pushed := run_push (s := level count) [1, 2] 1 rfl
  rw [stored] at pushed
  refine ⟨_, ((run_level _).trans pushed).trans (run_pop rfl taken), ?_⟩
  rw [accepted, List.flatMap_append, show (level count).calls.flatMap PushCall.accepted = _ from
    accepted_level _, show (level count).popped = List.replicate count 0 from rfl,
    List.prefix_append_right_inj]
  decide

end RingRun

end EdgeKvm.Audio
