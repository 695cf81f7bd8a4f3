import EdgeKvm.Lib.Machine
import EdgeKvm.Lib.Ring
import Mathlib.Data.Nat.Basic

/-!
# The audio ring

`AudioRing`: samples between the network task and the output callback. The producer and the
consumer are stepped independently, one atomic load, one atomic store or one sample at a time.
-/

namespace EdgeKvm.Audio

open EdgeKvm.Lib Machine

universe u

variable {α : Type u}

/-! ## The ring -/

@[ext] structure AudioRing (α : Type u) where
  samples : List α
  capacity : UInt64
  read : UInt64
  write : UInt64
  slots : samples.length = capacity.toNat
  positive : 0 < capacity.toNat

/-- A call of `push_slice_aligned` with the number of samples it accepts. -/
structure PushCall (α : Type u) where
  input : List α
  alignment : Nat
  count : Nat
  deriving DecidableEq, Repr

def PushCall.accepted (call : PushCall α) : List α := call.input.take call.count

namespace AudioRing

theorem positive_max_two (capacity : UInt64) : 0 < (max capacity 2).toNat := by
  show 0 < (if capacity ≤ 2 then 2 else capacity).toNat
  split
  · decide
  · rename_i above
    rw [UInt64.le_iff_toNat_le] at above
    omega

def new (capacity : UInt64) (silence : α) : AudioRing α where
  samples := List.replicate (max capacity 2).toNat silence
  capacity := max capacity 2
  read := 0
  write := 0
  slots := List.length_replicate
  positive := positive_max_two capacity

def len (ring : AudioRing α) : Nat := min (ring.write - ring.read).toNat ring.capacity.toNat

theorem slot_in_range (ring : AudioRing α) (counter : UInt64) :
    (counter % ring.capacity).toNat < ring.samples.length := by
  rw [ring.slots, UInt64.toNat_mod]
  exact Nat.mod_lt _ ring.positive

/-- The sample in the slot of a counter. -/
def sample (ring : AudioRing α) (counter : UInt64) : α :=
  ring.samples.get ⟨(counter % ring.capacity).toNat, ring.slot_in_range counter⟩

/-- A sample goes to the slot of a counter. -/
def put (ring : AudioRing α) (counter : UInt64) (x : α) : AudioRing α :=
  { ring with
    samples := ring.samples.set (counter % ring.capacity).toNat x
    slots := by rw [List.length_set]; exact ring.slots }

def storeWrite (ring : AudioRing α) (write : UInt64) : AudioRing α := { ring with write := write }

def storeRead (ring : AudioRing α) (read : UInt64) : AudioRing α := { ring with read := read }

/-- The samples a push accepts, with the counters it has loaded. -/
def acceptedCount (capacity write read : UInt64) (input alignment : Nat) : Nat :=
  min input (capacity.toNat - (write - read).toNat) / max alignment 1 * max alignment 1

/-- The loop of `push_slice_aligned`. -/
def putFrom (write : UInt64) : Nat → List α → AudioRing α → AudioRing α
  | _, [], ring => ring
  | offset, x :: rest, ring =>
    putFrom write (offset + 1) rest (ring.put (write + UInt64.ofNat offset) x)

/-- A push that nothing interrupts. -/
def pushSliceAligned (ring : AudioRing α) (input : List α) (alignment : Nat) : AudioRing α × Nat :=
  let count := acceptedCount ring.capacity ring.write ring.read input.length alignment
  ((putFrom ring.write 0 (input.take count) ring).storeWrite (ring.write + UInt64.ofNat count),
    count)

/-- A pop that nothing interrupts. -/
def pop (ring : AudioRing α) : AudioRing α × Option α :=
  if ring.read = ring.write then (ring, none)
  else (ring.storeRead (ring.read + 1), some (ring.sample ring.read))

/-- The samples between the counters. -/
def unread (ring : AudioRing α) : List α :=
  (List.range ring.len).map fun k => ring.sample (ring.read + UInt64.ofNat k)

@[simp] theorem put_capacity (ring : AudioRing α) (counter : UInt64) (x : α) :
    (ring.put counter x).capacity = ring.capacity := rfl

@[simp] theorem put_read (ring : AudioRing α) (counter : UInt64) (x : α) :
    (ring.put counter x).read = ring.read := rfl

@[simp] theorem put_write (ring : AudioRing α) (counter : UInt64) (x : α) :
    (ring.put counter x).write = ring.write := rfl

theorem sample_eq (ring : AudioRing α) (counter : UInt64) :
    some (ring.sample counter) = ring.samples[(counter % ring.capacity).toNat]? :=
  (List.getElem?_eq_getElem (ring.slot_in_range counter)).symm

/-- A multiple of the alignment is accepted, from the input and into free slots. -/
theorem acceptedCount_spec (capacity write read : UInt64) (input alignment : Nat) :
    max alignment 1 ∣ acceptedCount capacity write read input alignment ∧
      acceptedCount capacity write read input alignment ≤ input ∧
      acceptedCount capacity write read input alignment ≤
        capacity.toNat - (write - read).toNat := by
  have cut := Nat.div_mul_le_self (min input (capacity.toNat - (write - read).toNat))
    (max alignment 1)
  exact ⟨Nat.dvd_mul_left _ _, cut.trans (Nat.min_le_left _ _), cut.trans (Nat.min_le_right _ _)⟩

end AudioRing

/-! ## Places of the samples -/

/-- The range of the counters. -/
def counterRange : Nat := 2 ^ 64

theorem slot_of_place (capacity : UInt64) (place : Nat) :
    (UInt64.ofNat place % capacity).toNat = Ring.slot counterRange capacity.toNat place := by
  rw [UInt64.toNat_mod, UInt64.toNat_ofNat']
  rfl

theorem counter_sub {first last : Nat} (ordered : first ≤ last)
    (near : last < first + counterRange) :
    (UInt64.ofNat last - UInt64.ofNat first).toNat = last - first := by
  rw [← UInt64.ofNat_sub ordered, UInt64.toNat_ofNat', Nat.mod_eq_of_lt]
  unfold counterRange at near
  omega

/-- A window of places, from the read counter on, has slots of its own: the number of slots
    divides the range of the counters, or the counters do not wrap within the window, or the
    window is not longer than the last part of a lap before they wrap. -/
def AudioRing.Separate (ring : AudioRing α) (window : Nat) : Prop :=
  counterRange % ring.capacity.toNat = 0 ∨ ring.read.toNat + window ≤ counterRange ∨
    window ≤ counterRange % ring.capacity.toNat

instance (ring : AudioRing α) (window : Nat) : Decidable (ring.Separate window) := by
  unfold AudioRing.Separate
  infer_instance

/-- The counters of a ring of which `popped` samples were given back and `accepted` published. -/
structure AudioRing.Counts (ring : AudioRing α) (popped accepted : Nat) : Prop where
  read : ring.read = UInt64.ofNat popped
  write : ring.write = UInt64.ofNat accepted
  order : popped ≤ accepted
  room : accepted ≤ popped + ring.capacity.toNat

/-- The samples of `all` from `popped` up to `written` are in slots of their own. -/
structure AudioRing.Stores (ring : AudioRing α) (all : List α) (popped written : Nat) : Prop where
  known : written ≤ all.length
  apart : Ring.Apart counterRange ring.capacity.toNat popped written
  holds : Ring.Holds counterRange ring.capacity.toNat ring.samples all popped written

theorem AudioRing.capacity_lt (ring : AudioRing α) : ring.capacity.toNat < counterRange :=
  ring.capacity.toNat_lt

namespace AudioRing.Counts

variable {ring : AudioRing α} {popped accepted last : Nat}

theorem difference (counts : ring.Counts popped accepted) :
    (ring.write - ring.read).toNat = accepted - popped := by
  have below := ring.capacity_lt
  have room := counts.room
  rw [counts.read, counts.write, counter_sub counts.order (by omega)]

theorem len (counts : ring.Counts popped accepted) : ring.len = accepted - popped := by
  have room := counts.room
  rw [AudioRing.len, counts.difference, Nat.min_eq_left (by omega)]

/-- The counters are equal when nothing is queued, although they wrap. -/
theorem read_eq_write_iff (counts : ring.Counts popped accepted) :
    ring.read = ring.write ↔ popped = accepted := by
  constructor
  · intro same
    have queued := counts.difference
    rw [same, UInt64.sub_self, UInt64.toNat_zero] at queued
    have order := counts.order
    omega
  · intro level
    rw [counts.read, counts.write, level]

theorem separate_iff (counts : ring.Counts popped accepted) (ordered : popped ≤ last)
    (window : last ≤ popped + ring.capacity.toNat) :
    ring.Separate (last - popped) ↔
      Ring.Apart counterRange ring.capacity.toNat popped last := by
  rw [Ring.apart_iff ring.positive ring.capacity_lt.le ordered window, AudioRing.Separate,
    counts.read, UInt64.toNat_ofNat']
  rfl

/-- What was written is published. -/
theorem publish (counts : ring.Counts popped accepted) (later : accepted ≤ last)
    (room : last ≤ popped + ring.capacity.toNat) :
    (ring.storeWrite (UInt64.ofNat last)).Counts popped last :=
  ⟨counts.read, rfl, counts.order.trans later, room⟩

/-- A slot is given back. -/
theorem release (counts : ring.Counts popped accepted) (more : popped < accepted) :
    (ring.storeRead (ring.read + 1)).Counts (popped + 1) accepted where
  read := by
    show ring.read + 1 = _
    rw [counts.read, UInt64.ofNat_add]
    rfl
  write := counts.write
  order := more
  room := by
    have room := counts.room
    show accepted ≤ popped + 1 + ring.capacity.toNat
    omega

end AudioRing.Counts

namespace AudioRing.Stores

variable {ring : AudioRing α} {all : List α} {popped accepted written : Nat} {x : α}

/-- The place that is read next, and those behind it. -/
theorem sample (stores : ring.Stores all popped written) (counts : ring.Counts popped accepted)
    {k : Nat} (inside : popped + k < written) :
    some (ring.sample (ring.read + UInt64.ofNat k)) = all[popped + k]? := by
  rw [sample_eq, counts.read, ← UInt64.ofNat_add, slot_of_place]
  exact stores.holds _ (Nat.le_add_right _ _) inside

theorem first (stores : ring.Stores all popped written) (counts : ring.Counts popped accepted)
    (inside : popped < written) : some (ring.sample ring.read) = all[popped]? := by
  have sample := stores.sample counts (k := 0) inside
  rw [Nat.add_zero] at sample
  rw [← sample, show UInt64.ofNat 0 = 0 from rfl, UInt64.add_zero]

/-- The samples between the counters are those accepted and not yet popped. -/
theorem unread (stores : ring.Stores all popped written) (counts : ring.Counts popped accepted)
    (known : accepted ≤ written) : ring.unread = (all.take accepted).drop popped := by
  have order := counts.order
  apply List.ext_getElem?
  intro k
  rw [AudioRing.unread, counts.len, List.getElem?_map, List.getElem?_drop, List.getElem?_take]
  by_cases inside : popped + k < accepted
  · rw [List.getElem?_range (by omega), if_pos inside]
    exact stores.sample counts (by omega)
  · rw [List.getElem?_eq_none (by rw [List.length_range]; omega), if_neg inside]
    rfl

/-- A sample of the input goes to its slot. -/
theorem put (stores : ring.Stores all popped written) (counts : ring.Counts popped accepted)
    (known : accepted ≤ written) (separate : ring.Separate (written - popped + 1))
    (next : all[written]? = some x) (room : written < popped + ring.capacity.toNat) :
    (ring.put (UInt64.ofNat written) x).Stores all popped (written + 1) := by
  have order := counts.order
  have longer : written < all.length := (List.getElem?_eq_some_iff.mp next).1
  have apart : Ring.Apart counterRange ring.capacity.toNat popped (written + 1) := by
    rw [← counts.separate_iff (by omega) (by omega), Nat.sub_add_comm (by omega)]
    exact separate
  refine ⟨longer, apart, ?_⟩
  show Ring.Holds _ _ (ring.samples.set _ x) _ _ _
  rw [slot_of_place]
  exact stores.holds.set ring.slots ring.positive apart next

/-- The first place is given back. -/
theorem release (stores : ring.Stores all popped written) :
    (ring.storeRead (ring.read + 1)).Stores all (popped + 1) written :=
  ⟨stores.known, stores.apart.mono (Nat.le_succ _) le_rfl,
    stores.holds.mono (Nat.le_succ _) le_rfl⟩

/-- The input of a push is not yet in the ring. -/
theorem append (stores : ring.Stores all popped written) (more : List α) :
    ring.Stores (all ++ more) popped written :=
  ⟨stores.known.trans (List.length_append ▸ Nat.le_add_right _ _), stores.apart,
    stores.holds.append stores.known more⟩

end AudioRing.Stores

end EdgeKvm.Audio
