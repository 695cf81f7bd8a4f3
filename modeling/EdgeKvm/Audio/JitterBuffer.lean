import EdgeKvm.Lib.Ascending
import EdgeKvm.Lib.Log
import EdgeKvm.Lib.Machine
import Mathlib.Algebra.Group.Nat.Defs
import Mathlib.Data.Nat.Basic

/-!
# The jitter buffer

`JitterBuffer`: packets in the order of their sequence numbers, and the slots that are played, one
for each number. `usize` has 64 bits.
-/

namespace EdgeKvm.Audio

open EdgeKvm.Lib Machine

/-! ## The buffer -/

/-- `FRAME_MS` -/
def frameMs : Nat := 5

structure AudioPacket where
  sequence : UInt64
  sampleTimestamp : UInt32
  flags : UInt8
  payload : List UInt8
  deriving DecidableEq, Repr

/-- The key of the packet in the buffer. -/
def AudioPacket.key (packet : AudioPacket) : Nat := packet.sequence.toNat

structure JitterBuffer where
  packets : List AudioPacket
  nextSequence : Option UInt64
  targetPackets : Nat
  maxPackets : Nat
  started : Bool
  deriving DecidableEq, Repr

namespace JitterBuffer

def new (targetMs : UInt32) : JitterBuffer :=
  let targetPackets := max (max targetMs.toNat frameMs / frameMs) 1
  { packets := []
    nextSequence := none
    targetPackets
    maxPackets := min (max (targetPackets * 3) 24) 96
    started := false }

/-- The loop of `push` that evicts the first packets. -/
def evict (maxPackets : Nat) :
    List AudioPacket → Option UInt64 → List AudioPacket × Option UInt64
  | [], next => ([], next)
  | packet :: packets, next =>
    if maxPackets < (packet :: packets).length then
      evict maxPackets packets (packets.head?.map (·.sequence))
    else (packet :: packets, next)

def push (j : JitterBuffer) (packet : AudioPacket) : Bool × JitterBuffer :=
  if j.started && j.nextSequence.any (packet.sequence < ·) then (false, j)
  else
    let next :=
      if j.started then j.nextSequence
      else some (j.nextSequence.elim packet.sequence (min · packet.sequence))
    let next := some (next.getD packet.sequence)
    let inserted := (Ascending.get? AudioPacket.key packet.key j.packets).isNone
    let (packets, next) :=
      evict j.maxPackets (Ascending.put AudioPacket.key packet j.packets) next
    (inserted, { j with packets, nextSequence := next })

/-- `highest.saturating_sub(sequence) as usize + 1`, before it wraps. -/
def bufferedTimeline (highest sequence : UInt64) : Nat := highest.toNat - sequence.toNat + 1

def popReady (j : JitterBuffer) : Option (Option AudioPacket) × JitterBuffer :=
  match j.nextSequence, j.packets.getLast? with
  | some sequence, some highest =>
    if bufferedTimeline highest.sequence sequence % 2 ^ 64 < j.targetPackets then (none, j)
    else
      (some (Ascending.get? AudioPacket.key sequence.toNat j.packets),
        { j with
          started := true
          nextSequence := some (sequence + 1)
          packets := Ascending.remove AudioPacket.key sequence.toNat j.packets })
  | _, _ => (none, j)

/-- The next slot and the highest packet. -/
def span (j : JitterBuffer) : Option (UInt64 × UInt64) :=
  match j.nextSequence, j.packets.getLast? with
  | some sequence, some highest => some (sequence, highest.sequence)
  | _, _ => none

/-- The arithmetic of `pop_ready` overflows. -/
def overflows (j : JitterBuffer) : Bool :=
  j.span.any fun span => 2 ^ 64 ≤ bufferedTimeline span.2 span.1

/-- Enough packets are there for the next slot. -/
def ready (j : JitterBuffer) : Bool :=
  j.span.any fun span => j.targetPackets ≤ bufferedTimeline span.2 span.1

/-- The buffer with `packet` in place of the one with its number. -/
def replace (j : JitterBuffer) (packet : AudioPacket) : JitterBuffer :=
  { j with packets := j.packets.map fun other => if other.key = packet.key then packet else other }

end JitterBuffer

/-! ## Runs -/

inductive JitterCall where
  | push (packet : AudioPacket)
  | popReady
  deriving DecidableEq, Repr

/-- What a call did: a slot was returned, a packet was evicted, or an addition overflowed. -/
inductive JitterEntry where
  | slot (number : UInt64) (packet : Option AudioPacket)
  | evicted (packet : AudioPacket)
  | overflowed
  deriving DecidableEq, Repr

/-- A buffer, the numbers of the packets for which `push` returned true, and what happened, the
    latest first. -/
structure JitterRun where
  buffer : JitterBuffer
  accepted : List UInt64 := []
  log : List JitterEntry := []
  deriving DecidableEq, Repr

/-- The numbers of the packets that were returned. -/
def returnedIn (log : List JitterEntry) : List UInt64 :=
  log.filterMap fun
    | .slot _ packet => packet.map (·.sequence)
    | _ => none

/-- The numbers of the packets that were evicted. -/
def evictedIn (log : List JitterEntry) : List UInt64 :=
  log.filterMap fun
    | .evicted packet => some packet.sequence
    | _ => none

namespace JitterRun

/-- The packets that leave when `packet` is pushed. -/
def leaving (s : JitterRun) (packet : AudioPacket) : List AudioPacket :=
  let packets := Ascending.put AudioPacket.key packet s.buffer.packets
  if s.buffer.started && s.buffer.nextSequence.any (packet.sequence < ·) then []
  else packets.take (packets.length - s.buffer.maxPackets)

/-- What `pop_ready` does, for the log. -/
def popped (s : JitterRun) : List JitterEntry :=
  if s.buffer.overflows then [.overflowed]
  else
    match s.buffer.popReady.1, s.buffer.nextSequence with
    | some packet, some number => [.slot number packet]
    | _, _ => []

def calls : Machine JitterRun JitterCall where
  exec s
    | .push packet =>
      some {
        buffer := (s.buffer.push packet).2
        accepted :=
          if (s.buffer.push packet).1 then packet.sequence :: s.accepted else s.accepted
        log := ((s.leaving packet).map .evicted).reverse ++ s.log }
    | .popReady =>
      some { s with
        buffer := s.buffer.popReady.2
        log := s.popped ++ s.log }

/-- A new buffer. -/
structure Started (s : JitterRun) : Prop where
  buffer : ∃ targetMs, s.buffer = .new targetMs
  accepted : s.accepted = []
  log : s.log = []

end JitterRun

/-! ## The property -/

/-- A slot has a greater number than those before it, and the next one if no eviction stands
    between. -/
def InTurn : JitterEntry → List JitterEntry → Prop
  | .slot number packet, earlier =>
    (∀ before content, .slot before content ∈ earlier → before < number) ∧
      (∀ before content, earlier.head? = some (.slot before content) → number = before + 1) ∧
      ∀ content ∈ packet, content.sequence = number
  | _, _ => True

/-- The order and the accounting of the buffer. -/
structure JitterRun.Sound (s : JitterRun) : Prop where
  slots : After InTurn s.log
  accounted : s.accepted.Perm
    (returnedIn s.log ++ s.buffer.packets.map (·.sequence) ++ evictedIn s.log)
  refused : ∀ packet, (s.buffer.push packet).1 = false →
    (s.buffer.push packet).2 = s.buffer.replace packet
  bounded : s.buffer.packets.length ≤ s.buffer.maxPackets
  ahead : ∀ packet ∈ s.buffer.packets, ∀ next, s.buffer.nextSequence = some next →
    next ≤ packet.sequence
  exact : .overflowed ∉ s.log

/-- The last slot of all was returned. -/
def JitterRun.ended (s : JitterRun) : Bool :=
  s.log.any fun
    | .slot number _ => number = UInt64.ofNat (2 ^ 64 - 1)
    | _ => false

/-- `pop_ready` is not called while slot 0 is next and the last packet of all is buffered, nor for
    a slot behind the last one. -/
def JitterRun.within (s : JitterRun) : JitterCall → Bool
  | .push _ => true
  | .popReady => !s.buffer.overflows && !(s.buffer.ready && s.ended)

/-! ## The two calls -/

namespace JitterBuffer

open Ascending

variable {j : JitterBuffer} {packet : AudioPacket}

/-- The loop keeps the last packets, and takes the number of the first if it evicts. -/
theorem evict_eq {maxPackets : Nat} : ∀ (packets : List AudioPacket) (next : Option UInt64),
    evict maxPackets packets next = (packets.drop (packets.length - maxPackets),
      if packets.length ≤ maxPackets then next
      else (packets.drop (packets.length - maxPackets)).head?.map (·.sequence)) := by
  intro packets
  induction packets with
  | nil =>
    intro next
    simp [evict]
  | cons packet packets ih =>
    intro next
    rw [evict]
    split
    · rename_i full
      rw [List.length_cons] at full
      have shift : (packet :: packets).length - maxPackets = packets.length - maxPackets + 1 := by
        rw [List.length_cons]
        omega
      have tooMany : ¬ (packet :: packets).length ≤ maxPackets := Nat.not_le.mpr full
      rw [ih, shift, List.drop_succ_cons, if_neg tooMany]
      by_cases fits : packets.length ≤ maxPackets
      · rw [if_pos fits, Nat.sub_eq_zero_of_le fits, List.drop_zero]
      · rw [if_neg fits]
    · rename_i room
      rw [Nat.not_lt] at room
      rw [Nat.sub_eq_zero_of_le room, List.drop_zero, if_pos room]

/-- The next slot once `packet` is in. -/
def opened (j : JitterBuffer) (packet : AudioPacket) : UInt64 :=
  if j.started then j.nextSequence.getD packet.sequence
  else j.nextSequence.elim packet.sequence (min · packet.sequence)

/-- A packet behind the slots that were played. -/
def late (j : JitterBuffer) (packet : AudioPacket) : Bool :=
  j.started && j.nextSequence.any (packet.sequence < ·)

/-- The packets with `packet`, before any is evicted. -/
def stored (j : JitterBuffer) (packet : AudioPacket) : List AudioPacket :=
  put AudioPacket.key packet j.packets

theorem push_late (late : j.late packet = true) : j.push packet = (false, j) := if_pos late

theorem push_stored (inTime : j.late packet = false) :
    j.push packet = ((get? AudioPacket.key packet.key j.packets).isNone, { j with
      packets := (j.stored packet).drop ((j.stored packet).length - j.maxPackets)
      nextSequence :=
        if (j.stored packet).length ≤ j.maxPackets then some (j.opened packet)
        else ((j.stored packet).drop
          ((j.stored packet).length - j.maxPackets)).head?.map (·.sequence) }) := by
  have same : some ((if j.started = true then j.nextSequence
      else some (j.nextSequence.elim packet.sequence (min · packet.sequence))).getD
        packet.sequence) = some (j.opened packet) := by
    unfold opened
    split <;> rfl
  unfold late at inTime
  unfold push
  rw [if_neg (Bool.eq_false_iff.mp inTime)]
  simp only [evict_eq, same]
  rfl

/-- What holds of the fields. -/
structure Inv (j : JitterBuffer) : Prop where
  ascends : Ascends AudioPacket.key j.packets
  ahead : ∀ packet ∈ j.packets, ∀ next, j.nextSequence = some next → next ≤ packet.sequence
  present : j.packets ≠ [] → j.nextSequence.isSome
  started : j.started = true → j.nextSequence.isSome
  bounded : j.packets.length ≤ j.maxPackets
  positive : 0 < j.maxPackets ∧ 0 < j.targetPackets

theorem Inv.new (targetMs : UInt32) : (new targetMs).Inv := by
  refine ⟨List.Pairwise.nil, ?_, fun stored => absurd rfl stored, fun started => (nomatch started),
    Nat.zero_le _, ?_⟩
  · intro packet member
    exact absurd member List.not_mem_nil
  · show 0 < min (max (max (max targetMs.toNat frameMs / frameMs) 1 * 3) 24) 96 ∧
      0 < max (max targetMs.toNat frameMs / frameMs) 1
    generalize max targetMs.toNat frameMs / frameMs = packets
    omega

theorem min_le (a b : UInt64) : min a b ≤ a ∧ min a b ≤ b := by
  show (if a ≤ b then a else b) ≤ a ∧ (if a ≤ b then a else b) ≤ b
  split
  · rename_i ordered
    exact ⟨UInt64.le_refl a, ordered⟩
  · rename_i reversed
    exact ⟨UInt64.le_of_lt (UInt64.not_le.mp reversed), UInt64.le_refl b⟩

/-- The stored packets stand behind the next slot. -/
theorem Inv.opened_le (inv : j.Inv) (inTime : j.late packet = false) :
    ∀ other ∈ j.stored packet, j.opened packet ≤ other.sequence := by
  have self : j.opened packet ≤ packet.sequence := by
    unfold opened
    cases next : j.nextSequence with
    | none => simp
    | some next' =>
      unfold late at inTime
      by_cases started : j.started = true
      · simpa [started, next] using inTime
      · simpa [started] using (min_le next' packet.sequence).2
  have below : ∀ other ∈ j.packets, j.opened packet ≤ other.sequence := by
    intro other found
    obtain ⟨next, set⟩ := Option.isSome_iff_exists.mp (inv.present (List.ne_nil_of_mem found))
    have ahead := inv.ahead other found next set
    unfold opened
    by_cases started : j.started = true
    · simpa [started, set] using ahead
    · simpa [started, set] using UInt64.le_trans (min_le next packet.sequence).1 ahead
  intro other found
  rcases (mem_put inv.ascends).mp found with rfl | ⟨old, -⟩
  · exact self
  · exact below other old

/-- What stays of the stored packets, and the slot in front of them. -/
def kept (j : JitterBuffer) (packet : AudioPacket) : List AudioPacket :=
  (j.stored packet).drop ((j.stored packet).length - j.maxPackets)

theorem Inv.kept_head (inv : j.Inv) (full : ¬ (j.stored packet).length ≤ j.maxPackets) :
    ∃ first, (j.kept packet).head? = some first := by
  have nonempty : 0 < (j.kept packet).length := by
    unfold kept
    rw [List.length_drop]
    have := inv.positive.1
    omega
  cases packets : j.kept packet with
  | nil => simp [packets] at nonempty
  | cons first rest => exact ⟨first, rfl⟩

/-- The slot behind a push stands in front of all that is kept, and not before the one there
    would be without evictions. -/
theorem Inv.push_next (inv : j.Inv) (inTime : j.late packet = false) :
    ∃ next, (j.push packet).2.nextSequence = some next ∧ j.opened packet ≤ next ∧
      (∀ other ∈ j.kept packet, next ≤ other.sequence) ∧
      ((j.stored packet).length ≤ j.maxPackets → next = j.opened packet) := by
  have opened := inv.opened_le inTime
  have ascends : Ascends AudioPacket.key (j.kept packet) :=
    inv.ascends.put.sublist (List.drop_sublist _ _)
  rw [push_stored inTime]
  by_cases fits : (j.stored packet).length ≤ j.maxPackets
  · refine ⟨j.opened packet, if_pos fits, UInt64.le_refl _, ?_, fun _ => rfl⟩
    exact fun other found => opened other (List.mem_of_mem_drop found)
  · obtain ⟨first, head⟩ := inv.kept_head fits
    refine ⟨first.sequence, ?_, opened first (List.mem_of_mem_drop (List.mem_of_head? head)), ?_,
      fun room => absurd room fits⟩
    · unfold kept at head
      simp [fits, head]
    · exact fun other found => ascends.head_le head found

theorem Inv.push (inv : j.Inv) : (j.push packet).2.Inv := by
  cases inTime : j.late packet with
  | true =>
    rw [push_late inTime]
    exact inv
  | false =>
    obtain ⟨next, set, -, ahead, -⟩ := inv.push_next inTime
    have fields := push_stored inTime
    have some : (j.push packet).2.nextSequence.isSome := by rw [set]; rfl
    refine ⟨?_, ?_, fun _ => some, fun _ => some, ?_, ?_⟩
    · rw [fields]
      exact inv.ascends.put.sublist (List.drop_sublist _ _)
    · intro other found next' set'
      rw [set] at set'
      cases set'
      rw [fields] at found
      exact ahead other found
    · rw [fields]
      show ((j.stored packet).drop _).length ≤ j.maxPackets
      rw [List.length_drop]
      omega
    · rw [fields]
      exact inv.positive

/-- What `push` refuses changes a stored copy at most. -/
theorem Inv.refused (inv : j.Inv) (refused : (j.push packet).1 = false) :
    (j.push packet).2 = j.replace packet := by
  cases inTime : j.late packet with
  | true =>
    rw [push_late inTime]
    have untouched : ∀ other ∈ j.packets, ¬ other.key = packet.key := by
      intro other found same
      unfold late at inTime
      rw [Bool.and_eq_true, Option.any_eq_true] at inTime
      obtain ⟨-, next, set, below⟩ := inTime
      have ahead := UInt64.le_iff_toNat_le.mp (inv.ahead other found next set)
      have before := UInt64.lt_iff_toNat_lt.mp (of_decide_eq_true below)
      unfold AudioPacket.key at same
      omega
    have same : (j.packets.map fun other => if other.key = packet.key then packet else other) =
        j.packets :=
      (List.map_congr_left fun other found => if_neg (untouched other found)).trans
        (List.map_id' _)
    unfold replace
    rw [same]
  | false =>
    have fields := push_stored inTime
    rw [fields] at refused
    obtain ⟨copy, found⟩ := Option.isSome_iff_exists.mp (Option.isNone_eq_false_iff.mp refused)
    have taken : ∃ other ∈ j.packets, other.key = packet.key :=
      ⟨copy, List.mem_of_find?_eq_some found, key_of_get? found⟩
    have same : j.stored packet =
        j.packets.map fun other => if other.key = packet.key then packet else other :=
      put_of_taken inv.ascends taken
    have fits : (j.stored packet).length ≤ j.maxPackets := by
      rw [same, List.length_map]
      exact inv.bounded
    obtain ⟨other, listed, alike⟩ := taken
    obtain ⟨next, set⟩ := Option.isSome_iff_exists.mp (inv.present (List.ne_nil_of_mem listed))
    have ahead : next ≤ packet.sequence := by
      have ahead := UInt64.le_iff_toNat_le.mp (inv.ahead other listed next set)
      unfold AudioPacket.key at alike
      exact UInt64.le_iff_toNat_le.mpr (alike ▸ ahead)
    have still : j.opened packet = next := by
      unfold opened
      rw [set]
      split
      · rfl
      · exact if_pos ahead
    rw [fields]
    unfold replace
    rw [if_pos fits, Nat.sub_eq_zero_of_le fits, List.drop_zero, still, ← set, same]

/-- The next slot is returned. -/
theorem popReady_ready (exact : j.overflows = false) (ready : j.ready = true) :
    ∃ sequence, j.nextSequence = some sequence ∧
      j.popReady = (some (get? AudioPacket.key sequence.toNat j.packets), { j with
        started := true
        nextSequence := some (sequence + 1)
        packets := remove AudioPacket.key sequence.toNat j.packets }) := by
  unfold overflows at exact
  unfold JitterBuffer.ready at ready
  unfold span at exact ready
  unfold popReady
  split at ready
  · rename_i sequence highest set last
    refine ⟨sequence, set, ?_⟩
    simp only [set, last, Option.any_some, decide_eq_true_eq, decide_eq_false_iff_not,
      Nat.not_le] at exact ready ⊢
    rw [Nat.mod_eq_of_lt exact, if_neg (Nat.not_lt.mpr ready)]
  · cases ready

/-- No slot is returned. -/
theorem popReady_none (inv : j.Inv) (waits : j.overflows = true ∨ j.ready = false) :
    j.popReady = (none, j) := by
  unfold overflows at waits
  unfold JitterBuffer.ready at waits
  unfold span at waits
  unfold popReady
  split
  · rename_i sequence highest set last
    simp only [set, last, Option.any_some, decide_eq_true_eq, decide_eq_false_iff_not,
      Nat.not_le] at waits
    refine if_pos ?_
    rcases waits with beyond | short
    · have bound := highest.sequence.toNat_lt
      have all : bufferedTimeline highest.sequence sequence = 2 ^ 64 := by
        unfold bufferedTimeline at beyond ⊢
        omega
      rw [all, Nat.mod_self]
      exact inv.positive.2
    · exact Nat.lt_of_le_of_lt (Nat.mod_le _ _) short
  · rfl

theorem toNat_succ (n : UInt64) :
    n = UInt64.ofNat (2 ^ 64 - 1) ∨ (n + 1).toNat = n.toNat + 1 := by
  by_cases last : n.toNat = 2 ^ 64 - 1
  · exact .inl (UInt64.toNat_inj.mp (by rw [last]; rfl))
  · have bound := n.toNat_lt
    refine .inr ?_
    rw [UInt64.toNat_add, UInt64.toNat_one]
    omega

theorem Inv.popReady (inv : j.Inv) : j.popReady.2.Inv := by
  by_cases waits : j.overflows = true ∨ j.ready = false
  · rw [popReady_none inv waits]
    exact inv
  · rw [not_or, Bool.not_eq_true, Bool.not_eq_false] at waits
    obtain ⟨sequence, set, popped⟩ := popReady_ready waits.1 waits.2
    rw [popped]
    refine ⟨inv.ascends.remove, ?_, fun _ => rfl, fun _ => rfl, ?_, inv.positive⟩
    · rintro other found next ⟨⟩
      obtain ⟨listed, apart⟩ := List.mem_filter.mp found
      have ahead := UInt64.le_iff_toNat_le.mp (inv.ahead other listed sequence set)
      rw [decide_eq_true_eq] at apart
      unfold AudioPacket.key at apart
      refine UInt64.le_iff_toNat_le.mpr ?_
      rcases toNat_succ sequence with rfl | next
      · exact Nat.zero_le _
      · omega
    · exact Nat.le_trans (List.length_filter_le _ _) inv.bounded

end JitterBuffer

/-! ## What a run keeps -/

section Logs

variable {log : List JitterEntry} {packets : List AudioPacket} {number : UInt64}
  {content : Option AudioPacket}

theorem returnedIn_evictions :
    returnedIn ((packets.map .evicted).reverse ++ log) = returnedIn log := by
  have none : returnedIn (packets.map .evicted).reverse = [] := by simp [returnedIn]
  unfold returnedIn at none ⊢
  rw [List.filterMap_append, none, List.nil_append]

theorem evictedIn_evictions :
    evictedIn ((packets.map .evicted).reverse ++ log) =
      (packets.map (·.sequence)).reverse ++ evictedIn log := by
  unfold evictedIn
  rw [List.filterMap_append, List.filterMap_reverse, List.filterMap_map]
  congr 2
  exact congrFun List.filterMap_eq_map packets

theorem slot_mem_evictions :
    .slot number content ∈ (packets.map .evicted).reverse ++ log ↔
      .slot number content ∈ log := by
  simp

theorem inTurn_evictions (slots : After InTurn log) :
    After InTurn ((packets.map .evicted).reverse ++ log) := by
  rw [← List.map_reverse]
  induction packets.reverse with
  | nil => exact slots
  | cons packet packets ih => exact after_cons.mpr ⟨trivial, ih⟩

/-- With evictions at the end of the log, no slot stands there. -/
theorem head_evictions (head : ((packets.map JitterEntry.evicted).reverse ++ log).head? =
    some (.slot number content)) : packets = [] ∧ log.head? = some (.slot number content) := by
  rw [← List.map_reverse] at head
  cases back : packets.reverse with
  | nil =>
    rw [back] at head
    exact ⟨List.reverse_eq_nil_iff.mp back, head⟩
  | cons packet packets =>
    rw [back] at head
    cases head

end Logs

namespace JitterRun

open JitterBuffer Ascending

variable {s t : JitterRun} {packet : AudioPacket}

/-- What holds in every state of a run within the condition. -/
structure Inv (s : JitterRun) : Prop where
  buffer : s.buffer.Inv
  playing : ∀ number content, .slot number content ∈ s.log → s.buffer.started = true
  below : s.ended = true ∨ ∀ number content, .slot number content ∈ s.log →
    ∀ next, s.buffer.nextSequence = some next → number < next
  following : ∀ number content, s.log.head? = some (.slot number content) →
    s.buffer.nextSequence = some (number + 1)
  accounted : s.accepted.Perm
    (returnedIn s.log ++ s.buffer.packets.map (·.sequence) ++ evictedIn s.log)
  slots : After InTurn s.log
  exact : .overflowed ∉ s.log

theorem Inv.sound (inv : s.Inv) : s.Sound where
  slots := inv.slots
  accounted := inv.accounted
  refused _ refused := inv.buffer.refused refused
  bounded := inv.buffer.bounded
  ahead := inv.buffer.ahead
  exact := inv.exact

/-- What is stored is what was there and the packet, if it was accepted. -/
theorem stored_perm (ascends : Ascends AudioPacket.key s.buffer.packets) :
    ((s.buffer.stored packet).map (·.sequence)).Perm
      ((if (get? AudioPacket.key packet.key s.buffer.packets).isNone then [packet.sequence]
        else []) ++ s.buffer.packets.map (·.sequence)) := by
  unfold JitterBuffer.stored
  cases found : get? AudioPacket.key packet.key s.buffer.packets with
  | none =>
    have free : ∀ other ∈ s.buffer.packets, other.key ≠ packet.key := by
      intro other listed same
      have absent := List.find?_eq_none.mp found other listed
      simp [same] at absent
    exact (put_perm free).map _
  | some copy =>
    rw [put_of_taken ascends ⟨copy, List.mem_of_find?_eq_some found, key_of_get? found⟩]
    have same : (s.buffer.packets.map fun other =>
        if other.key = packet.key then packet else other).map (·.sequence) =
          s.buffer.packets.map (·.sequence) := by
      rw [List.map_map]
      refine List.map_congr_left fun other _ => ?_
      simp only [Function.comp_apply]
      split
      · rename_i same
        exact (UInt64.toNat_inj.mp same).symm
      · rfl
    rw [same]
    exact List.Perm.refl _

theorem Inv.push (inv : s.Inv) (executed : calls.exec s (.push packet) = some t) : t.Inv := by
  cases executed
  cases inTime : s.buffer.late packet with
  | true =>
    have leaves : s.leaving packet = [] := if_pos inTime
    have nothing := push_late inTime
    rw [leaves, nothing]
    exact inv
  | false =>
    have leaves : s.leaving packet = (s.buffer.stored packet).take
        ((s.buffer.stored packet).length - s.buffer.maxPackets) :=
      if_neg (Bool.eq_false_iff.mp inTime)
    have fields := push_stored inTime
    obtain ⟨next, set, opened, -, still⟩ := inv.buffer.push_next inTime
    have started : (s.buffer.push packet).2.started = s.buffer.started := by rw [fields]
    have grows : s.buffer.started = true → ∀ old, s.buffer.nextSequence = some old →
        s.buffer.opened packet = old := by
      intro started old found
      simp [JitterBuffer.opened, started, found]
    refine ⟨inv.buffer.push, ?_, ?_, ?_, ?_, inTurn_evictions inv.slots, ?_⟩
    · intro number content found
      rw [started]
      exact inv.playing number content (slot_mem_evictions.mp found)
    · rcases inv.below with ended | below
      · refine .inl ?_
        unfold JitterRun.ended at ended ⊢
        rw [List.any_append, ended, Bool.or_true]
      · refine .inr fun number content found next' set' => ?_
        have listed := slot_mem_evictions.mp found
        have running := inv.playing number content listed
        obtain ⟨old, there⟩ := Option.isSome_iff_exists.mp (inv.buffer.started running)
        rw [set] at set'
        cases set'
        refine UInt64.lt_of_lt_of_le (below number content listed old there) ?_
        rw [← grows running old there]
        exact opened
    · intro number content head
      obtain ⟨none, head⟩ := head_evictions head
      have running := inv.playing number content (List.mem_of_head? head)
      have fits : (s.buffer.stored packet).length ≤ s.buffer.maxPackets := by
        rw [leaves] at none
        have short := congrArg List.length none
        rw [List.length_take, List.length_nil] at short
        omega
      rw [set, still fits, grows running _ (inv.following number content head)]
    · refine List.perm_iff_count.mpr fun number => ?_
      have before := inv.accounted.count_eq number
      have there := (@stored_perm s packet inv.buffer.ascends).count_eq number
      have parts := congrArg (fun packets : List AudioPacket =>
        (packets.map (·.sequence)).count number)
        (List.take_append_drop ((s.buffer.stored packet).length - s.buffer.maxPackets)
          (s.buffer.stored packet))
      have accepted : (if (s.buffer.push packet).1 then packet.sequence :: s.accepted
          else s.accepted).count number =
            (if (get? AudioPacket.key packet.key s.buffer.packets).isNone then [packet.sequence]
              else []).count number + s.accepted.count number := by
        rw [fields]
        simp only
        split <;> simp [List.count_cons, Nat.add_comm]
      rw [returnedIn_evictions, evictedIn_evictions, accepted, leaves, fields]
      simp only [List.map_append, List.count_append, List.count_reverse] at before there parts ⊢
      omega
    · simpa using inv.exact

/-- The slot that `pop_ready` returns. -/
theorem popped_slot (exact : s.buffer.overflows = false) (ready : s.buffer.ready = true) :
    ∃ number, s.buffer.nextSequence = some number ∧
      s.popped = [.slot number (get? AudioPacket.key number.toNat s.buffer.packets)] ∧
      s.buffer.popReady.2 = { s.buffer with
        started := true
        nextSequence := some (number + 1)
        packets := remove AudioPacket.key number.toNat s.buffer.packets } := by
  obtain ⟨number, set, returned⟩ := popReady_ready exact ready
  refine ⟨number, set, ?_, by rw [returned]⟩
  unfold JitterRun.popped
  rw [exact, returned, set]
  rfl

/-- A slot behind those before it, in a run that has not ended. -/
theorem Inv.slot (inv : s.Inv) (going : s.ended = false) {number : UInt64}
    (set : s.buffer.nextSequence = some number) :
    InTurn (.slot number (get? AudioPacket.key number.toNat s.buffer.packets)) s.log := by
  have below := inv.below.resolve_left (Bool.eq_false_iff.mp going)
  refine ⟨fun before content found => below before content found number set, ?_, ?_⟩
  · intro before content head
    have following := inv.following before content head
    rw [set] at following
    exact Option.some.inj following
  · intro content found
    have key : content.key = number.toNat := key_of_get? found
    exact UInt64.toNat_inj.mp key

theorem Inv.popReady (inv : s.Inv) (within : s.within .popReady = true)
    (executed : calls.exec s .popReady = some t) : t.Inv := by
  cases executed
  unfold JitterRun.within at within
  rw [Bool.and_eq_true, Bool.not_eq_true', Bool.not_eq_true', Bool.and_eq_false_iff] at within
  obtain ⟨exact, order⟩ := within
  cases ready : s.buffer.ready with
  | false =>
    have nothing := popReady_none inv.buffer (.inr ready)
    have silent : s.popped = [] := by
      unfold JitterRun.popped
      rw [exact, nothing]
      rfl
    rw [silent, nothing]
    exact inv
  | true =>
    have going : s.ended = false := order.resolve_left (by simp [ready])
    have below := inv.below.resolve_left (Bool.eq_false_iff.mp going)
    obtain ⟨number, set, popped, fields⟩ := popped_slot exact ready
    have buffer := inv.buffer.popReady
    rw [popped]
    rw [fields] at buffer ⊢
    refine ⟨buffer, fun _ _ _ => rfl, ?_, ?_, ?_, after_cons.mpr ⟨inv.slot going set, inv.slots⟩,
      by simpa using inv.exact⟩
    · rcases toNat_succ number with last | next
      · exact .inl (by simp [JitterRun.ended, last])
      · refine .inr ?_
        rintro before content found next' ⟨⟩
        rw [UInt64.lt_iff_toNat_lt, next]
        rcases List.mem_cons.mp found with new | old
        · cases new
          exact Nat.lt_succ_self _
        · have earlier := UInt64.lt_iff_toNat_lt.mp (below before content old number set)
          omega
    · rintro before content ⟨⟩
      rfl
    · refine List.perm_iff_count.mpr fun n => ?_
      have before := inv.accounted.count_eq n
      have parts := ((get?_remove (k := number.toNat) inv.buffer.ascends).map
        (·.sequence)).count_eq n
      have returned (content : Option AudioPacket) :
          returnedIn (.slot number content :: s.log) =
            content.toList.map (·.sequence) ++ returnedIn s.log := by
        cases content <;> rfl
      have evicted (content : Option AudioPacket) :
          evictedIn (.slot number content :: s.log) = evictedIn s.log := rfl
      simp only [List.cons_append, List.nil_append, returned, evicted, List.map_append,
        List.count_append] at before parts ⊢
      omega

/-- Outside of the condition an addition overflows, or a slot follows the last one. -/
theorem Inv.broken (outside : s.within .popReady = false)
    (executed : calls.exec s .popReady = some t) : ¬ t.Sound := by
  intro sound
  cases executed
  cases exact : s.buffer.overflows with
  | true =>
    have overflow : s.popped = [.overflowed] := if_pos exact
    exact sound.exact (by simp [overflow])
  | false =>
    simp only [JitterRun.within, exact, Bool.not_false, Bool.true_and, Bool.not_eq_false',
      Bool.and_eq_true] at outside
    obtain ⟨number, -, popped, -⟩ := popped_slot exact outside.1
    have slots := sound.slots
    simp only [popped, List.cons_append, List.nil_append, after_cons] at slots
    obtain ⟨entry, found, last⟩ := List.any_eq_true.mp outside.2
    cases entry with
    | slot before content =>
      have behind := UInt64.lt_iff_toNat_lt.mp (slots.1.1 before content found)
      have bound := number.toNat_lt
      have highest : before.toNat = 2 ^ 64 - 1 := by
        rw [of_decide_eq_true last]
        rfl
      omega
    | evicted | overflowed => cases last

theorem Inv.of_started (started : s.Started) : s.Inv := by
  obtain ⟨targetMs, fresh⟩ := started.buffer
  refine ⟨fresh ▸ JitterBuffer.Inv.new targetMs, ?_, ?_, ?_, ?_, ?_, ?_⟩ <;>
    simp [started.log, started.accepted, fresh, JitterBuffer.new, returnedIn, evictedIn]

end JitterRun

/-- The jitter buffer is sound as long as `pop_ready` is called within its numbers; a call outside
    of them breaks its order or its arithmetic. -/
theorem jitter_buffer_sound {first s : JitterRun} (started : first.Started)
    (run : JitterRun.calls.Run (fun s call => s.within call = true) first s) :
    s.Sound ∧ ∀ call t, JitterRun.calls.exec s call = some t →
      (t.Sound ↔ s.within call = true) := by
  have step {s t : JitterRun} {call : JitterCall} (inv : s.Inv) (within : s.within call = true)
      (executed : JitterRun.calls.exec s call = some t) : t.Inv := by
    cases call with
    | push packet => exact inv.push executed
    | popReady => exact inv.popReady within executed
  have inv : s.Inv :=
    run.invariant (fun _ _ _ within executed inv => step inv within executed) (.of_started started)
  refine ⟨inv.sound, fun call t executed => ⟨fun sound => ?_, fun within => ?_⟩⟩
  · by_contra outside
    cases call with
    | push packet => exact outside rfl
    | popReady => exact JitterRun.Inv.broken (Bool.not_eq_true _ ▸ outside) executed sound
  · exact (step inv within executed).sound

/-! ## Two packets far apart -/

def newJitter : JitterRun where
  buffer := .new 10

theorem newJitter_started : newJitter.Started := ⟨⟨10, rfl⟩, rfl, rfl⟩

def numbered (sequence : UInt64) : AudioPacket where
  sequence
  sampleTimestamp := 0
  flags := 0
  payload := []

/-- Packets out of order and a lost one. -/
def reordered : List JitterCall :=
  [.push (numbered 11), .push (numbered 10), .push (numbered 13), .popReady, .popReady, .popReady]

theorem jitter_buffer_sound_reordered : (JitterRun.calls.reach newJitter reordered).Sound :=
  (jitter_buffer_sound newJitter_started (run_reach_of_allowedList JitterRun.within
    (fun _ _ within => within) reordered (by decide +kernel) (by decide +kernel))).1

/-- The first and the last packet of all. -/
def farApart : List JitterCall :=
  [.push (numbered 0), .push (numbered (UInt64.ofNat (2 ^ 64 - 1))), .popReady]

/-- The timeline between them overflows. -/
theorem timeline_overflows : ¬ ∀ first s : JitterRun, first.Started →
    JitterRun.calls.Run anyAction first s → s.Sound := by
  intro sound
  have exact := (sound newJitter _ newJitter_started
    (run_reach farApart (by decide +kernel))).exact
  exact exact (by decide +kernel)

end EdgeKvm.Audio
