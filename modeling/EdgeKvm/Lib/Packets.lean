import EdgeKvm.Lib.Slices

/-!
# Packets on a byte stream

A packet is its length in four bytes and then the payload. A reader takes one packet at a time off
the bytes that have arrived so far, however the stream cuts them, and refuses a length above its
limit.
-/

namespace EdgeKvm.Lib

open MessagePack

/-- A payload behind its length. -/
def packet (payload : List UInt8) : List UInt8 := bigEndian 4 payload.length ++ payload

/-- What a reader makes of the bytes that are there: it waits for more, or it is through with a
    length that it refuses or with a packet, and goes on at the bytes that are left. -/
inductive PacketRead where
  | waits
  | tooLarge (length : Nat) (left : List UInt8)
  | took (payload left : List UInt8)
  deriving DecidableEq, Repr

def readPacket (limit : Nat) (bytes : List UInt8) : PacketRead :=
  if bytes.length < 4 then .waits
  else
    let length := ofBigEndian (bytes.take 4)
    let left := bytes.drop 4
    if limit < length then .tooLarge length left
    else if left.length < length then .waits
    else .took (left.take length) (left.drop length)

variable {limit : Nat} {payload bytes more : List UInt8} {payloads : List (List UInt8)}

@[simp] theorem length_packet : (packet payload).length = payload.length + 4 := by
  rw [packet, List.length_append, length_bigEndian, Nat.add_comm]

theorem ofBigEndian_length (small : payload.length < UInt32.size) :
    ofBigEndian (bigEndian 4 payload.length) = payload.length := by
  rw [ofBigEndian_bigEndian]
  exact Nat.mod_eq_of_lt small

/-- A packet that has arrived is taken, whatever arrived behind it. -/
theorem readPacket_packet (within : payload.length ≤ limit) (small : limit < UInt32.size) :
    readPacket limit (packet payload ++ more) = .took payload more := by
  have front : (packet payload ++ more).take 4 = bigEndian 4 payload.length := by
    rw [packet, List.append_assoc, List.take_append_of_le_length (by simp),
      List.take_of_length_le (by simp)]
  have back : (packet payload ++ more).drop 4 = payload ++ more := by
    rw [packet, List.append_assoc, List.drop_append_of_le_length (by simp),
      List.drop_of_length_le (by simp), List.nil_append]
  have long : ¬ (packet payload ++ more).length < 4 := by
    rw [List.length_append, length_packet]
    omega
  rw [readPacket, if_neg long]
  simp only [front, back, ofBigEndian_length (Nat.lt_of_le_of_lt within small)]
  rw [if_neg (Nat.not_lt.mpr within), if_neg (by simp)]
  simp

/-- A part of a packet is waited for. -/
theorem readPacket_waits (within : payload.length ≤ limit) (small : limit < UInt32.size)
    (part : bytes <+: packet payload) (short : bytes.length < (packet payload).length) :
    readPacket limit bytes = .waits := by
  rw [readPacket]
  by_cases headless : bytes.length < 4
  · rw [if_pos headless]
  · obtain ⟨missing, whole⟩ := part
    have front : bytes.take 4 = bigEndian 4 payload.length := by
      have same := congrArg (List.take 4) whole
      rw [List.take_append_of_le_length (by omega), packet,
        List.take_append_of_le_length (by simp), List.take_of_length_le (l := bigEndian _ _)
          (by simp)] at same
      exact same
    rw [if_neg headless]
    simp only [front, ofBigEndian_length (Nat.lt_of_le_of_lt within small)]
    rw [if_neg (Nat.not_lt.mpr within), if_pos]
    rw [length_packet] at short
    rw [List.length_drop]
    omega

/-- What a reader finds that has a prefix of a stream of packets before it: it waits, with nothing
    left to come only at the end, or it takes the first packet and has a prefix of the others
    before it. -/
theorem readPacket_stream (within : ∀ payload ∈ payloads, payload.length ≤ limit)
    (small : limit < UInt32.size) (stream : bytes ++ more = (payloads.map packet).flatten) :
    readPacket limit bytes = .waits ∧ (more = [] → payloads = []) ∨
      ∃ first rest left, payloads = first :: rest ∧ readPacket limit bytes = .took first left ∧
        left ++ more = (rest.map packet).flatten := by
  cases payloads with
  | nil =>
    obtain ⟨rfl, rfl⟩ := List.append_eq_nil_iff.mp stream
    exact .inl ⟨rfl, fun _ => rfl⟩
  | cons first rest =>
    have fits := within first List.mem_cons_self
    rw [List.map_cons, List.flatten_cons] at stream
    rcases List.append_eq_append_iff.mp stream with ⟨gap, whole, behind⟩ | ⟨left, mine, theirs⟩
    · by_cases through : gap = []
      · subst through
        rw [List.append_nil] at whole
        rw [List.nil_append] at behind
        right
        refine ⟨first, rest, [], rfl, ?_, behind⟩
        rw [← whole]
        have taken := @readPacket_packet _ first [] fits small
        rwa [List.append_nil] at taken
      · left
        refine ⟨readPacket_waits fits small ⟨gap, whole.symm⟩ ?_, ?_⟩
        · rw [whole, List.length_append]
          have := List.length_pos_iff.mpr through
          omega
        · intro nothing
          rw [nothing] at behind
          exact absurd (List.append_eq_nil_iff.mp behind.symm).1 through
    · right
      refine ⟨first, rest, left, rfl, ?_, theirs.symm⟩
      rw [mine]
      exact readPacket_packet fits small

end EdgeKvm.Lib
