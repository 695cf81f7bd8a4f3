import EdgeKvm.Lib.Machine
import EdgeKvm.Lib.Sides
import Mathlib.Data.List.Basic
import Mathlib.Logic.Function.Basic

/-!
# The round trip between two peers

`HeartbeatPing`: heartbeats that ask for an echo, their echoes, and the samples of the round trip.
Two peers run it over a link that may lose, delay, repeat and reorder what they send. Times are
nanoseconds of a peer's own clock.
-/

namespace EdgeKvm.Session

open EdgeKvm.Lib Machine

/-! ## Heartbeats -/

structure Heartbeat where
  sequence : UInt64
  deriving DecidableEq, Repr

structure HeartbeatPing where
  pending : Option (UInt64 × Nat) := none
  lastAsked : Option Nat := none
  samples : List Nat := []
  deriving DecidableEq, Repr

namespace HeartbeatPing

/-- `ECHO_REQUEST` -/
def echoRequest : UInt64 := (1 : UInt64) <<< 62

/-- `ECHO_REPLY` -/
def echoReply : UInt64 := (1 : UInt64) <<< 61

/-- `SEQUENCE` -/
def sequenceMask : UInt64 := ~~~(echoRequest ||| echoReply)

/-- `INTERVAL` -/
def interval : Nat := 2000000000

/-- `SAMPLES` -/
def maxSamples : Nat := 5

/-- `ECHO_TIMEOUT` -/
def echoTimeout : Nat := 5000000000

/-- A heartbeat that asked is still waited for. -/
def waiting (ping : HeartbeatPing) (now : Nat) : Bool :=
  ping.pending.any fun pending => now - pending.2 < echoTimeout

/-- The last heartbeat that asked was just sent. -/
def tooSoon (ping : HeartbeatPing) (now : Nat) : Bool :=
  ping.lastAsked.any fun asked => now - asked < interval

def outgoing (ping : HeartbeatPing) (sequence : UInt64) (now : Nat) : Heartbeat × HeartbeatPing :=
  let sequence := sequence &&& sequenceMask
  if ping.waiting now || ping.tooSoon now then (⟨sequence⟩, ping)
  else
    (⟨sequence ||| echoRequest⟩,
      { ping with pending := some (sequence, now), lastAsked := some now })

/-- When the pending heartbeat was sent, if `heartbeat` is its echo. -/
def answered (ping : HeartbeatPing) (heartbeat : Heartbeat) : Option Nat :=
  if heartbeat.sequence &&& echoReply = 0 then none
  else
    (ping.pending.filter fun pending => pending.1 = heartbeat.sequence &&& sequenceMask).map (·.2)

def incoming (ping : HeartbeatPing) (heartbeat : Heartbeat) (now : Nat) :
    Option Heartbeat × HeartbeatPing :=
  let sequence := heartbeat.sequence &&& sequenceMask
  if heartbeat.sequence &&& echoReply ≠ 0 then
    match ping.answered heartbeat with
    | some sent =>
      let samples := if ping.samples.length = maxSamples then ping.samples.tail else ping.samples
      (none, { ping with samples := samples ++ [now - sent], pending := none })
    | none => (none, ping)
  else if heartbeat.sequence &&& echoRequest ≠ 0 then (some ⟨sequence ||| echoReply⟩, ping)
  else (none, ping)

end HeartbeatPing

/-! ## Two peers -/

/-- A heartbeat as a peer sent it. -/
structure SentHeartbeat where
  sequence : UInt64
  heartbeat : Heartbeat
  time : Nat
  deriving DecidableEq, Repr

/-- The heartbeat asks for an echo. -/
def SentHeartbeat.asks (e : SentHeartbeat) : Bool :=
  e.heartbeat.sequence &&& HeartbeatPing.echoRequest ≠ 0

/-- A heartbeat on its way: `source` is the place of the heartbeat that is sent or echoed among
    those its sender sent, and `echoes` counts the echoes that led to it. -/
structure HeartbeatPacket where
  heartbeat : Heartbeat
  source : Nat
  echoes : Nat
  deriving DecidableEq, Repr

/-- A sample that was recorded, with the place of the heartbeat that was echoed. -/
structure PingSample where
  source : Nat
  time : Nat
  roundTrip : Nat
  deriving DecidableEq, Repr

/-- A peer, and what it sent and recorded so far. -/
structure PingPeer where
  ping : HeartbeatPing := {}
  clock : Nat := 0
  sent : List SentHeartbeat := []
  sampled : List PingSample := []
  deriving DecidableEq, Repr

namespace PingPeer

open HeartbeatPing

variable (p : PingPeer)

/-- Sends a heartbeat. -/
def send (sequence : UInt64) (now : Nat) : PingPeer :=
  { p with
    ping := (p.ping.outgoing sequence now).2
    clock := now
    sent := p.sent ++ [⟨sequence, (p.ping.outgoing sequence now).1, now⟩] }

/-- The heartbeat it sends. -/
def posted (sequence : UInt64) (now : Nat) : HeartbeatPacket where
  heartbeat := (p.ping.outgoing sequence now).1
  source := p.sent.length
  echoes := 0

/-- Takes in what the other peer sent. -/
def receive (packet : HeartbeatPacket) (now : Nat) : PingPeer :=
  { p with
    ping := (p.ping.incoming packet.heartbeat now).2
    clock := now
    sampled := p.sampled ++
      ((p.ping.answered packet.heartbeat).map fun sent => ⟨packet.source, now, now - sent⟩).toList }

/-- The echo it sends back. -/
def echoed (packet : HeartbeatPacket) (now : Nat) : List HeartbeatPacket :=
  ((p.ping.incoming packet.heartbeat now).1.map fun heartbeat =>
    ⟨heartbeat, packet.source, packet.echoes + 1⟩).toList

/-- The heartbeat at `place` asked less than `ECHO_TIMEOUT` ago and has brought no sample. -/
def Outstanding (now place : Nat) : Prop :=
  ∃ e, p.sent[place]? = some e ∧ e.asks = true ∧ now - e.time < echoTimeout ∧
    place ∉ p.sampled.map (·.source)

end PingPeer

/-- Both peers, and all that was sent to each side. -/
structure PingPair where
  peer : Side → PingPeer := fun _ => {}
  transit : Side → List HeartbeatPacket := fun _ => []

/-- A heartbeat is sent, or one of those sent arrives, once more or for the first time. -/
inductive PingAction where
  | send (sequence : UInt64) (now : Nat)
  | deliver (place now : Nat)
  deriving DecidableEq, Repr

namespace PingPair

open HeartbeatPing

/-- Sequences rise below 2^61 and clocks do not go back. -/
def exec (w : PingPair) (n : Side) : PingAction → Option PingPair
  | .send sequence now =>
    let p := w.peer n
    if p.clock ≤ now ∧ sequence < echoReply ∧ ∀ e ∈ p.sent, e.sequence < sequence then
      some {
        peer := Function.update w.peer n (p.send sequence now)
        transit := Function.update w.transit n.other
          (w.transit n.other ++ [p.posted sequence now]) }
    else none
  | .deliver place now =>
    let p := w.peer n
    match (w.transit n)[place]? with
    | some packet =>
      if p.clock ≤ now then
        some {
          peer := Function.update w.peer n (p.receive packet now)
          transit := Function.update w.transit n.other
            (w.transit n.other ++ p.echoed packet now) }
      else none
    | none => none

def machine : Machine PingPair (Side × PingAction) where
  exec w action := w.exec action.1 action.2

end PingPair

/-! ## The property -/

/-- The samples of a peer: each is the time since the heartbeat that was echoed was sent, and no
    heartbeat brings two; the last five are kept. Requests are sent an interval apart, and at most
    one is outstanding. -/
structure PingPeer.Genuine (p : PingPeer) : Prop where
  sampled : ∀ sample ∈ p.sampled, ∃ e, p.sent[sample.source]? = some e ∧ e.asks = true ∧
    sample.roundTrip = sample.time - e.time
  once : (p.sampled.map (·.source)).Nodup
  kept : p.ping.samples <:+ p.sampled.map (·.roundTrip)
  few : p.ping.samples.length ≤ HeartbeatPing.maxSamples
  apart : p.sent.Pairwise fun earlier later => earlier.asks = true → later.asks = true →
    earlier.time + HeartbeatPing.interval ≤ later.time
  outstanding : ∀ now, p.clock ≤ now → ∀ place place', p.Outstanding now place →
    p.Outstanding now place' → place = place'

/-! ## The flag bits -/

namespace HeartbeatPing

variable {sequence flag bit : UInt64}

theorem eq_of_bits {a b : UInt64}
    (same : ∀ i < 64, a.toBitVec.getLsbD i = b.toBitVec.getLsbD i) : a = b :=
  UInt64.toBitVec_inj.mp (BitVec.eq_of_getLsbD_eq same)

theorem or_and (a b c : UInt64) : (a ||| b) &&& c = (a &&& c) ||| (b &&& c) := by
  refine eq_of_bits fun i _ => ?_
  simp [Bool.and_or_distrib_right]

theorem sequenceMask_bits : ∀ i < 64,
    sequenceMask.toBitVec.getLsbD i = decide (i ≠ 61 ∧ i ≠ 62) := by decide

/-- A sequence below 2^61 has no flag bit. -/
theorem unflagged (small : sequence < echoReply) : sequence &&& sequenceMask = sequence := by
  refine eq_of_bits fun i inside => ?_
  rw [UInt64.toBitVec_and, BitVec.getLsbD_and, sequenceMask_bits i inside]
  by_cases high : 61 ≤ i
  · have low : sequence.toNat < 2 ^ 61 := UInt64.lt_iff_toNat_lt.mp small
    have bound : sequence.toNat < 2 ^ i :=
      Nat.lt_of_lt_of_le low (Nat.pow_le_pow_right (by omega) high)
    have clear : sequence.toBitVec.getLsbD i = false := Nat.testBit_lt_two_pow bound
    rw [clear, Bool.false_and]
  · have other : i ≠ 61 ∧ i ≠ 62 := by omega
    simp [other]

/-- The mask takes a flag off. -/
theorem masked (small : sequence < echoReply) (flags : flag &&& sequenceMask = 0) :
    (sequence ||| flag) &&& sequenceMask = sequence := by
  rw [or_and, unflagged small, flags, UInt64.or_zero]

/-- A flag bit of a flagged sequence is the flag's. -/
theorem flagged (small : sequence < echoReply) (flags : bit &&& sequenceMask = 0) :
    (sequence ||| flag) &&& bit = flag &&& bit := by
  rw [or_and, ← unflagged small, UInt64.and_assoc, UInt64.and_comm sequenceMask, flags,
    UInt64.and_zero, UInt64.zero_or]

theorem flagged_request (small : sequence < echoReply) :
    (sequence ||| flag) &&& echoRequest = flag &&& echoRequest := flagged small (by decide)

theorem flagged_reply (small : sequence < echoReply) :
    (sequence ||| flag) &&& echoReply = flag &&& echoReply := flagged small (by decide)

/-! ## What a peer sends -/

variable {ping : HeartbeatPing} {now : Nat}

/-- A heartbeat asks only when no other is waited for and the last was sent an interval ago. -/
theorem outgoing_cases (small : sequence < echoReply) :
    ping.outgoing sequence now = (⟨sequence ||| 0⟩, ping) ∨
      (ping.waiting now = false ∧ ping.tooSoon now = false ∧
        ping.outgoing sequence now = (⟨sequence ||| echoRequest⟩,
          { ping with pending := some (sequence, now), lastAsked := some now })) := by
  unfold outgoing
  rw [unflagged small]
  by_cases silent : ping.waiting now || ping.tooSoon now
  · exact .inl (by simp [silent])
  · rw [Bool.not_eq_true, Bool.or_eq_false_iff] at silent
    exact .inr ⟨silent.1, silent.2, by simp [silent]⟩

end HeartbeatPing

/-! ## The invariant -/

/-- What holds of the heartbeats a peer sent. -/
structure PingPeer.Posted (p : PingPeer) : Prop where
  clock : ∀ e ∈ p.sent, e.time ≤ p.clock
  rising : p.sent.Pairwise fun earlier later => earlier.sequence < later.sequence
  small : ∀ e ∈ p.sent, e.sequence < HeartbeatPing.echoReply
  flagged : ∀ e ∈ p.sent, ∃ flag, (flag = 0 ∨ flag = HeartbeatPing.echoRequest) ∧
    e.heartbeat.sequence = e.sequence ||| flag

/-- What holds of a peer, whatever arrives. -/
structure PingPeer.Inv (p : PingPeer) : Prop extends p.Posted where
  sampled : ∀ sample ∈ p.sampled, ∃ e, p.sent[sample.source]? = some e ∧ e.asks = true ∧
    sample.roundTrip = sample.time - e.time
  once : (p.sampled.map (·.source)).Nodup
  kept : p.ping.samples <:+ p.sampled.map (·.roundTrip)
  few : p.ping.samples.length ≤ HeartbeatPing.maxSamples
  apart : p.sent.Pairwise fun earlier later => earlier.asks = true → later.asks = true →
    earlier.time + HeartbeatPing.interval ≤ later.time
  asked : ∀ e ∈ p.sent, e.asks = true → ∃ last, p.ping.lastAsked = some last ∧ e.time ≤ last
  pending : ∀ sequence time, p.ping.pending = some (sequence, time) →
    ∃ place e, p.sent[place]? = some e ∧ e.asks = true ∧ e.sequence = sequence ∧
      e.time = time ∧ place ∉ p.sampled.map (·.source)
  waited : ∀ place e, p.sent[place]? = some e → e.asks = true →
    place ∉ p.sampled.map (·.source) →
      p.ping.pending = some (e.sequence, e.time) ∨
        e.time + HeartbeatPing.echoTimeout ≤ p.clock

/-- What arrives at a peer that sent `mine` from one that sent `theirs`. -/
inductive Carried (mine theirs : List SentHeartbeat) (packet : HeartbeatPacket) : Prop
  | post (e : SentHeartbeat) (sent : theirs[packet.source]? = some e)
      (same : packet.heartbeat = e.heartbeat) (direct : packet.echoes = 0)
  | echo (e : SentHeartbeat) (sent : mine[packet.source]? = some e) (asks : e.asks = true)
      (same : packet.heartbeat.sequence = e.sequence ||| HeartbeatPing.echoReply)
      (once : packet.echoes = 1)

namespace PingPeer

open HeartbeatPing

variable {p : PingPeer} {sequence : UInt64} {now : Nat}

/-- A heartbeat of a longer history is an old one or the new one. -/
theorem getElem?_snoc {sent : List SentHeartbeat} {e x : SentHeartbeat} {place : Nat} :
    (sent ++ [e])[place]? = some x ↔ sent[place]? = some x ∨ (place = sent.length ∧ e = x) := by
  rcases Nat.lt_trichotomy place sent.length with old | rfl | beyond
  · rw [List.getElem?_append_left old]
    simp [Nat.ne_of_lt old]
  · simp
  · have outside : (sent ++ [e]).length ≤ place := by
      rw [List.length_append]
      exact beyond
    simp [List.getElem?_eq_none (Nat.le_of_lt beyond), List.getElem?_eq_none outside,
      Nat.ne_of_gt beyond]

/-- Heartbeats with one sequence stand at one place. -/
theorem Posted.place_eq (posted : p.Posted) {i j : Nat} {e x : SentHeartbeat}
    (at_i : p.sent[i]? = some e) (at_j : p.sent[j]? = some x) (same : e.sequence = x.sequence) :
    i = j := by
  obtain ⟨inside_i, rfl⟩ := List.getElem?_eq_some_iff.mp at_i
  obtain ⟨inside_j, rfl⟩ := List.getElem?_eq_some_iff.mp at_j
  rcases Nat.lt_trichotomy i j with before | rfl | behind
  · have rising := List.pairwise_iff_getElem.mp posted.rising i j inside_i inside_j before
    rw [same] at rising
    exact absurd rising (UInt64.lt_irrefl _)
  · rfl
  · have rising := List.pairwise_iff_getElem.mp posted.rising j i inside_j inside_i behind
    rw [same] at rising
    exact absurd rising (UInt64.lt_irrefl _)

/-- Only the pending heartbeat is outstanding. -/
theorem Inv.outstanding (inv : p.Inv) (late : p.clock ≤ now) {place place' : Nat}
    (one : p.Outstanding now place) (other : p.Outstanding now place') : place = place' := by
  have pending {place : Nat} (waits : p.Outstanding now place) :
      ∃ e, p.sent[place]? = some e ∧ p.ping.pending = some (e.sequence, e.time) := by
    obtain ⟨e, sent, asks, young, unanswered⟩ := waits
    refine ⟨e, sent, (inv.waited place e sent asks unanswered).resolve_right ?_⟩
    omega
  obtain ⟨e, sent, first⟩ := pending one
  obtain ⟨e', sent', second⟩ := pending other
  rw [first] at second
  exact inv.place_eq sent sent' (Prod.mk.inj (Option.some.inj second)).1

theorem Inv.genuine (inv : p.Inv) : p.Genuine where
  sampled := inv.sampled
  once := inv.once
  kept := inv.kept
  few := inv.few
  apart := inv.apart
  outstanding _ late _ _ one other := inv.outstanding late one other

/-! ### Sending -/

/-- The samples are of heartbeats that were sent. -/
theorem Inv.source_lt (inv : p.Inv) {place : Nat} (found : place ∈ p.sampled.map (·.source)) :
    place < p.sent.length := by
  obtain ⟨sample, listed, rfl⟩ := List.mem_map.mp found
  obtain ⟨e, sent, -⟩ := inv.sampled sample listed
  exact (List.getElem?_eq_some_iff.mp sent).1

theorem asks_flagged (small : sequence < echoReply) {flag : UInt64} :
    (⟨sequence, ⟨sequence ||| flag⟩, now⟩ : SentHeartbeat).asks =
      decide (flag &&& echoRequest ≠ 0) := by
  unfold SentHeartbeat.asks
  rw [flagged_request small]

theorem Posted.snoc (posted : p.Posted) (late : p.clock ≤ now) (small : sequence < echoReply)
    (rising : ∀ e ∈ p.sent, e.sequence < sequence) {flag : UInt64}
    (flags : flag = 0 ∨ flag = echoRequest) (ping : HeartbeatPing) :
    Posted { p with
      ping, clock := now, sent := p.sent ++ [⟨sequence, ⟨sequence ||| flag⟩, now⟩] } := by
  constructor
  · intro e found
    rcases List.mem_append.mp found with old | new
    · exact Nat.le_trans (posted.clock e old) late
    · obtain rfl := List.mem_singleton.mp new
      exact Nat.le_refl _
  · refine List.pairwise_append.mpr ⟨posted.rising, List.pairwise_singleton _ _, ?_⟩
    intro e old x new
    rw [List.mem_singleton.mp new]
    exact rising e old
  · intro e found
    rcases List.mem_append.mp found with old | new
    · exact posted.small e old
    · rw [List.mem_singleton.mp new]
      exact small
  · intro e found
    rcases List.mem_append.mp found with old | new
    · exact posted.flagged e old
    · rw [List.mem_singleton.mp new]
      exact ⟨flag, flags, rfl⟩

theorem Inv.send (inv : p.Inv) (late : p.clock ≤ now) (small : sequence < echoReply)
    (rising : ∀ e ∈ p.sent, e.sequence < sequence) : (p.send sequence now).Inv := by
  have fresh : p.sent.length ∉ p.sampled.map (·.source) :=
    fun found => Nat.lt_irrefl _ (inv.source_lt found)
  have sampled (x : SentHeartbeat) : ∀ sample ∈ p.sampled, ∃ e,
      (p.sent ++ [x])[sample.source]? = some e ∧ e.asks = true ∧
        sample.roundTrip = sample.time - e.time := by
    intro sample listed
    obtain ⟨e, sent, taken⟩ := inv.sampled sample listed
    exact ⟨e, getElem?_snoc.mpr (.inl sent), taken⟩
  unfold PingPeer.send
  rcases @outgoing_cases sequence p.ping now small with silent | ⟨idle, rested, asking⟩
  · rw [silent]
    have quiet := @asks_flagged sequence now small 0
    refine ⟨inv.snoc late small rising (.inl rfl) _, sampled _, inv.once, inv.kept, inv.few,
      ?_, ?_, ?_, ?_⟩
    · refine List.pairwise_append.mpr ⟨inv.apart, List.pairwise_singleton _ _, ?_⟩
      intro e old x new _ asks
      rw [List.mem_singleton.mp new, quiet] at asks
      cases asks
    · intro e found asks
      rcases List.mem_append.mp found with old | new
      · exact inv.asked e old asks
      · rw [List.mem_singleton.mp new, quiet] at asks
        cases asks
    · intro sequence time waits
      obtain ⟨place, e, sent, rest⟩ := inv.pending sequence time waits
      exact ⟨place, e, getElem?_snoc.mpr (.inl sent), rest⟩
    · intro place e sent asks unanswered
      rcases getElem?_snoc.mp sent with old | ⟨rfl, rfl⟩
      · exact (inv.waited place e old asks unanswered).imp_right (Nat.le_trans · late)
      · rw [quiet] at asks
        cases asks
  · rw [asking]
    have asks := @asks_flagged sequence now small echoRequest
    refine ⟨inv.snoc late small rising (.inr rfl) _, sampled _, inv.once, inv.kept, inv.few,
      ?_, ?_, ?_, ?_⟩
    · refine List.pairwise_append.mpr ⟨inv.apart, List.pairwise_singleton _ _, ?_⟩
      intro e old x new asks _
      obtain ⟨last, same, before⟩ := inv.asked e old asks
      rw [List.mem_singleton.mp new]
      simp only [tooSoon, same, Option.any_some, decide_eq_false_iff_not] at rested
      unfold interval at rested ⊢
      show e.time + 2000000000 ≤ now
      omega
    · intro e found _
      refine ⟨now, rfl, ?_⟩
      exact (inv.snoc late small rising (.inr rfl) p.ping).clock e found
    · rintro sequence' time waits
      cases waits
      exact ⟨p.sent.length, _, getElem?_snoc.mpr (.inr ⟨rfl, rfl⟩), by rw [asks]; rfl, rfl, rfl,
        fresh⟩
    · intro place e sent wants unanswered
      rcases getElem?_snoc.mp sent with old | ⟨rfl, rfl⟩
      · refine .inr ?_
        rcases inv.waited place e old wants unanswered with waits | rested
        · simp only [waiting, waits, Option.any_some, decide_eq_false_iff_not] at idle
          unfold echoTimeout at idle ⊢
          show e.time + 5000000000 ≤ now
          omega
        · exact Nat.le_trans rested late
      · exact .inl rfl

/-! ### Receiving -/

/-- A heartbeat of the other peer records nothing, and is echoed if it asks. -/
theorem Posted.incoming (posted : p.Posted) {e : SentHeartbeat} (sent : e ∈ p.sent)
    (ping : HeartbeatPing) :
    ping.answered e.heartbeat = none ∧ ping.incoming e.heartbeat now =
      (if e.asks then some ⟨e.sequence ||| echoReply⟩ else none, ping) := by
  have small := posted.small e sent
  obtain ⟨flag, flags, same⟩ := posted.flagged e sent
  have direct : e.heartbeat.sequence &&& echoReply = 0 := by
    rw [same, flagged_reply small]
    rcases flags with rfl | rfl <;> decide
  have sequence : e.heartbeat.sequence &&& sequenceMask = e.sequence := by
    rw [same]
    rcases flags with rfl | rfl <;> exact masked small (by decide)
  refine ⟨by simp [answered, direct], ?_⟩
  unfold HeartbeatPing.incoming SentHeartbeat.asks
  rw [if_neg (not_not.mpr direct), sequence]
  by_cases asks : e.heartbeat.sequence &&& echoRequest = 0 <;> simp [asks]

/-- An echo is taken in if its heartbeat is pending, and answered by nothing. -/
theorem incoming_echo {e : SentHeartbeat} (small : e.sequence < echoReply) {heartbeat : Heartbeat}
    (same : heartbeat.sequence = e.sequence ||| echoReply) (ping : HeartbeatPing) :
    (ping.incoming heartbeat now).1 = none ∧
      ping.answered heartbeat =
        (ping.pending.filter fun pending => pending.1 = e.sequence).map (·.2) := by
  have reply : heartbeat.sequence &&& echoReply ≠ 0 := by
    rw [same, flagged_reply small]
    decide
  have sequence : heartbeat.sequence &&& sequenceMask = e.sequence := by
    rw [same]
    exact masked small (by decide)
  constructor
  · unfold HeartbeatPing.incoming
    rw [if_pos reply]
    split <;> rfl
  · unfold answered
    rw [if_neg reply, sequence]

/-- Time passes. -/
theorem Inv.wait (inv : p.Inv) (late : p.clock ≤ now) : Inv { p with clock := now } := by
  refine ⟨⟨fun e found => Nat.le_trans (inv.clock e found) late, inv.rising, inv.small,
    inv.flagged⟩, inv.sampled, inv.once, inv.kept, inv.few, inv.apart, inv.asked, inv.pending, ?_⟩
  intro place e sent asks unanswered
  exact (inv.waited place e sent asks unanswered).imp_right (Nat.le_trans · late)

/-- What is recorded of an echo. -/
theorem incoming_answered {ping : HeartbeatPing} {heartbeat : Heartbeat} {sent : Nat}
    (answer : ping.answered heartbeat = some sent) :
    (ping.incoming heartbeat now).2 = { ping with
      samples := (if ping.samples.length = maxSamples then ping.samples.tail
        else ping.samples) ++ [now - sent]
      pending := none } := by
  have reply : heartbeat.sequence &&& echoReply ≠ 0 := by
    intro direct
    simp [answered, direct] at answer
  unfold HeartbeatPing.incoming
  rw [if_pos reply, answer]

theorem incoming_ignored {ping : HeartbeatPing} {heartbeat : Heartbeat}
    (ignored : ping.answered heartbeat = none) : (ping.incoming heartbeat now).2 = ping := by
  unfold HeartbeatPing.incoming
  rw [ignored]
  split
  · rfl
  · split <;> rfl

/-- The last samples with one more. -/
theorem suffix_snoc {samples all : List Nat} {limit sample : Nat} (kept : samples <:+ all)
    (few : samples.length ≤ limit) (positive : 0 < limit) :
    (if samples.length = limit then samples.tail else samples) ++ [sample] <:+ all ++ [sample] ∧
      ((if samples.length = limit then samples.tail else samples) ++ [sample]).length ≤ limit := by
  split
  · rename_i full
    refine ⟨?_, ?_⟩
    · obtain ⟨rest, rfl⟩ := (List.tail_suffix samples).trans kept
      exact ⟨rest, by simp⟩
    · rw [List.length_append, List.length_tail, List.length_singleton]
      omega
  · rename_i room
    refine ⟨?_, ?_⟩
    · obtain ⟨rest, rfl⟩ := kept
      exact ⟨rest, by simp⟩
    · rw [List.length_append, List.length_singleton]
      omega

/-- The echo of the pending heartbeat is recorded. -/
theorem Inv.record (inv : p.Inv) (late : p.clock ≤ now) {place sent : Nat} {e : SentHeartbeat}
    (here : p.sent[place]? = some e) (waits : p.ping.pending = some (e.sequence, sent)) :
    Inv { p with
      ping := { p.ping with
        samples := (if p.ping.samples.length = maxSamples then p.ping.samples.tail
          else p.ping.samples) ++ [now - sent]
        pending := none }
      clock := now
      sampled := p.sampled ++ [⟨place, now, now - sent⟩] } := by
  obtain ⟨place', e', there, asks, same, rfl, unanswered⟩ := inv.pending _ _ waits
  obtain rfl := inv.place_eq there here same
  rw [here] at there
  cases there
  have kept := @suffix_snoc _ _ _ (now - e.time) inv.kept inv.few (by decide)
  refine ⟨⟨fun e found => Nat.le_trans (inv.clock e found) late, inv.rising, inv.small,
    inv.flagged⟩, ?_, ?_, by simpa using kept.1, kept.2, inv.apart, inv.asked, ?_, ?_⟩
  · intro sample listed
    rcases List.mem_append.mp listed with old | new
    · exact inv.sampled sample old
    · rw [List.mem_singleton.mp new]
      exact ⟨e, here, asks, rfl⟩
  · rw [List.map_append, List.map_cons, List.map_nil]
    refine List.nodup_append.mpr ⟨inv.once, by simp, ?_⟩
    rintro x found y new rfl
    rw [List.mem_singleton.mp new] at found
    exact unanswered found
  · rintro sequence time ⟨⟩
  · intro place x sent wants open'
    rw [List.map_append, List.mem_append, not_or] at open'
    rcases inv.waited place x sent wants open'.1 with waits' | rested'
    · rw [waits] at waits'
      have same := (Prod.mk.inj (Option.some.inj waits')).1
      obtain rfl := inv.place_eq sent here same.symm
      exact absurd (List.mem_singleton_self _) open'.2
    · exact .inr (Nat.le_trans rested' late)

theorem Inv.receive (inv : p.Inv) {theirs : PingPeer} (posted : theirs.Posted)
    {packet : HeartbeatPacket} (carried : Carried p.sent theirs.sent packet)
    (late : p.clock ≤ now) : (p.receive packet now).Inv := by
  unfold PingPeer.receive
  cases answer : p.ping.answered packet.heartbeat with
  | none =>
    rw [incoming_ignored answer, Option.map_none, Option.toList_none, List.append_nil]
    exact inv.wait late
  | some sent =>
    rw [incoming_answered answer]
    cases carried with
    | post e there same direct =>
      rw [same, (@Posted.incoming _ now posted _ (List.mem_of_getElem? there) p.ping).1] at answer
      cases answer
    | echo e here asks same once =>
      have small := inv.small e (List.mem_of_getElem? here)
      rw [(@incoming_echo now _ small _ same p.ping).2] at answer
      obtain ⟨⟨sequence, time⟩, waits, rfl⟩ := Option.map_eq_some_iff.mp answer
      obtain ⟨pending, matched⟩ := Option.filter_eq_some_iff.mp waits
      rw [decide_eq_true_eq] at matched
      subst matched
      exact inv.record late here pending

end PingPeer

/-! ## Both peers -/

/-- Packets stay what they are while the peers send more. -/
theorem Carried.grow {mine theirs mine' theirs' : List SentHeartbeat} {packet : HeartbeatPacket}
    (carried : Carried mine theirs packet) (more : mine <+: mine') (others : theirs <+: theirs') :
    Carried mine' theirs' packet := by
  have still {sent sent' : List SentHeartbeat} {e : SentHeartbeat}
      (found : sent[packet.source]? = some e) (more : sent <+: sent') :
      sent'[packet.source]? = some e := by
    obtain ⟨rest, rfl⟩ := more
    rwa [List.getElem?_append_left (List.getElem?_eq_some_iff.mp found).1]
  cases carried with
  | post e sent same direct => exact .post e (still sent others) same direct
  | echo e sent asks same once => exact .echo e (still sent more) asks same once

/-- What a peer sends back is the echo of a heartbeat that asked. -/
theorem PingPeer.Inv.echoed {p theirs : PingPeer} (inv : p.Inv) (posted : theirs.Posted)
    {packet : HeartbeatPacket} {now : Nat} (carried : Carried p.sent theirs.sent packet) :
    ∀ echo ∈ p.echoed packet now, Carried theirs.sent p.sent echo := by
  intro echo sent
  unfold PingPeer.echoed at sent
  cases carried with
  | post e there same direct =>
    rw [same, (posted.incoming (List.mem_of_getElem? there) p.ping).2] at sent
    by_cases asks : e.asks = true
    · rw [if_pos asks] at sent
      rw [List.mem_singleton.mp sent]
      exact .echo e there asks rfl (by rw [direct])
    · rw [if_neg asks] at sent
      cases sent
  | echo e here asks same once =>
    have small := inv.small e (List.mem_of_getElem? here)
    rw [(PingPeer.incoming_echo small same p.ping).1] at sent
    cases sent

namespace PingPair

open HeartbeatPing

/-- What holds in every reachable state. -/
structure Inv (w : PingPair) : Prop where
  peer : ∀ n, (w.peer n).Inv
  carried : ∀ n, ∀ packet ∈ w.transit n,
    Carried (w.peer n).sent (w.peer n.other).sent packet

variable {w v : PingPair} {n : Side}

/-- A turn of one peer. -/
theorem Inv.turn (inv : w.Inv) {p : PingPeer} {packets : List HeartbeatPacket} (peer : p.Inv)
    (more : (w.peer n).sent <+: p.sent)
    (new : ∀ packet ∈ packets, Carried (w.peer n.other).sent p.sent packet) :
    Inv {
      peer := Function.update w.peer n p
      transit := Function.update w.transit n.other (w.transit n.other ++ packets) } where
  peer := by
    dsimp only
    refine Side.forall_of_other n ?_ ?_
    · rwa [Function.update_self]
    · rw [Function.update_of_ne (Side.other_ne n)]
      exact inv.peer n.other
  carried := by
    dsimp only
    refine Side.forall_of_other n ?_ ?_
    · intro packet arrives
      rw [Function.update_of_ne (Side.ne_other n)] at arrives
      rw [Function.update_self, Function.update_of_ne (Side.other_ne n)]
      exact (inv.carried n packet arrives).grow more List.prefix_rfl
    · intro packet arrives
      rw [Function.update_self] at arrives
      rw [Side.other_other, Function.update_self, Function.update_of_ne (Side.other_ne n)]
      rcases List.mem_append.mp arrives with old | added
      · have carried := inv.carried n.other packet old
        rw [Side.other_other] at carried
        exact carried.grow List.prefix_rfl more
      · exact new packet added

theorem Inv.step (inv : w.Inv) {action : PingAction} (executed : w.exec n action = some v) :
    v.Inv := by
  cases action with
  | send sequence now =>
    simp only [exec] at executed
    split at executed
    · rename_i enabled
      obtain ⟨late, small, rising⟩ := enabled
      cases executed
      refine inv.turn ((inv.peer n).send late small rising) ⟨_, rfl⟩ ?_
      intro packet new
      rw [List.mem_singleton.mp new]
      exact .post _ (PingPeer.getElem?_snoc.mpr (.inr ⟨rfl, rfl⟩)) rfl rfl
    · cases executed
  | deliver place now =>
    simp only [exec] at executed
    split at executed
    · rename_i packet found
      split at executed
      · rename_i late
        cases executed
        have carried := inv.carried n packet (List.mem_of_getElem? found)
        have posted := (inv.peer n.other).toPosted
        exact inv.turn ((inv.peer n).receive posted carried late) List.prefix_rfl
          ((inv.peer n).echoed posted carried)
      · cases executed
    · cases executed

theorem Inv.fresh : Inv {} := by
  constructor
  · intro n
    refine ⟨⟨?_, ?_, ?_, ?_⟩, ?_, ?_, ?_, ?_, ?_, ?_, ?_, ?_⟩ <;> simp
  · intro n packet arrives
    cases arrives

end PingPair

/-- Every sample is genuine, and no echo is the answer to an echo. -/
theorem round_trips_genuine {w : PingPair} (run : PingPair.machine.Run anyAction {} w) (n : Side) :
    (w.peer n).Genuine ∧ ∀ packet ∈ w.transit n, packet.echoes ≤ 1 := by
  have inv : w.Inv :=
    run.invariant (fun _ _ _ _ executed inv => PingPair.Inv.step inv executed) PingPair.Inv.fresh
  refine ⟨(inv.peer n).genuine, fun packet arrives => ?_⟩
  cases inv.carried n packet arrives with
  | post e sent same direct => omega
  | echo e sent asks same once => omega

/-- A heartbeat is echoed after its request timed out, and the echo of the next one arrives
    twice. -/
def lateEcho : List (Side × PingAction) :=
  [(.first, .send 1 0), (.second, .deliver 0 10), (.first, .send 2 5000000000),
    (.first, .deliver 0 5000000001), (.second, .deliver 1 20), (.first, .deliver 1 5000000003),
    (.first, .deliver 1 5000000004)]

theorem round_trips_genuine_late :
    ((PingPair.machine.reach {} lateEcho).peer .first).Genuine ∧
      ∀ packet ∈ (PingPair.machine.reach {} lateEcho).transit .first, packet.echoes ≤ 1 :=
  round_trips_genuine (run_reach lateEcho (by decide +kernel)) .first

end EdgeKvm.Session
