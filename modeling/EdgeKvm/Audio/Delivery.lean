import EdgeKvm.Audio.Stream
import Mathlib.Data.List.Induction

/-!
# A stream without losses

Where every datagram comes unchanged and in order, the receiver plays every frame but those that
it holds back to reach its target, and conceals nothing. A buffer has room for 96 packets at most,
so a target of 485 ms or more is never reached.
-/

namespace EdgeKvm.Audio

open EdgeKvm.Lib Machine Ascending

namespace AudioStream

/-- The packets of the frames. -/
def media (frames : List (List UInt8)) : List AudioPacket := frames.mapIdx frameAt

/-- The log of a receiver that played these packets, each in its slot. -/
def slots (packets : List AudioPacket) : List JitterEntry :=
  (packets.map fun packet => .slot packet.sequence (some packet)).reverse

/-- What is written on the wire for a packet. -/
def datagramOf (aead : AeadCipher) (cipher : PacketCipher) (packet : AudioPacket) : List UInt8 :=
  (cipher.sealPacket aead packet).toOption.getD []

/-- A frame is captured, and its datagram comes before the next one. -/
def relay (aead : AeadCipher) (cipher : PacketCipher) (s : AudioStream) (payload : List UInt8) :
    AudioStream :=
  (s.capture aead cipher payload false).receive aead cipher (datagramOf aead cipher
    { sequence := s.sequence, sampleTimestamp := s.timestamp, flags := 0, payload })

variable {aead : AeadCipher} {cipher : PacketCipher} {frames : List (List UInt8)}
  {payload : List UInt8} {targetMs : UInt32} {gone : Nat} {j : JitterBuffer}
  {packet : AudioPacket}

/-! ## The packets of the frames -/

theorem media_concat :
    media (frames ++ [payload]) = media frames ++ [frameAt frames.length payload] :=
  List.mapIdx_concat

@[simp] theorem length_media : (media frames).length = frames.length := List.length_mapIdx

theorem media_key (short : frames.length < 2 ^ 64) {place : Nat}
    (inside : place < (media frames).length) : ((media frames)[place]).key = place + 1 := by
  have packet : (media frames)[place] = frameAt place (frames.get ⟨place, by simpa using inside⟩) :=
    List.getElem_mapIdx
  rw [length_media] at inside
  rw [packet]
  exact frameAt_toNat (by omega)

theorem media_ascends (short : frames.length < 2 ^ 64) :
    Ascends AudioPacket.key (media frames) := by
  refine List.pairwise_iff_getElem.mpr fun first later inside inside' before => ?_
  rw [media_key short inside, media_key short inside']
  omega

theorem key_le_of_mem (short : frames.length < 2 ^ 64) (member : packet ∈ media frames) :
    packet.key ≤ frames.length := by
  obtain ⟨place, inside, rfl⟩ := List.mem_iff_getElem.mp member
  rw [media_key short inside]
  rw [length_media] at inside
  omega

/-! ## The buffer -/

/-- The buffer when the first frames are gone and the rest is held. -/
structure Holds (targetMs : UInt32) (frames : List (List UInt8)) (gone : Nat)
    (j : JitterBuffer) : Prop where
  target : j.targetPackets = (JitterBuffer.new targetMs).targetPackets
  room : j.maxPackets = (JitterBuffer.new targetMs).maxPackets
  packets : j.packets = (media frames).drop gone
  next : j.nextSequence = some (UInt64.ofNat (gone + 1)) ∨
    frames = [] ∧ gone = 0 ∧ j.nextSequence = none

theorem put_of_above {l : List AudioPacket} (above : ∀ other ∈ l, other.key < packet.key) :
    put AudioPacket.key packet l = l ++ [packet] := by
  induction l with
  | nil => rfl
  | cons other l ih =>
    have below := above other List.mem_cons_self
    rw [put, if_neg (by omega), if_neg (by omega),
      ih fun other member => above other (List.mem_cons_of_mem _ member)]
    rfl

/-- What the next frame finds. -/
theorem Holds.stored (holds : Holds targetMs frames gone j) (behind : gone ≤ frames.length)
    (short : frames.length + 1 < 2 ^ 64) :
    j.late (frameAt frames.length payload) = false ∧
      j.opened (frameAt frames.length payload) = UInt64.ofNat (gone + 1) ∧
      j.stored (frameAt frames.length payload) = (media (frames ++ [payload])).drop gone ∧
      (get? AudioPacket.key (frameAt frames.length payload).key j.packets).isNone = true := by
  have number : (frameAt frames.length payload).sequence.toNat = frames.length + 1 :=
    frameAt_toNat short
  have least : (UInt64.ofNat (gone + 1)).toNat = gone + 1 :=
    UInt64.toNat_ofNat_of_lt' (show gone + 1 < 2 ^ 64 by omega)
  have ordered : UInt64.ofNat (gone + 1) ≤ (frameAt frames.length payload).sequence := by
    rw [UInt64.le_iff_toNat_le, least, number]
    omega
  have above : ∀ other ∈ j.packets, other.key < (frameAt frames.length payload).key := by
    intro other member
    rw [holds.packets] at member
    have bound := key_le_of_mem (by omega) (List.mem_of_mem_drop member)
    show other.key < (frameAt frames.length payload).sequence.toNat
    omega
  refine ⟨?_, ?_, ?_, ?_⟩
  · unfold JitterBuffer.late
    obtain next | ⟨-, -, next⟩ := holds.next
    · rw [next, Option.any_some, decide_eq_false (UInt64.not_lt.mpr ordered), Bool.and_false]
    · rw [next, Option.any_none, Bool.and_false]
  · unfold JitterBuffer.opened
    obtain next | ⟨none, zero, next⟩ := holds.next
    · rw [next]
      split
      · rfl
      · exact if_pos ordered
    · rw [next, none, zero]
      split <;> rfl
  · unfold JitterBuffer.stored
    rw [put_of_above above, holds.packets, media_concat,
      List.drop_append_of_le_length (by rw [length_media]; exact behind)]
  · rw [Option.isNone_iff_eq_none]
    refine List.find?_eq_none.mpr fun other member same => ?_
    have below := above other member
    simp only [decide_eq_true_eq] at same
    omega

/-- The next frame is put behind those that are held. -/
theorem Holds.push (holds : Holds targetMs frames gone j) (behind : gone ≤ frames.length)
    (short : frames.length + 1 < 2 ^ 64)
    (fits : frames.length + 1 - gone ≤ (JitterBuffer.new targetMs).maxPackets) :
    (j.push (frameAt frames.length payload)).1 = true ∧
      Holds targetMs (frames ++ [payload]) gone (j.push (frameAt frames.length payload)).2 := by
  obtain ⟨inTime, opened, stored, absent⟩ := @Holds.stored frames payload _ _ _ holds behind short
  have room : (j.stored (frameAt frames.length payload)).length ≤ j.maxPackets := by
    rw [stored, holds.room, List.length_drop, length_media, List.length_append,
      List.length_singleton]
    exact fits
  rw [JitterBuffer.push_stored inTime, Nat.sub_eq_zero_of_le room, if_pos room, opened]
  exact ⟨absent, holds.target, holds.room, stored, .inl rfl⟩

/-- Where the buffer is full the first frame that is held goes. -/
theorem Holds.evicts (holds : Holds targetMs frames gone j)
    (short : frames.length + 1 < 2 ^ 64)
    (full : frames.length = gone + (JitterBuffer.new targetMs).maxPackets) :
    (j.push (frameAt frames.length payload)).1 = true ∧
      Holds targetMs (frames ++ [payload]) (gone + 1)
        (j.push (frameAt frames.length payload)).2 := by
  have positive : 0 < (JitterBuffer.new targetMs).maxPackets :=
    (JitterBuffer.Inv.new targetMs).positive.1
  obtain ⟨inTime, -, stored, absent⟩ :=
    @Holds.stored frames payload _ _ _ holds (by omega) short
  have length : (j.stored (frameAt frames.length payload)).length = j.maxPackets + 1 := by
    rw [stored, holds.room, List.length_drop, length_media, List.length_append,
      List.length_singleton]
    omega
  have first : ((media (frames ++ [payload])).drop (gone + 1)).head?.map (·.sequence) =
      some (UInt64.ofNat (gone + 1 + 1)) := by
    have inside : gone + 1 < (frames ++ [payload]).length := by
      rw [List.length_append, List.length_singleton]
      omega
    unfold media
    rw [List.head?_drop, List.getElem?_mapIdx, List.getElem?_eq_getElem inside]
    rfl
  rw [JitterBuffer.push_stored inTime, length, if_neg (by omega), Nat.add_sub_cancel_left, stored,
    List.drop_drop, first]
  exact ⟨absent, holds.target, holds.room, rfl, .inl rfl⟩

/-- The highest packet that is held. -/
theorem Holds.highest (holds : Holds targetMs frames gone j) (short : frames.length < 2 ^ 64)
    (held : gone < frames.length) :
    ∃ highest, j.span = some (UInt64.ofNat (gone + 1), highest) ∧
      JitterBuffer.bufferedTimeline highest (UInt64.ofNat (gone + 1)) =
        frames.length - gone := by
  have inside : (media frames).length - 1 < (media frames).length := by
    rw [length_media]
    omega
  have last : j.packets.getLast? = some (media frames)[(media frames).length - 1] := by
    rw [holds.packets, List.getLast?_drop, if_neg (by rw [length_media]; omega),
      List.getLast?_eq_getElem?, List.getElem?_eq_getElem inside]
  have next : j.nextSequence = some (UInt64.ofNat (gone + 1)) := by
    obtain next | ⟨none, -⟩ := holds.next
    · exact next
    · simp [none] at held
  have number : ((media frames)[(media frames).length - 1]).sequence.toNat =
      (media frames).length - 1 + 1 := media_key short inside
  refine ⟨((media frames)[(media frames).length - 1]).sequence, ?_, ?_⟩
  · unfold JitterBuffer.span
    rw [next, last]
  · unfold JitterBuffer.bufferedTimeline
    rw [number, UInt64.toNat_ofNat_of_lt' (show gone + 1 < 2 ^ 64 by omega), length_media]
    omega

/-- Short of the target no slot is ready. -/
theorem Holds.waits (holds : Holds targetMs frames gone j) (inv : j.Inv)
    (short : frames.length < 2 ^ 64)
    (few : frames.length - gone < (JitterBuffer.new targetMs).targetPackets) :
    j.popReady = (none, j) := by
  refine JitterBuffer.popReady_none inv (.inr ?_)
  unfold JitterBuffer.ready
  by_cases held : gone < frames.length
  · obtain ⟨highest, span, timeline⟩ := holds.highest short held
    rw [span, Option.any_some, timeline, holds.target]
    exact decide_eq_false (Nat.not_le.mpr few)
  · have empty : j.packets = [] := by
      rw [holds.packets]
      exact List.drop_eq_nil_of_le (by rw [length_media]; omega)
    unfold JitterBuffer.span
    rw [empty]
    cases j.nextSequence <;> rfl

/-- At the target the first frame that is held is played. -/
theorem Holds.plays {r : JitterRun} (holds : Holds targetMs frames gone r.buffer)
    (short : frames.length < 2 ^ 64) (held : gone < frames.length)
    (enough : frames.length - gone = (JitterBuffer.new targetMs).targetPackets) :
    ∃ packet, (media frames)[gone]? = some packet ∧
      r.buffer.popReady.1 = some (some packet) ∧
      (JitterRun.calls.reach r [.popReady]).log =
        .slot packet.sequence (some packet) :: r.log ∧
      Holds targetMs frames (gone + 1) (JitterRun.calls.reach r [.popReady]).buffer := by
  obtain ⟨highest, span, timeline⟩ := holds.highest short held
  have exact : r.buffer.overflows = false := by
    unfold JitterBuffer.overflows
    rw [span, Option.any_some, timeline]
    exact decide_eq_false (by omega)
  have ready : r.buffer.ready = true := by
    unfold JitterBuffer.ready
    rw [span, Option.any_some, timeline, holds.target, enough]
    exact decide_eq_true (Nat.le_refl _)
  obtain ⟨number, set, popped, fields⟩ := JitterRun.popped_slot exact ready
  obtain ⟨other, same, returned⟩ := JitterBuffer.popReady_ready exact ready
  rw [set, Option.some.injEq] at same
  subst same
  have next : number = UInt64.ofNat (gone + 1) := by
    obtain next | ⟨none, -⟩ := holds.next
    · exact Option.some.inj (set.symm.trans next)
    · simp [none] at held
  have inside : gone < (media frames).length := by
    rw [length_media]
    exact held
  have key : ((media frames)[gone]).key = number.toNat := by
    rw [media_key short inside, next,
      UInt64.toNat_ofNat_of_lt' (show gone + 1 < 2 ^ 64 by omega)]
  have split : r.buffer.packets = (media frames)[gone] :: (media frames).drop (gone + 1) := by
    rw [holds.packets, List.drop_eq_getElem_cons inside]
  have found : get? AudioPacket.key number.toNat r.buffer.packets = some (media frames)[gone] := by
    rw [split]
    exact List.find?_cons_of_pos (decide_eq_true key)
  have rest : remove AudioPacket.key number.toNat r.buffer.packets =
      (media frames).drop (gone + 1) := by
    have ascends := (media_ascends short).sublist (List.drop_sublist gone (media frames))
    rw [List.drop_eq_getElem_cons inside] at ascends
    have later := (List.pairwise_cons.mp ascends).1
    rw [split]
    unfold remove
    rw [List.filter_cons_of_neg (by simp [key]), List.filter_eq_self]
    intro other member
    have behind := later other member
    rw [key] at behind
    simp only [ne_eq, decide_eq_true_eq]
    omega
  refine ⟨(media frames)[gone], List.getElem?_eq_getElem inside, ?_, ?_, ?_⟩
  · rw [returned, found]
  · show r.popped ++ r.log = _
    rw [popped, found]
    have own : number = ((media frames)[gone]).sequence := UInt64.toNat_inj.mp key.symm
    rw [own]
    rfl
  · show Holds targetMs frames (gone + 1) r.buffer.popReady.2
    rw [fields]
    refine ⟨holds.target, holds.room, rest, .inl ?_⟩
    show some (number + 1) = _
    rw [next, UInt64.ofNat_add (gone + 1) 1]
    rfl

/-! ## The loops -/

variable {s : AudioStream} {datagram : List UInt8}

/-- The stream when a packet was captured and taken, with what is in the buffer then. -/
def taken (s : AudioStream) (packet : AudioPacket) (jitter : JitterRun) : AudioStream :=
  { s with
    sealed := s.sealed ++ [packet]
    sequence := s.sequence + 1
    timestamp := s.timestamp + samplesPerChannel
    jitter
    stats := { s.stats with authenticatedPackets := s.stats.authenticatedPackets + 1 } }

/-- The stream when every frame so far was relayed. -/
structure Relayed (targetMs : UInt32) (frames : List (List UInt8)) (gone : Nat)
    (s : AudioStream) : Prop where
  sending : s.sending = true
  sequence : s.sequence = UInt64.ofNat (frames.length + 1)
  timestamp : s.timestamp = UInt32.ofNat frames.length * samplesPerChannel
  sealed : s.sealed = media frames
  inv : s.jitter.buffer.Inv
  holds : Holds targetMs frames gone s.jitter.buffer
  stats : s.stats = { authenticatedPackets := frames.length }

theorem play_waits {frames : Nat} (none : s.jitter.buffer.popReady.1 = none) :
    play frames s = s := by
  cases frames with
  | zero => rfl
  | succ frames =>
    unfold play
    rw [none]

theorem capture_ok (sealed : cipher.sealPacket aead
    { sequence := s.sequence, sampleTimestamp := s.timestamp, flags := 0, payload } =
      .ok datagram) :
    s.capture aead cipher payload false = { s with
      sealed := s.sealed ++
        [{ sequence := s.sequence, sampleTimestamp := s.timestamp, flags := 0, payload }]
      sequence := s.sequence + 1
      timestamp := s.timestamp + samplesPerChannel } := by
  unfold capture
  dsimp only
  rw [sealed]
  rfl

theorem play_plays {frames : Nat} {content : Option AudioPacket}
    (returned : s.jitter.buffer.popReady.1 = some content) :
    play (frames + 1) s = play frames { s with
      jitter := JitterRun.calls.reach s.jitter [.popReady]
      stats := { s.stats with
        concealedPackets := s.stats.concealedPackets + if content.isNone then 1 else 0 } } := by
  simp only [play, returned]

/-- What is behind the datagram of a frame: the buffer with it, and one slot at the target. -/
theorem play_relayed (inv : s.jitter.buffer.Inv)
    (holds : Holds targetMs (frames ++ [payload])
      (frames.length + 1 - (JitterBuffer.new targetMs).targetPackets) s.jitter.buffer)
    (short : frames.length + 1 < 2 ^ 64)
    (log : s.jitter.log = slots ((media frames).take
      (frames.length + 1 - (JitterBuffer.new targetMs).targetPackets))) :
    ∃ jitter, play maxPlayoutFramesPerDatagram s = { s with jitter } ∧ jitter.buffer.Inv ∧
      Holds targetMs (frames ++ [payload])
        (frames.length + 2 - (JitterBuffer.new targetMs).targetPackets) jitter.buffer ∧
      jitter.log = slots ((media (frames ++ [payload])).take
        (frames.length + 2 - (JitterBuffer.new targetMs).targetPackets)) := by
  have positive : 0 < (JitterBuffer.new targetMs).targetPackets :=
    (JitterBuffer.Inv.new targetMs).positive.2
  have length : (frames ++ [payload]).length = frames.length + 1 := by simp
  obtain few | full := Nat.lt_or_ge (frames.length + 1) (JitterBuffer.new targetMs).targetPackets
  · have before : frames.length + 1 - (JitterBuffer.new targetMs).targetPackets = 0 := by omega
    have after : frames.length + 2 - (JitterBuffer.new targetMs).targetPackets = 0 := by omega
    rw [before] at holds log
    rw [after]
    have waits := holds.waits inv (by omega) (by omega)
    exact ⟨s.jitter, play_waits (by rw [waits]), inv, holds, log⟩
  · have next : frames.length + 2 - (JitterBuffer.new targetMs).targetPackets =
        frames.length + 1 - (JitterBuffer.new targetMs).targetPackets + 1 := by omega
    obtain ⟨packet, found, returned, entry, held⟩ :=
      holds.plays (by omega) (by omega) (by omega)
    have inv' : (JitterRun.calls.reach s.jitter [.popReady]).buffer.Inv := inv.popReady
    have waits := held.waits inv' (by omega) (by omega)
    refine ⟨JitterRun.calls.reach s.jitter [.popReady], ?_, inv', next ▸ held, ?_⟩
    · show play (7 + 1) s = _
      rw [play_plays returned, play_waits (by rw [waits])]
      rfl
    · have earlier : frames.length + 1 - (JitterBuffer.new targetMs).targetPackets ≤
          (media frames).length := by
        rw [length_media]
        omega
      rw [entry, log, next, List.take_add_one, found, media_concat,
        List.take_append_of_le_length earlier]
      unfold slots
      rw [List.map_append, List.reverse_append]
      rfl

/-- A frame whose datagram is taken: what is behind it is played. -/
theorem Relayed.relay_eq (relayed : Relayed targetMs frames gone s)
    (sealed : cipher.sealPacket aead (frameAt frames.length payload) = .ok datagram)
    (opened : cipher.openDatagram aead datagram = .ok (frameAt frames.length payload))
    (pushed : (s.jitter.buffer.push (frameAt frames.length payload)).1 = true) :
    AudioStream.relay aead cipher s payload = play maxPlayoutFramesPerDatagram
      (s.taken (frameAt frames.length payload)
        (JitterRun.calls.reach s.jitter [.push (frameAt frames.length payload)])) := by
  have packet : ({ sequence := s.sequence, sampleTimestamp := s.timestamp, flags := 0, payload } :
      AudioPacket) = frameAt frames.length payload := by
    rw [relayed.sequence, relayed.timestamp]
    rfl
  have wire : datagramOf aead cipher (frameAt frames.length payload) = datagram := by
    unfold datagramOf
    rw [sealed]
    rfl
  have unflagged : (frameAt frames.length payload).flags &&& flagProbe = 0 := by
    show (0 : UInt8) &&& flagProbe = 0
    decide
  unfold AudioStream.relay
  rw [packet, wire, capture_ok (by rw [packet]; exact sealed), packet]
  unfold receive
  rw [opened]
  dsimp only
  rw [if_pos unflagged, if_pos pushed]
  rfl

/-- The stream after a frame was relayed. -/
theorem Relayed.next (relayed : Relayed targetMs frames gone s) {gone' : Nat} {jitter : JitterRun}
    (inv : jitter.buffer.Inv) (holds : Holds targetMs (frames ++ [payload]) gone' jitter.buffer) :
    Relayed targetMs (frames ++ [payload]) gone'
      (s.taken (frameAt frames.length payload) jitter) := by
  have length : (frames ++ [payload]).length = frames.length + 1 := by simp
  refine ⟨relayed.sending, ?_, ?_, ?_, inv, holds, ?_⟩
  · show s.sequence + 1 = _
    rw [relayed.sequence, length, UInt64.ofNat_add (frames.length + 1) 1]
    rfl
  · show s.timestamp + samplesPerChannel = _
    rw [relayed.timestamp, length, UInt32.ofNat_add _ 1, UInt32.add_mul]
    exact congrArg _ (UInt32.one_mul _).symm
  · show s.sealed ++ [frameAt frames.length payload] = _
    rw [relayed.sealed, media_concat]
  · show ({ s.stats with authenticatedPackets := s.stats.authenticatedPackets + 1 } :
      PlaybackStats) = _
    rw [relayed.stats, length]

theorem relay_run (sending : s.sending = true) :
    (machine aead cipher).Run anyAction s (AudioStream.relay aead cipher s payload) :=
  .head (a := .capture payload false) trivial (if_pos sending)
    (.head (a := .receive _) trivial rfl .refl)

theorem Relayed.start (targetMs : UInt32) : Relayed targetMs [] 0 (AudioStream.start targetMs) :=
  ⟨rfl, show (1 : UInt64) = UInt64.ofNat 1 by decide,
    show (0 : UInt32) = UInt32.ofNat 0 * samplesPerChannel by decide, rfl, .new targetMs,
    ⟨rfl, rfl, rfl, .inr ⟨rfl, rfl, rfl⟩⟩, rfl⟩

/-! ## Below the room and above -/

/-- The stream plays the first frame that is held at every datagram from the target on. -/
structure InStep (targetMs : UInt32) (frames : List (List UInt8)) (s : AudioStream) : Prop where
  relayed : Relayed targetMs frames
    (frames.length + 1 - (JitterBuffer.new targetMs).targetPackets) s
  log : s.jitter.log = slots ((media frames).take
    (frames.length + 1 - (JitterBuffer.new targetMs).targetPackets))

/-- The stream plays nothing. -/
structure Starved (targetMs : UInt32) (frames : List (List UInt8)) (s : AudioStream) : Prop where
  relayed : Relayed targetMs frames
    (frames.length - (JitterBuffer.new targetMs).maxPackets) s
  silent : ∀ number content, .slot number content ∉ s.jitter.log

theorem target_le : (JitterBuffer.new targetMs).targetPackets ≤
    (JitterBuffer.new targetMs).maxPackets ↔ targetMs.toNat < 485 := by
  show max (max targetMs.toNat frameMs / frameMs) 1 ≤
    min (max (max (max targetMs.toNat frameMs / frameMs) 1 * 3) 24) 96 ↔ _
  unfold frameMs
  omega

theorem InStep.relay (inStep : InStep targetMs frames s) (short : frames.length + 1 < 2 ^ 64)
    (near : (JitterBuffer.new targetMs).targetPackets ≤ (JitterBuffer.new targetMs).maxPackets)
    (sealed : cipher.sealPacket aead (frameAt frames.length payload) = .ok datagram)
    (opened : cipher.openDatagram aead datagram = .ok (frameAt frames.length payload)) :
    InStep targetMs (frames ++ [payload]) (AudioStream.relay aead cipher s payload) := by
  have positive : 0 < (JitterBuffer.new targetMs).targetPackets :=
    (JitterBuffer.Inv.new targetMs).positive.2
  have length : (frames ++ [payload]).length = frames.length + 1 := by simp
  obtain ⟨-, -, stored, -⟩ :=
    @Holds.stored frames payload _ _ _ inStep.relayed.holds (by omega) short
  obtain ⟨pushed, holds⟩ := @Holds.push frames payload _ _ _ inStep.relayed.holds (by omega) short
    (by omega)
  have leaving : s.jitter.leaving (frameAt frames.length payload) = [] := by
    unfold JitterRun.leaving
    dsimp only
    split
    · rfl
    · rw [show put AudioPacket.key (frameAt frames.length payload) s.jitter.buffer.packets = _
        from stored, Nat.sub_eq_zero_of_le, List.take_zero]
      rw [inStep.relayed.holds.room, List.length_drop, length_media, length]
      omega
  have log : (JitterRun.calls.reach s.jitter [.push (frameAt frames.length payload)]).log =
      s.jitter.log := by
    show ((s.jitter.leaving _).map JitterEntry.evicted).reverse ++ s.jitter.log = _
    rw [leaving]
    rfl
  rw [inStep.relayed.relay_eq sealed opened pushed]
  obtain ⟨jitter, plays, inv, holds', log'⟩ := @play_relayed frames payload targetMs
    (s.taken (frameAt frames.length payload)
      (JitterRun.calls.reach s.jitter [.push (frameAt frames.length payload)]))
    inStep.relayed.inv.push holds short (log.trans inStep.log)
  rw [plays]
  refine ⟨?_, ?_⟩
  · rw [length]
    exact inStep.relayed.next inv holds'
  · rw [length]
    exact log'

theorem Starved.relay (starved : Starved targetMs frames s) (short : frames.length + 1 < 2 ^ 64)
    (far : (JitterBuffer.new targetMs).maxPackets < (JitterBuffer.new targetMs).targetPackets)
    (sealed : cipher.sealPacket aead (frameAt frames.length payload) = .ok datagram)
    (opened : cipher.openDatagram aead datagram = .ok (frameAt frames.length payload)) :
    Starved targetMs (frames ++ [payload]) (AudioStream.relay aead cipher s payload) := by
  have length : (frames ++ [payload]).length = frames.length + 1 := by simp
  obtain ⟨pushed, holds⟩ : (s.jitter.buffer.push (frameAt frames.length payload)).1 = true ∧
      Holds targetMs (frames ++ [payload])
        (frames.length + 1 - (JitterBuffer.new targetMs).maxPackets)
        (s.jitter.buffer.push (frameAt frames.length payload)).2 := by
    by_cases full : (JitterBuffer.new targetMs).maxPackets ≤ frames.length
    · have next : frames.length + 1 - (JitterBuffer.new targetMs).maxPackets =
          frames.length - (JitterBuffer.new targetMs).maxPackets + 1 := by omega
      rw [next]
      exact starved.relayed.holds.evicts short (by omega)
    · have same : frames.length + 1 - (JitterBuffer.new targetMs).maxPackets =
          frames.length - (JitterBuffer.new targetMs).maxPackets := by omega
      rw [same]
      exact starved.relayed.holds.push (by omega) short (by omega)
  have inv : (JitterRun.calls.reach s.jitter
    [.push (frameAt frames.length payload)]).buffer.Inv := starved.relayed.inv.push
  have waits := Holds.waits holds inv (by omega) (by omega)
  rw [starved.relayed.relay_eq sealed opened pushed, play_waits (congrArg Prod.fst waits)]
  refine ⟨?_, fun number content member => ?_⟩
  · rw [length]
    exact starved.relayed.next inv holds
  · exact starved.silent number content (slot_mem_evictions.mp member)

/-- What relaying the frames one by one preserves and where it starts. -/
theorem relay_frames {P : List (List UInt8) → AudioStream → Prop}
    (start : P [] (AudioStream.start targetMs))
    (sends : ∀ frames s, P frames s → s.sending = true)
    (relay : ∀ frames payload s datagram, frames.length + 1 < 2 ^ 64 →
      cipher.sealPacket aead (frameAt frames.length payload) = .ok datagram →
      cipher.openDatagram aead datagram = .ok (frameAt frames.length payload) → P frames s →
        P (frames ++ [payload]) (AudioStream.relay aead cipher s payload)) :
    ∀ frames : List (List UInt8), frames.length + 1 < 2 ^ 64 →
    (∀ packet ∈ media frames, ∃ datagram, cipher.sealPacket aead packet = .ok datagram ∧
      cipher.openDatagram aead datagram = .ok packet) →
    P frames (frames.foldl (AudioStream.relay aead cipher) (AudioStream.start targetMs)) ∧
      (machine aead cipher).Run anyAction (AudioStream.start targetMs)
        (frames.foldl (AudioStream.relay aead cipher) (AudioStream.start targetMs)) := by
  intro frames
  induction frames using List.reverseRecOn with
  | nil => exact fun _ _ => ⟨start, .refl⟩
  | append_singleton frames payload ih =>
    intro short heard
    rw [List.length_append, List.length_singleton] at short
    rw [media_concat] at heard
    obtain ⟨holds, run⟩ := ih (by omega) fun packet member =>
      heard packet (List.mem_append_left _ member)
    obtain ⟨datagram, sealed, opened⟩ := heard _ (List.mem_append_right _ List.mem_cons_self)
    rw [List.foldl_append]
    exact ⟨relay frames payload _ datagram (by omega) sealed opened holds,
      run.trans (relay_run (sends frames _ holds))⟩

theorem InStep.start (targetMs : UInt32) : InStep targetMs [] (AudioStream.start targetMs) := by
  have positive : 0 < (JitterBuffer.new targetMs).targetPackets :=
    (JitterBuffer.Inv.new targetMs).positive.2
  have none : ([] : List (List UInt8)).length + 1 -
      (JitterBuffer.new targetMs).targetPackets = 0 := by
    rw [List.length_nil]
    omega
  refine ⟨?_, ?_⟩
  · rw [none]
    exact .start targetMs
  · rw [none]
    rfl

theorem Starved.start (targetMs : UInt32) : Starved targetMs [] (AudioStream.start targetMs) := by
  have none : ([] : List (List UInt8)).length - (JitterBuffer.new targetMs).maxPackets = 0 :=
    Nat.zero_sub _
  refine ⟨?_, fun number content member => absurd member List.not_mem_nil⟩
  rw [none]
  exact .start targetMs

/-- Without losses every frame is played in its slot but those that are held for the target, and
    nothing is late, rejected or concealed. A target that the buffer has no room for is never
    reached, and nothing is played. -/
theorem stream_plays_all
    (ideal : aead.Ideal (queries (sealings cipher (media frames))))
    (fits : ∀ payload ∈ frames, headerLen + payload.length + 16 ≤ maxDatagramBytes)
    (short : frames.length + 1 < 2 ^ 64) :
    let s := frames.foldl (relay aead cipher) (AudioStream.start targetMs)
    let played := frames.length + 1 - (JitterBuffer.new targetMs).targetPackets
    (machine aead cipher).Run anyAction (AudioStream.start targetMs) s ∧
      s.sealed = media frames ∧ s.stats = { authenticatedPackets := frames.length } ∧
      (targetMs.toNat < 485 →
        s.jitter.log = slots ((media frames).take played) ∧
        s.jitter.buffer.packets = (media frames).drop played) ∧
      (485 ≤ targetMs.toNat → ∀ number content, .slot number content ∉ s.jitter.log) := by
  have heard : ∀ packet ∈ media frames, ∃ datagram, cipher.sealPacket aead packet = .ok datagram ∧
      cipher.openDatagram aead datagram = .ok packet := by
    intro packet member
    obtain ⟨place, inside, rfl⟩ := List.mem_mapIdx.mp member
    obtain ⟨datagram, sealed⟩ := (@seal_fits aead _ cipher (frameAt place frames[place]) ideal).mpr
      (fits frames[place] (List.getElem_mem inside))
    exact ⟨datagram, sealed, open_sealed ideal
      (List.mem_map.mpr ⟨_, .tail _ (.tail _ member), rfl⟩) sealed⟩
  by_cases near : targetMs.toNat < 485
  · obtain ⟨inStep, run⟩ := relay_frames (.start targetMs) (fun _ _ kept => kept.relayed.sending)
      (fun _ _ _ _ short sealed opened kept =>
        InStep.relay kept short (target_le.mpr near) sealed opened) frames short heard
    exact ⟨run, inStep.relayed.sealed, inStep.relayed.stats,
      fun _ => ⟨inStep.log, inStep.relayed.holds.packets⟩,
      fun far => absurd near (Nat.not_lt.mpr far)⟩
  · obtain ⟨starved, run⟩ := relay_frames (.start targetMs)
      (fun _ _ kept => kept.relayed.sending)
      (fun _ _ _ _ short sealed opened kept => Starved.relay kept short
        (Nat.not_le.mp fun fits => near (target_le.mp fits)) sealed opened) frames short heard
    exact ⟨run, starved.relayed.sealed, starved.relayed.stats, fun fits => absurd fits near,
      fun _ => starved.silent⟩

theorem stream_plays_all_two :
    ([[1, 2, 3], [4, 5, 6]].foldl (relay (tableAead sampleTable) sampleSecrets)
      (AudioStream.start 10)).jitter.log = [.slot 1 (some (frameAt 0 [1, 2, 3]))] := by
  have plays := @stream_plays_all (tableAead sampleTable) sampleSecrets [[1, 2, 3], [4, 5, 6]] 10
    sampleTable_ideal (by decide) (by decide)
  exact (plays.2.2.2.1 (by decide)).1

end AudioStream

end EdgeKvm.Audio
