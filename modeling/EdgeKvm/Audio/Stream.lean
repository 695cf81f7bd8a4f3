import EdgeKvm.Audio.JitterBuffer
import EdgeKvm.Audio.LossReporter
import EdgeKvm.Audio.Packet
import Mathlib.Data.List.Infix

/-!
# A stream of audio

The loops of `LinuxAudioSender` and `LinuxAudioReceiver`, or of their Windows counterparts, over a
network that may lose, repeat, reorder and change datagrams. The receiver plays what the sender
captured, in the order it was captured in.
-/

namespace EdgeKvm.Audio

open EdgeKvm.Lib Machine

/-! ## The loops -/

/-- `FLAG_PROBE` -/
def flagProbe : UInt8 := 1

/-- `SAMPLES_PER_CHANNEL` -/
def samplesPerChannel : UInt32 := 240

/-- `MAX_PLAYOUT_FRAMES_PER_DATAGRAM` -/
def maxPlayoutFramesPerDatagram : Nat := 8

/-- The two loops. `sealed` is every packet that the sender sealed, `jitter` the receiver's buffer
    with what it gave to the decoder. -/
structure AudioStream where
  sequence : UInt64 := 1
  timestamp : UInt32 := 0
  sending : Bool := true
  sealed : List AudioPacket := []
  jitter : JitterRun
  stats : PlaybackStats := {}
  deriving DecidableEq, Repr

/-- A frame is read from the capture and sealed, and sent unless that `fails`; or a datagram comes,
    wherever it is from. -/
inductive StreamAction where
  | capture (payload : List UInt8) (fails : Bool)
  | receive (datagram : List UInt8)
  deriving DecidableEq, Repr

namespace AudioStream

def start (targetMs : UInt32) : AudioStream where
  jitter := { buffer := .new targetMs }

/-- The probe that the receiver seals, and the one of `establish_peer`. -/
def probe (sequence : UInt64) : AudioPacket where
  sequence
  sampleTimestamp := 0
  flags := flagProbe
  payload := []

variable (aead : AeadCipher) (cipher : PacketCipher)

/-- One turn of the loop of the sender, which ends when it cannot seal or send. -/
def capture (s : AudioStream) (payload : List UInt8) (fails : Bool) : AudioStream :=
  let packet : AudioPacket :=
    { sequence := s.sequence, sampleTimestamp := s.timestamp, flags := 0, payload }
  let s := { s with sealed := s.sealed ++ [packet] }
  match cipher.sealPacket aead packet with
  | .error _ => { s with sending := false }
  | .ok _ =>
    if fails then { s with sending := false }
    else { s with sequence := s.sequence + 1, timestamp := s.timestamp + samplesPerChannel }

/-- The slots that are played behind a datagram, at most as many as given. -/
def play : Nat → AudioStream → AudioStream
  | 0, s => s
  | frames + 1, s =>
    match s.jitter.buffer.popReady.1 with
    | none => s
    | some packet =>
      play frames { s with
        jitter := JitterRun.calls.reach s.jitter [.popReady]
        stats := { s.stats with
          concealedPackets := s.stats.concealedPackets + if packet.isNone then 1 else 0 } }

/-- The receiver takes a datagram. -/
def receive (s : AudioStream) (datagram : List UInt8) : AudioStream :=
  match cipher.openDatagram aead datagram with
  | .error _ => { s with stats := { s.stats with
      rejectedPackets := s.stats.rejectedPackets + 1 } }
  | .ok packet =>
    if packet.flags &&& flagProbe = 0 then
      let pushed := { s with
        jitter := JitterRun.calls.reach s.jitter [.push packet]
        stats := { s.stats with
          authenticatedPackets := s.stats.authenticatedPackets + 1 } }
      if (s.jitter.buffer.push packet).1 then play maxPlayoutFramesPerDatagram pushed
      else { pushed with stats := { pushed.stats with
        latePackets := pushed.stats.latePackets + 1 } }
    else s

def machine : Machine AudioStream StreamAction where
  exec s
    | .capture payload fails =>
      if s.sending then some (s.capture aead cipher payload fails) else none
    | .receive datagram => some (s.receive aead cipher datagram)

/-- Every packet that a session seals for a stream. -/
def sealings (sealed : List AudioPacket) : List (PacketCipher × AudioPacket) :=
  (probe 0 :: probe (UInt64.ofNat (2 ^ 64 - 1)) :: sealed).map (cipher, ·)

/-! ## The sender -/

/-- The packet of the frame that was captured at this place. -/
def frameAt (place : Nat) (payload : List UInt8) : AudioPacket where
  sequence := UInt64.ofNat (place + 1)
  sampleTimestamp := UInt32.ofNat place * samplesPerChannel
  flags := 0
  payload

/-- The packets are numbered as they were captured. -/
structure Numbered (s : AudioStream) : Prop where
  sealed : ∀ place packet, s.sealed[place]? = some packet → packet = frameAt place packet.payload
  next : s.sending = true → s.sequence = UInt64.ofNat (s.sealed.length + 1) ∧
    s.timestamp = UInt32.ofNat s.sealed.length * samplesPerChannel

variable {aead cipher} {s t : AudioStream} {payload : List UInt8} {fails : Bool}

theorem capture_sealed : (s.capture aead cipher payload fails).sealed = s.sealed ++
    [{ sequence := s.sequence, sampleTimestamp := s.timestamp, flags := 0, payload }] := by
  unfold capture
  dsimp only
  split
  · rfl
  · cases fails <;> rfl

theorem capture_sending (sending : (s.capture aead cipher payload fails).sending = true) :
    (s.capture aead cipher payload fails).sequence = s.sequence + 1 ∧
      (s.capture aead cipher payload fails).timestamp = s.timestamp + samplesPerChannel := by
  unfold capture at sending ⊢
  dsimp only at sending ⊢
  split at sending
  · cases sending
  · cases fails
    · exact ⟨rfl, rfl⟩
    · cases sending

theorem capture_jitter : (s.capture aead cipher payload fails).jitter = s.jitter ∧
    (s.capture aead cipher payload fails).stats = s.stats := by
  unfold capture
  dsimp only
  split
  · exact ⟨rfl, rfl⟩
  · cases fails <;> exact ⟨rfl, rfl⟩

theorem Numbered.start (targetMs : UInt32) : (AudioStream.start targetMs).Numbered where
  sealed _ _ found := by cases found
  next _ := ⟨show (1 : UInt64) = UInt64.ofNat 1 by decide,
    show (0 : UInt32) = UInt32.ofNat 0 * samplesPerChannel by decide⟩

theorem Numbered.capture (numbered : s.Numbered) (sending : s.sending = true) :
    (s.capture aead cipher payload fails).Numbered := by
  obtain ⟨sequence, timestamp⟩ := numbered.next sending
  refine ⟨fun place packet found => ?_, fun sending' => ?_⟩
  · rw [capture_sealed] at found
    by_cases earlier : place < s.sealed.length
    · rw [List.getElem?_append_left earlier] at found
      exact numbered.sealed place packet found
    · have last : place = s.sealed.length := by
        obtain ⟨inside, -⟩ := List.getElem?_eq_some_iff.mp found
        rw [List.length_append, List.length_singleton] at inside
        omega
      subst last
      rw [List.getElem?_concat_length, Option.some.injEq] at found
      rw [← found, sequence, timestamp]
      rfl
  · obtain ⟨nextSequence, nextTimestamp⟩ := capture_sending sending'
    rw [nextSequence, nextTimestamp, capture_sealed, List.length_append, List.length_singleton,
      sequence, timestamp, UInt64.ofNat_add (s.sealed.length + 1) 1, UInt32.ofNat_add _ 1,
      UInt32.add_mul]
    exact ⟨rfl, congrArg _ (UInt32.one_mul _).symm⟩

theorem frameAt_toNat {place : Nat} (short : place + 1 < 2 ^ 64) :
    (frameAt place payload).sequence.toNat = place + 1 :=
  UInt64.toNat_ofNat_of_lt' short

/-! ## The receiver -/

/-- Every packet in the buffer and every one that was played is `genuine`, and the last number of
    all is not reached. -/
structure Plays (genuine : AudioPacket → Prop) (j : JitterRun) : Prop where
  inv : j.Inv
  buffered : ∀ packet ∈ j.buffer.packets, genuine packet
  played : ∀ number packet, .slot number (some packet) ∈ j.log → genuine packet
  below : ∀ number content, .slot number content ∈ j.log → number.toNat < 2 ^ 64 - 1

variable {genuine : AudioPacket → Prop} {j : JitterRun} {packet : AudioPacket}

/-- The next slot and the highest packet, if there are both. -/
theorem span_eq_some {span : UInt64 × UInt64} (found : j.buffer.span = some span) :
    j.buffer.nextSequence = some span.1 ∧
      ∃ highest ∈ j.buffer.packets, highest.sequence = span.2 := by
  unfold JitterBuffer.span at found
  split at found
  · rename_i next highest set last
    cases found
    exact ⟨set, highest, List.mem_of_getLast? last, rfl⟩
  · cases found

theorem Plays.within (plays : Plays genuine j)
    (bounded : ∀ packet, genuine packet → packet.sequence.toNat < 2 ^ 64 - 1) :
    j.within .popReady = true := by
  have exact : j.buffer.overflows = false := by
    unfold JitterBuffer.overflows
    cases found : j.buffer.span with
    | none => rfl
    | some span =>
      obtain ⟨-, highest, member, top⟩ := span_eq_some found
      have bound := bounded highest (plays.buffered highest member)
      rw [top] at bound
      refine decide_eq_false ?_
      unfold JitterBuffer.bufferedTimeline
      omega
  have going : j.ended = false := by
    unfold JitterRun.ended
    rw [List.any_eq_false]
    intro entry member
    cases entry with
    | slot number content =>
      have bound := plays.below number content member
      simp only [decide_eq_true_eq]
      rintro rfl
      exact absurd bound (by decide)
    | evicted | overflowed => simp
  simp [JitterRun.within, exact, going]

theorem exec_call (call : JitterCall) :
    JitterRun.calls.exec j call = some (JitterRun.calls.reach j [call]) :=
  exec_reach (by cases call <;> rfl)

theorem Plays.push (plays : Plays genuine j) (new : genuine packet) :
    Plays genuine (JitterRun.calls.reach j [.push packet]) where
  inv := plays.inv.push (exec_call _)
  buffered other member := by
    have member : other ∈ (j.buffer.push packet).2.packets := member
    cases inTime : j.buffer.late packet with
    | true =>
      rw [JitterBuffer.push_late inTime] at member
      exact plays.buffered other member
    | false =>
      rw [JitterBuffer.push_stored inTime] at member
      obtain rfl | ⟨old, -⟩ := (Ascending.mem_put plays.inv.buffer.ascends).mp
        (List.mem_of_mem_drop member)
      · exact new
      · exact plays.buffered other old
  played number content member := plays.played number content (slot_mem_evictions.mp member)
  below number content member := plays.below number content (slot_mem_evictions.mp member)

/-- What `pop_ready` does: no slot is ready, or the next one is played, which is not behind the
    highest packet. -/
inductive Pops (j j' : JitterRun) : Prop
  | waits (returned : j.buffer.popReady.1 = none) (same : j' = j)
  | plays (number : UInt64) (content : Option AudioPacket) (highest : AudioPacket)
      (returned : j.buffer.popReady.1 = some content)
      (member : highest ∈ j.buffer.packets) (reached : number ≤ highest.sequence)
      (own : ∀ packet ∈ content, packet ∈ j.buffer.packets)
      (fewer : ∀ packet ∈ j'.buffer.packets, packet ∈ j.buffer.packets)
      (log : j'.log = .slot number content :: j.log) (accepted : j'.accepted = j.accepted)

theorem popReady_pops (inv : j.Inv) (exact : j.buffer.overflows = false) :
    Pops j (JitterRun.calls.reach j [.popReady]) := by
  have after : JitterRun.calls.reach j [.popReady] =
    { j with buffer := j.buffer.popReady.2, log := j.popped ++ j.log } := rfl
  rw [after]
  cases ready : j.buffer.ready with
  | false =>
    have nothing := JitterBuffer.popReady_none inv.buffer (.inr ready)
    have silent : j.popped = [] := by
      unfold JitterRun.popped
      rw [exact, nothing]
      rfl
    refine .waits (by rw [nothing]) ?_
    rw [nothing, silent]
    rfl
  | true =>
    obtain ⟨number, set, popped, fields⟩ := JitterRun.popped_slot exact ready
    obtain ⟨other, same, returned⟩ := JitterBuffer.popReady_ready exact ready
    rw [set, Option.some.injEq] at same
    subst same
    obtain ⟨span, found⟩ : ∃ span, j.buffer.span = some span := by
      unfold JitterBuffer.ready at ready
      cases found : j.buffer.span with
      | none => simp [found] at ready
      | some span => exact ⟨span, rfl⟩
    obtain ⟨-, highest, member, -⟩ := span_eq_some found
    rw [fields, popped]
    exact .plays number (Ascending.get? AudioPacket.key number.toNat j.buffer.packets) highest
      (congrArg Prod.fst returned) member (inv.buffer.ahead highest member number set)
      (fun packet found => List.mem_of_find?_eq_some found)
      (fun packet found => (List.mem_filter.mp found).1) rfl rfl

theorem Plays.exact (plays : Plays genuine j)
    (bounded : ∀ packet, genuine packet → packet.sequence.toNat < 2 ^ 64 - 1) :
    j.buffer.overflows = false := by
  have within := plays.within bounded
  unfold JitterRun.within at within
  simp only [Bool.and_eq_true, Bool.not_eq_true'] at within
  exact within.1

theorem Plays.popReady (plays : Plays genuine j)
    (bounded : ∀ packet, genuine packet → packet.sequence.toNat < 2 ^ 64 - 1) :
    Plays genuine (JitterRun.calls.reach j [.popReady]) := by
  have inv := plays.inv.popReady (plays.within bounded) (exec_call _)
  cases popReady_pops plays.inv (plays.exact bounded) with
  | waits returned same => rwa [same]
  | plays number content highest returned member reached own fewer log accepted =>
    refine ⟨inv, fun packet found => plays.buffered packet (fewer packet found), ?_, ?_⟩
    · intro slot packet found
      rw [log] at found
      obtain new | old := List.mem_cons.mp found
      · cases new
        exact plays.buffered packet (own packet rfl)
      · exact plays.played slot packet old
    · intro slot found' found
      rw [log] at found
      obtain new | old := List.mem_cons.mp found
      · cases new
        exact Nat.lt_of_le_of_lt (UInt64.le_iff_toNat_le.mp reached)
          (bounded highest (plays.buffered highest member))
      · exact plays.below slot found' old

/-- The slots of a log that no packet was there for. -/
def gaps (log : List JitterEntry) : Nat :=
  log.countP fun
    | .slot _ none => true
    | _ => false

theorem gaps_evictions {packets : List AudioPacket} {log : List JitterEntry} :
    gaps ((packets.map .evicted).reverse ++ log) = gaps log := by
  have none : (packets.map JitterEntry.evicted).countP (fun
      | .slot _ none => true
      | _ => false) = 0 := by
    rw [List.countP_map]
    exact List.countP_eq_zero.mpr fun _ _ held => by cases held
  unfold gaps
  rw [List.countP_append, List.countP_reverse, none, Nat.zero_add]

/-- Every datagram of the stream is accounted for: pushed or late, and every gap is concealed. -/
structure Counted (s : AudioStream) : Prop where
  pushed : s.stats.authenticatedPackets = s.jitter.accepted.length + s.stats.latePackets
  concealed : s.stats.concealedPackets = gaps s.jitter.log

theorem play_sender : ∀ (frames : Nat) (s : AudioStream), ∃ jitter stats,
    play frames s = { s with jitter, stats } := by
  intro frames
  induction frames with
  | zero => exact fun s => ⟨s.jitter, s.stats, rfl⟩
  | succ frames ih =>
    intro s
    unfold play
    split
    · exact ⟨s.jitter, s.stats, rfl⟩
    · obtain ⟨jitter, stats, same⟩ := ih _
      exact ⟨jitter, stats, same⟩

theorem play_keeps (bounded : ∀ packet, genuine packet → packet.sequence.toNat < 2 ^ 64 - 1) :
    ∀ (frames : Nat) (s : AudioStream), Plays genuine s.jitter → s.Counted →
      Plays genuine (play frames s).jitter ∧ (play frames s).Counted := by
  intro frames
  induction frames with
  | zero => exact fun s plays counted => ⟨plays, counted⟩
  | succ frames ih =>
    intro s plays counted
    unfold play
    split
    · exact ⟨plays, counted⟩
    · rename_i content returned
      refine ih _ (plays.popReady bounded) ?_
      cases popReady_pops plays.inv (plays.exact bounded) with
      | waits none => simp [returned] at none
      | plays number content' highest returned' member reached own fewer log accepted =>
        rw [returned, Option.some.injEq] at returned'
        subst returned'
        refine ⟨?_, ?_⟩
        · simp only [accepted]
          exact counted.pushed
        · simp only [log, counted.concealed, gaps, List.countP_cons]
          cases content <;> rfl

/-! ## The stream -/

/-- The sender's fields, which a datagram leaves alone. -/
theorem receive_sender (s : AudioStream) (datagram : List UInt8) : ∃ jitter stats,
    s.receive aead cipher datagram = { s with jitter, stats } := by
  unfold receive
  split
  · exact ⟨s.jitter, _, rfl⟩
  · split
    · dsimp only
      split
      · obtain ⟨jitter, stats, same⟩ := play_sender maxPlayoutFramesPerDatagram _
        exact ⟨jitter, stats, same⟩
      · exact ⟨_, _, rfl⟩
    · exact ⟨s.jitter, s.stats, rfl⟩

theorem exec_sealed {action : StreamAction}
    (executed : (machine aead cipher).exec s action = some t) : s.sealed <+: t.sealed := by
  cases action with
  | capture payload fails =>
    simp only [machine, Option.ite_none_right_eq_some, Option.some.injEq] at executed
    obtain ⟨-, rfl⟩ := executed
    rw [capture_sealed]
    exact List.prefix_append _ _
  | receive datagram =>
    cases executed
    obtain ⟨jitter, stats, same⟩ : ∃ jitter stats,
      s.receive aead cipher datagram = { s with jitter, stats } := receive_sender s datagram
    rw [same]

theorem exec_numbered {action : StreamAction}
    (executed : (machine aead cipher).exec s action = some t) (numbered : s.Numbered) :
    t.Numbered := by
  cases action with
  | capture payload fails =>
    simp only [machine, Option.ite_none_right_eq_some, Option.some.injEq] at executed
    obtain ⟨sending, rfl⟩ := executed
    exact numbered.capture sending
  | receive datagram =>
    cases executed
    obtain ⟨jitter, stats, same⟩ : ∃ jitter stats,
      s.receive aead cipher datagram = { s with jitter, stats } := receive_sender s datagram
    rw [same]
    exact ⟨numbered.sealed, numbered.next⟩

section Sealed

variable {sealed : List AudioPacket}

/-- A packet of the stream that the receiver takes was sealed by the sender. -/
theorem open_media (ideal : aead.Ideal (queries (sealings cipher sealed)))
    {datagram : List UInt8} (opened : cipher.openDatagram aead datagram = .ok packet)
    (media : packet.flags &&& flagProbe = 0) : packet ∈ sealed := by
  obtain ⟨called, -⟩ := open_produced ideal opened
  obtain ⟨other, member, same⟩ := List.mem_map.mp called
  cases same
  obtain rfl | rest := List.mem_cons.mp member
  · cases media
  · obtain rfl | member := List.mem_cons.mp rest
    · cases media
    · exact member

theorem receive_keeps (ideal : aead.Ideal (queries (sealings cipher sealed)))
    (bounded : ∀ packet ∈ sealed, packet.sequence.toNat < 2 ^ 64 - 1) {datagram : List UInt8}
    (plays : Plays (· ∈ sealed) s.jitter) (counted : s.Counted) :
    Plays (· ∈ sealed) (s.receive aead cipher datagram).jitter ∧
      (s.receive aead cipher datagram).Counted := by
  unfold receive
  split
  · exact ⟨plays, counted.pushed, counted.concealed⟩
  · rename_i packet opened
    split
    · rename_i media
      have pushed := plays.push (open_media ideal opened media)
      have concealed : s.stats.concealedPackets =
          gaps (JitterRun.calls.reach s.jitter [.push packet]).log :=
        counted.concealed.trans gaps_evictions.symm
      have accepted : (JitterRun.calls.reach s.jitter [.push packet]).accepted =
          if (s.jitter.buffer.push packet).1 then packet.sequence :: s.jitter.accepted
          else s.jitter.accepted := rfl
      have before := counted.pushed
      dsimp only
      split
      · rename_i inserted
        refine play_keeps bounded _ _ pushed ⟨?_, concealed⟩
        rw [if_pos inserted] at accepted
        simp only [accepted, List.length_cons]
        omega
      · rename_i refused
        refine ⟨pushed, ?_, concealed⟩
        rw [if_neg refused] at accepted
        simp only [accepted]
        omega
    · exact ⟨plays, counted⟩

theorem exec_keeps (ideal : aead.Ideal (queries (sealings cipher sealed)))
    (bounded : ∀ packet ∈ sealed, packet.sequence.toNat < 2 ^ 64 - 1) {action : StreamAction}
    (executed : (machine aead cipher).exec s action = some t)
    (plays : Plays (· ∈ sealed) s.jitter) (counted : s.Counted) :
    Plays (· ∈ sealed) t.jitter ∧ t.Counted := by
  cases action with
  | capture payload fails =>
    simp only [machine, Option.ite_none_right_eq_some, Option.some.injEq] at executed
    obtain ⟨-, rfl⟩ := executed
    obtain ⟨jitter, stats⟩ := @capture_jitter aead cipher s payload fails
    refine ⟨jitter ▸ plays, ?_, ?_⟩
    · rw [stats, jitter]
      exact counted.pushed
    · rw [stats, jitter]
      exact counted.concealed
  | receive datagram =>
    cases executed
    exact receive_keeps ideal bounded plays counted

theorem start_keeps (genuine : AudioPacket → Prop) (targetMs : UInt32) :
    Plays genuine (AudioStream.start targetMs).jitter ∧ (AudioStream.start targetMs).Counted := by
  refine ⟨⟨.of_started ⟨⟨targetMs, rfl⟩, rfl, rfl⟩, ?_, ?_, ?_⟩, rfl, rfl⟩
  · exact fun _ member => absurd member List.not_mem_nil
  · exact fun _ _ member => absurd member List.not_mem_nil
  · exact fun _ _ member => absurd member List.not_mem_nil

end Sealed

/-- The numbers of the packets that a session seals. -/
theorem Numbered.sequences (numbered : s.Numbered) (short : s.sealed.length + 1 < 2 ^ 64) :
    (sealings cipher s.sealed).map (·.2.sequence.toNat) =
      0 :: (2 ^ 64 - 1) :: List.range' 1 s.sealed.length := by
  have media : s.sealed.map (·.sequence.toNat) = List.range' 1 s.sealed.length := by
    refine List.ext_getElem (by simp) fun place inside _ => ?_
    rw [List.length_map] at inside
    have packet := numbered.sealed place _ (List.getElem?_eq_getElem inside)
    rw [List.getElem_map, packet, frameAt_toNat (by omega), List.getElem_range']
    omega
  unfold sealings
  rw [List.map_map, List.map_cons, List.map_cons]
  exact congrArg (fun rest => 0 :: (2 ^ 64 - 1) :: rest) media

/-- What holds of a stream: the slots are played in order, each is the frame that was captured at
    its place, every datagram and every gap is counted, no nonce is used twice, and a datagram of
    the stream that comes unchanged is taken. -/
structure Faithful (aead : AeadCipher) (cipher : PacketCipher) (s : AudioStream) : Prop where
  ordered : After InTurn s.jitter.log
  captured : ∀ number packet, .slot number (some packet) ∈ s.jitter.log →
    ∃ place, number.toNat = place + 1 ∧ s.sealed[place]? = some packet
  accounted : s.stats.authenticatedPackets = (returnedIn s.jitter.log).length +
    s.jitter.buffer.packets.length + (evictedIn s.jitter.log).length + s.stats.latePackets
  concealed : s.stats.concealedPackets = gaps s.jitter.log
  nonces : ((sealings cipher s.sealed).map fun call => call.1.nonce call.2.sequence).Nodup
  heard : ∀ packet ∈ s.sealed, ∀ datagram, cipher.sealPacket aead packet = .ok datagram →
    cipher.openDatagram aead datagram = .ok packet

/-- A stream is faithful, whatever the network does with its datagrams. -/
theorem stream_plays_captured {targetMs : UInt32}
    (run : (machine aead cipher).Run anyAction (AudioStream.start targetMs) s)
    (ideal : aead.Ideal (queries (sealings cipher s.sealed)))
    (short : s.sealed.length + 1 < 2 ^ 64) : s.Faithful aead cipher := by
  have numbered : s.Numbered :=
    run.invariant (fun _ _ _ _ executed => exec_numbered executed) (Numbered.start targetMs)
  have place_of : ∀ packet ∈ s.sealed, ∃ place, s.sealed[place]? = some packet ∧
      packet.sequence.toNat = place + 1 ∧ place < s.sealed.length := by
    intro packet member
    obtain ⟨place, inside, rfl⟩ := List.mem_iff_getElem.mp member
    have found := List.getElem?_eq_getElem inside
    refine ⟨place, found, ?_, inside⟩
    rw [numbered.sealed place _ found, frameAt_toNat (by omega)]
  have bounded : ∀ packet ∈ s.sealed, packet.sequence.toNat < 2 ^ 64 - 1 := by
    intro packet member
    obtain ⟨place, -, number, inside⟩ := place_of packet member
    omega
  obtain ⟨plays, counted⟩ : Plays (· ∈ s.sealed) s.jitter ∧ s.Counted := by
    have keeps : s.sealed <+: s.sealed → Plays (· ∈ s.sealed) s.jitter ∧ s.Counted :=
      run.invariant
        (I := fun u => u.sealed <+: s.sealed → Plays (· ∈ s.sealed) u.jitter ∧ u.Counted)
        (fun _ _ _ _ executed kept earlier =>
          have before := kept ((exec_sealed executed).trans earlier)
          exec_keeps ideal bounded executed before.1 before.2)
        (fun _ => start_keeps _ targetMs)
    exact keeps (List.prefix_refl _)
  exact {
    ordered := plays.inv.slots
    captured := fun number packet played => by
      obtain ⟨place, found, same, -⟩ := place_of packet (plays.played number packet played)
      obtain ⟨later, earlier, split⟩ := List.append_of_mem played
      have own : packet.sequence = number := (plays.inv.slots _ _ _ split).2.2 packet rfl
      exact ⟨place, own ▸ same, found⟩
    accounted := by
      have lengths := plays.inv.accounted.length_eq
      simp only [List.length_append, List.length_map] at lengths
      rw [counted.pushed, lengths]
    concealed := counted.concealed
    nonces := by
      have distinct : ((sealings cipher s.sealed).map (·.2.sequence.toNat)).Nodup := by
        rw [numbered.sequences short]
        refine List.nodup_cons.mpr ⟨?_, List.nodup_cons.mpr ⟨?_, List.nodup_range'⟩⟩
        · simp only [List.mem_cons, List.mem_range'_1]
          omega
        · simp only [List.mem_range'_1]
          omega
      refine List.pairwise_map.mpr ((List.pairwise_map.mp distinct).imp fun apart same => ?_)
      exact apart (congrArg UInt64.toNat (PacketCipher.nonce_inj same).2)
    heard := fun packet member datagram sealed =>
      open_sealed ideal (List.mem_map.mpr ⟨packet, .tail _ (.tail _ member), rfl⟩) sealed }

end AudioStream

/-! ## Two frames -/

/-- A cipher that is known for some encryptions. -/
def tableAead (table : List (AeadQuery × List UInt8)) : AeadCipher where
  encrypt key nonce aad msg :=
    some (((table.find? (·.1 = ⟨key, nonce, aad, msg⟩)).map (·.2)).getD
      (msg ++ List.replicate 16 0))
  decrypt key nonce aad ciphertext :=
    (table.find? fun entry => entry.1.key = key ∧ entry.1.nonce = nonce ∧ entry.1.aad = aad ∧
      entry.2 = ciphertext).map (·.1.msg)

section Table

variable {table : List (AeadQuery × List UInt8)}

theorem find?_entry (keyed : ∀ entry ∈ table, ∀ other ∈ table, entry.1 = other.1 → entry = other)
    {entry : AeadQuery × List UInt8} (member : entry ∈ table) :
    table.find? (·.1 = entry.1) = some entry := by
  obtain ⟨other, found⟩ := Option.isSome_iff_exists.mp
    (List.find?_isSome (p := fun other => decide (other.1 = entry.1)) |>.mpr
      ⟨entry, member, by simp⟩)
  have same : other.1 = entry.1 := by simpa using List.find?_some found
  rw [found, keyed other (List.mem_of_find?_eq_some found) entry member same]

theorem tableAead_ideal
    (keyed : ∀ entry ∈ table, ∀ other ∈ table, entry.1 = other.1 → entry = other)
    (apart : ∀ entry ∈ table, ∀ other ∈ table, entry.2 = other.2 → entry = other)
    (long : ∀ entry ∈ table, entry.2.length = entry.1.msg.length + 16) :
    (tableAead table).Ideal (table.map (·.1)) := by
  have encrypted : ∀ entry ∈ table, (tableAead table).encrypt entry.1.key entry.1.nonce entry.1.aad
      entry.1.msg = some entry.2 := by
    intro entry member
    show some (((table.find? (·.1 = entry.1)).map (·.2)).getD _) = _
    rw [find?_entry keyed member]
    rfl
  refine ⟨fun _ _ _ _ _ => rfl, ?_, ?_, ?_⟩
  · intro key nonce aad msg ciphertext made
    cases made
    cases found : table.find? (·.1 = (⟨key, nonce, aad, msg⟩ : AeadQuery)) with
    | none => simp
    | some entry =>
      have same : entry.1 = ⟨key, nonce, aad, msg⟩ := by simpa using List.find?_some found
      simp [long entry (List.mem_of_find?_eq_some found), same]
  · intro key nonce aad msg ciphertext
    constructor
    · intro opened
      obtain ⟨⟨query, text⟩, found, rfl⟩ := Option.map_eq_some_iff.mp opened
      have same := List.find?_some found
      simp only [decide_eq_true_eq] at same
      obtain ⟨rfl, rfl, rfl, rfl⟩ := same
      have member := List.mem_of_find?_eq_some found
      exact ⟨List.mem_map_of_mem member, encrypted _ member⟩
    · rintro ⟨made, sealed⟩
      obtain ⟨⟨query, text⟩, member, rfl⟩ := List.mem_map.mp made
      rw [encrypted _ member, Option.some.injEq] at sealed
      subst sealed
      unfold tableAead
      dsimp only
      cases found : table.find? fun entry => entry.1.key = key ∧ entry.1.nonce = nonce ∧
        entry.1.aad = aad ∧ entry.2 = text with
      | none =>
        have absent := List.find?_eq_none.mp found _ member
        simp at absent
      | some other =>
        have same := List.find?_some found
        simp only [decide_eq_true_eq] at same
        cases apart other (List.mem_of_find?_eq_some found) _ member same.2.2.2
        rfl
  · intro query made other made' ciphertext sealed sealed'
    obtain ⟨entry, member, rfl⟩ := List.mem_map.mp made
    obtain ⟨entry', member', rfl⟩ := List.mem_map.mp made'
    rw [encrypted _ member] at sealed
    rw [encrypted _ member'] at sealed'
    rw [apart entry member entry' member' (Option.some.inj (sealed.trans sealed'.symm))]

end Table

namespace AudioStream

/-- What ChaCha20-Poly1305 makes of the probes and two frames. -/
def sampleTable : List (AeadQuery × List UInt8) :=
  [(sampleSecrets.query (probe 0),
      [127, 165, 222, 207, 193, 222, 113, 226, 175, 24, 35, 57, 127, 252, 81, 147]),
    (sampleSecrets.query (probe (UInt64.ofNat (2 ^ 64 - 1))),
      [238, 220, 26, 85, 162, 125, 74, 23, 88, 168, 25, 169, 41, 43, 53, 231]),
    (sampleSecrets.query (frameAt 0 [1, 2, 3]),
      [41, 55, 68, 40, 50, 55, 108, 131, 121, 59, 5, 231, 195, 130, 137, 121, 132, 39, 206]),
    (sampleSecrets.query (frameAt 1 [4, 5, 6]),
      [30, 148, 46, 185, 86, 66, 186, 98, 50, 140, 65, 248, 125, 133, 194, 24, 161, 77, 36])]

theorem sampleTable_ideal : (tableAead sampleTable).Ideal (sampleTable.map (·.1)) :=
  tableAead_ideal (by decide +kernel) (by decide +kernel) (by decide +kernel)

/-- Two frames are captured and come in the other order, behind a changed datagram. -/
def sampleStream : List StreamAction :=
  [.capture [1, 2, 3] false, .capture [4, 5, 6] false,
    .receive (sampleSecrets.header 7 0 0 ++ List.replicate 19 0)] ++
  [frameAt 1 [4, 5, 6], frameAt 0 [1, 2, 3]].map fun packet =>
    .receive (((sampleSecrets.sealPacket (tableAead sampleTable) packet).toOption).getD [])

theorem stream_plays_captured_reordered :
    ((machine (tableAead sampleTable) sampleSecrets).reach (start 10) sampleStream).Faithful
      (tableAead sampleTable) sampleSecrets := by
  have sealed : ((machine (tableAead sampleTable) sampleSecrets).reach (start 10)
      sampleStream).sealed = [frameAt 0 [1, 2, 3], frameAt 1 [4, 5, 6]] := by decide +kernel
  refine stream_plays_captured (run_reach sampleStream (by decide +kernel)) ?_ ?_
  · rw [sealed]
    exact sampleTable_ideal
  · rw [sealed]
    decide

end AudioStream

end EdgeKvm.Audio
