import EdgeKvm.Clipboard.Schedule
import EdgeKvm.Lib.Machine
import EdgeKvm.Lib.Packets
import Mathlib.Tactic.ByContra

/-!
# Frames over a secure channel

One direction of a session: `SecureFrameWriter::write` over `NoiseWriter::write_packet`, the bytes
in between, and `NoiseReader::read_packet` under `SecureFrameReader::read`. The encoder and the
cipher are parameters; a network may hand over any bytes at all.
-/

namespace EdgeKvm.Transport

open EdgeKvm.Lib Machine MessagePack EdgeKvm.Clipboard

/-- `MAX_NOISE_PACKET_BYTES` -/
def maxNoisePacketBytes : Nat := 65535

/-- `NOISE_TAG_BYTES` -/
def noiseTagBytes : Nat := 16

/-- The nonce that Noise reserves. -/
def reservedNonce : Nat := UInt64.size - 1

/-- The cipher of one direction of a `snow::TransportState`, of a nonce and a text. -/
structure NoiseCipher where
  encrypt : Nat → List UInt8 → List UInt8
  decrypt : Nat → List UInt8 → Option (List UInt8)

/-- `encode_frame` and `decode_frame`. -/
structure FrameCodec (β : Type) where
  encodeFrame : WireFrame β → Except Unit (List UInt8)
  decodeFrame : List UInt8 → Option (WireFrame β)

/-! ## The two ends -/

inductive CryptoError where
  | noise
  | packetTooLarge (length : Nat)
  deriving DecidableEq, Repr

namespace NoiseCipher

variable (cipher : NoiseCipher)

/-- `write_message`: the nonce counts the messages. -/
def writeMessage (nonce : Nat) (plaintext : List UInt8) : Option (List UInt8) × Nat :=
  if reservedNonce ≤ nonce then (none, nonce)
  else (some (cipher.encrypt nonce plaintext), nonce + 1)

/-- `read_message`: a message that does not open leaves the nonce as it is. -/
def readMessage (nonce : Nat) (encrypted : List UInt8) : Option (List UInt8) × Nat :=
  if reservedNonce ≤ nonce then (none, nonce)
  else
    match cipher.decrypt nonce encrypted with
    | some plaintext => (some plaintext, nonce + 1)
    | none => (none, nonce)

/-- `seal_packet`: a packet that is too large does not take a nonce. -/
def sealPacket (nonce : Nat) (plaintext : List UInt8) : Except CryptoError (List UInt8) × Nat :=
  let sealedLen := plaintext.length + noiseTagBytes
  if maxNoisePacketBytes < sealedLen then (.error (.packetTooLarge sealedLen), nonce)
  else
    match cipher.writeMessage nonce plaintext with
    | (some encrypted, nonce) => (.ok (packet encrypted), nonce)
    | (none, nonce) => (.error .noise, nonce)

end NoiseCipher

/-- What keeps `SecureFrameReader::read` from returning a frame. -/
inductive FrameReadError where
  | crypto (error : CryptoError)
  | decode
  deriving DecidableEq, Repr

/-- Both ends of one direction, and the bytes that have arrived and were not read. `written` are
    the frames that were encrypted, `wire` the bytes that were sent, `carried` all that have
    arrived; `read` and `failures` are what the reader returned. -/
structure SecureChannel (β : Type) where
  writeNonce : Nat := 0
  readNonce : Nat := 0
  arrived : List UInt8 := []
  written : List (WireFrame β) := []
  wire : List UInt8 := []
  carried : List UInt8 := []
  read : List (WireFrame β) := []
  failures : List FrameReadError := []

/-- A frame is written, and if `sent` says so only its first bytes reach the wire; bytes arrive; a
    frame is read. -/
inductive ChannelAction (β : Type) where
  | write (frame : WireFrame β) (sent : Option Nat := none)
  | arrive (bytes : List UInt8)
  | read

namespace SecureChannel

variable {β : Type} (codec : FrameCodec β) (cipher : NoiseCipher) (w : SecureChannel β)

/-- `SecureFrameWriter::write` -/
def write (frame : WireFrame β) (sent : Option Nat) : SecureChannel β :=
  match encodeSecureFrame codec.encodeFrame frame with
  | .error _ => w
  | .ok payload =>
    match cipher.sealPacket w.writeNonce payload with
    | (.error _, writeNonce) => { w with writeNonce }
    | (.ok bytes, writeNonce) =>
      { w with
        writeNonce
        written := w.written ++ [frame]
        wire := w.wire ++ bytes.take (sent.getD bytes.length) }

/-- `SecureFrameReader::read`, when it returns. -/
def readFrame : Option (SecureChannel β) :=
  match readPacket maxNoisePacketBytes w.arrived with
  | .waits => none
  | .tooLarge length arrived =>
    some { w with arrived, failures := w.failures ++ [.crypto (.packetTooLarge length)] }
  | .took payload arrived =>
    match cipher.readMessage w.readNonce payload with
    | (none, readNonce) =>
      some { w with arrived, readNonce, failures := w.failures ++ [.crypto .noise] }
    | (some plaintext, readNonce) =>
      match codec.decodeFrame plaintext with
      | none => some { w with arrived, readNonce, failures := w.failures ++ [.decode] }
      | some frame => some { w with arrived, readNonce, read := w.read ++ [frame] }

def exec : ChannelAction β → Option (SecureChannel β)
  | .write frame sent => some (w.write codec cipher frame sent)
  | .arrive bytes => some { w with arrived := w.arrived ++ bytes, carried := w.carried ++ bytes }
  | .read => w.readFrame codec cipher

def machine : Machine (SecureChannel β) (ChannelAction β) where
  exec := exec codec cipher

end SecureChannel

/-! ## What the parameters do -/

/-- The decoder undoes the encoder. -/
def FrameCodec.Lossless {β : Type} (codec : FrameCodec β) : Prop :=
  ∀ frame bytes, codec.encodeFrame frame = .ok bytes → codec.decodeFrame bytes = some frame

/-- A message opens under its nonce, and under no other. -/
structure NoiseCipher.Lawful (cipher : NoiseCipher) : Prop where
  length : ∀ nonce text, (cipher.encrypt nonce text).length = text.length + noiseTagBytes
  opens : ∀ nonce text, cipher.decrypt nonce (cipher.encrypt nonce text) = some text
  apart : ∀ nonce other text opened, nonce < reservedNonce → other < reservedNonce →
    cipher.decrypt nonce (cipher.encrypt other text) = some opened → nonce = other

namespace SecureChannel

variable {β : Type} (codec : FrameCodec β) (cipher : NoiseCipher)

/-- The network cannot forge: what opens is one of the messages that were written, each with the
    nonce of its place. -/
def Unforged (w : SecureChannel β) : ChannelAction β → Prop
  | .read => ∀ payload left opened,
    readPacket maxNoisePacketBytes w.arrived = .took payload left →
    cipher.decrypt w.readNonce payload = some opened →
    ∃ place frame text, w.written[place]? = some frame ∧ codec.encodeFrame frame = .ok text ∧
      payload = cipher.encrypt place text
  | .write .. | .arrive _ => True

/-- The network hands over the bytes that were sent, in their order. -/
def Faithful (w : SecureChannel β) : ChannelAction β → Prop
  | .write _ sent => sent = none
  | .arrive bytes => w.carried ++ bytes <+: w.wire
  | .read => True

end SecureChannel

/-! ## What a step does -/

namespace SecureChannel

variable {β : Type} {codec : FrameCodec β} {cipher : NoiseCipher} {w t : SecureChannel β}
  {frame : WireFrame β} {sent : Option Nat}

/-- A frame is refused, or encrypted under the next nonce. -/
theorem write_cases (lawful : cipher.Lawful) : w.write codec cipher frame sent = w ∨
    ∃ text, codec.encodeFrame frame = .ok text ∧ w.writeNonce < reservedNonce ∧
      (cipher.encrypt w.writeNonce text).length ≤ maxNoisePacketBytes ∧
      w.write codec cipher frame sent = { w with
        writeNonce := w.writeNonce + 1
        written := w.written ++ [frame]
        wire := w.wire ++ (packet (cipher.encrypt w.writeNonce text)).take
          (sent.getD (packet (cipher.encrypt w.writeNonce text)).length) } := by
  unfold write encodeSecureFrame
  cases encoded : codec.encodeFrame frame with
  | error error => exact .inl rfl
  | ok text =>
    by_cases long : maxSecureFrameBytes < text.length
    · simp only [if_pos long]
      exact .inl trivial
    · simp only [if_neg long, NoiseCipher.sealPacket]
      have fits : ¬ maxNoisePacketBytes < text.length + noiseTagBytes := by
        simp only [maxSecureFrameBytes, maxNoisePacketBytes, noiseTagBytes] at long ⊢
        omega
      simp only [if_neg fits, NoiseCipher.writeMessage]
      by_cases reserved : reservedNonce ≤ w.writeNonce
      · simp only [if_pos reserved]
        exact .inl trivial
      · simp only [if_neg reserved]
        refine .inr ⟨text, rfl, Nat.lt_of_not_le reserved, ?_, rfl⟩
        rw [lawful.length]
        exact Nat.le_of_not_lt fits

/-- A read is refused what it found, or the message opens and is decoded, if it can be. -/
theorem readFrame_cases (executed : w.readFrame codec cipher = some t) :
    (∃ arrived failure, t = { w with arrived, failures := w.failures ++ [failure] }) ∨
      ∃ payload left opened, readPacket maxNoisePacketBytes w.arrived = .took payload left ∧
        w.readNonce < reservedNonce ∧ cipher.decrypt w.readNonce payload = some opened ∧
        (codec.decodeFrame opened = none ∨ ∃ frame, codec.decodeFrame opened = some frame ∧
          t = { w with
            arrived := left, readNonce := w.readNonce + 1, read := w.read ++ [frame] }) := by
  unfold readFrame at executed
  cases found : readPacket maxNoisePacketBytes w.arrived with
  | waits =>
    rw [found] at executed
    cases executed
  | tooLarge length left =>
    rw [found] at executed
    cases executed
    exact .inl ⟨left, _, rfl⟩
  | took payload left =>
    simp only [found, NoiseCipher.readMessage] at executed
    by_cases reserved : reservedNonce ≤ w.readNonce
    · simp only [if_pos reserved] at executed
      cases executed
      exact .inl ⟨left, _, rfl⟩
    · simp only [if_neg reserved] at executed
      cases opens : cipher.decrypt w.readNonce payload with
      | none =>
        simp only [opens] at executed
        cases executed
        exact .inl ⟨left, _, rfl⟩
      | some opened =>
        simp only [opens] at executed
        refine .inr ⟨payload, left, opened, rfl, Nat.lt_of_not_le reserved, opens, ?_⟩
        cases decoded : codec.decodeFrame opened with
        | none => exact .inl rfl
        | some frame =>
          simp only [decoded] at executed
          cases executed
          exact .inr ⟨frame, rfl, rfl⟩

/-- A message of the writer under the reader's nonce is read. -/
theorem readFrame_next {text left : List UInt8} (lawful : cipher.Lawful)
    (found : readPacket maxNoisePacketBytes w.arrived =
      .took (cipher.encrypt w.readNonce text) left)
    (free : w.readNonce < reservedNonce) (decoded : codec.decodeFrame text = some frame) :
    w.readFrame codec cipher = some { w with
      arrived := left, readNonce := w.readNonce + 1, read := w.read ++ [frame] } := by
  simp only [readFrame, found, NoiseCipher.readMessage, if_neg (Nat.not_le_of_lt free),
    lawful.opens, decoded]

/-! ## Nothing is forged -/

/-- The nonces count the frames, and what was read was written. -/
structure Authentic (w : SecureChannel β) : Prop where
  writeNonce : w.writeNonce = w.written.length
  bound : w.writeNonce ≤ reservedNonce
  readNonce : w.readNonce = w.read.length
  prefix' : w.read <+: w.written

/-- What is read is written, at the same place. -/
theorem Authentic.step {action : ChannelAction β} (lossless : codec.Lossless)
    (lawful : cipher.Lawful) (authentic : Authentic w) (unforged : w.Unforged codec cipher action)
    (executed : (machine codec cipher).exec w action = some t) : Authentic t := by
  cases action with
  | write frame sent =>
    obtain rfl := Option.some.inj executed
    obtain same | ⟨text, -, free, -, wrote⟩ :=
      @write_cases β codec cipher w frame sent lawful
    · rw [same]
      exact authentic
    · rw [wrote]
      refine ⟨?_, free, authentic.readNonce, authentic.prefix'.trans (List.prefix_append _ _)⟩
      simp [authentic.writeNonce]
  | arrive bytes =>
    cases executed
    exact ⟨authentic.writeNonce, authentic.bound, authentic.readNonce, authentic.prefix'⟩
  | read =>
    obtain ⟨arrived, failure, rfl⟩ | ⟨payload, left, opened, found, free, opens, decoded⟩ :=
      readFrame_cases executed
    · exact ⟨authentic.writeNonce, authentic.bound, authentic.readNonce, authentic.prefix'⟩
    · obtain ⟨place, frame, text, written, encoded, rfl⟩ := unforged payload left opened found opens
      have inside : place < w.written.length := (List.getElem?_eq_some_iff.mp written).1
      have below : place < reservedNonce :=
        Nat.lt_of_lt_of_le inside (authentic.writeNonce ▸ authentic.bound)
      obtain rfl := lawful.apart _ _ _ _ free below opens
      rw [lawful.opens] at opens
      obtain rfl := Option.some.inj opens
      rw [lossless frame text encoded] at decoded
      obtain none | ⟨frame', same, rfl⟩ := decoded
      · cases none
      · obtain rfl := Option.some.inj same
        refine ⟨authentic.writeNonce, authentic.bound, ?_, ?_⟩
        · simp [authentic.readNonce]
        · obtain ⟨rest, whole⟩ := authentic.prefix'
          rw [authentic.readNonce, ← whole, List.getElem?_append_right (Nat.le_refl _),
            Nat.sub_self] at written
          cases rest with
          | nil => cases written
          | cons next rest =>
            obtain rfl := Option.some.inj written
            exact ⟨rest, by rw [← whole, List.append_assoc]; rfl⟩

/-- Frames of one byte. -/
def byteCodec : FrameCodec UInt8 where
  encodeFrame
    | .other byte => .ok [byte]
    | .clipboard _ => .error ()
  decodeFrame
    | [byte] => some (.other byte)
    | _ => none

theorem byteCodec_lossless : byteCodec.Lossless := by
  intro frame bytes encoded
  cases frame with
  | clipboard event => cases encoded
  | other byte =>
    obtain rfl := Except.ok.inj encoded
    rfl

/-- The nonce in the clear, in place of a tag. -/
def plainCipher : NoiseCipher where
  encrypt nonce text := bigEndian 16 nonce ++ text
  decrypt nonce encrypted :=
    if encrypted.take 16 = bigEndian 16 nonce then some (encrypted.drop 16) else none

theorem plainCipher_lawful : plainCipher.Lawful where
  length nonce text := by
    simp only [plainCipher, List.length_append, length_bigEndian, noiseTagBytes]
    omega
  opens nonce text := by simp [plainCipher]
  apart nonce other text opened free below opens := by
    by_contra different
    have number : ∀ n < reservedNonce, ofBigEndian (bigEndian 16 n) = n := by
      intro n small
      rw [ofBigEndian_bigEndian]
      refine Nat.mod_eq_of_lt (Nat.lt_trans small ?_)
      decide
    have apart : bigEndian 16 other ≠ bigEndian 16 nonce := by
      intro same
      have numbers := congrArg ofBigEndian same
      rw [number other below, number nonce free] at numbers
      exact different numbers.symm
    simp [plainCipher, apart] at opens

/-- The second message overtakes the first, which comes twice. -/
def overtaken : List (ChannelAction UInt8) :=
  [.write (.other 7), .write (.other 8), .arrive (packet (plainCipher.encrypt 1 [8])), .read,
    .arrive (packet (plainCipher.encrypt 0 [7])), .read, .arrive (packet (plainCipher.encrypt 0 [7])),
    .read]

/-- The messages of frames that are written from a nonce on. -/
inductive Messages (codec : FrameCodec β) (cipher : NoiseCipher) :
    Nat → List (WireFrame β) → List (List UInt8) → Prop
  | nil (nonce : Nat) : Messages codec cipher nonce [] []
  | cons (nonce : Nat) (frame : WireFrame β) (text : List UInt8) (frames : List (WireFrame β))
      (payloads : List (List UInt8)) (encoded : codec.encodeFrame frame = .ok text)
      (free : nonce < reservedNonce)
      (fits : (cipher.encrypt nonce text).length ≤ maxNoisePacketBytes)
      (rest : Messages codec cipher (nonce + 1) frames payloads) :
      Messages codec cipher nonce (frame :: frames) (cipher.encrypt nonce text :: payloads)

theorem Messages.fits {nonce : Nat} {frames : List (WireFrame β)} {payloads : List (List UInt8)}
    (messages : Messages codec cipher nonce frames payloads) :
    ∀ payload ∈ payloads, payload.length ≤ maxNoisePacketBytes := by
  induction messages with
  | nil nonce =>
    intro payload none
    cases none
  | cons nonce frame text frames payloads encoded free fits rest ih =>
    intro payload member
    rcases List.mem_cons.mp member with rfl | member
    · exact fits
    · exact ih payload member

/-- One more message is written. -/
theorem Messages.snoc {nonce : Nat} {frames : List (WireFrame β)} {payloads : List (List UInt8)}
    {text : List UInt8} (messages : Messages codec cipher nonce frames payloads)
    (encoded : codec.encodeFrame frame = .ok text) (free : nonce + frames.length < reservedNonce)
    (fits : (cipher.encrypt (nonce + frames.length) text).length ≤ maxNoisePacketBytes) :
    Messages codec cipher nonce (frames ++ [frame])
      (payloads ++ [cipher.encrypt (nonce + frames.length) text]) := by
  induction messages with
  | nil nonce => exact .cons nonce frame text [] [] encoded free fits (.nil _)
  | cons nonce first text' frames payloads encoded' free' fits' rest ih =>
    have place : nonce + (first :: frames).length = nonce + 1 + frames.length := by
      rw [List.length_cons]
      omega
    rw [place] at free fits ⊢
    exact .cons nonce first text' _ _ encoded' free' fits' (ih free fits)

/-- Nothing has failed, and what is on its way and not read yet are the packets of the frames that
    were written and not read yet. -/
structure InOrder (codec : FrameCodec β) (cipher : NoiseCipher) (w : SecureChannel β) : Prop where
  noFailure : w.failures = []
  writeNonce : w.writeNonce = w.written.length
  readNonce : w.readNonce = w.read.length
  stream : ∃ pending payloads more, w.written = w.read ++ pending ∧
    Messages codec cipher w.readNonce pending payloads ∧ w.wire = w.carried ++ more ∧
    w.arrived ++ more = (payloads.map packet).flatten

theorem InOrder.step {action : ChannelAction β} (lossless : codec.Lossless)
    (lawful : cipher.Lawful) (inOrder : InOrder codec cipher w) (faithful : w.Faithful action)
    (executed : (machine codec cipher).exec w action = some t) : InOrder codec cipher t := by
  obtain ⟨pending, payloads, more, written, messages, wire, stream⟩ := inOrder.stream
  cases action with
  | write frame sent =>
    obtain rfl := Option.some.inj executed
    obtain same | ⟨text, encoded, free, fits, wrote⟩ :=
      @write_cases β codec cipher w frame sent lawful
    · rw [same]
      exact inOrder
    · have place : w.writeNonce = w.readNonce + pending.length := by
        rw [inOrder.writeNonce, inOrder.readNonce, written, List.length_append]
      obtain rfl : sent = none := faithful
      rw [wrote]
      refine ⟨inOrder.noFailure, by simp [inOrder.writeNonce], inOrder.readNonce,
        pending ++ [frame], payloads ++ [cipher.encrypt w.writeNonce text],
        more ++ packet (cipher.encrypt w.writeNonce text), ?_, ?_, ?_, ?_⟩
      · rw [written, List.append_assoc]
      · rw [place] at free fits ⊢
        exact messages.snoc encoded free fits
      · simp [wire]
      · rw [← List.append_assoc, stream]
        simp
  | arrive bytes =>
    cases executed
    obtain ⟨rest, whole⟩ := faithful
    rw [wire, List.append_assoc] at whole
    have same := List.append_cancel_left whole
    refine ⟨inOrder.noFailure, inOrder.writeNonce, inOrder.readNonce, pending, payloads, rest,
      written, messages, ?_, ?_⟩
    · rw [wire, ← same, List.append_assoc]
    · rw [List.append_assoc, same, stream]
  | read =>
    obtain ⟨waits, -⟩ | ⟨first, payloads', left, rfl, found, behind⟩ :=
      readPacket_stream messages.fits (by decide) stream
    · have executed' : w.readFrame codec cipher = some t := executed
      rw [readFrame, waits] at executed'
      cases executed'
    · cases messages with
      | cons nonce frame text frames payloads encoded free fits rest =>
        have reads := readFrame_next lawful found free (lossless frame text encoded)
        cases reads.symm.trans executed
        refine ⟨inOrder.noFailure, inOrder.writeNonce, by simp [inOrder.readNonce], frames,
          payloads', more, ?_, rest, wire, behind⟩
        rw [written, List.append_assoc]
        rfl

/-- Two frames arrive in three pieces. -/
def inPieces : List (ChannelAction UInt8) :=
  [.write (.other 7), .write (.other 8), .arrive ((packet (plainCipher.encrypt 0 [7])).take 3),
    .arrive ((packet (plainCipher.encrypt 0 [7])).drop 3), .read,
    .arrive (packet (plainCipher.encrypt 1 [8])), .read]

end SecureChannel

end EdgeKvm.Transport
