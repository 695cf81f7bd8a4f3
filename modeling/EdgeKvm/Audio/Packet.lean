import EdgeKvm.Audio.JitterBuffer
import EdgeKvm.Lib.Fallible
import EdgeKvm.Lib.Slices

/-!
# Audio datagrams

`PacketCipher`: a header in the clear that is authenticated, and an encrypted payload. The cipher,
ChaCha20-Poly1305, is a parameter. An index out of range is a failure of its own, so that it can be
ruled out.
-/

namespace EdgeKvm.Audio

open EdgeKvm.Lib MessagePack

/-! ## The cipher -/

/-- `Aead::encrypt` and `Aead::decrypt`, of a key, a nonce, the associated data and a text. -/
structure AeadCipher where
  encrypt : Vector UInt8 32 → List UInt8 → List UInt8 → List UInt8 → Option (List UInt8)
  decrypt : Vector UInt8 32 → List UInt8 → List UInt8 → List UInt8 → Option (List UInt8)

/-- An encryption that was made. -/
structure AeadQuery where
  key : Vector UInt8 32
  nonce : List UInt8
  aad : List UInt8
  msg : List UInt8
  deriving DecidableEq, Repr

/-- The bytes that a message may have at most; ChaCha20-Poly1305 takes more. -/
def maxMessage : Nat := 2 ^ 32

/-- The ideal cipher: it takes in what was encrypted and nothing else, and no two encryptions have
    one ciphertext. -/
structure AeadCipher.Ideal (aead : AeadCipher) (made : List AeadQuery) : Prop where
  succeeds : ∀ key nonce aad msg, msg.length ≤ maxMessage → (aead.encrypt key nonce aad msg).isSome
  length : ∀ key nonce aad msg ciphertext, aead.encrypt key nonce aad msg = some ciphertext →
    ciphertext.length = msg.length + 16
  opens : ∀ key nonce aad msg ciphertext, aead.decrypt key nonce aad ciphertext = some msg ↔
    ⟨key, nonce, aad, msg⟩ ∈ made ∧ aead.encrypt key nonce aad msg = some ciphertext
  unique : ∀ query ∈ made, ∀ other ∈ made, ∀ ciphertext,
    aead.encrypt query.key query.nonce query.aad query.msg = some ciphertext →
    aead.encrypt other.key other.nonce other.aad other.msg = some ciphertext → query = other

/-! ## Packets -/

/-- `MAX_DATAGRAM_BYTES` -/
def maxDatagramBytes : Nat := 1200

/-- `MAGIC` -/
def magic : List UInt8 := [69, 75, 65, 49]

/-- `VERSION` -/
def version : UInt8 := 1

/-- `HEADER_LEN` -/
def headerLen : Nat := 36

inductive AudioError where
  | truncated
  | invalidPacket
  | wrongSession
  | oversized
  | authentication
  deriving DecidableEq, Repr

/-- How a call fails: with an error, or by a panic. -/
inductive AudioFailure where
  | error (error : AudioError)
  | panic
  deriving DecidableEq, Repr

structure SessionSecrets where
  sessionId : Vector UInt8 16
  sessionSalt : Vector UInt8 4
  sessionKey : Vector UInt8 32
  deriving DecidableEq, Repr

/-- A `PacketCipher`, made of the secrets. -/
abbrev PacketCipher := SessionSecrets

namespace PacketCipher

variable (aead : AeadCipher) (cipher : PacketCipher)

def nonce (sequence : UInt64) : List UInt8 :=
  cipher.sessionSalt.toList ++ bigEndian 8 sequence.toNat

/-- The header of `seal_payload`. -/
def header (sequence : UInt64) (sampleTimestamp : UInt32) (flags : UInt8) : List UInt8 :=
  magic ++ [version] ++ [flags] ++ bigEndian 2 headerLen ++ cipher.sessionId.toList ++
    bigEndian 8 sequence.toNat ++ bigEndian 4 sampleTimestamp.toNat

def sealPayload (sequence : UInt64) (sampleTimestamp : UInt32) (flags : UInt8)
    (payload : List UInt8) : Except AudioFailure (List UInt8) :=
  let header := cipher.header sequence sampleTimestamp flags
  match aead.encrypt cipher.sessionKey (cipher.nonce sequence) header payload with
  | none => .error (.error .authentication)
  | some encrypted =>
    let datagram := header ++ encrypted
    if maxDatagramBytes < datagram.length then .error (.error .oversized) else .ok datagram

/-- `seal` -/
def sealPacket (packet : AudioPacket) : Except AudioFailure (List UInt8) :=
  cipher.sealPayload aead packet.sequence packet.sampleTimestamp packet.flags packet.payload

/-- What `open` does with a datagram whose length it accepts. -/
def openChecked (datagram : List UInt8) : Except AudioFailure AudioPacket := do
  let start ← slice .panic datagram 0 4
  let versionByte ← byteAt .panic datagram 4
  ensure (start = magic ∧ versionByte = version) (.error .invalidPacket)
  let lenHigh ← byteAt .panic datagram 6
  let lenLow ← byteAt .panic datagram 7
  ensure (ofBigEndian [lenHigh, lenLow] = headerLen) (.error .invalidPacket)
  let sessionId ← slice .panic datagram 8 24
  ensure (sessionId = cipher.sessionId.toList) (.error .wrongSession)
  let sequenceBytes ← (slice .panic datagram 24 32).bind fun bytes => toArray .panic bytes 8
  let timestampBytes ← (slice .panic datagram 32 36).bind fun bytes => toArray .panic bytes 4
  let sequence := UInt64.ofNat (ofBigEndian sequenceBytes)
  let msg ← slice .panic datagram headerLen datagram.length
  let aad ← slice .panic datagram 0 headerLen
  let flags ← byteAt .panic datagram 5
  match aead.decrypt cipher.sessionKey (cipher.nonce sequence) aad msg with
  | none => .error (.error .authentication)
  | some payload =>
    .ok {
      sequence
      sampleTimestamp := UInt32.ofNat (ofBigEndian timestampBytes)
      flags
      payload }

/-- `open` -/
def openDatagram (datagram : List UInt8) : Except AudioFailure AudioPacket :=
  if datagram.length < headerLen + 16 then .error (.error .truncated)
  else if maxDatagramBytes < datagram.length then .error (.error .oversized)
  else cipher.openChecked aead datagram

/-! ## The header -/

section Header

variable {aead cipher} {datagram : List UInt8} {sequence : UInt64} {sampleTimestamp : UInt32}
  {flags : UInt8} {packet : AudioPacket}

@[simp] theorem length_header :
    (cipher.header sequence sampleTimestamp flags).length = headerLen := by
  simp [header, magic, headerLen]

/-- A header has its parts at their places. -/
theorem take_eq_header (long : headerLen ≤ datagram.length) :
    datagram.take headerLen = cipher.header sequence sampleTimestamp flags ↔
      between datagram 0 4 = magic ∧ between datagram 4 5 = [version] ∧
        between datagram 5 6 = [flags] ∧ between datagram 6 8 = bigEndian 2 headerLen ∧
        between datagram 8 24 = cipher.sessionId.toList ∧
        between datagram 24 32 = bigEndian 8 sequence.toNat ∧
        between datagram 32 36 = bigEndian 4 sampleTimestamp.toNat := by
  unfold headerLen at long
  have parts : datagram.take headerLen = between datagram 0 4 ++ between datagram 4 5 ++
      between datagram 5 6 ++ between datagram 6 8 ++ between datagram 8 24 ++
        between datagram 24 32 ++ between datagram 32 36 := by
    rw [between_append (by omega) (by omega), between_append (by omega) (by omega),
      between_append (by omega) (by omega), between_append (by omega) (by omega),
      between_append (by omega) (by omega), between_append (by omega) (by omega)]
    rfl
  have width {start stop : Nat} (ordered : start ≤ stop) (inside : stop ≤ 36) :
      (between datagram start stop).length = stop - start :=
    length_between ordered (Nat.le_trans inside long)
  rw [parts, header]
  constructor
  · intro same
    obtain ⟨same, timestamp⟩ := List.append_inj' same (by simp [width])
    obtain ⟨same, sequence⟩ := List.append_inj' same (by simp [width])
    obtain ⟨same, sessionId⟩ := List.append_inj' same (by simp [width])
    obtain ⟨same, len⟩ := List.append_inj' same (by simp [width])
    obtain ⟨same, flags⟩ := List.append_inj' same (by simp [width])
    obtain ⟨start, version⟩ := List.append_inj' same (by simp [width])
    exact ⟨start, version, flags, len, sessionId, sequence, timestamp⟩
  · rintro ⟨start, version, flags, len, sessionId, sequence, timestamp⟩
    rw [start, version, flags, len, sessionId, sequence, timestamp]

theorem ofBigEndian_64 (n : UInt64) : ofBigEndian (bigEndian 8 n.toNat) = n.toNat := by
  rw [ofBigEndian_bigEndian]
  exact Nat.mod_eq_of_lt n.toNat_lt

theorem ofBigEndian_32 (n : UInt32) : ofBigEndian (bigEndian 4 n.toNat) = n.toNat := by
  rw [ofBigEndian_bigEndian]
  exact Nat.mod_eq_of_lt n.toNat_lt

theorem bigEndian_64_inj {n m : UInt64} (same : bigEndian 8 n.toNat = bigEndian 8 m.toNat) :
    n = m := by
  have read := congrArg ofBigEndian same
  rw [ofBigEndian_64, ofBigEndian_64] at read
  exact UInt64.toNat_inj.mp read

theorem bigEndian_32_inj {n m : UInt32} (same : bigEndian 4 n.toNat = bigEndian 4 m.toNat) :
    n = m := by
  have read := congrArg ofBigEndian same
  rw [ofBigEndian_32, ofBigEndian_32] at read
  exact UInt32.toNat_inj.mp read

theorem toNat_ofBigEndian_64 {bytes : List UInt8} (width : bytes.length = 8) :
    bigEndian 8 (UInt64.ofNat (ofBigEndian bytes)).toNat = bytes := by
  have bound := ofBigEndian_lt bytes
  rw [width] at bound
  rw [UInt64.toNat_ofNat_of_lt' bound]
  conv_rhs => rw [← bigEndian_ofBigEndian bytes, width]

theorem toNat_ofBigEndian_32 {bytes : List UInt8} (width : bytes.length = 4) :
    bigEndian 4 (UInt32.ofNat (ofBigEndian bytes)).toNat = bytes := by
  have bound := ofBigEndian_lt bytes
  rw [width] at bound
  rw [UInt32.toNat_ofNat_of_lt' bound]
  conv_rhs => rw [← bigEndian_ofBigEndian bytes, width]

/-- The slices that are turned into numbers have their widths. -/
theorem array_inside (datagram : List UInt8) (start width : Nat) {stop : Nat} (exact : start + width = stop)
    (inside : stop ≤ datagram.length) :
    ((slice AudioFailure.panic datagram start stop).bind fun bytes => toArray .panic bytes width) =
      .ok (between datagram start stop) := by
  have ordered : start ≤ stop := by omega
  rw [slice_inside _ ordered inside]
  refine if_pos ?_
  rw [length_between ordered inside]
  omega

theorem between_drop : between datagram headerLen datagram.length = datagram.drop headerLen := by
  unfold between
  rw [← List.length_drop, List.take_length]

/-- The packet a datagram is about, once its payload is decrypted. -/
def packetOf (datagram : List UInt8) (flags : UInt8) (payload : List UInt8) : AudioPacket where
  sequence := UInt64.ofNat (ofBigEndian (between datagram 24 32))
  sampleTimestamp := UInt32.ofNat (ofBigEndian (between datagram 32 36))
  flags
  payload

/-- No index is out of range, and what is left are the checks. -/
theorem openChecked_eq (long : headerLen ≤ datagram.length) :
    ∃ versionByte flags lenHigh lenLow, between datagram 4 5 = [versionByte] ∧
      between datagram 5 6 = [flags] ∧ between datagram 6 8 = [lenHigh, lenLow] ∧
      cipher.openChecked aead datagram = (do
        ensure (between datagram 0 4 = magic ∧ versionByte = version) (.error .invalidPacket)
        ensure (ofBigEndian [lenHigh, lenLow] = headerLen) (.error .invalidPacket)
        ensure (between datagram 8 24 = cipher.sessionId.toList) (.error .wrongSession)
        match aead.decrypt cipher.sessionKey
            (cipher.nonce (UInt64.ofNat (ofBigEndian (between datagram 24 32))))
            (datagram.take headerLen) (datagram.drop headerLen) with
        | none => .error (.error .authentication)
        | some payload => .ok (packetOf datagram flags payload)) := by
  have length : 36 ≤ datagram.length := long
  obtain ⟨versionByte, atVersion, versionAt⟩ :=
    byteAt_inside AudioFailure.panic (show 4 < datagram.length by omega)
  obtain ⟨flags, atFlags, flagsAt⟩ :=
    byteAt_inside AudioFailure.panic (show 5 < datagram.length by omega)
  obtain ⟨lenHigh, atHigh, highAt⟩ :=
    byteAt_inside AudioFailure.panic (show 6 < datagram.length by omega)
  obtain ⟨lenLow, atLow, lowAt⟩ :=
    byteAt_inside AudioFailure.panic (show 7 < datagram.length by omega)
  have lens : between datagram 6 8 = [lenHigh, lenLow] := by
    rw [← between_append (show 6 ≤ 7 by decide) (show 7 ≤ 8 by decide), highAt, lowAt]
    rfl
  refine ⟨versionByte, flags, lenHigh, lenLow, versionAt, flagsAt, lens, ?_⟩
  have start := slice_inside AudioFailure.panic (Nat.zero_le 4) (show 4 ≤ datagram.length by omega)
  have sessionId := slice_inside AudioFailure.panic (show 8 ≤ 24 by decide)
    (show 24 ≤ datagram.length by omega)
  have sequence := array_inside datagram 24 8 rfl (by omega)
  have timestamp := array_inside datagram 32 4 rfl length
  have msg := slice_inside AudioFailure.panic long (Nat.le_refl datagram.length)
  have aad := slice_inside AudioFailure.panic (Nat.zero_le headerLen) long
  unfold openChecked
  rw [start, atVersion, atHigh, atLow, sessionId, sequence, timestamp, msg, aad, atFlags,
    between_drop]
  rfl

/-- The two bytes of the header's length. -/
theorem lens_iff {high low : UInt8} :
    ofBigEndian [high, low] = headerLen ↔ [high, low] = bigEndian 2 headerLen := by
  constructor
  · intro same
    rw [← same]
    exact (bigEndian_ofBigEndian [high, low]).symm
  · intro same
    rw [same, ofBigEndian_bigEndian]
    rfl

/-- A datagram that `open` accepts starts with the header of its packet, and holds the encrypted
    payload behind it. -/
theorem openChecked_eq_ok (long : headerLen ≤ datagram.length) :
    cipher.openChecked aead datagram = .ok packet ↔
      datagram.take headerLen =
          cipher.header packet.sequence packet.sampleTimestamp packet.flags ∧
        aead.decrypt cipher.sessionKey (cipher.nonce packet.sequence) (datagram.take headerLen)
          (datagram.drop headerLen) = some packet.payload := by
  obtain ⟨versionByte, flags, lenHigh, lenLow, versionAt, flagsAt, lens, checks⟩ :=
    @openChecked_eq aead cipher datagram long
  have length : 36 ≤ datagram.length := long
  have sequenceWidth : (between datagram 24 32).length = 8 :=
    length_between (by omega) (by omega)
  have timestampWidth : (between datagram 32 36).length = 4 := length_between (by omega) length
  rw [checks, take_eq_header long, versionAt, flagsAt, lens, ← lens_iff]
  simp only [unit_bind_eq_ok, ensure_eq_ok]
  constructor
  · rintro ⟨⟨start, rfl⟩, len, sessionId, opened⟩
    split at opened
    · cases opened
    · rename_i payload decrypted
      cases opened
      exact ⟨⟨start, rfl, rfl, len, sessionId, (toNat_ofBigEndian_64 sequenceWidth).symm,
        (toNat_ofBigEndian_32 timestampWidth).symm⟩, decrypted⟩
  · rintro ⟨⟨start, version, flag, len, sessionId, sequence, timestamp⟩, decrypted⟩
    refine ⟨⟨start, List.singleton_inj.mp version⟩, len, sessionId, ?_⟩
    have sameSequence :
        UInt64.ofNat (ofBigEndian (between datagram 24 32)) = packet.sequence := by
      rw [sequence, ofBigEndian_64, UInt64.ofNat_toNat]
    have sameTimestamp :
        UInt32.ofNat (ofBigEndian (between datagram 32 36)) = packet.sampleTimestamp := by
      rw [timestamp, ofBigEndian_32, UInt32.ofNat_toNat]
    rw [sameSequence, decrypted]
    show Except.ok (packetOf datagram flags packet.payload) = _
    unfold packetOf
    rw [sameSequence, sameTimestamp, List.singleton_inj.mp flag]

theorem openDatagram_eq_ok :
    cipher.openDatagram aead datagram = .ok packet ↔
      headerLen + 16 ≤ datagram.length ∧ datagram.length ≤ maxDatagramBytes ∧
        datagram.take headerLen =
          cipher.header packet.sequence packet.sampleTimestamp packet.flags ∧
        aead.decrypt cipher.sessionKey (cipher.nonce packet.sequence) (datagram.take headerLen)
          (datagram.drop headerLen) = some packet.payload := by
  unfold openDatagram
  by_cases short : datagram.length < headerLen + 16
  · rw [if_pos short]
    refine ⟨nofun, fun opened => ?_⟩
    exact absurd opened.1 (Nat.not_le.mpr short)
  · rw [if_neg short]
    rw [Nat.not_lt] at short
    by_cases large : maxDatagramBytes < datagram.length
    · rw [if_pos large]
      refine ⟨nofun, fun opened => ?_⟩
      exact absurd opened.2.1 (Nat.not_le.mpr large)
    · rw [if_neg large, openChecked_eq_ok (Nat.le_trans (Nat.le_add_right _ _) short)]
      exact ⟨fun opened => ⟨short, Nat.not_lt.mp large, opened⟩, fun opened => opened.2.2⟩

theorem ensure_safe {p : Prop} [Decidable p] {error : AudioError}
    {rest : Except AudioFailure AudioPacket} (safe : rest ≠ .error .panic) :
    (ensure p (AudioFailure.error error) >>= fun _ => rest) ≠ .error .panic := by
  unfold ensure
  split
  · exact safe
  · nofun

/-- `open` does not panic. -/
theorem openDatagram_safe : cipher.openDatagram aead datagram ≠ .error .panic := by
  unfold openDatagram
  split
  · nofun
  · rename_i long
    split
    · nofun
    · obtain ⟨versionByte, flags, lenHigh, lenLow, -, -, -, checks⟩ :=
        @openChecked_eq aead cipher datagram
          (by unfold headerLen at long ⊢; omega)
      rw [checks]
      refine ensure_safe (ensure_safe (ensure_safe ?_))
      split <;> nofun

/-- A header says which session and which packet it is of. -/
theorem header_inj {other : PacketCipher} {sequence' : UInt64} {sampleTimestamp' : UInt32}
    {flags' : UInt8} (same : cipher.header sequence sampleTimestamp flags =
      other.header sequence' sampleTimestamp' flags') :
    cipher.sessionId = other.sessionId ∧ sequence = sequence' ∧
      sampleTimestamp = sampleTimestamp' ∧ flags = flags' := by
  unfold header at same
  obtain ⟨same, timestamp⟩ := List.append_inj' same (by simp)
  obtain ⟨same, sequence⟩ := List.append_inj' same (by simp)
  obtain ⟨same, sessionId⟩ := List.append_inj' same (by simp)
  obtain ⟨same, -⟩ := List.append_inj' same (by simp)
  obtain ⟨-, flags⟩ := List.append_inj' same (by simp)
  exact ⟨Vector.toList_inj.mp sessionId, bigEndian_64_inj sequence, bigEndian_32_inj timestamp,
    List.singleton_inj.mp flags⟩

theorem nonce_inj {other : PacketCipher} {sequence' : UInt64}
    (same : cipher.nonce sequence = other.nonce sequence') :
    cipher.sessionSalt = other.sessionSalt ∧ sequence = sequence' := by
  obtain ⟨salt, sequence⟩ := List.append_inj' same (by simp)
  exact ⟨Vector.toList_inj.mp salt, bigEndian_64_inj sequence⟩

theorem sealPacket_eq_ok :
    cipher.sealPacket aead packet = .ok datagram ↔ ∃ ciphertext,
      aead.encrypt cipher.sessionKey (cipher.nonce packet.sequence)
          (cipher.header packet.sequence packet.sampleTimestamp packet.flags) packet.payload =
        some ciphertext ∧
      datagram = cipher.header packet.sequence packet.sampleTimestamp packet.flags ++ ciphertext ∧
      datagram.length ≤ maxDatagramBytes := by
  unfold sealPacket sealPayload
  dsimp only
  split
  · rename_i failed
    simp [failed]
  · rename_i ciphertext encrypted
    rw [encrypted]
    split
    · rename_i large
      refine ⟨nofun, ?_⟩
      rintro ⟨other, same, rfl, fits⟩
      cases same
      exact absurd fits (Nat.not_le.mpr large)
    · rename_i fits
      constructor
      · rintro ⟨⟩
        exact ⟨ciphertext, rfl, rfl, Nat.not_lt.mp fits⟩
      · rintro ⟨other, same, rfl, -⟩
        cases same
        rfl

end Header

/-- The encryption of a packet. -/
def query (packet : AudioPacket) : AeadQuery where
  key := cipher.sessionKey
  nonce := cipher.nonce packet.sequence
  aad := cipher.header packet.sequence packet.sampleTimestamp packet.flags
  msg := packet.payload

/-- An encryption says which session and which packet it is of. -/
theorem query_inj {cipher other : PacketCipher} {packet packet' : AudioPacket}
    (same : cipher.query packet = other.query packet') : cipher = other ∧ packet = packet' := by
  obtain ⟨key, nonce, aad, msg⟩ := AeadQuery.mk.inj same
  obtain ⟨sessionId, sequence, timestamp, flags⟩ := header_inj aad
  obtain ⟨salt, -⟩ := nonce_inj nonce
  cases cipher
  cases other
  cases packet
  cases packet'
  simp only at sessionId sequence timestamp flags salt key msg
  subst sessionId sequence timestamp flags salt
  exact ⟨congrArg _ key, congrArg _ msg⟩

end PacketCipher

/-! ## Sessions -/

/-- The encryptions of the calls of `seal`. -/
def queries (calls : List (PacketCipher × AudioPacket)) : List AeadQuery :=
  calls.map fun call => call.1.query call.2

/-- What holds of the datagrams of sessions that called `seal` for these packets. A changed byte
    of the body is told apart as long as the session does not use the packet's number again. -/
structure Authentic (aead : AeadCipher) (calls : List (PacketCipher × AudioPacket)) : Prop where
  fits : ∀ (cipher : PacketCipher) packet,
    (∃ datagram, cipher.sealPacket aead packet = .ok datagram) ↔
      headerLen + packet.payload.length + 16 ≤ maxDatagramBytes
  roundTrip : ∀ (cipher : PacketCipher) packet datagram, (cipher, packet) ∈ calls →
    cipher.sealPacket aead packet = .ok datagram →
      cipher.openDatagram aead datagram = .ok packet
  nonces : ∀ (cipher : PacketCipher) sequence sequence', sequence ≠ sequence' →
    cipher.nonce sequence ≠ cipher.nonce sequence'
  produced : ∀ (cipher : PacketCipher) packet datagram,
    cipher.openDatagram aead datagram = .ok packet →
      (cipher, packet) ∈ calls ∧ cipher.sealPacket aead packet = .ok datagram
  changed : ∀ (cipher : PacketCipher) packet datagram, (cipher, packet) ∈ calls →
    cipher.sealPacket aead packet = .ok datagram →
    ∀ place byte, datagram.set place byte ≠ datagram →
      (place < headerLen ∨ ∀ other, (cipher, other) ∈ calls → other.sequence = packet.sequence →
        other = packet) →
      ∃ error, cipher.openDatagram aead (datagram.set place byte) = .error (.error error)
  another : ∀ (cipher other : PacketCipher) packet datagram, (cipher, packet) ∈ calls →
    cipher.sealPacket aead packet = .ok datagram → other ≠ cipher →
      ∃ error, other.openDatagram aead datagram = .error (.error error)
  safe : ∀ (cipher : PacketCipher) datagram, cipher.openDatagram aead datagram ≠ .error .panic

section Sessions

open PacketCipher

variable {aead : AeadCipher} {calls : List (PacketCipher × AudioPacket)} {cipher : PacketCipher}
  {packet : AudioPacket} {datagram : List UInt8}

theorem mem_queries : cipher.query packet ∈ queries calls ↔ (cipher, packet) ∈ calls := by
  unfold queries
  rw [List.mem_map]
  constructor
  · rintro ⟨⟨other, packet'⟩, called, same⟩
    obtain ⟨rfl, rfl⟩ := query_inj same
    exact called
  · exact fun called => ⟨_, called, rfl⟩

theorem seal_fits (ideal : aead.Ideal (queries calls)) :
    (∃ datagram, cipher.sealPacket aead packet = .ok datagram) ↔
      headerLen + packet.payload.length + 16 ≤ maxDatagramBytes := by
  constructor
  · rintro ⟨datagram, sealed⟩
    obtain ⟨ciphertext, encrypted, rfl, small⟩ := sealPacket_eq_ok.mp sealed
    have length := ideal.length _ _ _ _ _ encrypted
    rw [List.length_append, length_header, length] at small
    omega
  · intro fits
    have short : packet.payload.length ≤ maxMessage := by
      unfold maxDatagramBytes at fits
      unfold maxMessage
      omega
    obtain ⟨ciphertext, encrypted⟩ := Option.isSome_iff_exists.mp
      (ideal.succeeds cipher.sessionKey (cipher.nonce packet.sequence)
        (cipher.header packet.sequence packet.sampleTimestamp packet.flags) packet.payload short)
    refine ⟨_, sealPacket_eq_ok.mpr ⟨ciphertext, encrypted, rfl, ?_⟩⟩
    rw [List.length_append, length_header, ideal.length _ _ _ _ _ encrypted]
    omega

theorem open_sealed (ideal : aead.Ideal (queries calls)) (called : (cipher, packet) ∈ calls)
    (sealed : cipher.sealPacket aead packet = .ok datagram) :
    cipher.openDatagram aead datagram = .ok packet := by
  obtain ⟨ciphertext, encrypted, rfl, small⟩ := sealPacket_eq_ok.mp sealed
  have start : (cipher.header packet.sequence packet.sampleTimestamp packet.flags ++
      ciphertext).take headerLen =
        cipher.header packet.sequence packet.sampleTimestamp packet.flags :=
    List.take_left' length_header
  have rest : (cipher.header packet.sequence packet.sampleTimestamp packet.flags ++
      ciphertext).drop headerLen = ciphertext := List.drop_left' length_header
  rw [openDatagram_eq_ok, start, rest]
  refine ⟨?_, small, rfl, (ideal.opens _ _ _ _ _).mpr ⟨mem_queries.mpr called, encrypted⟩⟩
  rw [List.length_append, length_header, ideal.length _ _ _ _ _ encrypted]
  omega

theorem open_produced (ideal : aead.Ideal (queries calls))
    (opened : cipher.openDatagram aead datagram = .ok packet) :
    (cipher, packet) ∈ calls ∧ cipher.sealPacket aead packet = .ok datagram := by
  obtain ⟨-, small, start, decrypted⟩ := openDatagram_eq_ok.mp opened
  obtain ⟨made, encrypted⟩ := (ideal.opens _ _ _ _ _).mp decrypted
  rw [start] at made encrypted
  refine ⟨mem_queries.mp made, sealPacket_eq_ok.mpr ⟨_, encrypted, ?_, small⟩⟩
  rw [← start, List.take_append_drop]

/-- Without a packet there is an error. -/
theorem open_fails (closed : ∀ packet, cipher.openDatagram aead datagram ≠ .ok packet) :
    ∃ error, cipher.openDatagram aead datagram = .error (.error error) := by
  cases opened : cipher.openDatagram aead datagram with
  | ok packet => exact absurd opened (closed packet)
  | error failure =>
    cases failure with
    | error error => exact ⟨error, rfl⟩
    | panic => exact absurd opened openDatagram_safe

/-- The datagrams of one ciphertext are of one packet. -/
theorem sealed_once (ideal : aead.Ideal (queries calls)) {other : PacketCipher}
    {packet' : AudioPacket} {datagram' : List UInt8} (called : (cipher, packet) ∈ calls)
    (called' : (other, packet') ∈ calls) (sealed : cipher.sealPacket aead packet = .ok datagram)
    (sealed' : other.sealPacket aead packet' = .ok datagram')
    (same : datagram'.drop headerLen = datagram.drop headerLen) :
    cipher = other ∧ packet = packet' := by
  obtain ⟨ciphertext, encrypted, rfl, -⟩ := sealPacket_eq_ok.mp sealed
  obtain ⟨ciphertext', encrypted', rfl, -⟩ := sealPacket_eq_ok.mp sealed'
  rw [List.drop_left' length_header, List.drop_left' length_header] at same
  subst same
  exact query_inj (ideal.unique _ (mem_queries.mpr called) _ (mem_queries.mpr called') _ encrypted
    encrypted')

theorem open_changed (ideal : aead.Ideal (queries calls)) (called : (cipher, packet) ∈ calls)
    (sealed : cipher.sealPacket aead packet = .ok datagram) {place : Nat} {byte : UInt8}
    (changes : datagram.set place byte ≠ datagram)
    (distinct : place < headerLen ∨ ∀ other, (cipher, other) ∈ calls →
      other.sequence = packet.sequence → other = packet) :
    ∃ error, cipher.openDatagram aead (datagram.set place byte) = .error (.error error) := by
  refine open_fails fun opened success => ?_
  obtain ⟨called', sealed'⟩ := open_produced ideal success
  have same : packet = opened := by
    by_cases front : place < headerLen
    · have body : (datagram.set place byte).drop headerLen = datagram.drop headerLen :=
        List.drop_set_of_lt front
      exact (sealed_once ideal called called' sealed sealed' body).2
    · have unused := distinct.resolve_left front
      obtain ⟨ciphertext, -, split, -⟩ := sealPacket_eq_ok.mp sealed
      obtain ⟨ciphertext', -, split', -⟩ := sealPacket_eq_ok.mp sealed'
      have header : (datagram.set place byte).take headerLen = datagram.take headerLen :=
        List.take_set_of_le (Nat.not_lt.mp front)
      rw [split', split, List.take_left' length_header, List.take_left' length_header] at header
      exact (unused opened called' (header_inj header).2.1).symm
  subst same
  rw [sealed] at sealed'
  exact changes (Except.ok.inj sealed').symm

theorem open_another (ideal : aead.Ideal (queries calls)) (called : (cipher, packet) ∈ calls)
    (sealed : cipher.sealPacket aead packet = .ok datagram) {other : PacketCipher}
    (apart : other ≠ cipher) :
    ∃ error, other.openDatagram aead datagram = .error (.error error) := by
  refine open_fails fun opened success => ?_
  obtain ⟨called', sealed'⟩ := open_produced ideal success
  exact apart (sealed_once ideal called called' sealed sealed' rfl).1.symm

end Sessions

/-- With an ideal cipher datagrams are authentic. -/
theorem datagrams_authentic {aead : AeadCipher} {calls : List (PacketCipher × AudioPacket)}
    (ideal : aead.Ideal (queries calls)) : Authentic aead calls where
  fits _ _ := seal_fits ideal
  roundTrip _ _ _ called sealed := open_sealed ideal called sealed
  nonces _ _ _ distinct same := distinct (PacketCipher.nonce_inj same).2
  produced _ _ _ opened := open_produced ideal opened
  changed _ _ _ called sealed _ _ changes distinct :=
    open_changed ideal called sealed changes distinct
  another _ _ _ _ called sealed apart := open_another ideal called sealed apart
  safe _ _ := PacketCipher.openDatagram_safe

/-! ## A datagram -/

def sampleSecrets : PacketCipher where
  sessionId := Vector.replicate 16 0
  sessionSalt := Vector.replicate 4 0
  sessionKey := Vector.replicate 32 0

def samplePacket : AudioPacket where
  sequence := 42
  sampleTimestamp := 10080
  flags := 0
  payload := [1, 2, 3]

/-- What ChaCha20-Poly1305 makes of the packet. -/
def sampleCiphertext : List UInt8 :=
  [151, 194, 156, 52, 79, 130, 130, 5, 147, 3, 83, 146, 30, 55, 51, 130, 76, 23, 206]

/-- ChaCha20-Poly1305 for one packet. -/
def sampleAead : AeadCipher where
  encrypt key nonce aad msg :=
    if (⟨key, nonce, aad, msg⟩ : AeadQuery) = sampleSecrets.query samplePacket then
      some sampleCiphertext
    else some (msg ++ List.replicate 16 0)
  decrypt key nonce aad ciphertext :=
    if (⟨key, nonce, aad, samplePacket.payload⟩ : AeadQuery) = sampleSecrets.query samplePacket ∧
        ciphertext = sampleCiphertext then
      some samplePacket.payload
    else none

theorem sampleAead_ideal : sampleAead.Ideal (queries [(sampleSecrets, samplePacket)]) where
  succeeds key nonce aad msg _ := by
    unfold sampleAead
    dsimp only
    split <;> rfl
  length key nonce aad msg ciphertext encrypted := by
    unfold sampleAead at encrypted
    dsimp only at encrypted
    split at encrypted
    · rename_i same
      cases encrypted
      rw [(AeadQuery.mk.inj same).2.2.2]
      rfl
    · cases encrypted
      simp
  opens key nonce aad msg ciphertext := by
    have listed : (⟨key, nonce, aad, msg⟩ : AeadQuery) ∈ queries [(sampleSecrets, samplePacket)] ↔
        (⟨key, nonce, aad, msg⟩ : AeadQuery) = sampleSecrets.query samplePacket := by
      simp [queries]
    rw [listed]
    unfold sampleAead
    dsimp only
    constructor
    · intro opened
      split at opened
      · rename_i same
        cases opened
        rw [if_pos same.1, same.2]
        exact ⟨same.1, rfl⟩
      · cases opened
    · rintro ⟨same, encrypted⟩
      rw [if_pos same] at encrypted
      cases encrypted
      have payload : msg = samplePacket.payload := (AeadQuery.mk.inj same).2.2.2
      subst payload
      rw [if_pos ⟨same, rfl⟩]
  unique query made other made' _ _ _ := by
    simp only [queries, List.map_cons, List.map_nil, List.mem_singleton] at made made'
    rw [made, made']

theorem datagrams_authentic_sample : Authentic sampleAead [(sampleSecrets, samplePacket)] :=
  datagrams_authentic sampleAead_ideal

end EdgeKvm.Audio
