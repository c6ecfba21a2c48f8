import WebTransportDemo.Source.NullCrypter

/-!
# Null sealing and opening are byte-exact for every memory layout

The packet creator seals in place and the framer opens in place, so the plaintext, the ciphertext
and the output may overlap in any way. The copies that the two functions make before their first
write are what makes the result independent of the layout: the statements below
quantify over every placement, and speak of the ORIGINAL bytes, read before the call.
-/
namespace WebTransportDemo.Guarantees.NullCrypterMemory
open Library Source

/-- With room for twenty bytes more than the plaintext and associated data apart from the output,
the output becomes the sealed form of the original bytes, and nothing outside it changes. -/
theorem sealed_byte_exact (base : NullCrypter) (p : Perspective) (packetNumber : Nat)
    (associatedData plaintext : Range) (output maxOutputLength : Nat) (s : CallState)
    (separate : associatedData.DisjointFrom ⟨output, plaintext.length + 20⟩)
    (room : plaintext.length + 20 ≤ maxOutputLength) :
    let result := WebTransportNullEncrypter.encryptPacket base p packetNumber associatedData
      plaintext output maxOutputLength s
    let ciphertext : Range := ⟨output, plaintext.length + 20⟩
    result.1 = true ∧ result.2.outputLength = plaintext.length + 20 ∧
      result.2.memory.read ciphertext =
        base.sealed p (s.memory.read associatedData) (s.memory.read plaintext) ∧
      ∀ address, ¬ ciphertext.Contains address →
        result.2.memory address = s.memory address := by
  intro result ciphertext
  have apart : associatedData.DisjointFrom ⟨output, kSamplePrefixSize⟩ := by
    intro address inside prefixed
    refine separate address inside ⟨prefixed.1, Nat.lt_of_lt_of_le prefixed.2 ?_⟩
    simp only [kSamplePrefixSize]
    omega
  have sealing : result =
      (true, ⟨s.memory.write output
          (base.sealed p (s.memory.read associatedData) (s.memory.read plaintext)),
        plaintext.length + 20⟩) :=
    encryptPacket_fits base p packetNumber associatedData plaintext output maxOutputLength s apart
      room
  have size := base.sealed_length p (s.memory.read associatedData) (s.memory.read plaintext)
  rw [Memory.read_length] at size
  have written := Memory.read_write_same s.memory output
    (base.sealed p (s.memory.read associatedData) (s.memory.read plaintext))
  rw [size] at written
  rw [sealing]
  refine ⟨rfl, rfl, written, ?_⟩
  intro address outside
  exact Memory.write_outside _ _ _ (by rwa [size])

/-- The ciphertext of the peer, wherever it stands and wherever the output goes, opens to the
original plaintext, and nothing outside the output changes. -/
theorem opened_byte_exact (base : NullCrypter) (p : Perspective) (packetNumber : Nat)
    (associatedData ciphertext : Range) (output maxOutputLength : Nat) (s : CallState)
    (plaintext : Bytes)
    (carries : s.memory.read ciphertext =
      base.sealed p (s.memory.read associatedData) plaintext)
    (room : plaintext.length ≤ maxOutputLength) :
    let opened := WebTransportNullDecrypter.decryptPacket base p.opposite packetNumber
      associatedData ciphertext output maxOutputLength s
    opened.1 = true ∧ opened.2.outputLength = plaintext.length ∧
      opened.2.memory.read ⟨output, plaintext.length⟩ = plaintext ∧
      ∀ address, ¬ (⟨output, plaintext.length⟩ : Range).Contains address →
        opened.2.memory address = s.memory address := by
  have result := decryptPacket_sealed base p.opposite packetNumber associatedData ciphertext output
    maxOutputLength s plaintext (by rwa [Perspective.opposite_opposite]) room
  simp only [result, true_and]
  exact ⟨Memory.read_write_same _ _ _, fun address outside =>
    Memory.write_outside _ _ _ outside⟩

/-- In-place null sealing and opening are byte-exact for every memory layout. With associated data
apart from the output and room for twenty bytes more than the plaintext, `EncryptPacket` succeeds
and leaves eight zero bytes, the tag of the original plaintext and the original plaintext;
`*output_length` is their length and no other byte of memory changes. The decrypter of the opposite
perspective, in any memory that holds this ciphertext and this associated data, for any packet
number and any placement of its output, restores exactly the original plaintext. -/
theorem null_crypters_byte_exact (base : NullCrypter) (p : Perspective) (packetNumber : Nat)
    (associatedData plaintext : Range) (output maxOutputLength : Nat) (s : CallState)
    (separate : associatedData.DisjointFrom ⟨output, plaintext.length + 20⟩)
    (room : plaintext.length + 20 ≤ maxOutputLength) :
    let result := WebTransportNullEncrypter.encryptPacket base p packetNumber associatedData
      plaintext output maxOutputLength s
    let ciphertext : Range := ⟨output, plaintext.length + 20⟩
    result.1 = true ∧ result.2.outputLength = plaintext.length + 20 ∧
    result.2.memory.read ciphertext =
      List.replicate 8 0 ++
        (base.tag p (s.memory.read associatedData) (s.memory.read plaintext) ++
          s.memory.read plaintext) ∧
    (∀ address, ¬ ciphertext.Contains address → result.2.memory address = s.memory address) ∧
    result.2.memory.read associatedData = s.memory.read associatedData ∧
    ∀ (packetNumber' : Nat) (t : CallState) (associatedData' ciphertext' : Range)
      (output' maxOutputLength' : Nat),
      t.memory.read ciphertext' = result.2.memory.read ciphertext →
      t.memory.read associatedData' = s.memory.read associatedData →
      plaintext.length ≤ maxOutputLength' →
      let opened := WebTransportNullDecrypter.decryptPacket base p.opposite packetNumber'
        associatedData' ciphertext' output' maxOutputLength' t
      opened.1 = true ∧ opened.2.outputLength = plaintext.length ∧
      opened.2.memory.read ⟨output', plaintext.length⟩ = s.memory.read plaintext ∧
      ∀ address, ¬ (⟨output', plaintext.length⟩ : Range).Contains address →
        opened.2.memory address = t.memory address := by
  intro result ciphertext
  obtain ⟨success, length, written, frame⟩ := sealed_byte_exact base p packetNumber associatedData
    plaintext output maxOutputLength s separate room
  refine ⟨success, length, written, frame, ?_, ?_⟩
  · exact Memory.read_congr fun address inside => frame address (separate address inside)
  · intro packetNumber' t associatedData' ciphertext' output' maxOutputLength' carried sameData fits
    have carries : t.memory.read ciphertext' =
        base.sealed p (t.memory.read associatedData') (s.memory.read plaintext) := by
      rw [carried, sameData]
      exact written
    have opened := opened_byte_exact base p packetNumber' associatedData' ciphertext' output'
      maxOutputLength' t (s.memory.read plaintext) carries (by rwa [Memory.read_length])
    rwa [Memory.read_length] at opened

/-! ## The laws of the base classes are those of a concrete pair -/

/-- The crypter pair that any 12-byte tag function determines. -/
def crypterOfTag (tag : Perspective → Bytes → Bytes → Bytes)
    (tag_length : ∀ sender ad plaintext, (tag sender ad plaintext).length = 12) : NullCrypter where
  tag := tag
  encryptPacket p _ ad plaintext output room s :=
    if room < 12 + plaintext.length then (false, s)
    else (true, ⟨s.memory.write output (tag p (s.memory.read ad) plaintext ++ plaintext),
      12 + plaintext.length⟩)
  decryptPacket p _ ad ciphertext output room s :=
    if ciphertext.length < 12 ∨ room < (ciphertext.drop 12).length ∨
        ciphertext.take 12 ≠ tag p.opposite (s.memory.read ad) (ciphertext.drop 12) then (false, s)
    else (true, ⟨s.memory.write output (ciphertext.drop 12), (ciphertext.drop 12).length⟩)
  tag_length := tag_length
  encrypt_fits p _ ad plaintext output room s fits := if_neg (Nat.not_lt.mpr fits)
  encrypt_short p _ ad plaintext output room s short := if_pos short
  decrypt_accepts p _ ad plaintext output room s fits := by
    have size := tag_length p.opposite (s.memory.read ad) plaintext
    have front : (tag p.opposite (s.memory.read ad) plaintext ++ plaintext).take 12 =
        tag p.opposite (s.memory.read ad) plaintext := List.take_left' size
    have back : (tag p.opposite (s.memory.read ad) plaintext ++ plaintext).drop 12 = plaintext :=
      List.drop_left' size
    simp only [front, back, List.length_append, size]
    rw [if_neg]
    simp only [ne_eq, not_true_eq_false, or_false, not_or]
    omega
  decrypt_rejects p _ ad ciphertext output room s foreign := by
    apply if_pos
    by_contra accepted
    simp only [not_or, not_lt, ne_eq, not_not] at accepted
    obtain ⟨-, fits, tagged⟩ := accepted
    apply foreign (ciphertext.drop 12) fits
    rw [← tagged, List.take_append_drop]

/-- FNV-1a with 128 bits. -/
def fnv1a128 (data : Bytes) : Nat :=
  data.foldl (fun hash b => (hash ^^^ b.toNat) * 0x1000000000000000000013b % 2 ^ 128)
    0x6c62272e07bb014262b821756295c58d

/-- The low twelve bytes, little endian, of the hash of the associated data, the plaintext and the
sender's name. -/
def fnvTag (sender : Perspective) (associatedData plaintext : Bytes) : Bytes :=
  let name := match sender with
    | .isServer => ascii "Server"
    | .isClient => ascii "Client"
  let hash := fnv1a128 (associatedData ++ plaintext ++ name)
  (List.range 12).map fun i => UInt8.ofNat (hash / 256 ^ i)

def fnvCrypter : NullCrypter := crypterOfTag fnvTag fun _ _ _ => by simp [fnvTag]

/-- A three-byte plaintext at address 25, sealed with its output starting nine bytes before it and
so over it, and opened in place; the associated data is the five bytes at address 0. -/
theorem null_crypters_byte_exact_overlapping :
    let s : CallState := ⟨fun address => UInt8.ofNat address, 0⟩
    let result := WebTransportNullEncrypter.encryptPacket fnvCrypter .isClient 7 ⟨0, 5⟩ ⟨25, 3⟩ 16
      23 s
    result.1 = true ∧ result.2.memory.read ⟨36, 3⟩ = [25, 26, 27] ∧
    (WebTransportNullDecrypter.decryptPacket fnvCrypter .isServer 7 ⟨0, 5⟩ ⟨16, 23⟩ 16 3
      result.2).2.memory.read ⟨16, 3⟩ = [25, 26, 27] := by
  have separate : (⟨0, 5⟩ : Range).DisjointFrom ⟨16, 3 + 20⟩ := by
    rintro address ⟨-, below⟩ ⟨above, -⟩
    simp only at below above
    omega
  intro s result
  obtain ⟨success, -, sealedBytes, -, sameData, opens⟩ :=
    null_crypters_byte_exact fnvCrypter .isClient 7 ⟨0, 5⟩ ⟨25, 3⟩ 16 23 s separate (by decide)
  have plaintext : s.memory.read ⟨25, 3⟩ = [25, 26, 27] := by decide
  refine ⟨success, ?_, ?_⟩
  · have tail := Memory.read_drop result.2.memory ⟨16, 23⟩ 20 (by decide)
    have front : (List.replicate 8 0 ++ fnvCrypter.tag .isClient (s.memory.read ⟨0, 5⟩)
        (s.memory.read ⟨25, 3⟩)).length = 20 := by
      rw [List.length_append, fnvCrypter.tag_length, List.length_replicate]
    rw [← List.append_assoc] at sealedBytes
    rw [show (⟨36, 3⟩ : Range) = Range.drop ⟨16, 23⟩ 20 from rfl, tail]
    rw [show result.2.memory.read ⟨16, 23⟩ = _ from sealedBytes, List.drop_left' front, plaintext]
  · exact (opens 7 result.2 ⟨0, 5⟩ ⟨16, 23⟩ 16 3 rfl sameData (by decide)).2.2.1.trans plaintext

end WebTransportDemo.Guarantees.NullCrypterMemory
