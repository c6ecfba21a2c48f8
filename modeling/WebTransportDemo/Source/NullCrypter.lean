import WebTransportDemo.Library.ByteMemory
import WebTransportDemo.Library.Ostream

/-!
# WebTransportNullEncrypter and WebTransportNullDecrypter

`samples/web_transport_null_encrypter.cc` and `samples/web_transport_null_decrypter.cc`: the null
1-RTT crypters, which put eight bytes before the output of `quic::NullEncrypter`
and strip them before calling `quic::NullDecrypter`.

The base classes are in the `quiche` submodule and are a parameter, `NullCrypter`. Its laws are
their documented behaviour: a 12-byte tag, determined by the sender's perspective, the associated
data and the plaintext, stands before the plaintext, and no packet number enters it. Arguments
that the callers hand over as `string_view` are address ranges of one memory and are read at
the call; `plaintext_copy` and `null_ciphertext` are strings of their own.
-/
namespace WebTransportDemo.Source
open Library

inductive Perspective where
  | isServer | isClient
  deriving DecidableEq, Repr

def Perspective.opposite : Perspective → Perspective
  | .isServer => .isClient
  | .isClient => .isServer

@[simp] theorem Perspective.opposite_opposite (p : Perspective) : p.opposite.opposite = p := by
  cases p <;> rfl

/-- What a crypter call can change: memory and `*output_length`. -/
@[ext] structure CallState where
  memory : Memory UInt8
  outputLength : Nat

/-- `quic::NullEncrypter` and `quic::NullDecrypter`. The tag is checked before any write. -/
structure NullCrypter where
  tag : (sender : Perspective) → (associatedData plaintext : Bytes) → Bytes
  encryptPacket : Perspective → (packetNumber : Nat) → (associatedData : Range) →
    (plaintext : Bytes) → (output maxOutputLength : Nat) → CallState → Bool × CallState
  decryptPacket : Perspective → (packetNumber : Nat) → (associatedData : Range) →
    (ciphertext : Bytes) → (output maxOutputLength : Nat) → CallState → Bool × CallState
  tag_length : ∀ sender associatedData plaintext,
    (tag sender associatedData plaintext).length = 12
  encrypt_fits : ∀ p number ad plaintext output room s, 12 + plaintext.length ≤ room →
    encryptPacket p number ad plaintext output room s =
      (true, ⟨s.memory.write output (tag p (s.memory.read ad) plaintext ++ plaintext),
        12 + plaintext.length⟩)
  encrypt_short : ∀ p number ad plaintext output room s, room < 12 + plaintext.length →
    encryptPacket p number ad plaintext output room s = (false, s)
  decrypt_accepts : ∀ p number ad plaintext output room s, plaintext.length ≤ room →
    decryptPacket p number ad (tag p.opposite (s.memory.read ad) plaintext ++ plaintext)
        output room s =
      (true, ⟨s.memory.write output plaintext, plaintext.length⟩)
  decrypt_rejects : ∀ p number ad ciphertext output room s,
    (∀ plaintext, plaintext.length ≤ room →
      ciphertext ≠ tag p.opposite (s.memory.read ad) plaintext ++ plaintext) →
    decryptPacket p number ad ciphertext output room s = (false, s)

def kSamplePrefixSize : Nat := 8

/-- `WebTransportNullEncrypter::EncryptPacket`. -/
def WebTransportNullEncrypter.encryptPacket (base : NullCrypter) (perspective : Perspective)
    (packetNumber : Nat) (associatedData plaintext : Range) (output maxOutputLength : Nat)
    (s : CallState) : Bool × CallState :=
  if maxOutputLength < kSamplePrefixSize then (false, s)
  else
    let plaintextCopy := s.memory.read plaintext
    let prefixed := s.memory.fill output 0 kSamplePrefixSize
    -- `null_output_length` is a local; `*output_length` is written only on success.
    let result := base.encryptPacket perspective packetNumber associatedData plaintextCopy
      (output + kSamplePrefixSize) (maxOutputLength - kSamplePrefixSize) ⟨prefixed, 0⟩
    if result.1 then (true, ⟨result.2.memory, kSamplePrefixSize + result.2.outputLength⟩)
    else (false, ⟨result.2.memory, s.outputLength⟩)

/-- `WebTransportNullDecrypter::DecryptPacket`; the error logs are left out. -/
def WebTransportNullDecrypter.decryptPacket (base : NullCrypter) (perspective : Perspective)
    (packetNumber : Nat) (associatedData ciphertext : Range) (output maxOutputLength : Nat)
    (s : CallState) : Bool × CallState :=
  if ciphertext.length < kSamplePrefixSize then (false, s)
  else
    let nullCiphertext := s.memory.read (ciphertext.drop kSamplePrefixSize)
    base.decryptPacket perspective packetNumber associatedData nullCiphertext output
      maxOutputLength s

/-- The sealed form: eight zero bytes, the tag and the plaintext. -/
def NullCrypter.sealed (base : NullCrypter) (sender : Perspective)
    (associatedData plaintext : Bytes) : Bytes :=
  List.replicate kSamplePrefixSize 0 ++ (base.tag sender associatedData plaintext ++ plaintext)

theorem NullCrypter.sealed_length (base : NullCrypter) (sender : Perspective)
    (associatedData plaintext : Bytes) :
    (base.sealed sender associatedData plaintext).length = plaintext.length + 20 := by
  simp only [NullCrypter.sealed, List.length_append, List.length_replicate, base.tag_length,
    kSamplePrefixSize]
  omega

/-- With room for the prefix, the tag and the plaintext, `EncryptPacket` succeeds. The tag is taken
of the associated data as the `memset` left it. -/
theorem encryptPacket_room (base : NullCrypter) (p : Perspective) (packetNumber : Nat)
    (associatedData plaintext : Range) (output maxOutputLength : Nat) (s : CallState)
    (room : plaintext.length + 20 ≤ maxOutputLength) :
    let prefixed := s.memory.fill output 0 kSamplePrefixSize
    WebTransportNullEncrypter.encryptPacket base p packetNumber associatedData plaintext output
        maxOutputLength s =
      (true, ⟨prefixed.write (output + kSamplePrefixSize)
          (base.tag p (prefixed.read associatedData) (s.memory.read plaintext) ++
            s.memory.read plaintext), plaintext.length + 20⟩) := by
  intro prefixed
  have fits : 12 + (s.memory.read plaintext).length ≤ maxOutputLength - kSamplePrefixSize := by
    rw [Memory.read_length, kSamplePrefixSize]
    omega
  have enough : ¬ maxOutputLength < kSamplePrefixSize := by
    rw [kSamplePrefixSize]
    omega
  have total : kSamplePrefixSize + (12 + (s.memory.read plaintext).length) =
      plaintext.length + 20 := by
    rw [Memory.read_length, kSamplePrefixSize]
    omega
  rw [WebTransportNullEncrypter.encryptPacket, if_neg enough]
  simp only [base.encrypt_fits _ _ _ _ _ _ _ fits, if_true, total, prefixed]

/-- With room for the sealed form, and associated data that the eight prefix bytes do not
overwrite, one write of the sealed form is all that `EncryptPacket` does to memory, wherever the
plaintext stands. -/
theorem encryptPacket_fits (base : NullCrypter) (p : Perspective) (packetNumber : Nat)
    (associatedData plaintext : Range) (output maxOutputLength : Nat) (s : CallState)
    (separate : associatedData.DisjointFrom ⟨output, kSamplePrefixSize⟩)
    (room : plaintext.length + 20 ≤ maxOutputLength) :
    WebTransportNullEncrypter.encryptPacket base p packetNumber associatedData plaintext output
        maxOutputLength s =
      (true, ⟨s.memory.write output
          (base.sealed p (s.memory.read associatedData) (s.memory.read plaintext)),
        plaintext.length + 20⟩) := by
  have intact : (s.memory.fill output 0 kSamplePrefixSize).read associatedData =
      s.memory.read associatedData := by
    apply Memory.read_write_disjoint
    rwa [List.length_replicate]
  have joined := Memory.write_write_append s.memory output
    (List.replicate kSamplePrefixSize (0 : UInt8))
    (base.tag p (s.memory.read associatedData) (s.memory.read plaintext) ++
      s.memory.read plaintext)
  rw [List.length_replicate] at joined
  rw [encryptPacket_room base p packetNumber associatedData plaintext output maxOutputLength s room,
    intact, Memory.fill, joined, NullCrypter.sealed]

/-- Without that room `EncryptPacket` fails, in one of two places: before the `memset` or after. -/
theorem encryptPacket_short (base : NullCrypter) (p : Perspective) (packetNumber : Nat)
    (associatedData plaintext : Range) (output maxOutputLength : Nat) (s : CallState)
    (short : maxOutputLength < plaintext.length + 20) :
    WebTransportNullEncrypter.encryptPacket base p packetNumber associatedData plaintext output
        maxOutputLength s =
      (false, if maxOutputLength < kSamplePrefixSize then s
        else ⟨s.memory.fill output 0 kSamplePrefixSize, s.outputLength⟩) := by
  rw [WebTransportNullEncrypter.encryptPacket]
  split
  · rfl
  · have full : maxOutputLength - kSamplePrefixSize < 12 + (s.memory.read plaintext).length := by
      rw [Memory.read_length, kSamplePrefixSize]
      omega
    simp only [base.encrypt_short _ _ _ _ _ _ _ full, Bool.false_eq_true, if_false]

/-- The format that a receiver accepts: any eight bytes, then the tag that the opposite perspective
puts before `plaintext`, then `plaintext`. -/
def NullCrypter.Carries (base : NullCrypter) (receiver : Perspective)
    (associatedData ciphertext plaintext : Bytes) : Prop :=
  ∃ samplePrefix : Bytes, samplePrefix.length = kSamplePrefixSize ∧
    ciphertext = samplePrefix ++
      (base.tag receiver.opposite associatedData plaintext ++ plaintext)

/-- Behind the sample prefix of such a ciphertext stands what `quic::NullEncrypter` wrote. -/
theorem NullCrypter.Carries.stripped {base : NullCrypter} {receiver : Perspective}
    {associatedData ciphertext plaintext : Bytes}
    (carried : base.Carries receiver associatedData ciphertext plaintext) :
    ciphertext.drop kSamplePrefixSize =
      base.tag receiver.opposite associatedData plaintext ++ plaintext := by
  obtain ⟨samplePrefix, size, rfl⟩ := carried
  exact List.drop_left' size

theorem NullCrypter.Carries.length_eq {base : NullCrypter} {receiver : Perspective}
    {associatedData ciphertext plaintext : Bytes}
    (carried : base.Carries receiver associatedData ciphertext plaintext) :
    ciphertext.length = plaintext.length + 20 := by
  obtain ⟨samplePrefix, size, rfl⟩ := carried
  simp only [List.length_append, size, base.tag_length, kSamplePrefixSize]
  omega

/-- `DecryptPacket` on a ciphertext of the accepted format, with room for its plaintext. -/
theorem decryptPacket_carried (base : NullCrypter) (p : Perspective) (packetNumber : Nat)
    (associatedData ciphertext : Range) (output maxOutputLength : Nat) (s : CallState)
    (plaintext : Bytes)
    (carried : base.Carries p (s.memory.read associatedData) (s.memory.read ciphertext) plaintext)
    (room : plaintext.length ≤ maxOutputLength) :
    WebTransportNullDecrypter.decryptPacket base p packetNumber associatedData ciphertext output
        maxOutputLength s =
      (true, ⟨s.memory.write output plaintext, plaintext.length⟩) := by
  have size : ciphertext.length = plaintext.length + 20 := by
    rw [← Memory.read_length s.memory ciphertext, carried.length_eq]
  have long : kSamplePrefixSize ≤ ciphertext.length := by
    rw [size, kSamplePrefixSize]
    omega
  rw [WebTransportNullDecrypter.decryptPacket, if_neg (Nat.not_lt.mpr long)]
  simp only [Memory.read_drop _ _ _ long, carried.stripped]
  exact base.decrypt_accepts p packetNumber associatedData plaintext output maxOutputLength s room

/-- `DecryptPacket` on a ciphertext that carries the sealed form of `plaintext` for the opposite
perspective and the associated data it is given. -/
theorem decryptPacket_sealed (base : NullCrypter) (p : Perspective) (packetNumber : Nat)
    (associatedData ciphertext : Range) (output maxOutputLength : Nat) (s : CallState)
    (plaintext : Bytes)
    (carries : s.memory.read ciphertext =
      base.sealed p.opposite (s.memory.read associatedData) plaintext)
    (room : plaintext.length ≤ maxOutputLength) :
    WebTransportNullDecrypter.decryptPacket base p packetNumber associatedData ciphertext output
        maxOutputLength s =
      (true, ⟨s.memory.write output plaintext, plaintext.length⟩) :=
  decryptPacket_carried base p packetNumber associatedData ciphertext output maxOutputLength s
    plaintext ⟨_, List.length_replicate .., carries⟩ room

/-- `DecryptPacket` on any other ciphertext, or without room for the plaintext, fails before it
writes anything. -/
theorem decryptPacket_rejected (base : NullCrypter) (p : Perspective) (packetNumber : Nat)
    (associatedData ciphertext : Range) (output maxOutputLength : Nat) (s : CallState)
    (foreign : ∀ plaintext : Bytes, plaintext.length ≤ maxOutputLength →
      ¬ base.Carries p (s.memory.read associatedData) (s.memory.read ciphertext) plaintext) :
    WebTransportNullDecrypter.decryptPacket base p packetNumber associatedData ciphertext output
      maxOutputLength s = (false, s) := by
  rw [WebTransportNullDecrypter.decryptPacket]
  split
  · rfl
  · rename_i long
    have enough : kSamplePrefixSize ≤ ciphertext.length := Nat.not_lt.mp long
    apply base.decrypt_rejects
    intro plaintext room stripped
    apply foreign plaintext room
    refine ⟨(s.memory.read ciphertext).take kSamplePrefixSize, ?_, ?_⟩
    · rw [List.length_take, Memory.read_length, Nat.min_eq_left enough]
    · rw [← stripped, Memory.read_drop _ _ _ enough, List.take_append_drop]

/-- Every call of `DecryptPacket` is one of two: it opens what the ciphertext carries, or it leaves
no trace. -/
theorem decryptPacket_cases (base : NullCrypter) (p : Perspective) (packetNumber : Nat)
    (associatedData ciphertext : Range) (output maxOutputLength : Nat) (s : CallState) :
    (∃ plaintext : Bytes, plaintext.length ≤ maxOutputLength ∧
      base.Carries p (s.memory.read associatedData) (s.memory.read ciphertext) plaintext ∧
      WebTransportNullDecrypter.decryptPacket base p packetNumber associatedData ciphertext output
        maxOutputLength s = (true, ⟨s.memory.write output plaintext, plaintext.length⟩)) ∨
    ((∀ plaintext : Bytes, plaintext.length ≤ maxOutputLength →
      ¬ base.Carries p (s.memory.read associatedData) (s.memory.read ciphertext) plaintext) ∧
      WebTransportNullDecrypter.decryptPacket base p packetNumber associatedData ciphertext output
        maxOutputLength s = (false, s)) := by
  by_cases accepted : ∃ plaintext : Bytes, plaintext.length ≤ maxOutputLength ∧
      base.Carries p (s.memory.read associatedData) (s.memory.read ciphertext) plaintext
  · left
    obtain ⟨plaintext, room, carried⟩ := accepted
    exact ⟨plaintext, room, carried, decryptPacket_carried base p packetNumber associatedData
      ciphertext output maxOutputLength s plaintext carried room⟩
  · right
    have foreign : ∀ plaintext : Bytes, plaintext.length ≤ maxOutputLength →
        ¬ base.Carries p (s.memory.read associatedData) (s.memory.read ciphertext) plaintext := by
      intro plaintext room carried
      exact accepted ⟨plaintext, room, carried⟩
    exact ⟨foreign, decryptPacket_rejected base p packetNumber associatedData ciphertext output
      maxOutputLength s foreign⟩

/-- A failed call of `DecryptPacket` leaves memory and `*output_length` as they were. -/
theorem decryptPacket_failed (base : NullCrypter) (p : Perspective) (packetNumber : Nat)
    (associatedData ciphertext : Range) (output maxOutputLength : Nat) (s : CallState) :
    let result := WebTransportNullDecrypter.decryptPacket base p packetNumber associatedData
      ciphertext output maxOutputLength s
    result.1 = false → result.2 = s := by
  intro result failure
  rcases decryptPacket_cases base p packetNumber associatedData ciphertext output maxOutputLength s
    with ⟨plaintext, room, carried, opened⟩ | ⟨foreign, failed⟩
  · simp only [result, opened, Bool.true_eq_false] at failure
  · simp only [result, failed]

end WebTransportDemo.Source
