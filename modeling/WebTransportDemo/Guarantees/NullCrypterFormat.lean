import WebTransportDemo.Source.NullCrypter

/-!
# The null decrypter accepts exactly the encrypter's format

A datagram from the network is an arbitrary byte string. `DecryptPacket` looks at its length once
more before the base class looks at what is left, so the accepted language is settled here as a
whole: every byte string of every length, in both directions.
-/
namespace WebTransportDemo.Guarantees.NullCrypterFormat
open Library Source

/-- A ciphertext of the format carries one plaintext only: the tag has a fixed length. -/
theorem carried_unique {base : NullCrypter} {receiver : Perspective}
    {associatedData ciphertext first second : Bytes}
    (one : base.Carries receiver associatedData ciphertext first)
    (other : base.Carries receiver associatedData ciphertext second) : second = first := by
  have same := other.stripped.symm.trans one.stripped
  have tags : (base.tag receiver.opposite associatedData second).length =
      (base.tag receiver.opposite associatedData first).length := by
    rw [base.tag_length, base.tag_length]
  exact (List.append_inj same tags).2

/-- Whether a ciphertext carries `plaintext` can be read behind its sample prefix. -/
theorem carried_iff_stripped {base : NullCrypter} {receiver : Perspective}
    {associatedData ciphertext plaintext : Bytes} (long : kSamplePrefixSize ≤ ciphertext.length) :
    base.Carries receiver associatedData ciphertext plaintext ↔
      ciphertext.drop kSamplePrefixSize =
        base.tag receiver.opposite associatedData plaintext ++ plaintext := by
  constructor
  · intro carried
    exact carried.stripped
  · intro stripped
    refine ⟨ciphertext.take kSamplePrefixSize, ?_, ?_⟩
    · rw [List.length_take, Nat.min_eq_left long]
    · rw [← stripped, List.take_append_drop]

/-- What a call hands to its caller: the bytes of the output, or nothing. -/
def delivered (output : Nat) (result : Bool × CallState) : Option Bytes :=
  if result.1 then some (result.2.memory.read ⟨output, result.2.outputLength⟩) else none

section
variable (base : NullCrypter) (p : Perspective) (packetNumber : Nat)
  (associatedData ciphertext : Range) (output maxOutputLength : Nat) (s : CallState)

/-- The delivered bytes are the plaintext that the ciphertext carries. -/
theorem delivered_iff (plaintext : Bytes) :
    delivered output (WebTransportNullDecrypter.decryptPacket base p packetNumber associatedData
        ciphertext output maxOutputLength s) = some plaintext ↔
      plaintext.length ≤ maxOutputLength ∧
        base.Carries p (s.memory.read associatedData) (s.memory.read ciphertext) plaintext := by
  rcases decryptPacket_cases base p packetNumber associatedData ciphertext output maxOutputLength s
    with ⟨opened, room, carried, result⟩ | ⟨foreign, result⟩
  · rw [result, delivered, if_pos rfl, Memory.read_write_same, Option.some_inj]
    constructor
    · rintro rfl
      exact ⟨room, carried⟩
    · intro expected
      exact carried_unique expected.2 carried
  · rw [result, delivered, if_neg Bool.false_ne_true]
    constructor
    · intro impossible
      cases impossible
    · intro expected
      exact absurd expected.2 (foreign plaintext expected.1)

/-- A call succeeds on the accepted format only, and on all of it. -/
theorem succeeds_iff :
    (WebTransportNullDecrypter.decryptPacket base p packetNumber associatedData ciphertext output
        maxOutputLength s).1 = true ↔
      ∃ plaintext, base.Carries p (s.memory.read associatedData) (s.memory.read ciphertext)
        plaintext ∧ plaintext.length ≤ maxOutputLength := by
  rcases decryptPacket_cases base p packetNumber associatedData ciphertext output maxOutputLength s
    with ⟨plaintext, room, carried, opened⟩ | ⟨foreign, failed⟩
  · exact iff_of_true (by rw [opened]) ⟨plaintext, carried, room⟩
  · apply iff_of_false
    · rw [failed]
      exact Bool.false_ne_true
    · rintro ⟨plaintext, carried, room⟩
      exact foreign plaintext room carried

end

/-- The null decrypter accepts exactly the encrypter's format, up to the sample prefix. A call
succeeds if and only if the ciphertext is eight bytes, the tag of the opposite perspective and a
plaintext that fits; that plaintext is the only one, it is what is output, and its length is
`*output_length`. A call that fails writes nothing. Neither the packet number nor the eight bytes
nor the placement of the ranges has any influence on what is delivered. -/
theorem decrypter_accepts_exactly (base : NullCrypter) (p : Perspective) (packetNumber : Nat)
    (associatedData ciphertext : Range) (output maxOutputLength : Nat) (s : CallState) :
    let result := WebTransportNullDecrypter.decryptPacket base p packetNumber associatedData
      ciphertext output maxOutputLength s
    let carries := base.Carries p (s.memory.read associatedData) (s.memory.read ciphertext)
    (result.1 = true ↔ ∃ plaintext, carries plaintext ∧ plaintext.length ≤ maxOutputLength) ∧
    (∀ plaintext, carries plaintext →
      (∀ other, carries other → other = plaintext) ∧
      (plaintext.length ≤ maxOutputLength →
        result.2.memory.read ⟨output, plaintext.length⟩ = plaintext ∧
        result.2.outputLength = plaintext.length ∧
        ∀ address, ¬ (⟨output, plaintext.length⟩ : Range).Contains address →
          result.2.memory address = s.memory address)) ∧
    (result.1 = false → result.2 = s) ∧
    ∀ (packetNumber' : Nat) (associatedData' ciphertext' : Range) (output' : Nat) (t : CallState),
      t.memory.read associatedData' = s.memory.read associatedData →
      kSamplePrefixSize ≤ ciphertext.length → kSamplePrefixSize ≤ ciphertext'.length →
      (t.memory.read ciphertext').drop kSamplePrefixSize =
        (s.memory.read ciphertext).drop kSamplePrefixSize →
      delivered output' (WebTransportNullDecrypter.decryptPacket base p packetNumber'
        associatedData' ciphertext' output' maxOutputLength t) = delivered output result := by
  intro result carries
  refine ⟨?_, ?_, ?_, ?_⟩
  · exact succeeds_iff base p packetNumber associatedData ciphertext output maxOutputLength s
  · intro plaintext carried
    refine ⟨fun other => carried_unique carried, fun room => ?_⟩
    have opened := decryptPacket_carried base p packetNumber associatedData ciphertext output
      maxOutputLength s plaintext carried room
    simp only [result, opened, true_and]
    exact ⟨Memory.read_write_same _ _ _, fun address outside =>
      Memory.write_outside _ _ _ outside⟩
  · exact decryptPacket_failed base p packetNumber associatedData ciphertext output maxOutputLength s
  · intro packetNumber' associatedData' ciphertext' output' t sameData long long' sameRest
    apply Option.ext
    intro plaintext
    rw [delivered_iff, delivered_iff, carried_iff_stripped (by rwa [Memory.read_length]),
      carried_iff_stripped (by rwa [Memory.read_length]), sameData, sameRest]

end WebTransportDemo.Guarantees.NullCrypterFormat
