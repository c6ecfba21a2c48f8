import WebTransportDemo.Guarantees.NullCrypterMemory

/-!
# What a failed seal or open leaves behind

The base classes check everything before their first write, and `DecryptPacket` of the subclass
keeps that order. `EncryptPacket` zeroes the sample prefix before the base class looks at the room
that is left, so a buffer that has room for the prefix and not for the whole packet loses its first
eight bytes in a call that returns false.
-/
namespace WebTransportDemo.Guarantees.FailedCrypterCalls
open Library Source

section
variable (base : NullCrypter) (p : Perspective) (packetNumber : Nat)
  (associatedData plaintext : Range) (output maxOutputLength : Nat) (s : CallState)

/-- A failed seal leaves memory and `*output_length` as they were exactly when the buffer has no room
for the sample prefix, or has room for the whole packet (the call does not fail then), or begins
with eight zero bytes already. -/
theorem failed_seal_leaves_memory_iff :
    let encrypted := WebTransportNullEncrypter.encryptPacket base p packetNumber associatedData
      plaintext output maxOutputLength s
    (encrypted.1 = false → encrypted.2 = s) ↔
      maxOutputLength < 8 ∨ plaintext.length + 20 ≤ maxOutputLength ∨
        s.memory.read ⟨output, 8⟩ = List.replicate 8 0 := by
  intro encrypted
  by_cases room : plaintext.length + 20 ≤ maxOutputLength
  · apply iff_of_true
    · intro failure
      simp only [encrypted, encryptPacket_room base p packetNumber associatedData plaintext output
        maxOutputLength s room, Bool.true_eq_false] at failure
    · exact .inr (.inl room)
  · have short := encryptPacket_short base p packetNumber associatedData plaintext output
      maxOutputLength s (Nat.lt_of_not_le room)
    by_cases small : maxOutputLength < kSamplePrefixSize
    · rw [if_pos small] at short
      apply iff_of_true
      · intro failure
        exact congrArg Prod.snd short
      · exact .inl small
    · rw [if_neg small] at short
      -- The second exit: the `memset` stays, so the prefix has to be there before the call.
      have zeroed := Memory.fill_eq_self_iff s.memory output 0 kSamplePrefixSize
      have kept : encrypted.2 = s ↔ s.memory.fill output 0 kSamplePrefixSize = s.memory := by
        simp only [encrypted, short, CallState.ext_iff, and_true]
      have failed : encrypted.1 = false := congrArg Prod.fst short
      rw [forall_prop_of_true failed, kept, zeroed]
      constructor
      · intro zeros
        exact .inr (.inr zeros)
      · intro harmless
        rcases harmless with tiny | roomy | zeros
        · exact absurd tiny small
        · exact absurd roomy room
        · exact zeros

end

/-- When a failed call leaves every byte of memory and `*output_length` as before. A failed seal does
exactly when the buffer has no room for the sample prefix, or has room for the whole packet, or
begins with eight zero bytes already. A failed open always does. -/
theorem failed_calls_leave_memory_iff (base : NullCrypter) (p : Perspective) :
    (∀ (packetNumber : Nat) (associatedData plaintext : Range) (output maxOutputLength : Nat)
      (s : CallState),
      let encrypted := WebTransportNullEncrypter.encryptPacket base p packetNumber associatedData
        plaintext output maxOutputLength s
      (encrypted.1 = false → encrypted.2 = s) ↔
        maxOutputLength < 8 ∨ plaintext.length + 20 ≤ maxOutputLength ∨
          s.memory.read ⟨output, 8⟩ = List.replicate 8 0) ∧
    ∀ (packetNumber : Nat) (associatedData ciphertext : Range) (output maxOutputLength : Nat)
      (s : CallState),
      let decrypted := WebTransportNullDecrypter.decryptPacket base p packetNumber associatedData
        ciphertext output maxOutputLength s
      decrypted.1 = false → decrypted.2 = s := by
  constructor
  · intro packetNumber associatedData plaintext output maxOutputLength s
    exact failed_seal_leaves_memory_iff base p packetNumber associatedData plaintext output
      maxOutputLength s
  · intro packetNumber associatedData ciphertext output maxOutputLength s
    exact decryptPacket_failed base p packetNumber associatedData ciphertext output
      maxOutputLength s

/-- Four bytes of plaintext sealed in place into a buffer of twelve: the call returns false, and the
plaintext is gone. -/
theorem failed_seal_zeroes_plaintext :
    ¬ ∀ (base : NullCrypter) (p : Perspective) (packetNumber : Nat) (associatedData input : Range)
      (output maxOutputLength : Nat) (s : CallState),
      let encrypted := WebTransportNullEncrypter.encryptPacket base p packetNumber associatedData
        input output maxOutputLength s
      let decrypted := WebTransportNullDecrypter.decryptPacket base p packetNumber associatedData
        input output maxOutputLength s
      (encrypted.1 = false → encrypted.2 = s) ∧ (decrypted.1 = false → decrypted.2 = s) := by
  intro always
  have untouched := (always NullCrypterMemory.fnvCrypter .isClient 1 ⟨100, 0⟩ ⟨0, 4⟩ 0 12
    ⟨fun _ => 7, 0⟩).1 (by decide)
  have firstByte := congrArg (fun t : CallState => t.memory 0) untouched
  exact absurd firstByte (by decide)

end WebTransportDemo.Guarantees.FailedCrypterCalls
