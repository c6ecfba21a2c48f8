import WebTransportDemo.Library.SizeArithmetic
import WebTransportDemo.Source.NullCrypter

/-!
# The sizes of WebTransportNullEncrypter

`samples/web_transport_null_encrypter.cc`, in the `size_t` arithmetic of the machine. The packet
creator sizes a packet with `GetMaxPlaintextSize` and `GetCiphertextSize` and seals it with
`EncryptPacket`; each of the three adds or takes away the prefix and the tag on its own. The size
functions of the base class are a parameter with the formulas they are documented to compute.
-/
namespace WebTransportDemo.Source
open Library Arithmetic

/-- `quic::NullEncrypter` with its size functions. -/
structure SizedNullCrypter extends NullCrypter where
  getCiphertextSize : UInt64 → UInt64
  getMaxPlaintextSize : UInt64 → Arithmetic UInt64
  getCiphertextSize_eq : ∀ plaintextSize, getCiphertextSize plaintextSize = plaintextSize + 12
  getMaxPlaintextSize_eq : ∀ ciphertextSize,
    getMaxPlaintextSize ciphertextSize = subtract ciphertextSize (min ciphertextSize 12)

namespace WebTransportNullEncrypter

/-- `kSamplePrefixSize` as the `size_t` it is. -/
def kSamplePrefixWord : UInt64 := UInt64.ofNat kSamplePrefixSize

theorem kSamplePrefixWord_toNat : kSamplePrefixWord.toNat = kSamplePrefixSize := rfl

/-- `WebTransportNullEncrypter::GetCiphertextSize`. -/
def getCiphertextSize (base : SizedNullCrypter) (plaintextSize : UInt64) : UInt64 :=
  kSamplePrefixWord + base.getCiphertextSize plaintextSize

/-- `WebTransportNullEncrypter::GetMaxPlaintextSize`. -/
def getMaxPlaintextSize (base : SizedNullCrypter) (ciphertextSize : UInt64) :
    Arithmetic UInt64 :=
  if ciphertextSize < kSamplePrefixWord then pure 0
  else do
    let rest ← subtract ciphertextSize kSamplePrefixWord
    base.getMaxPlaintextSize rest

/-- `EncryptPacket` once more, with `max_output_length` and `*output_length` in `size_t`. -/
def encryptPacketSized (base : NullCrypter) (perspective : Perspective) (packetNumber : Nat)
    (associatedData plaintext : Range) (output : Nat) (maxOutputLength : UInt64) (s : CallState) :
    Arithmetic (Bool × CallState) :=
  if maxOutputLength < kSamplePrefixWord then pure (false, s)
  else do
    let plaintextCopy := s.memory.read plaintext
    let prefixed := s.memory.fill output 0 kSamplePrefixSize
    let rest ← subtract maxOutputLength kSamplePrefixWord
    let result := base.encryptPacket perspective packetNumber associatedData plaintextCopy
      (output + kSamplePrefixSize) rest.toNat ⟨prefixed, 0⟩
    if result.1 then
      let length := kSamplePrefixWord + UInt64.ofNat result.2.outputLength
      pure (true, ⟨result.2.memory, length.toNat⟩)
    else pure (false, ⟨result.2.memory, s.outputLength⟩)

theorem getCiphertextSize_toNat (base : SizedNullCrypter) {plaintextSize : UInt64}
    (small : plaintextSize.toNat + 20 < 2 ^ 64) :
    (getCiphertextSize base plaintextSize).toNat = plaintextSize.toNat + 20 := by
  have twelve : (12 : UInt64).toNat = 12 := rfl
  have tag : (plaintextSize + 12).toNat = plaintextSize.toNat + 12 := by
    rw [toNat_add_of_lt (by omega), twelve]
  have prefixed := kSamplePrefixWord_toNat
  rw [kSamplePrefixSize] at prefixed
  rw [getCiphertextSize, base.getCiphertextSize_eq, toNat_add_of_lt (by omega), tag, prefixed]
  omega

theorem min_tag_le (size : UInt64) : min size 12 ≤ size := by
  rw [UInt64.le_iff_toNat_le, toNat_min]
  exact Nat.min_le_left _ _

/-- `GetMaxPlaintextSize` is the subtraction of twenty that stops at zero. -/
theorem getMaxPlaintextSize_toNat (base : SizedNullCrypter) (ciphertextSize : UInt64) :
    (getMaxPlaintextSize base ciphertextSize).value.toNat = ciphertextSize.toNat - 20 := by
  rw [getMaxPlaintextSize]
  split
  · rename_i short
    rw [UInt64.lt_iff_toNat_lt, kSamplePrefixWord_toNat, kSamplePrefixSize] at short
    rw [value_pure, UInt64.toNat_zero]
    omega
  · rename_i long
    have fits : kSamplePrefixWord ≤ ciphertextSize := UInt64.not_lt.mp long
    have rest := toNat_subtract fits
    have inner := toNat_subtract (min_tag_le (subtract ciphertextSize kSamplePrefixWord).value)
    have twelve : (12 : UInt64).toNat = 12 := rfl
    rw [value_bind, base.getMaxPlaintextSize_eq, inner, toNat_min, rest, kSamplePrefixWord_toNat,
      kSamplePrefixSize, twelve]
    omega

/-- No subtraction of `GetMaxPlaintextSize` wraps, the base class's included. -/
theorem getMaxPlaintextSize_exact (base : SizedNullCrypter) (ciphertextSize : UInt64) :
    (getMaxPlaintextSize base ciphertextSize).Exact := by
  rw [getMaxPlaintextSize]
  split
  · exact exact_pure 0
  · rename_i long
    apply exact_bind (exact_subtract (UInt64.not_lt.mp long))
    rw [base.getMaxPlaintextSize_eq]
    exact exact_subtract (min_tag_le _)

/-- Nor does one of `EncryptPacket`. -/
theorem encryptPacketSized_exact (base : NullCrypter) (p : Perspective) (packetNumber : Nat)
    (associatedData plaintext : Range) (output : Nat) (maxOutputLength : UInt64) (s : CallState) :
    (encryptPacketSized base p packetNumber associatedData plaintext output maxOutputLength
      s).Exact := by
  rw [encryptPacketSized]
  split
  · exact exact_pure _
  · rename_i long
    apply exact_bind (exact_subtract (UInt64.not_lt.mp long))
    dsimp only
    split <;> exact exact_pure _

/-- In `size_t`, `EncryptPacket` is what it is over natural numbers. -/
theorem encryptPacketSized_value (base : NullCrypter) (p : Perspective) (packetNumber : Nat)
    (associatedData plaintext : Range) (output : Nat) (maxOutputLength : UInt64) (s : CallState) :
    (encryptPacketSized base p packetNumber associatedData plaintext output maxOutputLength
      s).value =
      encryptPacket base p packetNumber associatedData plaintext output maxOutputLength.toNat s := by
  by_cases short : maxOutputLength < kSamplePrefixWord
  · have tooShort : maxOutputLength.toNat < kSamplePrefixSize := UInt64.lt_iff_toNat_lt.mp short
    rw [encryptPacketSized, if_pos short, encryptPacket, if_pos tooShort]
    rfl
  · have fits : kSamplePrefixWord ≤ maxOutputLength := UInt64.not_lt.mp short
    have enough : ¬ maxOutputLength.toNat < kSamplePrefixSize :=
      Nat.not_lt.mpr (UInt64.le_iff_toNat_le.mp fits)
    have rest := toNat_subtract fits
    rw [value_subtract, kSamplePrefixWord_toNat] at rest
    rw [encryptPacketSized, if_neg short, encryptPacket, if_neg enough]
    simp only [value_bind, value_subtract, rest]
    rcases Nat.lt_or_ge (maxOutputLength.toNat - kSamplePrefixSize)
      (12 + (s.memory.read plaintext).length) with full | room
    · rw [base.encrypt_short _ _ _ _ _ _ _ full]
      rfl
    · -- What the base class wrote fits the buffer, so the sum of the lengths is below 2 ^ 64.
      have bound := maxOutputLength.toNat_lt
      have eight : kSamplePrefixSize = 8 := rfl
      have below : 12 + (s.memory.read plaintext).length < UInt64.size := by
        rw [UInt64.size]
        omega
      have written := UInt64.toNat_ofNat_of_lt' below
      have prefixed := kSamplePrefixWord_toNat
      have total : (kSamplePrefixWord + UInt64.ofNat (12 + (s.memory.read plaintext).length)).toNat =
          kSamplePrefixSize + (12 + (s.memory.read plaintext).length) := by
        rw [toNat_add_of_lt (by omega), written, prefixed]
      rw [base.encrypt_fits _ _ _ _ _ _ _ room, if_pos rfl, if_pos rfl, value_pure, total]

end WebTransportNullEncrypter

end WebTransportDemo.Source
