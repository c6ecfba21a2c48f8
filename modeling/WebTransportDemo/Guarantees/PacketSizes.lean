import WebTransportDemo.Source.NullCrypterSizes
import WebTransportDemo.Guarantees.NullCrypterMemory

/-!
# The size functions and EncryptPacket agree

Packets are sized with one function and sealed with another. The three agree for every plaintext
and every buffer, in the arithmetic of the machine: below the prefix, between the prefix and the
prefix with the tag, and above.
-/
namespace WebTransportDemo.Guarantees.PacketSizes
open Library Source WebTransportNullEncrypter

section
variable (base : SizedNullCrypter)

/-- The smallest packet is the prefix and the tag. -/
theorem getCiphertextSize_zero : (getCiphertextSize base 0).toNat = 20 :=
  getCiphertextSize_toNat base (by decide)

theorem getCiphertextSize_mono {n n' : UInt64} (longer : n ≤ n') (small : n'.toNat + 20 < 2 ^ 64) :
    getCiphertextSize base n ≤ getCiphertextSize base n' := by
  rw [UInt64.le_iff_toNat_le] at longer ⊢
  rw [getCiphertextSize_toNat base (by omega), getCiphertextSize_toNat base small]
  omega

theorem getMaxPlaintextSize_mono {m m' : UInt64} (larger : m ≤ m') :
    (getMaxPlaintextSize base m).value ≤ (getMaxPlaintextSize base m').value := by
  rw [UInt64.le_iff_toNat_le] at larger ⊢
  rw [getMaxPlaintextSize_toNat, getMaxPlaintextSize_toNat]
  omega

/-- A plaintext fits a buffer by one size function exactly when it does by the other. -/
theorem fits_iff_max {n m : UInt64} (small : n.toNat + 20 < 2 ^ 64)
    (large : getCiphertextSize base 0 ≤ m) :
    getCiphertextSize base n ≤ m ↔ n ≤ (getMaxPlaintextSize base m).value := by
  rw [UInt64.le_iff_toNat_le, getCiphertextSize_zero] at large
  rw [UInt64.le_iff_toNat_le, UInt64.le_iff_toNat_le, getCiphertextSize_toNat base small,
    getMaxPlaintextSize_toNat]
  omega

variable (p : Perspective) (packetNumber : Nat) (associatedData : Range) (start output : Nat)
  (n m : UInt64) (s : CallState)

/-- `EncryptPacket` succeeds with the length that `GetCiphertextSize` names, or fails. -/
theorem encryptPacketSized_cases (small : n.toNat + 20 < 2 ^ 64) :
    let result := encryptPacketSized base.toNullCrypter p packetNumber associatedData
      ⟨start, n.toNat⟩ output m s
    (getCiphertextSize base n ≤ m ∧ result.value.1 = true ∧
      result.value.2.outputLength = (getCiphertextSize base n).toNat) ∨
    (¬ getCiphertextSize base n ≤ m ∧ result.value.1 = false) := by
  intro result
  have size := getCiphertextSize_toNat base small
  have value : result.value = encryptPacket base.toNullCrypter p packetNumber associatedData
      ⟨start, n.toNat⟩ output m.toNat s :=
    encryptPacketSized_value base.toNullCrypter p packetNumber associatedData ⟨start, n.toNat⟩
      output m s
  rw [UInt64.le_iff_toNat_le, size, value]
  by_cases room : n.toNat + 20 ≤ m.toNat
  · left
    rw [encryptPacket_room base.toNullCrypter p packetNumber associatedData ⟨start, n.toNat⟩
      output m.toNat s room]
    exact ⟨room, rfl, rfl⟩
  · right
    rw [encryptPacket_short base.toNullCrypter p packetNumber associatedData ⟨start, n.toNat⟩
      output m.toNat s (Nat.lt_of_not_le room)]
    exact ⟨room, rfl⟩

end

/-- The size functions and `EncryptPacket` agree in 64-bit arithmetic. For every plaintext whose
sealed form has a length at all and every buffer, `EncryptPacket` succeeds exactly when
`GetCiphertextSize` of the plaintext fits, and, in a buffer for at least the empty packet, exactly
when the plaintext is within `GetMaxPlaintextSize`; in a smaller one nothing can be sealed and
`GetMaxPlaintextSize` says so. No subtraction wraps, both functions are monotone, and a sealed
packet always has the bytes that header protection samples. -/
theorem packet_sizes_agree (base : SizedNullCrypter) (p : Perspective) (packetNumber : Nat)
    (associatedData : Range) (start output : Nat) (n m : UInt64) (s : CallState)
    (small : n.toNat + 20 < 2 ^ 64) :
    let result := encryptPacketSized base.toNullCrypter p packetNumber associatedData
      ⟨start, n.toNat⟩ output m s
    let size := getCiphertextSize base n
    let limit := getMaxPlaintextSize base m
    (result.value.1 = true ↔ size ≤ m) ∧
    (getCiphertextSize base 0 ≤ m → (result.value.1 = true ↔ n ≤ limit.value)) ∧
    (result.value.1 = true → result.value.2.outputLength = size.toNat ∧ size ≤ m) ∧
    (m < getCiphertextSize base 0 → limit.value = 0 ∧ result.value.1 = false) ∧
    (limit.Exact ∧ result.Exact) ∧
    (∀ n', n ≤ n' → n'.toNat + 20 < 2 ^ 64 → size ≤ getCiphertextSize base n') ∧
    (∀ m', m ≤ m' → limit.value ≤ (getMaxPlaintextSize base m').value) ∧
    ∀ packetNumberLength, 1 ≤ packetNumberLength → result.value.1 = true →
      4 + 16 ≤ packetNumberLength + result.value.2.outputLength := by
  intro result size limit
  have length : size.toNat = n.toNat + 20 := getCiphertextSize_toNat base small
  have cases := encryptPacketSized_cases base p packetNumber associatedData start output n m s small
  have succeeds : result.value.1 = true ↔ size ≤ m := by
    rcases cases with ⟨room, success, written⟩ | ⟨full, failure⟩
    · exact iff_of_true success room
    · exact iff_of_false (Bool.eq_false_iff.mp failure) full
  have written : result.value.1 = true →
      result.value.2.outputLength = size.toNat ∧ size ≤ m := by
    intro success
    rcases cases with ⟨room, -, written⟩ | ⟨full, failure⟩
    · exact ⟨written, room⟩
    · exact absurd (succeeds.mp success) full
  refine ⟨succeeds, ?_, written, ?_, ?_, ?_, ?_, ?_⟩
  · intro large
    exact succeeds.trans (fits_iff_max base small large)
  · intro tiny
    have bound := UInt64.lt_iff_toNat_lt.mp tiny
    rw [getCiphertextSize_zero] at bound
    constructor
    · apply UInt64.toNat_inj.mp
      rw [getMaxPlaintextSize_toNat, UInt64.toNat_zero]
      omega
    · apply Bool.eq_false_iff.mpr
      rw [ne_eq, succeeds, UInt64.le_iff_toNat_le, length]
      omega
  · exact ⟨getMaxPlaintextSize_exact base m, encryptPacketSized_exact base.toNullCrypter p
      packetNumber associatedData ⟨start, n.toNat⟩ output m s⟩
  · intro n' longer small'
    exact getCiphertextSize_mono base longer small'
  · intro m' larger
    exact getMaxPlaintextSize_mono base larger
  · intro packetNumberLength positive success
    rw [(written success).1, length]
    omega

/-- The pair of the FNV tag, with its size functions. -/
def sizedFnvCrypter : SizedNullCrypter where
  toNullCrypter := NullCrypterMemory.fnvCrypter
  getCiphertextSize plaintextSize := plaintextSize + 12
  getMaxPlaintextSize ciphertextSize :=
    Arithmetic.subtract ciphertextSize (min ciphertextSize 12)
  getCiphertextSize_eq _ := rfl
  getMaxPlaintextSize_eq _ := rfl

/-- Five bytes, sealed in place, just fit a buffer of twenty-five. -/
theorem packet_sizes_agree_exact_fit :
    let s : CallState := ⟨fun address => UInt8.ofNat address, 0⟩
    let result := encryptPacketSized sizedFnvCrypter.toNullCrypter .isClient 7 ⟨100, 4⟩
      ⟨0, (5 : UInt64).toNat⟩ 0 25 s
    result.value.1 = true ∧ result.value.2.outputLength = 25 := by
  intro s result
  obtain ⟨succeeds, -, written, -⟩ :=
    packet_sizes_agree sizedFnvCrypter .isClient 7 ⟨100, 4⟩ 0 0 5 25 s (by decide)
  have success : result.value.1 = true := succeeds.mpr (by decide)
  exact ⟨success, (written success).1⟩

end WebTransportDemo.Guarantees.PacketSizes
