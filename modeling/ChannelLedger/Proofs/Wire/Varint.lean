import Mathlib
import ChannelLedger.Proofs.Outcome
import ChannelLedger.Wire.Key

/-!
# Numbers and keys survive their encoding

What a varint or a key is written as is read back, whatever stands behind it
(`Varint.read_write`, `Key.read_write`). A key keeps its wire type in three bits and must fit in
32, which bounds the field numbers that can be written (`Key.IsNumber`).
-/
namespace ChannelLedger.Wire

open Outcome

namespace Varint

/-- The last byte of a varint has no high bit. -/
theorem lastByte {n : Nat} (h : n < 0x80) : (UInt8.ofNat n).toNat = n ∧ UInt8.ofNat n < 0x80 := by
  have hbyte : (UInt8.ofNat n).toNat = n := UInt8.toNat_ofNat_of_lt' (Nat.lt_trans h (by decide))
  refine ⟨hbyte, ?_⟩
  rw [UInt8.lt_iff_toNat_lt, hbyte]
  exact h

/-- Writing in groups of seven bits, read back. The last byte a varint may have carries one bit,
hence the bound. -/
theorem readUpTo_writeUpTo {left n : Nat} (h : n < 2 * 128 ^ left) (rest : Bytes) :
    readUpTo (left + 1) (writeUpTo (left + 1) n ++ rest) = some (n, rest) := by
  induction left generalizing n with
  | zero =>
    have hlt : n < 0x80 := by omega
    obtain ⟨hbyte, hsmall⟩ := lastByte hlt
    have hbit : ¬ 1 < UInt8.ofNat n := by
      rw [UInt8.lt_iff_toNat_lt, hbyte]
      simp
      omega
    simp only [writeUpTo, hlt, if_true, List.cons_append, List.nil_append, readUpTo, hsmall,
      hbit, and_false, if_false, hbyte]
  | succ left ih =>
    by_cases hlt : n < 0x80
    · obtain ⟨hbyte, hsmall⟩ := lastByte hlt
      have hleft : ¬ (left + 1 = 0 ∧ 1 < UInt8.ofNat n) := by omega
      rw [writeUpTo, if_pos hlt, List.singleton_append, readUpTo, if_pos hsmall, if_neg hleft,
        hbyte]
    · have hbyte : (UInt8.ofNat (0x80 + n % 128)).toNat = 0x80 + n % 128 := by
        rw [UInt8.toNat_ofNat']
        omega
      have hlarge : ¬ UInt8.ofNat (0x80 + n % 128) < 0x80 := by
        rw [UInt8.lt_iff_toNat_lt, hbyte]
        simp
      have hrest := ih (n := n / 128) (by rw [Nat.pow_succ] at h; omega)
      have hsum : 0x80 + n % 128 - 0x80 + 128 * (n / 128) = n := by omega
      rw [writeUpTo, if_neg hlt, List.cons_append, readUpTo, if_neg hlarge, hrest]
      simp only [Option.map_some, hbyte, hsum]

/-- **A number is read back from its varint.** -/
theorem read_write (n : UInt64) (rest : Bytes) : read (write n ++ rest) = .ok (n, rest) := by
  have hn : n.toNat < 2 * 128 ^ 9 := n.toNat_lt
  simp only [read, write, maxLength, readUpTo_writeUpTo hn, UInt64.ofNat_toNat]

theorem write_ne_nil (n : UInt64) : write n ≠ [] := by
  unfold write maxLength writeUpTo
  split <;> simp

end Varint

namespace Key

/-- A number that a field may have: the key with it is not zero and fits in 32 bits. -/
def IsNumber (number : Nat) : Prop :=
  0 < number ∧ number < 2 ^ 29

instance (number : Nat) : Decidable (IsNumber number) :=
  inferInstanceAs (Decidable (_ ∧ _))

/-- **A key is read back from its encoding.** -/
theorem read_write {number : Nat} (h : IsNumber number) (wireType : WireType) (rest : Bytes) :
    read (write number wireType ++ rest) = .ok (⟨number, wireType⟩, rest) := by
  obtain ⟨hpos, hlt⟩ := h
  have hcode : wireType.code < 8 := by cases wireType <;> decide
  have hnat : (UInt64.ofNat (8 * number + wireType.code)).toNat = 8 * number + wireType.code := by
    rw [UInt64.toNat_ofNat']
    omega
  have hmod : (8 * number + wireType.code) % 8 = wireType.code := by omega
  have hdiv : (8 * number + wireType.code) / 8 = number := by omega
  have hof : ofCode (UInt64.ofNat (8 * number + wireType.code)) = .ok ⟨number, wireType⟩ := by
    rw [ofCode, hnat, if_pos (by omega), hmod, hdiv, WireType.ofCode?_code]
    exact if_neg (by omega)
  simp only [read, write, Varint.read_write, hof, ok_bind, pure_eq]

theorem write_ne_nil (number : Nat) (wireType : WireType) : write number wireType ≠ [] :=
  Varint.write_ne_nil _

end Key

end ChannelLedger.Wire
