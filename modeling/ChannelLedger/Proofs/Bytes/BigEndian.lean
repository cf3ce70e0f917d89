import Mathlib.Data.List.Induction
import Mathlib.Tactic.Ring
import ChannelLedger.Bytes.Basic

/-!
# Byte strings as numbers

A byte string is a numeral in base 256, most significant digit first. Of the numerals of one number
exactly one has no zero in front (`Bytes.eq_of_toNat_eq`), so what is left of any of them without its
leading zeros is the shortest (`Bytes.trimZeros_ofNat`).
-/
namespace ChannelLedger.Bytes

theorem toNat_concat (bs : Bytes) (b : UInt8) : toNat (bs ++ [b]) = toNat bs * 256 + b.toNat := by
  simp [toNat, List.foldl_append]

theorem toNat_cons (b : UInt8) (bs : Bytes) :
    toNat (b :: bs) = b.toNat * 256 ^ bs.length + toNat bs := by
  induction bs using List.reverseRecOn with
  | nil => simp [toNat]
  | append_singleton bs c ih =>
    rw [← List.cons_append, toNat_concat, toNat_concat, ih, List.length_append,
      List.length_singleton, Nat.pow_succ]
    ring

/-- A numeral is smaller than the first power of the base with more digits. -/
theorem toNat_lt (bs : Bytes) : toNat bs < 256 ^ bs.length := by
  induction bs using List.reverseRecOn with
  | nil => simp [toNat]
  | append_singleton bs b ih =>
    have hb : b.toNat < 256 := b.toNat_lt
    rw [toNat_concat, List.length_append, List.length_singleton, Nat.pow_succ]
    omega

theorem ofNat_toNat (bs : Bytes) : ofNat bs.length (toNat bs) = bs := by
  induction bs using List.reverseRecOn with
  | nil => rfl
  | append_singleton bs b ih =>
    have hb : b.toNat < 256 := b.toNat_lt
    have hdiv : (toNat bs * 256 + b.toNat) / 256 = toNat bs := by omega
    have hlast : UInt8.ofNat (toNat bs * 256 + b.toNat) = b := by
      rw [← UInt8.toNat_inj, UInt8.toNat_ofNat']
      omega
    rw [toNat_concat, List.length_append, List.length_singleton, ofNat, hdiv, ih, hlast]

theorem toNat_ofNat {width n : Nat} (h : n < 256 ^ width) : toNat (ofNat width n) = n := by
  induction width generalizing n with
  | zero =>
    have hn : n = 0 := by simpa using h
    rw [hn]
    rfl
  | succ width ih =>
    have hfront : n / 256 < 256 ^ width := by
      rw [Nat.pow_succ] at h
      omega
    rw [ofNat, toNat_concat, ih hfront, UInt8.toNat_ofNat']
    omega

/-! ## Numerals without zeros in front -/

theorem toNat_trimZeros (bs : Bytes) : toNat (trimZeros bs) = toNat bs := by
  induction bs with
  | nil => rfl
  | cons b bs ih =>
    by_cases hb : b = 0
    · have htrim : trimZeros (b :: bs) = trimZeros bs := by simp [trimZeros, hb]
      rw [htrim, ih, toNat_cons, hb]
      simp
    · simp [trimZeros, hb]

theorem head?_trimZeros (bs : Bytes) : (trimZeros bs).head? ≠ some 0 := by
  intro h
  have hfirst := List.head?_dropWhile_not (· == 0) bs
  unfold trimZeros at h
  rw [h] at hfirst
  simp at hfirst

/-- A first digit that is not zero counts for its place. -/
theorem pow_le_toNat {b : UInt8} (h : b ≠ 0) (bs : Bytes) : 256 ^ bs.length ≤ toNat (b :: bs) := by
  have hb : 0 < b.toNat := by
    rw [Nat.pos_iff_ne_zero]
    intro hzero
    exact h (UInt8.toNat_inj.1 hzero)
  rw [toNat_cons]
  exact Nat.le_add_right_of_le (Nat.le_mul_of_pos_left _ hb)

/-- A numeral without zeros in front has no more digits than a bound on its number. -/
theorem length_le_of_toNat_lt {bs : Bytes} (h : bs.head? ≠ some 0) {width : Nat}
    (hlt : toNat bs < 256 ^ width) : bs.length ≤ width := by
  cases bs with
  | nil => exact Nat.zero_le _
  | cons b bs =>
    have hb : b ≠ 0 := by simpa using h
    have hpow : 256 ^ bs.length < 256 ^ width := (pow_le_toNat hb bs).trans_lt hlt
    exact (Nat.pow_lt_pow_iff_right (by decide)).1 hpow

/-- **A number has one numeral without zeros in front.** -/
theorem eq_of_toNat_eq {a b : Bytes} (ha : a.head? ≠ some 0) (hb : b.head? ≠ some 0)
    (h : toNat a = toNat b) : a = b := by
  have hab : a.length ≤ b.length := length_le_of_toNat_lt ha (h ▸ toNat_lt b)
  have hba : b.length ≤ a.length := length_le_of_toNat_lt hb (h ▸ toNat_lt a)
  rw [← ofNat_toNat a, ← ofNat_toNat b, h, Nat.le_antisymm hab hba]

theorem toNat_trimZeros_ofNat {width n : Nat} (h : n < 256 ^ width) :
    toNat (ofNat width n).trimZeros = n := by
  rw [toNat_trimZeros, toNat_ofNat h]

/-- Any width that holds a number has its shortest numeral behind the zeros. -/
theorem trimZeros_ofNat {width : Nat} {bs : Bytes} (hbs : bs.head? ≠ some 0)
    (h : toNat bs < 256 ^ width) : (ofNat width (toNat bs)).trimZeros = bs :=
  eq_of_toNat_eq (head?_trimZeros _) hbs (toNat_trimZeros_ofNat h)

end ChannelLedger.Bytes
