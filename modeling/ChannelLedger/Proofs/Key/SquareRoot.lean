import Mathlib
import ChannelLedger.Key.Modular

/-!
# Square roots modulo a prime

The descent keeps three facts about its numbers (`Descending`): the root squared is the number times `t`, the
order of `t` divides half of two to the power `order`, and `unit` to that half is minus one. One step takes a
root of unity away that makes the order of `t` smaller (`Descending.step`), so the descent ends where `t` is one
(`sq_descend`).

The first numbers of the descent have these properties if the number is a square and `unit` comes from one that
is none. The search for that one is bounded, and that it finds one is a premise.

Main theorem `sqrt?_of_sq`: of a square a root is found.
-/
namespace ChannelLedger.Modular

/-! ## Powers -/

/-- The power is the power. -/
theorem pow_eq (m base exponent : Nat) : pow m base exponent = base ^ exponent % m := by
  induction exponent using Nat.strong_induction_on generalizing base with
  | _ exponent ih =>
    rw [pow]
    split
    case isTrue hzero => rw [hzero, Nat.pow_zero]
    case isFalse hzero =>
      have hsquare : pow m (base * base % m) (exponent / 2) = base ^ (2 * (exponent / 2)) % m := by
        rw [ih _ (by omega), ← Nat.pow_mod, ← Nat.pow_two, ← Nat.pow_mul]
      simp only [hsquare]
      split
      case isTrue hodd =>
        rw [Nat.mul_mod_mod, ← Nat.pow_succ', show (2 * (exponent / 2)).succ = exponent by omega]
      case isFalse heven => rw [show 2 * (exponent / 2) = exponent by omega]

theorem oddPart_spec {fuel n : Nat} (hpos : 0 < n) (hfuel : n ≤ fuel) :
    n = 2 ^ (oddPart fuel n).1 * (oddPart fuel n).2 ∧ (oddPart fuel n).2 % 2 = 1 := by
  induction fuel generalizing n with
  | zero => omega
  | succ fuel ih =>
    rw [oddPart]
    split
    case isTrue heven =>
      obtain ⟨hsplit, hodd⟩ := ih (n := n / 2) (by omega) (by omega)
      refine ⟨?_, hodd⟩
      rw [Nat.pow_succ', Nat.mul_assoc, ← hsplit]
      omega
    case isFalse hodd => exact ⟨by rw [Nat.pow_zero, Nat.one_mul], by omega⟩

theorem oddPart_pred {p : Nat} (hp : p.Prime) :
    p - 1 = 2 ^ (oddPart p (p - 1)).1 * (oddPart p (p - 1)).2 ∧ (oddPart p (p - 1)).2 % 2 = 1 :=
  oddPart_spec (Nat.sub_pos_of_lt hp.one_lt) (Nat.sub_le p 1)

/-! ## The descent -/

/-- From zero the descent does not get away. -/
theorem descend_zero (p fuel order unit t : Nat) : descend p fuel order unit t 0 = 0 := by
  induction fuel generalizing order unit t with
  | zero => rfl
  | succ fuel ih =>
    rw [descend]
    split
    · rfl
    · simp only [Nat.zero_mul, Nat.zero_mod, ih]

theorem descend_lt {p fuel order unit t root : Nat} (h : root < p) : descend p fuel order unit t root < p := by
  induction fuel generalizing order unit t root with
  | zero => exact h
  | succ fuel ih =>
    rw [descend]
    split
    · exact h
    · exact ih (Nat.mod_lt _ (Nat.zero_lt_of_lt h))

theorem lt_of_sqrt? {p n root : Nat} (hp : 0 < p) (h : sqrt? p n = some root) : root < p := by
  simp only [sqrt?] at h
  split at h
  · cases h
    refine descend_lt ?_
    rw [pow_eq]
    exact Nat.mod_lt _ hp
  · cases h

section Descent

variable {p : Nat} [Fact p.Prime]

theorem cast_mul_mod (a b : Nat) : ((a * b % p : Nat) : ZMod p) = a * b := by
  rw [ZMod.natCast_mod, Nat.cast_mul]

theorem cast_pow_eq (base exponent : Nat) : ((pow p base exponent : Nat) : ZMod p) = (base : ZMod p) ^ exponent := by
  rw [pow_eq, ZMod.natCast_mod, Nat.cast_pow]

theorem cast_eq_one {n : Nat} (h : n < p) : (n : ZMod p) = 1 ↔ n = 1 := by
  have hone : 1 < p := (Fact.out : p.Prime).one_lt
  rw [← Nat.cast_one, ZMod.natCast_eq_natCast_iff', Nat.mod_eq_of_lt h, Nat.mod_eq_of_lt hone]

theorem squareTimes_spec (times n : Nat) : ((squareTimes p times n : Nat) : ZMod p) = (n : ZMod p) ^ 2 ^ times := by
  induction times generalizing n with
  | zero => rw [squareTimes, Nat.pow_zero, pow_one]
  | succ times ih => rw [squareTimes, ih, cast_mul_mod, ← pow_two, ← pow_mul, Nat.pow_succ']

/-- The number of squarings is the least one that leads to one. -/
theorem halvings_spec (limit : Nat) {t : Nat} (ht : t < p) :
    halvings p limit t ≤ limit ∧
      (∀ times < halvings p limit t, (t : ZMod p) ^ 2 ^ times ≠ 1) ∧
      ((t : ZMod p) ^ 2 ^ limit = 1 → (t : ZMod p) ^ 2 ^ halvings p limit t = 1) := by
  induction limit generalizing t with
  | zero => exact ⟨Nat.le_refl _, fun times hlt => absurd hlt (Nat.not_lt_zero _), id⟩
  | succ limit ih =>
    rw [halvings]
    split
    case isTrue hone =>
      refine ⟨Nat.zero_le _, fun times hlt => absurd hlt (Nat.not_lt_zero _), fun _ => ?_⟩
      rw [hone, Nat.cast_one, one_pow]
    case isFalse hne =>
      have hsquare : ∀ times, ((t * t % p : Nat) : ZMod p) ^ 2 ^ times = (t : ZMod p) ^ 2 ^ (times + 1) := by
        intro times
        rw [cast_mul_mod, ← pow_two, ← pow_mul, Nat.pow_succ']
      obtain ⟨hle, hleast, hends⟩ := ih (t := t * t % p) (Nat.mod_lt _ (Fact.out : p.Prime).pos)
      refine ⟨Nat.succ_le_succ hle, fun times hlt => ?_, fun hone => ?_⟩
      · cases times with
        | zero =>
          rw [Nat.pow_zero, pow_one, Ne, cast_eq_one ht]
          exact hne
        | succ times =>
          rw [← hsquare]
          exact hleast times (Nat.lt_of_succ_lt_succ hlt)
      · rw [← hsquare]
        exact hends (by rwa [hsquare])

/-- What the descent keeps about its numbers. -/
structure Descending (n : ZMod p) (order unit t root : Nat) : Prop where
  order_pos : 0 < order
  t_lt : t < p
  sq_root : (root : ZMod p) ^ 2 = n * t
  t_pow : (t : ZMod p) ^ 2 ^ (order - 1) = 1
  unit_pow : (unit : ZMod p) ^ 2 ^ (order - 1) = -1

namespace Descending

variable {n : ZMod p} {order unit t root : Nat}

/-- **A step makes the order smaller and keeps the rest.** -/
theorem step (h : Descending n order unit t root) (hne : t ≠ 1) :
    let halved := halvings p order t
    let b := squareTimes p (order - halved - 1) unit
    halved < order ∧ Descending n halved (b * b % p) (t * (b * b % p) % p) (root * b % p) := by
  intro halved b
  obtain ⟨hle, hleast, hends⟩ := halvings_spec order h.t_lt
  have horder := h.order_pos
  have hone : (t : ZMod p) ^ 2 ^ halved = 1 := by
    refine hends ?_
    rw [← Nat.sub_add_cancel horder, Nat.pow_succ, pow_mul, h.t_pow, one_pow]
  have hlt : halved < order := by
    by_contra hge
    exact hleast (order - 1) (by omega) h.t_pow
  have hpos : 0 < halved := by
    rw [Nat.pos_iff_ne_zero]
    intro hzero
    rw [hzero, Nat.pow_zero, pow_one, cast_eq_one h.t_lt] at hone
    exact hne hone
  -- one squaring before it is one, `t` is the other root of one
  have ht : (t : ZMod p) ^ 2 ^ (halved - 1) = -1 := by
    refine (mul_self_eq_one_iff.1 ?_).resolve_left (hleast _ (by omega))
    rw [← pow_two, ← pow_mul, ← Nat.pow_succ, Nat.succ_eq_add_one, Nat.sub_add_cancel hpos, hone]
  have hb : ((b * b % p : Nat) : ZMod p) = (unit : ZMod p) ^ 2 ^ (order - halved) := by
    rw [cast_mul_mod, squareTimes_spec, ← pow_two, ← pow_mul, ← Nat.pow_succ, Nat.succ_eq_add_one,
      Nat.sub_add_cancel (by omega)]
  have hunit : ((b * b % p : Nat) : ZMod p) ^ 2 ^ (halved - 1) = -1 := by
    rw [hb, ← pow_mul, ← Nat.pow_add, show order - halved + (halved - 1) = order - 1 by omega, h.unit_pow]
  refine ⟨hlt, hpos, Nat.mod_lt _ (Fact.out : p.Prime).pos, ?_, ?_, hunit⟩
  · rw [cast_mul_mod, cast_mul_mod, cast_mul_mod, mul_pow, h.sq_root]
    ring
  · rw [cast_mul_mod, mul_pow, ht, hunit, neg_one_mul, neg_neg]

/-- **The descent ends at a root.** -/
theorem sq_descend {fuel : Nat} (h : Descending n order unit t root) (hfuel : order ≤ fuel) :
    ((descend p fuel order unit t root : Nat) : ZMod p) ^ 2 = n := by
  induction fuel generalizing order unit t root with
  | zero => exact absurd (h.order_pos.trans_le hfuel) (Nat.lt_irrefl 0)
  | succ fuel ih =>
    rw [descend]
    split
    case isTrue hone => rw [h.sq_root, hone, Nat.cast_one, mul_one]
    case isFalse hne =>
      obtain ⟨hlt, hnext⟩ := h.step hne
      exact ih hnext (by omega)

end Descending

/-- **The descent begins with a square as it goes on.** -/
theorem descending_start {n s nonResidue : Nat} (hn : (n : ZMod p) ≠ 0) (hsquare : (s : ZMod p) ^ 2 = n)
    (hp : p ≠ 2) (hnon : pow p nonResidue ((p - 1) / 2) = p - 1) :
    let parts := oddPart p (p - 1)
    Descending (n : ZMod p) parts.1 (pow p nonResidue parts.2) (pow p n parts.2)
      (pow p n ((parts.2 + 1) / 2)) := by
  intro parts
  have hprime : p.Prime := Fact.out
  have hodd : p % 2 = 1 := hprime.eq_two_or_odd.resolve_left hp
  obtain ⟨hsplit, hpart⟩ : p - 1 = 2 ^ parts.1 * parts.2 ∧ parts.2 % 2 = 1 := oddPart_pred hprime
  have hpos : 0 < parts.1 := by
    rw [Nat.pos_iff_ne_zero]
    intro hzero
    rw [hzero, Nat.pow_zero, Nat.one_mul] at hsplit
    omega
  have hhalf : (p - 1) / 2 = parts.2 * 2 ^ (parts.1 - 1) := by
    rw [hsplit, ← Nat.sub_add_cancel hpos, Nat.pow_succ', Nat.mul_assoc,
      Nat.mul_div_cancel_left _ (by decide), Nat.add_sub_cancel, Nat.mul_comm]
  refine ⟨hpos, ?_, ?_, ?_, ?_⟩
  · rw [pow_eq]
    exact Nat.mod_lt _ hprime.pos
  · rw [cast_pow_eq, cast_pow_eq, ← pow_mul, ← pow_succ', show (parts.2 + 1) / 2 * 2 = parts.2 + 1 by omega]
  · -- the number is the square of one whose order divides `p - 1`
    rw [cast_pow_eq, ← pow_mul, ← hhalf, ← hsquare, ← pow_mul, show 2 * ((p - 1) / 2) = p - 1 by omega]
    refine ZMod.pow_card_sub_one_eq_one ?_
    rintro hzero
    rw [hzero, zero_pow (by decide)] at hsquare
    exact hn hsquare.symm
  · rw [cast_pow_eq, ← pow_mul, ← hhalf, ← cast_pow_eq, hnon, Nat.cast_sub hprime.one_le, ZMod.natCast_self,
      Nat.cast_one, zero_sub]

/-- **Of a square a root is found**, where a number that is no square is within reach. -/
theorem sqrt?_of_sq {n s : Nat} (hp : p ≠ 2) (hnon : pow p (nonSquare p 1000 2) ((p - 1) / 2) = p - 1)
    (hsquare : s * s % p = n % p) : ∃ root, sqrt? p n = some root := by
  have hcast : (s : ZMod p) ^ 2 = n := by
    rw [pow_two, ← Nat.cast_mul, ZMod.natCast_eq_natCast_iff']
    exact hsquare
  have hroot : let parts := oddPart p (p - 1)
      ((descend p parts.1 parts.1 (pow p (nonSquare p 1000 2) parts.2) (pow p n parts.2)
        (pow p n ((parts.2 + 1) / 2)) : Nat) : ZMod p) ^ 2 = n := by
    intro parts
    by_cases hzero : (n : ZMod p) = 0
    · have hstart : pow p n ((parts.2 + 1) / 2) = 0 := by
        rw [pow_eq]
        refine Nat.mod_eq_zero_of_dvd (((ZMod.natCast_eq_zero_iff n p).1 hzero).trans (dvd_pow_self n ?_))
        have hpart : parts.2 % 2 = 1 := (oddPart_pred Fact.out).2
        omega
      rw [hstart, descend_zero, hzero, Nat.cast_zero, zero_pow (by decide)]
    · exact (descending_start hzero hcast hp hnon).sq_descend (Nat.le_refl _)
  refine ⟨_, if_pos ?_⟩
  rw [← ZMod.natCast_eq_natCast_iff', Nat.cast_mul, ← pow_two]
  exact hroot

end Descent

end ChannelLedger.Modular
