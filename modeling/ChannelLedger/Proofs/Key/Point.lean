import Mathlib
import ChannelLedger.Key.Named
import ChannelLedger.Proofs.Bytes.BigEndian
import ChannelLedger.Proofs.Key.SquareRoot

/-!
# Points written and read

A point of a curve is read back from each of its forms. From both coordinates it is by reading them, as they
are smaller than the prime and that fits in their bytes. From one coordinate and the parity of the other it is
because the prime is odd: of the two roots one is even and one is odd.

The other way round, the bytes that a point was read from are one of its forms. That does not take that every
root is found, as the one at hand was.

Main theorems `Curve.Rooted.decode?_encodeAs` and `Curve.encodeAs_of_decode?`.
-/
namespace ChannelLedger.Curve

/-- Modulo the prime of the curve square roots are found. -/
structure Rooted (c : Curve) : Prop where
  prime : c.p.Prime
  odd : c.p % 2 = 1
  nonSquare : Modular.pow c.p (Modular.nonSquare c.p 1000 2) ((c.p - 1) / 2) = c.p - 1

theorem odd_of_named {c : Curve} (h : c ∈ named.map (·.2)) : c.p % 2 = 1 := by
  revert c
  decide +kernel

theorem Rooted.of_named {c : Curve} (h : c ∈ named.map (·.2)) (prime : c.p.Prime) : c.Rooted where
  prime := prime
  odd := odd_of_named h
  nonSquare := by
    clear prime
    revert c
    decide +kernel

variable {c : Curve} {point : Point}

theorem lt_two_pow_bitLength (n : Nat) : n < 2 ^ bitLength n := by
  unfold bitLength
  split
  · omega
  · exact Nat.lt_log2_self

/-- A coordinate fits in its bytes. -/
theorem p_lt_pow_fieldSize (c : Curve) : c.p < 256 ^ c.fieldSize := by
  have hle : bitLength c.p ≤ 8 * c.fieldSize := by
    unfold fieldSize
    omega
  calc c.p < 2 ^ bitLength c.p := lt_two_pow_bitLength c.p
    _ ≤ 2 ^ (8 * c.fieldSize) := Nat.pow_le_pow_right (by decide) hle
    _ = 256 ^ c.fieldSize := by rw [Nat.pow_mul]

theorem contains_iff : c.contains point = true ↔
    point.x < c.p ∧ point.y < c.p ∧ point.y * point.y % c.p = c.square point.x := by
  simp [contains, and_assoc]

/-! ## One coordinate and a parity -/

theorem square_mod (c : Curve) (x : Nat) : c.square x % c.p = c.square x :=
  Nat.mod_mod _ _

theorem sq_of_sqrt? (c : Curve) {x root : Nat} (h : Modular.sqrt? c.p (c.square x) = some root) :
    root * root % c.p = c.square x :=
  (Modular.sq_of_sqrt? h).trans (c.square_mod x)

theorem lift?_eq (c : Curve) (x parity : Nat) : c.lift? x parity = if c.p ≤ x then none else
    (Modular.sqrt? c.p (c.square x)).bind fun root =>
      if root % 2 = parity then some ⟨x, root⟩ else if root = 0 then none else some ⟨x, c.p - root⟩ := by
  unfold lift?
  split <;> rfl

/-- Two roots of the same number are the same or add up to the prime. -/
theorem eq_or_add_eq_of_sq {p a b : Nat} (prime : p.Prime) (ha : a < p) (hb : b < p)
    (h : a * a % p = b * b % p) : a = b ∨ a + b = p := by
  have := Fact.mk prime
  rw [← ZMod.natCast_eq_natCast_iff', Nat.cast_mul, Nat.cast_mul] at h
  rcases mul_self_eq_mul_self_iff.1 h with h | h
  · rw [ZMod.natCast_eq_natCast_iff', Nat.mod_eq_of_lt ha, Nat.mod_eq_of_lt hb] at h
    exact .inl h
  · rw [eq_neg_iff_add_eq_zero, ← Nat.cast_add, ZMod.natCast_eq_zero_iff] at h
    obtain ⟨k, hk⟩ := h
    have hk2 : k < 2 := by
      by_contra hge
      have := Nat.mul_le_mul_left p (Nat.not_lt.1 hge)
      omega
    interval_cases k <;> omega

/-- **Of the two points over a first coordinate the parity tells which one is meant.** -/
theorem Rooted.lift?_of_contains (rooted : c.Rooted) (h : c.contains point = true) :
    c.lift? point.x (point.y % 2) = some point := by
  obtain ⟨hx, hy, hsquare⟩ := contains_iff.1 h
  have := Fact.mk rooted.prime
  have hodd := rooted.odd
  obtain ⟨root, hroot⟩ := Modular.sqrt?_of_sq (by omega) rooted.nonSquare (hsquare.trans (c.square_mod _).symm)
  have hlt := Modular.lt_of_sqrt? rooted.prime.pos hroot
  have hroots := eq_or_add_eq_of_sq rooted.prime hlt hy ((c.sq_of_sqrt? hroot).trans hsquare.symm)
  rw [lift?_eq, if_neg (Nat.not_le.2 hx), hroot, Option.bind_some]
  rcases hroots with rfl | hsum
  · rw [if_pos rfl]
  · rw [if_neg (by omega), if_neg (by omega), show c.p - root = point.y by omega]

theorem sub_mul_sub_mod {p n : Nat} (h : n ≤ p) : (p - n) * (p - n) % p = n * n % p := by
  rw [← ZMod.natCast_eq_natCast_iff', Nat.cast_mul, Nat.cast_mul, Nat.cast_sub h, ZMod.natCast_self, zero_sub,
    neg_mul_neg]

/-- A point that is found over a first coordinate is one of the curve. -/
theorem lift?_eq_some (odd : c.p % 2 = 1) {x parity : Nat} (hparity : parity < 2)
    (h : c.lift? x parity = some point) : point.x = x ∧ point.y % 2 = parity ∧ c.contains point = true := by
  rw [lift?_eq] at h
  split at h
  case isTrue => cases h
  case isFalse hx =>
    obtain ⟨root, hroot, h⟩ := Option.bind_eq_some_iff.1 h
    have hlt := Modular.lt_of_sqrt? (Nat.pos_of_ne_zero (by omega)) hroot
    have hsquare := c.sq_of_sqrt? hroot
    split at h
    case isTrue hsame =>
      cases h
      exact ⟨rfl, hsame, contains_iff.2 ⟨Nat.not_le.1 hx, hlt, hsquare⟩⟩
    case isFalse hother =>
      split at h
      case isTrue => cases h
      case isFalse hne =>
        cases h
        refine ⟨rfl, by dsimp only; omega, contains_iff.2 ⟨Nat.not_le.1 hx, by dsimp only; omega, ?_⟩⟩
        exact (sub_mul_sub_mod hlt.le).trans hsquare

/-! ## The forms -/

/-- Both coordinates are read from their bytes. -/
theorem coordinates_eq (h : c.contains point = true) :
    let coordinates := Bytes.ofNat c.fieldSize point.x ++ Bytes.ofNat c.fieldSize point.y
    coordinates.length = 2 * c.fieldSize ∧ Bytes.toNat (coordinates.take c.fieldSize) = point.x ∧
      Bytes.toNat (coordinates.drop c.fieldSize) = point.y := by
  intro coordinates
  obtain ⟨hx, hy, -⟩ := contains_iff.1 h
  have hfits := p_lt_pow_fieldSize c
  have htake : coordinates.take c.fieldSize = Bytes.ofNat c.fieldSize point.x :=
    List.take_left' (Bytes.length_ofNat _ _)
  have hdrop : coordinates.drop c.fieldSize = Bytes.ofNat c.fieldSize point.y :=
    List.drop_left' (Bytes.length_ofNat _ _)
  rw [htake, hdrop, Bytes.toNat_ofNat (hx.trans hfits), Bytes.toNat_ofNat (hy.trans hfits), List.length_append,
    Bytes.length_ofNat, Bytes.length_ofNat]
  exact ⟨by omega, rfl, rfl⟩

theorem decode?_encode (h : c.contains point = true) : c.decode? (c.encode point) = some point := by
  obtain ⟨hlength, hx, hy⟩ := coordinates_eq h
  unfold encode
  rw [List.cons_append, decode?]
  simp only [hlength, hx, hy, h]
  simp

theorem decode?_encodeHybrid (h : c.contains point = true) : c.decode? (c.encodeHybrid point) = some point := by
  obtain ⟨hlength, hx, hy⟩ := coordinates_eq h
  unfold encodeHybrid
  rw [List.cons_append, decode?]
  simp only [hlength, hx, hy, h]
  rcases Nat.mod_two_eq_zero_or_one point.y with heven | hodd
  · simp [heven]
  · simp [hodd]

theorem decode?_encodeCompressed (hx : point.x < c.p) (h : c.lift? point.x (point.y % 2) = some point) :
    c.decode? (c.encodeCompressed point) = some point := by
  have hcoordinate : Bytes.toNat ((Bytes.ofNat c.fieldSize point.x).take c.fieldSize) = point.x := by
    rw [List.take_of_length_le (Bytes.length_ofNat _ _).le, Bytes.toNat_ofNat (hx.trans (p_lt_pow_fieldSize c))]
  unfold encodeCompressed
  rw [decode?]
  simp only [hcoordinate, Bytes.length_ofNat]
  rcases Nat.mod_two_eq_zero_or_one point.y with heven | hodd
  · rw [heven] at h ⊢
    simpa using h
  · rw [hodd] at h ⊢
    simpa using h

/-- **A point of the curve is read back from each of its forms.** -/
theorem Rooted.decode?_encodeAs (rooted : c.Rooted) (h : c.contains point = true) (form : PointForm) :
    c.decode? (c.encodeAs form point) = some point := by
  cases form with
  | compressed => exact decode?_encodeCompressed (contains_iff.1 h).1 (rooted.lift?_of_contains h)
  | uncompressed => exact decode?_encode h
  | hybrid => exact decode?_encodeHybrid h

/-- The bytes of a point are those of both of its coordinates. -/
theorem ofNat_coordinates {coordinates : Bytes} {size : Nat} (h : coordinates.length = 2 * size) :
    Bytes.ofNat size (Bytes.toNat (coordinates.take size)) ++
      Bytes.ofNat size (Bytes.toNat (coordinates.drop size)) = coordinates := by
  have htake := Bytes.ofNat_toNat (coordinates.take size)
  have hdrop := Bytes.ofNat_toNat (coordinates.drop size)
  rw [List.length_take, show min size coordinates.length = size by omega] at htake
  rw [List.length_drop, show coordinates.length - size = size by omega] at hdrop
  rw [htake, hdrop, List.take_append_drop]

/-- **The bytes that a point was read from are one of its forms.** -/
theorem encodeAs_of_decode? (odd : c.p % 2 = 1) {raw : Bytes} (h : c.decode? raw = some point) :
    c.encodeAs (.ofBytes raw) point = raw ∧ c.contains point = true := by
  cases raw with
  | nil => cases h
  | cons form coordinates =>
    rw [decode?] at h
    rw [PointForm.ofBytes]
    split at h
    case isTrue hcompressed =>
      rw [if_pos hcompressed]
      split at h
      case isTrue hlength =>
        obtain ⟨hx, hparity, hcontains⟩ := lift?_eq_some odd (Nat.mod_lt _ (by decide)) h
        refine ⟨?_, hcontains⟩
        rw [List.take_of_length_le hlength.le] at hx
        change UInt8.ofNat (2 + point.y % 2) :: Bytes.ofNat c.fieldSize point.x = _
        rw [hx, hparity, ← hlength, Bytes.ofNat_toNat]
        rcases hcompressed with rfl | rfl <;> rfl
      case isFalse => cases h
    case isFalse hcompressed =>
      rw [if_neg hcompressed]
      split at h
      case isTrue huncompressed =>
        rw [if_neg (by rw [huncompressed]; decide)]
        split at h
        case isTrue hboth =>
          cases h
          refine ⟨?_, hboth.2⟩
          rw [huncompressed]
          exact congrArg (4 :: ·) (ofNat_coordinates hboth.1)
        case isFalse => cases h
      case isFalse =>
        split at h
        case isTrue hhybrid =>
          rw [if_pos hhybrid]
          split at h
          case isTrue hboth =>
            cases h
            refine ⟨?_, hboth.1.2⟩
            change UInt8.ofNat (6 + _ % 2) :: (_ ++ _) = _
            rw [ofNat_coordinates hboth.1.1, hboth.2]
            rcases hhybrid with rfl | rfl <;> rfl
          case isFalse => cases h
        case isFalse => cases h

end ChannelLedger.Curve
