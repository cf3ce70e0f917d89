/-!
# Arithmetic modulo a prime

Powers and square roots of remainders. The search for a square root starts from a power of the
number whose square is off by a root of unity of a power of two, and takes that root of unity away
one halving of its order after the other. What comes out is checked, so a root that is returned is
a root whatever the modulus is.
-/
namespace ChannelLedger.Modular

/-- The power of a number, reduced modulo `m`. -/
def pow (m base exponent : Nat) : Nat :=
  if exponent = 0 then 1 % m
  else
    let square := pow m (base * base % m) (exponent / 2)
    if exponent % 2 = 1 then base * square % m else square
  termination_by exponent
  decreasing_by omega

/-- Splits a positive number into a power of two, given by its exponent, and an odd factor. The
number itself is fuel enough. -/
def oddPart : (fuel n : Nat) → Nat × Nat
  | 0, n => (0, n)
  | fuel + 1, n =>
    if n % 2 = 0 then
      let (exponent, odd) := oddPart fuel (n / 2)
      (exponent + 1, odd)
    else (0, n)

/-- The least number from `candidate` on that is no square modulo the prime `p`. -/
def nonSquare (p : Nat) : (fuel candidate : Nat) → Nat
  | 0, candidate => candidate
  | fuel + 1, candidate =>
    if pow p candidate ((p - 1) / 2) = p - 1 then candidate else nonSquare p fuel (candidate + 1)

/-- How often `t` has to be squared to become 1; at most `limit` times. -/
def halvings (p : Nat) : (limit t : Nat) → Nat
  | 0, _ => 0
  | limit + 1, t => if t = 1 then 0 else halvings p limit (t * t % p) + 1

/-- Squares a number the given number of times. -/
def squareTimes (p : Nat) : (times n : Nat) → Nat
  | 0, n => n
  | times + 1, n => squareTimes p times (n * n % p)

/-- The descent: `root` squared is the number times `t`, the order of `t` divides two to the power
`order`, and `unit` has exactly the order two to the power `order`. -/
def descend (p : Nat) : (fuel order unit t root : Nat) → Nat
  | 0, _, _, _, root => root
  | fuel + 1, order, unit, t, root =>
    if t = 1 then root
    else
      let i := halvings p order t
      let b := squareTimes p (order - i - 1) unit
      descend p fuel i (b * b % p) (t * (b * b % p) % p) (root * b % p)

/-- A square root modulo an odd prime, if there is one. -/
def sqrt? (p n : Nat) : Option Nat :=
  let (order, odd) := oddPart p (p - 1)
  let unit := pow p (nonSquare p 1000 2) odd
  let root := descend p order order unit (pow p n odd) (pow p n ((odd + 1) / 2))
  if root * root % p = n % p then some root else none

theorem sq_of_sqrt? {p n root : Nat} (h : sqrt? p n = some root) : root * root % p = n % p := by
  simp only [sqrt?] at h
  split at h
  · next hroot => exact Option.some.inj h ▸ hroot
  · simp at h

end ChannelLedger.Modular
