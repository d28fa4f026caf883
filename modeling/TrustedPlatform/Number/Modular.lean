/-!
# Powers and inverses modulo a number

`Modular.pow` squares and multiplies, one step per bit of the exponent. `Modular.inverse` is
Fermat's: it inverts modulo a prime only.
-/

namespace TrustedPlatform.Modular

/-- `a ^ n % m` for an exponent of at most `bits` bits. -/
def powBits (m : Nat) : (bits : Nat) → (a n : Nat) → Nat
  | 0, _, _ => 1 % m
  | bits + 1, a, n =>
    let r := powBits m bits (a * a % m) (n / 2)
    if n % 2 = 1 then r * a % m else r

/-- `a ^ n % m`. -/
def pow (m a n : Nat) : Nat :=
  powBits m (n.log2 + 1) (a % m) n

/-- The inverse of `a` modulo the prime `p`, 0 if `a` is a multiple of `p`. -/
def inverse (p a : Nat) : Nat :=
  pow p a (p - 2)

/-- `a - b` modulo `m`. -/
def sub (m a b : Nat) : Nat :=
  (a + (m - b % m)) % m

end TrustedPlatform.Modular
