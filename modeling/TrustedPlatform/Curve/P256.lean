import TrustedPlatform.Number.Modular
import TrustedPlatform.Bytes

/-!
# The curve P-256

`y² = x³ - 3x + b` over the field of `p` elements, with its base point and group law in affine
coordinates. Coordinates are numbers below `p`.
-/

namespace TrustedPlatform.P256

/-- The size of the field. -/
def p : Nat := 0xffffffff00000001000000000000000000000000ffffffffffffffffffffffff

/-- The constant coefficient of the curve. -/
def b : Nat := 0x5ac635d8aa3a93e7b3ebbd55769886bc651d06b0cc53b0f63bce3c3e27d2604b

/-- The number of points, and the order of the base point. -/
def n : Nat := 0xffffffff00000000ffffffffffffffffbce6faada7179e84f3b9cac2fc632551

/-- Octets of a coordinate or a scalar. -/
def size : Nat := 32

/-- A point of the curve. -/
inductive Point
  | infinity
  | affine (x y : Nat)
  deriving DecidableEq, Repr

/-- The base point. -/
def base : Point :=
  .affine 0x6b17d1f2e12c4247f8bce6e563a440f277037d812deb33a0f4a13945d898c296
    0x4fe342e2fe1a7f9b8ee7eb4a7c0f9e162bce33576b315ececbb6406837bf51f5

/-- Whether `x` and `y` are coordinates of a point. -/
def onCurve (x y : Nat) : Bool :=
  x < p && y < p && y * y % p == (x * x * x + (p - 3) * x + b) % p

namespace Point

/-- The third point of the line of slope `slope` through two points with abscissas `x₁` and `x₂`,
reflected; `y₁` is the ordinate of the first. -/
def chord (slope x₁ y₁ x₂ : Nat) : Point :=
  let x := Modular.sub p (slope * slope) (x₁ + x₂)
  .affine x (Modular.sub p (slope * Modular.sub p x₁ x) y₁)

/-- The sum of two points. -/
def add : Point → Point → Point
  | infinity, q => q
  | q, infinity => q
  | affine x₁ y₁, affine x₂ y₂ =>
    if x₁ = x₂ then
      if (y₁ + y₂) % p = 0 then infinity
      else chord ((3 * x₁ * x₁ + (p - 3)) * Modular.inverse p (2 * y₁) % p) x₁ y₁ x₂
    else
      chord (Modular.sub p y₂ y₁ * Modular.inverse p (Modular.sub p x₂ x₁) % p) x₁ y₁ x₂

/-- The multiple `k` of a point, for a `k` of at most `bits` bits. -/
def scaleBits : (bits : Nat) → (k : Nat) → Point → Point
  | 0, _, _ => infinity
  | bits + 1, k, q =>
    let r := scaleBits bits (k / 2) (q.add q)
    if k % 2 = 1 then r.add q else r

/-- The multiple `k` of a point. -/
def scale (k : Nat) (q : Point) : Point :=
  scaleBits (k.log2 + 1) k q

/-- The abscissa of a point other than infinity. -/
def x? : Point → Option Nat
  | infinity => none
  | affine x _ => some x

end Point

/-- The scalar or coordinate that at most 32 octets spell. -/
def scalar? (octets : Bytes) : Option Nat :=
  if octets.length ≤ size then some octets.toNat else none

end TrustedPlatform.P256
