import TrustedPlatform.Hash.Hmac

/-!
# Random octets from a seed

A source of random octets, draw by draw, from one seed that nobody can guess: each draw is a run of
keyed hashes of the number of the draw and of a block.
-/

namespace TrustedPlatform.Random

/-- The first `count` blocks of a draw, from block `first` on. -/
def blocks (seed : Bytes) (draw : Nat) : (first count : Nat) → Bytes
  | _, 0 => []
  | first, count + 1 =>
    HashId.sha256.hmac seed (Bytes.ofNat 8 draw ++ Bytes.ofNat 8 first)
      ++ blocks seed draw (first + 1) count

/-- The octets of a draw. -/
def ofSeed (seed : Bytes) (draw size : Nat) : Bytes :=
  (blocks seed draw 0 (size / HashId.sha256.digestSize + 1)).take size

end TrustedPlatform.Random
