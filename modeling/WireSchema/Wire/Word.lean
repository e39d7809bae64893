/-!
Fixed-width words, most significant byte first.
-/

namespace WireSchema.Wire

/-- The `width` low bytes of `n`. -/
def wordBytes : Nat → Nat → List UInt8
  | 0, _ => []
  | width + 1, n => wordBytes width (n / 256) ++ [UInt8.ofNat n]

def wordValue (bytes : List UInt8) : Nat :=
  bytes.foldl (fun n b => n * 256 + b.toNat) 0

end WireSchema.Wire
