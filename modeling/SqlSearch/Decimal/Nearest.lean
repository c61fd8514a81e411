import SqlSearch.Decimal.Shortest
/-! The double nearest a non-negative rational `num / den`, a tie going to the even mantissa.
The value is scaled by a power of two until its integer part has 53 bits (or the exponent
reaches the subnormal floor), then the quotient is rounded once; a value past the largest
double becomes infinity. All arithmetic is exact. -/
namespace SqlSearch.Decimal

/-- `⌊num / (den · 2^e)⌋` and the remainder, for any integer `e`. -/
def scaledQuotient (num den : Nat) (e : Int) : Nat × Nat × Nat :=
  let n := num * Nat.pow 2 (-e).toNat
  let d := den * Nat.pow 2 e.toNat
  (n / d, n % d, d)

/-- The binary exponent `e` for which `num / (den · 2^e)` lies in `[2^52, 2^53)`, found from
the bit lengths and corrected by at most a few steps. -/
def binaryExponent (num den : Nat) : Int :=
  let guess : Int := (num.log2 : Int) - den.log2 - 52
  let rec settle (e : Int) (fuel : Nat) : Int :=
    match fuel with
    | 0 => e
    | fuel + 1 =>
      let q := (scaledQuotient num den e).1
      if q ≥ Nat.pow 2 53 then settle (e + 1) fuel
      else if q < Nat.pow 2 52 then settle (e - 1) fuel
      else e
  settle guess 4

/-- The bits of the double nearest `num / den` (a positive `den`), with the sign `neg`. -/
def nearestBits (neg : Bool) (num den : Nat) : UInt64 :=
  let sign : Nat := if neg then Nat.pow 2 63 else 0
  if num = 0 then (sign : Nat).toUInt64
  else
    let e := max (binaryExponent num den) (-1074)
    let (q, r, d) := scaledQuotient num den e
    let q := if 2 * r > d ∨ (2 * r = d ∧ q % 2 = 1) then q + 1 else q
    let magnitude : Nat :=
      if q < Nat.pow 2 52 then q
      else
        let (q, e) := if q = Nat.pow 2 53 then (Nat.pow 2 52, e + 1) else (q, e)
        let biased := (e + 1075).toNat
        if biased ≥ 2047 then 2047 * Nat.pow 2 52 else biased * Nat.pow 2 52 + (q - Nat.pow 2 52)
    (sign + magnitude).toUInt64

/-- The double nearest `num / den`, with the sign `neg`. -/
def nearest (neg : Bool) (num den : Nat) : Float := Float.ofBits (nearestBits neg num den)

end SqlSearch.Decimal
