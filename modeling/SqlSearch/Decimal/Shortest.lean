/-! Shortest decimal digits of a double. A finite double is `m · 2^e`; the reals that round to it
form an interval around it, half a unit of the last place wide on each side (a quarter below a
power of two, where the spacing halves), with both ends included when `m` is even. The digits
chosen are those of the coarsest power-of-ten grid that has a point in the interval; of the two
grid points next to the value the nearer is taken, and of two equally near the one with an even
last digit. All arithmetic is exact on natural numbers. -/
namespace SqlSearch.Decimal

/-- What the bits of a double stand for. -/
inductive Binary where
  | nan
  | inf (neg : Bool)
  /-- The value `(-1)^neg · mant · 2^exp`. -/
  | finite (neg : Bool) (mant : Nat) (exp : Int)
  deriving Repr, DecidableEq

/-- Reads the sign, exponent and fraction fields of a double. -/
def Binary.ofBits (bits : UInt64) : Binary :=
  let b : Nat := bits.toNat
  let neg : Bool := b / Nat.pow 2 63 % 2 = 1
  let biased : Nat := b / Nat.pow 2 52 % Nat.pow 2 11
  let frac : Nat := b % Nat.pow 2 52
  if biased = 2047 then (if frac = 0 then .inf neg else .nan)
  else if biased = 0 then .finite neg frac (-1074)
  else .finite neg (frac + Nat.pow 2 52) ((biased : Int) - 1075)

/-- Compares `a · 10^i` with `b · 2^j`, all exact. -/
def cmpScaled (a : Nat) (i : Int) (b : Nat) (j : Int) : Ordering :=
  let lhs := a * Nat.pow 10 i.toNat * Nat.pow 2 (-j).toNat
  let rhs := b * Nat.pow 2 j.toNat * Nat.pow 10 (-i).toNat
  compare lhs rhs

/-- Shortest digits of a positive value `m · 2^e`: a number `c` and a power `k` with
`c · 10^k` reading back as the value, `c` having as few digits as possible. -/
def shortestDigits (m : Nat) (e : Int) : Nat × Int :=
  -- the value and the ends of its interval, as multiples of 2^(e-2)
  let v4 := 4 * m
  let lowerGap := if m = Nat.pow 2 52 ∧ e > -1074 then 1 else 2
  let lo := v4 - lowerGap
  let hi := v4 + 2
  let inclusive := m % 2 = 0
  let s := e - 2
  let inside (c : Nat) (k : Int) : Bool :=
    let above := match cmpScaled c k lo s with
      | .gt => true
      | .eq => inclusive
      | .lt => false
    let below := match cmpScaled c k hi s with
      | .lt => true
      | .eq => inclusive
      | .gt => false
    above && below
  -- floor of the value on the grid 10^k
  let floorAt (k : Int) : Nat :=
    (v4 * Nat.pow 2 s.toNat * Nat.pow 10 (-k).toNat) / (Nat.pow 2 (-s).toNat * Nat.pow 10 k.toNat)
  let intPart := (m * Nat.pow 2 e.toNat) / Nat.pow 2 (-e).toNat
  let start : Int := (Nat.toDigits 10 (intPart + 1)).length
  let rec search (k : Int) (fuel : Nat) : Nat × Int :=
    match fuel with
    | 0 => (m, e)
    | fuel + 1 =>
      let f := floorAt k
      let fIn := f ≠ 0 && inside f k
      let cIn := inside (f + 1) k
      if fIn && cIn then
        -- both neighbours read back: take the nearer, an even one on a tie
        match cmpScaled (2 * f + 1) k (2 * v4) s with
        | .gt => (f, k)
        | .lt => (f + 1, k)
        | .eq => if f % 2 = 0 then (f, k) else (f + 1, k)
      else if fIn then (f, k)
      else if cIn then (f + 1, k)
      else search (k - 1) fuel
  search start 800

/-- Removes trailing zeros from `c · 10^k`. -/
def trimZeros (c : Nat) (k : Int) (fuel : Nat := 40) : Nat × Int :=
  match fuel with
  | 0 => (c, k)
  | fuel + 1 => if c ≠ 0 ∧ c % 10 = 0 then trimZeros (c / 10) (k + 1) fuel else (c, k)

/-- The shortest digits of a finite double and the position of its decimal point: the value is
`0.d₁d₂…dₙ × 10^point`. Zero has no digits. -/
def shortest (m : Nat) (e : Int) : List Char × Int :=
  if m = 0 then ([], 0)
  else
    let (c, k) := shortestDigits m e
    let (c, k) := trimZeros c k
    let ds := Nat.toDigits 10 c
    (ds, k + ds.length)

end SqlSearch.Decimal
