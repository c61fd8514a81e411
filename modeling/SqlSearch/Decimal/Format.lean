import SqlSearch.Decimal.Shortest
/-! Writing a double from its shortest digits. A value `0.d₁…dₙ × 10^point` is written either
positionally or as `d₁.d₂…dₙe±XX`; a `Style` says which exponents are written positionally and
how many digits an exponent has at least. Three styles are used: every value positionally, the
general style (positional for exponents from -4 to 5), and the style of JSON documents
(positional from 1e-6 up to 1e21, with a negative exponent written without padding). -/
namespace SqlSearch.Decimal

/-- Where positional notation ends and how exponents are padded. The exponent of a value is
`point - 1`, the power of ten of its first digit; zero is always written positionally. -/
structure Style where
  /-- The least exponent written positionally, if there is one. -/
  positionalFrom : Option Int
  /-- The first exponent above the positional range, if there is one. -/
  positionalBelow : Option Int
  /-- Least number of digits of a positive exponent. -/
  upDigits : Nat
  /-- Least number of digits of a negative exponent. -/
  downDigits : Nat

/-- Every value positionally, with all its digits. -/
def Style.plain : Style := ⟨none, none, 2, 2⟩

/-- Positional from `1e-4` to below `1e6`, else scientific with two-digit exponents. -/
def Style.general : Style := ⟨some (-4), some 6, 2, 2⟩

/-- Positional from `1e-6` to below `1e21`, else scientific; `e-7`, but `e+21`. -/
def Style.json : Style := ⟨some (-6), some 21, 2, 1⟩

/-- Whether a style writes the exponent `e` positionally. -/
def Style.isPositional (st : Style) (e : Int) : Bool :=
  (st.positionalFrom.all fun lo => lo ≤ e) && (st.positionalBelow.all fun hi => e < hi)

/-- `0.d₁…dₙ × 10^point` written positionally, with `0` before a point that comes first. -/
def positional (ds : List Char) (point : Int) : String :=
  let whole :=
    if point > 0 then ds.take point.toNat ++ List.replicate (point.toNat - ds.length) '0'
    else ['0']
  let frac := if point ≥ 0 then ds.drop point.toNat else List.replicate (-point).toNat '0' ++ ds
  String.ofList (whole ++ if frac.isEmpty then [] else '.' :: frac)

/-- The exponent `e` with its sign and at least `width` digits. -/
def exponentText (e : Int) (up down : Nat) : String :=
  let digits := Nat.toDigits 10 e.natAbs
  let width := if e < 0 then down else up
  String.ofList ((if e < 0 then '-' else '+') :: List.replicate (width - digits.length) '0' ++ digits)

/-- `0.d₁…dₙ × 10^point` written as `d₁.d₂…dₙe±XX`. -/
def scientific (ds : List Char) (point : Int) (up down : Nat) : String :=
  match ds with
  | [] => "0e" ++ exponentText 0 up down
  | d :: rest =>
    String.ofList (d :: if rest.isEmpty then [] else '.' :: rest) ++ "e" ++
      exponentText (point - 1) up down

/-- A finite value with sign, digits and point, in a style. -/
def Style.write (st : Style) (neg : Bool) (ds : List Char) (point : Int) : String :=
  let body :=
    if ds.isEmpty || st.isPositional (point - 1) then positional ds point
    else scientific ds point st.upDigits st.downDigits
  if neg then "-" ++ body else body

/-- The shortest text of a double in a style; not-a-number and the infinities have no text. -/
def Style.text? (st : Style) (x : Float) : Option String :=
  match Binary.ofBits x.toBits with
  | .finite neg m e =>
    let (ds, point) := shortest m e
    some (st.write neg ds point)
  | _ => none

/-- The shortest text of a double in a style, with `NaN`, `+Inf` and `-Inf` for the others. -/
def Style.text (st : Style) (x : Float) : String :=
  match Binary.ofBits x.toBits with
  | .finite neg m e =>
    let (ds, point) := shortest m e
    st.write neg ds point
  | .nan => "NaN"
  | .inf neg => if neg then "-Inf" else "+Inf"

end SqlSearch.Decimal
