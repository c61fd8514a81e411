import SqlSearch.Decimal.Nearest
/-! Reading a double from text. The accepted forms are an optional sign followed by `inf`,
`infinity` or (unsigned) `nan` in any case; a decimal mantissa with an optional point and an
optional exponent `e±d`; or a hexadecimal mantissa after `0x` with a required binary exponent
`p±d`. Underscores may stand between digits, or between the `0x` and a digit. A value past the
largest double is out of range; a value below the smallest becomes zero. -/
namespace SqlSearch.Decimal

/-- Why a text is not a double. -/
inductive ReadError where
  /-- The text is not a number. -/
  | invalid
  /-- The number is too large for a double. -/
  | range
  deriving Repr, DecidableEq

/-- How many leading characters of `cs` spell `word` in any case. -/
def commonPrefixFold (cs : List Char) (word : List Char) : Nat :=
  match cs, word with
  | c :: cs, w :: ws => if c.toLower = w then commonPrefixFold cs ws + 1 else 0
  | _, _ => 0

/-- A special value filling the whole text: an infinity or not-a-number. -/
def readSpecial (cs : List Char) : Option Float :=
  let inf (neg : Bool) (rest : List Char) : Option Float :=
    let n := commonPrefixFold rest "infinity".toList
    let n := if 3 < n ∧ n < 8 then 3 else n
    if (n = 3 ∨ n = 8) ∧ rest.length = n then
      some (if neg then -(1.0 / 0.0) else 1.0 / 0.0)
    else none
  match cs with
  | '+' :: rest => inf false rest
  | '-' :: rest => inf true rest
  | c :: _ =>
    if c = 'i' ∨ c = 'I' then inf false cs
    else if (c = 'n' ∨ c = 'N') ∧ commonPrefixFold cs "nan".toList = 3 ∧ cs.length = 3 then
      some (0.0 / 0.0)
    else none
  | [] => none

/-- Whether the underscores of a number stand only between digits, or right after `0x`. -/
def underscoresPlaced (cs : List Char) : Bool :=
  let cs := match cs with
    | '+' :: r => r
    | '-' :: r => r
    | r => r
  -- the last class seen: start, digit, underscore or other
  let (start, hex, body) := match cs with
    | '0' :: x :: r =>
      if x.toLower = 'b' ∨ x.toLower = 'o' ∨ x.toLower = 'x' then ('0', x.toLower == 'x', r)
      else ('^', false, cs)
    | _ => ('^', false, cs)
  let step (saw : Option Char) (c : Char) : Option Char :=
    saw.bind fun s =>
      if c.isDigit || (hex && 'a' ≤ c.toLower && c.toLower ≤ 'f') then some '0'
      else if c = '_' then (if s = '0' then some '_' else none)
      else if s = '_' then none
      else some '!'
  match body.foldl step (some start) with
  | some s => s ≠ '_'
  | none => false

/-- The value of a digit in base 16 (also used for base 10). -/
def digitValue (c : Char) : Nat :=
  if c.isDigit then c.toNat - '0'.toNat else c.toLower.toNat - 'a'.toNat + 10

/-- The parts of a number's text: sign, mantissa digits, digits after the point, exponent. -/
structure Numeral where
  neg : Bool
  hex : Bool
  digits : List Char
  fracDigits : Nat
  exponent : Int

/-- Reads the exponent digits, which stop growing once past 10000. -/
def exponentValue (ds : List Char) : Nat :=
  ds.foldl (fun e c => if c = '_' then e else if e < 10000 then e * 10 + digitValue c else e) 0

/-- Splits a number's text into its parts, or fails if the text is not one number. -/
def Numeral.ofChars? (cs : List Char) : Option Numeral :=
  let (neg, cs) := match cs with
    | '+' :: r => (false, r)
    | '-' :: r => (true, r)
    | r => (false, r)
  let (hex, body) := match cs with
    | '0' :: x :: r@(_ :: _) => if x = 'x' ∨ x = 'X' then (true, r) else (false, cs)
    | _ => (false, cs)
  let isMantDigit (c : Char) : Bool := c.isDigit || (hex && 'a' ≤ c.toLower && c.toLower ≤ 'f')
  let whole := body.takeWhile fun c => isMantDigit c || c = '_'
  let rest := body.drop whole.length
  let (frac, rest) := match rest with
    | '.' :: r =>
      let f := r.takeWhile fun c => isMantDigit c || c = '_'
      (f, r.drop f.length)
    | r => ([], r)
  let digits := (whole ++ frac).filter (· ≠ '_')
  if digits.isEmpty then none
  else
    let expMark := if hex then 'p' else 'e'
    let exponent : Option (Int × Nat) := match rest with
      | c :: r =>
        if c.toLower = expMark then
          let (eneg, r) := match r with
            | '+' :: r => (false, r)
            | '-' :: r => (true, r)
            | r => (false, r)
          match r with
          | d :: _ =>
            if d.isDigit then
              let ds := r.takeWhile fun c => c.isDigit || c = '_'
              if ds.length = r.length then
                let e : Int := exponentValue ds
                some (if eneg then -e else e, 0)
              else none
            else none
          | [] => none
        else none
      | [] => if hex then none else some (0, 0)
    match exponent with
    | some (e, _) => some ⟨neg, hex, digits, (frac.filter (· ≠ '_')).length, e⟩
    | none => none

/-- The double a numeral stands for, or `range` when it is too large. -/
def Numeral.value (n : Numeral) : Except ReadError Float :=
  let m := n.digits.foldl (fun acc c => acc * (if n.hex then 16 else 10) + digitValue c) 0
  if m = 0 then .ok (nearest n.neg 0 1)
  else if n.hex then
    -- m · 2^(exponent - 4 · fracDigits)
    let k : Int := n.exponent - 4 * n.fracDigits
    let lead : Int := m.log2 + k
    if lead > 1100 then .error .range
    else if lead < -1100 then .ok (nearest n.neg 0 1)
    else
      let x := nearest n.neg (m * Nat.pow 2 k.toNat) (Nat.pow 2 (-k).toNat)
      if x.isInf then .error .range else .ok x
  else
    -- m · 10^(exponent - fracDigits)
    let k : Int := n.exponent - n.fracDigits
    let lead : Int := (Nat.toDigits 10 m).length + k
    if lead > 310 then .error .range
    else if lead < -330 then .ok (nearest n.neg 0 1)
    else
      let x := nearest n.neg (m * Nat.pow 10 k.toNat) (Nat.pow 10 (-k).toNat)
      if x.isInf then .error .range else .ok x

/-- Reads a double from the whole of a text. -/
def readDouble (s : String) : Except ReadError Float :=
  let cs := s.toList
  match readSpecial cs with
  | some x => .ok x
  | none =>
    match Numeral.ofChars? cs with
    | some n => if cs.contains '_' ∧ !underscoresPlaced cs then .error .invalid else n.value
    | none => .error .invalid

end SqlSearch.Decimal
