import SqlSearch.Decimal.Read
import SqlSearch.Text.Quoted
import SqlSearch.Text.Utf8
/-! Reading setting values from text: integers (an optional sign and decimal digits, within 64
bits), booleans (`1 t T true TRUE True` and `0 f F false FALSE False`), doubles, and durations
(`[-+]` then numbers with units `ns us µs μs ms s m h`, such as `1h30m` or `1.5s`; a bare `0` is
zero). A failure names the reader, the text and the reason. -/
namespace SqlSearch.Config

open SqlSearch.Text

/-- A failure of a number reader: `strconv.Reader: parsing "text": reason`. -/
def numberError (reader : String) (text : String) (outOfRange : Bool) : String :=
  "strconv." ++ reader ++ ": parsing " ++ quote text ++ ": " ++
    (if outOfRange then "value out of range" else "invalid syntax")

/-- Reads a 64-bit integer. -/
def readInt (s : String) : Except String Int :=
  let fail (range : Bool) : Except String Int := .error (numberError "Atoi" s range)
  let (neg, digits) := match s.toList with
    | '-' :: r => (true, r)
    | '+' :: r => (false, r)
    | r => (false, r)
  if digits.isEmpty then fail false
  else
    -- digits are read until one is not a digit or the value passes 64 bits
    let step (acc : Except Bool Nat) (c : Char) : Except Bool Nat :=
      acc.bind fun n =>
        if !c.isDigit then .error false
        else
          let n' := n * 10 + (c.toNat - '0'.toNat)
          if n' ≥ Nat.pow 2 64 then .error true else .ok n'
    match digits.foldl step (.ok 0) with
    | .error range => fail range
    | .ok n =>
      if (!neg && n ≥ Nat.pow 2 63) || (neg && n > Nat.pow 2 63) then fail true
      else .ok (if neg then -(n : Int) else n)

/-- Reads a boolean. -/
def readBool (s : String) : Except String Bool :=
  if ["1", "t", "T", "true", "TRUE", "True"].contains s then .ok true
  else if ["0", "f", "F", "false", "FALSE", "False"].contains s then .ok false
  else .error ("strconv.ParseBool: parsing " ++ quote s ++ ": invalid syntax")

/-- Reads a double. -/
def readFloat (s : String) : Except String Float :=
  match Decimal.readDouble s with
  | .ok x => .ok x
  | .error .range => .error (numberError "ParseFloat" s true)
  | .error .invalid => .error (numberError "ParseFloat" s false)

/-- A duration text between quotes, bytes outside printable ASCII written `\x` and two hex
digits. -/
def durationQuote (s : String) : String :=
  let body := s.toList.flatMap fun c =>
    if c.toNat ≥ 0x80 ∨ c.toNat < 0x20 then
      (utf8Bytes c.toString).flatMap fun b => '\\' :: 'x' :: hexPadded 2 b.toNat
    else if c = '"' ∨ c = '\\' then ['\\', c]
    else [c]
  String.ofList ('"' :: body ++ ['"'])

/-- The length of a duration unit, in nanoseconds. -/
def unitLength (u : String) : Option Nat :=
  match u with
  | "ns" => some 1
  | "us" => some 1000
  | "µs" => some 1000
  | "μs" => some 1000
  | "ms" => some 1000000
  | "s" => some 1000000000
  | "m" => some 60000000000
  | "h" => some 3600000000000
  | _ => none

/-- Reads leading digits: the value, or none when it passes 2^63. -/
def leadingInt (ds : List Char) : Option Nat :=
  ds.foldl (fun acc c => acc.bind fun x =>
    if x > Nat.pow 2 63 / 10 then none
    else
      let y := x * 10 + (c.toNat - '0'.toNat)
      if y > Nat.pow 2 63 then none else some y) (some 0)

/-- Reads the digits after a point: the value and its scale, digits past the precision
ignored. -/
def leadingFraction (ds : List Char) : Nat × Float :=
  let step (st : Nat × Float × Bool) (c : Char) : Nat × Float × Bool :=
    let (x, scale, spent) := st
    if spent then st
    else if x > (Nat.pow 2 63 - 1) / 10 then (x, scale, true)
    else
      let y := x * 10 + (c.toNat - '0'.toNat)
      if y > Nat.pow 2 63 then (x, scale, true) else (y, scale * 10, false)
  let (x, scale, _) := ds.foldl step (0, 1, false)
  (x, scale)

/-- Reads a duration in nanoseconds. -/
def readDuration (orig : String) : Except String Int :=
  let invalid : Except String Int := .error ("time: invalid duration " ++ durationQuote orig)
  let (neg, s) := match orig.toList with
    | '-' :: r => (true, r)
    | '+' :: r => (false, r)
    | r => (false, r)
  if s = ['0'] then .ok 0
  else if s.isEmpty then invalid
  else
    let isNumChar (c : Char) : Bool := c = '.' || c.isDigit
    -- each round reads a number and its unit, adding to the total
    let rec go (fuel : Nat) (total : Nat) (s : List Char) : Except String Nat :=
      match fuel with
      | 0 => .ok total
      | fuel + 1 =>
        match s with
        | [] => .ok total
        | c :: _ =>
          if !isNumChar c then .error ("time: invalid duration " ++ durationQuote orig)
          else
            let intDigits := s.takeWhile Char.isDigit
            let s1 := s.drop intDigits.length
            match leadingInt intDigits with
            | none => .error ("time: invalid duration " ++ durationQuote orig)
            | some v =>
              let (fracDigits, s2, post) := match s1 with
                | '.' :: r =>
                  let fd := r.takeWhile Char.isDigit
                  (fd, r.drop fd.length, !fd.isEmpty)
                | r => ([], r, false)
              let (f, scale) := leadingFraction fracDigits
              if intDigits.isEmpty ∧ !post then
                .error ("time: invalid duration " ++ durationQuote orig)
              else
                let unitChars := s2.takeWhile fun d => !isNumChar d
                let s3 := s2.drop unitChars.length
                if unitChars.isEmpty then
                  .error ("time: missing unit in duration " ++ durationQuote orig)
                else
                  let u := String.ofList unitChars
                  match unitLength u with
                  | none =>
                    .error ("time: unknown unit " ++ durationQuote u ++ " in duration " ++
                      durationQuote orig)
                  | some unit =>
                    if v > Nat.pow 2 63 / unit then .error ("time: invalid duration " ++ durationQuote orig)
                    else
                      let v := v * unit
                      let v := if f > 0 then
                          v + (Float.ofNat f * (Float.ofNat unit / scale)).toUInt64.toNat
                        else v
                      if v > Nat.pow 2 63 then .error ("time: invalid duration " ++ durationQuote orig)
                      else
                        let total := total + v
                        if total > Nat.pow 2 63 then .error ("time: invalid duration " ++ durationQuote orig)
                        else go fuel total s3
    match go (s.length + 1) 0 s with
    | .error e => .error e
    | .ok d =>
      if neg then .ok (-(d : Int))
      else if d > Nat.pow 2 63 - 1 then invalid
      else .ok d

end SqlSearch.Config
