import SqlSearch.Text.Quoted
/-! Byte strings read as UTF-8. A character is read from its lead byte and the continuation
bytes it calls for; an overlong form, a surrogate, a code point past U+10FFFF or a missing
continuation byte makes the lead byte invalid on its own, and reading goes on with the next
byte. Text built from bytes shows each invalid byte as U+FFFD; quoted text shows it as `\x`
and two hex digits. -/
namespace SqlSearch.Text

/-- The bytes of a text. -/
def utf8Bytes (s : String) : List UInt8 := s.toUTF8.toList

/-- Whether a byte continues a character. -/
def isContinuation (b : UInt8) : Bool := b.toNat / 64 = 2

/-- The character at the start of the bytes and how many bytes it takes, or nothing when the
first byte does not start a valid character. -/
def decodeChar : List UInt8 → Option (Char × Nat)
  | [] => none
  | b0 :: rest =>
    let n0 := b0.toNat
    let cont (k : Nat) : Option (List Nat) :=
      let cs := rest.take k
      if cs.length = k ∧ cs.all isContinuation then some (cs.map fun b => b.toNat % 64) else none
    let build (cp len : Nat) : Option (Char × Nat) :=
      if cp.isValidChar then some (Char.ofNat cp, len) else none
    if n0 < 0x80 then build n0 1
    else if n0 < 0xC2 then none
    else if n0 < 0xE0 then
      (cont 1).bind fun cs => build ((n0 % 32) * 64 + cs.headD 0) 2
    else if n0 < 0xF0 then
      (cont 2).bind fun cs =>
        let cp := (n0 % 16) * 4096 + cs.headD 0 * 64 + cs.getD 1 0
        if cp < 0x800 then none else build cp 3
    else if n0 < 0xF5 then
      (cont 3).bind fun cs =>
        let cp := (n0 % 8) * 262144 + cs.headD 0 * 4096 + cs.getD 1 0 * 64 + cs.getD 2 0
        if cp < 0x10000 then none else build cp 4
    else none

/-- Reads bytes as characters, each invalid byte as `none`. -/
def decodeBytes : List UInt8 → List (Option Char)
  | [] => []
  | b :: rest =>
    match decodeChar (b :: rest) with
    | some (c, n) => some c :: decodeBytes ((b :: rest).drop (max n 1))
    | none => none :: decodeBytes rest
termination_by bs => bs.length
decreasing_by all_goals simp <;> omega

/-- The text of bytes, an invalid byte showing as U+FFFD. -/
def stringOfBytes (bs : List UInt8) : String :=
  String.ofList ((decodeBytes bs).map fun c => c.getD '�')

/-- The bytes between double quotes, escaped; an invalid byte is written `\x` and two hex
digits. -/
def quoteBytes (bs : List UInt8) : String :=
  let rec go : List UInt8 → List Char
    | [] => []
    | b :: rest =>
      match decodeChar (b :: rest) with
      | some (c, n) => quoteChar c ++ go ((b :: rest).drop (max n 1))
      | none => '\\' :: 'x' :: hexPadded 2 b.toNat ++ go rest
  termination_by bs => bs.length
  decreasing_by all_goals simp <;> omega
  String.ofList ('"' :: go bs ++ ['"'])

end SqlSearch.Text
