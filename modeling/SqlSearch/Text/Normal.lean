import SqlSearch.Text.Normal.Tables
/-! Canonical composition (Normalization Form C). A text is decomposed canonically, the marks
after each starter are put in the order of their combining classes (a stable sort, so marks of
one class keep their order), and then each mark is joined to the last starter before it
when a primary composite exists and no mark of the same or a zero class stands between them.
Hangul syllables decompose into and compose from their jamo by arithmetic. -/
namespace SqlSearch.Text.Normal

/-- The first Hangul syllable, and the counts that lay out the syllable block. -/
def hangulBase : Nat := 0xAC00
def leadBase : Nat := 0x1100
def vowelBase : Nat := 0x1161
def trailBase : Nat := 0x11A7
def vowelCount : Nat := 21
def trailCount : Nat := 28
def syllableCount : Nat := 11172

set_option maxRecDepth 100000 in
/-- The canonical combining class of a code point; zero for starters. -/
def combiningClass (c : Nat) : Nat :=
  match findRun c 0 classRuns.size with
  | some r => r.cls
  | none => 0
where
  findRun (c lo hi : Nat) : Option ClassRun :=
    if lo < hi then
      let mid := (lo + hi) / 2
      match classRuns[mid]? with
      | none => none
      | some r =>
        if c < r.lo then findRun c lo mid
        else if r.hi < c then findRun c (mid + 1) hi
        else some r
    else none
  termination_by hi - lo

/-- The full canonical decomposition of one code point. -/
def decompose (c : Nat) : List Nat :=
  if hangulBase ≤ c ∧ c < hangulBase + syllableCount then
    let s := c - hangulBase
    let l := leadBase + s / (vowelCount * trailCount)
    let v := vowelBase + s % (vowelCount * trailCount) / trailCount
    let t := s % trailCount
    if t = 0 then [l, v] else [l, v, trailBase + t]
  else
    match lookupSorted decompositions Decomposition.code c with
    | some d => d.parts
    | none => [c]

/-- Inserts a mark into a run of marks sorted by class, after every mark of the same class. -/
def insertMark (m : Nat) : List Nat → List Nat
  | [] => [m]
  | x :: xs => if combiningClass m < combiningClass x then m :: x :: xs else x :: insertMark m xs

/-- Puts each run of marks into the order of their classes, stably. `run` holds the marks
seen since the last starter, already sorted. -/
def reorder (run : List Nat) : List Nat → List Nat
  | [] => run
  | c :: cs =>
    if combiningClass c = 0 then run ++ c :: reorder [] cs
    else reorder (insertMark c run) cs

/-- The primary composite of two code points, Hangul included. -/
def compose (a b : Nat) : Option Nat :=
  if leadBase ≤ a ∧ a < leadBase + 19 ∧ vowelBase ≤ b ∧ b < vowelBase + vowelCount then
    some (hangulBase + ((a - leadBase) * vowelCount + (b - vowelBase)) * trailCount)
  else if hangulBase ≤ a ∧ a < hangulBase + syllableCount ∧ (a - hangulBase) % trailCount = 0 ∧
      trailBase < b ∧ b < trailBase + trailCount then
    some (a + (b - trailBase))
  else
    (lookupSorted composites Composite.key (a * 0x110000 + b)).map Composite.code

/-- Canonical composition of a decomposed, reordered sequence. `starter` is the last starter
still open for composition, `between` the marks kept after it (in reverse), and `last` the
class of the last kept character after the starter, zero when none. -/
def composeFrom (starter : Nat) (between : List Nat) (last : Nat) : List Nat → List Nat
  | [] => starter :: between.reverse
  | c :: cs =>
    let k := combiningClass c
    -- a mark joins the starter unless a kept mark of the same or a higher class stands between
    match (compose starter c).filter fun _ => between.isEmpty || decide (last < k) with
    | some s => composeFrom s between last cs
    | none =>
      if k = 0 then starter :: between.reverse ++ composeFrom c [] 0 cs
      else composeFrom starter (c :: between) k cs

/-- Composes a whole sequence; marks before the first starter are left as they are. -/
def composeAll : List Nat → List Nat
  | [] => []
  | c :: cs =>
    if combiningClass c = 0 then composeFrom c [] 0 cs else c :: composeAll cs

/-- The code points of a text in Normalization Form C. -/
def nfcCodes (cs : List Nat) : List Nat :=
  composeAll (reorder [] (cs.flatMap decompose))

end SqlSearch.Text.Normal

namespace SqlSearch.Text

/-- The text in Normalization Form C. -/
def nfc (s : String) : String :=
  String.ofList ((Normal.nfcCodes (s.toList.map Char.toNat)).map Char.ofNat)

end SqlSearch.Text
