/-! Tables of code points. A property of characters is stored as a sorted array of disjoint
closed ranges, written in the source either as a literal array, which proofs can evaluate, or
as hexadecimal text (`41-5a,61-7a,aa`) read when the table is first used. Membership is a
binary search over the ranges. -/
namespace SqlSearch.Text

/-- The value of one hexadecimal digit; anything else counts as zero. -/
def hexDigitValue (c : Char) : Nat :=
  if '0' ≤ c ∧ c ≤ '9' then c.toNat - '0'.toNat
  else if 'a' ≤ c ∧ c ≤ 'f' then c.toNat - 'a'.toNat + 10
  else if 'A' ≤ c ∧ c ≤ 'F' then c.toNat - 'A'.toNat + 10
  else 0

/-- The number written by a run of hexadecimal digits. -/
def hexValue (s : String) : Nat :=
  s.foldl (fun n c => n * 16 + hexDigitValue c) 0

/-- A sorted array of disjoint closed ranges of code points. -/
structure RangeTable where
  ranges : Array (Nat × Nat)

namespace RangeTable

/-- Reads `lo-hi` and `cp` items separated by commas. -/
def ofText (s : String) : RangeTable :=
  ⟨((s.splitOn ",").map fun item =>
    match item.splitOn "-" with
    | [a, b] => (hexValue a, hexValue b)
    | _ => (hexValue item, hexValue item)).toArray⟩

/-- Binary search for `c` among the ranges with index in `[lo, hi)`. -/
def search (t : RangeTable) (c lo hi : Nat) : Bool :=
  if lo < hi then
    let mid := (lo + hi) / 2
    match t.ranges[mid]? with
    | none => false
    | some (a, b) =>
      if c < a then search t c lo mid
      else if b < c then search t c (mid + 1) hi
      else true
  else false
termination_by hi - lo

/-- Whether the code point `c` lies in one of the table's ranges. -/
def contains (t : RangeTable) (c : Nat) : Bool :=
  t.search c 0 t.ranges.size

/-- Whether the character lies in one of the table's ranges. -/
def containsChar (t : RangeTable) (c : Char) : Bool :=
  t.contains c.toNat

end RangeTable

/-- Binary search, among the entries with index in `[lo, hi)` of an array sorted by `key`, for
the entry whose key is `k`. -/
def findSorted {α : Type} (entries : Array α) (key : α → Nat) (k lo hi : Nat) : Option α :=
  if lo < hi then
    let mid := (lo + hi) / 2
    match entries[mid]? with
    | none => none
    | some e =>
      if k < key e then findSorted entries key k lo mid
      else if key e < k then findSorted entries key k (mid + 1) hi
      else some e
  else none
termination_by hi - lo

/-- The entry whose key is `k` in an array sorted by `key`. -/
def lookupSorted {α : Type} (entries : Array α) (key : α → Nat) (k : Nat) : Option α :=
  findSorted entries key k 0 entries.size

end SqlSearch.Text
