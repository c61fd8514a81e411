/-! Blank characters: the Unicode White_Space property (tab, line feed, vertical tab, form feed,
carriage return, space, U+0085, U+00A0, U+1680, U+2000 to U+200A, U+2028, U+2029, U+202F,
U+205F and U+3000). Statements are trimmed of blanks before they are read, and blanks
separate their tokens.

Main statements: `trimBlank_toList` gives trimming as two `dropWhile`s, and
`isBlank_of_isWhitespace` says that every character core calls whitespace is blank here. -/
namespace SqlSearch.Text

/-- A statement over the members of a given list is decided member by member, ahead of any
instance that would decide it over every value of the type, such as every character. -/
instance (priority := 1100) decidableForallMem {α : Type} (p : α → Prop) [DecidablePred p]
    (l : List α) : Decidable (∀ x ∈ l, p x) :=
  List.decidableBAll p l

/-- Whether `c` has the White_Space property of Unicode 15.0. -/
def isBlank (c : Char) : Bool :=
  let n := c.toNat
  (9 ≤ n ∧ n ≤ 13) || n = 0x20 || n = 0x85 || n = 0xa0 || n = 0x1680 ||
    (0x2000 ≤ n ∧ n ≤ 0x200a) || n = 0x2028 || n = 0x2029 || n = 0x202f || n = 0x205f ||
    n = 0x3000

/-- The code points of the blanks, in order. -/
def blankCodes : List Nat :=
  [9, 10, 11, 12, 13, 0x20, 0x85, 0xa0, 0x1680, 0x2000, 0x2001, 0x2002, 0x2003, 0x2004, 0x2005,
    0x2006, 0x2007, 0x2008, 0x2009, 0x200a, 0x2028, 0x2029, 0x202f, 0x205f, 0x3000]

theorem toNat_mem_blankCodes {c : Char} (h : isBlank c = true) : c.toNat ∈ blankCodes := by
  simp only [isBlank, Bool.or_eq_true, decide_eq_true_eq] at h
  simp only [blankCodes, List.mem_cons, List.not_mem_nil, or_false]
  omega

theorem isBlank_ofNat_of_mem : ∀ k ∈ blankCodes, isBlank (Char.ofNat k) = true := by
  decide

theorem isBlank_of_isWhitespace {c : Char} (h : c.isWhitespace) : isBlank c := by
  simp only [Char.isWhitespace, Bool.or_eq_true, decide_eq_true_eq] at h
  simp only [isBlank, Bool.or_eq_true, decide_eq_true_eq]
  rcases h with ((h | h) | h) | h <;> subst h <;> decide

/-- The characters with blanks removed from both ends. -/
def trimBlankList (cs : List Char) : List Char :=
  ((cs.dropWhile isBlank).reverse.dropWhile isBlank).reverse

/-- The text with blanks removed from both ends. -/
def trimBlank (s : String) : String :=
  String.ofList (trimBlankList s.toList)

/-- The text with blanks removed from its start. -/
def trimBlankLeft (s : String) : String :=
  String.ofList (s.toList.dropWhile isBlank)

/-- The text with blanks removed from its end. -/
def trimBlankRight (s : String) : String :=
  String.ofList (s.toList.reverse.dropWhile isBlank).reverse

@[simp] theorem trimBlank_toList (s : String) :
    (trimBlank s).toList = ((s.toList.dropWhile isBlank).reverse.dropWhile isBlank).reverse := by
  simp [trimBlank, trimBlankList]

end SqlSearch.Text
