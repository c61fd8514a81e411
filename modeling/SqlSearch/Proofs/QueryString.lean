import SqlSearch.Query.Condition
/-! The query-string reading that condition texts are written for. Blanks separate clauses and
parentheses group. The bare words `AND`, `OR` and `NOT` are operators: `NOT` binds tighter than
`AND`, `AND` tighter than `OR`, and both junctions group to the left. An atom is `field:term`,
`field:<op>term`, `field:(t₁ OR … OR tₙ)` or `field:[lo TO hi]`. A term is a phrase in double
quotes with backslash escapes, or a bare run of characters with no blank, parenthesis or
unescaped double quote, in which a backslash takes the next character as it is, and which is not
one of the words `AND`, `OR`, `NOT`, `TO`. Where a text reads both as a comparison or a range and
as a bare term starting with `<`, `>` or `[`, the comparison or the range is taken.

`readQuery` is the reading. `Condition.reading` is the tree a condition stands for: groups are
transparent, `!=` and `<>` read as `NOT` over `field:value`, and a raw condition as the
parenthesised query of its own text. -/
namespace SqlSearch.Query

open SqlSearch.Text

/-- The test of an atom on its field. -/
inductive Test where
  | eq (term : String)
  | cmp (op : CompareOp) (term : String)
  | set (terms : List String)
  | range (lo hi : String)
  deriving Repr, DecidableEq

/-- The tree a query string stands for. -/
inductive QueryTree where
  | atom (field : String) (test : Test)
  | not (q : QueryTree)
  | join (j : Junction) (l r : QueryTree)
  deriving Repr, DecidableEq

namespace QueryString

/-- Characters that end a bare term. -/
def isStop (c : Char) : Bool := isBlank c || c = '(' || c = ')' || c = '"'

/-- Characters that end a bare term inside a range. -/
def isRangeStop (c : Char) : Bool := isStop c || c = ']'

/-- Characters of a field name. -/
def isFieldChar (c : Char) : Bool := !(isStop c || c = ':')

/-- The words that a bare term cannot be. -/
def operatorWords : List (List Char) :=
  [['A', 'N', 'D'], ['O', 'R'], ['N', 'O', 'T'], ['T', 'O']]

/-- The characters after the blanks at the start. -/
def skipBlanks (cs : List Char) : List Char := cs.dropWhile isBlank

/-- Whether a word ends before `cs`: at the end, a blank or a parenthesis. -/
def endsWord : List Char → Bool
  | [] => true
  | c :: _ => isBlank c || c = '(' || c = ')'

/-- What follows the word `w` at the start of `cs`, when it is a word of its own there. -/
def afterWord : List Char → List Char → Option (List Char)
  | [], cs => if endsWord cs then some cs else none
  | _ :: _, [] => none
  | w :: ws, c :: cs => if w = c then afterWord ws cs else none

/-- A bare run up to a stop character, with its escapes taken out, and what follows it. -/
def readBare (stop : Char → Bool) : List Char → List Char × List Char
  | [] => ([], [])
  | c :: cs =>
    if stop c then ([], c :: cs)
    else if c = '\\' then
      match cs with
      | d :: ds => let p := readBare stop ds; (d :: p.1, p.2)
      | [] => (['\\'], [])
    else let p := readBare stop cs; (c :: p.1, p.2)

/-- A phrase after its opening quote, with its escapes taken out, up to the closing quote. -/
def readPhrase : List Char → Option (List Char × List Char)
  | [] => none
  | c :: cs =>
    if c = '"' then some ([], cs)
    else if c = '\\' then
      match cs with
      | d :: ds => (readPhrase ds).map fun p => (d :: p.1, p.2)
      | [] => none
    else (readPhrase cs).map fun p => (c :: p.1, p.2)

/-- Whether a run of characters can stand as a bare term. -/
def isBareTerm (t : List Char) : Bool := !t.isEmpty && !operatorWords.contains t

/-- A phrase or a bare term ending at a `stop` character. -/
def readTerm (stop : Char → Bool) : List Char → Option (String × List Char)
  | '"' :: cs => (readPhrase cs).map fun p => (String.ofList p.1, p.2)
  | cs =>
    let p := readBare stop cs
    if isBareTerm p.1 then some (String.ofList p.1, p.2) else none

/-- The atom test `field:term`. -/
def readEq (cs : List Char) : Option (Test × List Char) :=
  (readTerm isStop cs).map fun p => (.eq p.1, p.2)

/-- The atom test `field:<op>term` for the operator `op` written before `cs`. -/
def readCmp (op : CompareOp) (cs : List Char) : Option (Test × List Char) :=
  (readTerm isStop cs).map fun p => (.cmp op p.1, p.2)

/-- A comparison, the longer operator first. -/
def readCompare : List Char → Option (Test × List Char)
  | '>' :: '=' :: cs => (readCmp .ge cs).orElse fun _ => readCmp .gt ('=' :: cs)
  | '<' :: '=' :: cs => (readCmp .le cs).orElse fun _ => readCmp .lt ('=' :: cs)
  | '>' :: cs => readCmp .gt cs
  | '<' :: cs => readCmp .lt cs
  | _ => none

/-- The terms of `field:(t₁ OR … OR tₙ)` after the opening parenthesis, and what follows the
closing one. -/
def readSet (cs : List Char) : Option (List String × List Char) :=
  match readTerm isStop (skipBlanks cs) with
  | none => none
  | some (t, r) =>
    match skipBlanks r with
    | ')' :: r' => some ([t], r')
    | r' =>
      match afterWord ['O', 'R'] r' with
      | none => none
      | some r'' =>
        -- the reader only consumes, so the guard always holds; it makes the recursion visible
        if r''.length < cs.length then (readSet r'').map fun p => (t :: p.1, p.2) else none
termination_by cs.length

/-- The ends of `field:[lo TO hi]` after the opening bracket, and what follows the closing one. -/
def readRange (cs : List Char) : Option (Test × List Char) := do
  let (lo, r) ← readTerm isRangeStop (skipBlanks cs)
  let r ← afterWord ['T', 'O'] (skipBlanks r)
  let (hi, r) ← readTerm isRangeStop (skipBlanks r)
  match skipBlanks r with
  | ']' :: r => some (.range lo hi, r)
  | _ => none

/-- The test after `field:`. -/
def readFieldTest : List Char → Option (Test × List Char)
  | '(' :: cs => (readSet cs).map fun p => (.set p.1, p.2)
  | '[' :: cs => (readRange cs).orElse fun _ => readEq ('[' :: cs)
  | cs => (readCompare cs).orElse fun _ => readEq cs

/-- An atom `field:test`. -/
def readAtom (cs : List Char) : Option (QueryTree × List Char) :=
  match cs.dropWhile isFieldChar with
  | ':' :: r =>
    if (cs.takeWhile isFieldChar).isEmpty then none
    else (readFieldTest r).map fun p => (.atom (String.ofList (cs.takeWhile isFieldChar)) p.1, p.2)
  | _ => none

theorem skipBlanks_length_le (cs : List Char) : (skipBlanks cs).length ≤ cs.length :=
  (List.dropWhile_suffix _).length_le

theorem afterWord_length {w cs r : List Char} (h : afterWord w cs = some r) :
    r.length + w.length = cs.length := by
  induction w generalizing cs with
  | nil =>
    simp only [afterWord, Option.ite_none_right_eq_some, Option.some.injEq] at h
    simp [h.2]
  | cons w ws ih =>
    cases cs with
    | nil => simp [afterWord] at h
    | cons c cs =>
      simp only [afterWord, Option.ite_none_right_eq_some] at h
      simp only [List.length_cons, ← ih h.2]
      omega

/-! Clauses, conjunctions and disjunctions. Each reader only consumes its input; the guards on
lengths always hold and make the mutual recursion well founded, a clause counting less than a
conjunction and a conjunction less than a disjunction at the same place. -/

mutual

/-- A clause at its first character: a parenthesised query, `NOT` and a clause, or an atom. -/
def readClause : List Char → Option (QueryTree × List Char)
  | '(' :: r =>
    match readDisj r with
    | some (q, r') =>
      match skipBlanks r' with
      | ')' :: r'' => some (q, r'')
      | _ => none
    | none => none
  | cs =>
    match h : afterWord ['N', 'O', 'T'] cs with
    | some r => (readUnary r).map fun p => (.not p.1, p.2)
    | none => readAtom cs
termination_by cs => 6 * cs.length
decreasing_by
  · simp only [List.length_cons]
    omega
  · have := afterWord_length h
    simp only [List.length_cons] at this
    omega

/-- A clause after blanks. -/
def readUnary (cs : List Char) : Option (QueryTree × List Char) :=
  readClause (skipBlanks cs)
termination_by 6 * cs.length + 1
decreasing_by
  have := skipBlanks_length_le cs
  omega

/-- Clauses joined by `AND`, the first one read, the rest after `acc`. -/
def conjLoop (acc : QueryTree) (cs : List Char) : Option (QueryTree × List Char) :=
  match h : afterWord ['A', 'N', 'D'] (skipBlanks cs) with
  | some r =>
    match readUnary r with
    | some (u, r') => if r'.length < cs.length then conjLoop (.join .and acc u) r' else none
    | none => none
  | none => some (acc, cs)
termination_by 6 * cs.length + 2
decreasing_by
  · have := skipBlanks_length_le cs
    have := afterWord_length h
    simp only [List.length_cons] at *
    omega
  · omega

/-- A conjunction of clauses. -/
def readConj (cs : List Char) : Option (QueryTree × List Char) :=
  match readUnary cs with
  | some (u, r) => if r.length ≤ cs.length then conjLoop u r else none
  | none => none
termination_by 6 * cs.length + 3
decreasing_by all_goals omega

/-- Conjunctions joined by `OR`, the first one read, the rest after `acc`. -/
def disjLoop (acc : QueryTree) (cs : List Char) : Option (QueryTree × List Char) :=
  match h : afterWord ['O', 'R'] (skipBlanks cs) with
  | some r =>
    match readConj r with
    | some (c, r') => if r'.length < cs.length then disjLoop (.join .or acc c) r' else none
    | none => none
  | none => some (acc, cs)
termination_by 6 * cs.length + 4
decreasing_by
  · have := skipBlanks_length_le cs
    have := afterWord_length h
    simp only [List.length_cons] at *
    omega
  · omega

/-- A disjunction of conjunctions. -/
def readDisj (cs : List Char) : Option (QueryTree × List Char) :=
  match readConj cs with
  | some (c, r) => if r.length ≤ cs.length then disjLoop c r else none
  | none => none
termination_by 6 * cs.length + 5
decreasing_by all_goals omega

end

/-! The readers one step at a time: each lemma says what a reader does at an input of a given
shape, so that later proofs cite it and never unfold the reader. -/

theorem skipBlanks_cons_of_isBlank {c : Char} {cs : List Char} (h : isBlank c = true) :
    skipBlanks (c :: cs) = skipBlanks cs := by
  simp [skipBlanks, h]

theorem skipBlanks_cons_of_not_isBlank {c : Char} {cs : List Char} (h : isBlank c = false) :
    skipBlanks (c :: cs) = c :: cs := by
  simp [skipBlanks, h]

theorem skipBlanks_blanks_append {b cs : List Char} (hb : ∀ c ∈ b, isBlank c = true) :
    skipBlanks (b ++ cs) = skipBlanks cs :=
  List.dropWhile_append_of_pos hb

theorem afterWord_append (w : List Char) {rest : List Char} (h : endsWord rest = true) :
    afterWord w (w ++ rest) = some rest := by
  induction w with
  | nil => simp [afterWord, h]
  | cons c w ih => simp [afterWord, ih]

theorem afterWord_cons_ne {w c : Char} {ws cs : List Char} (h : w ≠ c) :
    afterWord (w :: ws) (c :: cs) = none := by
  simp [afterWord, h]

theorem readClause_of_afterWord {cs r : List Char} (h : afterWord ['N', 'O', 'T'] cs = some r) :
    readClause cs = (readUnary r).map fun p => (.not p.1, p.2) := by
  rw [readClause]
  · split <;> simp_all
  · rintro r' rfl
    simp [afterWord] at h

theorem readClause_of_afterWord_none {cs : List Char} (hp : ∀ r, cs ≠ '(' :: r)
    (h : afterWord ['N', 'O', 'T'] cs = none) : readClause cs = readAtom cs := by
  rw [readClause]
  · split <;> simp_all
  · exact hp

theorem readUnary_eq (cs : List Char) : readUnary cs = readClause (skipBlanks cs) := by
  rw [readUnary]

theorem readUnary_blanks_append {b cs : List Char} (hb : ∀ c ∈ b, isBlank c = true) :
    readUnary (b ++ cs) = readUnary cs := by
  simp only [readUnary_eq, skipBlanks_blanks_append hb]

theorem conjLoop_of_afterWord {acc : QueryTree} {cs r : List Char}
    (h : afterWord ['A', 'N', 'D'] (skipBlanks cs) = some r) :
    conjLoop acc cs =
      match readUnary r with
      | some (u, r') => if r'.length < cs.length then conjLoop (.join .and acc u) r' else none
      | none => none := by
  rw [conjLoop]
  split <;> simp_all

theorem conjLoop_of_afterWord_none {acc : QueryTree} {cs : List Char}
    (h : afterWord ['A', 'N', 'D'] (skipBlanks cs) = none) : conjLoop acc cs = some (acc, cs) := by
  rw [conjLoop]
  split <;> simp_all

theorem disjLoop_of_afterWord {acc : QueryTree} {cs r : List Char}
    (h : afterWord ['O', 'R'] (skipBlanks cs) = some r) :
    disjLoop acc cs =
      match readConj r with
      | some (c, r') => if r'.length < cs.length then disjLoop (.join .or acc c) r' else none
      | none => none := by
  rw [disjLoop]
  split <;> simp_all

theorem readConj_eq (cs : List Char) :
    readConj cs =
      match readUnary cs with
      | some (u, r) => if r.length ≤ cs.length then conjLoop u r else none
      | none => none := by
  rw [readConj]

theorem readDisj_eq (cs : List Char) :
    readDisj cs =
      match readConj cs with
      | some (c, r) => if r.length ≤ cs.length then disjLoop c r else none
      | none => none := by
  rw [readDisj]

/-- What can follow a disjunction: the end, a closing parenthesis or ` OR `. -/
def FollowsDisj (rest : List Char) : Prop :=
  rest = [] ∨ (∃ r, rest = ')' :: r) ∨ ∃ r, rest = ' ' :: 'O' :: 'R' :: ' ' :: r

/-- What can follow a clause: what follows a disjunction, or ` AND `. -/
def Follows (rest : List Char) : Prop :=
  FollowsDisj rest ∨ ∃ r, rest = ' ' :: 'A' :: 'N' :: 'D' :: ' ' :: r

theorem FollowsDisj.follows {rest : List Char} (h : FollowsDisj rest) : Follows rest := .inl h

theorem FollowsDisj.conjLoop {rest : List Char} (h : FollowsDisj rest) (t : QueryTree) :
    conjLoop t rest = some (t, rest) := by
  apply conjLoop_of_afterWord_none
  rcases h with rfl | ⟨r, rfl⟩ | ⟨r, rfl⟩
  · rfl
  · rw [skipBlanks_cons_of_not_isBlank (by decide)]; rfl
  · rw [skipBlanks_cons_of_isBlank (by decide), skipBlanks_cons_of_not_isBlank (by decide)]; rfl

/-- `x` is one clause reading as `t`. -/
def ReadsUnary (x : List Char) (t : QueryTree) : Prop :=
  ∀ rest, Follows rest → readUnary (x ++ rest) = some (t, rest)

/-- `x`, after any blanks, is a conjunction reading as `t`, further `AND`s left to the loop. -/
def ReadsConj (x : List Char) (t : QueryTree) : Prop :=
  ∀ b rest, (∀ c ∈ b, isBlank c = true) → Follows rest → readConj (b ++ x ++ rest) = conjLoop t rest

/-- `x`, after any blanks, is a disjunction reading as `t`, further `OR`s left to the loop. -/
def ReadsDisj (x : List Char) (t : QueryTree) : Prop :=
  ∀ b rest, (∀ c ∈ b, isBlank c = true) → FollowsDisj rest →
    readDisj (b ++ x ++ rest) = disjLoop t rest

/-- `x` reads as `t` at level `n`: a clause, a conjunction, a disjunction. -/
def Reads : Nat → List Char → QueryTree → Prop
  | 0 => ReadsUnary
  | 1 => ReadsConj
  | _ + 2 => ReadsDisj

variable {x y : List Char} {t a b : QueryTree}

theorem ReadsUnary.conj (h : ReadsUnary x t) : ReadsConj x t := by
  intro bl rest hb hr
  rw [readConj_eq, List.append_assoc, readUnary_blanks_append hb, h rest hr]
  exact if_pos (by simp only [List.length_append]; omega)

theorem ReadsConj.disj (h : ReadsConj x t) : ReadsDisj x t := by
  intro bl rest hb hr
  rw [readDisj_eq, h bl rest hb hr.follows, hr.conjLoop]
  exact if_pos (by simp only [List.length_append]; omega)

theorem ReadsUnary.not (h : ReadsUnary x t) :
    ReadsUnary ('N' :: 'O' :: 'T' :: ' ' :: x) (.not t) := by
  intro rest hr
  have hw : afterWord ['N', 'O', 'T'] ('N' :: 'O' :: 'T' :: ' ' :: (x ++ rest)) =
      some (' ' :: (x ++ rest)) :=
    afterWord_append ['N', 'O', 'T'] rfl
  have hu : readUnary (' ' :: (x ++ rest)) = some (t, rest) := by
    rw [← List.singleton_append, readUnary_blanks_append (by decide), h rest hr]
  simp only [List.cons_append]
  rw [readUnary_eq, skipBlanks_cons_of_not_isBlank (by decide), readClause_of_afterWord hw, hu]
  rfl

/-- No word stands at the start of a field name followed by its colon. -/
theorem afterWord_field {w cs x : List Char} (hw : ∀ c ∈ w, c ≠ ':') (hne : cs ≠ [])
    (hf : ∀ c ∈ cs, isFieldChar c = true) : afterWord w (cs ++ ':' :: x) = none := by
  induction w generalizing cs with
  | nil =>
    obtain ⟨c, cs, rfl⟩ := List.exists_cons_of_ne_nil hne
    have hc := hf c List.mem_cons_self
    simp only [isFieldChar, isStop, Bool.not_eq_true', Bool.or_eq_false_iff] at hc
    simp [afterWord, endsWord, hc]
  | cons a w ih =>
    obtain ⟨c, cs, rfl⟩ := List.exists_cons_of_ne_nil hne
    by_cases hac : a = c
    · subst hac
      simp only [List.cons_append, afterWord, if_pos]
      cases cs with
      | nil =>
        cases w with
        | nil => simp [afterWord, endsWord]; decide
        | cons b w => exact afterWord_cons_ne (hw b (by simp))
      | cons d ds =>
        exact ih (fun c hc => hw c (List.mem_cons_of_mem a hc)) (List.cons_ne_nil _ _)
          (fun c hc => hf c (List.mem_cons_of_mem a hc))
    · exact afterWord_cons_ne hac

/-- An atom `field:test` is a clause. -/
theorem ReadsUnary.atom {f : List Char} {test : Test} (hne : f ≠ [])
    (hf : ∀ c ∈ f, isFieldChar c = true)
    (hx : ∀ rest, Follows rest → readFieldTest (x ++ rest) = some (test, rest)) :
    ReadsUnary (f ++ ':' :: x) (.atom (String.ofList f) test) := by
  intro rest hr
  obtain ⟨c, cs, hcs⟩ := List.exists_cons_of_ne_nil hne
  have hc := hf c (by simp [hcs])
  simp only [isFieldChar, isStop, Bool.not_eq_true', Bool.or_eq_false_iff,
    decide_eq_false_iff_not] at hc
  have hskip : skipBlanks ((f ++ ':' :: x) ++ rest) = f ++ ':' :: (x ++ rest) := by
    rw [hcs, List.append_assoc, List.cons_append, skipBlanks_cons_of_not_isBlank hc.1.1.1.1]
    simp
  have hdrop : (f ++ ':' :: (x ++ rest)).dropWhile isFieldChar = ':' :: (x ++ rest) := by
    rw [List.dropWhile_append_of_pos hf]
    simp [isFieldChar]
  have htake : (f ++ ':' :: (x ++ rest)).takeWhile isFieldChar = f := by
    rw [List.takeWhile_append_of_pos hf]
    simp [isFieldChar]
  rw [readUnary_eq, hskip, readClause_of_afterWord_none _ (afterWord_field (by decide) hne hf)]
  · rw [readAtom, hdrop]
    simp only [htake, hx rest hr]
    simp [hne]
  · intro r h
    rw [hcs, List.cons_append, List.cons.injEq] at h
    exact hc.1.1.1.2 h.1

theorem ReadsConj.and (hx : ReadsConj x a) (hy : ReadsUnary y b) :
    ReadsConj (x ++ ' ' :: 'A' :: 'N' :: 'D' :: ' ' :: y) (.join .and a b) := by
  intro bl rest hb hr
  have hl := hx bl (' ' :: 'A' :: 'N' :: 'D' :: ' ' :: (y ++ rest)) hb (.inr ⟨_, rfl⟩)
  have hw : afterWord ['A', 'N', 'D'] (skipBlanks (' ' :: 'A' :: 'N' :: 'D' :: ' ' :: (y ++ rest))) =
      some (' ' :: (y ++ rest)) := by
    rw [skipBlanks_cons_of_isBlank (by decide), skipBlanks_cons_of_not_isBlank (by decide)]
    exact afterWord_append ['A', 'N', 'D'] rfl
  have hu : readUnary (' ' :: (y ++ rest)) = some (b, rest) := by
    rw [← List.singleton_append, readUnary_blanks_append (by decide), hy rest hr]
  simp only [List.append_assoc, List.cons_append] at hl ⊢
  rw [hl, conjLoop_of_afterWord hw, hu]
  exact if_pos (by simp only [List.length_cons, List.length_append]; omega)

theorem ReadsDisj.or (hx : ReadsDisj x a) (hy : ReadsConj y b) :
    ReadsDisj (x ++ ' ' :: 'O' :: 'R' :: ' ' :: y) (.join .or a b) := by
  intro bl rest hb hr
  have hl := hx bl (' ' :: 'O' :: 'R' :: ' ' :: (y ++ rest)) hb (.inr (.inr ⟨_, rfl⟩))
  have hw : afterWord ['O', 'R'] (skipBlanks (' ' :: 'O' :: 'R' :: ' ' :: (y ++ rest))) =
      some (' ' :: (y ++ rest)) := by
    rw [skipBlanks_cons_of_isBlank (by decide), skipBlanks_cons_of_not_isBlank (by decide)]
    exact afterWord_append ['O', 'R'] rfl
  have hc : readConj (' ' :: (y ++ rest)) = some (b, rest) := by
    have := hy [' '] rest (by decide) hr.follows
    rw [List.singleton_append, hr.conjLoop] at this
    exact this
  simp only [List.append_assoc, List.cons_append] at hl ⊢
  rw [hl, disjLoop_of_afterWord hw, hc]
  exact if_pos (by simp only [List.length_cons, List.length_append]; omega)

theorem Reads.mono {n m : Nat} (h : Reads n x t) (hnm : n ≤ m) : Reads m x t := by
  match n, m, hnm with
  | 0, 0, _ => exact h
  | 0, 1, _ => exact ReadsUnary.conj h
  | 0, _ + 2, _ => exact (ReadsUnary.conj h).disj
  | 1, 1, _ => exact h
  | 1, _ + 2, _ => exact ReadsConj.disj h
  | _ + 2, _ + 2, _ => exact h

end QueryString

/-- How a LIKE wildcard is written in a query string. -/
def wildcard (c : Char) : Char := if c = '%' then '*' else if c = '_' then '?' else c

/-- The term a LIKE pattern stands for. -/
def likeTerm (p : String) : List Char := p.toList.map wildcard

end SqlSearch.Query
