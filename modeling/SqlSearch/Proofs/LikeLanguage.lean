import SqlSearch.Query.Condition
/-! The strings a LIKE condition matches, before and after it is written as a query-string term.
Both syntaxes are read into one pattern language (`PatternItem`): a character that matches
itself, any string, or any one character. Under SQL LIKE, `%` and `_` are the wildcards and every
other character stands for itself (`likeItems`); in a query-string term, `*` and `?` are the
wildcards and a backslash makes the next character stand for itself (`termItems`).

Writing a pattern turns `%` and `_` into `*` and `?` and escapes blanks and `:()"\`, but leaves
`*` and `?` as they are, so they become wildcards of the term (`termItems_likePattern`). The term
therefore matches what the pattern matches with `*` and `?` read as `%` and `_`, which is what the
pattern matches whenever it has neither. Main statement: `like_term_language`; a pattern with a
star matches fewer strings than its term (`like_star_widens`). -/

namespace SqlSearch.Query

open SqlSearch.Text

/-- One position of a wildcard pattern. -/
inductive PatternItem where
  /-- The character itself. -/
  | lit (c : Char)
  /-- Any string, the empty one included. -/
  | anyString
  /-- Any one character. -/
  | anyChar
  deriving Repr, DecidableEq

/-- The strings a pattern matches. -/
inductive PatternMatches : List PatternItem → List Char → Prop
  | nil : PatternMatches [] []
  | lit {c : Char} {items : List PatternItem} {s : List Char} :
      PatternMatches items s → PatternMatches (.lit c :: items) (c :: s)
  | anyChar {c : Char} {items : List PatternItem} {s : List Char} :
      PatternMatches items s → PatternMatches (.anyChar :: items) (c :: s)
  /-- Any string ends here. -/
  | stop {items : List PatternItem} {s : List Char} :
      PatternMatches items s → PatternMatches (.anyString :: items) s
  /-- Any string takes one more character. -/
  | more {c : Char} {items : List PatternItem} {s : List Char} :
      PatternMatches (.anyString :: items) s → PatternMatches (.anyString :: items) (c :: s)

/-- The item a character of a SQL LIKE pattern stands for. -/
def likeItem (c : Char) : PatternItem :=
  if c = '%' then .anyString else if c = '_' then .anyChar else .lit c

/-- A SQL LIKE pattern as a pattern: `%` any string, `_` any one character, every other
character, `*` and `?` included, itself. -/
def likeItems (p : List Char) : List PatternItem := p.map likeItem

/-- A query-string term as a pattern: a backslash makes the next character stand for itself,
`*` is any string, `?` any one character, and every other character is itself. -/
def termItems : List Char → List PatternItem
  | [] => []
  | '\\' :: c :: t => .lit c :: termItems t
  | '*' :: t => .anyString :: termItems t
  | '?' :: t => .anyChar :: termItems t
  | c :: t => .lit c :: termItems t

/-- A pattern character with the query-string wildcards read as the SQL ones. -/
def wildcardAlias (c : Char) : Char := if c = '*' then '%' else if c = '?' then '_' else c

/-- One written character of a pattern reads back, in the term, as the item the character
stands for once `*` and `?` count as wildcards. -/
theorem termItems_likeChar (c : Char) (t : List Char) :
    termItems (likeChar c ++ t) = likeItem (wildcardAlias c) :: termItems t := by
  have hblank : isBlank '*' = false ∧ isBlank '?' = false := by decide
  unfold likeChar
  by_cases hp : c = '%'
  · subst hp; simp [termItems, likeItem, wildcardAlias]
  by_cases hu : c = '_'
  · subst hu; simp [termItems, likeItem, wildcardAlias]
  by_cases hs : isBlank c = true ∨ c = ':' ∨ c = '(' ∨ c = ')' ∨ c = '"' ∨ c = '\\'
  · -- an escaped character is neither wildcard of either syntax
    have hst : c ≠ '*' ∧ c ≠ '?' := by
      rcases hs with hb | rfl | rfl | rfl | rfl | rfl
      · exact ⟨fun h => by simp [h, hblank.1] at hb, fun h => by simp [h, hblank.2] at hb⟩
      all_goals decide
    simp [hp, hu, hs, termItems, likeItem, wildcardAlias, hst.1, hst.2]
  · simp only [not_or] at hs
    by_cases hst : c = '*'
    · subst hst; simp [termItems, likeItem, wildcardAlias, hblank.1]
    by_cases hq : c = '?'
    · subst hq; simp [termItems, likeItem, wildcardAlias, hblank.2]
    simp [hp, hu, hs, hst, hq, termItems, likeItem, wildcardAlias]

/-- The term of a pattern reads as the pattern with `*` and `?` taken for `%` and `_`. -/
theorem termItems_likePattern (p : String) :
    termItems (likePattern p).toList = likeItems (p.toList.map wildcardAlias) := by
  rw [likePattern, String.toList_ofList]
  induction p.toList with
  | nil => rfl
  | cons c cs ih => rw [List.flatMap_cons, termItems_likeChar, ih]; rfl

theorem likeItems_map_wildcardAlias {p : List Char} (hp : ∀ c ∈ p, c ≠ '*' ∧ c ≠ '?') :
    likeItems (p.map wildcardAlias) = likeItems p := by
  rw [likeItems, likeItems, List.map_map]
  refine List.map_congr_left fun c hc => ?_
  obtain ⟨hs, hq⟩ := hp c hc
  simp [wildcardAlias, hs, hq]

/-- A LIKE condition is written as its field, a colon and a term. The term matches exactly the
strings the pattern matches under SQL LIKE once `*` and `?` in it are read as `%` and `_`; so
for a pattern with neither, the term matches exactly what the pattern matches. -/
theorem like_term_language (f p : String) :
    (Condition.like f p).render = f ++ ":" ++ likePattern p ∧
    (∀ s, PatternMatches (termItems (likePattern p).toList) s ↔
      PatternMatches (likeItems (p.toList.map wildcardAlias)) s) ∧
    ((∀ c ∈ p.toList, c ≠ '*' ∧ c ≠ '?') →
      ∀ s, PatternMatches (termItems (likePattern p).toList) s ↔ PatternMatches (likeItems p.toList) s) := by
  refine ⟨rfl, fun s => by rw [termItems_likePattern], fun hp s => ?_⟩
  rw [termItems_likePattern, likeItems_map_wildcardAlias hp]

/-- A star in a LIKE pattern stands for itself, but the term it is written as reads it as any
string: `x*` matches only `x*`, its term also `xy`. -/
theorem like_star_widens :
    ¬ ∀ s, PatternMatches (termItems (likePattern "x*").toList) s ↔
      PatternMatches (likeItems "x*".toList) s := by
  intro h
  have hterm : PatternMatches (termItems (likePattern "x*").toList) ['x', 'y'] :=
    .lit (.more (.stop .nil))
  obtain hlike := (h ['x', 'y']).1 hterm
  cases hlike with
  | lit hrest => cases hrest

end SqlSearch.Query
