import SqlSearch.Proofs.ConditionParsing
/-! Statements read back from their words. `Statement.Words q ws` says that `ws` is one way of
writing the statement `q`: FACETS and SCRIPT in either order, ASC written or left out, each
condition in any of its ways, and a closing semicolon or none. `Statement.Writable q` says what
`q` must be for a text to write it: names a statement can use, fields that are a star, a count or
names, directions `asc` or `desc`, limits that are machine integers and not negative, writable
conditions, and texts in normal form. The first field name must also not match FACETS or SCRIPT:
the reader of the clauses before the fields matches keywords the way `sameWordAscii` does, where
the long s counts as s, so a field named `ſcript` is taken for the SCRIPT keyword although it is
no reserved word.

Each reader of a comma-separated list reads the words of its list (`readNames_words`,
`readSortKeys_words`, `readLimits_words`); the readers of the clauses stop at the keyword of the
next clause (`Leads`). Main statement: `parse_written`. -/
namespace SqlSearch.Query

open SqlSearch.Text SqlSearch.Text.Normal

/-- Names separated by commas. -/
def nameWords (ns : List String) : List Word := commaSeparated (ns.map fun n => [.name n])

/-- The words of the field list: a star, COUNT(*), or names. -/
def fieldWords (fs : List String) : List Word :=
  if fs = [allFields] then [.star]
  else if fs = [countField] then [.keyword "count", .lparen, .star, .rparen]
  else nameWords fs

/-- The words of a FACETS clause, none when there are no facets. -/
def facetWords (fs : List String) : List Word :=
  if fs = [] then [] else .keyword "facets" :: nameWords fs

/-- The words of a SCRIPT clause. -/
def scriptWords : Option ScriptField → List Word
  | none => []
  | some s => [.keyword "script", .name s.name, .op "=", .str s.body]

/-- The words of one ORDER BY entry; ASC may be left out. -/
inductive SortWords : SortKey → List Word → Prop
  | given {k : SortKey} : SortWords k [.name k.field, .keyword k.direction]
  | ascending {f : String} : SortWords ⟨f, "asc"⟩ [.name f]

/-- The words of an ORDER BY clause. -/
inductive OrderWords : List SortKey → List Word → Prop
  | none : OrderWords [] []
  | some {ks : List SortKey} {wss : List (List Word)} : ks ≠ [] → List.Forall₂ SortWords ks wss →
      OrderWords ks (.keyword "order" :: .keyword "by" :: commaSeparated wss)

/-- The words of a LIMIT clause, none when there are no limits. -/
def limitWords (ns : List Int) : List Word :=
  if ns = [] then [] else .keyword "limit" :: commaSeparated (ns.map fun n => [.number n.toNat])

/-- The words of a WHERE or FILTER clause. -/
inductive ClauseWords (kw : String) : Option Condition → List Word → Prop
  | none : ClauseWords kw none []
  | some {c : Condition} {ws : List Word} : c.Words ws → ClauseWords kw (some c) (.keyword kw :: ws)

/-- The ways a statement is written. -/
inductive Statement.Words (q : Statement) : List Word → Prop
  | mk {pre wh fi ord semi : List Word} :
      (pre = facetWords q.facets ++ scriptWords q.script ∨
        pre = scriptWords q.script ++ facetWords q.facets) →
      ClauseWords "where" q.query wh → ClauseWords "filter" q.filter fi → OrderWords q.order ord →
      (semi = [] ∨ semi = [.semicolon]) →
      Words q (.keyword "select" :: pre ++ fieldWords q.fields ++ .keyword "from" :: .name q.index ::
        wh ++ fi ++ ord ++ limitWords q.limit ++ semi)

/-- What a statement must be for a text to write it. -/
structure Statement.Writable (q : Statement) : Prop where
  index : Nameable q.index
  fields : q.fields = [allFields] ∨ q.fields = [countField] ∨
    (q.fields ≠ [] ∧ ∀ f ∈ q.fields, Nameable f)
  first : ∀ f ∈ q.fields.head?, sameWordAscii f "facets" = false ∧ sameWordAscii f "script" = false
  facets : ∀ f ∈ q.facets, Nameable f
  script : ∀ s ∈ q.script, Nameable s.name ∧ nfc s.body = s.body
  query : ∀ c ∈ q.query, c.Writable
  filter : ∀ c ∈ q.filter, c.Writable
  order : ∀ k ∈ q.order, Nameable k.field ∧ (k.direction = "asc" ∨ k.direction = "desc")
  limit : ∀ n ∈ q.limit, 0 ≤ n ∧ n < Nat.pow 2 63

/-! ### Lists -/

/-- The token read for a name that is no reserved word is a name token. -/
theorem Token.isName_of_reads {n : String} {t : Token} (h : (Word.name n).Reads t) (hn : Nameable n) :
    t.isName = true := by
  obtain ⟨hk, rfl⟩ := h
  simp [Token.isName, hk, hn.2]

section
variable {rest : List Token}

/-- The name reader reads names separated by commas up to the first token that is no comma. -/
theorem readNames_words {what : String} : ∀ {ns : List String} {ts : List Token}, ns ≠ [] →
    (∀ n ∈ ns, Nameable n) → ReadAs (nameWords ns) ts → (peek rest).kind ≠ .comma →
    readNames what (ts ++ rest) = .ok (ns, rest)
  | [n], ts, _, hn, h, hr => by
    obtain ⟨t, _, rfl, ht, h'⟩ := ReadAs.cons_inv h
    cases h'
    have hu := Token.isName_of_reads ht (hn _ List.mem_cons_self)
    cases rest with
    | nil => simp [readNames, hu, ht.2]
    | cons u us =>
      have hu' : u.kind ≠ .comma := hr
      simp [readNames, hu, hu', ht.2]
  | n :: n' :: ns, ts, _, hn, h, hr => by
    simp only [nameWords, List.map_cons, commaSeparated, List.singleton_append] at h
    obtain ⟨t, ts', rfl, ht, h'⟩ := ReadAs.cons_inv h
    obtain ⟨c, ts'', rfl, hc, h''⟩ := ReadAs.cons_inv h'
    have hc' : c.kind = .comma := hc
    have hu := Token.isName_of_reads ht (hn _ List.mem_cons_self)
    have ih : readNames what (ts'' ++ rest) = .ok (n' :: ns, rest) :=
      readNames_words (List.cons_ne_nil n' ns) (fun m hm => hn m (List.mem_cons_of_mem _ hm)) h'' hr
    simp [readNames, hu, ht.2, hc', ih]

theorem Token.isDirection_of_keyword {dir : String} {d : Token} (h : (Word.keyword dir).Reads d)
    (hdir : dir = "asc" ∨ dir = "desc") : d.isDirection = true := by
  rcases hdir with rfl | rfl <;> simp +decide [Token.isDirection, h.2.2]

/-! The sort-key reader, one branch at a time. -/

section SortKeys
variable {t d : Token}

theorem readSortKeys_given_comma (ht : t.isName = true) (hd : d.isDirection = true) {u : Token}
    (hu : u.kind = .comma) (us : List Token) :
    readSortKeys (t :: d :: u :: us) =
      (fun (ks, r) => (⟨t.text, lower d.text⟩ :: ks, r)) <$> readSortKeys us := by
  simp [readSortKeys, ht, hd, hu]

theorem readSortKeys_given_last (ht : t.isName = true) (hd : d.isDirection = true)
    (hr : (peek rest).kind ≠ .comma) :
    readSortKeys (t :: d :: rest) = .ok ([⟨t.text, lower d.text⟩], rest) := by
  cases rest with
  | nil => simp [readSortKeys, ht, hd]
  | cons u us =>
    have hu : u.kind ≠ .comma := hr
    simp [readSortKeys, ht, hd, hu]

theorem readSortKeys_ascending_comma (ht : t.isName = true) (hc : d.kind = .comma) :
    readSortKeys (t :: d :: rest) =
      (fun (ks, r) => (⟨t.text, "asc"⟩ :: ks, r)) <$> readSortKeys rest := by
  have hd : d.isDirection = false := by simp [Token.isDirection, Token.isKeyword, hc]
  cases rest <;> simp [readSortKeys, ht, hd, hc]

theorem readSortKeys_ascending_last (ht : t.isName = true) (hc : (peek rest).kind ≠ .comma)
    (hd : (peek rest).isDirection = false) :
    readSortKeys (t :: rest) = .ok ([⟨t.text, "asc"⟩], rest) := by
  rcases rest with _ | ⟨d, _ | ⟨u, us⟩⟩
  · simp [readSortKeys, ht]
  all_goals
    have hc' : d.kind ≠ .comma := hc
    have hd' : d.isDirection = false := hd
    simp [readSortKeys, ht, hc', hd']

end SortKeys

/-- The sort-key reader reads entries separated by commas, each with its direction or without,
up to a token that is neither a comma nor a direction. -/
theorem readSortKeys_words : ∀ {ks : List SortKey} {wss : List (List Word)} {ts : List Token},
    ks ≠ [] → (∀ k ∈ ks, Nameable k.field ∧ (k.direction = "asc" ∨ k.direction = "desc")) →
    List.Forall₂ SortWords ks wss → ReadAs (commaSeparated wss) ts → (peek rest).kind ≠ .comma →
    (peek rest).isDirection = false → readSortKeys (ts ++ rest) = .ok (ks, rest) := by
  intro ks wss ts hne hk hws h hc hd
  -- one entry at a time; the last entry is followed by `rest`, the others by a comma
  induction hws generalizing ts with
  | nil => exact absurd rfl hne
  | @cons k ws ks wss hw hws ih =>
    obtain ⟨hn, hdir⟩ := hk k List.mem_cons_self
    cases hws with
    | nil =>
      cases hw with
      | given =>
        obtain ⟨t, _, rfl, ht, h1⟩ := ReadAs.cons_inv h
        obtain ⟨d, _, rfl, hdk, h2⟩ := ReadAs.cons_inv h1
        cases h2
        rw [List.cons_append, List.cons_append, List.nil_append, readSortKeys_given_last
          (Token.isName_of_reads ht hn) (Token.isDirection_of_keyword hdk hdir) hc, ht.2, hdk.2.1]
      | ascending =>
        obtain ⟨t, _, rfl, ht, h1⟩ := ReadAs.cons_inv h
        cases h1
        rw [List.cons_append, List.nil_append,
          readSortKeys_ascending_last (Token.isName_of_reads ht hn) hc hd, ht.2]
    | @cons k' ws' ks wss hw' hws' =>
      rw [commaSeparated] at h
      obtain ⟨tw, tr, rfl, h1, h2⟩ := ReadAs.append_inv h
      obtain ⟨tc, ts', rfl, hcomma, h3⟩ := ReadAs.cons_inv h2
      have hnext : readSortKeys (ts' ++ rest) = .ok (k' :: ks, rest) :=
        ih (List.cons_ne_nil _ _) (fun k hk' => hk k (List.mem_cons_of_mem _ hk')) h3
      cases hw with
      | given =>
        obtain ⟨t, _, rfl, ht, h4⟩ := ReadAs.cons_inv h1
        obtain ⟨d, _, rfl, hdk, h5⟩ := ReadAs.cons_inv h4
        cases h5
        rw [List.append_assoc, List.cons_append, List.cons_append, List.nil_append, List.cons_append,
          readSortKeys_given_comma (Token.isName_of_reads ht hn) (Token.isDirection_of_keyword hdk hdir)
            hcomma, hnext, ht.2, hdk.2.1]
        rfl
      | ascending =>
        obtain ⟨t, _, rfl, ht, h4⟩ := ReadAs.cons_inv h1
        cases h4
        rw [List.append_assoc, List.cons_append, List.nil_append, List.cons_append,
          readSortKeys_ascending_comma (Token.isName_of_reads ht hn) hcomma, hnext, ht.2]
        rfl

/-- A LIMIT number as written is the number it stands for. -/
theorem limitValue?_digits {n : Nat} (h : n < Nat.pow 2 63) :
    limitValue? (String.ofList (Nat.toDigits 10 n)) = some (n : Int) := by
  have hdig : ∀ c ∈ Nat.toDigits 10 n, c.isDigit = true :=
    fun c hc => Nat.isDigit_of_mem_toDigits (by decide) (by decide) hc
  obtain ⟨c, cs, hcs⟩ := List.exists_cons_of_ne_nil (Nat.toDigits_ne_nil (n := n) (b := 10))
  have hc : c ≠ '-' ∧ c ≠ '+' := by
    have := hdig c (by rw [hcs]; exact List.mem_cons_self)
    constructor <;> rintro rfl <;> exact absurd this (by decide)
  have hval : (c :: cs).foldl (fun n d => 10 * n + (d.toNat - '0'.toNat)) 0 = n := by
    rw [← hcs]
    exact Nat.ofDigitChars_ten_toDigits
  have hall : (c :: cs).all Char.isDigit = true := by
    rw [← hcs]
    exact List.all_eq_true.2 hdig
  unfold limitValue?
  simp only [String.toList_ofList, hcs]
  split
  · rename_i ds he
    exact absurd (List.cons.inj he).1 hc.1
  · rename_i ds he
    exact absurd (List.cons.inj he).1 hc.2
  · simp only [hall, List.isEmpty_cons, Bool.not_true, Bool.or_false, Bool.false_eq_true, if_false,
      hval]
    have h' : (n : Int) < (Nat.pow 2 63 : Nat) := by exact_mod_cast h
    rw [if_neg]
    simp only [Bool.or_eq_true, decide_eq_true_eq, not_or]
    omega

theorem limitValue?_of_reads {n : Int} {t : Token} (h : (Word.number n.toNat).Reads t)
    (hn : 0 ≤ n ∧ n < Nat.pow 2 63) : limitValue? t.text = some n := by
  rw [h.2, limitValue?_digits (by omega), Int.toNat_of_nonneg hn.1]

/-- The limit reader reads numbers separated by commas up to the first token that is no comma. -/
theorem readLimits_words : ∀ {ns : List Int} {ts : List Token}, ns ≠ [] →
    (∀ n ∈ ns, 0 ≤ n ∧ n < Nat.pow 2 63) →
    ReadAs (commaSeparated (ns.map fun n => [.number n.toNat])) ts → (peek rest).kind ≠ .comma →
    readLimits (ts ++ rest) = .ok (ns, rest)
  | [n], ts, _, hn, h, hr => by
    obtain ⟨t, _, rfl, ht, h'⟩ := ReadAs.cons_inv h
    cases h'
    have hv := limitValue?_of_reads ht (hn n List.mem_cons_self)
    cases rest with
    | nil => simp [readLimits, ht.1, hv]
    | cons u us =>
      have hu : u.kind ≠ .comma := hr
      simp [readLimits, ht.1, hv, hu]
  | n :: n' :: ns, ts, _, hn, h, hr => by
    simp only [List.map_cons, commaSeparated, List.singleton_append] at h
    obtain ⟨t, ts', rfl, ht, h'⟩ := ReadAs.cons_inv h
    obtain ⟨c, ts'', rfl, hc, h''⟩ := ReadAs.cons_inv h'
    have hc' : c.kind = .comma := hc
    have hv := limitValue?_of_reads ht (hn n List.mem_cons_self)
    have ih : readLimits (ts'' ++ rest) = .ok (n' :: ns, rest) :=
      readLimits_words (List.cons_ne_nil n' ns) (fun m hm => hn m (List.mem_cons_of_mem _ hm)) h'' hr
    simp [readLimits, ht.1, hv, hc', ih]

/-! ### Fields and the clauses before them -/

theorem star_not_nameable : ¬ Nameable allFields := fun h => by
  have h1 := h.1.1
  unfold LexesAs at h1
  revert h1
  decide +kernel

theorem count_not_nameable : ¬ Nameable countField := fun h => by
  have h1 := h.1.1
  unfold LexesAs at h1
  revert h1
  decide +kernel

/-- The field reader reads a star, COUNT(*) or names when FROM follows. -/
theorem readFields_words {fs : List String} {ts : List Token} {u : Token} {us : List Token}
    (hf : fs = [allFields] ∨ fs = [countField] ∨ (fs ≠ [] ∧ ∀ f ∈ fs, Nameable f))
    (hr : ReadAs (fieldWords fs) ts) (hu : u.kind = .ident) :
    readFields (ts ++ u :: us) = .ok (fs, u :: us) := by
  rcases hf with rfl | rfl | ⟨hne, hn⟩
  · obtain ⟨t, _, rfl, ht, h1⟩ := ReadAs.cons_inv hr
    cases h1
    have ht' : t.kind = .star := ht
    simp [readFields, ht']
  · simp only [fieldWords, show [countField] ≠ [allFields] by decide, if_false, if_true] at hr
    obtain ⟨tc, _, rfl, hc, h1⟩ := ReadAs.cons_inv hr
    obtain ⟨tl, _, rfl, hl, h2⟩ := ReadAs.cons_inv h1
    obtain ⟨tst, _, rfl, hst, h3⟩ := ReadAs.cons_inv h2
    obtain ⟨tr, _, rfl, hrp, h4⟩ := ReadAs.cons_inv h3
    cases h4
    have hl' : tl.kind = .lparen := hl
    have hst' : tst.kind = .star := hst
    have hrp' : tr.kind = .rparen := hrp
    simp +decide [readFields, hc.1, hc.2.2, hl', expectKind_kind hst', expectKind_kind hrp']
  · have hs : fs ≠ [allFields] := fun h => star_not_nameable (hn _ (by simp [h]))
    have hc : fs ≠ [countField] := fun h => count_not_nameable (hn _ (by simp [h]))
    simp only [fieldWords, hs, hc, if_false] at hr
    have hnames : readNames "field name" (ts ++ u :: us) = .ok (fs, u :: us) :=
      readNames_words hne hn hr (by simp [peek, hu])
    -- after the first name comes a comma or FROM, so this is no COUNT(*)
    obtain ⟨t, u', r', hts, ht, hu'⟩ : ∃ t u' r', ts ++ u :: us = t :: u' :: r' ∧ t.kind = .ident ∧
        u'.kind ≠ .lparen := by
      obtain ⟨f, fs', rfl⟩ := List.exists_cons_of_ne_nil hne
      cases fs' with
      | nil =>
        obtain ⟨t, _, rfl, ht, h1⟩ := ReadAs.cons_inv hr
        cases h1
        exact ⟨t, u, us, rfl, ht.1, by rw [hu]; decide⟩
      | cons f' fs' =>
        simp only [nameWords, List.map_cons, commaSeparated, List.singleton_append] at hr
        obtain ⟨t, _, rfl, ht, h1⟩ := ReadAs.cons_inv hr
        obtain ⟨c, ts', rfl, hc, -⟩ := ReadAs.cons_inv h1
        exact ⟨t, c, ts' ++ u :: us, rfl, ht.1, by rw [show c.kind = .comma from hc]; decide⟩
    rw [hts] at hnames ⊢
    simp [readFields, ht, hu', hnames]

theorem readPreambleClause_facets {p : Preamble} {fs : List String} {ts : List Token}
    (hp : p.facets = none) (hfs : fs ≠ []) (hn : ∀ f ∈ fs, Nameable f)
    (hr : ReadAs (facetWords fs) ts) (hc : (peek rest).kind ≠ .comma) :
    readPreambleClause p (ts ++ rest) = .ok ({ p with facets := some fs }, rest) := by
  simp only [facetWords, hfs, if_false] at hr
  obtain ⟨t, ts', rfl, ht, h1⟩ := ReadAs.cons_inv hr
  have hnames : readNames "facet field" (ts' ++ rest) = .ok (fs, rest) :=
    readNames_words hfs hn h1 hc
  simp +decide [readPreambleClause, peek, ht.2.2, hp, advance_cons ht.kind_ne_eof, hnames]

theorem readPreambleClause_script {p : Preamble} {s : ScriptField} {ts : List Token}
    (hp : p.script = none) (hs : Nameable s.name) (hr : ReadAs (scriptWords (some s)) ts) :
    readPreambleClause p (ts ++ rest) = .ok ({ p with script := some s }, rest) := by
  obtain ⟨tk, _, rfl, hk, h1⟩ := ReadAs.cons_inv hr
  obtain ⟨tn, _, rfl, hn, h2⟩ := ReadAs.cons_inv h1
  obtain ⟨te, _, rfl, he, h3⟩ := ReadAs.cons_inv h2
  obtain ⟨tb, _, rfl, hb, h4⟩ := ReadAs.cons_inv h3
  cases h4
  simp +decide [readPreambleClause, peek, hk.2.2, hp, advance_cons hk.kind_ne_eof,
    readName_name hn hs.2, he.1, he.2, advance_cons (show te.kind ≠ .eof by rw [he.1]; decide),
    expectKind_kind hb.1, hb.2]

theorem readPreambleClause_none {p : Preamble} (hf : (peek rest).isKeyword "facets" = false)
    (hs : (peek rest).isKeyword "script" = false) : readPreambleClause p rest = .ok (p, rest) := by
  simp [readPreambleClause, hf, hs]
  rfl

end

/-! ### Where each clause stops -/

/-- Words that start with one of the keywords `kws`, with a semicolon, or not at all. -/
def Leads (kws : List String) (ws : List Word) : Prop :=
  ∀ w ∈ ws.head?, w = .semicolon ∨ ∃ k ∈ kws, w = .keyword k

theorem Leads.append {kws kws' : List String} {ws ws' : List Word} (h : Leads kws ws)
    (h' : Leads kws' ws') : Leads (kws ++ kws') (ws ++ ws') := by
  intro w hw
  cases ws with
  | nil =>
    rcases h' w hw with h' | ⟨k, hk, rfl⟩
    · exact .inl h'
    · exact .inr ⟨k, List.mem_append_right _ hk, rfl⟩
  | cons v vs =>
    rcases h w hw with h | ⟨k, hk, rfl⟩
    · exact .inl h
    · exact .inr ⟨k, List.mem_append_left _ hk, rfl⟩

theorem ClauseWords.leads {kw : String} {c : Option Condition} {ws : List Word}
    (h : ClauseWords kw c ws) : Leads [kw] ws := by
  cases h <;> simp [Leads]

theorem OrderWords.leads {ks : List SortKey} {ws : List Word} (h : OrderWords ks ws) :
    Leads ["order"] ws := by
  cases h <;> simp [Leads]

theorem limitWords_leads (ns : List Int) : Leads ["limit"] (limitWords ns) := by
  unfold limitWords
  split <;> simp [Leads]

theorem semicolon_leads {semi : List Word} (h : semi = [] ∨ semi = [.semicolon]) : Leads [] semi := by
  rcases h with rfl | rfl <;> simp [Leads]

section
variable {kws : List String} {ws : List Word} {ts rest : List Token}

/-- After words that start with keywords that do not match `kw`, the next token matches `kw`
only if the token after them does. -/
theorem Leads.isKeyword {kw : String} (hl : Leads kws ws) (hr : ReadAs ws ts)
    (hk : ∀ k ∈ kws, sameWordAscii k kw = false) (hrest : (peek rest).isKeyword kw = false) :
    (peek (ts ++ rest)).isKeyword kw = false := by
  cases hr with
  | nil => exact hrest
  | @cons w _ t _ ht _ =>
    simp only [List.cons_append, peek]
    rcases hl w rfl with rfl | ⟨k, hk', rfl⟩
    · exact Token.isKeyword_of_kind (by rw [show t.kind = .semicolon from ht]; decide) _
    · rw [ht.2.2, hk k hk']

theorem Leads.kind (hl : Leads kws ws) (hr : ReadAs ws ts) (hrest : (peek rest).kind ≠ .comma) :
    (peek (ts ++ rest)).kind ≠ .comma := by
  cases hr with
  | nil => exact hrest
  | @cons w _ t _ ht _ =>
    simp only [List.cons_append, peek]
    rcases hl w rfl with rfl | ⟨k, hk', rfl⟩
    · rw [show t.kind = .semicolon from ht]; decide
    · rw [ht.1]; decide

end

section
variable {rest : List Token}

/-- Three calls of the clause reader read the FACETS and SCRIPT clauses in the order written,
and the calls after them read nothing. -/
theorem readPreamble_words {fs : List String} {sc : Option ScriptField} {pre : List Word}
    {ts : List Token} (hfs : ∀ f ∈ fs, Nameable f) (hsc : ∀ s ∈ sc, Nameable s.name)
    (hpre : pre = facetWords fs ++ scriptWords sc ∨ pre = scriptWords sc ++ facetWords fs)
    (hr : ReadAs pre ts) (hf : (peek rest).isKeyword "facets" = false)
    (hs : (peek rest).isKeyword "script" = false) (hc : (peek rest).kind ≠ .comma) :
    ∃ p₁ r₁ p₂ r₂ p, readPreambleClause {} (ts ++ rest) = .ok (p₁, r₁) ∧
      readPreambleClause p₁ r₁ = .ok (p₂, r₂) ∧ readPreambleClause p₂ r₂ = .ok (p, rest) ∧
      p.facets.getD [] = fs ∧ p.script = sc := by
  have stop : ∀ p, readPreambleClause p rest = .ok (p, rest) := fun _ => readPreambleClause_none hf hs
  by_cases hfe : fs = []
  · subst hfe
    have hpre' : pre = scriptWords sc := by simpa [facetWords] using hpre
    subst hpre'
    cases sc with
    | none =>
      cases hr
      exact ⟨{}, rest, {}, rest, {}, stop _, stop _, stop _, rfl, rfl⟩
    | some s =>
      exact ⟨{ script := some s }, rest, { script := some s }, rest, { script := some s },
        readPreambleClause_script rfl (hsc s rfl) hr, stop _, stop _, rfl, rfl⟩
  · cases sc with
    | none =>
      have hpre' : pre = facetWords fs := by simpa [scriptWords] using hpre
      subst hpre'
      exact ⟨{ facets := some fs }, rest, { facets := some fs }, rest, { facets := some fs },
        readPreambleClause_facets rfl hfe hfs hr hc, stop _, stop _, by simp, rfl⟩
    | some s =>
      rcases hpre with rfl | rfl
      · obtain ⟨tf, tsc, rfl, hf', hsc'⟩ := ReadAs.append_inv hr
        have hl : Leads ["script"] (scriptWords (some s)) := by simp [Leads, scriptWords]
        have hc' : (peek (tsc ++ rest)).kind ≠ .comma := hl.kind hsc' hc
        refine ⟨{ facets := some fs }, tsc ++ rest, { facets := some fs, script := some s }, rest,
          { facets := some fs, script := some s }, ?_, readPreambleClause_script rfl (hsc s rfl) hsc',
          stop _, by simp, rfl⟩
        rw [List.append_assoc]
        exact readPreambleClause_facets rfl hfe hfs hf' hc'
      · obtain ⟨tsc, tf, rfl, hsc', hf'⟩ := ReadAs.append_inv hr
        refine ⟨{ script := some s }, tf ++ rest, { facets := some fs, script := some s }, rest,
          { facets := some fs, script := some s }, ?_, readPreambleClause_facets rfl hfe hfs hf' hc,
          stop _, by simp, rfl⟩
        rw [List.append_assoc]
        exact readPreambleClause_script rfl (hsc s rfl) hsc'

/-! Each optional clause of a statement is an `if` whose two branches go on at one join point
`k`; each lemma says where the reader goes on. -/

/-- An optional WHERE or FILTER clause is read up to the next clause. -/
theorem readClause_words {kw : String} {g : Condition × List Token → Option Condition × List Token}
    (hg : ∀ p, g p = (some p.1, p.2)) {c : Option Condition} {ws : List Word} {ts : List Token}
    {β : Type} (k : Option Condition × List Token → Except SyntaxError β) (h : ClauseWords kw c ws)
    (hc : ∀ c' ∈ c, c'.Writable) (hr : ReadAs ws ts) (hkw : sameWordAscii kw kw = true)
    (hand : (peek rest).isKeyword "and" = false) (hor : (peek rest).isKeyword "or" = false)
    (hnone : (peek rest).isKeyword kw = false) :
    (if (peek (ts ++ rest)).isKeyword kw = true then g <$> readCondition (advance (ts ++ rest)) >>= k
      else pure (none, ts ++ rest) >>= k) = k (c, rest) := by
  cases h with
  | none =>
    cases hr
    rw [List.nil_append, if_neg (by rw [hnone]; decide)]
    rfl
  | some hw =>
    obtain ⟨t, ts', rfl, ht, h1⟩ := ReadAs.cons_inv hr
    rw [List.cons_append, if_pos (by simp [peek, ht.2.2, hkw]), advance_cons ht.kind_ne_eof,
      readCondition_words hw (hc _ rfl) h1 hand hor, Except.map_ok, ok_bind, hg]

/-- An optional ORDER BY clause is read up to the LIMIT clause. -/
theorem readOrder_words {ks : List SortKey} {ws : List Word} {ts : List Token} {β : Type}
    (k : List SortKey × List Token → Except SyntaxError β) (h : OrderWords ks ws)
    (hk : ∀ k ∈ ks, Nameable k.field ∧ (k.direction = "asc" ∨ k.direction = "desc"))
    (hr : ReadAs ws ts) (hc : (peek rest).kind ≠ .comma) (hd : (peek rest).isDirection = false)
    (hnone : (peek rest).isKeyword "order" = false) :
    (if (peek (ts ++ rest)).isKeyword "order" = true then
        expectKeyword "by" (advance (ts ++ rest)) >>= fun r => readSortKeys r >>= k
      else pure ([], ts ++ rest) >>= k) = k (ks, rest) := by
  cases h with
  | none =>
    cases hr
    rw [List.nil_append, if_neg (by rw [hnone]; decide)]
    rfl
  | some hne hws =>
    obtain ⟨t, _, rfl, ht, h1⟩ := ReadAs.cons_inv hr
    obtain ⟨tb, ts', rfl, hb, h2⟩ := ReadAs.cons_inv h1
    rw [List.cons_append, List.cons_append, if_pos (by simp +decide [peek, ht.2.2]),
      advance_cons ht.kind_ne_eof, expectKeyword_keyword hb (by decide), ok_bind,
      readSortKeys_words hne hk hws h2 hc hd, ok_bind]

/-- An optional LIMIT clause is read up to the end. -/
theorem readLimit_words {ns : List Int} {ts : List Token} {β : Type}
    (k : List Int × List Token → Except SyntaxError β) (hn : ∀ n ∈ ns, 0 ≤ n ∧ n < Nat.pow 2 63)
    (hr : ReadAs (limitWords ns) ts) (hc : (peek rest).kind ≠ .comma)
    (hnone : (peek rest).isKeyword "limit" = false) :
    (if (peek (ts ++ rest)).isKeyword "limit" = true then readLimits (advance (ts ++ rest)) >>= k
      else pure ([], ts ++ rest) >>= k) = k (ns, rest) := by
  unfold limitWords at hr
  split at hr
  · rename_i hns
    subst hns
    cases hr
    rw [List.nil_append, if_neg (by rw [hnone]; decide)]
    rfl
  · rename_i hns
    obtain ⟨t, ts', rfl, ht, h1⟩ := ReadAs.cons_inv hr
    rw [List.cons_append, if_pos (by simp +decide [peek, ht.2.2]), advance_cons ht.kind_ne_eof,
      readLimits_words hns hn h1 hc, ok_bind]

end

/-! ### The words are valid -/

theorem nameWords_valid {ns : List String} (hn : ∀ n ∈ ns, Nameable n) :
    ∀ w ∈ nameWords ns, w.Valid := by
  intro w hw
  rcases mem_commaSeparated hw with rfl | ⟨ws, hws, hw⟩
  · trivial
  · obtain ⟨n, hn', rfl⟩ := List.mem_map.1 hws
    rw [List.mem_singleton.1 hw]
    exact (hn n hn').1

theorem fieldWords_valid {fs : List String}
    (hf : fs = [allFields] ∨ fs = [countField] ∨ (fs ≠ [] ∧ ∀ f ∈ fs, Nameable f)) :
    ∀ w ∈ fieldWords fs, w.Valid := by
  unfold fieldWords
  split
  · simp [Word.Valid]
  · split
    · simp only [List.mem_cons, List.not_mem_nil, or_false]
      rintro w (rfl | rfl | rfl | rfl)
      · exact keyword_valid (by decide)
      all_goals trivial
    · rename_i hs hc
      exact nameWords_valid ((hf.resolve_left hs).resolve_left hc).2

theorem facetWords_valid {fs : List String} (hf : ∀ f ∈ fs, Nameable f) :
    ∀ w ∈ facetWords fs, w.Valid := by
  unfold facetWords
  split
  · simp
  · rintro w (_ | ⟨_, hw⟩)
    · exact keyword_valid (by decide)
    · exact nameWords_valid hf w hw

theorem scriptWords_valid {s : Option ScriptField}
    (hs : ∀ x ∈ s, Nameable x.name ∧ nfc x.body = x.body) : ∀ w ∈ scriptWords s, w.Valid := by
  cases s with
  | none => simp [scriptWords]
  | some x =>
    obtain ⟨hn, hb⟩ := hs x rfl
    simp only [scriptWords, List.mem_cons, List.not_mem_nil, or_false]
    rintro w (rfl | rfl | rfl | rfl)
    · exact keyword_valid (by decide)
    · exact hn.1
    · show "=" ∈ operatorTexts
      decide
    · exact hb

theorem ClauseWords.valid {kw : String} {c : Option Condition} {ws : List Word}
    (h : ClauseWords kw c ws) (hkw : kw ∈ grammarKeywords) (hc : ∀ c' ∈ c, c'.Writable) :
    ∀ w ∈ ws, w.Valid := by
  cases h with
  | none => simp
  | some hw =>
    rintro w (_ | ⟨_, hw'⟩)
    · exact hkw
    · exact hw.valid (hc _ rfl) w hw'

theorem SortWords.valid {k : SortKey} {ws : List Word} (h : SortWords k ws)
    (hk : Nameable k.field ∧ (k.direction = "asc" ∨ k.direction = "desc")) : ∀ w ∈ ws, w.Valid := by
  cases h with
  | given =>
    simp only [List.mem_cons, List.not_mem_nil, or_false]
    rintro w (rfl | rfl)
    · exact hk.1.1
    · rcases hk.2 with h | h <;> rw [h] <;> exact keyword_valid (by decide)
  | ascending =>
    simp only [List.mem_cons, List.not_mem_nil, or_false]
    rintro w rfl
    exact hk.1.1

theorem forall₂_sortWords_valid : ∀ {ks : List SortKey} {wss : List (List Word)},
    List.Forall₂ SortWords ks wss →
    (∀ k ∈ ks, Nameable k.field ∧ (k.direction = "asc" ∨ k.direction = "desc")) →
    ∀ ws ∈ wss, ∀ w ∈ ws, w.Valid
  | _, _, .nil, _ => by simp
  | k :: _, _, .cons hw hws, hk => by
    rintro ws (_ | ⟨_, hws'⟩)
    · exact hw.valid (hk k List.mem_cons_self)
    · exact forall₂_sortWords_valid hws (fun k' hk' => hk k' (List.mem_cons_of_mem _ hk')) ws hws'

theorem OrderWords.valid {ks : List SortKey} {ws : List Word} (h : OrderWords ks ws)
    (hk : ∀ k ∈ ks, Nameable k.field ∧ (k.direction = "asc" ∨ k.direction = "desc")) :
    ∀ w ∈ ws, w.Valid := by
  cases h with
  | none => simp
  | @some _ wss _ hws =>
    rintro w (_ | ⟨_, _ | ⟨_, hw⟩⟩)
    · exact keyword_valid (by decide)
    · exact keyword_valid (by decide)
    · rcases mem_commaSeparated hw with rfl | ⟨ws, hws', hw⟩
      · trivial
      · exact forall₂_sortWords_valid hws hk ws hws' w hw

theorem limitWords_valid (ns : List Int) : ∀ w ∈ limitWords ns, w.Valid := by
  unfold limitWords
  split
  · simp
  · rintro w (_ | ⟨_, hw⟩)
    · exact keyword_valid (by decide)
    · rcases mem_commaSeparated hw with rfl | ⟨ws, hws, hw⟩
      · trivial
      · obtain ⟨n, -, rfl⟩ := List.mem_map.1 hws
        rw [List.mem_singleton.1 hw]
        trivial

/-- Every word of a writable statement is valid. -/
theorem Statement.Words.valid {q : Statement} {ws : List Word} (h : q.Words ws) (hq : q.Writable) :
    ∀ w ∈ ws, w.Valid := by
  obtain ⟨hpre, hwh, hfi, hord, hsemi⟩ := h
  have hpre' : ∀ w ∈ facetWords q.facets ++ scriptWords q.script, w.Valid := by
    intro w hw
    rcases List.mem_append.1 hw with hw | hw
    · exact facetWords_valid hq.facets w hw
    · exact scriptWords_valid hq.script w hw
  intro w hw
  simp only [List.mem_append, List.mem_cons] at hw
  rcases hw with ((((((rfl | hw) | hw) | rfl | rfl | hw) | hw) | hw) | hw) | hw
  · exact keyword_valid (by decide)
  · rcases hpre with rfl | rfl
    · exact hpre' w hw
    · exact hpre' w (List.mem_append.2 ((List.mem_append.1 hw).symm))
  · exact fieldWords_valid hq.fields w hw
  · exact keyword_valid (by decide)
  · exact hq.index.1
  · exact hwh.valid (by decide) hq.query w hw
  · exact hfi.valid (by decide) hq.filter w hw
  · exact hord.valid hq.order w hw
  · exact limitWords_valid q.limit w hw
  · rcases hsemi with rfl | rfl
    · cases hw
    · rw [List.mem_singleton.1 hw]
      trivial

/-! ### Statements -/

theorem ReadAs.append {ws₁ ws₂ : List Word} {ts₁ ts₂ : List Token} (h₁ : ReadAs ws₁ ts₁)
    (h₂ : ReadAs ws₂ ts₂) : ReadAs (ws₁ ++ ws₂) (ts₁ ++ ts₂) := by
  induction h₁ with
  | nil => exact h₂
  | cons ht _ ih => exact .cons ht ih

/-- The field list starts with a star, COUNT, or a name that matches neither FACETS nor
SCRIPT. -/
theorem fieldWords_peek {fs : List String} {ts : List Token} (rest : List Token)
    (hf : fs = [allFields] ∨ fs = [countField] ∨ (fs ≠ [] ∧ ∀ f ∈ fs, Nameable f))
    (hfirst : ∀ f ∈ fs.head?, sameWordAscii f "facets" = false ∧ sameWordAscii f "script" = false)
    (hr : ReadAs (fieldWords fs) ts) :
    (peek (ts ++ rest)).isKeyword "facets" = false ∧ (peek (ts ++ rest)).isKeyword "script" = false ∧
      (peek (ts ++ rest)).kind ≠ .comma := by
  rcases hf with rfl | rfl | ⟨hne, hn⟩
  · obtain ⟨t, _, rfl, ht, -⟩ := ReadAs.cons_inv hr
    have ht' : t.kind = .star := ht
    simp [peek, Token.isKeyword, ht']
  · simp only [fieldWords, show [countField] ≠ [allFields] by decide, if_false, if_true] at hr
    obtain ⟨t, _, rfl, ht, -⟩ := ReadAs.cons_inv hr
    simp +decide [peek, ht.1, ht.2.2]
  · have hs : fs ≠ [allFields] := fun h => star_not_nameable (hn _ (by simp [h]))
    have hc : fs ≠ [countField] := fun h => count_not_nameable (hn _ (by simp [h]))
    obtain ⟨f, fs', rfl⟩ := List.exists_cons_of_ne_nil hne
    simp only [fieldWords, hs, hc, if_false, nameWords, List.map_cons] at hr
    have hr' : ReadAs (.name f :: (commaSeparated (([Word.name f] :: fs'.map fun n => [.name n]))).tail) ts := by
      cases fs' <;> simpa [commaSeparated] using hr
    obtain ⟨t, _, rfl, ⟨htk, rfl⟩, -⟩ := ReadAs.cons_inv hr'
    obtain ⟨h1, h2⟩ := hfirst t.text rfl
    simp [peek, Token.isKeyword, htk, h1, h2]

/-- The statement reader reads the tokens of a writable statement's words back as the
statement. -/
theorem Statement.Words.readStatement {q : Statement} {ws : List Word} {toks : List Token}
    {e : Token} (h : q.Words ws) (hq : q.Writable) (hr : ReadAs ws toks) (he : e.kind = .eof) :
    readStatement (toks ++ [e]) = .ok q := by
  obtain ⟨hpre, hwh, hfi, hord, hsemi⟩ := h
  obtain ⟨t1, tsemi, rfl, h1, hsemi'⟩ := ReadAs.append_inv hr
  obtain ⟨t2, tlim, rfl, h2, hlim⟩ := ReadAs.append_inv h1
  obtain ⟨t3, tord, rfl, h3, hord'⟩ := ReadAs.append_inv h2
  obtain ⟨t4, tfi, rfl, h4, hfi'⟩ := ReadAs.append_inv h3
  obtain ⟨t5, t6, rfl, h5, h6⟩ := ReadAs.append_inv h4
  obtain ⟨t7, tfw, rfl, h7, hfw⟩ := ReadAs.append_inv h5
  obtain ⟨tsel, tpre, rfl, hsel, hpre'⟩ := ReadAs.cons_inv h7
  obtain ⟨tfrom, _, rfl, hfrom, h8⟩ := ReadAs.cons_inv h6
  obtain ⟨tidx, twh, rfl, hidx, hwh'⟩ := ReadAs.cons_inv h8
  simp only [List.append_assoc, List.cons_append]
  unfold Query.readStatement
  rw [expectKeyword_keyword hsel (by decide), ok_bind]
  obtain ⟨hff, hfs, hfc⟩ := fieldWords_peek (tfrom :: tidx :: (twh ++ (tfi ++ (tord ++
    (tlim ++ (tsemi ++ [e])))))) hq.fields hq.first hfw
  obtain ⟨p₁, r₁, p₂, r₂, p, e1, e2, e3, hpf, hps⟩ :=
    readPreamble_words hq.facets (fun s hs => (hq.script s hs).1) hpre hpre' hff hfs hfc
  rw [e1, ok_bind]
  dsimp only
  rw [e2, ok_bind]
  dsimp only
  rw [e3, ok_bind]
  dsimp only
  rw [readFields_words hq.fields hfw hfrom.1, ok_bind]
  dsimp only
  rw [expectKeyword_keyword hfrom (by decide), ok_bind, readName_name hidx hq.index.2, ok_bind]
  dsimp only
  -- every clause after the index stops at the keyword of a later clause or at the end
  have kwSemi : ∀ kw, (peek (tsemi ++ [e])).isKeyword kw = false := fun kw =>
    (semicolon_leads hsemi).isKeyword hsemi' (by simp) (Token.isKeyword_of_kind (by simp [peek, he]) kw)
  have kwLim : ∀ kw, sameWordAscii "limit" kw = false →
      (peek (tlim ++ (tsemi ++ [e]))).isKeyword kw = false := fun kw h =>
    (limitWords_leads q.limit).isKeyword hlim (by simpa using h) (kwSemi kw)
  have kwOrd : ∀ kw, sameWordAscii "order" kw = false → sameWordAscii "limit" kw = false →
      (peek (tord ++ (tlim ++ (tsemi ++ [e])))).isKeyword kw = false := fun kw h1 h2 =>
    hord.leads.isKeyword hord' (by simpa using h1) (kwLim kw h2)
  have kwFi : ∀ kw, sameWordAscii "filter" kw = false → sameWordAscii "order" kw = false →
      sameWordAscii "limit" kw = false →
      (peek (tfi ++ (tord ++ (tlim ++ (tsemi ++ [e]))))).isKeyword kw = false := fun kw h1 h2 h3 =>
    hfi.leads.isKeyword hfi' (by simpa using h1) (kwOrd kw h2 h3)
  have commaSemi : (peek (tsemi ++ [e])).kind ≠ .comma :=
    (semicolon_leads hsemi).kind hsemi' (by simp [peek, he])
  have commaLim : (peek (tlim ++ (tsemi ++ [e]))).kind ≠ .comma :=
    (limitWords_leads q.limit).kind hlim commaSemi
  rw [readClause_words (fun _ => rfl) _ hwh hq.query hwh' (by decide)
    (kwFi _ (by decide) (by decide) (by decide)) (kwFi _ (by decide) (by decide) (by decide))
    (kwFi _ (by decide) (by decide) (by decide))]
  dsimp only
  rw [readClause_words (fun _ => rfl) _ hfi hq.filter hfi' (by decide)
    (kwOrd _ (by decide) (by decide)) (kwOrd _ (by decide) (by decide)) (kwOrd _ (by decide) (by decide))]
  dsimp only
  rw [readOrder_words _ hord hq.order hord' commaLim
    (by simp [Token.isDirection, kwLim "asc" (by decide), kwLim "desc" (by decide)])
    (kwLim _ (by decide))]
  dsimp only
  rw [readLimit_words _ hq.limit hlim commaSemi (kwSemi _)]
  dsimp only
  -- a closing semicolon is skipped, and then the input ends
  have hend : (peek (if (peek (tsemi ++ [e])).kind = .semicolon then advance (tsemi ++ [e])
      else tsemi ++ [e])).kind = .eof := by
    rcases hsemi with rfl | rfl
    · cases hsemi'
      simp [peek, he]
    · obtain ⟨t, _, rfl, ht, h⟩ := ReadAs.cons_inv hsemi'
      cases h
      have ht' : t.kind = .semicolon := ht
      simp [peek, ht', advance, he]
  rw [if_neg (by rw [hend]; exact not_not.2 rfl), hpf, hps]
  rfl

end SqlSearch.Query
