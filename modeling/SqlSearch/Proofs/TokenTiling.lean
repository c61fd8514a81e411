import SqlSearch.Proofs.ErrorPositions
import SqlSearch.Proofs.ScriptSplitting
/-! The tokens of a text tile it. `Written t w` says how a token is written: a string between
its quotes with each quote inside doubled, any other token as its text. `Tiling n cs toks` lays
the tokens over the characters, each after a run of blanks and at its position, and the end of
input after the last blanks; the lexer's tokens tile the text they come from
(`lexFrom_tiling`), so their positions increase and one end of input closes them. Where the
lexer fails, it has walked over blanks and tokens to a character where no token starts
(`lexFrom_stops`). Which kind a token gets is read off the characters at its position: a star
alone when no identifier follows it or a reserved word does, a number when no identifier
character continues its digits. -/
namespace SqlSearch.Query

open SqlSearch.Text SqlSearch.Text.Normal

/-- A quoted string read after its opening quote is its text with each quote doubled, then the
closing quote. -/
theorem readQuoted_eq_some {q : Char} {cs t r : List Char} (h : readQuoted q cs = some (t, r)) :
    cs = doubleAll q t ++ q :: r := by
  fun_induction readQuoted q cs generalizing t r with
  | case1 => simp at h
  | case2 ds ih =>
    obtain ⟨⟨t', r'⟩, h', he⟩ := Option.map_eq_some_iff.1 h
    cases he
    rw [ih h', doubleAll_cons_self]
    rfl
  | case3 d ds _ =>
    cases h
    rfl
  | case4 =>
    cases h
    rfl
  | case5 c cs hc ih =>
    obtain ⟨⟨t', r'⟩, h', he⟩ := Option.map_eq_some_iff.1 h
    cases he
    rw [ih h', doubleAll_cons_of_ne hc]
    rfl

/-- How a token stands in a text: a string as its text between quotes, each quote inside
written twice; any other token but the end of input as its text, which is not empty. -/
inductive Written : Token → List Char → Prop
  | str {t : Token} {q : Char} : t.kind = .str → (q = '\'' ∨ q = '"') →
      Written t (quoted q t.text)
  | plain {t : Token} : t.kind ≠ .str → t.kind ≠ .eof → t.text.toList ≠ [] →
      Written t t.text.toList

theorem Written.ne_nil {t : Token} {w : List Char} (h : Written t w) : w ≠ [] := by
  cases h with
  | str => simp [quoted]
  | plain _ _ hne => exact hne

theorem Written.kind_ne_eof {t : Token} {w : List Char} (h : Written t w) : t.kind ≠ .eof := by
  cases h with
  | str hk => rw [hk]; decide
  | plain _ hk _ => exact hk

/-- A token read at `cs` is written at its start: the characters it reads, then what follows. -/
theorem Lexeme.written {cs t r : List Char} {k : TokenKind} (h : Lexeme cs k t r) (pos : Nat) :
    ∃ w, cs = w ++ r ∧ Written ⟨k, String.ofList t, pos⟩ w := by
  have hplain : k ≠ .str → k ≠ .eof → t ≠ [] → t ++ r = cs →
      ∃ w, cs = w ++ r ∧ Written ⟨k, String.ofList t, pos⟩ w := by
    intro hs he hne heq
    have hw : Written ⟨k, String.ofList t, pos⟩ (String.ofList t).toList :=
      .plain hs he (by simpa using hne)
    exact ⟨t, heq.symm, by simpa using hw⟩
  cases h with
  | str hq hread =>
    refine ⟨Query.quoted _ (String.ofList t), ?_, .str rfl hq⟩
    simp [Query.quoted, readQuoted_eq_some hread]
  | comma | lparen | rparen | semicolon | star _ =>
    exact hplain (by decide) (by decide) (by simp) rfl
  | op _ hop =>
    exact hplain (by decide) (by decide) (readOperator_ne_nil hop) (readOperator_plain hop).1
  -- numbers and identifiers read a prefix of the characters
  | number hs hnext =>
    exact hplain (by decide) (by decide) (by simp) ((Lexeme.number hs hnext).append_eq (.inr rfl))
  | numberWord hs hd hid =>
    exact hplain (by decide) (by decide) (by simp) ((Lexeme.numberWord hs hd hid).append_eq (.inl rfl))
  | word hs hid hstar =>
    exact hplain (by decide) (by decide) (by simp) ((Lexeme.word hs hid hstar).append_eq (.inl rfl))

/-- `Tiling n cs toks`: the characters `cs`, which end a text of `n` characters, are the tokens
`toks` in order, each written at its position after a run of blanks, then blanks and the end of
input at the end of the text. -/
inductive Tiling (n : Nat) : List Char → List Token → Prop
  | eof {gap : List Char} : (∀ c ∈ gap, isBlank c = true) → Tiling n gap [⟨.eof, "", n⟩]
  | token {gap w rest : List Char} {t : Token} {toks : List Token} :
      (∀ c ∈ gap, isBlank c = true) → Written t w → t.pos = n - (w ++ rest).length →
      Tiling n rest toks → Tiling n (gap ++ w ++ rest) (t :: toks)

namespace Tiling

variable {n : Nat} {cs : List Char} {toks : List Token}

theorem cons_blank {c : Char} (hc : isBlank c = true) (h : Tiling n cs toks) :
    Tiling n (c :: cs) toks := by
  cases h with
  | eof hgap => exact .eof (by simpa [hc] using hgap)
  | token hgap hw hpos hrest =>
    rw [← List.cons_append, ← List.cons_append]
    exact .token (by simpa [hc] using hgap) hw hpos hrest

/-- Every token stands at or after the start of the characters it tiles. -/
theorem pos_ge (h : Tiling n cs toks) : ∀ t ∈ toks, n - cs.length ≤ t.pos := by
  induction h with
  | eof => simp
  | @token gap w rest t toks _ _ hpos _ ih =>
    rintro u (_ | ⟨_, hu⟩)
    · simp only [hpos, List.length_append]
      omega
    · have := ih u hu
      simp only [List.length_append] at this ⊢
      omega

/-- In a text at least as long as the characters tiled, positions strictly increase. -/
theorem pairwise_pos (h : Tiling n cs toks) (hn : cs.length ≤ n) :
    toks.Pairwise (·.pos < ·.pos) := by
  induction h with
  | eof => simp
  | @token gap w rest t toks _ hw hpos hrest ih =>
    have hw0 : 0 < w.length := List.length_pos_iff.2 hw.ne_nil
    simp only [List.length_append] at hn
    refine List.pairwise_cons.2 ⟨fun u hu => ?_, ih (by omega)⟩
    have := hrest.pos_ge u hu
    simp only [hpos, List.length_append]
    omega

/-- Exactly one end of input, the last token, at the end of the text. -/
theorem ends (h : Tiling n cs toks) :
    ∃ body, toks = body ++ [⟨.eof, "", n⟩] ∧ ∀ t ∈ body, t.kind ≠ .eof := by
  induction h with
  | eof => exact ⟨[], rfl, by simp⟩
  | @token gap w rest t toks _ hw _ _ ih =>
    obtain ⟨body, rfl, hbody⟩ := ih
    refine ⟨t :: body, rfl, ?_⟩
    rintro u (_ | ⟨_, hu⟩)
    · exact hw.kind_ne_eof
    · exact hbody u hu

end Tiling

/-- The tokens the lexer reads tile the characters it reads them from. -/
theorem lexFrom_tiling {n : Nat} {cs : List Char} {toks : List Token}
    (h : lexFrom n cs = .ok toks) : Tiling n cs toks := by
  rcases lexFrom_eq_ok h with ⟨rfl, rfl⟩ | ⟨c, r, rfl, hc, hr⟩ | ⟨k, t, r, rest, hlex, hlen, hr, rfl⟩
  · exact .eof (by simp)
  · exact (lexFrom_tiling hr).cons_blank hc
  · obtain ⟨w, hcs, hw⟩ := hlex.written (n - cs.length)
    subst hcs
    have hgap : ∀ c ∈ ([] : List Char), isBlank c = true := by simp
    exact List.nil_append _ ▸ .token hgap hw rfl (lexFrom_tiling hr)
termination_by cs.length

theorem ne_star_of_startsNumber {c : Char} {cs : List Char} (h : startsNumber c cs = true) :
    c ≠ '*' := by
  rintro rfl
  exact absurd h (by simp [startsNumber]; decide)

/-- A star token is read exactly at a star that stands alone. -/
theorem Lexeme.kind_eq_star {cs t r : List Char} {k : TokenKind} (h : Lexeme cs k t r) :
    k = .star ↔ ∃ r', cs = '*' :: r' ∧ starStandsAlone r' = true := by
  constructor
  · rintro rfl
    cases h with
    | star hs => exact ⟨_, rfl, hs⟩
  · rintro ⟨r', rfl, hs⟩
    cases h with
    | star => rfl
    | str hq => exact absurd hq (by decide)
    | op hc => exact absurd hc (by decide)
    | number hn | numberWord hn => exact absurd rfl (ne_star_of_startsNumber hn)
    | word _ _ hstar => simp [hstar rfl] at hs

/-- A token that starts as a number is a number when no identifier character continues it,
and otherwise one identifier. -/
theorem Lexeme.kind_of_startsNumber {c : Char} {cs t r : List Char} {k : TokenKind}
    (h : Lexeme (c :: cs) k t r) (hs : startsNumber c cs = true) :
    (k = .number ↔ ∀ d ∈ (cs.dropWhile isNumberChar).head?, isIdentChar d = false) ∧
      (k = .number ∨ k = .ident) := by
  obtain ⟨-, hq, h1, h2, h3, h4, hop⟩ := not_special_of_isIdentChar (isIdentChar_of_startsNumber hs)
  cases h with
  | number _ hnext => exact ⟨iff_of_true rfl hnext, .inl rfl⟩
  | numberWord _ hdrop hd => exact ⟨iff_of_false (by decide) (by simp [hdrop, hd]), .inr rfl⟩
  | word hs' => simp [hs'] at hs
  | str hq' => exact absurd hq' hq
  | op hc => exact absurd hc hop
  | comma => exact absurd rfl h1
  | lparen => exact absurd rfl h2
  | rparen => exact absurd rfl h3
  | semicolon => exact absurd rfl h4
  | star => exact absurd rfl (ne_star_of_startsNumber hs)

/-- The characters from a token's position: none for the end of input, and otherwise the token
read there. -/
theorem TokenStart.drop_pos {cs : List Char} {t : Token} (h : TokenStart cs.length cs t) :
    (t.kind = .eof ∧ cs.drop t.pos = []) ∨ ∃ txt r, Lexeme (cs.drop t.pos) t.kind txt r := by
  rcases h with ⟨hk, hp⟩ | ⟨rest, txt, r, hsuf, hp, hlex, -⟩
  · exact .inl ⟨hk, by simp [hp]⟩
  · refine .inr ⟨txt, r, ?_⟩
    rw [hp, ← List.suffix_iff_eq_drop.1 hsuf]
    exact hlex

/-- The lexer, started at `cs`, comes to `cs'`, skipping blanks and reading tokens. -/
inductive Reaches : List Char → List Char → Prop
  | refl {cs : List Char} : Reaches cs cs
  | blank {c : Char} {cs cs' : List Char} : isBlank c = true → Reaches cs cs' → Reaches (c :: cs) cs'
  | token {cs r cs' t : List Char} {k : TokenKind} : Lexeme cs k t r → Reaches r cs' → Reaches cs cs'

/-- A text that does not lex: the lexer comes to a character where it is stuck, and the error
points at it. -/
theorem lexFrom_stops {n : Nat} {cs : List Char} {e : SyntaxError} (h : lexFrom n cs = .error e) :
    ∃ c rest, Reaches cs (c :: rest) ∧ Stuck c rest ∧
      e = ⟨n - (c :: rest).length, stopMessage c⟩ := by
  rcases lexFrom_cases n cs with ⟨-, he⟩ | ⟨c, r, rfl, hb, he⟩ | ⟨k, t, r, hlex, hlen, he⟩ |
      ⟨c, r, rfl, hstuck, he⟩ <;> rw [he] at h
  · cases h
  · obtain ⟨c', rest, hreach, hstuck, rfl⟩ := lexFrom_stops h
    exact ⟨c', rest, .blank hb hreach, hstuck, rfl⟩
  · obtain ⟨c', rest, hreach, hstuck, rfl⟩ := lexFrom_stops (error_of_map_cons h)
    exact ⟨c', rest, .token hlex hreach, hstuck, rfl⟩
  · cases h
    exact ⟨c, r, .refl, hstuck, rfl⟩
termination_by cs.length

/-- A token written at its position: the text from there starts with it. -/
theorem Tiling.written_at {n : Nat} {cs : List Char} {toks : List Token} (h : Tiling n cs toks)
    (hn : cs.length ≤ n) :
    ∀ t ∈ toks, t.kind ≠ .eof → ∃ w, Written t w ∧ w <+: cs.drop (t.pos - (n - cs.length)) := by
  induction h with
  | eof => simp
  | @token gap w rest t toks _ hw hpos hrest ih =>
    simp only [List.length_append] at hn
    rintro u (_ | ⟨_, hu⟩) hk
    · refine ⟨w, hw, ?_⟩
      have hgap : t.pos - (n - (gap ++ w ++ rest).length) = gap.length := by
        simp only [hpos, List.length_append]
        omega
      rw [hgap, List.append_assoc, List.drop_left]
      exact List.prefix_append _ _
    · obtain ⟨w', hw', hpre⟩ := ih (by omega) u hu hk
      have hge := hrest.pos_ge u hu
      have hskip : u.pos - (n - (gap ++ w ++ rest).length) =
          (gap ++ w).length + (u.pos - (n - rest.length)) := by
        simp only [List.length_append]
        omega
      rw [hskip, List.drop_length_add_append]
      exact ⟨w', hw', hpre⟩

/-- The tokens of a text tile it. Lexing either stops at a character that the lexer reaches over
blanks and tokens and where no token starts, an opening quote never closed or a character no
token starts with, pointing at it; or it gives tokens laid over the text in order, at increasing
positions, each written from its position on, with exactly one end of input, last and at the
end of the text. A star is a token of its own exactly where no identifier, or a reserved word,
follows it, and a token that starts as a number is a number exactly when no identifier
character continues its digits, and else an identifier. -/
theorem lex_tiles_text (s : String) :
    (∀ e, lex s = .error e → ∃ c rest, Reaches s.toList (c :: rest) ∧ Stuck c rest ∧
        e = ⟨s.length - (c :: rest).length, stopMessage c⟩) ∧
    ∀ toks, lex s = .ok toks →
      Tiling s.length s.toList toks ∧ toks.Pairwise (·.pos < ·.pos) ∧
      (∃ body, toks = body ++ [⟨.eof, "", s.length⟩] ∧ ∀ t ∈ body, t.kind ≠ .eof) ∧
      (∀ t ∈ toks, t.kind ≠ .eof → ∃ w, Written t w ∧ w <+: s.toList.drop t.pos) ∧
      (∀ t ∈ toks, t.kind = .star ↔ ∃ r, s.toList.drop t.pos = '*' :: r ∧
        (r.takeWhile isIdentChar = [] ∨ isReserved (String.ofList (r.takeWhile isIdentChar)) = true)) ∧
      ∀ t ∈ toks, ∀ c r, s.toList.drop t.pos = c :: r → startsNumber c r = true →
        (t.kind = .number ↔ ∀ d ∈ (r.dropWhile isNumberChar).head?, isIdentChar d = false) ∧
          (t.kind = .number ∨ t.kind = .ident) := by
  have hlen : s.toList.length = s.length := String.length_toList
  refine ⟨fun e h => hlen ▸ lexFrom_stops h, fun toks h => ?_⟩
  have htile := lexFrom_tiling h
  have hstart : ∀ t ∈ toks, TokenStart s.toList.length s.toList t := hlen ▸ (lexFrom_ended h).2
  refine ⟨htile, htile.pairwise_pos hlen.le, htile.ends, ?_, ?_, ?_⟩
  · intro t ht hk
    simpa [hlen] using htile.written_at hlen.le t ht hk
  · intro t ht
    rcases (hstart t ht).drop_pos with ⟨hk, hd⟩ | ⟨txt, r, hlex⟩
    · simp [hk, hd]
    · rw [hlex.kind_eq_star]
      simp [starStandsAlone]
  · intro t ht c r hd hs
    rcases (hstart t ht).drop_pos with ⟨-, hd'⟩ | ⟨txt, r', hlex⟩
    · simp [hd] at hd'
    · rw [hd] at hlex
      exact hlex.kind_of_startsNumber hs

end SqlSearch.Query
