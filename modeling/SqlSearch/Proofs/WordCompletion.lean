import SqlSearch.Shell.Complete
import SqlSearch.Proofs.ByteOrder
/-! Completing the word at the cursor. The cursor stops at the end of the line, and the word is
the longest run of word characters that ends there: it starts at the least place from which
every character up to the cursor is a word character (`WordStart`). The line is the text
before the word, then the word, then the text from the cursor on. The candidates are the
keywords whose lowercase form starts with the word's lowercase form, each once, in strictly
increasing byte order (`completeWord_spec`). -/
namespace SqlSearch.Shell

open SqlSearch.Text

/-! ### The word before the cursor -/

/-- Every character from place `t` up to the cursor `p` is a word character. -/
def WordFrom (cs : List Char) (t p : Nat) : Prop :=
  ∀ c ∈ (cs.take p).drop t, isWordChar c = true

/-- `s` is where the word before the cursor `p` starts: the least place `s ≤ p` from which
every character up to the cursor is a word character. -/
def WordStart (cs : List Char) (p s : Nat) : Prop :=
  s ≤ p ∧ WordFrom cs s p ∧ ∀ t < s, ¬ WordFrom cs t p

/-- Read backwards, the characters before the cursor are the word, then the rest; read
forwards, the rest comes first. -/
theorem rest_append_word (before : List Char) :
    (before.reverse.dropWhile isWordChar).reverse ++
      (before.reverse.takeWhile isWordChar).reverse = before := by
  rw [← List.reverse_append, List.takeWhile_append_dropWhile, List.reverse_reverse]

/-- Up to the length of the rest, the characters before the cursor are the rest. -/
theorem take_rest (before : List Char) :
    before.take (before.reverse.dropWhile isWordChar).length =
      (before.reverse.dropWhile isWordChar).reverse := by
  conv_lhs => arg 2; rw [← rest_append_word before]
  rw [← List.length_reverse, List.take_left]

/-- From the length of the rest on, the characters before the cursor are the word. -/
theorem drop_rest (before : List Char) :
    before.drop (before.reverse.dropWhile isWordChar).length =
      (before.reverse.takeWhile isWordChar).reverse := by
  conv_lhs => arg 2; rw [← rest_append_word before]
  rw [← List.length_reverse, List.drop_left]

theorem length_rest_add_word (before : List Char) :
    (before.reverse.dropWhile isWordChar).length +
      (before.reverse.takeWhile isWordChar).reverse.length = before.length := by
  have hlen := congrArg List.length (rest_append_word before)
  rwa [List.length_append, List.length_reverse] at hlen

/-- The text the completion keeps before the word is the rest left by the word. -/
theorem take_sub_word (before : List Char) :
    before.take (before.length - (before.reverse.takeWhile isWordChar).reverse.length) =
      (before.reverse.dropWhile isWordChar).reverse := by
  have hlen := length_rest_add_word before
  rw [show before.length - (before.reverse.takeWhile isWordChar).reverse.length =
    (before.reverse.dropWhile isWordChar).length by omega, take_rest]

/-- Dropping stops at a character that fails the test. -/
theorem stop_of_dropWhile_eq_cons {p : Char → Bool} {l rest : List Char} {d : Char}
    (h : l.dropWhile p = d :: rest) : p d = false := by
  have := List.head_dropWhile_not p (l := l) (by simp [h])
  simpa [h] using this

/-- The rest left by the word starts the word at the least place allowed. -/
theorem wordStart_rest (cs : List Char) (p : Nat) :
    WordStart cs p ((cs.take p).reverse.dropWhile isWordChar).length := by
  refine ⟨?_, ?_, ?_⟩
  · have hlen := length_rest_add_word (cs.take p)
    have hp : (cs.take p).length ≤ p := List.length_take_le p cs
    omega
  · intro c hc
    rw [drop_rest, List.mem_reverse] at hc
    exact List.all_eq_true.1 List.all_takeWhile c hc
  · intro t ht hall
    -- the character just before the word is in view from `t` and stops the word
    obtain ⟨d, rest, hd⟩ := List.exists_cons_of_ne_nil
      (List.ne_nil_of_length_pos (Nat.lt_of_le_of_lt (Nat.zero_le t) ht))
    rw [hd, List.length_cons] at ht
    have hstop : isWordChar d = false := stop_of_dropWhile_eq_cons hd
    have hmem : d ∈ (cs.take p).drop t := by
      rw [← rest_append_word (cs.take p), hd, List.reverse_cons, List.append_assoc,
        List.drop_append_of_le_length (by rw [List.length_reverse]; omega)]
      simp
    have := hall d hmem
    rw [hstop] at this
    exact Bool.false_ne_true this

/-! ### The candidates -/

/-- Gathering the keywords that pass a test, each once: the list stays without repeats and
holds what it held and every keyword that passes. -/
theorem gather_spec (ok : String → Bool) :
    ∀ (ks acc : List String), acc.Nodup →
      let found := ks.foldl (fun acc kw => if ok kw = true ∧ (!acc.contains kw) = true then
        acc ++ [kw] else acc) acc
      found.Nodup ∧ ∀ kw, kw ∈ found ↔ kw ∈ acc ∨ kw ∈ ks ∧ ok kw = true :=
  -- a keyword is new exactly when the gathered list does not contain it
  foldl_appendNew (fun kw => ok kw = true) _ fun acc kw => by simp

/-- The candidates in the order completion gives them: each keyword that passes once, in
strictly increasing byte order. -/
theorem sorted_gather_spec (ok : String → Bool) (ks : List String) :
    let found := (ks.foldl (fun acc kw => if ok kw = true ∧ (!acc.contains kw) = true then
        acc ++ [kw] else acc) []).mergeSort (· ≤ ·)
    found.Pairwise (fun a b => utf8Bytes a < utf8Bytes b) ∧
      ∀ kw, kw ∈ found ↔ kw ∈ ks ∧ ok kw = true := by
  obtain ⟨hnd, hmem⟩ := gather_spec ok ks [] List.nodup_nil
  refine ⟨?_, fun kw => by rw [List.mem_mergeSort, hmem]; simp⟩
  have hperm := List.mergeSort_perm (ks.foldl (fun acc kw => if ok kw = true ∧
    (!acc.contains kw) = true then acc ++ [kw] else acc) []) (· ≤ ·)
  exact @pairwise_utf8Bytes_lt String id _ (pairwise_mergeSort_key id _)
    (by simpa using hperm.nodup_iff.2 hnd)

/-! ### Completion -/

/-- Completion splits the line around the word at the cursor: the text before the word, which
starts at the least place allowed, and the text from the cursor on. The candidates are the
keywords whose lowercase form starts, byte for byte, with the word's lowercase form, each once
and in strictly increasing byte order. -/
theorem completeWord_spec (keywords : List String) (line : String) (pos : Nat) :
    ∃ s, WordStart line.toList (min pos line.length) s ∧
      (completeWord keywords line pos).1 = String.ofList (line.toList.take s) ∧
      (completeWord keywords line pos).2.2 = String.ofList (line.toList.drop (min pos line.length)) ∧
      (completeWord keywords line pos).1 ++
          String.ofList ((line.toList.take (min pos line.length)).drop s) ++
          (completeWord keywords line pos).2.2 = line ∧
      (completeWord keywords line pos).2.1.Pairwise (fun a b => utf8Bytes a < utf8Bytes b) ∧
      ∀ kw, kw ∈ (completeWord keywords line pos).2.1 ↔ kw ∈ keywords ∧
        utf8Bytes (lower (String.ofList ((line.toList.take (min pos line.length)).drop s))) <+:
          utf8Bytes (lower kw) := by
  rw [← String.length_toList]
  set cs := line.toList with hcs
  set p := min pos cs.length with hp
  set rest := (cs.take p).reverse.dropWhile isWordChar
  obtain ⟨hle, -, -⟩ := wordStart_rest cs p
  -- the text before the word, as the start of the line
  have hhead : cs.take rest.length = rest.reverse := by
    rw [← take_rest, List.take_take, Nat.min_eq_left hle]
  obtain ⟨hsorted, hfound⟩ := sorted_gather_spec
    (fun kw => (lower kw).startsWith (lower (String.ofList
      ((cs.take p).reverse.takeWhile isWordChar).reverse))) keywords
  refine ⟨rest.length, wordStart_rest cs p, ?_, rfl, ?_, hsorted, fun kw => ?_⟩
  · simp only [completeWord, ← hcs, take_sub_word, hhead]
    rfl
  · simp only [completeWord, ← hcs, take_sub_word]
    rw [← hp, ← String.ofList_append, ← String.ofList_append, drop_rest, rest_append_word,
      List.take_append_drop,
      hcs, String.ofList_toList]
  · rw [← starts_iff_utf8Bytes_starts, drop_rest, ← String.startsWith_string_iff]
    exact hfound kw

end SqlSearch.Shell
