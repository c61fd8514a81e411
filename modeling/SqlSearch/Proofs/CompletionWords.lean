import SqlSearch.Schema.Keywords
import SqlSearch.Proofs.ByteOrder
/-! The completion words of a mapping. Field names are gathered by a walk of the property
trees whose depth is bounded by the depth of each tree, one more than deep enough, so it finds
every field name at any depth (`mem_propertyNames_iff`): the names are exactly those of
`NameAt`, the keys of the tree and the names under every key that has a mapping. The words
are then sorted and each kept once, so the list is strictly increasing in byte order, and as a
set it is the union the documentation gives (`keywords_vocabulary`). -/
namespace SqlSearch.Schema

open SqlSearch.Text

/-! ### Field names at every depth -/

/-- `n` names a field of a property tree: a key of the tree, or a name in the tree under a key
whose mapping is given (a field given as `null` has nothing under it). -/
inductive NameAt : List (String × Option Property) → String → Prop
  | key {ps : List (String × Option Property)} {n : String} {p : Option Property} :
      (n, p) ∈ ps → NameAt ps n
  | under {ps sub : List (String × Option Property)} {n k t : String} :
      (k, some (.mk t sub)) ∈ ps → NameAt sub n → NameAt ps n

/-- A tree under a key is shallower than the tree holding the key. -/
theorem propertyDepth_lt_of_mem {k t : String} {sub : List (String × Option Property)} :
    ∀ {ps : List (String × Option Property)}, (k, some (.mk t sub)) ∈ ps →
      propertyDepth sub < propertyDepth ps
  | [], h => absurd h List.not_mem_nil
  | (_, none) :: ps, h => by
    rw [propertyDepth]
    exact propertyDepth_lt_of_mem (List.mem_cons.1 h |>.resolve_left (by simp))
  | (k', some (.mk t' sub')) :: ps, h => by
    rw [propertyDepth]
    rcases List.mem_cons.1 h with h | h
    · simp only [Prod.mk.injEq, Option.some.injEq, Property.mk.injEq] at h
      obtain ⟨-, -, rfl⟩ := h
      omega
    · have := propertyDepth_lt_of_mem h
      omega

theorem mem_propertyNames_succ {fuel : Nat} {ps : List (String × Option Property)} {n : String} :
    n ∈ propertyNames (fuel + 1) ps ↔
      (∃ p, (n, p) ∈ ps) ∨
        ∃ k t sub, (k, some (.mk t sub)) ∈ ps ∧ n ∈ propertyNames fuel sub := by
  simp only [propertyNames, List.mem_flatMap, List.mem_cons]
  constructor
  · rintro ⟨⟨k, p⟩, hp, rfl | hn⟩
    · exact .inl ⟨p, hp⟩
    · rcases p with _ | ⟨t, sub⟩
      · simp at hn
      · exact .inr ⟨k, t, sub, hp, hn⟩
  · rintro (⟨p, hp⟩ | ⟨k, t, sub, hp, hn⟩)
    · exact ⟨_, hp, .inl rfl⟩
    · exact ⟨_, hp, .inr hn⟩

/-- Every name the walk gathers names a field. -/
theorem nameAt_of_mem_propertyNames :
    ∀ (fuel : Nat) {ps : List (String × Option Property)} {n : String},
      n ∈ propertyNames fuel ps → NameAt ps n
  | 0, _, _, h => absurd h List.not_mem_nil
  | fuel + 1, _, _, h => by
    obtain ⟨p, hp⟩ | ⟨k, t, sub, hp, hn⟩ := mem_propertyNames_succ.1 h
    · exact .key hp
    · exact .under hp (nameAt_of_mem_propertyNames fuel hn)

/-- A walk deeper than the tree gathers every name of a field. -/
theorem mem_propertyNames_of_nameAt {ps : List (String × Option Property)} {n : String}
    (h : NameAt ps n) : ∀ fuel, propertyDepth ps < fuel → n ∈ propertyNames fuel ps := by
  induction h with
  | key hp =>
    intro fuel hf
    obtain ⟨fuel, rfl⟩ := Nat.exists_eq_add_of_lt hf
    exact mem_propertyNames_succ.2 (.inl ⟨_, hp⟩)
  | under hp _ ih =>
    intro fuel hf
    have hsub := propertyDepth_lt_of_mem hp
    obtain ⟨fuel, rfl⟩ := Nat.exists_eq_add_of_lt hf
    exact mem_propertyNames_succ.2 (.inr ⟨_, _, _, hp, ih _ (by omega)⟩)

theorem mem_propertyNames_iff (ps : List (String × Option Property)) (n : String) :
    n ∈ propertyNames (propertyDepth ps + 1) ps ↔ NameAt ps n :=
  ⟨nameAt_of_mem_propertyNames _, fun h => mem_propertyNames_of_nameAt h _ (by omega)⟩

/-! ### The vocabulary -/

/-- The words a mapping adds to those of the language: `_score` and `_all`, the index names,
the document type names but the typeless key, `_source` when some type keeps its source (given
and not disabled), and every field name at any depth. -/
def MappingWord (m : Mapping) (w : String) : Prop :=
  w = "_score" ∨ w = "_all" ∨
    (∃ idx ∈ m, w = idx.1) ∨
    (∃ idx ∈ m, ∃ ty ∈ idx.2, ty.1 ≠ "" ∧ w = ty.1) ∨
    (w = "_source" ∧ ∃ idx ∈ m, ∃ ty ∈ idx.2,
      ty.2.source = some none ∨ ty.2.source = some (some true)) ∨
    (∃ idx ∈ m, ∃ ty ∈ idx.2, NameAt (ty.2.properties.getD []) w)

theorem keepsSource_iff (tm : TypeMapping) :
    tm.keepsSource = true ↔ tm.source = some none ∨ tm.source = some (some true) := by
  rcases tm with ⟨_ | _ | _ | _, _⟩ <;> simp [TypeMapping.keepsSource]

theorem mem_sortedWords (ws : List String) (w : String) : w ∈ sortedWords ws ↔ w ∈ ws := by
  simp [sortedWords]

theorem mem_keywords_some (m : Mapping) (w : String) :
    w ∈ keywords (some m) ↔ w ∈ languageWords ∨ MappingWord m w := by
  simp only [keywords, mem_sortedWords, List.mem_append, List.mem_cons, List.not_mem_nil,
    or_false, List.mem_flatMap, mem_propertyNames_iff, MappingWord, List.mem_ite_nil_left,
    List.mem_ite_nil_right, keepsSource_iff, or_assoc]
  -- `typeless` goes only now: the instance deciding the type test still names it
  simp only [typeless]
  -- the right side gathers each kind of word over all indices at once
  constructor
  · rintro (h | h | h | ⟨idx, hidx, h | ⟨ty, hty, ⟨hne, rfl⟩ | ⟨hk, rfl⟩ | hn⟩⟩)
    · exact .inl h
    · exact .inr (.inl h)
    · exact .inr (.inr (.inl h))
    · exact .inr (.inr (.inr (.inl ⟨idx, hidx, h⟩)))
    · exact .inr (.inr (.inr (.inr (.inl ⟨idx, hidx, ty, hty, hne, rfl⟩))))
    · exact .inr (.inr (.inr (.inr (.inr (.inl ⟨rfl, idx, hidx, ty, hty, hk⟩)))))
    · exact .inr (.inr (.inr (.inr (.inr (.inr ⟨idx, hidx, ty, hty, hn⟩)))))
  · rintro (h | h | h | ⟨idx, hidx, h⟩ | ⟨idx, hidx, ty, hty, hne, rfl⟩ |
        ⟨rfl, idx, hidx, ty, hty, hk⟩ | ⟨idx, hidx, ty, hty, hn⟩)
    · exact .inl h
    · exact .inr (.inl h)
    · exact .inr (.inr (.inl h))
    · exact .inr (.inr (.inr ⟨idx, hidx, .inl h⟩))
    · exact .inr (.inr (.inr ⟨idx, hidx, .inr ⟨ty, hty, .inl ⟨hne, rfl⟩⟩⟩))
    · exact .inr (.inr (.inr ⟨idx, hidx, .inr ⟨ty, hty, .inr (.inl ⟨hk, rfl⟩)⟩⟩))
    · exact .inr (.inr (.inr ⟨idx, hidx, .inr ⟨ty, hty, .inr (.inr hn)⟩⟩))

/-- The completion words. Without a mapping they are the words of the language, sorted. With
one they are strictly increasing in byte order, so each is there once, and they are exactly the
words of the language and those the mapping adds (`MappingWord`). -/
theorem keywords_vocabulary :
    (keywords none = baseKeywords ∧ baseKeywords.Perm languageWords ∧
      baseKeywords.Pairwise fun a b => utf8Bytes a < utf8Bytes b) ∧
    ∀ m : Mapping, (keywords (some m)).Pairwise (fun a b => utf8Bytes a < utf8Bytes b) ∧
      ∀ w, w ∈ keywords (some m) ↔ w ∈ languageWords ∨ MappingWord m w := by
  have hperm : baseKeywords.Perm languageWords := by
    refine (List.perm_ext_iff_of_nodup (nodup_eraseDups _) (by decide)).2 fun w => ?_
    exact mem_sortedWords languageWords w
  exact ⟨⟨rfl, hperm, pairwise_eraseDups_mergeSort _⟩,
    fun m => ⟨pairwise_eraseDups_mergeSort _, mem_keywords_some m⟩⟩

end SqlSearch.Schema
