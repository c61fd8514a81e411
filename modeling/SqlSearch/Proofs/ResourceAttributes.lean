import SqlSearch.Telemetry.Settings
import Mathlib.Data.List.TakeWhile
/-! Resource attributes. The attribute text is cut at its commas into items; blanks around an
item are dropped and empty items skipped. Each other item is cut at its first `=` into a key and
a value, blanks around each dropped; an item without `=` or with a blank key makes the text fail.
A later item replaces the value of an earlier one with the same key.

Main statement: `load_resource_attributes`. With telemetry off, loading the settings fails
exactly on a bad item; otherwise each key of the attributes gives the value of its last item,
and `service.name`, when no item names it, gives the service name (the configured one without
blanks around it, or `elseql`). -/
namespace SqlSearch.Url

theorem cut_parts_of_idxOf? {c : Char} : ∀ {cs : List Char} {i : Nat}, cs.idxOf? c = some i →
    cs.take i = cs.takeWhile (· != c) ∧ cs.drop (i + 1) = (cs.dropWhile (· != c)).drop 1
  | [], _, h => by simp at h
  | d :: ds, i, h => by
    rw [List.idxOf?_cons] at h
    by_cases hd : d = c
    · subst hd
      simp only [beq_self_eq_true, if_true, Option.some.injEq] at h
      subst h
      simp
    · simp only [beq_false_of_ne hd, Bool.false_eq_true, if_false, Option.map_eq_some_iff] at h
      obtain ⟨j, hj, rfl⟩ := h
      obtain ⟨h1, h2⟩ := cut_parts_of_idxOf? hj
      simp [hd, h1, h2]

/-- Cutting a text at the first `c` gives what comes before it and, when `c` occurs, what comes
after. -/
theorem cut_eq (s : String) (c : Char) :
    cut s c = (String.ofList (s.toList.takeWhile (· != c)),
      if c ∈ s.toList then some (String.ofList ((s.toList.dropWhile (· != c)).drop 1)) else none) := by
  unfold cut
  dsimp only
  cases h : s.toList.idxOf? c with
  | none =>
    have hc : c ∉ s.toList := List.idxOf?_eq_none_iff.1 h
    have hall : ∀ d ∈ s.toList, (d != c) = true := fun d hd => bne_iff_ne.2 (fun e => hc (e ▸ hd))
    simp [hc, List.takeWhile_eq_self_iff.2 hall]
  | some i =>
    have hc : c ∈ s.toList := by
      by_contra hn
      rw [List.idxOf?_eq_none_iff.2 hn] at h
      cases h
    obtain ⟨h1, h2⟩ := cut_parts_of_idxOf? h
    simp [hc, h1, h2]

end SqlSearch.Url

namespace SqlSearch.Telemetry

open SqlSearch.Text

/-- The key of a resource attribute item: the text before its first `=`, blanks around it
dropped. -/
def itemKey (item : String) : String := trimBlank (String.ofList (item.toList.takeWhile (· != '=')))

/-- The value of an item: the text after its first `=`, blanks around it dropped. -/
def itemValue (item : String) : String :=
  trimBlank (String.ofList ((item.toList.dropWhile (· != '=')).drop 1))

/-- An item reads when it has an `=` and a key that is not blank. -/
def ItemReads (item : String) : Prop := '=' ∈ item.toList ∧ itemKey item ≠ ""

/-- The items among pieces of text: each without blanks around it, the empty ones left out. -/
def nonBlankItems (pieces : List String) : List String :=
  (pieces.map trimBlank).filter (· ≠ "")

/-- The items of a resource attribute text, the pieces between its commas. -/
def attributeItems (input : String) : List String :=
  nonBlankItems ((input.toList.splitOn ',').map String.ofList)

theorem addResourceAttribute_blank (attrs : List (String × String)) {item : String}
    (h : trimBlank item = "") : addResourceAttribute attrs item = .ok attrs := by
  simp [addResourceAttribute, h]

theorem addResourceAttribute_reads (attrs : List (String × String)) {item : String}
    (h : trimBlank item ≠ "") (hr : ItemReads (trimBlank item)) :
    addResourceAttribute attrs item =
      .ok (Config.setEntry attrs (itemKey (trimBlank item)) (itemValue (trimBlank item))) := by
  obtain ⟨heq, hkey⟩ := hr
  have hcut := Url.cut_eq (trimBlank item) '='
  rw [if_pos heq] at hcut
  unfold itemKey at hkey
  simp only [addResourceAttribute, String.isEmpty_iff, h, if_false, hcut, itemKey, itemValue, hkey]

theorem addResourceAttribute_fails (attrs : List (String × String)) {item : String}
    (h : trimBlank item ≠ "") (hr : ¬ItemReads (trimBlank item)) :
    ∃ e, addResourceAttribute attrs item = .error e := by
  have hcut := Url.cut_eq (trimBlank item) '='
  unfold ItemReads at hr
  by_cases heq : '=' ∈ (trimBlank item).toList
  · have hkey : itemKey (trimBlank item) = "" := by
      by_contra hne
      exact hr ⟨heq, hne⟩
    rw [if_pos heq] at hcut
    unfold itemKey at hkey
    simp only [addResourceAttribute, String.isEmpty_iff, h, if_false, hcut, hkey, if_true]
    exact ⟨_, rfl⟩
  · rw [if_neg heq] at hcut
    simp only [addResourceAttribute, String.isEmpty_iff, h, if_false, hcut]
    exact ⟨_, rfl⟩

theorem nonBlankItems_blank {p : String} (ps : List String) (h : trimBlank p = "") :
    nonBlankItems (p :: ps) = nonBlankItems ps := by
  simp [nonBlankItems, h]

theorem nonBlankItems_cons {p : String} (ps : List String) (h : trimBlank p ≠ "") :
    nonBlankItems (p :: ps) = trimBlank p :: nonBlankItems ps := by
  simp [nonBlankItems, h]

/-- Items that all read fold into the map item by item. -/
theorem foldlM_addResourceAttribute_ok : ∀ (pieces : List String) (acc : List (String × String)),
    (∀ item ∈ nonBlankItems pieces, ItemReads item) →
    pieces.foldlM addResourceAttribute acc =
      .ok ((nonBlankItems pieces).foldl (fun m i => Config.setEntry m (itemKey i) (itemValue i)) acc)
  | [], _, _ => rfl
  | p :: ps, acc, h => by
    rw [List.foldlM_cons]
    by_cases hb : trimBlank p = ""
    · rw [nonBlankItems_blank ps hb] at h ⊢
      rw [addResourceAttribute_blank acc hb]
      exact foldlM_addResourceAttribute_ok ps acc h
    · rw [nonBlankItems_cons ps hb] at h ⊢
      rw [addResourceAttribute_reads acc hb (h _ List.mem_cons_self)]
      exact foldlM_addResourceAttribute_ok ps _ (fun i hi => h i (List.mem_cons_of_mem _ hi))

/-- An item that does not read makes the whole text fail. -/
theorem foldlM_addResourceAttribute_error : ∀ (pieces : List String) (acc : List (String × String)),
    (∃ item ∈ nonBlankItems pieces, ¬ItemReads item) →
    ∃ e, pieces.foldlM addResourceAttribute acc = .error e
  | [], _, h => by simp [nonBlankItems] at h
  | p :: ps, acc, h => by
    rw [List.foldlM_cons]
    by_cases hb : trimBlank p = ""
    · rw [nonBlankItems_blank ps hb] at h
      rw [addResourceAttribute_blank acc hb]
      exact foldlM_addResourceAttribute_error ps acc h
    rw [nonBlankItems_cons ps hb] at h
    by_cases hr : ItemReads (trimBlank p)
    · obtain ⟨item, hmem, hbad⟩ := h
      rcases List.mem_cons.1 hmem with rfl | htail
      · exact absurd hr hbad
      rw [addResourceAttribute_reads acc hb hr]
      exact foldlM_addResourceAttribute_error ps _ ⟨item, htail, hbad⟩
    · obtain ⟨e, he⟩ := addResourceAttribute_fails acc hb hr
      rw [he]
      exact ⟨e, rfl⟩

/-- After the fold a key gives the value of the last item with that key, else what it gave
before. -/
theorem lookup_foldl_setEntry : ∀ (items : List String) (acc : List (String × String)) (k : String),
    (items.foldl (fun m i => Config.setEntry m (itemKey i) (itemValue i)) acc).lookup k =
      ((items.reverse.find? (itemKey · = k)).map itemValue).or (acc.lookup k)
  | [], acc, k => by simp
  | i :: is, acc, k => by
    rw [List.foldl_cons, lookup_foldl_setEntry is, Config.lookup_setEntry, List.reverse_cons,
      List.find?_append]
    by_cases hk : k = itemKey i
    · subst hk
      cases is.reverse.find? (itemKey · = itemKey i) <;> simp
    · have : (itemKey i = k) = False := by simp [Ne.symm hk]
      cases is.reverse.find? (itemKey · = k) <;> simp [hk, this]

theorem keys_foldl_setEntry_nodup : ∀ (items : List String) {acc : List (String × String)},
    (acc.map Prod.fst).Nodup →
    ((items.foldl (fun m i => Config.setEntry m (itemKey i) (itemValue i)) acc).map Prod.fst).Nodup
  | [], _, h => h
  | _ :: is, _, h => keys_foldl_setEntry_nodup is (Config.keys_setEntry_nodup h _ _)

/-- A map given `v` under `k` unless an entry names `k` already: the old entries win, and `v`
is what `k` falls back to. -/
theorem lookup_withDefault (m : List (String × String)) (k v k' : String) :
    (if m.any (·.1 = k) then m else m ++ [(k, v)]).lookup k' =
      (m.lookup k').or (if k' = k then some v else none) := by
  by_cases hany : m.any (·.1 = k) = true
  · rw [if_pos hany]
    by_cases hk : k' = k
    · -- an entry names `k`, so the lookup finds it before the fallback
      subst hk
      obtain ⟨p, hp, hpk⟩ := List.any_eq_true.1 hany
      have hset : m.lookup k' ≠ none := by
        rw [ne_eq, List.lookup_eq_none_iff]
        intro hnone
        simpa [of_decide_eq_true hpk] using hnone p hp
      obtain ⟨w, hw⟩ := Option.ne_none_iff_exists'.1 hset
      rw [hw]
      rfl
    · simp [hk]
  · -- no entry names `k`: the default is set as one more entry
    have hset : m ++ [(k, v)] = Config.setEntry m k v := by
      rw [Config.setEntry, if_neg hany]
    rw [if_neg hany, hset, Config.lookup_setEntry]
    by_cases hk : k' = k
    · subst hk
      have hnone : m.lookup k' = none := by
        rw [List.lookup_eq_none_iff]
        intro p hp
        exact bne_iff_ne.2 (fun he => hany (List.any_eq_true.2 ⟨p, hp, decide_eq_true he.symm⟩))
      simp [hnone]
    · simp [hk]

theorem keys_withDefault_nodup {m : List (String × String)} (h : (m.map Prod.fst).Nodup)
    (k v : String) : ((if m.any (·.1 = k) then m else m ++ [(k, v)]).map Prod.fst).Nodup := by
  by_cases hany : m.any (·.1 = k) = true
  · rwa [if_pos hany]
  · have hset : m ++ [(k, v)] = Config.setEntry m k v := by
      rw [Config.setEntry, if_neg hany]
    rw [if_neg hany, hset]
    exact Config.keys_setEntry_nodup h k v

/-- The service name a configuration gives: its own without blanks around it, or `elseql` when
that is empty. -/
def serviceNameOf (name : String) : String := if trimBlank name = "" then "elseql" else trimBlank name

/-- With telemetry off, checking only fills the defaults: the service name, and its attribute
unless one is there. -/
theorem Settings.validate_disabled (s : Settings) (h : s.enabled = false) :
    ∃ s', s.validate = .ok s' ∧
      s'.serviceName = (if s.serviceName.isEmpty then "elseql" else s.serviceName) ∧
      s'.resourceAttributes = some
        (if (s.resourceAttributes.getD []).any (·.1 = serviceNameKey) then s.resourceAttributes.getD []
          else s.resourceAttributes.getD [] ++
            [(serviceNameKey, if s.serviceName.isEmpty then "elseql" else s.serviceName)]) := by
  simp only [Settings.validate, h, Bool.not_false, if_true]
  exact ⟨_, rfl, rfl, rfl⟩

theorem load_some (c : Config.Config) :
    Settings.load (some c) =
      ((parseResourceAttributes c.otelResourceAttributes).mapError
        ("observability: failed to parse resource attributes: " ++ ·)) >>= fun attrs =>
        Settings.validate {
          enabled := c.otelEnabled
          serviceName := trimBlank c.otelServiceName
          exporterEndpoint := trimBlank c.otelExporterOtlpEndpoint
          exporterProtocol := lower (trimBlank c.otelExporterOtlpProtocol)
          resourceAttributes := some attrs
          tracesSampler := lower (trimBlank c.otelTracesSampler)
          tracesSamplerArg := c.otelTracesSamplerArg } := rfl

/-- A text whose items all read gives the map the items set, one after another. -/
theorem parseResourceAttributes_ok {input : String}
    (h : ∀ item ∈ attributeItems input, ItemReads item) :
    parseResourceAttributes input = .ok ((attributeItems input).foldl
      (fun m i => Config.setEntry m (itemKey i) (itemValue i)) []) :=
  foldlM_addResourceAttribute_ok _ [] h

theorem parseResourceAttributes_error {input : String}
    (h : ∃ item ∈ attributeItems input, ¬ItemReads item) :
    ∃ e, parseResourceAttributes input = .error e :=
  foldlM_addResourceAttribute_error _ [] h

theorem not_itemReads_iff {item : String} : ¬ItemReads item ↔ '=' ∉ item.toList ∨ itemKey item = "" := by
  unfold ItemReads
  by_cases h : '=' ∈ item.toList <;> simp [h]

/-- With telemetry off, loading fails exactly when an item of the resource attributes has no `=`
or a blank key. Otherwise the attributes map each key to the value of the last item with that
key, and `service.name`, when no item names it, to the service name, which is the configured
one without blanks around it or `elseql`. -/
theorem load_resource_attributes (c : Config.Config) (hoff : c.otelEnabled = false) :
    ((∃ e, Settings.load (some c) = .error e) ↔
      ∃ item ∈ attributeItems c.otelResourceAttributes, '=' ∉ item.toList ∨ itemKey item = "") ∧
    ∀ s, Settings.load (some c) = .ok s →
      s.serviceName = serviceNameOf c.otelServiceName ∧
      ∃ attrs, s.resourceAttributes = some attrs ∧ (attrs.map Prod.fst).Nodup ∧
        ∀ k, attrs.lookup k =
          (((attributeItems c.otelResourceAttributes).reverse.find? (itemKey · = k)).map itemValue).or
            (if k = serviceNameKey then some (serviceNameOf c.otelServiceName) else none) := by
  simp only [← not_itemReads_iff]
  by_cases hall : ∀ item ∈ attributeItems c.otelResourceAttributes, ItemReads item
  · have hparse := parseResourceAttributes_ok hall
    generalize hattrs : (attributeItems c.otelResourceAttributes).foldl
      (fun m i => Config.setEntry m (itemKey i) (itemValue i)) [] = attrs at hparse
    have hlook : ∀ k, attrs.lookup k =
        ((attributeItems c.otelResourceAttributes).reverse.find? (itemKey · = k)).map itemValue := by
      intro k
      rw [← hattrs, lookup_foldl_setEntry]
      cases ((attributeItems c.otelResourceAttributes).reverse.find? (itemKey · = k)) <;> rfl
    have hnodup : (attrs.map Prod.fst).Nodup := hattrs ▸ keys_foldl_setEntry_nodup _ List.nodup_nil
    have hnameOf : (if (trimBlank c.otelServiceName).isEmpty then "elseql" else trimBlank c.otelServiceName) =
        serviceNameOf c.otelServiceName := by
      simp [serviceNameOf, String.isEmpty_iff]
    obtain ⟨s', hv, hname, hres⟩ := Settings.validate_disabled
      { enabled := c.otelEnabled, serviceName := trimBlank c.otelServiceName,
        exporterEndpoint := trimBlank c.otelExporterOtlpEndpoint,
        exporterProtocol := lower (trimBlank c.otelExporterOtlpProtocol),
        resourceAttributes := some attrs, tracesSampler := lower (trimBlank c.otelTracesSampler),
        tracesSamplerArg := c.otelTracesSamplerArg } hoff
    have hload : Settings.load (some c) = .ok s' := by
      rw [load_some, hparse]
      exact hv
    rw [hload]
    refine ⟨⟨fun ⟨_, he⟩ => (nomatch he), fun ⟨item, hi, hbad⟩ => absurd (hall item hi) hbad⟩, ?_⟩
    rintro s ⟨⟩
    refine ⟨hname.trans hnameOf, ?_⟩
    simp only [Option.getD_some, hnameOf] at hres
    -- the service name is what its key falls back to: an item naming the service wins
    refine ⟨_, hres, keys_withDefault_nodup hnodup _ _, fun k => ?_⟩
    rw [lookup_withDefault, hlook]
  · have hbad : ∃ item ∈ attributeItems c.otelResourceAttributes, ¬ItemReads item := by
      simpa using hall
    obtain ⟨e, he⟩ := parseResourceAttributes_error hbad
    rw [load_some, he]
    refine ⟨⟨fun _ => hbad, fun _ => ⟨_, rfl⟩⟩, fun s hs => ?_⟩
    cases hs

/-- Blanks around items and their parts are dropped, a later `a` replaces an earlier one, a
value may hold `=`, and a blank service name gives `elseql`. -/
theorem load_resource_attributes_repeated_key :
    ({ otelResourceAttributes := "a = 1 ,b=x=y,, a=2", otelServiceName := " " } :
      Config.Config).otelEnabled = false ∧
    ((∃ e, Settings.load
        (some { otelResourceAttributes := "a = 1 ,b=x=y,, a=2", otelServiceName := " " }) = .error e) ↔
      ∃ item ∈ attributeItems "a = 1 ,b=x=y,, a=2", '=' ∉ item.toList ∨ itemKey item = "") ∧
    ∀ s, Settings.load
        (some { otelResourceAttributes := "a = 1 ,b=x=y,, a=2", otelServiceName := " " }) = .ok s →
      s.serviceName = serviceNameOf " " ∧
      ∃ attrs, s.resourceAttributes = some attrs ∧ (attrs.map Prod.fst).Nodup ∧
        ∀ k, attrs.lookup k =
          (((attributeItems "a = 1 ,b=x=y,, a=2").reverse.find? (itemKey · = k)).map itemValue).or
            (if k = serviceNameKey then some (serviceNameOf " ") else none) :=
  ⟨rfl, load_resource_attributes _ rfl⟩

end SqlSearch.Telemetry
