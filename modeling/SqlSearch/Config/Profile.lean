import SqlSearch.Config.Basic
import SqlSearch.Yaml.Read
import SqlSearch.Text.Quoted
import SqlSearch.Text.Utf8
/-! Named connection profiles, kept in a YAML file:

    default: local
    profiles:
      local:
        endpoint: http://localhost:9200
      prod:
        endpoint: https://search.example.com
        region: us-east-1

A profile's empty fields leave the configuration's values in place. The file is read into its
record by the usual YAML decoding rules: a text field takes the text of any scalar, a flag takes
a boolean or one of the words `y`, `yes`, `on`, `n`, `no`, `off`, null leaves a text as it was
and clears a flag or a map, unknown keys are ignored, a key given twice or a value of the wrong
kind is an error, and all such errors of a file are reported together. -/
namespace SqlSearch.Config

open SqlSearch.Yaml

/-- A named connection. -/
structure Profile where
  endpoint : String := ""
  region : String := ""
  username : String := ""
  password : String := ""
  passwordSecretId : String := ""
  insecureSkipTls : Option Bool := none
  deriving Repr, Inhabited

/-- A profiles file: the default profile's name and the profiles by name, none when the file
has no map of them. -/
structure ProfileFile where
  defaultProfile : String := ""
  profiles : Option (List (String × Profile)) := none
  deriving Repr, Inhabited

/-- Decoding collects the messages of the values that do not fit. -/
abbrev Decoding := StateM (List String)

/-- Records that a node does not fit a type. Scalars are shown by their text, cut after seven
bytes when longer than ten. -/
def typeError (n : Node) (target : String) : Decoding Unit :=
  let shown := match n with
    | .scalar _ _ s =>
      let bs := Text.utf8Bytes s
      if bs.length > 10 then " \x60" ++ Text.stringOfBytes (bs.take 7) ++ "...\x60"
      else " \x60" ++ s ++ "\x60"
    | _ => ""
  modify (· ++ ["line " ++ toString n.line ++ ": cannot unmarshal " ++ n.tag ++ shown ++
    " into " ++ target])

/-- Records every key that repeats an earlier one; true when there is none. -/
def uniqueKeys (entries : List (Node × Node)) : Decoding Bool := do
  let keys := entries.map Prod.fst
  let found := (keys.zipIdx).flatMap fun (k, i) =>
    (keys.drop (i + 1)).filterMap fun k' =>
      if k.sameKey k' then
        some ("line " ++ toString k'.line ++ ": mapping key " ++ Text.quote k'.text ++
          " already defined at line " ++ toString k.line)
      else none
  modify (· ++ found)
  return found.isEmpty

/-- Decodes a text field. -/
def decodeText (n : Node) (cur : String) : Decoding String :=
  match n with
  | .scalar _ _ s => if n.isNull then pure cur else pure s
  | _ => do typeError n "string"; pure cur

/-- The words a flag takes besides the booleans. -/
def flagWord? (s : String) : Option Bool :=
  if ["y", "Y", "yes", "Yes", "YES", "on", "On", "ON"].contains s then some true
  else if ["n", "N", "no", "No", "NO", "off", "Off", "OFF"].contains s then some false
  else none

/-- Decodes an optional flag. -/
def decodeFlag (n : Node) (cur : Option Bool) : Decoding (Option Bool) :=
  if n.isNull then pure none
  else
    let value : Option Bool := match n with
      | .scalar _ .plain s =>
        if trueWords.contains s then some true
        else if falseWords.contains s then some false
        else if n.tag = "!!str" then flagWord? s
        else none
      | .scalar _ .quoted s => flagWord? s
      | _ => none
    match value with
    | some b => pure (some b)
    | none => do typeError n "bool"; pure (some (cur.getD false))

/-- Decodes the key of a map entry: the text of a scalar, none for null or a collection. -/
def decodeKey (n : Node) : Decoding (Option String) :=
  match n with
  | .scalar _ _ s => pure (if n.isNull then none else some s)
  | _ => do typeError n "string"; pure none

/-- Decodes a profile: none when the node does not fit. -/
def decodeProfile (n : Node) : Decoding (Option Profile) :=
  match n with
  | .mapping _ entries => do
    if !(← uniqueKeys entries) then return some {}
    let p ← entries.foldlM (fun (p : Profile) (k, v) => do
      match ← decodeKey k with
      | some "endpoint" => return { p with endpoint := ← decodeText v p.endpoint }
      | some "region" => return { p with region := ← decodeText v p.region }
      | some "username" => return { p with username := ← decodeText v p.username }
      | some "password" => return { p with password := ← decodeText v p.password }
      | some "password_secret_id" =>
        return { p with passwordSecretId := ← decodeText v p.passwordSecretId }
      | some "insecure_skip_tls" =>
        return { p with insecureSkipTls := ← decodeFlag v p.insecureSkipTls }
      | _ => return p) {}
    return some p
  | _ =>
    if n.isNull then pure none
    else do typeError n "config.Profile"; pure none

/-- Sets an entry of a map, replacing an earlier one of the same name. -/
def setEntry {α : Type} (m : List (String × α)) (k : String) (v : α) : List (String × α) :=
  if m.any (·.1 = k) then m.map fun (k', v') => if k' = k then (k', v) else (k', v')
  else m ++ [(k, v)]

theorem lookup_cons_eq_ite {α : Type} (a k' : String) (b : α) (m : List (String × α)) :
    ((a, b) :: m).lookup k' = if k' = a then some b else m.lookup k' := by
  by_cases h : k' = a
  · subst h
    simp
  · rw [List.lookup_cons, beq_false_of_ne h, if_neg h]

theorem lookup_map_setValue {α : Type} (m : List (String × α)) (k k' : String) (v : α) :
    (m.map fun (x : String × α) => if x.1 = k then (x.1, v) else (x.1, x.2)).lookup k' =
      if k' = k then (m.lookup k').map fun _ => v else m.lookup k' := by
  induction m with
  | nil => simp
  | cons e m ih =>
    obtain ⟨a, b⟩ := e
    rw [List.map_cons, lookup_cons_eq_ite a k' b m]
    by_cases hak : a = k
    · subst hak
      rw [if_pos rfl, lookup_cons_eq_ite]
      by_cases hk : k' = a <;> simp [hk, ih]
    · rw [if_neg hak, lookup_cons_eq_ite, ih]
      by_cases hk : k' = a
      · simp [hk, hak]
      · simp [hk]

/-- Setting an entry answers its key with the new value and every other key as before. -/
theorem lookup_setEntry {α : Type} (m : List (String × α)) (k k' : String) (v : α) :
    (setEntry m k v).lookup k' = if k' = k then some v else m.lookup k' := by
  have hmap : (m.map fun (x : String × α) => match x with
      | (k', v') => if k' = k then (k', v) else (k', v')) =
      (m.map fun (x : String × α) => if x.1 = k then (x.1, v) else (x.1, x.2)) := rfl
  unfold setEntry
  by_cases hany : m.any (·.1 = k) = true
  · rw [if_pos hany, hmap, lookup_map_setValue]
    by_cases hk : k' = k
    · subst hk
      obtain ⟨⟨a, b⟩, hmem, ha⟩ := List.any_eq_true.1 hany
      simp only [decide_eq_true_eq] at ha
      subst ha
      cases hl : m.lookup a with
      | some _ => simp
      | none => simpa using (List.lookup_eq_none_iff.1 hl) (a, b) hmem
    · rw [if_neg hk, if_neg hk]
  · rw [if_neg hany, List.lookup_append, lookup_cons_eq_ite]
    by_cases hk : k' = k
    · subst hk
      have hnone : m.lookup k' = none := by
        rw [List.lookup_eq_none_iff]
        intro p hp
        simp only [List.any_eq_true, decide_eq_true_eq, not_exists, not_and] at hany
        exact bne_iff_ne.2 (fun he => hany p hp (by rw [he]))
      simp [hnone]
    · rw [if_neg hk, if_neg hk]
      cases m.lookup k' <;> rfl

/-- Setting an entry keeps the keys distinct. -/
theorem keys_setEntry_nodup {α : Type} {m : List (String × α)} (h : (m.map Prod.fst).Nodup)
    (k : String) (v : α) : ((setEntry m k v).map Prod.fst).Nodup := by
  unfold setEntry
  by_cases hany : m.any (·.1 = k) = true
  · rw [if_pos hany, List.map_map]
    have hkeys : (Prod.fst ∘ fun (x : String × α) => match x with
        | (k', v') => if k' = k then (k', v) else (k', v')) = Prod.fst := by
      funext x
      obtain ⟨a, b⟩ := x
      by_cases ha : a = k <;> simp [ha]
    rwa [hkeys]
  · rw [if_neg hany, List.map_append, List.nodup_append]
    refine ⟨h, by simp, ?_⟩
    simp only [List.any_eq_true, decide_eq_true_eq, not_exists, not_and] at hany
    intro a ha b hb
    simp only [List.map_cons, List.map_nil, List.mem_singleton] at hb
    obtain ⟨p, hp, rfl⟩ := List.mem_map.1 ha
    subst hb
    exact hany p hp

/-- Decodes the profiles map. -/
def decodeProfiles (n : Node) (cur : Option (List (String × Profile))) :
    Decoding (Option (List (String × Profile))) :=
  match n with
  | .mapping _ entries => do
    if !(← uniqueKeys entries) then return some (cur.getD [])
    entries.foldlM (fun m (k, v) => do
      match ← decodeKey k with
      | none => return m
      | some name =>
        match ← decodeProfile v with
        | some p => return some (setEntry (m.getD []) name p)
        | none => return if v.isNull then some (setEntry (m.getD []) name {}) else m)
      (some (cur.getD []))
  | _ =>
    if n.isNull then pure none
    else do typeError n "map[string]config.Profile"; pure cur

/-- Decodes a profiles file document. -/
def decodeProfileFile (n : Node) : Decoding ProfileFile :=
  match n with
  | .mapping _ entries => do
    if !(← uniqueKeys entries) then return {}
    entries.foldlM (fun (f : ProfileFile) (k, v) => do
      match ← decodeKey k with
      | some "default" => return { f with defaultProfile := ← decodeText v f.defaultProfile }
      | some "profiles" => return { f with profiles := ← decodeProfiles v f.profiles }
      | _ => return f) {}
  | _ =>
    if n.isNull then pure {}
    else do typeError n "config.ProfileFile"; pure {}

/-- Reads the text of a profiles file into its record. -/
def parseProfileFile (text : String) : Except String ProfileFile := do
  match ← Yaml.parseDocument text with
  | none => return {}
  | some n =>
    let (file, errors) := (decodeProfileFile n).run []
    if errors.isEmpty then return file
    else throw ("yaml: unmarshal errors:\n  " ++ "\n  ".intercalate errors)

/-- The profile names in increasing order. -/
def ProfileFile.names (f : ProfileFile) : List String :=
  ((f.profiles.getD []).map Prod.fst).mergeSort (· ≤ ·)

/-- The profile of a name. -/
def ProfileFile.find? (f : ProfileFile) (name : String) : Option Profile :=
  ((f.profiles.getD []).find? (·.1 = name)).map Prod.snd

/-- Loads a profiles file from its text, none when there is no file: every profile's endpoint
must be valid and the default must name a profile. -/
def loadProfiles (text : Option String) : Except String ProfileFile := do
  match text with
  | none => return {}
  | some text =>
    let file ← (parseProfileFile text).mapError ("failed to parse profiles YAML: " ++ ·)
    for name in file.names do
      let p := (file.find? name).getD {}
      if p.endpoint ≠ "" then
        (validateEndpoint p.endpoint).mapError fun e => "profile " ++ Text.quote name ++ ": " ++ e
    if file.defaultProfile ≠ "" ∧ (file.find? file.defaultProfile).isNone then
      throw ("default profile " ++ Text.quote file.defaultProfile ++ " is not defined")
    return file

/-- Lays a profile over a configuration: its non-empty fields replace the configuration's, a
region clears the user name and a user name clears the region. -/
def Profile.overlay (p : Profile) (c : Config) : Config :=
  let c := if p.endpoint ≠ "" then { c with endpoint := trimTrailingSlashes p.endpoint } else c
  let c := if p.region ≠ "" then { c with region := p.region, username := "" } else c
  let c := if p.username ≠ "" then { c with username := p.username, region := "" } else c
  let c := if p.password ≠ "" then { c with password := p.password } else c
  let c := if p.passwordSecretId ≠ "" then { c with passwordSecretId := p.passwordSecretId } else c
  match p.insecureSkipTls with
  | some b => { c with insecureSkipTls := b }
  | none => c

/-- Applies the named profile from a profiles file's text. Without a name the configuration's
profile is used, then the file's default; with none of them the configuration is unchanged. -/
def applyProfile (c : Config) (file : Option String) (name : String) : Except String Config := do
  let f ← loadProfiles file
  let name := if name ≠ "" then name else if c.profile ≠ "" then c.profile else f.defaultProfile
  if name = "" then return c
  match f.find? name with
  | none => throw ("unknown profile " ++ Text.quote name ++ " (available: " ++
      ", ".intercalate f.names ++ ")")
  | some p => return { p.overlay c with profile := name }

end SqlSearch.Config
