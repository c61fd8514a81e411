import SqlSearch.Config.Profile
import SqlSearch.Config.Secret
import SqlSearch.Proofs.TrailingSlashes
/-! Profiles and secrets keep the ways to sign in apart. A configuration signs in with a user
name (basic auth) or a region (signed requests), never both. Laying a profile over it keeps
that, since a profile's region clears the user name and its user name clears the region; a
secret gives a user name only to a configuration with neither. A profile's endpoint has passed
the endpoint check when the profiles were loaded, and it passes it again without its trailing
slashes. A failing call returns only its error, so the configuration held before stays as it
was. -/
namespace SqlSearch.Config

/-- At most one way to sign in is set: no user name or no region. -/
def Config.OneAuth (c : Config) : Prop := c.username = "" ∨ c.region = ""

instance : DecidablePred Config.OneAuth := fun c =>
  inferInstanceAs (Decidable (c.username = "" ∨ c.region = ""))

/-! ### Loading profiles -/

/-- A loop that only checks, each step yielding: when it ends well, each step ran well. -/
theorem forIn_yield_ok {ε : Type} {f : String → Unit → Except ε (ForInStep Unit)}
    (hf : ∀ name s, f name () = .ok s → s = .yield ()) :
    ∀ (names : List String), forIn names () f = .ok () →
      ∀ name ∈ names, ∃ s, f name () = .ok s
  | [], _, name, hn => by cases hn
  | n :: ns, h, name, hn => by
    rw [List.forIn_cons] at h
    obtain ⟨s, hs, h⟩ := Query.ok_of_bind h
    rw [hf n s hs] at h
    rcases List.mem_cons.mp hn with rfl | hn
    · exact ⟨s, hs⟩
    · exact forIn_yield_ok hf ns h name hn

theorem ProfileFile.mem_names {f : ProfileFile} {name : String} {p : Profile}
    (h : f.find? name = some p) : name ∈ f.names := by
  obtain ⟨⟨n, q⟩, hfind, -⟩ := Option.map_eq_some_iff.mp h
  have hn : n = name := by simpa using List.find?_some hfind
  rw [ProfileFile.names, List.mem_mergeSort, ← hn]
  exact List.mem_map_of_mem (List.mem_of_find?_eq_some hfind)

/-- Every profile of a loaded file with an endpoint has an endpoint that passes the check. -/
theorem loadProfiles_endpoints {text : Option String} {f : ProfileFile}
    (h : loadProfiles text = .ok f) {name : String} {p : Profile} (hp : f.find? name = some p)
    (he : p.endpoint ≠ "") : validateEndpoint p.endpoint = .ok () := by
  cases text with
  | none =>
    simp only [loadProfiles, pure, Except.pure, Except.ok.injEq] at h
    subst h
    cases hp
  | some text =>
    unfold loadProfiles at h
    dsimp only at h
    obtain ⟨file, -, h⟩ := Query.ok_of_bind h
    obtain ⟨⟨⟩, hloop, h⟩ := Query.ok_of_bind h
    have hfile : file = f := by
      split at h
      · simp [throw, throwThe, MonadExceptOf.throw, bind, Except.bind] at h
      · cases h
        rfl
    subst hfile
    -- each name's step checked its profile's endpoint
    have hstep : ∀ name s,
        (if ((file.find? name).getD {}).endpoint ≠ "" then do
          Except.mapError (fun e => "profile " ++ Text.quote name ++ ": " ++ e)
            (validateEndpoint ((file.find? name).getD {}).endpoint)
          pure (ForInStep.yield ())
        else pure (ForInStep.yield ())) = .ok s → s = .yield () := by
      intro name s hs
      split at hs
      · obtain ⟨⟨⟩, -, hs⟩ := Query.ok_of_bind hs
        cases hs
        rfl
      · cases hs
        rfl
    obtain ⟨s, hs⟩ := forIn_yield_ok hstep file.names hloop name (ProfileFile.mem_names hp)
    rw [hp, Option.getD_some, if_pos he] at hs
    obtain ⟨⟨⟩, hv, -⟩ := Query.ok_of_bind hs
    cases hval : validateEndpoint p.endpoint with
    | error e =>
      rw [hval] at hv
      cases hv
    | ok u => rfl

/-! ### Laying a profile over a configuration -/

theorem Profile.overlay_endpoint (p : Profile) (c : Config) :
    (p.overlay c).endpoint =
      if p.endpoint ≠ "" then trimTrailingSlashes p.endpoint else c.endpoint := by
  unfold Profile.overlay
  cases p.insecureSkipTls <;> simp only [apply_ite Config.endpoint, ite_self]

theorem Profile.overlay_username (p : Profile) (c : Config) :
    (p.overlay c).username =
      if p.username ≠ "" then p.username else if p.region ≠ "" then "" else c.username := by
  unfold Profile.overlay
  cases p.insecureSkipTls <;> simp only [apply_ite Config.username, ite_self]

theorem Profile.overlay_region (p : Profile) (c : Config) :
    (p.overlay c).region =
      if p.username ≠ "" then "" else if p.region ≠ "" then p.region else c.region := by
  unfold Profile.overlay
  cases p.insecureSkipTls <;> simp only [apply_ite Config.region, ite_self]

/-- A profile's user name clears the region and its region clears the user name, so one way
to sign in stays one. -/
theorem Profile.overlay_oneAuth (p : Profile) {c : Config} (hc : c.OneAuth) :
    (p.overlay c).OneAuth := by
  unfold Config.OneAuth
  rw [p.overlay_username, p.overlay_region]
  by_cases hu : p.username ≠ ""
  · exact .inr (if_pos hu)
  by_cases hr : p.region ≠ ""
  · exact .inl (by rw [if_neg hu, if_pos hr])
  rw [if_neg hu, if_neg hr, if_neg hu, if_neg hr]
  exact hc

/-- Everything applying a profile can do: keep the configuration, or lay a profile of the
loaded file over it under that profile's name. -/
theorem applyProfile_ok {c c' : Config} {file : Option String} {name : String}
    (h : applyProfile c file name = .ok c') :
    c' = c ∨ ∃ f n p, loadProfiles file = .ok f ∧ f.find? n = some p ∧
      c' = { p.overlay c with profile := n } := by
  unfold applyProfile at h
  obtain ⟨f, hf, h⟩ := Query.ok_of_bind h
  dsimp only at h
  generalize (if name ≠ "" then name else if c.profile ≠ "" then c.profile else f.defaultProfile) = n at h
  split at h
  · cases h
    exact .inl rfl
  · split at h
    · cases h
    · rename_i p hp
      cases h
      exact .inr ⟨f, _, p, hf, hp, rfl⟩

/-! ### The password from the secret store -/

/-- Filling the password keeps the region, and sets the user name only when there was neither
a user name nor a region. -/
theorem applySecret_auth {c c' : Config} {id : String} {fetched : Except String (Option String)}
    (h : applySecret c id fetched = .ok c') :
    c'.region = c.region ∧ (c'.username = c.username ∨ c.username = "" ∧ c.region = "") := by
  unfold applySecret at h
  split at h
  · cases h
  · cases h
  · cases h
  · split at h
    · split at h
      · cases h
      · split at h
        · cases h
        · cases h
          by_cases hboth : c.username = "" ∧ c.region = ""
          · rw [if_pos hboth]
            exact ⟨rfl, .inr hboth⟩
          · rw [if_neg hboth]
            exact ⟨rfl, .inl rfl⟩
    · cases h
      exact ⟨rfl, .inl rfl⟩

theorem resolvePassword_auth {c c' : Config} {fetch : SecretSource}
    (h : resolvePassword c fetch = .ok c') :
    c'.region = c.region ∧ (c'.username = c.username ∨ c.username = "" ∧ c.region = "") := by
  unfold resolvePassword at h
  split at h
  · cases h
    exact ⟨rfl, .inl rfl⟩
  · exact applySecret_auth h

/-! ### Profile and secret together -/

/-- Applying a profile and filling the password from the secret store each keep one way to
sign in. A profile that is applied is one of the loaded file, under the name the configuration
now carries; when it has an endpoint, that endpoint passed the check as the file was loaded,
and the configuration's new endpoint, the same text without its trailing slashes, passes it
too. The secret store sets the user name only when neither a user name nor a region was set. -/
theorem profile_and_secret_keep_one_auth (c : Config) (file : Option String) (name : String)
    (fetch : SecretSource) (hc : c.OneAuth) :
    (∀ c', applyProfile c file name = .ok c' → c'.OneAuth ∧
      (c' = c ∨ ∃ f p, loadProfiles file = .ok f ∧ f.find? c'.profile = some p ∧
        c'.endpoint = (if p.endpoint ≠ "" then trimTrailingSlashes p.endpoint else c.endpoint) ∧
        (p.endpoint ≠ "" →
          validateEndpoint p.endpoint = .ok () ∧ validateEndpoint c'.endpoint = .ok ()))) ∧
    (∀ c', resolvePassword c fetch = .ok c' → c'.OneAuth ∧
      (c'.username ≠ c.username → c.username = "" ∧ c.region = "")) := by
  refine ⟨fun c' h => ?_, fun c' h => ?_⟩
  · rcases applyProfile_ok h with rfl | ⟨f, n, p, hf, hp, rfl⟩
    · exact ⟨hc, .inl rfl⟩
    have hend := p.overlay_endpoint c
    refine ⟨p.overlay_oneAuth hc, .inr ⟨f, p, hf, hp, hend, fun he => ?_⟩⟩
    have hv := loadProfiles_endpoints hf hp he
    refine ⟨hv, ?_⟩
    show validateEndpoint (p.overlay c).endpoint = .ok ()
    rw [hend, if_pos he]
    exact validateEndpoint_trimTrailingSlashes hv
  · obtain ⟨hreg, hsame | hboth⟩ := resolvePassword_auth h
    · refine ⟨?_, fun hne => absurd hsame hne⟩
      unfold Config.OneAuth
      rw [hsame, hreg]
      exact hc
    · exact ⟨.inr (hreg.trans hboth.2), fun _ => hboth⟩

/-- With no profiles file, no profile named and no password stored, the default configuration
keeps its one way to sign in. -/
theorem profile_and_secret_keep_one_auth_default :
    ({} : Config).OneAuth ∧
      (∀ c', applyProfile {} none "" = .ok c' → c'.OneAuth ∧
        (c' = {} ∨ ∃ f p, loadProfiles none = .ok f ∧ f.find? c'.profile = some p ∧
          c'.endpoint =
            (if p.endpoint ≠ "" then trimTrailingSlashes p.endpoint else ({} : Config).endpoint) ∧
          (p.endpoint ≠ "" →
            validateEndpoint p.endpoint = .ok () ∧ validateEndpoint c'.endpoint = .ok ()))) ∧
      (∀ c', resolvePassword {} (fun _ => .ok none) = .ok c' → c'.OneAuth ∧
        (c'.username ≠ ({} : Config).username →
          ({} : Config).username = "" ∧ ({} : Config).region = "")) :=
  ⟨.inl rfl, profile_and_secret_keep_one_auth {} none "" (fun _ => .ok none) (.inl rfl)⟩

end SqlSearch.Config
