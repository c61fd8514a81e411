import SqlSearch.Proofs.WrittenUrls
import SqlSearch.Telemetry.Endpoint
/-! Signal URLs. The URL of one signal under an HTTP collector endpoint is the endpoint read as a
URL with its decoded path edited (`signalPath`): one trailing `/` dropped, then `/` and the
suffix without its slashes, unless the path already ends with those. The other parts are kept as
read and the URL is written again (`signalUrl_eq`).

Since the path is edited decoded, the endpoint's raw path is kept only where the path is left as
it is; otherwise the path is written escaped, so an escaped `/` (`%2F`) in the endpoint comes out
as a plain `/`. The URL of a signal gives itself again when its suffix keeps a character past
its slashes; a suffix of slashes only takes a slash off a path ending in `//` each time, and a
zone holding a byte past ASCII is written escaped, which a zone does not read. -/
namespace SqlSearch.Telemetry

open SqlSearch.Url SqlSearch.Text SqlSearch.Config

/-! ### The signal's path -/

/-- The path of one signal under a collector's path: one trailing `/` dropped, then `/` and the
suffix without its slashes, unless the path already ends with those. -/
def signalPath (path : List UInt8) (suffix : String) : List UInt8 :=
  let sfx := 47 :: trimByte 47 (utf8Bytes suffix)
  let p := if path.getLast? = some 47 then path.dropLast else path
  if sfx <:+ p then p else p ++ sfx

example : signalPath (utf8Bytes "/otlp/") "/v1/traces/" = utf8Bytes "/otlp/v1/traces" := by
  decide +kernel

/-- A tail as long as a list and equal to it is the list as a suffix. -/
theorem drop_eq_and_le_iff_suffix {α : Type} {l₁ l₂ : List α} :
    (l₂.drop (l₂.length - l₁.length) = l₁ ∧ l₁.length ≤ l₂.length) ↔ l₁ <:+ l₂ :=
  ⟨fun h => List.suffix_iff_eq_drop.2 h.1.symm,
    fun h => ⟨(List.suffix_iff_eq_drop.1 h).symm, h.length_le⟩⟩

theorem getLast?_trimByte_ne (b : UInt8) (bs : List UInt8) : (trimByte b bs).getLast? ≠ some b := by
  unfold trimByte
  rw [List.getLast?_reverse]
  intro h
  have hnot := List.head?_dropWhile_not (· = b) (bs.dropWhile (· = b)).reverse
  rw [h] at hnot
  simp at hnot

theorem getLast?_of_suffix {l₁ l₂ : List UInt8} (h : l₁ <:+ l₂) (hne : l₁ ≠ []) :
    l₂.getLast? = l₁.getLast? := by
  obtain ⟨k, rfl⟩ := h
  rw [List.getLast?_append, List.getLast?_eq_some_getLast hne, Option.some_or]

/-- The signal's path ends with `/` and the suffix. -/
theorem suffix_signalPath (path : List UInt8) (suffix : String) :
    47 :: trimByte 47 (utf8Bytes suffix) <:+ signalPath path suffix := by
  unfold signalPath
  dsimp only
  generalize (if path.getLast? = some 47 then path.dropLast else path) = p
  split_ifs with h
  · exact h
  · exact List.suffix_append _ _

theorem dropLast_head {l : List UInt8} (h : l = [] ∨ l.head? = some 47) :
    l.dropLast = [] ∨ l.dropLast.head? = some 47 := by
  by_cases hl : 1 < l.length
  · right
    rw [List.head?_dropLast, if_pos hl]
    rcases h with rfl | h
    · simp at hl
    · exact h
  · left
    exact List.eq_nil_of_length_eq_zero (by rw [List.length_dropLast]; omega)

/-- The signal's path starts with `/` under a path that is empty or does. -/
theorem signalPath_head {path : List UInt8} (hp : path = [] ∨ path.head? = some 47)
    (suffix : String) : (signalPath path suffix).head? = some 47 := by
  have hq : ∀ q : List UInt8, (q = [] ∨ q.head? = some 47) →
      (if 47 :: trimByte 47 (utf8Bytes suffix) <:+ q then q
        else q ++ 47 :: trimByte 47 (utf8Bytes suffix)).head? = some 47 := by
    intro q hq
    split_ifs with h
    · rcases hq with rfl | hq
      · simp at h
      · exact hq
    · rcases hq with rfl | hq
      · rfl
      · rw [List.head?_append, hq]
        rfl
  unfold signalPath
  dsimp only
  apply hq
  split_ifs
  · exact dropLast_head hp
  · exact hp

/-- With a suffix that keeps a character past its slashes, the signal's path is its own signal
path: it ends with the suffix, and so not with `/`. -/
theorem signalPath_signalPath {suffix : String} (hs : trimByte 47 (utf8Bytes suffix) ≠ [])
    (path : List UInt8) : signalPath (signalPath path suffix) suffix = signalPath path suffix := by
  have hsfx := suffix_signalPath path suffix
  have hlast : (signalPath path suffix).getLast? ≠ some 47 := by
    rw [getLast?_of_suffix hsfx (List.cons_ne_nil _ _)]
    obtain ⟨x, xs, hx⟩ := List.exists_cons_of_ne_nil hs
    rw [hx, List.getLast?_cons_cons, ← hx]
    exact getLast?_trimByte_ne 47 _
  generalize signalPath path suffix = P at hsfx hlast ⊢
  unfold signalPath
  dsimp only
  rw [if_neg hlast, if_pos hsfx]

/-! ### The signal's URL -/

theorem isBlank_of_isAlpha {c : Char} (h : c.isAlpha = true) : isBlank c = false := by
  simp only [Char.isAlpha, Char.isUpper, Char.isLower, Bool.or_eq_true, Bool.and_eq_true,
    decide_eq_true_eq] at h
  change (65 ≤ c.toNat ∧ c.toNat ≤ 90) ∨ (97 ≤ c.toNat ∧ c.toNat ≤ 122) at h
  simp only [isBlank, Bool.or_eq_false_iff, decide_eq_false_iff_not]
  omega

theorem trimBlank_isEmpty_of_head {s : String} {c : Char} {t : List Char} (hs : s.toList = c :: t)
    (hc : isBlank c = false) : (trimBlank s).isEmpty = false := by
  have hne : (trimBlank s).toList ≠ [] := by
    rw [trimBlank_toList, hs, List.dropWhile_cons_of_neg (by simp [hc]), ne_eq,
      List.reverse_eq_nil_iff, List.dropWhile_eq_nil_iff]
    intro hall
    simpa [hc] using hall c (by simp)
  cases he : (trimBlank s).isEmpty
  · rfl
  · exact absurd (by rw [String.isEmpty_iff.1 he]; rfl) hne

/-- An endpoint that passes the check is not blank: it starts with the letters of its scheme. -/
theorem trimBlank_isEmpty_of_validateEndpoint {e : String} (he : validateEndpoint e = .ok ()) :
    (trimBlank e).isEmpty = false := by
  obtain ⟨u, hu, hs, hh⟩ := validateEndpoint_ok_iff.1 he
  have hne : u.scheme ≠ "" := by rcases hs with hs | hs <;> rw [hs] <;> decide
  obtain ⟨c, t, hct, hc⟩ := parse_head_alpha hu hne hh
  exact trimBlank_isEmpty_of_head hct (isBlank_of_isAlpha hc)

/-- The signal's URL is the endpoint read, with the signal's path, written. -/
theorem signalUrl_eq {e suffix : String} {u : Url} (hb : (trimBlank e).isEmpty = false)
    (hu : parse e = .ok u) :
    signalUrl e suffix = .ok ({ u with path := signalPath u.path suffix }).text := by
  simp only [signalUrl, hb, hu, Bool.false_eq_true, if_false, Except.mapError, bind, Except.bind,
    pure, Except.pure, drop_eq_and_le_iff_suffix]
  rfl

/-- For every endpoint that passes the check and every suffix, the signal's URL is the endpoint
read with the signal's path, written. Where the endpoint's zone is ASCII, it reads back with the
endpoint's scheme, user information, host, query and fragment, and with the signal's path; its
path is written as the endpoint's raw path if the path is left as it is, else escaped; and when
the suffix keeps a character past its slashes, the URL of the same signal under it is itself. -/
theorem signalUrl_sets_signal_path {e s : String} (he : validateEndpoint e = .ok ()) :
    ∃ u, parse e = .ok u ∧ signalUrl e s = .ok ({ u with path := signalPath u.path s }).text ∧
      (AsciiZone u.host → ∃ v, parse ({ u with path := signalPath u.path s }).text = .ok v ∧
        v.scheme = u.scheme ∧ v.user = u.user ∧ v.host = u.host ∧ v.forceQuery = u.forceQuery ∧
        v.rawQuery = u.rawQuery ∧ v.fragment = u.fragment ∧
        v.escapedFragment = u.escapedFragment ∧ v.path = signalPath u.path s ∧
        v.escapedPath = (if signalPath u.path s = u.path then u.escapedPath
          else escape (signalPath u.path s) .path) ∧
        (trimByte 47 (utf8Bytes s) ≠ [] →
          signalUrl ({ u with path := signalPath u.path s }).text s =
            .ok ({ u with path := signalPath u.path s }).text)) := by
  obtain ⟨u, hu, hs, hh⟩ := validateEndpoint_ok_iff.1 he
  refine ⟨u, hu, signalUrl_eq (trimBlank_isEmpty_of_validateEndpoint he) hu, fun hz => ?_⟩
  obtain ⟨hhttp, hraw⟩ := parse_httpUrl hu hs hh hz
  have hp := signalPath_head hhttp.path s
  obtain ⟨hparse, hesc⟩ := hhttp.parse_setPath hraw hp
  refine ⟨_, hparse, rfl, rfl, rfl, rfl, rfl, rfl, HttpUrl.escapedFragment_reread _, rfl, hesc, fun hs' => ?_⟩
  -- the URL read back is again an endpoint that passes the check, and already has the path
  have hv : validateEndpoint ({ u with path := signalPath u.path s }).text = .ok () :=
    validateEndpoint_ok_iff.2 ⟨_, hparse, hhttp.scheme, hhttp.host_ne⟩
  have hpath : ({ u with path := signalPath u.path s }).reread.path = signalPath u.path s := rfl
  rw [signalUrl_eq (trimBlank_isEmpty_of_validateEndpoint hv) hparse, hpath,
    signalPath_signalPath hs', Url.reread_with_path rfl, (hhttp.setPath (.inr hp)).text_reread]

/-- Under a collector endpoint with a path, the traces URL adds `/v1/traces` to the path, and it
is its own traces URL. -/
theorem signalUrl_collector_traces :
    validateEndpoint "https://collector:4318/otlp" = .ok () ∧
      signalUrl "https://collector:4318/otlp" "/v1/traces" =
        .ok "https://collector:4318/otlp/v1/traces" ∧
      signalUrl "https://collector:4318/otlp/v1/traces" "/v1/traces" =
        .ok "https://collector:4318/otlp/v1/traces" := by
  have he : validateEndpoint "https://collector:4318/otlp" = .ok () := by
    simp only [validateEndpoint, Url.parse, Url.parseBody, String.any, String.contains_bool_eq]
    decide +kernel
  have hu : parse "https://collector:4318/otlp" =
      .ok { scheme := "https"
            host := [99, 111, 108, 108, 101, 99, 116, 111, 114, 58, 52, 51, 49, 56]
            path := [47, 111, 116, 108, 112] } := by
    simp only [Url.parse, Url.parseBody, String.any, String.contains_bool_eq]
    decide +kernel
  obtain ⟨u, hu', hr, hv⟩ := signalUrl_sets_signal_path (s := "/v1/traces") he
  have hU := Except.ok.inj (hu'.symm.trans hu)
  have htext : ({ u with path := signalPath u.path "/v1/traces" }).text =
      "https://collector:4318/otlp/v1/traces" := by
    rw [hU]
    decide +kernel
  rw [htext] at hr hv
  obtain ⟨v, -, -, -, -, -, -, -, -, -, -, hidem⟩ := hv (by rw [hU]; exact fun h => absurd h (by decide))
  exact ⟨he, hr, hidem (by decide +kernel)⟩

/-- Endpoints that pass the check where the signal's URL is not the endpoint's escaped path with
the suffix added, or is not its own signal URL: an escaped `/` comes out plain; a suffix of
slashes only takes a slash off `/a//` once more; and a zone holding `é` is written `%C3%A9`, which
a zone does not read. -/
theorem signalUrl_rewrites_path :
    validateEndpoint "http://h/a%2Fb" = .ok () ∧
      signalUrl "http://h/a%2Fb" "/v1/traces" = .ok "http://h/a/b/v1/traces" ∧
    validateEndpoint "http://h/a///" = .ok () ∧ signalUrl "http://h/a///" "" = .ok "http://h/a//" ∧
      signalUrl "http://h/a//" "" = .ok "http://h/a/" ∧
    validateEndpoint "http://[fe80::1%25é]:80" = .ok () ∧
      signalUrl "http://[fe80::1%25é]:80" "/v1/traces" =
        .ok "http://[fe80::1%25%C3%A9]:80/v1/traces" ∧
      (signalUrl "http://[fe80::1%25%C3%A9]:80/v1/traces" "/v1/traces").toOption = none := by
  refine ⟨?_, ?_, ?_, ?_, ?_, ?_, ?_, ?_⟩ <;>
    simp only [validateEndpoint, signalUrl, Url.parse, Url.parseBody, String.any,
      String.contains_bool_eq] <;>
    decide +kernel

end SqlSearch.Telemetry
