/-
Rewritten request targets and expanded `return` templates.
-/

import Ngxora.Routing.Selection

namespace Ngxora.Routing

open Reference Text List String Http Results Router

/-- What a compiled template is expanded to, for any request. -/
theorem return_templates_expand_once (template : String) :
    (∀ host uri scheme otherHost otherUri otherScheme,
      (expandReturn template host uri scheme).isOk =
        (expandReturn template otherHost otherUri otherScheme).isOk) ∧
    (∀ host uri scheme expanded, expandReturn template host uri scheme = .ok expanded →
      ∃ pieces, Reads template.toList pieces ∧
        expanded = String.ofList (pieces.flatMap (Piece.value host uri scheme))) ∧
    ∀ platform upstreams location routeId compiled status,
      compileLocation platform upstreams location routeId = .ok (some compiled) →
      compiled.target = .action (.returnRedirect status template) →
        ∃ pieces, Reads template.toList pieces ∧ ∀ crates resolved session,
          resolved.location = compiled →
            selectTarget crates resolved session =
              .ok (.returnTo status (String.ofList (pieces.flatMap
                (Piece.value (resolved.host.getD "") (session.uri.pathAndQuery.getD "/")
                  (requestScheme session))))) := by
  refine ⟨expandReturn_isOk template, ?_, ?_⟩
  · intro host uri scheme expanded expands
    rcases expandReturn_isOk_iff.mp (by rw [expands]; rfl) with ⟨pieces, reads⟩
    rw [expandReturn_of_reads reads] at expands
    exact ⟨pieces, reads, (Except.ok.inj expands).symm⟩
  · intro platform upstreams location routeId compiled status succeeds isReturn
    have valid := (compileLocation_eq_some succeeds).2.1
    rw [isReturn] at valid
    rcases bind₂_eq_ok.mp valid with ⟨_, _, _, sample, _⟩
    rcases expandReturn_isOk_iff.mp (by rw [sample]; rfl) with ⟨pieces, reads⟩
    refine ⟨pieces, reads, fun crates resolved session same => ?_⟩
    simp only [selectTarget, same, isReturn, expandReturn_of_reads reads]
    rfl

def written (uri : RequestUri) : String :=
  match uri.query with
  | some query => uri.path ++ "?" ++ query
  | none => uri.path

def withPath (uri : RequestUri) (path : String) : RequestUri :=
  { path, query := uri.query, pathAndQuery := some (written { uri with path }) }

/-- The request target of an ordinary request. -/
structure OriginForm (pathChar queryChar : Char → Bool) (uri : RequestUri) : Prop where
  starts : Text.startsWith "/" uri.path = true
  path : ∀ char ∈ uri.path.toList, pathChar char = true
  query : ∀ query ∈ uri.query, ∀ char ∈ query.toList, queryChar char = true
  whole : uri.pathAndQuery = some (written uri)

/-- The parsers of `http::Uri` go by single characters and by the length. -/
structure AcceptsOriginForm (platform : Platform) (crates : Crates) (limit : Nat)
    (pathChar queryChar : Char → Bool) : Prop where
  path : ∀ {text}, platform.pathAndQueryParses text = true → '?' ∉ text.toList →
    '#' ∉ text.toList → ∀ char ∈ text.toList, pathChar char = true
  plain : pathChar '?' = false
  uri : ∀ {uri}, OriginForm pathChar queryChar uri → byteLength (written uri) ≤ limit →
    crates.uriPrinted (written uri) = .ok (written uri)

variable {pathChar queryChar : Char → Bool} {uri other : RequestUri}

lemma written_injective (plain : pathChar '?' = false) (origin : OriginForm pathChar queryChar uri)
    (otherOrigin : OriginForm pathChar queryChar other) (same : written uri = written other) :
    uri.path = other.path ∧ uri.query = other.query := by
  have read : ∀ {uri : RequestUri}, OriginForm pathChar queryChar uri →
      splitOnce '?' (written uri) = uri.query.map fun query => (uri.path, query) := by
    intro uri origin
    have absent : '?' ∉ uri.path.toList := by
      intro mem
      rw [origin.path '?' mem] at plain
      cases plain
    cases query : uri.query with
    | none =>
      rw [written, query]
      exact splitOnce_of_notMem absent
    | some rest =>
      have split := splitOnce_append rest.toList absent
      have text : written uri = String.ofList (uri.path.toList ++ '?' :: rest.toList) :=
        toList_injective (by simp [written, query])
      rw [text, split]
      simp
  have both := (read origin).symm.trans ((congrArg _ same).trans (read otherOrigin))
  cases first : uri.query with
  | none =>
    cases second : other.query with
    | none => exact ⟨by simpa [written, first, second] using same, rfl⟩
    | some query => simp [first, second] at both
  | some query =>
    cases second : other.query with
    | none => simp [first, second] at both
    | some otherQuery => simpa [first, second] using both

variable {start repl text rest suffix : String} {platform : Platform} {crates : Crates}

lemma exists_suffix_of_prefixMatches {path : String} (matched : prefixMatches start path = true) :
    ∃ suffix, afterStart (trimEndMatches '/' start) path = some suffix ∧
      (suffix = "" ∨ Text.startsWith "/" suffix = true) := by
  simp only [prefixMatches, Bool.or_eq_true, beq_iff_eq, Option.any_eq_true] at matched
  rcases matched with same | ⟨suffix, found, slash⟩
  · exact ⟨"", afterStart_eq_some.mpr (by simp [same]), .inl rfl⟩
  · exact ⟨suffix, found, .inr slash⟩

lemma replacement_of_validateModifier {limit : Nat}
    (accepts : AcceptsOriginForm platform crates limit pathChar queryChar)
    {matcher : CompiledMatcher}
    (valid : validateModifier platform (some (.replacePrefixMatch repl)) matcher = .ok ()) :
    (∀ char ∈ repl.toList, pathChar char = true) ∧
      (repl = "" ∨ Text.startsWith "/" repl = true) := by
  obtain ⟨_, _, valid⟩ := bind_eq_ok.mp valid
  by_cases empty : repl = ""
  · exact ⟨by simp [empty], .inl empty⟩
  · rw [if_neg empty] at valid
    obtain ⟨starts, noQuery, noFragment, _, parses⟩ := validatePath_eq_ok.mp valid
    exact ⟨accepts.path parses noQuery noFragment, .inr starts⟩

lemma startsWith_slash_append (starts : Text.startsWith "/" text = true) :
    Text.startsWith "/" (text ++ rest) = true := by
  rw [startsWith_iff, toList_append] at *
  exact starts.trans (prefix_append ..)

lemma startsWith_slash_trim (starts : text = "" ∨ Text.startsWith "/" text = true)
    (restStarts : Text.startsWith "/" rest = true) :
    Text.startsWith "/" (Text.trimEndMatches '/' text ++ rest) = true := by
  by_cases empty : trimEndMatches '/' text = ""
  · rwa [empty, empty_append]
  · apply startsWith_slash_append
    rcases starts with none | starts
    · exact absurd (by rw [none]; rfl) empty
    · rw [startsWith_iff] at starts ⊢
      apply prefix_of_prefix_length_le starts (trimEndMatches_toList_isPrefix '/' text)
      rw [← String.toList_inj, String.toList_empty, ← List.length_eq_zero_iff] at empty
      exact Nat.one_le_iff_ne_zero.mpr empty

def replacedPath (replacement suffix : String) : String :=
  if suffix = "" then (if replacement = "" then "/" else replacement)
  else trimEndMatches '/' replacement ++ suffix

lemma rewriteUri_matched (repl : String)
    (found : afterStart (trimEndMatches '/' start) uri.path = some suffix)
    (printed : crates.uriPrinted (written (withPath uri (replacedPath repl suffix))) =
      .ok (written (withPath uri (replacedPath repl suffix)))) :
    rewriteUri crates uri (some (.replacePrefixMatch repl)) (some start) =
      .ok (written (withPath uri (replacedPath repl suffix))) := by
  have path : (if (if suffix.isEmpty then repl
        else trimEndMatches '/' repl ++ suffix).isEmpty then "/"
      else if suffix.isEmpty then repl
        else trimEndMatches '/' repl ++ suffix) = replacedPath repl suffix := by
    simp only [replacedPath, String.isEmpty_iff]
    by_cases empty : suffix = ""
    · simp [empty]
    · simp [empty]
  simp only [rewriteUri, orFail_some, found, ok_bind, pure_eq_ok, path]
  cases query : uri.query with
  | none | some rest => simp_all [written, withPath]

lemma replacedPath_originForm (origin : OriginForm pathChar queryChar uri)
    (chars : ∀ char ∈ repl.toList, pathChar char = true)
    (starts : repl = "" ∨ Text.startsWith "/" repl = true)
    (inPath : ∀ char ∈ suffix.toList, char ∈ uri.path.toList)
    (slash : suffix = "" ∨ Text.startsWith "/" suffix = true) :
    OriginForm pathChar queryChar (withPath uri (replacedPath repl suffix)) where
  starts := by
    simp only [withPath, replacedPath]
    by_cases empty : suffix = ""
    · rw [if_pos empty]
      by_cases removed : repl = ""
      · rw [if_pos removed]
        decide
      · rw [if_neg removed]
        exact starts.resolve_left removed
    · rw [if_neg empty]
      exact startsWith_slash_trim starts (slash.resolve_left empty)
  path := by
    intro char mem
    simp only [withPath, replacedPath] at mem
    split at mem
    · split at mem
      · -- the slash of the request's own path
        obtain ⟨rest, whole⟩ := startsWith_iff.mp origin.starts
        exact origin.path char (whole ▸ mem_append_left _ mem)
      · exact chars char mem
    · rw [toList_append, mem_append] at mem
      rcases mem with inReplacement | inSuffix
      · exact chars char ((trimEndMatches_toList_isPrefix ..).mem inReplacement)
      · exact origin.path char (inPath char inSuffix)
  query := origin.query
  whole := rfl

lemma withPath_path (origin : OriginForm pathChar queryChar uri) (path : String) :
    withPath (withPath uri path) uri.path = uri := by
  cases uri with
  | mk _ _ pathAndQuery =>
    have whole : pathAndQuery = _ := origin.whole
    rw [whole]
    rfl

lemma trimmed_of_compileMatch {input matcher : HttpMatch}
    (built : compileMatch platform input = .ok matcher)
    (isPrefix : matcher.path = .pathPrefix start) (notRoot : start ≠ "/") :
    trimEndMatches '/' start = start ∧ start ≠ "" := by
  obtain ⟨_, _, _, _, _, _, same⟩ := bind₃_eq_ok.mp built
  cases same
  cases kind : input.path with
  | exact path => simp [kind, compilePathMatch] at isPrefix
  | pathPrefix path =>
    simp only [kind, compilePathMatch, HttpPathMatch.pathPrefix.injEq] at isPrefix
    subst isPrefix
    unfold trimmedPrefix at notRoot ⊢
    by_cases empty : trimEndMatches '/' path = ""
    · exact absurd (by rw [if_pos empty]) notRoot
    · rw [if_neg empty]
      exact ⟨trimEndMatches_idem '/' path, empty⟩

/-- The rewritten path, whether it can be parsed, and the way back. -/
theorem prefix_rewrite_is_exact {platform : Platform} {crates : Crates} {limit : Nat}
    {pathChar queryChar : Char → Bool}
    (accepts : AcceptsOriginForm platform crates limit pathChar queryChar)
    {input matcher : HttpMatch} {start replacement : String}
    (compiled : compileMatch platform input = .ok matcher)
    (isPrefix : matcher.path = .pathPrefix start)
    (valid : validateModifier platform (some (.replacePrefixMatch replacement)) (.http matcher) =
      .ok ()) {uri : RequestUri} (origin : OriginForm pathChar queryChar uri)
    (matched : prefixMatches start uri.path = true) :
    ∃ suffix path, uri.path = trimEndMatches '/' start ++ suffix ∧
      path = (if suffix = "" then (if replacement = "" then "/" else replacement)
        else trimEndMatches '/' replacement ++ suffix) ∧
      Text.startsWith "/" path = true ∧
      (byteLength (written (withPath uri path)) ≤ limit →
        rewriteUri crates uri (some (.replacePrefixMatch replacement)) (some start) =
            .ok (written (withPath uri path)) ∧ ∀ other, OriginForm pathChar queryChar other →
            written other = written (withPath uri path) →
              other.path = path ∧ other.query = uri.query) ∧
      (byteLength (written uri) ≤ limit → start ≠ "/" → replacement ≠ "" →
        replacement ≠ "/" → Text.endsWith "/" replacement = false →
          rewriteUri crates (withPath uri path) (some (.replacePrefixMatch start))
            (some replacement) = .ok (written uri)) := by
  rcases exists_suffix_of_prefixMatches matched with ⟨suffix, found, slash⟩
  rcases replacement_of_validateModifier accepts valid with ⟨chars, starts⟩
  have split := afterStart_eq_some.mp found
  have newOrigin := replacedPath_originForm origin chars starts
    (fun _ member => split ▸ mem_append_right _ member) slash
  refine ⟨suffix, replacedPath replacement suffix,
    toList_injective (by rw [split, toList_append]), rfl, newOrigin.starts, ?_, ?_⟩
  · intro short
    exact ⟨rewriteUri_matched replacement found (accepts.uri newOrigin short),
      fun other otherOrigin same => written_injective accepts.plain otherOrigin newOrigin same⟩
  · intro short notRoot nonempty _ noSlash
    rcases trimmed_of_compileMatch compiled isPrefix notRoot with ⟨trimmed, startNonempty⟩
    have kept : trimEndMatches '/' replacement = replacement :=
      trimEndMatches_eq_self.mpr (endsWith_singleton.mp noSlash)
    have joined : replacedPath replacement suffix = replacement ++ suffix := by
      by_cases empty : suffix = "" <;> simp [replacedPath, empty, nonempty, kept]
    have original : replacedPath start suffix = uri.path := by
      apply toList_injective
      rw [split, trimmed]
      by_cases empty : suffix = "" <;> simp [replacedPath, empty, startNonempty, trimmed]
    have found : afterStart (trimEndMatches '/' replacement)
        (withPath uri (replacedPath replacement suffix)).path = some suffix :=
      afterStart_eq_some.mpr (by simp [kept, withPath, joined])
    have printed := accepts.uri origin short
    rw [← withPath_path origin (replacedPath replacement suffix), ← original] at printed ⊢
    exact rewriteUri_matched start found printed

/-- Below the root the slash belongs to what is left of the path. -/
theorem root_prefix_keeps_slash :
    ∃ matcher, compileMatch Reference.platform
        { path := .pathPrefix "/", method := none, headers := [], queryParams := [] } =
          .ok matcher ∧
      matcher.path = .pathPrefix "/" ∧
      validateModifier Reference.platform (some (.replacePrefixMatch "/x")) (.http matcher) =
        .ok () ∧
      prefixMatches "/" "/" = true ∧
      rewriteUri DotExample.crates { path := "/", pathAndQuery := some "/" }
        (some (.replacePrefixMatch "/x")) (some "/") = .ok "/x/" := by
  refine ⟨{ path := .pathPrefix "/", method := none, headers := [], queryParams := [] }, ?_, rfl,
    ?_, ?_, ?_⟩
  all_goals decide +kernel

theorem prefix_rewritten_and_back :
    rewriteUri DotExample.crates
          { path := "/a/c", query := some "d=1", pathAndQuery := some "/a/c?d=1" }
          (some (.replacePrefixMatch "/b")) (some "/a") = .ok "/b/c?d=1" ∧
      rewriteUri DotExample.crates
          { path := "/b/c", query := some "d=1", pathAndQuery := some "/b/c?d=1" }
          (some (.replacePrefixMatch "/a")) (some "/b") = .ok "/a/c?d=1" := by
  have accepts : AcceptsOriginForm Reference.platform DotExample.crates 65534
      (! ['?', '#'].contains ·) (· != '#') := by
    refine ⟨fun _ noQuery noFragment char member => ?_, by decide, fun _ _ => rfl⟩
    have differs : char ≠ '?' ∧ char ≠ '#' :=
      ⟨fun same => noQuery (same ▸ member), fun same => noFragment (same ▸ member)⟩
    simp [differs]
  have origin : OriginForm (! ['?', '#'].contains ·) (· != '#')
      { path := "/a/c", query := some "d=1", pathAndQuery := some "/a/c?d=1" } := by
    refine ⟨by decide +kernel, all_eq_true.mp (by decide +kernel), by simp, by decide +kernel⟩
  have compiled : compileMatch Reference.platform
      { path := .pathPrefix "/a", method := none, headers := [], queryParams := [] } =
        .ok { path := .pathPrefix "/a", method := none, headers := [], queryParams := [] } := by
    decide +kernel
  have valid : validateModifier Reference.platform (some (.replacePrefixMatch "/b"))
      (.http { path := .pathPrefix "/a", method := none, headers := [], queryParams := [] }) =
        .ok () := by
    decide +kernel
  rcases prefix_rewrite_is_exact accepts compiled rfl valid origin (by decide +kernel) with
    ⟨suffix, path, split, rewritten, _, forth, back⟩
  have left : suffix = "/c" := by
    have whole := congrArg String.toList split
    have start : "/a/c".toList = (trimEndMatches '/' "/a").toList ++ "/c".toList := by
      decide +kernel
    rw [toList_append] at whole
    exact toList_injective (append_cancel_left (whole.symm.trans start))
  subst left
  have replaced : path = "/b/c" := rewritten.trans (by decide +kernel)
  subst replaced
  exact ⟨(forth (by decide +kernel)).1, back (by decide +kernel) (by decide) (by decide)
    (by decide) (by decide +kernel)⟩

end Ngxora.Routing
