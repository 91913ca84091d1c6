/-
Host names, structured matches and path modifiers of HTTP routes.
-/

import Ngxora.Router.Types

namespace Ngxora.Router

open Text HttpPathMatch List String Results

def normalizeHostname (host : String) : String :=
  toAsciiLowercase (trimEndMatches '.' host)

/-- Whether a configured name covers a host, and how precisely: an exact name
before a wildcard, a longer wildcard before a shorter one. -/
def hostnameScore (pattern host : String) : Option (Bool × Nat) :=
  if pattern = host then some (true, byteLength pattern)
  else
    match afterStart "*" pattern with
    | none => none
    | some suffix =>
      if Text.startsWith "." suffix && decide (Text.byteLength host > Text.byteLength suffix) &&
          Text.endsWith suffix host then
        some (false, byteLength suffix)
      else none

def badLabel (label : String) : Bool :=
  label.isEmpty || decide (Text.byteLength label > 63) || Text.startsWith "-" label ||
    Text.endsWith "-" label ||
    !label.toList.all fun char => char.isAlphanum || char == '-'

def validateHostname (host : String) : Except String Unit :=
  rejectIf (host.isEmpty || decide (byteLength host > 253) ||
      (splitOn '.' host).any badLabel)
    s!"invalid hostname `{host}`"

lemma simple_of_validateHostname {host : String} {done : Unit}
    (valid : validateHostname host = .ok done) : Path.Simple host.toList := by
  have checked := rejectIf_eq_ok.mp valid
  simp only [Bool.or_eq_false_iff, any_eq_false] at checked
  obtain ⟨⟨ne, _⟩, labels⟩ := checked
  refine ⟨?_, ?_, ?_⟩
  · intro empty
    rw [toList_eq_nil_iff] at empty
    simp [empty] at ne
  · intro slash
    obtain ⟨label, mem, inLabel⟩ := exists_mem_splitOn (by decide : '/' ≠ '.') slash
    have good := labels (String.ofList label) (mem_map_of_mem mem)
    simp only [badLabel, Bool.or_eq_true, not_or, Bool.not_eq_true', Bool.not_eq_false,
      all_eq_true] at good
    have isGood := good.2 '/' (by simpa using inLabel)
    exact absurd isGood (by decide)
  · intro dot
    have isDot : host = "." := toList_injective dot
    subst isDot
    cases done
    exact absurd valid (by decide)

variable (platform : Platform)

def validatePath (path : String) : Except String Unit :=
  rejectIf (!Text.startsWith "/" path || Text.contains '?' path || Text.contains '#' path ||
      containsText "//" path || !platform.pathAndQueryParses path)
    s!"invalid HTTP path `{path}`"

def retainFirst (seen : List String) : List (String × String) → List (String × String)
  | [] => []
  | (name, value) :: rest =>
    if name ∈ seen then retainFirst seen rest
    else (name, value) :: retainFirst (name :: seen) rest

def HttpPathMatch.path : HttpPathMatch → String
  | .exact path | .pathPrefix path => path

def trimmedPrefix (path : String) : String :=
  if trimEndMatches '/' path = "" then "/" else trimEndMatches '/' path

def compilePathMatch : HttpPathMatch → HttpPathMatch
  | .exact path => .exact path
  | .pathPrefix path => .pathPrefix (trimmedPrefix path)

def compileHeader (condition : String × String) : Except String (String × String) := do
  let name ← orFail (platform.headerNameFromBytes condition.1) "invalid HTTP match header name"
  rejectIf (!platform.headerValueFromStr condition.2) "invalid HTTP match header value"
  pure (name, condition.2)

def compileMatch (input : HttpMatch) : Except String HttpMatch := do
  validatePath platform (HttpPathMatch.path input.path)
  rejectIf (input.method.any fun method => !platform.methodFromBytes method)
    "invalid HTTP match method"
  let headers ← input.headers.mapM (compileHeader platform)
  pure
    { path := compilePathMatch input.path
      method := input.method
      headers := retainFirst [] headers
      queryParams := retainFirst [] input.queryParams }

def CompiledMatcher.ofMatcher : LocationMatcher → Except String CompiledMatcher
  | .http matcher => .http <$> compileMatch platform matcher
  | .pathPrefix path => .ok (.pathPrefix path)
  | .exact path => .ok (.exact path)
  | .regex caseInsensitive pattern =>
    match platform.regexBuild caseInsensitive pattern with
    | .ok _ => .ok (.regex caseInsensitive pattern)
    | .error err => .error s!"invalid location regex `{pattern}`: {err}"
  | .preferPrefix path => .ok (.preferPrefix path)
  | .named name => .ok (.named name)

def isPathPrefixMatch : CompiledMatcher → Bool
  | .http { path := .pathPrefix _, .. } => true
  | _ => false

def validateModifier (modifier : Option PathModifier) (matcher : CompiledMatcher) :
    Except String Unit :=
  match modifier with
  | none => .ok ()
  | some (.replaceFullPath path) => validatePath platform path
  | some (.replacePrefixMatch path) => do
    rejectIf (!isPathPrefixMatch matcher) "ReplacePrefixMatch requires an HTTP PathPrefix match"
    -- An empty replacement removes the matched prefix.
    if path = "" then pure () else validatePath platform path

def isVariableChar (char : Char) : Bool :=
  char.isAlphanum || char == '_'

def returnVariable (host uri scheme : String) (name : String) : Except String String :=
  if name = "host" then .ok host
  else if name = "request_uri" then .ok uri
  else if name = "scheme" then .ok scheme
  else .error s!"unsupported return variable `${name}`"

/-- Expand the rest of a template; `skip` characters of a variable name are
still to be passed over. -/
def expandFrom (host uri scheme : String) : Nat → List Char → Except String (List Char)
  | _, [] => .ok []
  | skip + 1, _ :: rest => expandFrom host uri scheme skip rest
  | 0, '$' :: '$' :: rest => ('$' :: ·) <$> expandFrom host uri scheme 0 rest
  | 0, '$' :: rest => do
    let name := rest.takeWhile isVariableChar
    let value ← returnVariable host uri scheme (String.ofList name)
    (value.toList ++ ·) <$> expandFrom host uri scheme name.length rest
  | 0, char :: rest => (char :: ·) <$> expandFrom host uri scheme 0 rest

def expandReturn (template host uri scheme : String) : Except String String :=
  String.ofList <$> expandFrom host uri scheme 0 template.toList

example : expandReturn "$scheme://$host$request_uri?x=$$" "example.com" "/a" "https" =
    .ok "https://example.com/a?x=$" := by rfl

inductive Variable where
  | host
  | requestUri
  | scheme

def Variable.name : Variable → String
  | .host => "host"
  | .requestUri => "request_uri"
  | .scheme => "scheme"

/-- What a template stands for: characters to copy and variables to substitute. -/
inductive Piece where
  | copied (char : Char)
  | substituted (name : Variable)

/-- The reading of a template.  A variable name ends where no longer one is possible. -/
inductive Reads : List Char → List Piece → Prop where
  | done : Reads [] []
  | copied {char rest pieces} (plain : char ≠ '$') (later : Reads rest pieces) :
      Reads (char :: rest) (.copied char :: pieces)
  | dollar {rest pieces} (later : Reads rest pieces) :
      Reads ('$' :: '$' :: rest) (.copied '$' :: pieces)
  | named {rest pieces} (name : Variable) (maximal : rest.head?.any isVariableChar = false)
      (later : Reads rest pieces) :
      Reads ('$' :: (name.name.toList ++ rest)) (.substituted name :: pieces)

section Expansion

variable (host uri scheme : String)

def Variable.value : Variable → String
  | .host => host
  | .requestUri => uri
  | .scheme => scheme

def Piece.value : Piece → List Char
  | .copied char => [char]
  | .substituted name => (name.value host uri scheme).toList

lemma returnVariable_eq_ok {name value : String} : returnVariable host uri scheme name = .ok value ↔
    ∃ found : Variable, found.name = name ∧ found.value host uri scheme = value := by
  constructor
  · intro known
    unfold returnVariable at known
    split at known
    · next isHost => exact ⟨.host, isHost.symm, Except.ok.inj known⟩
    · split at known
      · next isUri => exact ⟨.requestUri, isUri.symm, Except.ok.inj known⟩
      · split at known
        · next isScheme => exact ⟨.scheme, isScheme.symm, Except.ok.inj known⟩
        · cases known
  · rintro ⟨found, rfl, rfl⟩
    cases found <;> rfl

lemma expandFrom_append_skip (passed rest : List Char) :
    expandFrom host uri scheme passed.length (passed ++ rest) =
      expandFrom host uri scheme 0 rest := by
  induction passed with
  | nil => rfl
  | cons char passed ih => exact ih

lemma Variable.takeWhile_name (name : Variable) {rest : List Char}
    (maximal : rest.head?.any isVariableChar = false) :
    (name.name.toList ++ rest).takeWhile isVariableChar = name.name.toList := by
  have inside : ∀ char ∈ name.name.toList, isVariableChar char = true := by
    cases name <;> exact all_eq_true.mp (by decide)
  refine (span_append inside fun char first => ?_).1
  simpa [first] using maximal

variable {template : List Char}

lemma expandFrom_of_reads {pieces : List Piece} (reads : Reads template pieces) :
    expandFrom host uri scheme 0 template = .ok (pieces.flatMap (Piece.value host uri scheme)) := by
  induction reads with
  | done => rfl
  | copied plain _ ih =>
    rw [expandFrom.eq_5 _ _ _ _ _ (fun _ same => absurd same plain) plain, ih]
    rfl
  | dollar _ ih =>
    rw [expandFrom, ih]
    rfl
  | @named rest pieces name maximal _ ih =>
    have notDollar : ∀ more, name.name.toList ++ rest = '$' :: more → False := by
      cases name <;> exact fun more same => by cases same
    rw [expandFrom.eq_4 _ _ _ _ notDollar]
    simp only [name.takeWhile_name maximal]
    rw [ofList_toList, (returnVariable_eq_ok host uri scheme).mpr ⟨name, rfl, rfl⟩, ok_bind,
      expandFrom_append_skip, ih]
    rfl

variable {host uri scheme}

lemma exists_reads_of_expandFrom {skip : Nat} {expanded : List Char}
    (expands : expandFrom host uri scheme skip template = .ok expanded) :
    ∃ pieces, Reads (template.drop skip) pieces := by
  fun_induction expandFrom host uri scheme skip template generalizing expanded with
  | case1 => exact ⟨[], by simpa using Reads.done⟩
  | case2 skip char rest ih => exact ih expands
  | case3 rest ih =>
    obtain ⟨_, later, _⟩ := map_eq_ok.mp expands
    obtain ⟨pieces, reads⟩ := ih later
    exact ⟨_, .dollar reads⟩
  | case4 rest _ name =>
    rename_i ih
    obtain ⟨value, known, expands⟩ := bind_eq_ok.mp expands
    obtain ⟨_, later, _⟩ := map_eq_ok.mp expands
    obtain ⟨pieces, reads⟩ := ih later
    obtain ⟨found, named, _⟩ := (returnVariable_eq_ok host uri scheme).mp known
    have whole : name ++ rest.dropWhile isVariableChar = rest := takeWhile_append_dropWhile
    have passed : rest.drop name.length = rest.dropWhile isVariableChar :=
      (congrArg (List.drop name.length) whole.symm).trans drop_left
    rw [passed] at reads
    have maximal : (rest.dropWhile isVariableChar).head?.any isVariableChar = false := by
      have first := head?_dropWhile_not isVariableChar rest
      cases head : (rest.dropWhile isVariableChar).head? with
      | none => rfl
      | some char => simpa [head] using first
    rw [← toList_ofList (l := name), ← named] at whole
    rw [drop_zero, ← whole]
    exact ⟨_, .named found maximal reads⟩
  | case5 char rest _ plain ih =>
    obtain ⟨_, later, _⟩ := map_eq_ok.mp expands
    obtain ⟨pieces, reads⟩ := ih later
    exact ⟨_, .copied plain reads⟩

end Expansion

variable {template : String} {seen : List String} {conds : List (String × String)}

lemma expandReturn_of_reads {pieces : List Piece} (reads : Reads template.toList pieces)
    (host uri scheme : String) : expandReturn template host uri scheme =
      .ok (String.ofList (pieces.flatMap (Piece.value host uri scheme))) := by
  rw [expandReturn, expandFrom_of_reads host uri scheme reads]
  rfl

lemma expandReturn_isOk_iff {host uri scheme : String} :
    (expandReturn template host uri scheme).isOk = true ↔
      ∃ pieces, Reads template.toList pieces := by
  constructor
  · intro isOk
    cases expands : expandFrom host uri scheme 0 template.toList with
    | error msg =>
      rw [expandReturn, expands] at isOk
      cases isOk
    | ok expanded => exact exists_reads_of_expandFrom expands
  · rintro ⟨pieces, reads⟩
    rw [expandReturn_of_reads reads]
    rfl

lemma expandReturn_isOk (template host uri scheme otherHost otherUri otherScheme : String) :
    (expandReturn template host uri scheme).isOk =
      (expandReturn template otherHost otherUri otherScheme).isOk :=
  Bool.eq_iff_iff.mpr (expandReturn_isOk_iff.trans expandReturn_isOk_iff.symm)

lemma normalizeHostname_idem (host : String) :
    normalizeHostname (normalizeHostname host) = normalizeHostname host := by
  unfold normalizeHostname
  rw [trimEndMatches_toAsciiLowercase (by decide), toAsciiLowercase_idem,
    trimEndMatches_idem]

lemma trimmedPrefix_idem (path : String) :
    trimmedPrefix (trimmedPrefix path) = trimmedPrefix path := by
  unfold trimmedPrefix
  by_cases empty : trimEndMatches '/' path = ""
  · rw [if_pos empty]
    decide
  · rw [if_neg empty, trimEndMatches_idem, if_neg empty]

lemma retainFirst_names (seen : List String) (conds : List (String × String)) :
    ((retainFirst seen conds).map Prod.fst).Nodup ∧
      ∀ name ∈ (retainFirst seen conds).map Prod.fst, name ∉ seen := by
  induction conds generalizing seen with
  | nil => simp [retainFirst]
  | cons cond rest ih =>
    obtain ⟨name, value⟩ := cond
    by_cases known : name ∈ seen
    · simpa [retainFirst, known] using ih seen
    · obtain ⟨nodup, fresh⟩ := ih (name :: seen)
      rw [retainFirst, if_neg known, map_cons, nodup_cons, forall_mem_cons]
      refine ⟨⟨fun again => fresh name again (mem_cons_self ..), nodup⟩, known, ?_⟩
      intro other mem inSeen
      exact fresh other mem (mem_cons_of_mem _ inSeen)

lemma retainFirst_eq_self (nodup : (conds.map Prod.fst).Nodup)
    (fresh : ∀ name ∈ conds.map Prod.fst, name ∉ seen) :
    retainFirst seen conds = conds := by
  induction conds generalizing seen with
  | nil => rfl
  | cons cond rest ih =>
    obtain ⟨name, value⟩ := cond
    simp only [map_cons, nodup_cons, forall_mem_cons] at nodup fresh
    have restFresh : ∀ other ∈ rest.map Prod.fst, other ∉ name :: seen := by
      intro other mem inSeen
      rcases mem_cons.mp inSeen with same | old
      · exact nodup.1 (same ▸ mem)
      · exact fresh.2 other mem old
    rw [retainFirst, if_neg fresh.1, ih nodup.2 restFresh]

lemma retainFirst_idem (conds : List (String × String)) :
    retainFirst [] (retainFirst [] conds) = retainFirst [] conds :=
  retainFirst_eq_self (retainFirst_names [] conds).1 fun _ _ => not_mem_nil

lemma mem_of_mem_retainFirst {cond : String × String}
    (mem : cond ∈ retainFirst seen conds) : cond ∈ conds := by
  induction conds generalizing seen with
  | nil => exact mem
  | cons first rest ih =>
    obtain ⟨name, value⟩ := first
    by_cases known : name ∈ seen
    · rw [retainFirst, if_pos known] at mem
      exact mem_cons_of_mem _ (ih mem)
    · rw [retainFirst, if_neg known] at mem
      rcases mem_cons.mp mem with same | later
      · exact same ▸ mem_cons_self ..
      · exact mem_cons_of_mem _ (ih later)

section Lawful

variable {platform : Platform} (lawful : platform.Lawful)

variable {done : Unit}

lemma validatePath_eq_ok {path : String} : validatePath platform path = .ok done ↔
    Text.startsWith "/" path = true ∧ '?' ∉ path.toList ∧ '#' ∉ path.toList ∧
      ¬("//".toList <:+: path.toList) ∧ platform.pathAndQueryParses path = true := by
  simp only [validatePath, rejectIf_eq_ok, Bool.or_eq_false_iff, Bool.not_eq_false',
    Text.contains, contains_eq_mem, decide_eq_false_iff_not, and_assoc,
    ← containsText_iff, Bool.not_eq_true]

include lawful in
lemma validatePath_trimmedPrefix {path : String} (valid : validatePath platform path = .ok done) :
    validatePath platform (trimmedPrefix path) = .ok () := by
  obtain ⟨starts, noQuery, noFragment, noDouble, parses⟩ := validatePath_eq_ok.mp valid
  have trimmedParses := lawful.pathTrimmed parses starts
  rw [validatePath_eq_ok]
  unfold trimmedPrefix
  by_cases empty : trimEndMatches '/' path = ""
  · rw [if_pos empty] at trimmedParses ⊢
    exact ⟨by decide, by decide, by decide, by decide, trimmedParses⟩
  · rw [if_neg empty] at trimmedParses ⊢
    have isStart := trimEndMatches_toList_isPrefix '/' path
    refine ⟨?_, fun mem => noQuery (isStart.mem mem), fun mem => noFragment (isStart.mem mem),
      fun double => noDouble (double.trans isStart.isInfix), trimmedParses⟩
    rw [startsWith_iff] at starts ⊢
    have ne : 1 ≤ (trimEndMatches '/' path).toList.length := by
      rw [Nat.one_le_iff_ne_zero, ne_eq, List.length_eq_zero_iff]
      intro nil
      exact empty (toList_inj.mp nil)
    exact prefix_of_prefix_length_le starts isStart ne

lemma HttpPathMatch.path_compile (path : HttpPathMatch) :
    HttpPathMatch.path (compilePathMatch path) =
      match path with
      | .exact path => path
      | .pathPrefix path => trimmedPrefix path := by
  cases path <;> rfl

include lawful in
lemma compileMatch_idem {input compiled : HttpMatch}
    (ok : compileMatch platform input = .ok compiled) :
    compileMatch platform compiled = .ok compiled := by
  unfold compileMatch at ok
  obtain ⟨_, pathOk, _, methodOk, headers, headersOk, same⟩ := bind₃_eq_ok.mp ok
  cases same
  have pathAgain : validatePath platform
      (HttpPathMatch.path (compilePathMatch input.path)) = .ok () := by
    rw [HttpPathMatch.path_compile]
    cases shape : input.path with
    | exact path => simpa [shape, HttpPathMatch.path] using pathOk
    | pathPrefix path =>
      rw [shape] at pathOk
      exact validatePath_trimmedPrefix lawful pathOk
  have headerAgain : ∀ header ∈ retainFirst [] headers,
      compileHeader platform header = .ok (id header) := by
    intro header mem
    obtain ⟨src, _, headerOk⟩ := mapM_mem headersOk (mem_of_mem_retainFirst mem)
    obtain ⟨name, nameOk, _, valueOk, same⟩ := bind₂_eq_ok.mp headerOk
    cases same
    have nameAgain := lawful.headerNameIdem (orFail_eq_ok.mp nameOk)
    simp [compileHeader, nameAgain, rejectIf_eq_ok.mp valueOk]
  have pathIdem : compilePathMatch (compilePathMatch input.path) = compilePathMatch input.path := by
    cases input.path with
    | exact path => rfl
    | pathPrefix path => simp [compilePathMatch, trimmedPrefix_idem]
  unfold compileMatch
  simp only [pathAgain, ok_bind, rejectIf_eq_ok.mp methodOk, rejectIf_false,
    mapM_eq_ok_map headerAgain, List.map_id, retainFirst_idem, pathIdem, pure_eq_ok]

end Lawful
end Ngxora.Router
