/-
Which requests may use the cache and which responses may be stored.
-/

import Ngxora.Cache.Store

namespace Ngxora.Cache

open Text List String Http
open String (ofList)

def buildCacheKey (method uri : String) (generation routeId : UInt64) (host : String)
    (config : CacheConfig) : CacheKey where
  generation
  routeId
  host := toAsciiLowercase host
  method
  uri :=
    match config.cacheKey with
    | .uri | .normalizedUri => uri
    | .uriAndMethod => method ++ " " ++ uri

def cacheDirective (element : String) : String × Option String :=
  let directive := Text.toAsciiLowercase (Text.trim element)
  match splitOnce '=' directive with
  | none => (directive, none)
  | some (name, value) => (Text.trim name, some (Text.trimMatches '"' (Text.trim value)))

def matchesDirective (directives : List String) (element : String) : Bool :=
  let (name, value) := cacheDirective element
  directives.contains name || (name == "max-age" && value == some "0")

/-- The loop over the lines; a line that is not text is an error. -/
def anyLineMatches (directives : List String) : List HeaderValue → Except Unit Bool
  | [] => .ok false
  | value :: rest =>
    match value.toStr with
    | none => .error ()
    | some line =>
      if (Text.splitOn ',' line).any (matchesDirective directives) then .ok true
      else anyLineMatches directives rest

def hasCacheControlDirective (headers : HeaderMap) (directives : List String) : Except Unit Bool :=
  anyLineMatches directives (headers.getAll "cache-control")

def privateRequestHeaders : List String :=
  ["authorization", "cookie", "range", "if-match", "if-none-match", "if-modified-since",
    "if-unmodified-since", "if-range", "proxy-authorization"]

def pragmaAllows (value : HeaderValue) : Bool :=
  match value.toStr with
  | none => false
  | some line =>
    !(Text.splitOn ',' line).any fun element =>
      Text.eqIgnoreAsciiCase (Text.trim element) "no-cache"

def isCacheableRequest (method : String) (headers : HeaderMap) : Bool :=
  if method ≠ "GET" then false
  else if privateRequestHeaders.any headers.containsKey then false
  else
    match hasCacheControlDirective headers ["no-cache", "no-store"] with
    | .ok true | .error () => false
    | .ok false => (headers.getAll "pragma").all pragmaAllows

def isCacheable (status : UInt16) (headers : HeaderMap) (config : CacheConfig) : Bool :=
  if !config.validStatuses.contains status then false
  else
    match hasCacheControlDirective headers ["no-store", "private", "no-cache"] with
    | .ok true | .error () => false
    | .ok false => !(headers.containsKey "set-cookie" || headers.containsKey "vary")

def characters (value : HeaderValue) : List Char := value.map fun byte => Char.ofNat byte.toNat

def Blank (text : List Char) : Prop := ∀ character ∈ text, character = ' ' ∨ character = '\t'

/-- An element of a comma-separated value. -/
structure ListElement (line element : List Char) : Prop where
  single : ',' ∉ element
  inside : ∃ before after, line = before ++ element ++ after ∧
    (before = [] ∨ ∃ front, before = front ++ [',']) ∧
    (after = [] ∨ ∃ rest, after = ',' :: rest)

def Spells (word : List Char) (name : String) : Prop := word.map Char.toLower = name.toList

def HasName (element : List Char) (name : String) : Prop :=
  ∃ left word right, element = left ++ word ++ right ∧ Blank left ∧ Spells word name ∧
    (Blank right ∨ ∃ blanks value, right = blanks ++ '=' :: value ∧ Blank blanks)

def HasValue (element : List Char) (name value : String) : Prop :=
  ∃ left word blanks start text finish,
    element = left ++ word ++ blanks ++ '=' :: (start ++ text ++ finish) ∧
    Blank left ∧ Spells word name ∧ Blank blanks ∧ Blank start ∧ Blank finish ∧
    (text = value.toList ∨ text = '"' :: (value.toList ++ ['"']))

/-- The line has the directive, with or without a value. -/
def CarriesDirective (line : HeaderValue) (name : String) : Prop :=
  ∃ element, ListElement (characters line) element ∧ HasName element name

def CarriesValue (line : HeaderValue) (name value : String) : Prop :=
  ∃ element, ListElement (characters line) element ∧ HasValue element name value

def CarriesWord (line : HeaderValue) (word : String) : Prop :=
  ∃ left spelled right, ListElement (characters line) (left ++ spelled ++ right) ∧ Blank left ∧
    Spells spelled word ∧ Blank right

/-- HTTP keeps the request out of a shared cache. -/
inductive PrivateRequest (method : String) (headers : HeaderMap) : Prop where
  | method (other : method ≠ "GET")
  | header (name : String)
      (listed : name ∈ ["authorization", "cookie", "proxy-authorization", "range", "if-match",
        "if-none-match", "if-modified-since", "if-unmodified-since", "if-range"])
      (present : headers.getAll name ≠ [])
  | directive (line : HeaderValue) (present : line ∈ headers.getAll "cache-control")
      (name : String) (listed : name ∈ ["no-cache", "no-store"])
      (carried : CarriesDirective line name)
  | maxAge (line : HeaderValue) (present : line ∈ headers.getAll "cache-control")
      (carried : CarriesValue line "max-age" "0")
  | pragma (line : HeaderValue) (present : line ∈ headers.getAll "pragma")
      (carried : CarriesWord line "no-cache")

/-- HTTP keeps the response out of a shared cache. -/
inductive PrivateResponse (headers : HeaderMap) : Prop where
  | header (name : String) (listed : name ∈ ["set-cookie", "vary"])
      (present : headers.getAll name ≠ [])
  | directive (line : HeaderValue) (present : line ∈ headers.getAll "cache-control")
      (name : String) (listed : name ∈ ["no-store", "private", "no-cache"])
      (carried : CarriesDirective line name)

variable {element word left right : List Char} {name : String} {directives : List String}
  {headers : HeaderMap}

lemma ListElement.mem_splitOn {line : List Char} (listed : ListElement line element) :
    element ∈ line.splitOn ',' := by
  obtain ⟨single, before, after, rfl, starts, ends⟩ := listed
  have first : element ∈ (element ++ after).splitOn ',' := by
    rcases ends with rfl | ⟨rest, rfl⟩
    · rw [List.append_nil, List.splitOn_eq_singleton single]
      exact List.mem_singleton.mpr rfl
    · rw [List.splitOn_append_cons_self, List.splitOn_eq_singleton single]
      exact List.mem_append_left _ (List.mem_singleton.mpr rfl)
  rcases starts with rfl | ⟨front, rfl⟩
  · rwa [List.nil_append]
  · have regroup : front ++ [','] ++ element ++ after = front ++ ',' :: (element ++ after) := by simp
    rw [regroup, List.splitOn_append_cons_self]
    exact List.mem_append_right _ first

/-- A name that trimming and the search for `=` leave whole. -/
structure CleanName (name : String) : Prop where
  nonempty : name ≠ ""
  clean : ∀ character ∈ name.toList, Text.isWhitespace character = false ∧ character ≠ '='

variable {text : List Char} {line : String} {value : HeaderValue}

lemma Blank.isWhitespace (blank : Blank text) : ∀ char ∈ text, Text.isWhitespace char = true := by
  intro char mem
  rcases blank char mem with rfl | rfl
  · rfl
  · rfl

lemma Blank.map_toLower (blank : Blank text) : text.map Char.toLower = text := by
  have same : ∀ char ∈ text, char.toLower = id char := by
    intro char mem
    rcases blank char mem with rfl | rfl
    · rfl
    · rfl
  rw [List.map_congr_left same, List.map_id]

lemma Spells.isWhitespace (spells : Spells word name) (clean : CleanName name) :
    ∀ char ∈ word, Text.isWhitespace char = false := by
  intro char mem
  rw [← Text.isWhitespace_toLower]
  have inName : char.toLower ∈ name.toList := by
    rw [← spells]
    exact List.mem_map_of_mem mem
  exact (clean.clean _ inName).1

lemma Spells.ne_nil (spells : Spells word name) (clean : CleanName name) : word ≠ [] := by
  rintro rfl
  exact clean.nonempty (String.toList_eq_nil_iff.mp spells.symm)

lemma trim_surrounded {core : List Char} (leftBlank : Blank left)
    (rightBlank : Blank right) (clean : ∀ char ∈ core, Text.isWhitespace char = false) :
    Text.trimChars Text.isWhitespace (left ++ core ++ right) = core :=
  Text.trimChars_surrounded leftBlank.isWhitespace rightBlank.isWhitespace
    (fun char mem => clean char (List.mem_of_mem_head? mem))
    (fun char mem => clean char (List.mem_of_getLast? mem))

lemma lower_trim_word (clean : CleanName name) (leftBlank : Blank left)
    (spells : Spells word name) (rightBlank : Blank right) :
    Text.toAsciiLowercase (Text.trim (ofList (left ++ word ++ right))) = name := by
  rw [Text.trim, String.toList_ofList, trim_surrounded leftBlank rightBlank
    (spells.isWhitespace clean), Text.toAsciiLowercase, String.toList_ofList, spells,
    String.ofList_toList]

lemma cacheDirective_word (clean : CleanName name) (leftBlank : Blank left)
    (spells : Spells word name) (rightBlank : Blank right) :
    cacheDirective (ofList (left ++ word ++ right)) = (name, none) := by
  have lowered := lower_trim_word clean leftBlank spells rightBlank
  have plain : Text.splitOnce '=' name = none :=
    Text.splitOnce_of_notMem fun mem => (clean.clean _ mem).2 rfl
  simp only [cacheDirective, lowered, plain]

lemma cacheDirective_assignment {blanks : List Char} (value : List Char) (clean : CleanName name)
    (leftBlank : Blank left) (spells : Spells word name) (blank : Blank blanks) :
    cacheDirective (ofList (left ++ word ++ blanks ++ '=' :: value)) =
      (name, some (Text.trimMatches '"' (Text.trim (ofList
        ((value.rdropWhile Text.isWhitespace).map Char.toLower))))) := by
  set kept := value.rdropWhile isWhitespace with keptEq
  have split : value = kept ++ value.rtakeWhile isWhitespace :=
    (rdropWhile_append_rtakeWhile ..).symm
  have trimmed : trimChars isWhitespace (left ++ word ++ blanks ++ '=' :: value) =
      word ++ blanks ++ '=' :: kept := by
    have regroup : left ++ word ++ blanks ++ '=' :: value =
        left ++ (word ++ blanks ++ '=' :: kept) ++ value.rtakeWhile isWhitespace := by
      nth_rewrite 1 [split]
      simp
    rw [regroup]
    refine trimChars_surrounded leftBlank.isWhitespace
      (fun char mem => mem_rtakeWhile_imp mem) ?_ ?_
    · intro char mem
      rw [List.append_assoc, List.head?_append_of_ne_nil _ (spells.ne_nil clean)] at mem
      exact spells.isWhitespace clean char (mem_of_mem_head? mem)
    · intro char mem
      rw [getLast?_append_of_ne_nil _ (cons_ne_nil _ _)] at mem
      by_cases empty : kept = []
      · rw [empty] at mem
        cases mem
        rfl
      · rw [getLast?_cons_of_ne_nil empty, getLast?_eq_some_getLast empty] at mem
        cases mem
        have stays := rdropWhile_last_not isWhitespace value (keptEq ▸ empty)
        simpa using stays
  have name_eq : Text.trim (ofList (name.toList ++ blanks)) = name := by
    have nothing : Blank [] := fun _ mem => nomatch mem
    have core := trim_surrounded nothing blank fun char mem => (clean.clean char mem).1
    rw [Text.trim, toList_ofList, ← nil_append name.toList, core, ofList_toList]
  have noEquals : '=' ∉ name.toList ++ blanks := by
    intro mem
    rcases mem_append.mp mem with inName | inBlanks
    · exact (clean.clean _ inName).2 rfl
    · rcases blank _ inBlanks with bad | bad
      · exact absurd bad (by decide)
      · exact absurd bad (by decide)
  have lowered : Text.toAsciiLowercase (Text.trim (ofList
      (left ++ word ++ blanks ++ '=' :: value))) =
      ofList ((name.toList ++ blanks) ++ '=' :: kept.map Char.toLower) := by
    rw [Text.trim, toList_ofList, trimmed, Text.toAsciiLowercase, toList_ofList,
      map_append, map_append, spells, blank.map_toLower, map_cons]
    rfl
  simp only [cacheDirective, lowered, splitOnce_append _ noEquals, name_eq]

lemma matchesDirective_of_listed {element : String} {value : Option String}
    (read : cacheDirective element = (name, value)) (listed : name ∈ directives) :
    matchesDirective directives element = true := by
  simp [matchesDirective, read, listed]

lemma matchesDirective_of_hasName (clean : CleanName name) (listed : name ∈ directives)
    (named : HasName element name) :
    matchesDirective directives (ofList element) = true := by
  obtain ⟨left, word, right, rfl, leftBlank, spells, bare | ⟨blanks, value, rfl, blank⟩⟩ := named
  · exact matchesDirective_of_listed (cacheDirective_word clean leftBlank spells bare) listed
  · rw [← List.append_assoc]
    exact matchesDirective_of_listed
      (cacheDirective_assignment value clean leftBlank spells blank) listed

lemma cleanName_maxAge : CleanName "max-age" :=
  ⟨by decide, all_iff_forall_prop.mp (by decide)⟩

lemma matchesDirective_of_maxAge (directives : List String)
    (zero : HasValue element "max-age" "0") :
    matchesDirective directives (ofList element) = true := by
  obtain ⟨left, word, blanks, start, text, finish, rfl, leftBlank, spells, blank, startBlank,
    finishBlank, texts⟩ := zero
  have clean : ∀ char ∈ text, isWhitespace char = false := by
    rcases texts with rfl | rfl <;> exact all_iff_forall_prop.mp (by decide)
  have ne : text ≠ [] := by rcases texts with rfl | rfl <;> decide
  have kept : (start ++ text ++ finish).rdropWhile isWhitespace = start ++ text := by
    refine rdropWhile_append finishBlank.isWhitespace fun char mem => ?_
    rw [getLast?_append_of_ne_nil _ ne] at mem
    exact clean char (mem_of_getLast? mem)
  have fixed : (start ++ text).map Char.toLower = start ++ text ++ [] := by
    rw [map_append, startBlank.map_toLower, append_nil]
    rcases texts with rfl | rfl <;> rfl
  have nothing : Blank [] := fun _ mem => nomatch mem
  have value : trimMatches '"' (Text.trim (ofList (start ++ text ++ []))) = "0" := by
    rw [Text.trim, String.toList_ofList, trim_surrounded startBlank nothing clean]
    rcases texts with rfl | rfl <;> decide
  have read := cacheDirective_assignment (start ++ text ++ finish) cleanName_maxAge leftBlank spells
    blank
  rw [kept, fixed, value] at read
  simp only [matchesDirective, read, beq_self_eq_true, Bool.and_self, Bool.or_true]

lemma toStr_eq_some (readable : value.toStr = some line) : line.toList = characters value := by
  unfold HeaderValue.toStr at readable
  split at readable
  · rw [← Option.some.inj readable, String.toList_ofList, characters]
  · cases readable

lemma ListElement.mem_of_toStr (listed : ListElement (characters value) element)
    (readable : value.toStr = some line) : ofList element ∈ Text.splitOn ',' line := by
  rw [Text.splitOn, toStr_eq_some readable]
  exact List.mem_map_of_mem listed.mem_splitOn

lemma anyLineMatches_false {values : List HeaderValue}
    (none : anyLineMatches directives values = .ok false) :
    ∀ value ∈ values, ∃ line, value.toStr = some line ∧
      ∀ element ∈ Text.splitOn ',' line, matchesDirective directives element = false := by
  induction values with
  | nil => exact fun _ mem => nomatch mem
  | cons value rest ih =>
    unfold anyLineMatches at none
    split at none
    · cases none
    next line readable =>
      split at none
      · cases none
      next noMatch =>
        intro other mem
        rcases List.mem_cons.mp mem with rfl | later
        · refine ⟨line, readable, fun element listed => ?_⟩
          simpa using fun matched => noMatch (List.any_eq_true.mpr ⟨element, listed, matched⟩)
        · exact ih none other later

lemma not_carries_of_none (none : hasCacheControlDirective headers directives = .ok false)
    {line : HeaderValue} (here : line ∈ headers.getAll "cache-control") :
    (∀ name ∈ directives, CleanName name → ¬ CarriesDirective line name) ∧
      ¬ CarriesValue line "max-age" "0" := by
  obtain ⟨text, readable, noMatch⟩ := anyLineMatches_false none line here
  constructor
  · rintro name listed clean ⟨element, inLine, named⟩
    have matched := matchesDirective_of_hasName clean listed named
    rw [noMatch _ (inLine.mem_of_toStr readable)] at matched
    cases matched
  · rintro ⟨element, inLine, zero⟩
    have matched := matchesDirective_of_maxAge directives zero
    rw [noMatch _ (inLine.mem_of_toStr readable)] at matched
    cases matched

lemma not_carriesWord_of_pragmaAllows {line : HeaderValue} (allows : pragmaAllows line = true) :
    ¬ CarriesWord line "no-cache" := by
  rintro ⟨left, spelled, right, inLine, leftBlank, spells, rightBlank⟩
  have clean : CleanName "no-cache" := ⟨by decide, List.all_iff_forall_prop.mp (by decide)⟩
  unfold pragmaAllows at allows
  split at allows
  · cases allows
  next text readable =>
    have same : Text.eqIgnoreAsciiCase (Text.trim (ofList (left ++ spelled ++ right)))
        "no-cache" = true := by
      rw [Text.eqIgnoreAsciiCase, lower_trim_word clean leftBlank spells rightBlank]
      decide
    rw [Bool.not_eq_true', List.any_eq_false] at allows
    exact allows _ (inLine.mem_of_toStr readable) same

lemma not_cacheable_of_privateRequest {method : String} (hidden : PrivateRequest method headers) :
    isCacheableRequest method headers = false := by
  unfold isCacheableRequest
  split
  · rfl
  next isGet =>
    split
    · rfl
    next noHeader =>
      split
      · rfl
      · rfl
      next none =>
        cases hidden with
        | method other => exact absurd other isGet
        | header name listed here =>
          have checked : ∀ name ∈ ["authorization", "cookie", "proxy-authorization", "range",
              "if-match", "if-none-match", "if-modified-since", "if-unmodified-since",
              "if-range"], name ∈ privateRequestHeaders := by decide
          exact absurd (any_eq_true.mpr
            ⟨name, checked name listed, HeaderMap.containsKey_iff.mpr here⟩) noHeader
        | directive line here name listed carried =>
          have clean : CleanName name := by
            rcases mem_cons.mp listed with rfl | other
            · exact ⟨by decide, all_iff_forall_prop.mp (by decide)⟩
            · rw [mem_singleton.mp other]
              exact ⟨by decide, all_iff_forall_prop.mp (by decide)⟩
          exact absurd carried ((not_carries_of_none none here).1 name listed clean)
        | maxAge line here carried => exact absurd carried (not_carries_of_none none here).2
        | pragma line here carried =>
          rw [← Bool.not_eq_true, all_eq_true]
          intro allows
          exact not_carriesWord_of_pragmaAllows (allows line here) carried

lemma not_cacheable_of_privateResponse {status : UInt16} {config : CacheConfig}
    (hidden : PrivateResponse headers) : isCacheable status headers config = false := by
  unfold isCacheable
  split
  · rfl
  · split
    · rfl
    · rfl
    next none =>
      cases hidden with
      | header name listed here =>
        have contains := HeaderMap.containsKey_iff.mpr here
        simp only [mem_cons, not_mem_nil, or_false] at listed
        rcases listed with rfl | rfl
        · simp [contains]
        · simp [contains]
      | directive line here name listed carried =>
        have clean : CleanName name := by
          simp only [mem_cons, not_mem_nil, or_false] at listed
          rcases listed with rfl | rfl | rfl <;>
            exact ⟨by decide, all_iff_forall_prop.mp (by decide)⟩
        exact absurd carried ((not_carries_of_none none here).1 name listed clean)

end Ngxora.Cache
