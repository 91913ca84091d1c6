/-
A small instance of the outside libraries for plain URLs and JSON constants.
-/

import Ngxora.Base.UriParts
import Ngxora.Extern
import Ngxora.Net.IpAddrRoundTrip

namespace Ngxora.Reference

open Text List Net Digits UriParts
open String (ofList)

def isHostChar (char : Char) : Bool :=
  char.isAlphanum || char == '.' || char == '-' || char == '_'

def isPathChar (char : Char) : Bool :=
  isHostChar char || char == '/' || char == '~'

/-- A URL of a name, without a port and a query. -/
@[mk_iff]
structure Plain (parts : Parts) : Prop where
  scheme : parts.scheme = "http".toList ∨ parts.scheme = "https".toList
  named : parts.authority ≠ []
  host : parts.authority.all isHostChar = true
  path : parts.path.all isPathChar = true
  query : parts.query = none

instance (parts : Parts) : Decidable (Plain parts) := decidable_of_iff' _ (plain_iff parts)

def urlOf (parts : Parts) : Url where
  scheme := ofList parts.scheme
  host := some (ofList parts.authority)
  path := if parts.path = [] then "/" else ofList parts.path

def urlParse (text : String) : Except String Url :=
  match split text.toList with
  | some parts => if Plain parts then .ok (urlOf parts) else .error "invalid domain character"
  | none => .error "relative URL without a base"

def uriParse (text : String) : Except String Uri :=
  if text.toList.head? = some '/' ∧ text.toList.all isPathChar then
    .ok { scheme := none, authority := none, path := text }
  else .error "invalid uri character"

def pathAndQueryParses (text : String) : Bool := text.toList.all isPathChar

def headerNameFromBytes (name : String) : Option String :=
  if name ≠ "" ∧ name.toList.all fun char => char.isAlphanum || char == '-' then
    some (toAsciiLowercase name)
  else none

def headerValueFromStr (value : String) : Bool :=
  value.toList.all fun char => decide (32 ≤ char.toNat) && decide (char.toNat ≠ 127)

def methodFromBytes (method : String) : Bool :=
  !method.isEmpty && method.toList.all Char.isAlpha

def regexBuild (_caseInsensitive : Bool) (pattern : String) : Except String Unit :=
  if pattern.toList.all isPathChar then .ok () else .error "regex parse error"

def ipNetParse (text : String) : Option IpNet :=
  match text.toList.splitOn '/' with
  | [addr, length] =>
    match IpAddr.parse (ofList addr), parseUnsigned 256 (ofList length) with
    | some addr, some length =>
      if inRange : (UInt8.ofNat length).toNat ≤ addrWidth addr then
        some { addr, prefixLen := UInt8.ofNat length, inRange }
      else none
    | _, _ => none
  | _ => none

def jsonToString : Json → Except String String
  | .null => .ok "null"
  | .bool true => .ok "true"
  | .bool false => .ok "false"
  | _ => .error "not a constant"

def jsonFromStr (text : String) : Except String Json :=
  if text = "null" then .ok .null
  else if text = "true" then .ok (.bool true)
  else if text = "false" then .ok (.bool false)
  else .error "expected value"

def platform : Platform where
  urlParse
  uriParse
  pathAndQueryParses
  headerNameFromBytes
  headerValueFromStr
  methodFromBytes
  regexBuild
  ipNetParse
  jsonToString
  jsonFromStr

example : urlParse "http://backend/api" =
    .ok { scheme := "http", host := some "backend", path := "/api" } := by decide

variable {text : String} {url : Url} {parts : Parts} {char : Char}

lemma urlParse_written (fine : parts.WellFormed) (plain : Plain parts) :
    urlParse (ofList parts.written) = .ok (urlOf parts) := by
  rw [urlParse, String.toList_ofList, split_written fine]
  exact if_pos plain

lemma urlParse_eq_ok (parsed : urlParse text = .ok url) :
    ∃ parts : Parts, parts.WellFormed ∧ Plain parts ∧ url = urlOf parts := by
  unfold urlParse at parsed
  split at parsed
  case h_2 => cases parsed
  case h_1 parts found =>
    split at parsed
    case isFalse => cases parsed
    case isTrue plain =>
      cases parsed
      exact ⟨parts, (written_of_split found).1, plain, rfl⟩

lemma toList_toText (parts : Parts) : (urlOf parts).toText.toList =
    parts.scheme ++ "://".toList ++ parts.authority ++
      if parts.path = [] then ['/'] else parts.path := by
  simp [Url.toText, urlOf, Url.authority, Url.userInfo]
  split <;> simp

lemma rdropWhile_append_slashes {front : List Char}
    (kept : ∀ last, front.getLast? = some last → (last == '/') = false) :
    (front ++ path).rdropWhile (· == '/') = front ++ path.rdropWhile (· == '/') := by
  simp only [List.rdropWhile, reverse_append, dropWhile_append]
  split
  next all =>
    have unchanged : front.reverse.dropWhile (· == '/') = front.reverse := by
      cases shape : front.reverse with
      | nil => rfl
      | cons last rest =>
        have isLast : front.getLast? = some last := by rw [getLast?_eq_head?_reverse, shape]; rfl
        rw [dropWhile_cons_of_neg (by simp [kept last isLast])]
    rw [unchanged, isEmpty_iff.mp all]
    simp
  next => simp

lemma reparse_trimmed (fine : parts.WellFormed) (plain : Plain parts) :
    urlParse (trimEndMatches '/' (urlOf parts).toText) = .ok (urlOf parts).trimPath := by
  let trimmed : Parts := { parts with path := parts.path.rdropWhile (· == '/') }
  have shorter : trimmed.path <+: parts.path := rdropWhile_prefix _ _
  have trimmedPlain : Plain trimmed :=
    { plain with path := all_eq_true.mpr fun char mem =>
        all_eq_true.mp plain.path char (shorter.subset mem) }
  have rooted : (if parts.path = [] then ['/'] else parts.path).rdropWhile (· == '/') =
      trimmed.path := by
    split
    next empty =>
      simp only [trimmed, empty]
      rfl
    next => rfl
  have printed : trimEndMatches '/' (urlOf parts).toText = ofList trimmed.written := by
    have kept : ∀ last, (parts.scheme ++ "://".toList ++ parts.authority).getLast? = some last →
        (last == '/') = false := by
      intro last isLast
      rw [getLast?_append_of_ne_nil _ plain.named] at isLast
      rw [beq_eq_false_iff_ne]
      rintro rfl
      exact absurd (all_eq_true.mp plain.host _ (mem_of_getLast? isLast)) (by decide)
    rw [trimEndMatches, toList_toText, rdropWhile_append_slashes kept, rooted]
    simp [Parts.written, trimmed, plain.query, queryWritten]
  have trimmedUrl : (urlOf parts).trimPath = urlOf trimmed := by
    have path : trimEndMatches '/' (urlOf parts).path = ofList trimmed.path := by
      rw [trimEndMatches, ← rooted, urlOf]
      split <;> simp
    have empty : ofList trimmed.path = "" ↔ trimmed.path = [] := by
      rw [← String.toList_inj, String.toList_ofList]
      rfl
    simp only [Url.trimPath, path, empty]
    rfl
  rw [printed, trimmedUrl]
  exact urlParse_written (fine.shorten shorter) trimmedPlain

lemma ipNetParse_toText (network : IpNet) : ipNetParse network.toText = some network := by
  have split : network.toText.toList.splitOn '/' =
      [network.addr.display, Nat.toDigits 10 network.prefixLen.toNat] := by
    have text : network.toText.toList = ['/'].intercalate
        [network.addr.display, Nat.toDigits 10 network.prefixLen.toNat] := by
      simp [IpNet.toText, IpAddr.toText, Nat.repr, ToString.toString, intercalate_cons_cons]
    rw [text]
    apply splitOn_intercalate
    · simp only [mem_cons, not_mem_nil, or_false, forall_eq_or_imp, forall_eq]
      refine ⟨network.addr.slash_notMem_display, fun mem => ?_⟩
      exact absurd (isDigit_of_mem_toDigits (by decide) (by decide) mem) (by decide)
    · simp
  have addr : IpAddr.parse (ofList network.addr.display) = some network.addr :=
    network.addr.parse_toText
  have length : parseUnsigned 256 (ofList (Nat.toDigits 10 network.prefixLen.toNat)) =
      some network.prefixLen.toNat := parseUnsigned_toDigits network.prefixLen.toNat_lt
  unfold ipNetParse
  rw [split]
  simp only [addr, length, UInt8.ofNat_toNat, network.inRange, dite_true]

lemma isAlphanum_iff : char.isAlphanum = true ↔ ((65 ≤ char.toNat ∧ char.toNat ≤ 90) ∨
    (97 ≤ char.toNat ∧ char.toNat ≤ 122)) ∨ (48 ≤ char.toNat ∧ char.toNat ≤ 57) := by
  delta Char.isAlphanum Char.isAlpha Char.isUpper Char.isLower Char.isDigit
  simp only [Bool.or_eq_true, Bool.and_eq_true, decide_eq_true_eq, UInt32.le_iff_toNat_le,
    ge_iff_le]
  rfl

lemma isWhitespace_of_url (urlChar : isPathChar char = true ∨ char = ':') :
    isWhitespace char = false := by
  have range : 45 ≤ char.toNat ∧ char.toNat ≤ 126 := by
    simp only [isPathChar, isHostChar, Bool.or_eq_true, isAlphanum_iff, beq_iff_eq] at urlChar
    rcases urlChar with (((((alphanumeric | rfl) | rfl) | rfl) | rfl) | rfl) | rfl
    · omega
    all_goals decide
  exact isWhitespace_of_range (by omega) range.2

lemma toText_no_whitespace (plain : Plain parts) :
    ∀ char ∈ (urlOf parts).toText.toList, isWhitespace char = false := by
  have start : ∀ char ∈ parts.scheme ++ "://".toList, isPathChar char = true ∨ char = ':' := by
    rcases plain.scheme with same | same
    all_goals
      rw [same]
      exact all_iff_forall_prop.mp (by decide)
  intro char mem
  rw [toList_toText] at mem
  refine isWhitespace_of_url ?_
  rcases mem_append.mp mem with inFront | inPath
  · rcases mem_append.mp inFront with inStart | inHost
    · exact start char inStart
    · exact .inl (by simp [isPathChar, all_eq_true.mp plain.host char inHost])
  · split at inPath
    · rw [mem_singleton.mp inPath]
      exact .inl (by decide)
    · exact .inl (all_eq_true.mp plain.path char inPath)

lemma isAlphanum_toLower (token : (char.isAlphanum || char == '-') = true) :
    (char.toLower.isAlphanum || char.toLower == '-') = true := by
  simp only [Bool.or_eq_true, isAlphanum_iff, beq_iff_eq] at token ⊢
  have lowered := toNat_toLower char
  rcases token with alphanumeric | dash
  · left
    split at lowered <;> omega
  · right
    rw [dash]
    decide

lemma headerName_idem {name canonical : String}
    (ok : headerNameFromBytes name = some canonical) :
    headerNameFromBytes canonical = some canonical := by
  unfold headerNameFromBytes at ok
  split at ok
  case isFalse => cases ok
  case isTrue token =>
    have canonicalEq := Option.some.inj ok
    subst canonicalEq
    have ne : toAsciiLowercase name ≠ "" := by
      intro empty
      apply token.1
      have lists := congrArg String.toList empty
      simpa [toAsciiLowercase] using lists
    have tokens : (toAsciiLowercase name).toList.all
        (fun char => char.isAlphanum || char == '-') = true := by
      rw [toAsciiLowercase, String.toList_ofList, all_map, all_eq_true]
      intro char mem
      exact isAlphanum_toLower (all_eq_true.mp token.2 char mem)
    rw [headerNameFromBytes, if_pos ⟨ne, tokens⟩, toAsciiLowercase_idem]

/-- The instance satisfies the laws assumed of the crates. -/
lemma lawful : platform.Lawful where
  httpHost := by
    intro text url parsed _
    obtain ⟨parts, _, plain, rfl⟩ := urlParse_eq_ok parsed
    refine ⟨ofList parts.authority, rfl, ?_, toText_no_whitespace plain⟩
    intro empty
    apply plain.named
    simpa using congrArg String.toList empty
  httpPath := by
    intro text url parsed _
    obtain ⟨parts, fine, _, rfl⟩ := urlParse_eq_ok parsed
    refine ⟨?_, rfl⟩
    have rooted := fine.path
    cases path : parts.path with
    | nil => simp [urlOf, path, startsWith]
    | cons first rest =>
      have slash : first = '/' := by simpa [path] using rooted
      simp [urlOf, path, slash, startsWith]
  reparseTrimmed := by
    intro text url parsed _ _ _
    obtain ⟨parts, fine, plain, rfl⟩ := urlParse_eq_ok parsed
    have parser : platform.urlParse = urlParse := rfl
    rw [parser, reparse_trimmed fine plain]
  pathTrimmed := by
    intro path parses _
    have allPath : ∀ char ∈ path.toList, isPathChar char = true := all_eq_true.mp parses
    by_cases empty : trimEndMatches '/' path = ""
    · rw [if_pos empty]
      decide
    · rw [if_neg empty]
      apply all_eq_true.mpr
      intro char mem
      exact allPath char ((trimEndMatches_toList_isPrefix '/' path).mem mem)
  headerNameIdem := headerName_idem
  ipNetPrinted := ipNetParse_toText

end Ngxora.Reference
