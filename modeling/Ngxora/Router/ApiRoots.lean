/-
API roots. A root is printed with the parts it is determined by, so two roots with the same text are
equal.
-/

import Ngxora.Router.Scp
import Ngxora.Router.Uris

namespace Ngxora.Router

open Text Digits List Results UriParts
open String (ofList toList_ofList toList_append ofList_toList)

variable {mark char : Char} {text : List Char} {parts : Parts} {uri : Uri}

namespace ApiRoot

/-- The checks of a parsed root that do not depend on its spelling. -/
structure Valid (root : ApiRoot) : Prop where
  known : root.scheme = "http" ∨ root.scheme = "https"
  named : root.host.isEmpty = false
  relative : endsWith "." root.host = false
  positive : root.port ≠ 0
  plain : (containsText "//" root.pathPrefix ||
    (splitOn '/' root.pathPrefix).any fun part => part == "." || part == "..") = false

/-- What `parse` checks of a text and its URI. -/
structure Checks (value : String) (uri : Uri) (authority : String) (root : ApiRoot) : Prop where
  supported : unsupported value = false
  scheme : uri.scheme = some root.scheme
  hasAuthority : uri.authority = some authority
  host : hostOf uri.authorityHost = root.host
  complete : endsWith ":" authority = false
  port : portOf root.scheme authority = some root.port
  pathPrefix : trimEndMatches '/' uri.path = root.pathPrefix
  valid : Valid root

lemma parse_eq_ok {platform : Platform} {value : String} {root : ApiRoot} :
    parse platform value = .ok root ↔
      ∃ uri authority, platform.uriParse value = .ok uri ∧ Checks value uri authority root := by
  constructor
  · intro parsed
    obtain ⟨_, supported, uri, read, scheme, schemeOk, parsed⟩ := bind₃_eq_ok.mp parsed
    obtain ⟨_, known, authority, authorityOk, _, host, parsed⟩ := bind₃_eq_ok.mp parsed
    obtain ⟨port, portOk, _, pos, _, plain, same⟩ := bind₃_eq_ok.mp parsed
    cases same
    have hostChecks := rejectIf_eq_ok.mp host
    simp only [Bool.or_eq_false_iff] at hostChecks
    refine ⟨uri, authority, mapError_eq_ok.mp read, ?_⟩
    exact
      { supported := rejectIf_eq_ok.mp supported
        scheme := orFail_eq_ok.mp schemeOk
        hasAuthority := orFail_eq_ok.mp authorityOk
        host := rfl
        complete := hostChecks.2
        port := orFail_eq_ok.mp portOk
        pathPrefix := rfl
        valid :=
          { known := by simpa [Classical.or_iff_not_imp_left] using rejectIf_eq_ok.mp known
            named := hostChecks.1.1
            relative := hostChecks.1.2
            positive := by simpa using rejectIf_eq_ok.mp pos
            plain := rejectIf_eq_ok.mp plain } }
  · rintro ⟨uri, authority, read, checks⟩
    have valid := checks.valid
    have known : (root.scheme != "http" && root.scheme != "https") = false := by
      rcases valid.known with same | same
      · simp [same]
      · simp [same]
    have host : (root.host.isEmpty || endsWith "." root.host || endsWith ":" authority) = false := by
      rw [valid.named, valid.relative, checks.complete]
      rfl
    have pos : (root.port == 0) = false := by simpa using valid.positive
    simp only [parse, checks.supported, read, rejectIf_false, Except.mapError, ok_bind,
      checks.scheme, checks.hasAuthority, orFail_some, known, checks.host, host, checks.port, pos,
      checks.pathPrefix, valid.plain]
    rfl

variable {marks before : List Char} {root : ApiRoot} {value : String}

private lemma afterMark_cons {first : Char} {rest : List Char} (ne : first ≠ mark) :
    afterMark (mark :: marks) (first :: rest) = afterMark (mark :: marks) rest := by
  rw [afterMark]
  exact if_neg (by simp [Ne.symm ne])

lemma afterMark_append (marks : List Char) (rest : List Char) (absent : mark ∉ before) :
    afterMark (mark :: marks) (before ++ rest) = afterMark (mark :: marks) rest := by
  induction before with
  | nil => rfl
  | cons first others ih =>
    rw [mem_cons, not_or] at absent
    rw [cons_append, afterMark_cons (Ne.symm absent.1), ih absent.2]

lemma afterMark_found (marks : List Char) (after : List Char) (absent : mark ∉ before) :
    afterMark (mark :: marks) (before ++ (mark :: marks ++ after)) = some after := by
  rw [afterMark_append _ _ absent, cons_append, afterMark]
  simp

lemma afterMark_none (absent : mark ∉ text) : afterMark (mark :: marks) text = none := by
  have found := afterMark_append marks [] absent
  rwa [append_nil] at found

/-- The text between brackets. -/
def bare (text : List Char) : List Char := (text.dropWhile (· == '[')).rdropWhile (· == ']')

private lemma hostOf_toList (text : List Char) :
    (hostOf (ofList text)).toList = (bare text).map Char.toLower := by
  simp only [hostOf, toAsciiLowercase, trimEndMatches, toList_ofList, bare]

private lemma bare_subset (text : List Char) : bare text ⊆ text := by
  have front : bare text <+: text.dropWhile (· == '[') := rdropWhile_prefix _ _
  exact fun char mem => (dropWhile_suffix _).subset (front.subset mem)

lemma bare_bracketed (inner : List Char) : bare ('[' :: (inner ++ [']'])) = bare inner := by
  have front : (inner ++ [']']).dropWhile (· == '[') = inner.dropWhile (· == '[') ++ [']'] := by
    rw [dropWhile_append]
    split
    next empty =>
      rw [isEmpty_iff.mp empty]
      rfl
    next => rfl
  rw [bare, dropWhile_cons_of_pos (by decide), front, rdropWhile_concat_pos _ _ _ (by decide), bare]

lemma bare_eq_self (first : text.head? ≠ some '[') (last : text.getLast? ≠ some ']') :
    bare text = text := by
  have front : text.dropWhile (· == '[') = text := by
    cases text with
    | nil => rfl
    | cons char rest => exact dropWhile_cons_of_neg (by simpa using first)
  rw [bare, front, rdropWhile_eq_self_iff]
  intro ne closing
  rw [getLast?_eq_some_getLast ne] at last
  exact last (congrArg some (eq_of_beq closing))

private lemma bare_first (text : List Char) : (bare text).head? ≠ some '[' := by
  intro opening
  have front : bare text <+: text.dropWhile (· == '[') := rdropWhile_prefix _ _
  obtain ⟨more, whole⟩ := front
  have head := head?_dropWhile_not (· == '[') text
  rw [← whole, head?_append, opening] at head
  simp at head

private lemma bare_last (text : List Char) : (bare text).getLast? ≠ some ']' := by
  intro closing
  have ne : bare text ≠ [] := by
    intro empty
    rw [empty] at closing
    cases closing
  have last := rdropWhile_last_not (· == ']') _ ne
  rw [getLast?_eq_some_getLast ne] at closing
  exact last (beq_iff_eq.mpr (Option.some.inj closing))

/-- The bare host is a part of the authority; with a colon in it, it stood between brackets. -/
private lemma bare_hostPart (authority : List Char) : bare (hostPart authority) ⊆ authority ∧
    (':' ∈ bare (hostPart authority) → ']' ∉ bare (hostPart authority)) := by
  unfold hostPart
  split
  next rest =>
    rw [bare_bracketed]
    have inside := bare_subset (rest.takeWhile (· ≠ ']'))
    refine ⟨fun char mem => mem_cons_of_mem _ ((takeWhile_sublist _).subset (inside mem)), ?_⟩
    intro _ closing
    exact absurd (mem_takeWhile_imp (inside closing)) (by decide)
  next =>
    have inside := bare_subset (authority.takeWhile (· ≠ ':'))
    refine ⟨fun char mem => (takeWhile_sublist _).subset (inside mem), fun colon => ?_⟩
    exact absurd (mem_takeWhile_imp (inside colon)) (by decide)

/-- The parts of a text that parses to the root. -/
structure Spells (parts : Parts) (root : ApiRoot) : Prop where
  scheme : root.scheme.toList = parts.scheme.map Char.toLower
  host : root.host.toList = (bare (hostPart parts.authority)).map Char.toLower
  port : portOf root.scheme (ofList parts.authority) = some root.port
  pathPrefix : root.pathPrefix.toList = parts.path.rdropWhile (· == '/')

lemma Spells.path_shorter (spells : Spells parts root) :
    root.pathPrefix.toList <+: parts.path := by
  rw [spells.pathPrefix]
  exact rdropWhile_prefix _ _

/-- The parts determine the root. -/
private lemma Spells.unique {other : ApiRoot} (spells : Spells parts root)
    (others : Spells parts other) : root = other := by
  have scheme : root.scheme = other.scheme :=
    String.toList_inj.mp (spells.scheme.trans others.scheme.symm)
  have host : root.host = other.host := String.toList_inj.mp (spells.host.trans others.host.symm)
  have path : root.pathPrefix = other.pathPrefix :=
    String.toList_inj.mp (spells.pathPrefix.trans others.pathPrefix.symm)
  have port : root.port = other.port := by
    have same := spells.port
    rw [scheme, others.port] at same
    exact (Option.some.inj same).symm
  cases root
  cases other
  simp_all

private lemma trimmed_path (parts : Parts) :
    (trimEndMatches '/' (uriOf parts).path).toList = parts.path.rdropWhile (· == '/') := by
  rw [path_uriOf, trimEndMatches, toList_ofList]
  split
  next empty =>
    rw [empty]
    rfl
  next => rw [toList_ofList]

private lemma checks_iff :
    (∃ authority, Checks (ofList parts.written) (uriOf parts) authority root) ↔
      Spells parts root ∧ Valid root ∧ unsupported (ofList parts.written) = false ∧
        endsWith ":" (ofList parts.authority) = false := by
  constructor
  · rintro ⟨authority, checks⟩
    have same : ofList parts.authority = authority := Option.some.inj checks.hasAuthority
    subst same
    have spells : Spells parts root :=
      { scheme := by rw [← Option.some.inj checks.scheme, toList_ofList]
        host := by rw [← checks.host, uriOf, hostOf_toList]
        port := checks.port
        pathPrefix := by rw [← checks.pathPrefix, trimmed_path] }
    exact ⟨spells, checks.valid, checks.supported, checks.complete⟩
  · rintro ⟨spells, valid, supported, complete⟩
    exact ⟨ofList parts.authority,
      { supported
        scheme := by rw [uriOf, ← spells.scheme, ofList_toList]
        hasAuthority := rfl
        host := by rw [← String.toList_inj, uriOf, hostOf_toList, spells.host]
        complete
        port := spells.port
        pathPrefix := by rw [← String.toList_inj, trimmed_path, spells.pathPrefix]
        valid }⟩

def hostText (root : ApiRoot) : List Char :=
  if ':' ∈ root.host.toList then '[' :: (root.host.toList ++ [']']) else root.host.toList

def portText (root : ApiRoot) : List Char :=
  if root.port = defaultPort root.scheme then [] else ':' :: Nat.toDigits 10 root.port.toNat

lemma authority_toList (root : ApiRoot) :
    root.authority.toList = hostText root ++ portText root := by
  have digits : (toString root.port.toNat).toList = Nat.toDigits 10 root.port.toNat :=
    toList_ofList
  have host : (if contains ':' root.host then "[" ++ root.host ++ "]" else root.host).toList =
      hostText root := by
    by_cases colon : ':' ∈ root.host.toList
    · have contains : contains ':' root.host = true := contains_iff_mem.mpr colon
      simp only [contains, if_true, hostText, if_pos colon, toList_append]
      rfl
    · have lacks : ¬contains ':' root.host = true := fun contains =>
        colon (contains_iff_mem.mp contains)
      rw [if_neg lacks, hostText, if_neg colon]
  simp only [authority, portText, ← host]
  by_cases standard : root.port = defaultPort root.scheme
  · rw [if_pos standard, if_pos standard, append_nil]
  · rw [if_neg standard, if_neg standard, ← digits]
    simp only [toList_append, append_assoc]
    rfl

/-- The parts of the printed root. -/
def canonical (root : ApiRoot) : Parts where
  scheme := root.scheme.toList
  authority := root.authority.toList
  path := root.pathPrefix.toList
  query := none

lemma value_eq (root : ApiRoot) : root.value = ofList (canonical root).written := by
  rw [← String.toList_inj, toList_ofList, value, Parts.written]
  simp only [toList_append, append_assoc, canonical, queryWritten, append_nil]
  rfl

/-- A character that `parse` does not refuse. -/
def Supported (char : Char) : Prop :=
  32 < char.toNat ∧ char.toNat < 127 ∧ char ∉ ['\\', '%', '?', '#', '@']

lemma unsupported_eq_false : unsupported value = false ↔
    value.toList.length ≤ 2048 ∧ ∀ char ∈ value.toList, Supported char := by
  have each : (value.toList.any fun char => decide (char.toNat ≤ 32) ||
      decide (char.toNat ≥ 127) || ['\\', '%', '?', '#', '@'].contains char) = false ↔
        ∀ char ∈ value.toList, Supported char := by
    simp only [any_eq_false, Bool.or_eq_true, decide_eq_true_eq, contains_iff_mem,
      not_or, not_le, ge_iff_le, Supported, and_assoc]
  unfold unsupported
  rw [Bool.or_eq_false_iff, each, decide_eq_false_iff_not, not_lt]
  constructor
  · rintro ⟨short, supported⟩
    rw [byteLength_ascii fun char mem => (supported char mem).2.1.trans (by decide)] at short
    exact ⟨short, supported⟩
  · rintro ⟨short, supported⟩
    rw [byteLength_ascii fun char mem => (supported char mem).2.1.trans (by decide)]
    exact ⟨short, supported⟩

private lemma Supported.toLower (supported : Supported char) : Supported char.toLower := by
  have code := toNat_toLower char
  obtain ⟨low, high, plain⟩ := supported
  refine ⟨?_, ?_, ?_⟩
  · rw [code]
    split
    · omega
    · exact low
  · rw [code]
    split
    · omega
    · exact high
  · intro special
    have same : char = char.toLower := by
      simp only [mem_cons, not_mem_nil, or_false] at special
      rcases special with mark | mark | mark | mark | mark
      all_goals
        rw [mark]
        exact (toLower_eq_iff (by decide)).mp mark
    exact plain (same ▸ special)

private lemma supported_of_digit (digit : char.isDigit = true) : Supported char := by
  have range : 48 ≤ char.toNat ∧ char.toNat ≤ 57 := by
    simpa [Char.isDigit, UInt32.le_iff_toNat_le] using digit
  refine ⟨by omega, by omega, ?_⟩
  intro special
  simp only [mem_cons, not_mem_nil, or_false] at special
  rcases special with rfl | rfl | rfl | rfl | rfl
  all_goals exact absurd range (by decide)

lemma startsWith_bracket : startsWith "[" (ofList text) = true ↔ text.head? = some '[' := by
  have read : (ofList text).toList = text := toList_ofList
  rw [startsWith_iff, read]
  constructor
  · rintro ⟨rest, rfl⟩
    rfl
  · intro first
    obtain ⟨rest, rfl⟩ := head?_eq_some_iff.mp first
    exact ⟨rest, rfl⟩

lemma rawPort_literal (first : text.head? = some '[') :
    rawPort (ofList text) = (afterMark [']', ':'] text).map ofList := by
  simp only [rawPort, startsWith_bracket.mpr first, if_true, toList_ofList]
  rfl

lemma rawPort_name (first : text.head? ≠ some '[') :
    rawPort (ofList text) = (afterMark [':'] text).map ofList := by
  have starts : startsWith "[" (ofList text) ≠ true := fun starts =>
    first (startsWith_bracket.mp starts)
  simp only [rawPort, if_neg starts, toList_ofList]
  rfl

private lemma head_portText (root : ApiRoot) (first : (portText root).head? = some char) :
    char = ':' := by
  unfold portText at first
  split at first
  · cases first
  · exact (Option.some.inj first).symm

lemma mem_authority (root : ApiRoot) (mem : char ∈ root.authority.toList) :
    char ∈ root.host.toList ∨ char ∈ ['[', ']', ':'] ∨ char.isDigit = true := by
  rw [authority_toList, mem_append, hostText, portText] at mem
  rcases mem with inHost | inPort
  · split at inHost
    · simp only [mem_cons, mem_append, not_mem_nil, or_false] at inHost ⊢
      tauto
    · exact .inl inHost
  · split at inPort
    · cases inPort
    · rcases mem_cons.mp inPort with colon | digit
      · exact .inr (.inl (by simp [colon]))
      · exact .inr (.inr (Nat.isDigit_of_mem_toDigits (by decide) (by decide) digit))

section Canonical

variable (spells : Spells parts root)

include spells

private lemma host_first : root.host.toList.head? ≠ some '[' := by
  rw [spells.host, head?_map]
  intro found
  obtain ⟨char, first, same⟩ := Option.map_eq_some_iff.mp found
  exact bare_first _ ((toLower_eq_iff (by decide)).mp same ▸ first)

private lemma host_last : root.host.toList.getLast? ≠ some ']' := by
  rw [spells.host, getLast?_map]
  intro found
  obtain ⟨char, last, same⟩ := Option.map_eq_some_iff.mp found
  exact bare_last _ ((toLower_eq_iff (by decide)).mp same ▸ last)

private lemma host_lower : root.host.toList.map Char.toLower = root.host.toList := by
  rw [spells.host, map_map]
  exact map_congr_left fun char _ => toLower_toLower char

private lemma mem_host (mem : char ∈ root.host.toList) :
    ∃ original ∈ parts.authority, original.toLower = char := by
  rw [spells.host] at mem
  obtain ⟨original, inside, same⟩ := mem_map.mp mem
  exact ⟨original, (bare_hostPart _).1 inside, same⟩

private lemma host_closing (colon : ':' ∈ root.host.toList) : ']' ∉ root.host.toList := by
  rw [spells.host, mem_map_toLower (by decide)] at colon ⊢
  exact (bare_hostPart _).2 colon

lemma hostPart_hostText {rest : List Char}
    (stop : ∀ char, rest.head? = some char → char = ':') :
    hostPart (hostText root ++ rest) = hostText root := by
  unfold hostText
  split
  next colon =>
    rw [cons_append, append_assoc, singleton_append, hostPart_literal (host_closing spells colon)]
  next plain =>
    refine hostPart_name plain ?_ stop
    have first := host_first spells
    cases host : root.host.toList with
    | cons char others => rwa [host] at first
    | nil => exact fun opening => absurd (stop _ opening) (by decide)

private lemma bare_hostText : bare (hostText root) = root.host.toList := by
  have self := bare_eq_self (host_first spells) (host_last spells)
  unfold hostText
  split
  · rw [bare_bracketed, self]
  · exact self

private lemma rawPort_authority : rawPort root.authority =
    if root.port = defaultPort root.scheme then none
    else some (ofList (Nat.toDigits 10 root.port.toNat)) := by
  rw [← ofList_toList (s := root.authority), authority_toList, hostText, portText]
  by_cases colon : ':' ∈ root.host.toList
  · have closing : ']' ∉ '[' :: root.host.toList := by
      rw [mem_cons, not_or]
      exact ⟨by decide, host_closing spells colon⟩
    rw [if_pos colon, rawPort_literal rfl]
    split
    · rw [append_nil, ← cons_append, afterMark_append _ _ closing]
      rfl
    · have found := afterMark_found [':'] (Nat.toDigits 10 root.port.toNat) closing
      simp only [cons_append, append_assoc, nil_append] at found ⊢
      rw [found]
      rfl
  · have first : (root.host.toList ++ portText root).head? ≠ some '[' := by
      rw [head?_append]
      cases host : root.host.toList.head? with
      | some char =>
        rw [Option.some_or, ← host]
        exact host_first spells
      | none => exact fun opening => absurd (head_portText root opening) (by decide)
    rw [portText] at first
    rw [if_neg colon, rawPort_name first]
    split
    · rw [append_nil, afterMark_none colon]
      rfl
    · have found := afterMark_found [] (Nat.toDigits 10 root.port.toNat) colon
      rw [cons_append, nil_append] at found
      rw [found]
      rfl

lemma canonical_spells : Spells (canonical root) root where
  scheme := by
    change root.scheme.toList = root.scheme.toList.map Char.toLower
    rw [spells.scheme, map_map]
    exact map_congr_left fun char _ => (toLower_toLower char).symm
  host := by
    change root.host.toList = (bare (hostPart root.authority.toList)).map Char.toLower
    rw [authority_toList, hostPart_hostText spells fun _ => head_portText root,
      bare_hostText spells, host_lower spells]
  port := by
    change portOf root.scheme (ofList root.authority.toList) = some root.port
    rw [ofList_toList, portOf, rawPort_authority spells]
    by_cases standard : root.port = defaultPort root.scheme
    · rw [if_pos standard, standard]
    · have small : root.port.toNat < 2 ^ 16 := root.port.toNat_lt
      rw [if_neg standard]
      simp only [parseU16, parseUnsigned_toDigits small, Option.map_some, UInt16.ofNat_toNat]
  pathPrefix := by
    change root.pathPrefix.toList = root.pathPrefix.toList.rdropWhile (· == '/')
    rw [spells.pathPrefix, rdropWhile_idempotent]

private lemma canonical_wellFormed (fine : parts.WellFormed)
    (known : root.scheme = "http" ∨ root.scheme = "https") : (canonical root).WellFormed where
  scheme := by
    change ':' ∉ root.scheme.toList
    rcases known with same | same
    · rw [same]
      decide
    · rw [same]
      decide
  authority := by
    refine any_eq_false.mpr fun mark mem ends => ?_
    have others : mark ∉ ['[', ']', ':'] ∧ mark.isDigit ≠ true ∧
        ¬(65 ≤ mark.toNat ∧ mark.toNat ≤ 90 ∨ 97 ≤ mark.toNat ∧ mark.toNat ≤ 122) := by
      simp only [endsAuthority, contains_iff_mem, mem_cons, not_mem_nil, or_false] at ends
      rcases ends with rfl | rfl | rfl
      all_goals decide
    rcases mem_authority root mem with inHost | special | digit
    · obtain ⟨original, inside, same⟩ := mem_host spells inHost
      rw [(toLower_eq_iff others.2.2).mp same] at inside
      exact any_eq_false.mp fine.authority mark inside ends
    · exact others.1 special
    · exact others.2.1 digit
  path := (fine.shorten spells.path_shorter).path
  pathPlain := (fine.shorten spells.path_shorter).pathPlain
  queryPlain := not_mem_nil

private lemma canonical_supported (supported : ∀ char ∈ parts.written, Supported char) :
    ∀ char ∈ (canonical root).written, Supported char := by
  have marks : ∀ mark ∈ ['[', ']', ':', '/'], Supported mark := by
    intro mark special
    simp only [mem_cons, not_mem_nil, or_false] at special
    rcases special with rfl | rfl | rfl | rfl
    all_goals exact ⟨by decide, by decide, by decide⟩
  have scheme : ∀ char ∈ root.scheme.toList, Supported char := by
    intro char mem
    rw [spells.scheme] at mem
    obtain ⟨original, inside, rfl⟩ := mem_map.mp mem
    exact (supported original (mem_append_left _ inside)).toLower
  intro char mem
  simp only [Parts.written, canonical, queryWritten, append_nil, mem_append, mem_cons] at mem
  rcases mem with inScheme | rfl | rfl | rfl | inAuthority | inPath
  · exact scheme char inScheme
  · exact marks _ (by simp)
  · exact marks _ (by simp)
  · exact marks _ (by simp)
  · rcases mem_authority root inAuthority with inHost | special | digit
    · obtain ⟨original, inside, rfl⟩ := mem_host spells inHost
      exact (supported original (by simp [Parts.written, inside])).toLower
    · exact marks char (mem_append_left ['/'] special)
    · exact supported_of_digit digit
  · exact supported char (by simp [Parts.written, spells.path_shorter.subset inPath])

end Canonical

private lemma complete_authority (root : ApiRoot) :
    endsWith ":" root.authority = false := by
  have mark : ":" = String.singleton ':' := rfl
  rw [mark, endsWith_singleton, authority_toList, portText]
  intro last
  split at last
  · rw [append_nil, hostText] at last
    split at last
    next =>
      rw [← cons_append, getLast?_concat] at last
      exact absurd last (by decide)
    next plain => exact plain (mem_of_getLast? last)
  · rw [getLast?_append_of_ne_nil _ (cons_ne_nil _ _)] at last
    have digits := Nat.toDigits_ne_nil (b := 10) (n := root.port.toNat)
    rw [getLast?_cons_of_ne_nil digits] at last
    have digit := isDigit_of_mem_toDigits (by decide) (by decide) (mem_of_getLast? last)
    exact absurd digit (by decide)

/-- A value that parses, with its parts. -/
structure Parsed (platform : Platform) (value : String) (root : ApiRoot) (uri : Uri)
    (parts : Parts) : Prop where
  uriOk : platform.uriParse value = .ok uri
  written : value = ofList parts.written
  fine : parts.WellFormed
  read : uri = uriOf parts
  spells : Spells parts root
  supported : parts.written.length ≤ 2048 ∧ ∀ char ∈ parts.written, Supported char
  valid : Valid root

lemma isHttp_of_known {scheme : String} (known : scheme = "http" ∨ scheme = "https") :
    IsHttp scheme.toList := by
  rcases known with same | same
  · exact .inl (congrArg String.toList same)
  · exact .inr (congrArg String.toList same)

lemma plain_of_supported (supported : ∀ char ∈ parts.written, Supported char)
    (special : mark ∈ ['\\', '%', '?', '#', '@']) : mark ∉ parts.authority :=
  fun mem => (supported mark (by simp [Parts.written, mem])).2.2 special

namespace Parsed

variable {platform : Platform} (parsed : Parsed platform value root uri parts)

include parsed

lemma canonical_fine : (canonical root).WellFormed :=
  canonical_wellFormed parsed.spells parsed.fine parsed.valid.known

lemma canonical_plain (special : mark ∈ ['\\', '%', '?', '#', '@']) :
    mark ∉ (canonical root).authority :=
  plain_of_supported (canonical_supported parsed.spells parsed.supported.2) special

lemma canonical_http : IsHttp ((canonical root).scheme.map Char.toLower) := by
  rw [← (canonical_spells parsed.spells).scheme]
  exact isHttp_of_known parsed.valid.known

end Parsed

section Parsing

variable {platform : Platform} (splits : SplitsUris platform)

include splits

lemma exists_parts (ok : parse platform value = .ok root) :
    ∃ uri parts, Parsed platform value root uri parts := by
  obtain ⟨uri, authority, uriOk, checks⟩ := parse_eq_ok.mp ok
  have http : IsHttp root.scheme.toList := isHttp_of_known checks.valid.known
  have supported := unsupported_eq_false.mp checks.supported
  have plain : '#' ∉ value.toList := fun mem => (supported.2 _ mem).2.2 (by decide)
  rcases splits.written uriOk checks.scheme http checks.hasAuthority plain with
    ⟨parts, fine, scheme, rfl⟩
  rw [toList_ofList] at supported
  have read : uri = uriOf parts :=
    splits.reads fine (plain_of_supported supported.2 (by decide)) (scheme ▸ http) uriOk
  have spells := (checks_iff.mp ⟨authority, read ▸ checks⟩).1
  exact ⟨uri, parts, uriOk, rfl, fine, read, spells, supported, checks.valid⟩

/-- The printed root parses to the root when `http::Uri` accepts it. -/
lemma parse_printed {printed : Uri} (parsed : Parsed platform value root uri parts)
    (short : (canonical root).written.length ≤ 2048)
    (printedOk : platform.uriParse root.value = .ok printed) :
    parse platform root.value = .ok root := by
  rw [value_eq] at printedOk ⊢
  have read := splits.reads parsed.canonical_fine (parsed.canonical_plain (by decide))
    parsed.canonical_http printedOk
  have supported : unsupported (ofList (canonical root).written) = false := by
    rw [unsupported_eq_false, toList_ofList]
    exact ⟨short, canonical_supported parsed.spells parsed.supported.2⟩
  have complete : endsWith ":" (ofList (canonical root).authority) = false := by
    change endsWith ":" (ofList root.authority.toList) = false
    rw [ofList_toList, complete_authority]
  obtain ⟨authority, checks⟩ :=
    checks_iff.mpr ⟨canonical_spells parsed.spells, parsed.valid, supported, complete⟩
  exact parse_eq_ok.mpr ⟨printed, authority, printedOk, read ▸ checks⟩

lemma value_injective {other : String} {otherRoot : ApiRoot}
    (ok : parse platform value = .ok root) (otherOk : parse platform other = .ok otherRoot)
    (same : root.value = otherRoot.value) : root = otherRoot := by
  obtain ⟨_, _, parsed⟩ := exists_parts splits ok
  obtain ⟨_, _, otherParsed⟩ := exists_parts splits otherOk
  rw [value_eq, value_eq, String.ofList_inj] at same
  -- the printed texts have the same parts, and these determine the root
  have parts : canonical root = canonical otherRoot := by
    have found := split_written parsed.canonical_fine
    rw [same, split_written otherParsed.canonical_fine] at found
    exact (Option.some.inj found).symm
  have spells := canonical_spells otherParsed.spells
  rw [← parts] at spells
  exact (canonical_spells parsed.spells).unique spells

end Parsing

end ApiRoot

end Ngxora.Router
