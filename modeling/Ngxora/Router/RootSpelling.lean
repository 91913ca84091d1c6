/-
The spelling of API roots. A printed root parses to the root, unless the host was a name that ended
in a bracket: the bracket is dropped and the one it closed is kept.
-/

import Ngxora.Router.ApiRoots

namespace Ngxora.Router.ApiRoot

open Text Digits List UriParts
open String (ofList toList_ofList)

variable {platform : Platform} {authorityOk pathOk : List Char → Prop} {parts : Parts} {uri : Uri}
  {root : ApiRoot} {value : String}

private lemma raw_of_parseU16 {raw : String} {port : UInt16} (parsed : parseU16 raw = some port) :
    ']' ∉ raw.toList ∧ (Nat.toDigits 10 port.toNat).length ≤ raw.toList.length := by
  obtain ⟨number, found, same⟩ := Option.map_eq_some_iff.mp parsed
  obtain ⟨shorter, digits⟩ := shape_of_parseUnsigned found
  constructor
  · intro closing
    rcases digits _ closing with plus | digit
    · exact absurd plus (by decide)
    · exact absurd digit (by decide)
  · rwa [← same, UInt16.toNat_ofNat_of_lt' (parseUnsigned_lt found)]

/-- The host and what follows it. -/
private lemma split_authority (spells : Spells parts root) (balanced : Balanced parts.authority)
    (host : (hostPart parts.authority).head? = some '[' ∨
      (hostPart parts.authority).getLast? ≠ some ']') :
    ∃ host rest, parts.authority = host ++ rest ∧ hostPart parts.authority = host ∧ ']' ∉ rest ∧
      (∀ raw, rawPort (ofList parts.authority) = some raw → rest = ':' :: raw.toList) ∧
      (host = '[' :: (bare host ++ [']']) ∨ ':' ∉ host ∧ bare host = host) := by
  have port := spells.port
  rw [head_hostPart] at host
  generalize parts.authority = authority at *
  by_cases first : authority.head? = some '['
  · obtain ⟨more, rfl⟩ := head?_eq_some_iff.mp first
    have closed : ']' ∈ more := by
      by_contra absent
      have filtered : filter isBracket ('[' :: more) = '[' :: filter isBracket more :=
        filter_cons_of_pos rfl
      rw [Balanced, filtered] at balanced
      have pair := (List.cons.inj (balanced.resolve_left (cons_ne_nil _ _))).2
      exact absent (mem_filter.mp (pair.symm ▸ mem_singleton_self ']')).1
    obtain ⟨inner, rest, rfl⟩ := append_of_mem closed
    rw [← cons_append] at balanced
    obtain ⟨inside, after⟩ := pair_of_balanced balanced
    rw [filter_cons_of_pos rfl] at inside
    obtain ⟨opening, closing⟩ := filter_bracket_eq_nil.mp (List.cons.inj inside).2
    have clear := (filter_bracket_eq_nil.mp after).2
    have same : bare inner = inner := bare_eq_self
      (fun first => opening (mem_of_head? first)) (fun last => closing (mem_of_getLast? last))
    refine ⟨'[' :: (inner ++ [']']), rest, by simp, hostPart_literal closing rest, clear, ?_, ?_⟩
    · intro raw found
      have front : ']' ∉ '[' :: inner := by
        rw [mem_cons, not_or]
        exact ⟨by decide, closing⟩
      rw [rawPort_literal first, ← cons_append, afterMark_append _ _ front, afterMark,
        afterMark_none clear] at found
      split at found
      next starts =>
        obtain ⟨after, same⟩ := isPrefixOf_iff_prefix.mp starts
        cases same
        cases found
        rw [toList_ofList]
        rfl
      next => cases found
    · exact .inl (by rw [bare_bracketed, same])
  · have whole : authority.takeWhile (· ≠ ':') ++ authority.dropWhile (· ≠ ':') = authority :=
      takeWhile_append_dropWhile
    have colon : ':' ∉ authority.takeWhile (· ≠ ':') := fun mem =>
      absurd (mem_takeWhile_imp mem) (by decide)
    have name := hostPart_of_name first
    have last := host.resolve_left first
    rw [name] at last
    have unopened : (authority.takeWhile (· ≠ ':')).head? ≠ some '[' := by
      rw [← name, ne_eq, head_hostPart]
      exact first
    have same := bare_eq_self unopened last
    have read := rawPort_name first
    cases rest : authority.dropWhile (· ≠ ':') with
    | nil =>
      rw [rest, append_nil] at whole
      rw [whole] at colon same
      rw [afterMark_none colon] at read
      rw [read]
      exact ⟨authority, [], (append_nil _).symm, name.trans whole, not_mem_nil,
        (fun _ bad => by simp at bad), .inr ⟨colon, same⟩⟩
    | cons char raw =>
      have mark := head?_dropWhile_not (fun char => decide (char ≠ ':')) authority
      rw [rest, head?_cons] at mark
      obtain rfl : char = ':' := by simpa using mark
      rw [rest] at whole
      have found := afterMark_found [] raw colon
      rw [cons_append, nil_append, whole] at found
      rw [found, Option.map_some] at read
      rw [portOf, read] at port
      have closing := (raw_of_parseU16 port).1
      rw [toList_ofList] at closing
      refine ⟨_, ':' :: raw, whole.symm, name, ?_, ?_, .inr ⟨colon, same⟩⟩
      · rw [mem_cons, not_or]
        exact ⟨by decide, closing⟩
      · intro other same
        rw [read] at same
        cases same
        rw [toList_ofList]

private lemma canonical_accepted (accepts : AcceptsUris platform authorityOk pathOk)
    (spells : Spells parts root) (named : root.host.isEmpty = false)
    (ok : authorityOk parts.authority) (host : (hostPart parts.authority).head? = some '[' ∨
      (hostPart parts.authority).getLast? ≠ some ']') :
    authorityOk root.authority.toList ∧
      root.authority.toList.length ≤ parts.authority.length := by
  obtain ⟨host, rest, whole, isHost, closing, raw, shape⟩ :=
    split_authority spells (accepts.balanced ok) host
  have lowered := spells.host
  rw [isHost] at lowered
  have ne : root.host.toList ≠ [] := by simpa [String.isEmpty_iff] using named
  have filled : host ≠ [] := by
    rintro rfl
    exact ne lowered
  rw [whole] at ok isHost
  have hostOk := accepts.lowered (accepts.host ok isHost filled closing)
  have textOk : authorityOk (hostText root) ∧ (hostText root).length ≤ host.length := by
    rcases shape with literal | ⟨colon, name⟩
    · have bracketed : host.map Char.toLower = '[' :: (root.host.toList ++ [']']) := by
        rw [literal, map_cons, map_append, ← lowered]
        rfl
      have length := congrArg List.length bracketed
      rw [length_map, length_cons, length_append, length_singleton] at length
      rw [bracketed] at hostOk
      unfold hostText
      split
      next =>
        refine ⟨hostOk, ?_⟩
        rw [length_cons, length_append, length_singleton, length]
      next plain => exact ⟨accepts.unbracketed hostOk ne plain, by omega⟩
    · rw [name] at lowered
      have plain : ':' ∉ root.host.toList := by rwa [lowered, mem_map_toLower (by decide)]
      rw [hostText, if_neg plain, lowered, length_map]
      exact ⟨hostOk, Nat.le_refl _⟩
  have port := spells.port
  rw [authority_toList, whole, length_append, length_append, portText]
  by_cases standard : root.port = defaultPort root.scheme
  · rw [if_pos standard, append_nil, length_nil]
    exact ⟨textOk.1, by omega⟩
  · rw [if_neg standard]
    have own : hostPart (hostText root ++ []) = hostText root :=
      hostPart_hostText spells (by simp)
    rw [append_nil] at own
    refine ⟨accepts.port textOk.1 own Nat.toDigits_ne_nil fun digit mem =>
      isDigit_of_mem_toDigits (by decide) (by decide) mem, ?_⟩
    unfold portOf at port
    split at port
    next text found =>
      have shorter := (raw_of_parseU16 port).2
      rw [raw text found, length_cons, length_cons]
      omega
    next => exact absurd (Option.some.inj port).symm standard

/-- A name that loses its closing bracket keeps the opening one. -/
private lemma not_balanced (spells : Spells parts root) (balanced : Balanced parts.authority)
    (first : (hostPart parts.authority).head? ≠ some '[')
    (last : (hostPart parts.authority).getLast? = some ']') :
    ¬ Balanced root.authority.toList := by
  have name := hostPart_of_name fun opening => first (head_hostPart.mpr opening)
  have lowered := spells.host
  obtain ⟨base, isBase⟩ := getLast?_eq_some_iff.mp last
  have colon : ':' ∉ base := by
    intro mem
    have inName : ':' ∈ parts.authority.takeWhile (· ≠ ':') := by
      rw [← name, isBase]
      exact mem_append_left _ mem
    exact absurd (mem_takeWhile_imp inName) (by decide)
  have whole : parts.authority.takeWhile (· ≠ ':') ++ parts.authority.dropWhile (· ≠ ':') =
      parts.authority := takeWhile_append_dropWhile
  rw [← name, isBase, append_assoc] at whole
  rw [← whole] at balanced
  have opened := (pair_of_balanced balanced).1
  have closing : ']' ∉ base := fun mem => by
    have kept := mem_filter_of_mem mem (p := isBracket) rfl
    rw [opened] at kept
    exact absurd kept (by decide)
  have bareBase : bare (hostPart parts.authority) = base := by
    have same : bare ('[' :: (base ++ [']'])) = bare (base ++ [']']) := by
      rw [bare, dropWhile_cons_of_pos (by decide), bare]
    rw [isBase, ← same, bare_bracketed]
    rw [isBase, head?_append] at first
    refine bare_eq_self (fun opening => ?_) fun last => closing (mem_of_getLast? last)
    rw [opening] at first
    exact first rfl
  rw [bareBase] at lowered
  have plain : ':' ∉ root.host.toList := by rwa [lowered, mem_map_toLower (by decide)]
  have none : (portText root).filter isBracket = [] := by
    unfold portText
    split
    · rfl
    · have mark : isBracket ':' ≠ true := by decide
      rw [filter_cons_of_neg mark]
      exact filter_bracket_digits fun digit mem =>
        isDigit_of_mem_toDigits (by decide) (by decide) mem
  rw [Balanced, authority_toList, filter_append, none, append_nil, hostText, if_neg plain, lowered,
    filter_bracket_lower, opened]
  decide

private lemma canonical_length (spells : Spells parts root)
    (shorter : root.authority.toList.length ≤ parts.authority.length) :
    (canonical root).written.length ≤ parts.written.length := by
  have scheme : root.scheme.toList.length = parts.scheme.length := by rw [spells.scheme, length_map]
  have path := spells.path_shorter.length_le
  simp only [Parts.written, canonical, length_append, length_cons, queryWritten, length_nil]
  omega

/-- The printed root parses to the root, unless the host was a name that ended in a bracket. -/
lemma parse_value_iff (splits : SplitsUris platform)
    (accepts : AcceptsUris platform authorityOk pathOk) (uriOk : platform.uriParse value = .ok uri)
    (ok : parse platform value = .ok root) : parse platform root.value = .ok root ↔
      startsWith "[" uri.authorityHost = true ∨ endsWith "]" uri.authorityHost = false := by
  obtain ⟨_, parts, parsed⟩ := exists_parts splits ok
  cases Except.ok.inj (uriOk.symm.trans parsed.uriOk)
  have mark : "]" = String.singleton ']' := rfl
  have host : uri.authorityHost = ofList (hostPart parts.authority) := by
    rw [parsed.read]
    rfl
  have last : endsWith "]" uri.authorityHost = false ↔
      (hostPart parts.authority).getLast? ≠ some ']' := by
    rw [mark, endsWith_singleton, host, toList_ofList]
  rw [host, startsWith_bracket, ← host, last]
  have http : IsHttp (parts.scheme.map Char.toLower) := by
    rw [← parsed.spells.scheme]
    exact isHttp_of_known parsed.valid.known
  have user : '@' ∉ parts.authority := plain_of_supported parsed.supported.2 (by decide)
  have percent : '%' ∉ parts.authority := plain_of_supported parsed.supported.2 (by decide)
  have read := parsed.uriOk
  rw [parsed.written] at read
  obtain ⟨authority, path⟩ :=
    accepts.accepted parsed.fine user percent http read
  constructor
  · intro again
    obtain ⟨printed, _, printedOk, _⟩ := parse_eq_ok.mp again
    rw [value_eq] at printedOk
    have printedAuthority := (accepts.accepted parsed.canonical_fine
      (parsed.canonical_plain (by decide)) (parsed.canonical_plain (by decide))
      parsed.canonical_http printedOk).1
    by_contra neither
    rw [not_or, not_not] at neither
    exact not_balanced parsed.spells (accepts.balanced authority) neither.1 neither.2
      (accepts.balanced printedAuthority)
  · intro host
    obtain ⟨printedAuthority, shorter⟩ :=
      canonical_accepted accepts parsed.spells parsed.valid.named authority host
    have short := (canonical_length parsed.spells shorter).trans parsed.supported.1
    have printedPath : pathOk (canonical root).path := by
      change pathOk root.pathPrefix.toList
      rw [parsed.spells.pathPrefix]
      exact accepts.trimmed path
    obtain ⟨printed, printedOk⟩ := accepts.accepts parsed.canonical_fine
      (isHttp_of_known parsed.valid.known) rfl printedAuthority printedPath short
    rw [← value_eq] at printedOk
    exact parse_printed splits parsed short printedOk

end Ngxora.Router.ApiRoot
