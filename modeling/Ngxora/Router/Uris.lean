/-
What is assumed of `http::Uri`. An absolute URI is split as RFC 3986 has it, and only the scheme is
put into lower case. Which authorities are accepted is said apart: brackets have to be balanced, but
they need not stand around the host.
-/

import Ngxora.Base.UriParts
import Ngxora.Reference

namespace Ngxora.Router

open Text Digits List UriParts
open String (ofList toList_ofList ofList_toList)

def IsHttp (scheme : List Char) : Prop :=
  scheme = "http".toList ∨ scheme = "https".toList

def uriOf (parts : Parts) : Uri where
  scheme := some (ofList (parts.scheme.map Char.toLower))
  authority := some (ofList parts.authority)
  authorityHost := ofList (hostPart parts.authority)
  path := if parts.path = [] then "/" else ofList parts.path
  query := parts.query.map ofList

lemma path_uriOf (parts : Parts) :
    (uriOf parts).path = if parts.path = [] then "/" else ofList parts.path := rfl

/-- A text with an authority is read part by part, and only such a text is read as one. -/
structure SplitsUris (platform : Platform) : Prop where
  reads : ∀ {parts : Parts} {uri : Uri}, parts.WellFormed → '@' ∉ parts.authority →
    IsHttp (parts.scheme.map Char.toLower) →
      platform.uriParse (ofList parts.written) = .ok uri → uri = uriOf parts
  written : ∀ {text : String} {uri : Uri} {scheme authority : String},
    platform.uriParse text = .ok uri → uri.scheme = some scheme → IsHttp scheme.toList →
      uri.authority = some authority → '#' ∉ text.toList →
        ∃ parts : Parts, parts.WellFormed ∧ parts.scheme.map Char.toLower = scheme.toList ∧
          text = ofList parts.written

def isBracket (char : Char) : Bool := char == '[' || char == ']'

/-- No brackets, or one pair of them. -/
def Balanced (text : List Char) : Prop :=
  text.filter isBracket = [] ∨ text.filter isBracket = ['[', ']']

/-- Which authorities without user information and percent signs are accepted, and which
paths. -/
structure AcceptsUris (platform : Platform) (authorityOk pathOk : List Char → Prop) : Prop where
  accepted : ∀ {parts : Parts} {uri : Uri}, parts.WellFormed → '@' ∉ parts.authority →
    '%' ∉ parts.authority → IsHttp (parts.scheme.map Char.toLower) →
      platform.uriParse (ofList parts.written) = .ok uri →
        authorityOk parts.authority ∧ pathOk parts.path
  accepts : ∀ {parts : Parts}, parts.WellFormed → IsHttp parts.scheme → parts.query = none →
    authorityOk parts.authority → pathOk parts.path → parts.written.length ≤ 2048 →
      ∃ uri, platform.uriParse (ofList parts.written) = .ok uri
  balanced : ∀ {authority : List Char}, authorityOk authority → Balanced authority
  lowered : ∀ {authority : List Char}, authorityOk authority →
    authorityOk (authority.map Char.toLower)
  host : ∀ {host rest : List Char}, authorityOk (host ++ rest) →
    hostPart (host ++ rest) = host → host ≠ [] → ']' ∉ rest → authorityOk host
  port : ∀ {host digits : List Char}, authorityOk host → hostPart host = host → digits ≠ [] →
    (∀ digit ∈ digits, isDigit 10 digit = true) → authorityOk (host ++ ':' :: digits)
  unbracketed : ∀ {inner : List Char}, authorityOk ('[' :: (inner ++ [']'])) → inner ≠ [] →
    ':' ∉ inner → authorityOk inner
  trimmed : ∀ {path : List Char}, pathOk path → pathOk (path.rdropWhile (· == '/'))

variable {text : List Char} {parts : Parts} {uri : Uri}

instance (text : List Char) : Decidable (Balanced text) :=
  inferInstanceAs (Decidable (_ ∨ _))

instance (scheme : List Char) : Decidable (IsHttp scheme) :=
  inferInstanceAs (Decidable (_ ∨ _))

def splitUriParse (text : String) : Except String Uri :=
  match split text.toList with
  | some parts =>
    if IsHttp (parts.scheme.map Char.toLower) ∧ Balanced parts.authority then .ok (uriOf parts)
    else .error "invalid authority"
  | none => .error "invalid uri character"

def uriPlatform : Platform := { Reference.platform with uriParse := splitUriParse }

private lemma splitUriParse_eq_ok {text : String} : splitUriParse text = .ok uri ↔
    ∃ parts, split text.toList = some parts ∧ (IsHttp (parts.scheme.map Char.toLower) ∧
      Balanced parts.authority) ∧ uri = uriOf parts := by
  unfold splitUriParse
  cases split text.toList with
  | none => simp
  | some parts =>
    simp only [ite_eq_iff, Option.some.injEq]
    constructor
    · rintro (⟨checks, same⟩ | ⟨_, same⟩)
      · exact ⟨parts, rfl, checks, (Except.ok.inj same).symm⟩
      · cases same
    · rintro ⟨_, rfl, checks, read⟩
      exact .inl ⟨checks, congrArg Except.ok read.symm⟩

private lemma splitUriParse_written (fine : parts.WellFormed) :
    splitUriParse (ofList parts.written) = .ok uri ↔
      (IsHttp (parts.scheme.map Char.toLower) ∧ Balanced parts.authority) ∧ uri = uriOf parts := by
  rw [splitUriParse_eq_ok, toList_ofList, split_written fine]
  simp

lemma uriPlatform_splits : SplitsUris uriPlatform where
  reads := fun fine _ _ parsed => ((splitUriParse_written fine).mp parsed).2
  written := by
    intro text uri scheme authority parsed schemeOk _ _ _
    obtain ⟨parts, splitOk, _, read⟩ := splitUriParse_eq_ok.mp parsed
    obtain ⟨fine, written⟩ := written_of_split splitOk
    rw [read] at schemeOk
    refine ⟨parts, fine, ?_, ?_⟩
    · rw [← Option.some.inj schemeOk, toList_ofList]
    · rw [written, ofList_toList]

lemma filter_bracket_eq_nil : text.filter isBracket = [] ↔ '[' ∉ text ∧ ']' ∉ text := by
  simp only [filter_eq_nil_iff, isBracket, Bool.or_eq_true, beq_iff_eq]
  constructor
  · exact fun none => ⟨fun mem => none _ mem (.inl rfl), fun mem => none _ mem (.inr rfl)⟩
  · rintro ⟨opening, closing⟩ char mem (rfl | rfl)
    · exact opening mem
    · exact closing mem

lemma filter_bracket_lower (text : List Char) :
    (text.map Char.toLower).filter isBracket = text.filter isBracket := by
  induction text with
  | nil => rfl
  | cons char rest ih =>
    rw [map_cons, filter_cons, filter_cons, ih]
    by_cases bracket : isBracket char = true
    · have same : char = '[' ∨ char = ']' := by simpa [isBracket] using bracket
      rcases same with rfl | rfl
      · rfl
      · rfl
    · have other : isBracket char.toLower ≠ true := by
        simp only [isBracket, ne_eq, Bool.or_eq_true, beq_iff_eq] at bracket ⊢
        rintro (opening | closing)
        · exact bracket (.inl ((toLower_eq_iff (by decide)).mp opening))
        · exact bracket (.inr ((toLower_eq_iff (by decide)).mp closing))
      rw [if_neg bracket, if_neg other]

lemma filter_bracket_digits {digits : List Char}
    (all : ∀ digit ∈ digits, isDigit 10 digit = true) : digits.filter isBracket = [] := by
  rw [filter_bracket_eq_nil]
  exact ⟨fun mem => absurd (all _ mem) (by decide), fun mem => absurd (all _ mem) (by decide)⟩

/-- The text before a bracket that closes a pair, and after it, has no more brackets. -/
lemma pair_of_balanced {rest : List Char} (balanced : Balanced (text ++ ']' :: rest)) :
    text.filter isBracket = ['['] ∧ rest.filter isBracket = [] := by
  have closing : isBracket ']' = true := rfl
  unfold Balanced at balanced
  rw [filter_append, filter_cons_of_pos closing] at balanced
  rcases balanced with none | pair
  · simp at none
  · generalize text.filter isBracket = before at pair ⊢
    generalize rest.filter isBracket = after at pair ⊢
    match before with
    | [] => simp at pair
    | [_] => simpa using pair
    | _ :: _ :: _ => simp at pair

lemma uriPlatform_accepts : AcceptsUris uriPlatform Balanced (fun _ => True) where
  accepted := fun fine _ _ _ parsed =>
    ⟨((splitUriParse_written fine).mp parsed).1.2, trivial⟩
  accepts := by
    intro parts fine http _ balanced _ _
    have lowered : IsHttp (parts.scheme.map Char.toLower) := by
      rcases http with same | same
      · exact .inl (by rw [same]; decide)
      · exact .inr (by rw [same]; decide)
    exact ⟨_, (splitUriParse_written fine).mpr ⟨⟨lowered, balanced⟩, rfl⟩⟩
  balanced := id
  lowered := by
    intro authority balanced
    rwa [Balanced, filter_bracket_lower]
  host := by
    intro host rest balanced _ _ closing
    unfold Balanced at balanced ⊢
    rw [filter_append] at balanced
    have none : ']' ∉ rest.filter isBracket := fun mem => closing (mem_filter.mp mem).1
    generalize rest.filter isBracket = after at balanced none
    cases after using List.reverseRecOn with
    | nil => rwa [append_nil] at balanced
    | append_singleton front last =>
      rw [← append_assoc] at balanced
      rcases balanced with empty | pair
      · simp at empty
      · have same := (append_inj' (pair.trans (show _ = ['['] ++ [']'] from rfl)) rfl).2
        exact absurd (by simp_all) none
  port := by
    intro host digits balanced _ _ all
    have colon : isBracket ':' ≠ true := by decide
    rwa [Balanced, filter_append, filter_cons_of_neg colon, filter_bracket_digits all, append_nil]
  unbracketed := by
    intro inner balanced _ _
    have pair : Balanced (('[' :: inner) ++ ']' :: []) := balanced
    have opening := (pair_of_balanced pair).1
    rw [filter_cons_of_pos rfl] at opening
    exact .inl (List.cons.inj opening).2
  trimmed := fun _ => trivial

end Ngxora.Router
