/-
Absolute URIs with an authority, split into parts as RFC 3986 has it.
-/

import Ngxora.Base.Text

namespace Ngxora.UriParts

open Text List

structure Parts where
  scheme : List Char
  authority : List Char
  path : List Char
  query : Option (List Char)

def queryWritten : Option (List Char) → List Char
  | none => []
  | some query => '?' :: query

def endsAuthority (char : Char) : Bool := ['/', '?', '#'].contains char

namespace Parts

def written (parts : Parts) : List Char :=
  parts.scheme ++ ':' :: '/' :: '/' ::
    (parts.authority ++ (parts.path ++ queryWritten parts.query))

/-- Each part ends where the mark of the next one stands. -/
@[mk_iff]
structure WellFormed (parts : Parts) : Prop where
  scheme : ':' ∉ parts.scheme
  authority : parts.authority.any endsAuthority = false
  path : parts.path.head?.all (· = '/') = true
  pathPlain : '?' ∉ parts.path ∧ '#' ∉ parts.path
  queryPlain : '#' ∉ parts.query.getD []

instance (parts : Parts) : Decidable parts.WellFormed :=
  decidable_of_iff' _ (wellFormed_iff parts)

/-- More path and a query behind the parts. -/
def extend (parts : Parts) (more : List Char) (query : Option (List Char)) : Parts :=
  { parts with path := parts.path ++ more, query }

variable {parts : Parts}

lemma written_extend (plain : parts.query = none) (more : List Char) (query : Option (List Char)) :
    (parts.extend more query).written = parts.written ++ (more ++ queryWritten query) := by
  simp [extend, written, plain, queryWritten]

lemma WellFormed.extend (fine : parts.WellFormed) {more : List Char} {query : Option (List Char)}
    (starts : more.head?.all (· = '/') = true) (plain : '?' ∉ more ∧ '#' ∉ more)
    (queryPlain : '#' ∉ query.getD []) : (parts.extend more query).WellFormed where
  scheme := fine.scheme
  authority := fine.authority
  path := by
    have first := fine.path
    rw [Parts.extend]
    cases path : parts.path with
    | nil => exact starts
    | cons char rest =>
      rwa [path] at first
  pathPlain := by
    simp only [Parts.extend, mem_append, not_or]
    exact ⟨⟨fine.pathPlain.1, plain.1⟩, fine.pathPlain.2, plain.2⟩
  queryPlain

lemma WellFormed.shorten (fine : parts.WellFormed) {path : List Char}
    (shorter : path <+: parts.path) : { parts with path }.WellFormed where
  scheme := fine.scheme
  authority := fine.authority
  path := by
    have first := fine.path
    cases path with
    | nil => rfl
    | cons char rest =>
      obtain ⟨more, whole⟩ := shorter
      rwa [← whole] at first
  pathPlain := ⟨fun mem => fine.pathPlain.1 (shorter.subset mem),
    fun mem => fine.pathPlain.2 (shorter.subset mem)⟩
  queryPlain := fine.queryPlain

end Parts

/-- The host of an authority without user information: what stands in brackets at its
start, or before the first colon. -/
def hostPart : List Char → List Char
  | '[' :: rest => '[' :: (rest.takeWhile (· ≠ ']') ++ [']'])
  | text => text.takeWhile (· ≠ ':')

def splitQuery (text : List Char) : Option (List Char) :=
  match text.dropWhile (· ≠ '?') with
  | _ :: query => some query
  | [] => none

def split (text : List Char) : Option Parts :=
  match text.dropWhile (· ≠ ':') with
  | ':' :: '/' :: '/' :: rest =>
    let target := rest.dropWhile (!endsAuthority ·)
    let parts : Parts :=
      { scheme := text.takeWhile (· ≠ ':')
        authority := rest.takeWhile (!endsAuthority ·)
        path := target.takeWhile (· ≠ '?')
        query := splitQuery target }
    if parts.WellFormed then some parts else none
  | _ => none

variable {mark : Char} {text : List Char} {parts : Parts}

private lemma first_of_dropWhile {first : Char} {rest : List Char}
    (ending : text.dropWhile (· ≠ mark) = first :: rest) : first = mark := by
  have head := head?_dropWhile_not (fun char => decide (char ≠ mark)) text
  rw [ending, head?_cons] at head
  simpa using head

private lemma queryWritten_splitQuery (text : List Char) :
    queryWritten (splitQuery text) = text.dropWhile (· ≠ '?') := by
  unfold splitQuery
  split
  next first query ending =>
    rw [ending, first_of_dropWhile ending]
    rfl
  next ending =>
    rw [ending]
    rfl

lemma written_of_split (found : split text = some parts) :
    parts.WellFormed ∧ parts.written = text := by
  unfold split at found
  split at found
  case h_2 => cases found
  case h_1 rest ending =>
    simp only at found
    split at found
    case isFalse => cases found
    case isTrue fine =>
      cases found
      refine ⟨fine, ?_⟩
      have whole : text.takeWhile (· ≠ ':') ++ text.dropWhile (· ≠ ':') = text :=
        takeWhile_append_dropWhile
      rw [ending] at whole
      rw [Parts.written]
      simp only [queryWritten_splitQuery, takeWhile_append_dropWhile]
      exact whole

private lemma takeWhile_authority (fine : parts.WellFormed) :
    (parts.authority ++ (parts.path ++ queryWritten parts.query)).takeWhile (!endsAuthority ·) =
        parts.authority ∧
      (parts.authority ++ (parts.path ++ queryWritten parts.query)).dropWhile (!endsAuthority ·) =
        parts.path ++ queryWritten parts.query := by
  have inside : ∀ char ∈ parts.authority, (!endsAuthority char) = true := by
    simpa using fine.authority
  -- what follows is nothing, a slash or a question mark
  refine span_append inside fun char first => ?_
  cases path : parts.path with
  | cons start others =>
    have head := fine.path
    rw [path] at head first
    have slash : char = '/' := by simp_all
    rw [slash]
    rfl
  | nil =>
    rw [path] at first
    cases query : parts.query with
    | none => simp [query, queryWritten] at first
    | some text =>
      have mark : '?' = char := by simpa [query, queryWritten] using first
      rw [← mark]
      rfl

private lemma split_target (fine : parts.WellFormed) :
    (parts.path ++ queryWritten parts.query).takeWhile (· ≠ '?') = parts.path ∧
      splitQuery (parts.path ++ queryWritten parts.query) = parts.query := by
  obtain ⟨taken, left⟩ := span_until (queryWritten parts.query) fine.pathPlain.1
    (by cases parts.query <;> simp [queryWritten])
  rw [splitQuery, taken, left]
  cases parts.query with
  | none | some query => exact ⟨rfl, rfl⟩

/-- Well-formed parts are read back from their text. -/
lemma split_written (fine : parts.WellFormed) : split parts.written = some parts := by
  obtain ⟨scheme, rest⟩ := span_until (':' :: '/' :: '/' ::
    (parts.authority ++ (parts.path ++ queryWritten parts.query))) fine.scheme (by simp)
  obtain ⟨authority, target⟩ := takeWhile_authority fine
  obtain ⟨path, query⟩ := split_target fine
  unfold split
  rw [Parts.written, rest]
  simp only [authority, target, scheme, path, query]
  exact if_pos fine

/-- A literal in brackets is the host, whatever follows it. -/
lemma hostPart_literal {inner : List Char} (closing : ']' ∉ inner) (rest : List Char) :
    hostPart ('[' :: (inner ++ ']' :: rest)) = '[' :: (inner ++ [']']) := by
  rw [hostPart, (span_until (']' :: rest) closing (by simp)).1]

lemma hostPart_name {name rest : List Char} (colon : ':' ∉ name)
    (first : (name ++ rest).head? ≠ some '[') (stop : ∀ char, rest.head? = some char → char = ':') :
    hostPart (name ++ rest) = name := by
  unfold hostPart
  split
  next same => exact absurd (congrArg head? same) first
  next => exact (span_until rest colon stop).1

lemma head_hostPart : (hostPart text).head? = some '[' ↔ text.head? = some '[' := by
  unfold hostPart
  split
  next => simp
  next notLiteral =>
    cases text with
    | nil => simp
    | cons char rest =>
      have other : char ≠ '[' := fun same => notLiteral rest (by rw [same])
      rw [takeWhile_cons]
      split
      · rfl
      · simpa using other

lemma hostPart_of_name (first : text.head? ≠ some '[') :
    hostPart text = text.takeWhile (· ≠ ':') := by
  unfold hostPart
  split
  next => exact absurd rfl first
  next => rfl

end Ngxora.UriParts
