/-
The lexer of configuration texts.
-/

import Ngxora.Base.Text

namespace Ngxora.Config

open Text List

inductive TokenType where
  | lBrace
  | rBrace
  | semicolon
  | ident
  deriving DecidableEq

def TokenType.debug : TokenType → String
  | .lBrace => "LBrace"
  | .rBrace => "RBrace"
  | .semicolon => "Semicolon"
  | .ident => "Ident"

structure Token where
  kind : TokenType
  len : Nat
  lexeme : String
  numberLine : Nat

structure Scanner where
  tokens : List Token := []
  line : Nat := 1
  wordStart : Option Nat := none

/-- A word is cut out of the text when the character that ends it is met. -/
def flush (input : List Char) (stop : Nat) (scanner : Scanner) : Scanner :=
  match scanner.wordStart with
  | none => scanner
  | some start =>
    let scanner := { scanner with wordStart := none }
    if start < stop then
      { scanner with
        tokens := scanner.tokens ++
          [{ kind := .ident
             lexeme := String.ofList (slice input start stop)
             len := stop - start
             numberLine := scanner.line }] }
    else scanner

def punctTokenType (char : Char) : Option TokenType :=
  if char = '{' then some .lBrace
  else if char = '}' then some .rBrace
  else if char = ';' then some .semicolon
  else none

mutual

/-- The loop of `tokenize` over the characters that are left. -/
def scan (input : List Char) (scanner : Scanner) : List (Nat × Char) → Scanner
  | [] => scanner
  | (index, char) :: chars =>
    if char = '\n' then
      let scanner := flush input index scanner
      scan input { scanner with line := scanner.line + 1 } chars
    else if isWhitespace char then
      scan input (flush input index scanner) chars
    else if char = '#' then
      skipComment input (flush input index scanner) chars
    else
      match punctTokenType char with
      | some kind =>
        let scanner := flush input index scanner
        let stop := index + char.utf8Size
        scan input
          { scanner with
            tokens := scanner.tokens ++
              [{ kind
                 len := stop - index
                 lexeme := String.ofList (slice input index stop)
                 numberLine := scanner.line }] } chars
      | none => scan input { scanner with wordStart := scanner.wordStart.or (some index) } chars

/-- The inner loop: what is left of a comment is taken from the same iterator. -/
def skipComment (input : List Char) (scanner : Scanner) : List (Nat × Char) → Scanner
  | [] => scanner
  | (_, char) :: chars =>
    if char = '\n' then scan input { scanner with line := scanner.line + 1 } chars
    else skipComment input scanner chars

end

def tokenize (text : String) : List Token :=
  let input := text.toList
  (flush input (width input) (scan input {} (charIndices 0 input))).tokens

/-! ### The tokens without positions

What the loop has read of a word can be kept instead of the position the word
starts at. -/

inductive Reading where
  | word (pending : List Char)
  | comment

def wordToken (line : Nat) (word : List Char) : List Token :=
  if word = [] then []
  else
    [{ kind := .ident, len := width word, lexeme := String.ofList word, numberLine := line }]

def readTokens (line : Nat) : Reading → List Char → List Token
  | .word pending, [] => wordToken line pending
  | .comment, [] => []
  | .word pending, char :: rest =>
    if char = '\n' then wordToken line pending ++ readTokens (line + 1) (.word []) rest
    else if isWhitespace char then
      wordToken line pending ++ readTokens line (.word []) rest
    else if char = '#' then wordToken line pending ++ readTokens line .comment rest
    else
      match punctTokenType char with
      | some kind =>
        wordToken line pending ++
          { kind
            len := char.utf8Size
            lexeme := String.ofList [char]
            numberLine := line } :: readTokens line (.word []) rest
      | none => readTokens line (.word (pending ++ [char])) rest
  | .comment, char :: rest =>
    if char = '\n' then readTokens (line + 1) (.word []) rest
    else readTokens line .comment rest

def startOf (before pending : List Char) : Option Nat :=
  if pending = [] then none else some (width before)

@[simp]
lemma wordToken_nil (line : Nat) : wordToken line [] = [] := rfl

lemma flush_eq {input before pending rest : List Char} {index line : Nat} {tokens : List Token}
    (split : input = before ++ (pending ++ rest))
    (pos : index = width before + width pending) :
    flush input index { tokens, line, wordStart := startOf before pending } =
      { tokens := tokens ++ wordToken line pending, line, wordStart := none } := by
  by_cases empty : pending = []
  · simp [flush, startOf, empty]
  · have grows : width before < width before + width pending := by
      have positive := width_pos empty
      omega
    simp only [flush, startOf, wordToken, if_neg empty, split, pos, if_pos grows,
      slice_append, Nat.add_sub_cancel_left]

lemma scan_eq (input rest : List Char) :
    (∀ before pending index tokens line, input = before ++ (pending ++ rest) →
      index = width before + width pending → (flush input (width input)
        (scan input { tokens, line, wordStart := startOf before pending }
          (charIndices index rest))).tokens = tokens ++ readTokens line (.word pending) rest) ∧
    (∀ before index tokens line, input = before ++ rest → index = width before →
      (flush input (width input) (skipComment input { tokens, line, wordStart := none }
          (charIndices index rest))).tokens = tokens ++ readTokens line .comment rest) := by
  induction rest with
  | nil =>
    constructor
    · intro before pending index tokens line split pos
      have whole : width input = width before + width pending := by simp [split]
      rw [charIndices, scan, flush_eq split whole, readTokens]
    · intro before index tokens line split pos
      simp [charIndices, skipComment, readTokens, flush]
  | cons char rest ih =>
    obtain ⟨scanned, skipped⟩ := ih
    -- the loop goes on behind `char` with no word begun
    have again : ∀ before index tokens line, input = before ++ char :: rest →
        index = width before →
        (flush input (width input) (scan input { tokens, line, wordStart := none }
            (charIndices (index + char.utf8Size) rest))).tokens =
          tokens ++ readTokens line (.word []) rest := by
      intro before index tokens line split pos
      exact scanned (before ++ [char]) [] _ tokens line (by simp [split]) (by simp [pos])
    constructor
    · intro before pending index tokens line split pos
      have joined : input = (before ++ pending) ++ char :: rest := by simp [split]
      have joinedAt : index = width (before ++ pending) := by simp [pos]
      rw [charIndices, scan, readTokens]
      by_cases newline : char = '\n'
      · rw [if_pos newline, if_pos newline, flush_eq split pos, ← append_assoc]
        exact again _ _ _ _ joined joinedAt
      rw [if_neg newline, if_neg newline]
      by_cases blank : isWhitespace char = true
      · rw [if_pos blank, if_pos blank, flush_eq split pos, ← append_assoc]
        exact again _ _ _ _ joined joinedAt
      rw [if_neg blank, if_neg blank]
      by_cases hash : char = '#'
      · rw [if_pos hash, if_pos hash, flush_eq split pos, ← append_assoc]
        apply skipped (before ++ pending ++ [char])
        · simp [joined]
        · simp [joinedAt, Nat.add_assoc]
      rw [if_neg hash, if_neg hash]
      cases punct : punctTokenType char with
      | some kind =>
        have single : slice input index (index + char.utf8Size) = [char] := by
          have cut := slice_append (before ++ pending) [char] rest
          rw [joined, joinedAt]
          simpa using cut
        dsimp only
        rw [flush_eq split pos, single, Nat.add_sub_cancel_left, again _ _ _ _ joined joinedAt]
        simp only [append_assoc, singleton_append]
      | none =>
        dsimp only
        have started : (startOf before pending).or (some index) =
            startOf before (pending ++ [char]) := by
          by_cases empty : pending = [] <;> simp [startOf, empty, pos]
        rw [started]
        apply scanned
        · simp [split]
        · simp [pos, Nat.add_assoc]
    · intro before index tokens line split pos
      rw [charIndices, skipComment, readTokens]
      by_cases newline : char = '\n'
      · rw [if_pos newline, if_pos newline]
        exact again before index tokens (line + 1) split pos
      · rw [if_neg newline, if_neg newline]
        apply skipped (before ++ [char])
        · simp [split]
        · simp [pos]

lemma tokenize_eq (text : String) : tokenize text = readTokens 1 (.word []) text.toList :=
  (scan_eq text.toList text.toList).1 [] [] 0 [] 1 rfl rfl

end Ngxora.Config
