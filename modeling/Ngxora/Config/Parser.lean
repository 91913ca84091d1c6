/-
The parser of configuration texts.
-/

import Ngxora.Base.Results
import Ngxora.Config.Lexer

namespace Ngxora.Config

open Results

inductive Node where
  | directive (name : String) (args : List String)
  | block (name : String) (args : List String) (children : List Node)

structure Ast where
  items : List Node := []

structure ParseError where
  message : String

def parseArgs : List Token → List String × List Token
  | [] => ([], [])
  | token :: rest =>
    if token.kind = .ident then
      let (args, rest) := parseArgs rest
      (token.lexeme :: args, rest)
    else ([], token :: rest)

def expect (kind : TokenType) : List Token → Except ParseError (List Token)
  | [] => .error { message := "unexpected EOF" }
  | token :: rest =>
    if token.kind = kind then .ok rest
    else .error { message := s!"expected {kind.debug}, got {token.kind.debug}" }

/-- What no run meets: the calls are bounded by the number of tokens. -/
def outOfCalls : ParseError := { message := "parser calls exceed the tokens" }

mutual

/-- A statement has at least one token, so that their number bounds the calls. -/
def parseItems : Nat → Bool → List Token → Except ParseError (List Node × List Token)
  | 0, _, _ => .error outOfCalls
  | calls + 1, untilRbrace, tokens =>
    match tokens with
    | [] =>
      if untilRbrace then .error { message := "unexpected EOF: expected '\x7d'" }
      else .ok ([], [])
    | token :: _ =>
      if token.kind = .rBrace then
        if untilRbrace then .ok ([], tokens) else .error { message := "unexpected '\x7d'" }
      else do
        let (node, rest) ← parseStmt calls tokens
        let (items, rest) ← parseItems calls untilRbrace rest
        pure (node :: items, rest)

def parseStmt : Nat → List Token → Except ParseError (Node × List Token)
  | 0, _ => .error outOfCalls
  | calls + 1, tokens =>
    match tokens with
    | [] => .error { message := "unexpected EOF" }
    | nameTok :: rest =>
      if nameTok.kind ≠ .ident then
        .error { message := s!"expected Ident, got {nameTok.kind.debug}" }
      else
        match parseArgs rest with
        | (_, []) => .error { message := "unexpected EOF after directive" }
        | (args, token :: rest) =>
          match token.kind with
          | .semicolon => .ok (.directive nameTok.lexeme args, rest)
          | .lBrace => do
            let (children, rest) ← parseItems calls true rest
            pure (.block nameTok.lexeme args children, ← expect .rBrace rest)
          | kind => .error { message := s!"expected ';' or '\x7b', got {kind.debug}" }

end

def parseTokens (tokens : List Token) : Except ParseError Ast := do
  let (items, _) ← parseItems (tokens.length + 1) false tokens
  pure { items }

def parseConfig (input : String) : Except ParseError Ast := parseTokens (tokenize input)

variable {tokens rest : List Token} {calls : Nat}

lemma expect_eq_ok {kind : TokenType} :
    expect kind tokens = .ok rest ↔ ∃ token, tokens = token :: rest ∧ token.kind = kind := by
  cases tokens with
  | nil => simp [expect]
  | cons token others =>
    rw [expect]
    split
    · simp_all
    · simp_all

lemma parseItems_eq_ok {untilRbrace : Bool} {items : List Node} :
    parseItems (calls + 1) untilRbrace tokens = .ok (items, rest) ↔ (items = [] ∧ rest = tokens ∧
        if untilRbrace then ∃ token others, tokens = token :: others ∧ token.kind = .rBrace
        else tokens = []) ∨
      ∃ token others node middle later, tokens = token :: others ∧ token.kind ≠ .rBrace ∧
        parseStmt calls tokens = .ok (node, middle) ∧
        parseItems calls untilRbrace middle = .ok (later, rest) ∧ items = node :: later := by
  cases tokens with
  | nil => cases untilRbrace <;> simp [parseItems, eq_comm]
  | cons token others =>
    rw [parseItems]
    by_cases brace : token.kind = .rBrace
    · cases untilRbrace <;> simp [brace, eq_comm]
    · simp only [if_neg brace, bind_eq_ok]
      constructor
      · rintro ⟨⟨node, middle⟩, first, ⟨later, after⟩, second, done⟩
        cases done
        exact .inr ⟨token, others, node, middle, later, rfl, brace, first, second, rfl⟩
      · rintro (⟨_, _, ended⟩ | ⟨_, _, node, middle, later, _, _, first, second, rfl⟩)
        · cases untilRbrace <;> simp [brace] at ended
        · exact ⟨(node, middle), first, (later, rest), second, rfl⟩

lemma parseStmt_eq_ok {node : Node} : parseStmt (calls + 1) tokens = .ok (node, rest) ↔
    ∃ nameTok args token others after, tokens = nameTok :: others ∧ nameTok.kind = .ident ∧
      parseArgs others = (args, token :: after) ∧
      ((token.kind = .semicolon ∧ node = .directive nameTok.lexeme args ∧ rest = after) ∨
        (token.kind = .lBrace ∧ ∃ children brace, brace.kind = .rBrace ∧
          parseItems calls true after = .ok (children, brace :: rest) ∧
          node = .block nameTok.lexeme args children)) := by
  cases tokens with
  | nil => simp [parseStmt]
  | cons nameTok others =>
    rw [parseStmt]
    by_cases word : nameTok.kind = .ident
    · rw [if_neg (not_not_intro word)]
      constructor
      · intro parsed
        split at parsed
        · cases parsed
        next args token after found =>
          refine ⟨nameTok, args, token, others, after, rfl, word, found, ?_⟩
          split at parsed
          next semicolon =>
            cases parsed
            exact .inl ⟨semicolon, rfl, rfl⟩
          next brace =>
            obtain ⟨⟨children, inside⟩, inner, outside, closed, done⟩ := bind₂_eq_ok.mp parsed
            cases done
            obtain ⟨closing, rfl, closes⟩ := expect_eq_ok.mp closed
            exact .inr ⟨brace, children, closing, closes, inner, rfl⟩
          next => cases parsed
      · rintro ⟨_, args, token, _, after, same, _, found, ended⟩
        cases same
        rw [found]
        dsimp only
        rcases ended with ⟨semicolon, rfl, rfl⟩ | ⟨brace, children, closing, closes, inner, rfl⟩
        · rw [semicolon]
        · simp only [brace, inner, ok_bind, expect_eq_ok.mpr ⟨closing, rfl, closes⟩, pure_eq_ok]
    · simp [word]

end Ngxora.Config
