/-
Texts and the trees they are parsed to.
-/

import Ngxora.Config.Parser

namespace Ngxora.Config

open Token Node List Results

variable {rest front : List Token} {char : Char} {text gap : List Char} {kind : TokenType}
  {nodes : List Node}

def Token.piece (token : Token) : TokenType × String := (token.kind, token.lexeme)

def wordPieces (words : List String) : List (TokenType × String) :=
  words.map fun word => (.ident, word)

mutual

/-- The tokens of a tree. -/
def Node.flatten : Node → List (TokenType × String)
  | .directive name args => wordPieces (name :: args) ++ [(.semicolon, ";")]
  | .block name args children =>
    wordPieces (name :: args) ++ (.lBrace, "\x7b") :: (flattenAll children ++ [(.rBrace, "\x7d")])

def flattenAll : List Node → List (TokenType × String)
  | [] => []
  | node :: nodes => node.flatten ++ flattenAll nodes

end

/-- A word that the lexer reads as one token. -/
structure IsWord (word : String) : Prop where
  nonempty : word.toList ≠ []
  clean : ∀ char ∈ word.toList, Text.isWhitespace char = false ∧
    char ≠ '\x7b' ∧ char ≠ '\x7d' ∧ char ≠ ';' ∧ char ≠ '#'

mutual

def Node.Worded : Node → Prop
  | .directive name args => ∀ word ∈ name :: args, IsWord word
  | .block name args children => (∀ word ∈ name :: args, IsWord word) ∧ wordedAll children

def wordedAll : List Node → Prop
  | [] => True
  | node :: nodes => node.Worded ∧ wordedAll nodes

end

/-- Whitespace and comments, each comment to the end of its line. -/
inductive Gap : List Char → Prop where
  | nil : Gap []
  | blank {char : Char} {rest : List Char} (isBlank : Text.isWhitespace char = true)
      (more : Gap rest) : Gap (char :: rest)
  | comment {body rest : List Char} (oneLine : '\n' ∉ body) (more : Gap rest) :
      Gap ('#' :: (body ++ '\n' :: rest))

inductive RendersWords : List String → List Char → Prop where
  | last (word : String) : RendersWords [word] word.toList
  | more {word : String} {words : List String} {gap text : List Char} (separates : Gap gap)
      (nonempty : gap ≠ []) (rest : RendersWords words text) :
      RendersWords (word :: words) (word.toList ++ (gap ++ text))

mutual

/-- A text of the tree, with any blanks and comments. -/
inductive Renders : Node → List Char → Prop where
  | directive {name : String} {args : List String} {words gap : List Char}
      (rendered : RendersWords (name :: args) words) (before : Gap gap) :
      Renders (.directive name args) (words ++ (gap ++ [';']))
  | block {name : String} {args : List String} {children : List Node} {words gap inner : List Char}
      (rendered : RendersWords (name :: args) words) (before : Gap gap)
      (inside : RendersAll children inner) :
      Renders (.block name args children) (words ++ (gap ++ '\x7b' :: (inner ++ ['\x7d'])))

inductive RendersAll : List Node → List Char → Prop where
  | nil {gap : List Char} (only : Gap gap) : RendersAll [] gap
  | cons {node : Node} {nodes : List Node} {gap text rest : List Char} (before : Gap gap)
      (first : Renders node text) (others : RendersAll nodes rest) :
      RendersAll (node :: nodes) (gap ++ (text ++ rest))

end

def pieces (reading : Reading) (text : List Char) : List (TokenType × String) :=
  (readTokens 1 reading text).map piece

private lemma map_piece_wordToken (line other : Nat) (word : List Char) :
    (wordToken line word).map piece = (wordToken other word).map piece := by
  unfold wordToken
  split <;> rfl

private lemma map_piece_readTokens (line other : Nat) (reading : Reading) (text : List Char) :
    (readTokens line reading text).map piece =
      (readTokens other reading text).map piece := by
  induction text generalizing line other reading with
  | nil =>
    cases reading with
    | word pending => exact map_piece_wordToken line other pending
    | comment => rfl
  | cons char rest ih =>
    cases reading with
    | word pending =>
      have flushed := map_piece_wordToken line other pending
      rw [readTokens, readTokens]
      split
      · rw [map_append, map_append, flushed, ih]
      split
      · rw [map_append, map_append, flushed, ih]
      split
      · rw [map_append, map_append, flushed, ih]
      cases punctTokenType char with
      | some kind =>
        simp only [map_append, map_cons, flushed, ih line other]
        rfl
      | none => exact ih line other _
    | comment =>
      rw [readTokens, readTokens]
      split
      · exact ih _ _ _
      · exact ih _ _ _

def ended (word : List Char) : List (TokenType × String) :=
  if word = [] then [] else [(.ident, String.ofList word)]

@[simp]
lemma ended_nil : ended [] = [] := rfl

private lemma map_piece_ended (line : Nat) (word : List Char) :
    (wordToken line word).map piece = ended word := by
  unfold wordToken ended
  split <;> rfl

@[simp]
lemma pieces_word_nil (pending : List Char) : pieces (.word pending) [] = ended pending :=
  map_piece_ended 1 pending

private lemma pieces_blank (blank : Text.isWhitespace char = true) (pending rest : List Char) :
    pieces (.word pending) (char :: rest) = ended pending ++ pieces (.word []) rest := by
  rw [pieces, readTokens]
  by_cases newline : char = '\n'
  · rw [if_pos newline, map_append, map_piece_ended, map_piece_readTokens _ 1]
    rfl
  · rw [if_neg newline, if_pos blank, map_append, map_piece_ended]
    rfl

private lemma pieces_hash (pending rest : List Char) :
    pieces (.word pending) ('#' :: rest) = ended pending ++ pieces .comment rest := by
  have notNewline : ¬ '#' = '\n' := by decide
  have notBlank : ¬ Text.isWhitespace '#' = true := by decide
  rw [pieces, readTokens, if_neg notNewline, if_neg notBlank, if_pos rfl, map_append,
    map_piece_ended]
  rfl

private lemma pieces_comment {body : List Char} (oneLine : '\n' ∉ body) (rest : List Char) :
    pieces .comment (body ++ '\n' :: rest) = pieces (.word []) rest := by
  induction body with
  | nil =>
    rw [nil_append, pieces, readTokens, if_pos rfl, map_piece_readTokens _ 1]
    rfl
  | cons char body ih =>
    rw [mem_cons, not_or] at oneLine
    rw [cons_append, pieces, readTokens, if_neg (Ne.symm oneLine.1)]
    exact ih oneLine.2

private lemma pieces_punct (punct : punctTokenType char = some kind) (pending rest : List Char) :
    pieces (.word pending) (char :: rest) =
      ended pending ++ (kind, String.ofList [char]) :: pieces (.word []) rest := by
  have apart : ¬ char = '\n' ∧ ¬ Text.isWhitespace char = true ∧ ¬ char = '#' := by
    unfold punctTokenType at punct
    split at punct
    case isTrue open' => subst open'; decide
    split at punct
    next close => subst close; decide
    split at punct
    next stop => subst stop; decide
    cases punct
  rw [pieces, readTokens, if_neg apart.1, if_neg apart.2.1, if_neg apart.2.2, punct]
  simp only [map_append, map_cons, map_piece_ended]
  rfl

private lemma pieces_clean {chars : List Char}
    (clean : ∀ char ∈ chars, Text.isWhitespace char = false ∧
      char ≠ '\x7b' ∧ char ≠ '\x7d' ∧ char ≠ ';' ∧ char ≠ '#') (pending rest : List Char) :
    pieces (.word pending) (chars ++ rest) = pieces (.word (pending ++ chars)) rest := by
  induction chars generalizing pending with
  | nil => rw [nil_append, append_nil]
  | cons char others ih =>
    obtain ⟨notBlank, notOpen, notClose, notStop, notHash⟩ := clean char mem_cons_self
    have notNewline : char ≠ '\n' := by
      intro newline
      rw [newline] at notBlank
      exact absurd notBlank (by decide)
    have notPunct : punctTokenType char = none := by
      simp [punctTokenType, notOpen, notClose, notStop]
    have later := ih (fun other mem => clean other (mem_cons_of_mem _ mem))
      (pending ++ [char])
    rw [append_assoc, singleton_append] at later
    rw [← later, cons_append, pieces, readTokens, if_neg notNewline, if_neg (by simp [notBlank]),
      if_neg notHash, notPunct]
    rfl

private lemma pieces_gap (isGap : Gap gap) (rest : List Char) :
    pieces (.word []) (gap ++ rest) = pieces (.word []) rest := by
  induction isGap with
  | nil => rfl
  | blank isBlank _ ih => rw [cons_append, pieces_blank isBlank, ended_nil, nil_append, ih]
  | comment oneLine _ ih =>
    rw [cons_append, pieces_hash, append_assoc, cons_append,
      pieces_comment oneLine, ended_nil, nil_append, ih]

private lemma pieces_separated (isGap : Gap gap) (ne : gap ≠ []) (pending rest : List Char) :
    pieces (.word pending) (gap ++ rest) = ended pending ++ pieces (.word []) rest := by
  cases isGap with
  | nil => contradiction
  | blank isBlank more => rw [cons_append, pieces_blank isBlank, pieces_gap more]
  | comment oneLine more =>
    rw [cons_append, pieces_hash, append_assoc, cons_append,
      pieces_comment oneLine, pieces_gap more]

private lemma pieces_gap_punct (isGap : Gap gap) (punct : punctTokenType char = some kind)
    (pending rest : List Char) :
    pieces (.word pending) (gap ++ char :: rest) =
      ended pending ++ (kind, String.ofList [char]) :: pieces (.word []) rest := by
  by_cases empty : gap = []
  · rw [empty, nil_append, pieces_punct punct]
  · rw [pieces_separated isGap empty, pieces_punct punct, ended_nil, nil_append]

private lemma ended_word {word : String} (isWord : IsWord word) :
    ended word.toList = [(.ident, word)] := by
  rw [ended, if_neg isWord.nonempty, String.ofList_toList]

private lemma pieces_words {words : List String} (rendered : RendersWords words text)
    (isGap : Gap gap)
    (punct : punctTokenType char = some kind) (worded : ∀ word ∈ words, IsWord word)
    (rest : List Char) :
    pieces (.word []) (text ++ (gap ++ char :: rest)) =
      wordPieces words ++ (kind, String.ofList [char]) :: pieces (.word []) rest := by
  induction rendered with
  | last word =>
    have isWord := worded word mem_cons_self
    rw [pieces_clean isWord.clean, nil_append, pieces_gap_punct isGap punct, ended_word isWord]
    rfl
  | more separates ne _ ih =>
    have isWord := worded _ mem_cons_self
    have later := ih fun word mem => worded word (mem_cons_of_mem _ mem)
    rw [append_assoc, append_assoc, pieces_clean isWord.clean, nil_append,
      pieces_separated separates ne, ended_word isWord, later]
    rfl

mutual

private lemma pieces_renders {node : Node} {text : List Char} (rendered : Renders node text)
    (worded : node.Worded) (rest : List Char) :
    pieces (.word []) (text ++ rest) = node.flatten ++ pieces (.word []) rest := by
  cases rendered with
  | directive rendered before =>
    have stop : punctTokenType ';' = some .semicolon := rfl
    have words := pieces_words rendered before stop worded rest
    simp only [append_assoc, singleton_append] at words ⊢
    rw [words, Node.flatten]
    simp [append_assoc]
  | block rendered before inside =>
    have opens : punctTokenType '\x7b' = some .lBrace := rfl
    have closes : punctTokenType '\x7d' = some .rBrace := rfl
    have inner := pieces_rendersAll inside worded.2 ('\x7d' :: rest)
    have words := pieces_words rendered before opens worded.1
    simp only [append_assoc, cons_append, nil_append] at words ⊢
    rw [words, inner, pieces_punct closes, Node.flatten]
    simp [append_assoc, cons_append, ended_nil, nil_append]

private lemma pieces_rendersAll {nodes : List Node} {text : List Char}
    (rendered : RendersAll nodes text)
    (worded : wordedAll nodes) (rest : List Char) :
    pieces (.word []) (text ++ rest) = flattenAll nodes ++ pieces (.word []) rest := by
  cases rendered with
  | nil only => exact pieces_gap only rest
  | cons before first others =>
    rw [append_assoc, pieces_gap before, append_assoc, pieces_renders first worded.1,
      pieces_rendersAll others worded.2, flattenAll, append_assoc]

end

private lemma map_piece_tokenize {text : String} (rendered : RendersAll nodes text.toList)
    (worded : wordedAll nodes) : (tokenize text).map piece = flattenAll nodes := by
  have read := pieces_rendersAll rendered worded []
  rw [append_nil, pieces_word_nil, ended_nil, append_nil] at read
  rwa [tokenize_eq]

private lemma parseArgs_words {words : List String} {token : Token}
    (shown : front.map piece = wordPieces words) (stops : token.kind ≠ .ident) :
    parseArgs (front ++ token :: rest) = (words, token :: rest) := by
  induction words generalizing front with
  | nil =>
    rw [wordPieces, map_nil, map_eq_nil_iff] at shown
    rw [shown, nil_append, parseArgs, if_neg stops]
  | cons word words ih =>
    rw [wordPieces, map_cons, map_eq_cons_iff] at shown
    obtain ⟨first, others, rfl, firstShown, othersShown⟩ := shown
    have kind : first.kind = .ident := congrArg Prod.fst firstShown
    have lexeme : first.lexeme = word := congrArg Prod.snd firstShown
    rw [cons_append, parseArgs, if_pos kind, ih othersShown, lexeme]

private lemma flatten_ne_nil (node : Node) : node.flatten ≠ [] := by
  cases node <;> simp [Node.flatten, wordPieces]

private lemma exists_words {name : String} {args : List String} {ending : List (TokenType × String)}
    {front : List Token} (shown : front.map piece = wordPieces (name :: args) ++ ending) :
    ∃ token words last, front = token :: (words ++ last) ∧ token.kind = .ident ∧
      token.lexeme = name ∧ words.map piece = wordPieces args ∧ last.map piece = ending := by
  obtain ⟨token, _, rfl, first, others⟩ := map_eq_cons_iff.mp shown
  obtain ⟨words, last, rfl, given, ends⟩ := map_eq_append_iff.mp others
  exact ⟨token, words, last, rfl, congrArg Prod.fst first, congrArg Prod.snd first, given, ends⟩

private lemma kind_of_flatten {node : Node} {token : Token}
    (shown : (token :: rest).map piece = node.flatten) : token.kind = .ident := by
  cases node with
  | directive name args | block name args children =>
    exact congrArg Prod.fst (List.cons.inj shown).1

mutual

private lemma parseStmt_flatten {calls : Nat} {node : Node} {front rest : List Token}
    (shown : front.map piece = node.flatten) (enough : front.length ≤ calls) :
    parseStmt calls (front ++ rest) = .ok (node, rest) := by
  cases calls with
  | zero =>
    rw [Nat.le_zero, length_eq_zero_iff] at enough
    rw [enough, map_nil] at shown
    exact absurd shown.symm (flatten_ne_nil node)
  | succ calls =>
    rw [parseStmt_eq_ok]
    match node with
    | .directive name args =>
      obtain ⟨nameTok, argToks, _, rfl, nameKind, nameLexeme, argsShown, lastShown⟩ :=
        exists_words shown
      rw [map_eq_singleton_iff] at lastShown
      obtain ⟨stop, rfl, stopShown⟩ := lastShown
      have stopKind : stop.kind = .semicolon := congrArg Prod.fst stopShown
      have found : parseArgs (argToks ++ stop :: rest) = (args, stop :: rest) :=
        parseArgs_words argsShown (by simp [stopKind])
      refine ⟨nameTok, args, stop, argToks ++ stop :: rest, rest, by simp, nameKind, found, ?_⟩
      exact .inl ⟨stopKind, by rw [nameLexeme], rfl⟩
    | .block name args children =>
      obtain ⟨nameTok, argToks, _, rfl, nameKind, nameLexeme, argsShown, lastShown⟩ :=
        exists_words shown
      rw [map_eq_cons_iff] at lastShown
      obtain ⟨opening, inside, rfl, openShown, lastShown⟩ := lastShown
      rw [map_eq_append_iff] at lastShown
      obtain ⟨inner, final, rfl, innerShown, finalShown⟩ := lastShown
      rw [map_eq_singleton_iff] at finalShown
      obtain ⟨closing, rfl, closeShown⟩ := finalShown
      have openKind : opening.kind = .lBrace := congrArg Prod.fst openShown
      have closeKind : closing.kind = .rBrace := congrArg Prod.fst closeShown
      have found : parseArgs (argToks ++ opening :: (inner ++ closing :: rest)) =
          (args, opening :: (inner ++ closing :: rest)) :=
        parseArgs_words argsShown (by simp [openKind])
      have parsed : parseItems calls true (inner ++ closing :: rest) =
          .ok (children, closing :: rest) := by
        apply parseItems_flatten innerShown
        · simp only [length_cons, length_append] at enough
          omega
        · exact ⟨closing, rest, rfl, closeKind⟩
      refine ⟨nameTok, args, opening, argToks ++ opening :: (inner ++ closing :: rest),
        inner ++ closing :: rest, by simp, nameKind, found, ?_⟩
      exact .inr ⟨openKind, children, closing, closeKind, parsed, by rw [nameLexeme]⟩

private lemma parseItems_flatten {calls : Nat} {untilRbrace : Bool} {nodes : List Node}
    {front rest : List Token} (shown : front.map piece = flattenAll nodes)
    (enough : front.length < calls)
    (ends : if untilRbrace then ∃ token others, rest = token :: others ∧ token.kind = .rBrace
      else rest = []) :
    parseItems calls untilRbrace (front ++ rest) = .ok (nodes, rest) := by
  cases calls with
  | zero => exact absurd enough (Nat.not_lt_zero _)
  | succ calls =>
    rw [parseItems_eq_ok]
    match nodes with
    | [] =>
      rw [flattenAll, map_eq_nil_iff] at shown
      rw [shown, nil_append]
      exact .inl ⟨rfl, rfl, ends⟩
    | node :: nodes =>
      rw [flattenAll, map_eq_append_iff] at shown
      obtain ⟨first, others, rfl, firstShown, othersShown⟩ := shown
      rw [length_append] at enough
      cases first with
      | nil => exact absurd firstShown.symm (flatten_ne_nil node)
      | cons token tokens =>
        rw [length_cons] at enough
        have kind : token.kind = .ident := kind_of_flatten firstShown
        have one : parseStmt calls (token :: tokens ++ (others ++ rest)) =
            .ok (node, others ++ rest) := by
          apply parseStmt_flatten firstShown
          rw [length_cons]
          omega
        have more : parseItems calls untilRbrace (others ++ rest) = .ok (nodes, rest) := by
          apply parseItems_flatten othersShown _ ends
          omega
        rw [append_assoc]
        exact .inr ⟨token, tokens ++ (others ++ rest), node, others ++ rest, nodes, rfl,
          by simp [kind], one, more, rfl⟩

end

def Spelled : TokenType × String → Prop
  | (.lBrace, lexeme) => lexeme = "\x7b"
  | (.rBrace, lexeme) => lexeme = "\x7d"
  | (.semicolon, lexeme) => lexeme = ";"
  | (.ident, _) => True

private lemma spelled_punct (punct : punctTokenType char = some kind) :
    Spelled (kind, String.ofList [char]) := by
  unfold punctTokenType at punct
  split at punct
  next opens =>
    cases punct
    rw [opens]
    rfl
  split at punct
  next closes =>
    cases punct
    rw [closes]
    rfl
  split at punct
  next stops =>
    cases punct
    rw [stops]
    rfl
  cases punct

private lemma spelled_readTokens {line : Nat} {reading : Reading} {token : Token}
    (mem : token ∈ readTokens line reading text) : Spelled token.piece := by
  have ofWord : ∀ line word, token ∈ wordToken line word → Spelled token.piece := by
    intro line word mem
    unfold wordToken at mem
    split at mem
    · cases mem
    · rw [mem_singleton.mp mem]
      trivial
  induction text generalizing line reading with
  | nil =>
    cases reading with
    | word pending => exact ofWord line pending mem
    | comment => cases mem
  | cons char rest ih =>
    cases reading with
    | word pending =>
      rw [readTokens] at mem
      split at mem
      · exact (mem_append.mp mem).elim (ofWord line pending) ih
      split at mem
      · exact (mem_append.mp mem).elim (ofWord line pending) ih
      split at mem
      · exact (mem_append.mp mem).elim (ofWord line pending) ih
      cases punct : punctTokenType char with
      | some kind =>
        simp only [punct] at mem
        rcases mem_append.mp mem with flushed | mem
        · exact ofWord line pending flushed
        rcases mem_cons.mp mem with rfl | later
        · exact spelled_punct punct
        · exact ih later
      | none =>
        simp only [punct] at mem
        exact ih mem
    | comment =>
      rw [readTokens] at mem
      split at mem
      · exact ih mem
      · exact ih mem

private lemma map_piece_parseArgs {tokens : List Token} {args : List String}
    (parsed : parseArgs tokens = (args, rest)) :
    tokens.map piece = wordPieces args ++ rest.map piece := by
  induction tokens generalizing args with
  | nil =>
    cases parsed
    rfl
  | cons token others ih =>
    rw [parseArgs] at parsed
    split at parsed
    next word =>
      cases split' : parseArgs others with
      | mk later after =>
        rw [split'] at parsed
        cases parsed
        rw [map_cons, ih split', piece, word]
        rfl
    next =>
      cases parsed
      rfl

private lemma map_piece_parse (calls : Nat) :
    (∀ untilRbrace tokens items rest, (∀ piece ∈ tokens.map Token.piece, Spelled piece) →
      parseItems calls untilRbrace tokens = .ok (items, rest) →
      tokens.map piece = flattenAll items ++ rest.map piece) ∧
    (∀ tokens node rest, (∀ piece ∈ tokens.map Token.piece, Spelled piece) →
      parseStmt calls tokens = .ok (node, rest) →
      tokens.map piece = node.flatten ++ rest.map piece) := by
  induction calls with
  | zero =>
    constructor
    · intro untilRbrace tokens items rest _ parsed
      cases parsed
    · intro tokens node rest _ parsed
      cases parsed
  | succ calls ih =>
    constructor
    · intro untilRbrace tokens items rest spelled parsed
      rcases parseItems_eq_ok.mp parsed with
        ⟨rfl, rfl, _⟩ | ⟨token, others, node, middle, later, _, _, first, second, rfl⟩
      · rfl
      · have one := ih.2 _ _ _ spelled first
        have spelledMiddle : ∀ piece ∈ middle.map Token.piece, Spelled piece := by
          intro piece mem
          apply spelled
          rw [one]
          exact mem_append_right _ mem
        rw [one, ih.1 _ _ _ _ spelledMiddle second, flattenAll, append_assoc]
    · intro tokens node rest spelled parsed
      rcases parseStmt_eq_ok.mp parsed with
        ⟨nameTok, args, token, others, after, rfl, word, found, ended⟩
      have shown : (nameTok :: others).map piece =
          wordPieces (nameTok.lexeme :: args) ++ token.piece :: after.map piece := by
        rw [map_cons, map_piece_parseArgs found, piece, word]
        rfl
      rw [shown] at spelled ⊢
      have spelledToken : Spelled token.piece := spelled _ (mem_append_right _ mem_cons_self)
      rcases ended with ⟨stops, rfl, rfl⟩ | ⟨opens, children, brace, closes, inner, rfl⟩
      · rw [piece, stops] at spelledToken
        rw [Node.flatten, append_assoc, Token.piece, stops, spelledToken]
        rfl
      · have spelledAfter : ∀ piece ∈ after.map Token.piece, Spelled piece :=
          fun piece mem => spelled piece
            (mem_append_right _ (mem_cons_of_mem _ mem))
        have inside := ih.1 _ _ _ _ spelledAfter inner
        rw [map_cons] at inside
        have spelledBrace : Spelled brace.piece := by
          apply spelledAfter
          rw [inside]
          exact mem_append_right _ mem_cons_self
        rw [Token.piece, opens] at spelledToken
        rw [Token.piece, closes] at spelledBrace
        rw [inside, Node.flatten, Token.piece, opens, spelledToken, Token.piece, closes,
          spelledBrace]
        simp [append_assoc, cons_append, nil_append]

private lemma rest_of_parseItems {calls : Nat} {tokens : List Token} {items : List Node}
    (parsed : parseItems calls false tokens = .ok (items, rest)) : rest = [] := by
  induction calls generalizing tokens items with
  | zero => cases parsed
  | succ calls ih =>
    rcases parseItems_eq_ok.mp parsed with
      ⟨_, rfl, ended⟩ | ⟨token, others, node, middle, later, _, _, _, second, _⟩
    · exact ended
    · exact ih second

/-- Braces balance, and every statement has a name and its terminator.  `depth`
blocks are open; `named` tells that the words of a statement stand just before. -/
def Balanced : Nat → Bool → List TokenType → Prop
  | depth, named, [] => depth = 0 ∧ named = false
  | depth, _, .ident :: rest => Balanced depth true rest
  | depth, named, .semicolon :: rest => named = true ∧ Balanced depth false rest
  | depth, named, .lBrace :: rest => named = true ∧ Balanced (depth + 1) false rest
  | depth, named, .rBrace :: rest => named = false ∧ 0 < depth ∧ Balanced (depth - 1) false rest

private lemma balanced_words (depth : Nat) (named : Bool) (name : String) (args : List String)
    (rest : List TokenType) (balanced : Balanced depth true rest) :
    Balanced depth named ((wordPieces (name :: args)).map Prod.fst ++ rest) := by
  induction args generalizing named name with
  | nil => exact balanced
  | cons word args ih => exact ih true word

mutual

private lemma balanced_flatten (depth : Nat) (node : Node) (rest : List TokenType)
    (balanced : Balanced depth false rest) :
    Balanced depth false (node.flatten.map Prod.fst ++ rest) := by
  match node with
  | .directive name args =>
    rw [Node.flatten, map_append, append_assoc]
    apply balanced_words
    exact ⟨rfl, balanced⟩
  | .block name args children =>
    rw [Node.flatten, map_append, append_assoc]
    apply balanced_words
    refine ⟨rfl, ?_⟩
    show Balanced (depth + 1) false
      ((flattenAll children ++ [(TokenType.rBrace, "\x7d")]).map Prod.fst ++ rest)
    rw [map_append, append_assoc]
    apply balanced_flattenAll
    exact ⟨rfl, Nat.succ_pos depth, balanced⟩

private lemma balanced_flattenAll (depth : Nat) (nodes : List Node) (rest : List TokenType)
    (balanced : Balanced depth false rest) :
    Balanced depth false ((flattenAll nodes).map Prod.fst ++ rest) := by
  match nodes with
  | [] => exact balanced
  | node :: nodes =>
    rw [flattenAll, map_append, append_assoc]
    apply balanced_flatten
    exact balanced_flattenAll depth nodes rest balanced

end

/-- Parsing inverts every rendering, and an accepted text has the tokens of its
tree; so a text whose braces do not balance, or with a statement that has no name
or no terminator, is rejected. -/
theorem parsed_config_is_the_rendered_tree (ast : Ast) (text : String) :
    (wordedAll ast.items → RendersAll ast.items text.toList → parseConfig text = .ok ast) ∧
      (parseConfig text = .ok ast →
        (tokenize text).map lexeme = (flattenAll ast.items).map Prod.snd ∧
          (tokenize text).map Token.kind = (flattenAll ast.items).map Prod.fst ∧
          Balanced 0 false ((tokenize text).map Token.kind)) := by
  constructor
  · intro worded rendered
    have shown := map_piece_tokenize rendered worded
    have parsed : parseItems ((tokenize text).length + 1) false (tokenize text ++ []) =
        .ok (ast.items, []) :=
      parseItems_flatten shown (Nat.lt_succ_self _) rfl
    rw [append_nil] at parsed
    rw [parseConfig, parseTokens, parsed]
    rfl
  · intro accepted
    rcases bind_eq_ok.mp accepted with ⟨⟨items, rest⟩, parsed, done⟩
    cases done
    have spelled : ∀ piece ∈ (tokenize text).map Token.piece, Spelled piece := by
      intro piece member
      rcases mem_map.mp member with ⟨token, read, rfl⟩
      rw [tokenize_eq] at read
      exact spelled_readTokens read
    have ended : rest = [] := rest_of_parseItems parsed
    have shown := (map_piece_parse _).1 _ _ _ _ spelled parsed
    rw [ended, map_nil, append_nil] at shown
    have lexemes : (tokenize text).map lexeme = (flattenAll items).map Prod.snd := by
      rw [← shown, map_map]
      rfl
    have kinds : (tokenize text).map kind = (flattenAll items).map Prod.fst := by
      rw [← shown, map_map]
      rfl
    refine ⟨lexemes, kinds, ?_⟩
    rw [kinds, ← append_nil (List.map Prod.fst _)]
    exact balanced_flattenAll 0 items [] ⟨rfl, rfl⟩

theorem commented_block_is_parsed :
    parseConfig "http \x7b\n  h2c on; # plain\n\x7d" =
      .ok { items := [.block "http" [] [.directive "h2c" ["on"]]] } := by
  have word : ∀ text ∈ ["http", "h2c", "on"], IsWord text := by
    intro text member
    have checked : ∀ text ∈ ["http", "h2c", "on"], text.toList ≠ [] ∧
        (text.toList.all fun char => decide (Text.isWhitespace char = false ∧
          char ≠ '\x7b' ∧ char ≠ '\x7d' ∧ char ≠ ';' ∧ char ≠ '#')) = true := by
      decide
    exact ⟨(checked text member).1, all_iff_forall_prop.mp (checked text member).2⟩
  have space : Gap [' '] := .blank rfl .nil
  have indent : Gap ['\n', ' ', ' '] := .blank rfl (.blank rfl (.blank rfl .nil))
  have comment : Gap (' ' :: '#' :: (" plain".toList ++ ['\n'])) :=
    .blank rfl (.comment (by decide) .nil)
  have directive : Renders (.directive "h2c" ["on"])
      (("h2c".toList ++ ([' '] ++ "on".toList)) ++ ([] ++ [';'])) :=
    .directive (.more space (by decide) (.last "on")) .nil
  have block := Renders.block (.last "http") space (.cons indent directive (.nil comment))
  refine (parsed_config_is_the_rendered_tree _ _).1 ?_ (.cons .nil block (.nil .nil))
  simp only [wordedAll, Worded, mem_cons, not_mem_nil, or_false, forall_eq,
    forall_eq_or_imp, and_true]
  exact ⟨word _ (by decide), word _ (by decide), word _ (by decide)⟩

end Ngxora.Config
