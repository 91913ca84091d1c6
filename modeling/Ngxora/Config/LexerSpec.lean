/-
What the tokens of a text are.
-/

import Ngxora.Config.Lexer

namespace Ngxora.Config

open List

def isWordChar (char : Char) : Bool :=
  !Text.isWhitespace char && char != '#' && (punctTokenType char).isNone

/-- What follows this part of a text is in a comment: its last line has a hash sign. -/
def Commented (before : List Char) : Prop := '#' ∈ before.rtakeWhile (· != '\n')

/-- A piece of the text and what stands before it. -/
structure Place where
  before : List Char
  body : List Char
  kind : TokenType

def Place.stop (place : Place) : Nat := place.before.length + place.body.length

def Place.token (place : Place) : Token :=
  { kind := place.kind
    len := Text.width place.body
    lexeme := String.ofList place.body
    numberLine := 1 + place.before.count '\n' }

/-- A mark, or a maximal run of word characters. -/
inductive Body (before after : List Char) : List Char → TokenType → Prop where
  | mark {char : Char} {kind : TokenType} (isMark : punctTokenType char = some kind) :
      Body before after [char] kind
  | word {body : List Char} (nonempty : body ≠ []) (inside : ∀ char ∈ body, isWordChar char)
      (left : ∀ char ∈ before.getLast?, isWordChar char = false)
      (right : ∀ char ∈ after.head?, isWordChar char = false) :
      Body before after body .ident

structure IsPlace (text : List Char) (place : Place) : Prop where
  outside : ¬Commented place.before
  body : ∃ after, text = place.before ++ (place.body ++ after) ∧
    Body place.before after place.body place.kind

/-- The tokens stand from left to right, outside comments. -/
def Lists (text : List Char) (position : Nat) (tokens : List Token) : Prop :=
  ∃ places : List Place, tokens = places.map Place.token ∧
    places.Pairwise (fun left right => left.stop ≤ right.before.length) ∧
    ∀ place, place ∈ places ↔ IsPlace text place ∧ position ≤ place.before.length

section Places

variable {text before after pending rest : List Char} {char : Char} {place : Place}
  {tokens : List Token} {kind : TokenType}

lemma commented_concat : Commented (before ++ [char]) ↔
    char ≠ '\n' ∧ (char = '#' ∨ Commented before) := by
  by_cases newline : char = '\n'
  · simp [Commented, newline]
  · simp [Commented, newline, @eq_comm _ '#', or_comm]

lemma Body.nonempty {body : List Char} (isBody : Body before after body kind) : body ≠ [] := by
  cases isBody with
  | mark isMark => simp
  | word ne inside left right => exact ne

lemma not_isWordChar_of_mark (isMark : punctTokenType char = some kind) :
    isWordChar char = false := by
  simp [isWordChar, isMark]

lemma Lists.skip {pos next : Nat} (order : pos ≤ next)
    (none : ∀ place, IsPlace text place → pos ≤ place.before.length →
      next ≤ place.before.length)
    (later : Lists text next tokens) : Lists text pos tokens := by
  obtain ⟨places, same, sorted, members⟩ := later
  refine ⟨places, same, sorted, fun place => (members place).trans ?_⟩
  exact ⟨fun found => ⟨found.1, order.trans found.2⟩, fun found => ⟨found.1, none place found.1 found.2⟩⟩

lemma Lists.cons (isPlace : IsPlace text place)
    (only : ∀ other, IsPlace text other → place.before.length ≤ other.before.length →
      other = place ∨ place.stop ≤ other.before.length) (later : Lists text place.stop tokens) :
    Lists text place.before.length (place.token :: tokens) := by
  obtain ⟨places, rfl, sorted, members⟩ := later
  refine ⟨place :: places, rfl, ?_, fun other => ?_⟩
  · exact pairwise_cons.mpr ⟨fun other mem => ((members other).mp mem).2, sorted⟩
  · rw [mem_cons, members]
    constructor
    · rintro (rfl | ⟨isOther, after⟩)
      · exact ⟨isPlace, le_refl _⟩
      · exact ⟨isOther, (Nat.le_add_right _ _).trans after⟩
    · rintro ⟨isOther, after⟩
      exact (only other isOther after).imp_right fun later => ⟨isOther, later⟩

lemma IsPlace.body_at (isPlace : IsPlace text place) (split : text = before ++ rest)
    (here : place.before.length = before.length) :
    place.before = before ∧ ∃ after, rest = place.body ++ after ∧
      Body before after place.body place.kind := by
  obtain ⟨after, whole, isBody⟩ := isPlace.body
  obtain ⟨same, follows⟩ := append_inj (whole.symm.trans split) here
  exact ⟨same, after, follows.symm, same ▸ isBody⟩

lemma Lists.nil : Lists text text.length [] := by
  refine ⟨[], rfl, .nil, fun place => iff_of_false (not_mem_nil) ?_⟩
  rintro ⟨⟨_, after, whole, isBody⟩, past⟩
  have length := congrArg List.length whole
  have positive := length_pos_iff.mpr isBody.nonempty
  simp only [length_append] at length
  omega

lemma Lists.comment (split : text = before ++ char :: rest) (inside : Commented before)
    (later : Lists text (before ++ [char]).length tokens) :
    Lists text before.length tokens := by
  refine later.skip (by simp) fun place isPlace after => ?_
  rw [length_append, length_singleton]
  refine Nat.lt_of_le_of_ne after fun here => isPlace.outside ?_
  exact (isPlace.body_at split here.symm).1 ▸ inside

lemma Lists.mark (split : text = before ++ char :: rest) (outside : ¬Commented before)
    (noWord : isWordChar char = false)
    (later : Lists text (before ++ [char]).length tokens) : Lists text before.length
      (((punctTokenType char).map fun kind => Place.token ⟨before, [char], kind⟩).toList ++
        tokens) := by
  have marks : ∀ place, IsPlace text place → place.before.length = before.length →
      ∃ kind, punctTokenType char = some kind ∧ place = ⟨before, [char], kind⟩ := by
    intro place isPlace here
    obtain ⟨same, after, follows, isBody⟩ := isPlace.body_at split here
    obtain ⟨_, body, kind⟩ := place
    subst same
    cases isBody with
    | mark isMark =>
      cases (List.cons.inj follows).1
      exact ⟨kind, isMark, rfl⟩
    | word ne inside left right =>
      cases body with
      | nil => exact absurd rfl ne
      | cons first others =>
        cases (List.cons.inj follows).1
        simp [inside char mem_cons_self] at noWord
  cases mark : punctTokenType char with
  | none =>
    refine later.skip (by simp) fun place isPlace after => ?_
    rw [length_append, length_singleton]
    refine Nat.lt_of_le_of_ne after fun here => ?_
    obtain ⟨_, isMark, _⟩ := marks place isPlace here.symm
    cases mark.symm.trans isMark
  | some kind =>
    have isPlace : IsPlace text ⟨before, [char], kind⟩ := ⟨outside, rest, split, .mark mark⟩
    refine Lists.cons isPlace (fun other isOther after => ?_) (by simpa [Place.stop] using later)
    rcases Nat.eq_or_lt_of_le after with here | past
    · obtain ⟨_, isMark, rfl⟩ := marks other isOther here.symm
      cases mark.symm.trans isMark
      exact .inl rfl
    · exact .inr past

lemma IsPlace.eq_run (isPlace : IsPlace text place) (split : text = before ++ (pending ++ rest))
    (inside : ∀ char ∈ pending, isWordChar char)
    (right : ∀ char ∈ rest.head?, isWordChar char = false)
    (behind : before.length ≤ place.before.length)
    (within : place.before.length < (before ++ pending).length) :
    place = ⟨before, pending, .ident⟩ := by
  obtain ⟨_, after, whole, isBody⟩ := isPlace
  obtain ⟨start, body, kind⟩ := place
  obtain ⟨front, rfl⟩ := prefix_of_prefix_length_le ⟨_, split.symm⟩ ⟨_, whole.symm⟩ behind
  have cut : pending ++ rest = front ++ (body ++ after) := by simpa using split.symm.trans whole
  have short : front.length < pending.length := by simpa using within
  obtain ⟨back, rfl⟩ := prefix_of_prefix_length_le ⟨_, rfl⟩ ⟨_, cut⟩ short.le
  have follows : back ++ rest = body ++ after := by simpa using cut
  cases isBody with
  | mark isMark =>
    cases back with
    | nil => simp at short
    | cons first others =>
      have wordChar := inside first (by simp)
      rw [(List.cons.inj follows).1, not_isWordChar_of_mark isMark] at wordChar
      cases wordChar
  | word _ insideBody left rightBody =>
    have start : front = [] := by
      by_contra ne
      have wordChar := inside (front.getLast ne) (by simp)
      rw [left _ (by simp [getLast?_append, getLast?_eq_some_getLast ne])] at wordChar
      cases wordChar
    subst start
    have same : back = body := calc
      back = (back ++ rest).takeWhile isWordChar := (Text.span_append inside right).1.symm
      _ = (body ++ after).takeWhile isWordChar := by rw [follows]
      _ = body := (Text.span_append insideBody rightBody).1
    simp [same]

lemma Lists.word (split : text = before ++ (pending ++ rest)) (outside : ¬Commented before)
    (inside : ∀ char ∈ pending, isWordChar char)
    (left : ∀ char ∈ before.getLast?, isWordChar char = false)
    (right : ∀ char ∈ rest.head?, isWordChar char = false)
    (later : Lists text (before ++ pending).length tokens) :
    Lists text before.length (wordToken (1 + before.count '\n') pending ++ tokens) := by
  by_cases empty : pending = []
  · simpa [empty] using later
  have isPlace : IsPlace text ⟨before, pending, .ident⟩ :=
    ⟨outside, rest, split, .word empty inside left right⟩
  have token : wordToken (1 + before.count '\n') pending =
      [Place.token ⟨before, pending, .ident⟩] := by
    simp [wordToken, empty, Place.token]
  rw [length_append] at later
  rw [token]
  refine Lists.cons isPlace (fun other isOther behind => ?_) later
  rw [or_iff_not_imp_right, Nat.not_le]
  intro within
  exact isOther.eq_run split inside right behind (by simpa [Place.stop] using within)

end Places

lemma lists_readTokens (text rest : List Char) :
    (∀ before pending, text = before ++ (pending ++ rest) → ¬Commented before →
      ¬Commented (before ++ pending) → (∀ char ∈ pending, isWordChar char) →
      (∀ char ∈ before.getLast?, isWordChar char = false) →
      Lists text before.length (readTokens (1 + before.count '\n') (.word pending) rest)) ∧
    (∀ before, text = before ++ rest → Commented before →
      Lists text before.length (readTokens (1 + before.count '\n') .comment rest)) := by
  induction rest with
  | nil =>
    constructor
    · intro before pending split outside _ inside left
      have later : Lists text (before ++ pending).length [] := by
        rw [append_nil] at split
        exact split ▸ Lists.nil
      simpa [readTokens] using later.word split outside inside left (by simp)
    · intro before split _
      rw [append_nil] at split
      exact split ▸ Lists.nil
  | cons char rest ih =>
    obtain ⟨inWord, inComment⟩ := ih
    -- the character ends its line, its word or its comment
    have again : ∀ before, text = before ++ char :: rest →
        ¬Commented (before ++ [char]) → isWordChar char = false →
        Lists text (before ++ [char]).length
          (readTokens (1 + (before ++ [char]).count '\n') (.word []) rest) := by
      intro before split outside noWord
      exact inWord _ [] (by simp [split]) outside (by simpa using outside) (by simp) (by simp [noWord])
    constructor
    · intro before pending split outside outsideWord inside left
      have joined : text = (before ++ pending) ++ char :: rest := by simp [split]
      have noLine : pending.count '\n' = 0 := by
        refine count_eq_zero.mpr fun mem => ?_
        cases inside '\n' mem
      have close {tokens : List Token} (noWord : isWordChar char = false)
          (later : Lists text (before ++ pending ++ [char]).length tokens) :=
        (later.mark joined outsideWord noWord).word split outside inside left (by simpa using noWord)
      have stays (notHash : char ≠ '#') : ¬Commented (before ++ pending ++ [char]) :=
        fun commented => (commented_concat.mp commented).2.elim notHash outsideWord
      rw [readTokens]
      by_cases newline : char = '\n'
      · subst newline
        have later := again _ joined (stays (by decide)) rfl
        simpa [noLine, Nat.add_assoc, punctTokenType] using close rfl later
      rw [if_neg newline]
      by_cases blank : Text.isWhitespace char = true
      · have noWord : isWordChar char = false := by simp [isWordChar, blank]
        have other {mark : Char} (visible : Text.isWhitespace mark = false) : char ≠ mark := by
          rintro rfl
          cases blank.symm.trans visible
        have later := again _ joined (stays (other (by decide))) noWord
        have noMark : punctTokenType char = none := by
          rw [punctTokenType, if_neg (other (by decide)), if_neg (other (by decide)),
            if_neg (other (by decide))]
        simpa [noLine, newline, blank, noMark] using close noWord later
      rw [if_neg blank]
      by_cases hash : char = '#'
      · subst hash
        have later := inComment (before ++ pending ++ ['#']) (by simp [joined])
          (commented_concat.mpr ⟨newline, .inl rfl⟩)
        simpa [noLine, punctTokenType] using close rfl later
      rw [if_neg hash]
      cases mark : punctTokenType char with
      | some kind =>
        have noWord := not_isWordChar_of_mark mark
        simpa [noLine, newline, mark, Place.token] using close noWord (again _ joined (stays hash) noWord)
      | none =>
        have wordChar : isWordChar char = true := by simp [isWordChar, blank, hash, mark]
        refine inWord before (pending ++ [char]) (by simp [split]) outside
          (by simpa using stays hash) ?_ left
        simpa [or_imp, forall_and, wordChar] using inside
    · intro before split commented
      rw [readTokens]
      by_cases newline : char = '\n'
      · rw [if_pos newline]
        have later := again before split (by simp [commented_concat, newline]) (by simp [newline]; decide)
        simpa [newline, Nat.add_assoc] using later.comment split commented
      · rw [if_neg newline]
        have later := inComment (before ++ [char]) (by simp [split])
          (commented_concat.mpr ⟨newline, .inr commented⟩)
        simpa [newline] using later.comment split commented

/-- The tokens of a text are those of its places, from left to right. -/
theorem tokenize_lists_places (text : String) :
    ∃ places : List Place, tokenize text = places.map Place.token ∧
      places.Pairwise (fun left right => left.stop ≤ right.before.length) ∧
      ∀ place, place ∈ places ↔ IsPlace text.toList place := by
  rw [tokenize_eq]
  have listed := (lists_readTokens text.toList text.toList).1 [] [] rfl (by simp [Commented])
    (by simp [Commented]) (by simp) (by simp)
  simpa [Lists] using listed

end Ngxora.Config
