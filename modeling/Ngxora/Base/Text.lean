/-
Text operations of the Rust standard library, defined on lists of characters so that their laws are
laws of lists.
-/

import Mathlib.Algebra.GroupWithZero.Nat
import Mathlib.Data.Bool.AllAny
import Mathlib.Data.List.DropRight
import Mathlib.Data.List.Infix
import Mathlib.Data.String.Basic

namespace Ngxora.Text

open List
open String (ofList)

/-- The characters with the Unicode property `White_Space`. -/
def isWhitespace (char : Char) : Bool :=
  let code := char.toNat
  (9 ≤ code && code ≤ 13) || code == 0x20 || code == 0x85 || code == 0xA0 || code == 0x1680 ||
    (0x2000 ≤ code && code ≤ 0x200A) || code == 0x2028 || code == 0x2029 || code == 0x202F ||
    code == 0x205F || code == 0x3000

def trimChars (drop : Char → Bool) (chars : List Char) : List Char :=
  (chars.dropWhile drop).rdropWhile drop

def trim (text : String) : String := ofList (trimChars isWhitespace text.toList)

def isBlank (text : String) : Bool := (trim text).isEmpty

def trimEndMatches (char : Char) (text : String) : String :=
  ofList (text.toList.rdropWhile (· == char))

def toAsciiLowercase (text : String) : String := ofList (text.toList.map Char.toLower)

def toAsciiUppercase (text : String) : String := ofList (text.toList.map Char.toUpper)

def eqIgnoreAsciiCase (left right : String) : Bool :=
  toAsciiLowercase left == toAsciiLowercase right

def startsWith (start text : String) : Bool := start.toList.isPrefixOf text.toList

def endsWith (ending text : String) : Bool := ending.toList.isSuffixOf text.toList

def contains (char : Char) (text : String) : Bool := text.toList.contains char

def containsText (part text : String) : Bool := text.toList.tails.any part.toList.isPrefixOf

def afterStart (start text : String) : Option String :=
  if startsWith start text then some (ofList (text.toList.drop start.toList.length))
  else none

def beforeEnd (ending text : String) : Option String :=
  if endsWith ending text then
    some (ofList (text.toList.take (text.toList.length - ending.toList.length)))
  else none

def byteLength (text : String) : Nat := (text.toList.map Char.utf8Size).sum

variable {text : String} {sep char mark : Char} {right : List Char}

variable {left start : String} {part core chars : List Char} {drop : Char → Bool}

lemma suffix_of_byteLength_le {right : String} (leftEnds : left.toList <:+ text.toList)
    (rightEnds : right.toList <:+ text.toList) (shorter : byteLength left ≤ byteLength right) :
    left.toList <:+ right.toList := by
  rcases suffix_or_suffix_of_suffix leftEnds rightEnds with ends | ⟨rest, split⟩
  · exact ends
  · have noBytes : (rest.map Char.utf8Size).sum = 0 := by
      simp only [byteLength, ← split, map_append, sum_append] at shorter
      omega
    cases rest with
    | nil => rw [← split, nil_append]
    | cons char others =>
      have positive := char.utf8Size_pos
      simp only [map_cons, sum_cons] at noBytes
      omega

def splitOn (separator : Char) (text : String) : List String :=
  (text.toList.splitOn separator).map ofList

def splitOnce (separator : Char) (text : String) : Option (String × String) :=
  if separator ∈ text.toList then
    some (ofList (text.toList.takeWhile (· != separator)),
      ofList ((text.toList.dropWhile (· != separator)).drop 1))
  else none

def trimMatches (char : Char) (text : String) : String :=
  ofList (trimChars (· == char) text.toList)

lemma splitOn_induction {motive : List Char → List (List Char) → Prop}
    (single : ∀ part, sep ∉ part → motive part [part])
    (more : ∀ part rest, sep ∉ part → motive rest (rest.splitOn sep) →
      motive (part ++ sep :: rest) (part :: rest.splitOn sep)) (text : List Char) :
    motive text (text.splitOn sep) := by
  induction size : text.length using Nat.strongRecOn generalizing text with
  | ind _ ih =>
    by_cases here : sep ∈ text
    · obtain ⟨part, rest, rfl, absent⟩ := eq_append_cons_of_mem here
      rw [length_append, length_cons] at size
      rw [splitOn_append_cons_self_of_not_mem absent]
      exact more part rest absent (ih rest.length (by omega) rest rfl)
    · rw [splitOn_eq_singleton here]
      exact single text here

lemma notMem_of_mem_splitOn {text : List Char} (mem : part ∈ text.splitOn sep) :
    sep ∉ part := by
  revert mem
  refine splitOn_induction (motive := fun _ parts => part ∈ parts → sep ∉ part) ?_ ?_ text
  · intro single absent mem
    rwa [mem_singleton.mp mem]
  · intro first rest absent ih mem
    rcases mem_cons.mp mem with rfl | later
    · exact absent
    · exact ih later

lemma exists_mem_splitOn {text : List Char} (ne : char ≠ sep)
    (mem : char ∈ text) : ∃ part ∈ text.splitOn sep, char ∈ part := by
  revert mem
  refine splitOn_induction
    (motive := fun text parts => char ∈ text → ∃ part ∈ parts, char ∈ part) ?_ ?_ text
  · intro part _ mem
    exact ⟨part, mem_singleton_self part, mem⟩
  · intro first rest _ ih mem
    rcases mem_append.mp mem with inFirst | later
    · exact ⟨first, mem_cons_self, inFirst⟩
    · obtain ⟨part, here, inPart⟩ := ih ((mem_cons.mp later).resolve_left ne)
      exact ⟨part, mem_cons_of_mem _ here, inPart⟩

lemma splitOn_prefix_iff {left : List Char} : left.splitOn sep <+: right.splitOn sep ↔
    right = left ∨ ∃ rest, right = left ++ sep :: rest := by
  have injective {first second : List Char}
      (same : first.splitOn sep = second.splitOn sep) : first = second := by
    have joined := congrArg [sep].intercalate same
    rwa [intercalate_splitOn, intercalate_splitOn] at joined
  constructor
  · rintro ⟨more, split⟩
    by_cases empty : more = []
    · rw [empty, append_nil] at split
      exact .inl (injective split).symm
    · have clean : ∀ part ∈ more, sep ∉ part := fun part mem =>
        notMem_of_mem_splitOn (split ▸ mem_append_right _ mem)
      refine .inr ⟨[sep].intercalate more, injective ?_⟩
      rw [splitOn_append_cons_self, splitOn_intercalate sep clean empty, split]
  · rintro (same | ⟨rest, same⟩)
    · rw [same]
    · rw [same, splitOn_append_cons_self]
      exact prefix_append _ _

lemma span_append {front rest : List Char} (inside : ∀ char ∈ front, drop char = true)
    (stop : ∀ char, rest.head? = some char → drop char = false) :
    (front ++ rest).takeWhile drop = front ∧ (front ++ rest).dropWhile drop = rest := by
  rw [takeWhile_append_of_pos inside, dropWhile_append_of_pos inside]
  cases rest with
  | nil => simp
  | cons first others => simp [stop first rfl]

lemma span_until {before : List Char} (rest : List Char) (absent : mark ∉ before)
    (stop : ∀ char, rest.head? = some char → char = mark) :
    (before ++ rest).takeWhile (· ≠ mark) = before ∧
      (before ++ rest).dropWhile (· ≠ mark) = rest := by
  refine span_append (fun char mem => ?_) fun char first => ?_
  · exact decide_eq_true fun same => absent (same ▸ mem)
  · simpa using stop char first

lemma head?_splitOn (sep : Char) (text : List Char) :
    (text.splitOn sep).head? = some (text.takeWhile (· ≠ sep)) := by
  refine splitOn_induction (motive := fun text parts =>
    parts.head? = some (text.takeWhile (· ≠ sep))) ?_ ?_ text
  · intro part absent
    simpa using (span_until [] absent (by simp)).1.symm
  · intro part rest absent _
    rw [(span_until _ absent (by simp)).1]
    rfl

lemma infix_of_mem_splitOn {text : List Char} (mem : part ∈ text.splitOn sep) :
    part <:+: text := by
  revert mem
  refine splitOn_induction (motive := fun text parts => part ∈ parts → part <:+: text) ?_ ?_ text
  · intro single _ mem
    rw [mem_singleton.mp mem]
  · intro first rest _ ih mem
    rcases mem_cons.mp mem with rfl | later
    · exact (prefix_append _ _).isInfix
    · exact (ih later).trans ((suffix_cons sep rest).trans (suffix_append first _)).isInfix

lemma splitOn_change {change : List Char → List Char}
    (splits : ∀ left right, change (left ++ sep :: right) =
      change left ++ sep :: change right) {text : List Char}
    (clean : ∀ part ∈ text.splitOn sep, sep ∉ change part) :
    (change text).splitOn sep = (text.splitOn sep).map change := by
  revert clean
  refine splitOn_induction (motive := fun text parts => (∀ part ∈ parts, sep ∉ change part) →
      (change text).splitOn sep = parts.map change) ?_ ?_ text
  · intro part _ clean
    exact splitOn_eq_singleton (clean part (mem_singleton_self part))
  · intro part rest _ ih clean
    obtain ⟨first, later⟩ := forall_mem_cons.mp clean
    rw [splits, splitOn_append_cons_self_of_not_mem first, ih later]
    rfl

lemma splitOnce_of_notMem (absent : sep ∉ text.toList) :
    splitOnce sep text = none := if_neg absent

lemma splitOnce_append {before : List Char} (after : List Char) (absent : sep ∉ before) :
    splitOnce sep (ofList (before ++ sep :: after)) =
      some (ofList before, ofList after) := by
  have here : sep ∈ (ofList (before ++ sep :: after)).toList := by simp
  obtain ⟨taken, left⟩ : (before ++ sep :: after).takeWhile (· != sep) = before ∧
      (before ++ sep :: after).dropWhile (· != sep) = sep :: after := by
    refine span_append (fun char mem => bne_iff_ne.mpr ?_) (by simp)
    rintro rfl
    exact absent mem
  rw [splitOnce, if_pos here, String.toList_ofList, taken, left]
  rfl

lemma rdropWhile_append (rightDrops : ∀ char ∈ right, drop char = true)
    (last : ∀ char ∈ core.getLast?, drop char = false) :
    (core ++ right).rdropWhile drop = core := by
  rw [List.rdropWhile, reverse_append,
    dropWhile_append_of_pos (by simpa using rightDrops), ← List.rdropWhile,
    rdropWhile_eq_self_iff]
  intro ne
  simp [last _ (getLast?_eq_some_getLast ne)]

lemma trimChars_surrounded {left : List Char} (leftDrops : ∀ char ∈ left, drop char = true)
    (rightDrops : ∀ char ∈ right, drop char = true) (first : ∀ char ∈ core.head?, drop char = false)
    (last : ∀ char ∈ core.getLast?, drop char = false) :
    trimChars drop (left ++ core ++ right) = core := by
  unfold trimChars
  rw [append_assoc, dropWhile_append_of_pos leftDrops]
  cases core with
  | nil =>
    have all : right.dropWhile drop = [] := by simpa using rightDrops
    rw [nil_append, all]
    rfl
  | cons head rest =>
    rw [cons_append, dropWhile_cons_of_neg (by simp [first head rfl]), ← cons_append]
    exact rdropWhile_append rightDrops last

lemma trimChars_idem (drop : Char → Bool) (chars : List Char) :
    trimChars drop (trimChars drop chars) = trimChars drop chars := by
  unfold trimChars
  generalize stripped : chars.dropWhile drop = start
  have headKept : ∀ first, first ∈ start.head? → drop first = false := by
    intro first mem
    have notDropped := head?_dropWhile_not drop chars
    rwa [stripped, Option.mem_def.mp mem] at notDropped
  -- What is left after trimming the end still begins with the same char.
  have front : (start.rdropWhile drop).dropWhile drop = start.rdropWhile drop := by
    cases shape : start.rdropWhile drop with
    | nil => rfl
    | cons first rest =>
      have isPrefix : (first :: rest) <+: start := shape ▸ rdropWhile_prefix drop start
      obtain ⟨tail, whole⟩ := isPrefix
      have kept : drop first = false := headKept first (by rw [← whole]; rfl)
      rw [dropWhile_cons_of_neg (by simp [kept])]
  rw [front, rdropWhile_idempotent]

@[simp]
lemma trim_trim (text : String) : trim (trim text) = trim text := by
  simp [trim, trimChars_idem]

lemma trimChars_map (drop : Char → Bool) (f : Char → Char)
    (same : ∀ char, drop (f char) = drop char) (chars : List Char) :
    trimChars drop (chars.map f) = (trimChars drop chars).map f := by
  have composed : drop ∘ f = drop := funext same
  simp [trimChars, List.rdropWhile, dropWhile_map, ← map_reverse, composed]

@[simp]
lemma trimEndMatches_idem (char : Char) (text : String) :
    trimEndMatches char (trimEndMatches char text) = trimEndMatches char text := by
  simp only [trimEndMatches, String.toList_ofList]
  rw [rdropWhile_idempotent]

lemma trimEndMatches_toList_isPrefix (char : Char) (text : String) :
    (trimEndMatches char text).toList <+: text.toList := by
  rw [trimEndMatches, String.toList_ofList]
  exact rdropWhile_prefix _ _

lemma startsWith_iff : startsWith start text = true ↔ start.toList <+: text.toList := by
  simp [startsWith]

lemma afterStart_eq_some {rest : String} :
    afterStart start text = some rest ↔ text.toList = start.toList ++ rest.toList := by
  unfold afterStart
  constructor
  · intro found
    split at found
    next starts =>
      obtain ⟨others, split⟩ := startsWith_iff.mp starts
      rw [← Option.some.inj found, ← split, String.toList_ofList, drop_left]
    next => cases found
  · intro split
    have starts : startsWith start text = true := startsWith_iff.mpr ⟨_, split.symm⟩
    rw [if_pos starts, split, drop_left, String.ofList_toList]

lemma containsText_iff {part : String} :
    containsText part text = true ↔ part.toList <:+: text.toList := by
  simp only [containsText, any_eq_true, mem_tails, isPrefixOf_iff_prefix]
  rw [infix_iff_prefix_suffix]
  exact ⟨fun ⟨tail, isTail, starts⟩ => ⟨tail, starts, isTail⟩,
    fun ⟨tail, starts, isTail⟩ => ⟨tail, isTail, starts⟩⟩

lemma trim_eq_self (clean : ∀ char ∈ text.toList, isWhitespace char = false) :
    trim text = text := by
  have front : text.toList.dropWhile isWhitespace = text.toList := by
    rw [dropWhile_eq_self_iff]
    intro ne
    simpa using clean _ (getElem_mem ne)
  have back : text.toList.rdropWhile isWhitespace = text.toList := by
    rw [rdropWhile_eq_self_iff]
    intro ne
    simpa using clean _ (getLast_mem ne)
  rw [trim, trimChars, front, back, String.ofList_toList]

lemma trimEndMatches_ne_empty {other : Char} (mem : other ∈ text.toList)
    (ne : other ≠ mark) : trimEndMatches mark text ≠ "" := by
  intro empty
  have nil : text.toList.rdropWhile (· == mark) = [] := by
    simpa [trimEndMatches] using congrArg String.toList empty
  have allMarks := rdropWhile_eq_nil_iff.mp nil other mem
  exact ne (by simpa using allMarks)

lemma trimEndMatches_eq_self :
    trimEndMatches mark text = text ↔ text.toList.getLast? ≠ some mark := by
  rw [trimEndMatches, ← String.toList_inj, String.toList_ofList, rdropWhile_eq_self_iff]
  cases shape : text.toList using List.reverseRecOn with
  | nil | append_singleton front last => simp

lemma endsWith_singleton :
    endsWith (String.singleton mark) text = false ↔ text.toList.getLast? ≠ some mark := by
  rw [← Bool.not_eq_true, endsWith, isSuffixOf_iff_suffix, String.toList_singleton, ne_eq,
    not_iff_not, getLast?_eq_some_iff]
  exact ⟨fun ⟨front, same⟩ => ⟨front, same.symm⟩, fun ⟨front, same⟩ => ⟨front, same.symm⟩⟩

lemma toNat_toLower (char : Char) : char.toLower.toNat =
    if 65 ≤ char.toNat ∧ char.toNat ≤ 90 then char.toNat + 32
    else char.toNat := by
  unfold Char.toLower
  by_cases upper : char.val ≥ 'A'.val ∧ char.val ≤ 'Z'.val
  · have bounds : 65 ≤ char.toNat ∧ char.toNat ≤ 90 := upper
    rw [dif_pos upper, if_pos bounds]
    change (char.val + 32).toNat = char.val.toNat + 32
    have small : char.val.toNat ≤ 90 := bounds.2
    rw [UInt32.toNat_add]
    simp
    omega
  · have outside : ¬(65 ≤ char.toNat ∧ char.toNat ≤ 90) := upper
    rw [dif_neg upper, if_neg outside]

lemma toNat_toUpper (char : Char) : char.toUpper.toNat =
    if 97 ≤ char.toNat ∧ char.toNat ≤ 122 then char.toNat - 32
    else char.toNat := by
  unfold Char.toUpper
  by_cases lower : 'a'.val ≤ char.val ∧ char.val ≤ 'z'.val
  · have bounds : 97 ≤ char.toNat ∧ char.toNat ≤ 122 := lower
    rw [dif_pos lower, if_pos bounds]
    change (char.val + ('A'.val - 'a'.val)).toNat = char.val.toNat - 32
    have large : 97 ≤ char.val.toNat := bounds.1
    have small : char.val.toNat ≤ 122 := bounds.2
    have shift : ('A'.val - 'a'.val).toNat = 2 ^ 32 - 32 := rfl
    rw [UInt32.toNat_add, shift]
    omega
  · have outside : ¬(97 ≤ char.toNat ∧ char.toNat ≤ 122) := lower
    rw [dif_neg lower, if_neg outside]

lemma toLower_toLower (char : Char) : char.toLower.toLower = char.toLower := by
  apply Char.toNat_inj.mp
  grind [toNat_toLower]

lemma toUpper_toUpper (char : Char) : char.toUpper.toUpper = char.toUpper := by
  apply Char.toNat_inj.mp
  grind [toNat_toUpper]

lemma toLower_eq_iff
    (notLetter : ¬(65 ≤ mark.toNat ∧ mark.toNat ≤ 90 ∨ 97 ≤ mark.toNat ∧ mark.toNat ≤ 122)) :
    char.toLower = mark ↔ char = mark := by
  rw [← Char.toNat_inj, ← Char.toNat_inj, toNat_toLower]
  split
  · omega
  · rfl

lemma mem_map_toLower {chars : List Char}
    (notLetter : ¬(65 ≤ mark.toNat ∧ mark.toNat ≤ 90 ∨ 97 ≤ mark.toNat ∧ mark.toNat ≤ 122)) :
    mark ∈ chars.map Char.toLower ↔ mark ∈ chars := by
  simp only [mem_map, toLower_eq_iff notLetter, exists_eq_right]

lemma byteLength_ascii (ascii : ∀ char ∈ text.toList, char.toNat < 128) :
    byteLength text = text.toList.length := by
  rw [byteLength]
  generalize text.toList = chars at ascii
  induction chars with
  | nil => rfl
  | cons char rest ih =>
    obtain ⟨first, later⟩ := forall_mem_cons.mp ascii
    have one : char.utf8Size = 1 := by
      rw [Char.utf8Size_eq_one_iff]
      exact UInt32.le_iff_toNat_le.mpr (Nat.le_of_lt_succ first)
    rw [map_cons, sum_cons, ih later, one, length_cons, Nat.add_comm]

lemma isWhitespace_of_range (above : 33 ≤ char.toNat) (below : char.toNat ≤ 126) :
    isWhitespace char = false := by
  rw [Bool.eq_false_iff]
  intro white
  simp only [isWhitespace, Bool.or_eq_true, Bool.and_eq_true, decide_eq_true_eq,
    beq_iff_eq] at white
  omega

lemma isWhitespace_toUpper (char : Char) : isWhitespace char.toUpper = isWhitespace char := by
  have upper := toNat_toUpper char
  split at upper
  · rw [isWhitespace_of_range (by omega) (by omega), isWhitespace_of_range (by omega) (by omega)]
  · rw [Char.toNat_inj.mp upper]

lemma isWhitespace_toLower (char : Char) : isWhitespace char.toLower = isWhitespace char := by
  have lower := toNat_toLower char
  split at lower
  · rw [isWhitespace_of_range (by omega) (by omega), isWhitespace_of_range (by omega) (by omega)]
  · rw [Char.toNat_inj.mp lower]

@[simp]
lemma toAsciiLowercase_idem (text : String) :
    toAsciiLowercase (toAsciiLowercase text) = toAsciiLowercase text := by
  simp [toAsciiLowercase, Function.comp_def, toLower_toLower]

@[simp]
lemma toAsciiUppercase_idem (text : String) :
    toAsciiUppercase (toAsciiUppercase text) = toAsciiUppercase text := by
  simp [toAsciiUppercase, Function.comp_def, toUpper_toUpper]

lemma trim_toAsciiUppercase (text : String) :
    trim (toAsciiUppercase text) = toAsciiUppercase (trim text) := by
  simp [trim, toAsciiUppercase, trimChars_map _ _ isWhitespace_toUpper]

lemma trimEndMatches_toAsciiLowercase
    (notLetter : ¬(65 ≤ mark.toNat ∧ mark.toNat ≤ 90 ∨ 97 ≤ mark.toNat ∧ mark.toNat ≤ 122))
    (text : String) :
    trimEndMatches mark (toAsciiLowercase text) = toAsciiLowercase (trimEndMatches mark text) := by
  have composed : (fun char : Char => char == mark) ∘ Char.toLower =
      fun char => char == mark := by
    funext char
    rw [Function.comp_apply, Bool.eq_iff_iff, beq_iff_eq, beq_iff_eq, toLower_eq_iff notLetter]
  simp [trimEndMatches, toAsciiLowercase, List.rdropWhile, dropWhile_map, ← map_reverse, composed]

/-! ### Positions in a text

A position is a number of UTF-8 bytes, as the indices of the standard library
are. -/

def width (chars : List Char) : Nat := (chars.map Char.utf8Size).sum

def charIndices : Nat → List Char → List (Nat × Char)
  | _, [] => []
  | start, char :: rest => (start, char) :: charIndices (start + char.utf8Size) rest

def slice (text : List Char) (start stop : Nat) : List Char :=
  ((charIndices 0 text).filter fun entry =>
    decide (start ≤ entry.1) && decide (entry.1 < stop)).map Prod.snd

@[simp]
lemma width_nil : width [] = 0 := rfl

@[simp]
lemma width_cons (char : Char) (rest : List Char) :
    width (char :: rest) = char.utf8Size + width rest := by
  simp [width]

@[simp]
lemma width_append (left right : List Char) : width (left ++ right) = width left + width right := by
  simp [width]

lemma width_pos (ne : chars ≠ []) : 0 < width chars := by
  cases chars with
  | nil => contradiction
  | cons char rest =>
    have positive := char.utf8Size_pos
    rw [width_cons]
    omega

lemma eq_of_starts {right : String} (leftStarts : left.toList <+: text.toList)
    (rightStarts : right.toList <+: text.toList) (same : byteLength left = byteLength right) :
    left = right := by
  have equal_of_starts : ∀ short long : String, short.toList <+: long.toList →
      byteLength short = byteLength long → short = long := by
    rintro short long ⟨rest, split⟩ sameLength
    have noBytes : width rest = 0 := by
      have total : width (short.toList ++ rest) = byteLength long := by
        rw [split, byteLength, width]
      rw [width_append] at total
      have start : width short.toList = byteLength short := rfl
      omega
    have nothing : rest = [] := by
      by_contra ne
      exact absurd noBytes (width_pos ne).ne'
    rw [nothing, append_nil] at split
    exact String.toList_inj.mp split
  rcases prefix_or_prefix_of_prefix leftStarts rightStarts with starts | starts
  · exact equal_of_starts left right starts same
  · exact (equal_of_starts right left starts same.symm).symm

lemma charIndices_append (start : Nat) (left right : List Char) :
    charIndices start (left ++ right) =
      charIndices start left ++ charIndices (start + width left) right := by
  induction left generalizing start with
  | nil => rfl
  | cons char rest ih =>
    rw [cons_append, charIndices, charIndices, ih, width_cons, cons_append, Nat.add_assoc]

lemma position_of_mem_charIndices {start : Nat} {entry : Nat × Char}
    (mem : entry ∈ charIndices start chars) :
    start ≤ entry.1 ∧ entry.1 < start + width chars := by
  induction chars generalizing start with
  | nil => cases mem
  | cons char rest ih =>
    have positive := char.utf8Size_pos
    rw [width_cons]
    rcases mem_cons.mp mem with first | later
    · rw [first]
      constructor <;> dsimp only <;> omega
    · have bounds := ih later
      omega

lemma map_snd_charIndices (start : Nat) (chars : List Char) :
    (charIndices start chars).map Prod.snd = chars := by
  induction chars generalizing start with
  | nil => rfl
  | cons char rest ih => rw [charIndices, map_cons, ih]

lemma slice_append (before middle after : List Char) :
    slice (before ++ (middle ++ after)) (width before) (width before + width middle) = middle := by
  rw [slice, charIndices_append, charIndices_append, filter_append, filter_append,
    (filter_eq_nil_iff (l := charIndices 0 before)).mpr,
    (filter_eq_self (l := charIndices (0 + width before) middle)).mpr,
    filter_eq_nil_iff.mpr, nil_append, append_nil, map_snd_charIndices]
  -- each piece lies on one side of the two bounds
  all_goals
    intro entry mem
    have bounds := position_of_mem_charIndices mem
    simp only [Bool.and_eq_true, decide_eq_true_eq]
    omega

end Ngxora.Text
