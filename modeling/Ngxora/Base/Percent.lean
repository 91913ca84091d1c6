/- Percent escapes. The byte an escape stands for is shown as the character of its code. -/

import Ngxora.Base.Digits

namespace Ngxora.Percent

open List Digits

/-- Decode every escape once; a percent sign without two digits stays. -/
def percentDecode : List Char → List Char
  | [] => []
  | '%' :: high :: low :: rest =>
    match digitValue 16 high, digitValue 16 low with
    | some upper, some lower => Char.ofNat (16 * upper + lower) :: percentDecode rest
    | _, _ => '%' :: percentDecode (high :: low :: rest)
  | char :: rest => char :: percentDecode rest

/-- The text holds the character behind a percent sign. -/
def Escaped (char : Char) (text : List Char) : Prop :=
  ∃ high low upper lower, digitValue 16 high = some upper ∧ digitValue 16 low = some lower ∧
    Char.ofNat (16 * upper + lower) = char ∧ ['%', high, low] <:+: text

variable {char : Char} {text : List Char}

lemma Escaped.of_infix {part : List Char} (escaped : Escaped char part)
    (contained : part <:+: text) : Escaped char text := by
  obtain ⟨high, low, upper, lower, isHigh, isLow, same, inside⟩ := escaped
  exact ⟨high, low, upper, lower, isHigh, isLow, same, inside.trans contained⟩

lemma Escaped.of_suffix {left right : List Char} (escaped : Escaped char left)
    (suffix : left <:+ right) : Escaped char right :=
  escaped.of_infix suffix.isInfix

lemma toLower_of_digitValue {digit : Char} {value : Nat}
    (isDigit : digitValue 16 digit = some value) :
    value < 16 ∧ digit.toLower = value.digitChar := by
  have codes : ∀ value : Fin 16, value.val.digitChar.toNat =
      if value.val < 10 then value.val + 48 else value.val + 87 := by
    decide
  obtain ⟨found, small⟩ := Option.filter_eq_some_iff.mp isDigit
  have below : value < 16 := of_decide_eq_true small
  refine ⟨below, Char.toNat_inj.mp ?_⟩
  rw [codes ⟨value, below⟩, Text.toNat_toLower]
  dsimp only at found ⊢
  split at found
  · cases found
    grind
  · split at found
    · cases found
      grind
    · split at found
      · cases found
        grind
      · cases found

lemma escape_digits {high low : Char} {upper lower : Nat} (isHigh : digitValue 16 high = some upper)
    (isLow : digitValue 16 low = some lower) (stands : Char.ofNat (16 * upper + lower) = char) :
    high.toLower = (char.toNat / 16).digitChar ∧ low.toLower = (char.toNat % 16).digitChar := by
  obtain ⟨upperSmall, highLower⟩ := toLower_of_digitValue isHigh
  obtain ⟨lowerSmall, lowLower⟩ := toLower_of_digitValue isLow
  have code : char.toNat = 16 * upper + lower := by
    have valid : (16 * upper + lower).isValidChar := .inl (by omega)
    rw [← stands, Char.ofNat, dif_pos valid]
    rfl
  rw [highLower, lowLower]
  constructor
  · congr 1
    omega
  · congr 1
    omega

lemma Escaped.lowered (escaped : Escaped char text) :
    ['%', (char.toNat / 16).digitChar, (char.toNat % 16).digitChar] <:+: text.map Char.toLower := by
  obtain ⟨high, low, upper, lower, isHigh, isLow, stands, inside⟩ := escaped
  obtain ⟨highLower, lowLower⟩ := escape_digits isHigh isLow stands
  rw [← highLower, ← lowLower]
  exact inside.map Char.toLower

lemma mem_percentDecode (mem : char ∈ percentDecode text) : char ∈ text ∨ Escaped char text := by
  fun_induction percentDecode text with
  | case1 => cases mem
  | case2 high low rest upper lower isLow isHigh ih =>
    rcases mem_cons.mp mem with here | later
    · exact .inr ⟨high, low, upper, lower, isHigh, isLow, here.symm,
        (prefix_append ['%', high, low] rest).isInfix⟩
    · rcases ih later with stood | escaped
      · exact .inl (mem_cons_of_mem _ (mem_cons_of_mem _ (mem_cons_of_mem _ stood)))
      · exact .inr (escaped.of_suffix (suffix_append ['%', high, low] rest))
  | case3 _ _ _ _ ih | case4 _ _ _ ih =>
    rcases mem_cons.mp mem with here | later
    · exact .inl (here ▸ mem_cons_self)
    · rcases ih later with stood | escaped
      · exact .inl (mem_cons_of_mem _ stood)
      · exact .inr (escaped.of_suffix (suffix_cons _ _))

lemma count_percentDecode_le (plain : ¬ Escaped char text) :
    (percentDecode text).count char ≤ text.count char := by
  fun_induction percentDecode text with
  | case1 => exact Nat.le_refl _
  | case2 high low rest upper lower isLow isHigh ih =>
    have fewer := ih fun escaped => plain (escaped.of_suffix (suffix_append ['%', high, low] rest))
    have ne : Char.ofNat (16 * upper + lower) ≠ char := fun same =>
      plain ⟨high, low, upper, lower, isHigh, isLow, same,
        (prefix_append ['%', high, low] rest).isInfix⟩
    rw [count_cons_of_ne ne]
    have longer : rest.count char ≤ ('%' :: high :: low :: rest).count char :=
      (suffix_append ['%', high, low] rest).sublist.count_le char
    exact fewer.trans longer
  | case3 _ _ _ _ ih | case4 _ _ _ ih =>
    have fewer := ih fun escaped => plain (escaped.of_suffix (suffix_cons _ _))
    rw [count_cons, count_cons]
    exact Nat.add_le_add_right fewer _

lemma percentDecode_cons {first : Char} {rest : List Char}
    (plain : ∀ high low more, first = '%' → rest = high :: low :: more →
      digitValue 16 high = none ∨ digitValue 16 low = none) :
    percentDecode (first :: rest) = first :: percentDecode rest := by
  rw [percentDecode.eq_def]
  split
  next bad => cases bad
  next high low more same =>
    cases same
    rcases plain high low more rfl rfl with notHigh | notLow
    · rw [notHigh]
    · rw [notLow]
      cases digitValue 16 high with
      | none | some => rfl
  next same =>
    cases same
    rfl

lemma percentDecode_append {mark : Char} (notDigit : digitValue 16 mark = none)
    (left right : List Char) :
    percentDecode (left ++ mark :: right) = percentDecode left ++ percentDecode (mark :: right) := by
  fun_induction percentDecode left with
  | case1 => rfl
  | case2 high low rest upper lower isLow isHigh ih =>
    rw [cons_append, cons_append, cons_append, percentDecode, isHigh, isLow]
    simp only [cons_append, ih]
  | case3 high low rest noDigits ih =>
    rw [cons_append, percentDecode_cons, ih, cons_append]
    rintro otherHigh otherLow more _ same
    simp only [cons_append, List.cons.injEq] at same
    obtain ⟨rfl, rfl, _⟩ := same
    cases isHigh : digitValue 16 high with
    | none => exact .inl rfl
    | some upper =>
      cases isLow : digitValue 16 low with
      | none => exact .inr rfl
      | some lower => exact (noDigits upper lower isHigh isLow).elim
  | case4 first rest noEscape ih =>
    rw [cons_append, percentDecode_cons, ih, cons_append]
    rintro high low more isPercent same
    -- the two places after the percent sign reach the mark
    cases rest with
    | nil =>
      cases same
      exact .inl notDigit
    | cons second others =>
      cases others with
      | nil =>
        cases same
        exact .inr notDigit
      | cons third others => exact absurd rfl (noEscape second third others isPercent)

end Ngxora.Percent
