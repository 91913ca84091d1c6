/-
Numbers in a radix: printing, and reading back what was printed.
-/

import Mathlib.Data.Nat.Digits.Lemmas
import Ngxora.Base.Text

namespace Ngxora.Digits

open List

/-- `char::to_digit`. -/
def digitValue (radix : Nat) (char : Char) : Option Nat :=
  let code := char.toNat
  let value :=
    if 48 ≤ code ∧ code ≤ 57 then some (code - 48)
    else if 97 ≤ code ∧ code ≤ 122 then some (code - 87)
    else if 65 ≤ code ∧ code ≤ 90 then some (code - 55)
    else none
  value.filter (· < radix)

def isDigit (radix : Nat) (char : Char) : Bool := (digitValue radix char).isSome

def valueOf (radix : Nat) (digits : List Char) : Nat :=
  digits.foldl (fun total digit => total * radix + (digitValue radix digit).getD 0) 0

def spanDigits (radix : Nat) (text : List Char) : List Char × List Char :=
  (text.takeWhile (isDigit radix), text.dropWhile (isDigit radix))

def afterPlus : List Char → List Char
  | '+' :: rest => rest
  | chars => chars

/-- `str::parse` of an unsigned integer below `limit`: decimal digits, with an
optional plus sign. -/
def parseUnsigned (limit : Nat) (text : String) : Option Nat :=
  let digits := afterPlus text.toList
  if digits ≠ [] ∧ digits.all (isDigit 10) ∧ valueOf 10 digits < limit then
    some (valueOf 10 digits)
  else none

def parseU16 (text : String) : Option UInt16 := (parseUnsigned (2 ^ 16) text).map UInt16.ofNat

def parseU32 (text : String) : Option UInt32 := (parseUnsigned (2 ^ 32) text).map UInt32.ofNat

def parseU64 (text : String) : Option UInt64 := (parseUnsigned (2 ^ 64) text).map UInt64.ofNat

/-- `str::parse::<isize>` on 64-bit targets: a minus sign may stand before the digits. -/
def parseIsize (text : String) : Option Int :=
  match text.toList with
  | '-' :: '+' :: _ => none
  | '-' :: digits => (parseUnsigned (2 ^ 63 + 1) (String.ofList digits)).map fun value => -value
  | _ => (parseUnsigned (2 ^ 63) text).map fun value => value

variable {limit number radix : Nat} {digits rest : List Char}

lemma parseUnsigned_lt {text : String} (parsed : parseUnsigned limit text = some number) :
    number < limit := by
  unfold parseUnsigned at parsed
  simp only at parsed
  split at parsed
  next checks =>
    cases parsed
    exact checks.2.2
  next => cases parsed

lemma digitValue_digitChar {digit : Nat} (small : radix ≤ 16) (below : digit < radix) :
    digitValue radix digit.digitChar = some digit := by
  have table : ∀ value : Fin 16, ∀ base : Fin 17, value.val < base.val →
      digitValue base.val value.val.digitChar = some value.val := by
    decide
  exact table ⟨digit, by omega⟩ ⟨radix, by omega⟩ below

lemma isDigit_of_mem_toDigits (atLeast : 1 < radix) (small : radix ≤ 16) {char : Char}
    (mem : char ∈ Nat.toDigits radix number) : isDigit radix char = true := by
  induction number using Nat.strongRecOn with
  | ind number ih =>
    by_cases single : number < radix
    · rw [Nat.toDigits_of_lt_base single, mem_singleton] at mem
      rw [isDigit, mem, digitValue_digitChar small single]
      rfl
    · rw [Nat.toDigits_of_base_le atLeast (by omega), mem_append, mem_singleton] at mem
      rcases mem with mem | mem
      · exact ih (number / radix) (Nat.div_lt_self (by omega) atLeast) mem
      · rw [isDigit, mem, digitValue_digitChar small (Nat.mod_lt _ (by omega))]
        rfl

lemma valueOf_toDigits (atLeast : 1 < radix) (small : radix ≤ 16) (number : Nat) :
    valueOf radix (Nat.toDigits radix number) = number := by
  induction number using Nat.strongRecOn with
  | ind number ih =>
    by_cases single : number < radix
    · rw [Nat.toDigits_of_lt_base single]
      simp [valueOf, digitValue_digitChar small single]
    · have shorter : number / radix < number := Nat.div_lt_self (by omega) atLeast
      have below : number % radix < radix := Nat.mod_lt _ (by omega)
      rw [Nat.toDigits_of_base_le atLeast (by omega), valueOf, foldl_append]
      change valueOf radix (Nat.toDigits radix (number / radix)) * radix +
        (digitValue radix (number % radix).digitChar).getD 0 = number
      rw [ih _ shorter, digitValue_digitChar small below]
      exact Nat.div_add_mod' number radix

lemma valueOf_lt_pow (radix : Nat) (all : ∀ char ∈ digits, isDigit radix char = true) :
    valueOf radix digits < radix ^ digits.length := by
  induction digits using List.reverseRecOn with
  | nil => exact Nat.one_pos
  | append_singleton front last ih =>
    have below := ih fun char mem => all char (mem_append_left _ mem)
    have digit : ((digitValue radix last).getD 0) < radix := by
      obtain ⟨value, found⟩ := Option.isSome_iff_exists.mp (all last (by simp))
      rw [found]
      exact of_decide_eq_true (Option.filter_eq_some_iff.mp found).2
    rw [valueOf, foldl_append, length_append, length_singleton, Nat.pow_succ]
    change valueOf radix front * radix + (digitValue radix last).getD 0 < _
    calc
      valueOf radix front * radix + (digitValue radix last).getD 0 <
          (valueOf radix front + 1) * radix := by
        rw [Nat.add_mul, Nat.one_mul]
        exact Nat.add_lt_add_left digit _
      _ ≤ radix ^ front.length * radix := Nat.mul_le_mul_right radix below

lemma length_toDigits_le (ne : digits ≠ [])
    (all : ∀ char ∈ digits, isDigit radix char = true) :
    (Nat.toDigits radix (valueOf radix digits)).length ≤ digits.length :=
  Nat.toDigits_length radix _ _ (length_pos_iff.mpr ne) (valueOf_lt_pow radix all)

/-- A number that is read is at least as long as it is printed. -/
lemma shape_of_parseUnsigned {text : String} (parsed : parseUnsigned limit text = some number) :
    (Nat.toDigits 10 number).length ≤ text.toList.length ∧
      ∀ char ∈ text.toList, char = '+' ∨ isDigit 10 char = true := by
  have signed : (afterPlus text.toList).length ≤ text.toList.length ∧
      ∀ char ∈ text.toList, char = '+' ∨ char ∈ afterPlus text.toList := by
    unfold afterPlus
    split
    next rest same =>
      rw [same]
      exact ⟨Nat.le_succ _, fun char mem => mem_cons.mp mem⟩
    next => exact ⟨Nat.le_refl _, fun char mem => .inr mem⟩
  unfold parseUnsigned at parsed
  simp only at parsed
  split at parsed
  case isFalse => cases parsed
  case isTrue checks =>
    cases parsed
    have all := all_eq_true.mp checks.2.1
    exact ⟨(length_toDigits_le checks.1 all).trans signed.1,
      fun char mem => (signed.2 char mem).imp_right (all char)⟩

lemma eq_zero_of_leading_zero (atLeast : 1 < radix) (small : radix ≤ 16)
    (leading : (Nat.toDigits radix number).head? = some '0') : number = 0 := by
  induction number using Nat.strongRecOn with
  | ind number ih =>
    by_cases single : number < radix
    · rw [Nat.toDigits_of_lt_base single] at leading
      have isZero : number.digitChar = '0' := by simpa using leading
      have value := digitValue_digitChar small single
      have zeroValue := digitValue_digitChar small (show 0 < radix by omega)
      rw [isZero] at value
      rw [show Nat.digitChar 0 = '0' from rfl, value] at zeroValue
      exact Option.some.inj zeroValue
    · have shorter : number / radix < number := Nat.div_lt_self (by omega) atLeast
      rw [Nat.toDigits_of_base_le atLeast (by omega),
        head?_append_of_ne_nil _ Nat.toDigits_ne_nil] at leading
      have quotientZero := ih _ shorter leading
      rw [Nat.div_eq_zero_iff] at quotientZero
      omega

/-- A number is read no further. -/
def Delimited (radix : Nat) (rest : List Char) : Prop :=
  ∀ char, rest.head? = some char → isDigit radix char = false

lemma spanDigits_append (allDigits : ∀ char ∈ digits, isDigit radix char = true)
    (delim : Delimited radix rest) : spanDigits radix (digits ++ rest) = (digits, rest) := by
  obtain ⟨taken, left⟩ := Text.span_append allDigits delim
  rw [spanDigits, taken, left]

lemma spanDigits_toDigits (atLeast : 1 < radix) (small : radix ≤ 16) (number : Nat)
    (delim : Delimited radix rest) :
    spanDigits radix (Nat.toDigits radix number ++ rest) = (Nat.toDigits radix number, rest) :=
  spanDigits_append (fun _ mem => isDigit_of_mem_toDigits atLeast small mem) delim

lemma parseUnsigned_digits (ne : digits ≠ [])
    (all : ∀ char ∈ digits, isDigit 10 char = true) : parseUnsigned limit (String.ofList digits) =
      if valueOf 10 digits < limit then some (valueOf 10 digits) else none := by
  have noSign : afterPlus digits = digits := by
    unfold afterPlus
    split
    next => exact absurd (all '+' mem_cons_self) (by decide)
    next => rfl
  have allTrue : digits.all (isDigit 10) = true := all_eq_true.mpr all
  simp [parseUnsigned, noSign, ne, allTrue]

lemma parseUnsigned_toDigits (small : number < limit) :
    parseUnsigned limit (String.ofList (Nat.toDigits 10 number)) = some number := by
  rw [parseUnsigned_digits Nat.toDigits_ne_nil fun _ mem =>
      isDigit_of_mem_toDigits (by decide) (by decide) mem,
    valueOf_toDigits (by decide) (by decide), if_pos small]

end Ngxora.Digits
