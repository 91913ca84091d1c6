/- What a duration literal means, and which literals are read. -/

import Ngxora.Config.Values

namespace Ngxora.Config

open List Results Digits

structure Number (digits : List Char) : Prop where
  nonempty : digits ≠ []
  decimal : ∀ char ∈ digits, isDigit 10 char = true

/-- Numbers with units, and their sum in milliseconds. -/
inductive Segments : List Char → Nat → Prop where
  | nil : Segments [] 0
  | cons {digits rest : List Char} {unit : String} {multiplier millis : Nat}
      (number : Number digits) (isUnit : unitMultiplierMillis unit = some multiplier)
      (later : Segments rest millis) :
      Segments (digits ++ (unit.toList ++ rest)) (valueOf 10 digits * multiplier + millis)

/-- Plain seconds, or numbers with units. -/
inductive DurationText : List Char → Nat → Prop where
  | seconds {digits : List Char} (number : Number digits) :
      DurationText digits (valueOf 10 digits * 1000)
  | segments {text : List Char} {millis : Nat} (nonempty : text ≠ [])
      (segments : Segments text millis) : DurationText text millis

/-- A character of several bytes stands in the place of a unit, and what is read
before it fits into 128 bits. -/
inductive CutsCharacter : Nat → List Char → Prop where
  | here {total : Nat} {digits rest : List Char} {char : Char} (number : Number digits)
      (fits : valueOf 10 digits < 2 ^ 128) (wide : char.utf8Size ≠ 1) :
      CutsCharacter total (digits ++ char :: rest)
  | later {total multiplier : Nat} {digits rest : List Char} {unit : String}
      (number : Number digits) (isUnit : unitMultiplierMillis unit = some multiplier)
      (fits : total + valueOf 10 digits * multiplier < 2 ^ 128)
      (cuts : CutsCharacter (total + valueOf 10 digits * multiplier) rest) :
      CutsCharacter total (digits ++ (unit.toList ++ rest))

section Rounds

variable {raw dir unit : String} {saw : Bool} {digits rest text : List Char}
  {mult millis total rounds : Nat} {char : Char}

def NumberNext (rest : List Char) : Prop :=
  ∀ first, rest.head? = some first → isDigit 10 first = true

lemma Number.next (num : Number digits) (rest : List Char) : NumberNext (digits ++ rest) := by
  intro first found
  rw [head?_append_of_ne_nil _ num.nonempty] at found
  exact num.decimal first (mem_of_mem_head? found)

lemma Segments.next (segments : Segments text millis) : NumberNext text := by
  cases segments with
  | nil => exact fun _ found => nomatch found
  | cons num isUnit later => exact num.next _

lemma CutsCharacter.next (cuts : CutsCharacter total text) : NumberNext text := by
  cases cuts with
  | here num fits wide | later num isUnit fits cuts => exact num.next _

lemma CutsCharacter.nonempty (cuts : CutsCharacter total text) : text ≠ [] := by
  cases cuts with
  | here num fits wide => simp
  | later num isUnit fits cuts => simp [num.nonempty]

lemma timeUnit_of_unit (isUnit : unitMultiplierMillis unit = some mult)
    (next : NumberNext rest) :
    timeUnit raw dir saw (unit.toList ++ rest) = .ok (unit, rest) ∧
      Delimited 10 (unit.toList ++ rest) := by
  have minutes : timeUnit raw dir saw ('m' :: rest) = .ok ("m", rest) := by
    cases rest with
    | nil => rfl
    | cons first tail =>
      have notS : first ≠ 's' := by
        rintro rfl
        exact absurd (next 's' rfl) (by decide)
      simp [timeUnit, notS, show 'm'.utf8Size = 1 from rfl]
  unfold unitMultiplierMillis at isUnit
  repeat' split at isUnit
  all_goals cases isUnit
  all_goals
    subst unit
    refine ⟨?_, fun first found => ?_⟩
    · first | rfl | exact minutes
    · cases found
      rfl

lemma multiplier_pos (isUnit : unitMultiplierMillis unit = some mult) : 0 < mult := by
  unfold unitMultiplierMillis at isUnit
  grind

lemma timeUnit_cases (raw dir : String) (saw : Bool) (rest : List Char) :
    (∃ msg, timeUnit raw dir saw rest = .error (.lowerErr msg)) ∨
    (timeUnit raw dir saw rest = .error .panicked ∧
      ∃ char tail, rest = char :: tail ∧ char.utf8Size ≠ 1) ∨
    (∃ unit tail, timeUnit raw dir saw rest = .ok (unit, tail) ∧
      rest = unit.toList ++ tail) ∨
    saw = false ∧ rest = [] ∧ timeUnit raw dir saw rest = .ok ("s", []) := by
  unfold timeUnit
  split
  next =>
    cases saw with
    | true => exact .inl ⟨_, rfl⟩
    | false => exact .inr (.inr (.inr ⟨rfl, rfl, rfl⟩))
  next tail => exact .inr (.inr (.inl ⟨"ms", tail, rfl, rfl⟩))
  next char tail _ =>
    by_cases narrow : char.utf8Size = 1
    · rw [if_pos narrow]
      exact .inr (.inr (.inl ⟨String.singleton char, tail, rfl, by simp⟩))
    · rw [if_neg narrow]
      exact .inr (.inl ⟨rfl, char, tail, rfl, narrow⟩)

lemma checkedU128_of_lt {value : Nat} (fits : value < 2 ^ 128) :
    checkedU128 value = some value := if_pos fits

lemma checkedU128_of_le {value : Nat} (large : 2 ^ 128 ≤ value) : checkedU128 value = none :=
  if_neg (not_lt.mpr large)

@[simp]
lemma totalMillis_nil : totalMillis raw dir rounds saw total [] = .ok total := by
  cases rounds <;> rfl

lemma totalMillis_number (num : Number digits) (delim : Delimited 10 rest) :
    totalMillis raw dir (rounds + 1) saw total (digits ++ rest) = (do
      let value ← orFail (checkedU128 (valueOf 10 digits))
        (.lowerErr s!"{dir}: invalid time value `{raw}`")
      let (unit, rest) ← timeUnit raw dir saw rest
      let mult ← orFail (unitMultiplierMillis unit)
        (.lowerErr s!"{dir}: unsupported time unit `{unit}` in `{raw}`")
      let millis ← orFail (checkedU128 (value * mult))
        (.lowerErr s!"{dir}: time value `{raw}` is too large")
      let total ← orFail (checkedU128 (total + millis))
        (.lowerErr s!"{dir}: time value `{raw}` is too large")
      totalMillis raw dir rounds true total rest) := by
  have read : digits.isEmpty = false := by simpa using num.nonempty
  have ne : (digits ++ rest).isEmpty = false := by simp [num.nonempty]
  have parsed : parseUnsigned (2 ^ 128) (String.ofList digits) = checkedU128 (valueOf 10 digits) :=
    parseUnsigned_digits num.nonempty num.decimal
  simp only [totalMillis, timeSegment, ne, spanDigits_append num.decimal delim, read,
    parsed, Bool.false_eq_true, if_false, rejectIf_false, ok_bind, bind_assoc, pure_eq_ok]

lemma totalMillis_read (num : Number digits) (delim : Delimited 10 text)
    (isUnit : unitMultiplierMillis unit = some mult)
    (unitRead : timeUnit raw dir saw text = .ok (unit, rest)) :
    (total + valueOf 10 digits * mult < 2 ^ 128 →
      totalMillis raw dir (rounds + 1) saw total (digits ++ text) =
        totalMillis raw dir rounds true (total + valueOf 10 digits * mult) rest) ∧
    (2 ^ 128 ≤ total + valueOf 10 digits * mult → ∃ msg,
      totalMillis raw dir (rounds + 1) saw total (digits ++ text) =
        .error (.lowerErr msg)) := by
  have grows := Nat.le_mul_of_pos_right (valueOf 10 digits) (multiplier_pos isUnit)
  rw [totalMillis_number num delim, unitRead]
  simp only [isUnit, ok_bind, orFail_some]
  constructor
  · intro fits
    simp only [checkedU128_of_lt (show valueOf 10 digits < 2 ^ 128 by omega), orFail_some, ok_bind,
      checkedU128_of_lt (show valueOf 10 digits * mult < 2 ^ 128 by omega),
      checkedU128_of_lt fits]
  · intro large
    rcases lt_or_ge (valueOf 10 digits) (2 ^ 128) with value | value
    · rcases lt_or_ge (valueOf 10 digits * mult) (2 ^ 128) with product | product
      · simp [checkedU128_of_lt value, checkedU128_of_lt product, checkedU128_of_le large]
      · simp [checkedU128_of_lt value, checkedU128_of_le product]
    · simp [checkedU128_of_le value]

lemma utf8Size_of_isDigit (digit : isDigit 10 char = true) : char.utf8Size = 1 := by
  have small : char.toNat ≤ 127 := by
    by_contra large
    have noDigit : digitValue 10 char = none := by
      simp only [digitValue]
      rw [if_neg (by omega), if_neg (by omega), if_neg (by omega)]
      rfl
    simp [isDigit, noDigit] at digit
  rw [Char.utf8Size_eq_one_iff]
  exact UInt32.le_iff_toNat_le.mpr small

lemma totalMillis_cut (num : Number digits) (fits : valueOf 10 digits < 2 ^ 128)
    (wide : char.utf8Size ≠ 1) :
    totalMillis raw dir (rounds + 1) saw total (digits ++ char :: rest) =
      .error .panicked := by
  have delim : Delimited 10 (char :: rest) := by
    intro first found
    cases found
    exact Bool.eq_false_iff.mpr fun digit => wide (utf8Size_of_isDigit digit)
  have notM : char ≠ 'm' := by
    rintro rfl
    exact wide rfl
  have cut : timeUnit raw dir saw (char :: rest) = .error .panicked := by
    simp [timeUnit, notM, wide]
  rw [totalMillis_number num delim, cut, checkedU128_of_lt fits]
  rfl

lemma totalMillis_cases (ne : text ≠ []) :
    (∃ msg, totalMillis raw dir (rounds + 1) saw total text =
      .error (.lowerErr msg)) ∨ CutsCharacter total text ∨
    (∃ digits unit mult rest, Number digits ∧ unitMultiplierMillis unit = some mult ∧
      text = digits ++ (unit.toList ++ rest) ∧ total + valueOf 10 digits * mult < 2 ^ 128 ∧
      totalMillis raw dir (rounds + 1) saw total text =
        totalMillis raw dir rounds true (total + valueOf 10 digits * mult) rest) ∨
    saw = false ∧ Number text ∧
      totalMillis raw dir (rounds + 1) saw total text =
        .ok (total + valueOf 10 text * 1000) := by
  have delim : Delimited 10 (text.dropWhile (isDigit 10)) := by
    intro first found
    have stopped := head?_dropWhile_not (isDigit 10) text
    rwa [found] at stopped
  have decimal : ∀ char ∈ text.takeWhile (isDigit 10), isDigit 10 char = true :=
    fun _ mem => mem_takeWhile_imp mem
  have whole := (takeWhile_append_dropWhile (p := isDigit 10) (l := text)).symm
  generalize text.takeWhile (isDigit 10) = digits at *
  generalize text.dropWhile (isDigit 10) = rest at *
  subst whole
  by_cases none : digits = []
  · subst none
    refine .inl ⟨s!"{dir}: invalid time value `{raw}`", ?_⟩
    have ne : ([] ++ rest).isEmpty = false := by simpa using ne
    simp only [totalMillis, ne, timeSegment, spanDigits_append decimal delim]
    rfl
  have num : Number digits := ⟨none, decimal⟩
  rcases lt_or_ge (valueOf 10 digits) (2 ^ 128) with value | value
  case inr =>
    rw [totalMillis_number num delim, checkedU128_of_le value]
    exact .inl ⟨_, rfl⟩
  rcases timeUnit_cases raw dir saw rest with ⟨msg, failed⟩ | ⟨_, char, tail, rfl, wide⟩ |
    ⟨unit, tail, unitRead, rfl⟩ | ⟨rfl, rfl, unitRead⟩
  · rw [totalMillis_number num delim, checkedU128_of_lt value, failed]
    exact .inl ⟨_, rfl⟩
  · exact .inr (.inl (.here num value wide))
  · cases isUnit : unitMultiplierMillis unit with
    | none =>
      rw [totalMillis_number num delim, checkedU128_of_lt value, unitRead]
      exact .inl (by simp [isUnit])
    | some mult =>
      obtain ⟨fits, large⟩ := totalMillis_read num delim isUnit unitRead
      rcases lt_or_ge (total + valueOf 10 digits * mult) (2 ^ 128) with sum | sum
      · exact .inr (.inr (.inl ⟨digits, unit, mult, tail, num, isUnit, rfl, sum, fits sum⟩))
      · exact .inl (large sum)
  · obtain ⟨fits, large⟩ := totalMillis_read num delim rfl unitRead
    rw [append_nil] at *
    rcases lt_or_ge (total + valueOf 10 digits * 1000) (2 ^ 128) with sum | sum
    · exact .inr (.inr (.inr ⟨rfl, num, (fits sum).trans totalMillis_nil⟩))
    · exact .inl (large sum)

lemma totalMillis_outcome (long : text.length ≤ rounds) :
    (∃ msg, totalMillis raw dir rounds saw total text =
      .error (.lowerErr msg)) ∨ CutsCharacter total text ∨ (∃ millis, Segments text millis ∧
      totalMillis raw dir rounds saw total text = .ok (total + millis)) ∨
    Number text ∧ totalMillis raw dir rounds saw total text =
      .ok (total + valueOf 10 text * 1000) ∧ saw = false := by
  induction rounds generalizing text total saw with
  | zero =>
    obtain rfl := eq_nil_of_length_eq_zero (Nat.le_zero.mp long)
    exact .inr (.inr (.inl ⟨0, .nil, rfl⟩))
  | succ rounds ih =>
    by_cases ne : text = []
    · subst ne
      exact .inr (.inr (.inl ⟨0, .nil, totalMillis_nil⟩))
    rcases totalMillis_cases ne with failed | cuts | seg | ⟨first, num, read⟩
    · exact .inl failed
    · exact .inr (.inl cuts)
    · obtain ⟨digits, unit, mult, rest, num, isUnit, rfl, fits, cont⟩ := seg
      have shorter := length_pos_iff.mpr num.nonempty
      simp only [length_append] at long
      rw [cont]
      rcases @ih true rest _ (by omega) with
        failed | cuts | ⟨millis, segments, read⟩ | ⟨_, _, bad⟩
      · exact .inl failed
      · exact .inr (.inl (.later num isUnit fits cuts))
      · exact .inr (.inr (.inl ⟨_, .cons num isUnit segments, by rw [read, Nat.add_assoc]⟩))
      · cases bad
    · exact .inr (.inr (.inr ⟨num, read, first⟩))

lemma totalMillis_of_segments (segments : Segments text millis) (long : text.length ≤ rounds)
    (fits : total + millis < 2 ^ 128) :
    totalMillis raw dir rounds saw total text = .ok (total + millis) := by
  induction segments generalizing rounds saw total with
  | nil => exact totalMillis_nil
  | cons num isUnit later ih =>
    have shorter := length_pos_iff.mpr num.nonempty
    simp only [length_append] at long
    obtain ⟨rounds, rfl⟩ : ∃ left, rounds = left + 1 := ⟨rounds - 1, by omega⟩
    obtain ⟨unitRead, delim⟩ := timeUnit_of_unit isUnit later.next
    rw [← Nat.add_assoc] at fits ⊢
    rw [(totalMillis_read num delim isUnit unitRead).1 (by omega)]
    exact ih (by omega) fits

lemma panic_of_cuts (cuts : CutsCharacter total text) (long : text.length ≤ rounds) :
    totalMillis raw dir rounds saw total text = .error .panicked := by
  induction cuts generalizing rounds saw with
  | here num fits wide =>
    obtain ⟨rounds, rfl⟩ : ∃ left, rounds = left + 1 :=
      ⟨rounds - 1, by simp only [length_append, length_cons] at long; omega⟩
    exact totalMillis_cut num fits wide
  | later num isUnit fits cuts ih =>
    have shorter := length_pos_iff.mpr num.nonempty
    simp only [length_append] at long
    obtain ⟨rounds, rfl⟩ : ∃ left, rounds = left + 1 := ⟨rounds - 1, by omega⟩
    obtain ⟨unitRead, delim⟩ := timeUnit_of_unit isUnit cuts.next
    rw [(totalMillis_read num delim isUnit unitRead).1 fits]
    exact ih (by omega)

end Rounds

variable {raw dir : String} {millis : Nat}

lemma parseDurationLiteral_eq (dir : String) (ne : raw.toList ≠ []) :
    ∃ rounds, raw.toList.length = rounds + 1 ∧ parseDurationLiteral raw dir =
      (totalMillis raw dir (rounds + 1) false 0 raw.toList >>= fun total => do
        let millis ← orFail (Machine.narrowU64 total)
          (.lowerErr s!"{dir}: time value `{raw}` is too large")
        pure (Duration.fromMillis millis)) := by
  have notEmpty : raw.isEmpty = false := by simpa using ne
  have length := length_pos_iff.mpr ne
  refine ⟨raw.toList.length - 1, by omega, ?_⟩
  rw [Nat.sub_add_cancel length]
  simp only [parseDurationLiteral, notEmpty, rejectIf_false, ok_bind]

lemma parse_of_durationText (means : DurationText raw.toList millis) (small : millis < 2 ^ 64) :
    parseDurationLiteral raw dir = .ok (Duration.fromMillis (UInt64.ofNat millis)) := by
  have ne : raw.toList ≠ [] := by
    cases means with
    | seconds num => exact num.nonempty
    | segments ne _ => exact ne
  obtain ⟨rounds, length, res⟩ := parseDurationLiteral_eq dir ne
  have below : 0 + millis < 2 ^ 128 := by omega
  have scanned : totalMillis raw dir (rounds + 1) false 0 raw.toList = .ok (0 + millis) := by
    generalize raw.toList = text at means length
    cases means with
    | segments _ segments => exact totalMillis_of_segments segments length.le below
    | seconds num =>
      have delim : Delimited 10 [] := fun _ found => nomatch found
      have read : timeUnit raw dir false [] = .ok ("s", []) := rfl
      have finished : totalMillis raw dir (rounds + 1) false 0 (text ++ []) = _ :=
        (totalMillis_read num delim rfl read).1 below
      rwa [append_nil, totalMillis_nil] at finished
  rw [res, scanned, Nat.zero_add]
  simp only [ok_bind, Machine.narrowU64, if_pos small]
  rfl

lemma parseDurationLiteral_cases (raw dir : String) :
    (∃ msg, parseDurationLiteral raw dir = .error (.lowerErr msg)) ∨
      CutsCharacter 0 raw.toList ∨ ∃ millis, DurationText raw.toList millis ∧ millis < 2 ^ 64 := by
  by_cases empty : raw.toList = []
  · rw [String.toList_eq_nil_iff.mp empty]
    exact .inl ⟨_, rfl⟩
  obtain ⟨rounds, length, res⟩ := parseDurationLiteral_eq dir empty
  have narrowed : ∀ millis, DurationText raw.toList millis →
      totalMillis raw dir (rounds + 1) false 0 raw.toList = .ok (0 + millis) →
      (∃ msg, parseDurationLiteral raw dir = .error (.lowerErr msg)) ∨
        ∃ millis, DurationText raw.toList millis ∧ millis < 2 ^ 64 := by
    intro millis means scanned
    by_cases small : millis < 2 ^ 64
    · exact .inr ⟨millis, means, small⟩
    · rw [res, scanned, Nat.zero_add]
      exact .inl ⟨_, by simp only [ok_bind, Machine.narrowU64, if_neg small]; rfl⟩
  rcases totalMillis_outcome length.le with ⟨msg, failed⟩ | cuts | ⟨millis, segments, read⟩ |
    ⟨num, read, _⟩
  · rw [res, failed]
    exact .inl ⟨msg, rfl⟩
  · exact .inr (.inl cuts)
  · exact (narrowed millis (.segments empty segments) read).imp_right .inr
  · exact (narrowed _ (.seconds num) read).imp_right .inr

/-- The value is the one written, or an error says that there is none. -/
structure DurationExact (raw : String) (result : Except Stop Duration) : Prop where
  accepted : ∀ millis, DurationText raw.toList millis → millis < 2 ^ 64 →
    result = .ok (Duration.fromMillis (UInt64.ofNat millis))
  rejected : (∀ millis, DurationText raw.toList millis → 2 ^ 64 ≤ millis) →
    ∃ message, result = .error (.lowerErr message)

/-- Literals are read exactly, apart from those whose scan comes to a character of
several bytes in the place of a unit. -/
theorem duration_literal_exact_iff (raw directive : String) :
    DurationExact raw (parseDurationLiteral raw directive) ↔ ¬CutsCharacter 0 raw.toList := by
  constructor
  · intro exact' cuts
    have stopped : parseDurationLiteral raw directive = .error .panicked := by
      obtain ⟨rounds, length, result⟩ := parseDurationLiteral_eq directive cuts.nonempty
      rw [result, panic_of_cuts cuts length.le]
      rfl
    by_cases small : ∃ millis, DurationText raw.toList millis ∧ millis < 2 ^ 64
    · obtain ⟨millis, means, small⟩ := small
      cases stopped.symm.trans (exact'.accepted millis means small)
    · push Not at small
      obtain ⟨message, failed⟩ := exact'.rejected small
      cases stopped.symm.trans failed
  · intro whole
    refine ⟨fun millis means small => parse_of_durationText means small, fun large => ?_⟩
    rcases parseDurationLiteral_cases raw directive with failed | cuts | ⟨millis, means, small⟩
    · exact failed
    · exact absurd cuts whole
    · exact absurd (large millis means) (not_le.mpr small)

/-- The scanner cuts the character after the number apart. -/
theorem wide_unit_panics : parseDurationLiteral "5é" "send_timeout" = .error .panicked := by
  decide

end Ngxora.Config
