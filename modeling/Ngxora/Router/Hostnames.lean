/-
How precisely configured names cover a host.
-/

import Mathlib.Data.Prod.Lex
import Ngxora.Base.BestMatch
import Ngxora.Router.HttpRoutes

namespace Ngxora.Router

open Text List String

def hostnameRank (host pattern : String) : Option (Bool ×ₗ Nat) :=
  (hostnameScore pattern host).map toLex

/-- A wildcard with the suffix covers the host. -/
structure SuffixCovers (suffix host : String) : Prop where
  dotted : Text.startsWith "." suffix = true
  ends : Text.endsWith suffix host = true
  longer : byteLength suffix < byteLength host

variable {pattern host left right suffix other : String} {score : Bool × Nat} {length : Nat}

lemma SuffixCovers.isSuffix (covers : SuffixCovers suffix host) : suffix.toList <:+ host.toList :=
  isSuffixOf_iff_suffix.mp covers.ends

lemma afterStart_star : afterStart "*" pattern = some suffix ↔ pattern = "*" ++ suffix := by
  rw [afterStart_eq_some, ← toList_append, toList_inj]

lemma hostnameScore_of_ne (differ : pattern ≠ host) : hostnameScore pattern host = some score ↔
    ∃ suffix, pattern = "*" ++ suffix ∧ SuffixCovers suffix host ∧
      score = (false, byteLength suffix) := by
  unfold hostnameScore
  rw [if_neg differ]
  constructor
  · intro covered
    split at covered
    case h_1 => cases covered
    case h_2 suffix after =>
      split at covered
      case isFalse => cases covered
      case isTrue fits =>
        simp only [Bool.and_eq_true, decide_eq_true_eq] at fits
        exact ⟨suffix, afterStart_star.mp after, ⟨fits.1.1, fits.2, fits.1.2⟩,
          (Option.some.inj covered).symm⟩
  · rintro ⟨suffix, shape, covers, rfl⟩
    simp [afterStart_star.mpr shape, covers.dotted, covers.longer, covers.ends]

lemma hostnameScore_exact : hostnameScore pattern host = some (true, length) ↔
    pattern = host ∧ length = byteLength host := by
  by_cases same : pattern = host
  · simp [hostnameScore, same, eq_comm]
  · rw [hostnameScore_of_ne same]
    simp [same]

lemma hostnameScore_wildcard : hostnameScore pattern host = some (false, length) ↔
    pattern ≠ host ∧ ∃ suffix, pattern = "*" ++ suffix ∧ SuffixCovers suffix host ∧
      length = byteLength suffix := by
  by_cases same : pattern = host
  · simp [hostnameScore, same]
  · rw [hostnameScore_of_ne same]
    simp [same]

lemma suffix_unique (leftEnds : left.toList <:+ host.toList)
    (rightEnds : right.toList <:+ host.toList)
    (same : byteLength left = byteLength right) : left = right := by
  have leftIn := suffix_of_byteLength_le leftEnds rightEnds same.le
  have rightIn := suffix_of_byteLength_le rightEnds leftEnds same.ge
  exact toList_inj.mp (leftIn.eq_of_length_le rightIn.length_le)

lemma hostnameScore_injective (leftScore : hostnameScore left host = some score)
    (rightScore : hostnameScore right host = some score) : left = right := by
  obtain ⟨exact', length⟩ := score
  cases exact' with
  | true => rw [(hostnameScore_exact.mp leftScore).1, (hostnameScore_exact.mp rightScore).1]
  | false =>
    obtain ⟨_, _, rfl, leftCovers, leftLength⟩ := hostnameScore_wildcard.mp leftScore
    obtain ⟨_, _, rfl, rightCovers, rightLength⟩ := hostnameScore_wildcard.mp rightScore
    rw [suffix_unique leftCovers.isSuffix rightCovers.isSuffix (leftLength.symm.trans rightLength)]

lemma hostnameRank_injective (host left right : String) (found : Bool ×ₗ Nat)
    (leftRank : hostnameRank host left = some found)
    (rightRank : hostnameRank host right = some found) : left = right := by
  obtain ⟨leftScore, leftAt, leftEq⟩ := Option.map_eq_some_iff.mp leftRank
  obtain ⟨rightScore, rightAt, rightEq⟩ := Option.map_eq_some_iff.mp rightRank
  have same : leftScore = rightScore := toLex.injective (leftEq.trans rightEq.symm)
  exact hostnameScore_injective leftAt (same ▸ rightAt)

lemma byteLength_star (suffix : String) : byteLength ("*" ++ suffix) = byteLength suffix + 1 := by
  have star : ("*".toList.map Char.utf8Size).sum = 1 := rfl
  rw [byteLength, toList_append, map_append, sum_append, star, Nat.add_comm]
  rfl

lemma suffix_star (suffix : String) : suffix.toList <:+ ("*" ++ suffix).toList := by
  rw [toList_append]
  exact suffix_append _ _

lemma hostnameScore_of_less_precise (covered : hostnameScore pattern host = some (false, length))
    (otherCovered : hostnameScore other host = some score) (differ : other ≠ pattern)
    (less : toLex score ≤ toLex (false, length)) : hostnameScore other pattern = some score := by
  obtain ⟨_, suffix, rfl, covers, rfl⟩ := hostnameScore_wildcard.mp covered
  obtain ⟨exact', otherLength⟩ := score
  cases exact' with
  | true =>
    rcases Prod.Lex.toLex_le_toLex.mp less with below | ⟨same, _⟩
    · have bad : ¬ true < false := by decide
      exact absurd below bad
    · cases same
  | false =>
    obtain ⟨_, otherSuffix, shape, otherCovers, rfl⟩ := hostnameScore_wildcard.mp otherCovered
    have shorter : byteLength otherSuffix ≤ byteLength suffix := by
      simpa [Prod.Lex.toLex_le_toLex] using less
    have ends := suffix_of_byteLength_le otherCovers.isSuffix covers.isSuffix shorter
    refine hostnameScore_wildcard.mpr ⟨differ, otherSuffix, shape, ⟨otherCovers.dotted,
      isSuffixOf_iff_suffix.mpr (ends.trans (suffix_star suffix)), ?_⟩, rfl⟩
    rw [byteLength_star]
    omega

lemma hostnameScore_of_covers_wildcard (covered : hostnameScore pattern host = some (false, length))
    (otherCovered : hostnameScore other pattern = some score) (differ : other ≠ pattern) :
    hostnameScore other host = some score := by
  obtain ⟨_, suffix, rfl, covers, _⟩ := hostnameScore_wildcard.mp covered
  obtain ⟨exact', otherLength⟩ := score
  cases exact' with
  | true => exact absurd (hostnameScore_exact.mp otherCovered).1 differ
  | false =>
    obtain ⟨_, otherSuffix, rfl, otherCovers, rfl⟩ := hostnameScore_wildcard.mp otherCovered
    have longer := otherCovers.longer
    rw [byteLength_star] at longer
    have ends := suffix_of_byteLength_le otherCovers.isSuffix (suffix_star suffix) (by omega)
    have hostLonger := covers.longer
    refine hostnameScore_wildcard.mpr ⟨?_, otherSuffix, rfl, ⟨otherCovers.dotted,
      isSuffixOf_iff_suffix.mpr (ends.trans covers.isSuffix), by omega⟩, rfl⟩
    -- A host that is itself the other wildcard is too short for this one.
    intro same
    have hostLength := byteLength_star otherSuffix
    rw [same] at hostLength
    apply differ
    rw [suffix_unique (ends.trans covers.isSuffix) covers.isSuffix (by omega)]

end Ngxora.Router
