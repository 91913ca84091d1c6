/- Machine integers and durations. Narrowing returns `none` out of range, as `TryFrom` does. -/

import Mathlib.Data.UInt

namespace Ngxora

namespace Machine

/-- `u16::try_from` of a 32-bit value. -/
def narrowU16 (value : UInt32) : Option UInt16 :=
  if value.toNat < 2 ^ 16 then some value.toUInt16 else none

/-- `u32::try_from` of a 64-bit value. -/
def narrowU32 (value : UInt64) : Option UInt32 :=
  if value.toNat < 2 ^ 32 then some value.toUInt32 else none

/-- `u64::try_from` of a wider value. -/
def narrowU64 (value : Nat) : Option UInt64 :=
  if value < 2 ^ 64 then some (UInt64.ofNat value) else none

def maxU16 : UInt16 := 65535
def maxU32 : UInt32 := 4294967295
def maxU64 : UInt64 := 18446744073709551615

def maxI32 : UInt32 := 2147483647

def saturateU32 (value : UInt64) : UInt32 := (narrowU32 value).getD maxU32
def saturateU64 (value : Nat) : UInt64 := (narrowU64 value).getD maxU64

@[simp]
lemma narrowU16_widen (value : UInt16) : narrowU16 value.toUInt32 = some value := by
  have small : value.toUInt32.toNat < 2 ^ 16 := by
    rw [UInt16.toNat_toUInt32]
    exact value.toNat_lt
  rw [narrowU16, if_pos small]
  simp

lemma widen_saturateU32 (value : UInt64) :
    (saturateU32 value).toUInt64 = value ↔ value.toNat < 2 ^ 32 := by
  unfold saturateU32 narrowU32
  split
  next small =>
    refine ⟨fun _ => small, fun _ => ?_⟩
    apply UInt64.toNat_inj.mp
    change value.toUInt32.toUInt64.toNat = value.toNat
    rw [UInt32.toNat_toUInt64, UInt64.toNat_toUInt32]
    exact Nat.mod_eq_of_lt small
  next large =>
    refine ⟨fun same => ?_, fun small => absurd small large⟩
    rw [← same]
    decide

variable {value : Nat}

lemma saturateU64_toNat (small : value < 2 ^ 64) : (saturateU64 value).toNat = value := by
  rw [saturateU64, narrowU64, if_pos small]
  exact UInt64.toNat_ofNat_of_lt' small

lemma saturateU64_eq_zero : saturateU64 value = 0 ↔ value = 0 := by
  by_cases small : value < 2 ^ 64
  · rw [← UInt64.toNat_inj, saturateU64_toNat small]
    exact Iff.rfl
  · have pos : value ≠ 0 := by omega
    refine iff_of_false ?_ pos
    rw [saturateU64, narrowU64, if_neg small]
    decide

end Machine

structure Duration where
  nanos : Nat
  bounded : nanos < 2 ^ 64 * 10 ^ 9
  deriving DecidableEq

namespace Duration

instance : Inhabited Duration := ⟨⟨0, by decide⟩⟩

def fromSecs (seconds : UInt64) : Duration where
  nanos := seconds.toNat * 10 ^ 9
  bounded := Nat.mul_lt_mul_of_pos_right seconds.toNat_lt (by decide)

def fromMillis (millis : UInt64) : Duration where
  nanos := millis.toNat * 10 ^ 6
  bounded := by
    have small := millis.toNat_lt
    omega

def saturatingAdd (left right : Duration) : Duration where
  nanos := min (left.nanos + right.nanos) (2 ^ 64 * 10 ^ 9 - 1)
  bounded := by omega

def asMillis (duration : Duration) : Nat := duration.nanos / 10 ^ 6

def subsecNanos (duration : Duration) : Nat := duration.nanos % 10 ^ 9

def isZero (duration : Duration) : Bool := duration.nanos == 0

/-- The duration survives a count of milliseconds in 64 bits. -/
def WholeMillis (duration : Duration) : Prop :=
  duration.nanos % 10 ^ 6 = 0 ∧ duration.asMillis < 2 ^ 64

instance (duration : Duration) : Decidable duration.WholeMillis :=
  inferInstanceAs (Decidable (_ ∧ _))

lemma eq_of_nanos {left right : Duration} (same : left.nanos = right.nanos) : left = right := by
  cases left
  cases right
  cases same
  rfl

@[simp]
lemma asMillis_fromMillis (millis : UInt64) : (fromMillis millis).asMillis = millis.toNat :=
  Nat.mul_div_cancel _ (by decide)

lemma wholeMillis_fromMillis (millis : UInt64) : (fromMillis millis).WholeMillis := by
  refine ⟨Nat.mul_mod_left _ _, ?_⟩
  rw [asMillis_fromMillis]
  exact millis.toNat_lt

lemma WholeMillis.fromMillis_ofNat {duration : Duration} (whole : duration.WholeMillis) :
    fromMillis (UInt64.ofNat duration.asMillis) = duration := by
  apply eq_of_nanos
  change (UInt64.ofNat duration.asMillis).toNat * 10 ^ 6 = duration.nanos
  rw [UInt64.toNat_ofNat_of_lt' whole.2]
  exact Nat.div_mul_cancel (Nat.dvd_of_mod_eq_zero whole.1)

lemma fromMillis_saturate (dur : Duration) :
    fromMillis (Machine.saturateU64 dur.asMillis) = dur ↔ dur.WholeMillis := by
  constructor
  · intro same
    rw [← same]
    exact wholeMillis_fromMillis _
  · intro whole
    apply eq_of_nanos
    change (Machine.saturateU64 dur.asMillis).toNat * 10 ^ 6 = dur.nanos
    rw [Machine.saturateU64_toNat whole.2]
    exact Nat.div_mul_cancel (Nat.dvd_of_mod_eq_zero whole.1)

end Duration
end Ngxora
