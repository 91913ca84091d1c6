/-
Scalars and enumerations of the control-plane wire format.
-/

import Ngxora.Grpc.Proto
import Ngxora.Ir

namespace Ngxora.Grpc

open Option

open Proto (WireEnum tryFrom tryFrom_code)
open Results

def switchFromProto (value : Int32) : Switch :=
  match (tryFrom Proto.Switch value).getD .unspecified with
  | .unspecified | .on => .on
  | .off => .off

def protoSwitchFromRuntime : Switch → Proto.Switch
  | .on => .on
  | .off => .off

def upstreamSelectionPolicyFromProto (value : Int32) : Except String UpstreamSelectionPolicy :=
  match (tryFrom Proto.UpstreamSelectionPolicy value).getD .unspecified with
  | .unspecified | .roundRobin => .ok .roundRobin
  | .random => .ok .random
  | .consistentHash => .ok .consistentHash

def protoUpstreamSelectionPolicyFromRuntime :
    UpstreamSelectionPolicy → Proto.UpstreamSelectionPolicy
  | .roundRobin => .roundRobin
  | .random => .random
  | .consistentHash => .consistentHash

def keepaliveTimeoutFromProto (seconds : UInt64) : KeepaliveTimeout :=
  if seconds = 0 then .off else .timeout (Duration.fromSecs seconds) none

def durationFromMillis (millis : UInt64) : Option Duration :=
  if millis > 0 then some (Duration.fromMillis millis) else none

def durationToMillis (duration : Option Duration) : UInt64 :=
  (duration.map fun value => Machine.saturateU64 value.asMillis).getD 0

def switchFromBool (value : Bool) : Switch := if value then .on else .off

def noneIfZero (value : UInt32) : Option UInt32 := if value > 0 then some value else none

def noneIfZeroU64 (value : UInt64) : Option UInt64 := if value > 0 then some value else none

def noneIfEmpty (value : String) : Option String := if value.isEmpty then none else some value

@[simp]
lemma switchFromProto_code (switch : Switch) :
    switchFromProto (WireEnum.code (protoSwitchFromRuntime switch)) = switch := by
  cases switch <;> rfl

@[simp]
lemma upstreamSelectionPolicyFromProto_code (policy : UpstreamSelectionPolicy) :
    upstreamSelectionPolicyFromProto
      (WireEnum.code (protoUpstreamSelectionPolicyFromRuntime policy)) = .ok policy := by
  cases policy <;> rfl

@[simp]
lemma switchFromBool_eq_on (value : Bool) : (switchFromBool value == Switch.on) = value := by
  cases value <;> rfl

lemma noneIfZero_getD {value : Option UInt32} :
    noneIfZero (value.getD 0) = value ↔ value ≠ some 0 := by
  cases value with
  | none => simp [noneIfZero]
  | some num => simp [noneIfZero, UInt32.pos_iff_ne_zero]

lemma noneIfZeroU64_getD {value : Option UInt64} :
    noneIfZeroU64 (value.getD 0) = value ↔ value ≠ some 0 := by
  cases value with
  | none => simp [noneIfZeroU64]
  | some num => simp [noneIfZeroU64, UInt64.pos_iff_ne_zero]

lemma durationFromMillis_eq_some {millis : UInt64} {duration : Duration} :
    durationFromMillis millis = some duration ↔
      millis ≠ 0 ∧ Duration.fromMillis millis = duration := by
  unfold durationFromMillis
  by_cases pos : millis = 0
  · simp [pos]
  · simp [UInt64.pos_iff_ne_zero, pos]

lemma durationFromMillis_durationToMillis {duration : Option Duration} :
    durationFromMillis (durationToMillis duration) = duration ↔
      ∀ value ∈ duration, value.WholeMillis ∧ value.isZero = false := by
  cases duration with
  | none => simp [durationToMillis, durationFromMillis]
  | some value =>
    have millisZero : Machine.saturateU64 value.asMillis = 0 → value.WholeMillis →
        value.isZero = true := by
      intro zero whole
      have same := (Duration.fromMillis_saturate value).mpr whole
      rw [← same, zero]
      rfl
    simp only [durationToMillis, map_some, getD_some, durationFromMillis_eq_some,
      Duration.fromMillis_saturate, mem_def, Option.some.injEq, forall_eq']
    constructor
    · rintro ⟨pos, whole⟩
      refine ⟨whole, Bool.eq_false_iff.mpr fun zero => pos ?_⟩
      have nanosZero : value.nanos = 0 := by simpa [Duration.isZero] using zero
      rw [Machine.saturateU64_eq_zero, Duration.asMillis, nanosZero, Nat.zero_div]
    · rintro ⟨whole, pos⟩
      refine ⟨fun zero => ?_, whole⟩
      rw [millisZero zero whole] at pos
      cases pos

end Ngxora.Grpc
