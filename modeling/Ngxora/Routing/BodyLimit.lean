/-
The limit of a request body: the declared length is compared first, and every chunk is counted
before it is passed on.
-/

import Ngxora.Routing.Hooks

namespace Ngxora.Routing

open Option Http Results

def bodyTooLargeError : PingoraError :=
  explain (.httpStatus 413) "request body exceeds client_max_body_size"

def lengthU64 (length : Nat) : Option UInt64 :=
  if length < 2 ^ 64 then some (UInt64.ofNat length) else none

def checkedAdd (left right : UInt64) : Option UInt64 := lengthU64 (left.toNat + right.toNat)

def nextReceived (received : UInt64) (body : List UInt8) (limit : UInt64) :
    Except PingoraError UInt64 := do
  let chunkLen ← orFail (lengthU64 body.length) bodyTooLargeError
  let next ← orFail (checkedAdd received chunkLen) bodyTooLargeError
  rejectIf (decide (limit < next)) bodyTooLargeError
  pure next

def updateReceivedBodyBytes (received : UInt64) (body : Option (List UInt8))
    (limit : Option UInt64) : Except PingoraError Unit × UInt64 :=
  match limit, body with
  | some limit, some body =>
    match nextReceived received body limit with
    | .ok next => (.ok (), next)
    | .error error => (.error error, received)
  | _, _ => (.ok (), received)

def requestBodyFilter (wasUpgraded : Bool) (received : UInt64) (body : Option (List UInt8))
    (limit : Option UInt64) : Except PingoraError Unit × UInt64 :=
  if wasUpgraded then (.ok (), received) else updateReceivedBodyBytes received body limit

def receiveChunks (limit : UInt64) (received : UInt64) :
    List (Option (List UInt8)) → Except PingoraError Unit × UInt64
  | [] => (.ok (), received)
  | chunk :: rest =>
    match requestBodyFilter false received chunk (some limit) with
    | (.ok (), next) => receiveChunks limit next rest
    | (.error error, kept) => (.error error, kept)

def bodyLength (chunks : List (Option (List UInt8))) : Nat :=
  (chunks.map fun chunk => (chunk.map List.length).getD 0).sum

def declaredLength (header : HeaderValue) : Option UInt64 := header.toStr.bind Digits.parseU64

variable {received limit next : UInt64} {body : List UInt8}

lemma lengthU64_eq_some {length : Nat} : lengthU64 length = some next ↔ next.toNat = length := by
  unfold lengthU64
  constructor
  · intro found
    split at found
    next fits => rw [← Option.some.inj found, UInt64.toNat_ofNat_of_lt' fits]
    next => cases found
  · rintro rfl
    rw [if_pos next.toNat_lt, UInt64.ofNat_toNat]

lemma nextReceived_eq_ok : nextReceived received body limit = .ok next ↔
    next.toNat = received.toNat + body.length ∧ next ≤ limit := by
  simp only [nextReceived, bind_eq_ok, orFail_eq_ok, rejectIf_eq_ok, checkedAdd,
    lengthU64_eq_some, decide_eq_false_iff_not, UInt64.not_lt]
  constructor
  · rintro ⟨_, length, _, sum, _, below, same⟩
    cases same
    exact ⟨length ▸ sum, below⟩
  · rintro ⟨sum, below⟩
    have fits : body.length < 2 ^ 64 := by
      have := next.toNat_lt
      omega
    have length : (UInt64.ofNat body.length).toNat = body.length := UInt64.toNat_ofNat_of_lt' fits
    exact ⟨_, length, next, by rw [length, sum], (), below, rfl⟩

lemma updateReceivedBodyBytes_spec (within : received ≤ limit) (chunk : Option (List UInt8)) :
    ((updateReceivedBodyBytes received chunk (some limit)).1 = .ok () ∧
        (updateReceivedBodyBytes received chunk (some limit)).2.toNat =
          received.toNat + (chunk.map List.length).getD 0 ∧
        (updateReceivedBodyBytes received chunk (some limit)).2 ≤ limit) ∨
      (∃ error, updateReceivedBodyBytes received chunk (some limit) = (.error error, received)) ∧
        limit.toNat < received.toNat + (chunk.map List.length).getD 0 := by
  cases chunk with
  | none => exact .inl ⟨rfl, rfl, within⟩
  | some body =>
    simp only [updateReceivedBodyBytes, map_some, getD_some]
    cases res : nextReceived received body limit with
    | ok next => exact .inl ⟨rfl, nextReceived_eq_ok.mp res⟩
    | error error =>
      refine .inr ⟨⟨error, rfl⟩, ?_⟩
      by_contra fits
      have small : received.toNat + body.length < 2 ^ 64 := by
        have := limit.toNat_lt
        omega
      have sum : (UInt64.ofNat (received.toNat + body.length)).toNat =
          received.toNat + body.length := UInt64.toNat_ofNat_of_lt' small
      have below : UInt64.ofNat (received.toNat + body.length) ≤ limit := by
        rw [UInt64.le_iff_toNat_le, sum]
        exact not_lt.mp fits
      cases res.symm.trans (nextReceived_eq_ok.mpr ⟨sum, below⟩)

lemma receiveChunks_spec (chunks : List (Option (List UInt8))) (within : received ≤ limit) :
    ((receiveChunks limit received chunks).1 = .ok () ↔
        received.toNat + bodyLength chunks ≤ limit.toNat) ∧
      ((receiveChunks limit received chunks).1 = .ok () →
        (receiveChunks limit received chunks).2.toNat = received.toNat + bodyLength chunks) := by
  induction chunks generalizing received with
  | nil => exact ⟨iff_of_true rfl (UInt64.le_iff_toNat_le.mp within), fun _ => rfl⟩
  | cons chunk rest ih =>
    have length : bodyLength (chunk :: rest) =
        (chunk.map List.length).getD 0 + bodyLength rest := rfl
    simp only [receiveChunks, requestBodyFilter, Bool.false_eq_true, if_false, length]
    rcases updateReceivedBodyBytes_spec within chunk with ⟨taken, sum, below⟩ | ⟨⟨error, kept⟩, above⟩
    · obtain ⟨ok, counted⟩ := ih below
      rw [sum, Nat.add_assoc] at ok counted
      generalize updateReceivedBodyBytes received chunk (some limit) = out at *
      obtain ⟨_, next⟩ := out
      cases taken
      exact ⟨ok, counted⟩
    · rw [kept]
      exact ⟨iff_of_false nofun (by omega), nofun⟩

/-- The limit is exact for every chunking, and a truthful declared length is
rejected only together with the body. -/
theorem body_limit_exact (limit : UInt64) (chunks : List (Option (List UInt8))) :
    ((receiveChunks limit 0 chunks).1 = .ok () ↔ bodyLength chunks ≤ limit.toNat) ∧
      (∀ before, before <+: chunks → (receiveChunks limit 0 before).1 = .ok () →
        (receiveChunks limit 0 before).2.toNat = bodyLength before) ∧
      (∀ wasUpgraded received chunk error,
        (requestBodyFilter wasUpgraded received chunk (some limit)).1 = .error error →
          (requestBodyFilter wasUpgraded received chunk (some limit)).2 = received) ∧
      ∀ header, contentLengthLimitExceeded (some header) (some limit) = some true →
        ∃ size, declaredLength header = some size ∧ limit < size ∧
          (size.toNat = bodyLength chunks → (receiveChunks limit 0 chunks).1 ≠ .ok ()) := by
  have start : 0 ≤ limit := UInt64.le_iff_toNat_le.mpr (Nat.zero_le _)
  have run := fun chunks => receiveChunks_spec chunks start
  simp only [UInt64.toNat_zero, Nat.zero_add] at run
  refine ⟨(run chunks).1, fun before _ => (run before).2, ?_, ?_⟩
  · intro wasUpgraded received chunk error rejected
    unfold requestBodyFilter updateReceivedBodyBytes at *
    grind
  · intro header exceeded
    obtain ⟨text, decoded, size, parsed, same⟩ := bind₂_eq_some.mp exceeded
    have above : limit < size := by simpa using same
    refine ⟨size, bind_eq_some_iff.mpr ⟨text, decoded, parsed⟩, above, ?_⟩
    intro truthful accepted
    have below := (run chunks).1.mp accepted
    rw [UInt64.lt_iff_toNat_lt] at above
    omega

end Ngxora.Routing
