/-
Sequenced computations that may fail with a message.
-/

import Mathlib.Data.List.Forall2
import Mathlib.Data.List.Induction

namespace Ngxora.Results

open List Option
open List (Forall₂)

variable {ε α β γ δ σ : Type}

def rejectIf (bad : Bool) (message : ε) : Except ε Unit :=
  if bad then .error message else .ok ()

def orFail (value : Option α) (message : ε) : Except ε α :=
  match value with
  | some found => .ok found
  | none => .error message

@[simp]
lemma ok_bind (value : α) (next : α → Except ε β) : (Except.ok value >>= next) = next value := rfl

@[simp]
lemma error_bind (message : ε) (next : α → Except ε β) :
    (Except.error message >>= next) = Except.error message := rfl

@[simp]
lemma pure_eq_ok (value : α) : (pure value : Except ε α) = .ok value := rfl

@[simp]
lemma throw_eq_error (message : ε) : (throw message : Except ε α) = .error message := rfl

@[simp]
lemma map_ok (value : α) (f : α → β) : (f <$> (Except.ok value : Except ε α)) = .ok (f value) := rfl

@[simp]
lemma map_error (message : ε) (f : α → β) :
    (f <$> (Except.error message : Except ε α)) = .error message := rfl

variable {comp : Except ε α}

/-- Proofs peel a computation apart with it, without unfolding the parts. -/
lemma bind_eq_ok {next : α → Except ε β} {result : β} : (comp >>= next) = .ok result ↔
    ∃ value, comp = .ok value ∧ next value = .ok result := by
  cases comp with
  | error message | ok value => simp

lemma bind₂_eq_ok {first : Except ε α} {second : α → Except ε β} {next : α → β → Except ε γ}
    {result : γ} : (first >>= fun left => second left >>= next left) = .ok result ↔
      ∃ left, first = .ok left ∧ ∃ right, second left = .ok right ∧
        next left right = .ok result := by
  simp only [bind_eq_ok]

lemma bind₃_eq_ok {first : Except ε α} {second : α → Except ε β} {third : α → β → Except ε γ}
    {next : α → β → γ → Except ε δ} {result : δ} :
    (first >>= fun a => second a >>= fun b => third a b >>= next a b) = .ok result ↔
      ∃ a, first = .ok a ∧ ∃ b, second a = .ok b ∧ ∃ c, third a b = .ok c ∧
        next a b c = .ok result := by
  simp only [bind_eq_ok]

lemma bind₂_eq_some {first : Option α} {second : α → Option β} {next : α → β → Option γ}
    {result : γ} : (first.bind fun left => (second left).bind (next left)) = some result ↔
      ∃ left, first = some left ∧ ∃ right, second left = some right ∧
        next left right = some result := by
  simp only [bind_eq_some_iff]

lemma bind_eq_error {next : α → Except ε β} {message : ε} :
    (comp >>= next) = .error message ↔
      comp = .error message ∨ ∃ value, comp = .ok value ∧ next value = .error message := by
  cases comp with
  | error | ok value => simp

lemma map_eq_ok {f : α → β} {result : β} : (f <$> comp) = .ok result ↔
    ∃ value, comp = .ok value ∧ f value = result := by
  cases comp with
  | error msg | ok value => simp

lemma toOption_eq_some {result : α} :
    comp.toOption = some result ↔ comp = .ok result := by
  cases comp with
  | error | ok value => simp [Except.toOption]

lemma mapError_eq_ok {f : ε → δ} {result : α} :
    comp.mapError f = .ok result ↔ comp = .ok result := by
  cases comp <;> simp [Except.mapError]

@[simp]
lemma rejectIf_eq_ok {bad : Bool} {msg : ε} {done : Unit} :
    rejectIf bad msg = .ok done ↔ bad = false := by
  cases bad <;> simp [rejectIf]

@[simp]
lemma rejectIf_false (message : ε) : rejectIf false message = .ok () := rfl

@[simp]
lemma rejectIf_true (message : ε) : rejectIf true message = .error message := rfl

lemma rejectIf_eq_error {bad : Bool} {message reported : ε} :
    rejectIf bad message = .error reported ↔ bad = true ∧ message = reported := by
  cases bad with
  | false | true => simp

@[simp]
lemma orFail_some (value : α) (message : ε) : orFail (some value) message = .ok value := rfl

@[simp]
lemma orFail_none (message : ε) : orFail (none : Option α) message = .error message := rfl

@[simp]
lemma orFail_eq_ok {value : Option α} {msg : ε} {result : α} :
    orFail value msg = .ok result ↔ value = some result := by
  cases value <;> simp [orFail]

lemma orFail_eq_error {value : Option α} {message reported : ε} :
    orFail value message = .error reported ↔ value = none ∧ message = reported := by
  cases value with
  | none | some value => simp

variable {f : α → Except ε β} {items : List α} {results : List β}

lemma mapM_eq_ok : items.mapM f = .ok results ↔
    Forall₂ (fun item result => f item = .ok result) items results := by
  induction items generalizing results with
  | nil =>
    simp only [mapM_nil, pure_eq_ok, Except.ok.injEq, forall₂_nil_left_iff]
    exact eq_comm
  | cons head tail ih =>
    rw [mapM_cons, bind_eq_ok]
    constructor
    · rintro ⟨first, headOk, rest⟩
      obtain ⟨others, tailOk, same⟩ := bind_eq_ok.mp rest
      have split : first :: others = results := by simpa using same
      subst split
      exact .cons headOk (ih.mp tailOk)
    · intro rel
      cases rel with
      | cons headOk tailOk =>
        refine ⟨_, headOk, ?_⟩
        rw [ih.mpr tailOk]
        rfl

lemma mapM_congr {g : α → Except ε β}
    (same : ∀ item ∈ items, f item = g item) : items.mapM f = items.mapM g := by
  induction items with
  | nil => rfl
  | cons item rest ih =>
    obtain ⟨here, later⟩ := forall_mem_cons.mp same
    rw [mapM_cons, mapM_cons, here, ih later]

lemma mapM_eq_ok_map {g : α → β} (steps : ∀ item ∈ items, f item = .ok (g item)) :
    items.mapM f = .ok (items.map g) := by
  rwa [mapM_eq_ok, forall₂_map_right_iff, forall₂_same]

lemma exists_of_mem_left {rel : α → β → Prop} (pairs : Forall₂ rel items results)
    {item : α} (mem : item ∈ items) : ∃ result ∈ results, rel item result := by
  induction pairs with
  | nil => cases mem
  | cons headRelated _ ih =>
    rcases mem_cons.mp mem with same | later
    · subst same
      exact ⟨_, mem_cons_self, headRelated⟩
    · obtain ⟨result, here, resultRelated⟩ := ih later
      exact ⟨result, mem_cons_of_mem _ here, resultRelated⟩

lemma exists_of_mem_right {rel : α → β → Prop} (pairs : Forall₂ rel items results)
    {result : β} (mem : result ∈ results) : ∃ item ∈ items, rel item result :=
  exists_of_mem_left pairs.flip mem

lemma forall₂_eq_map_iff {good : α → Prop} {f : α → β} :
    Forall₂ (fun item res => good item ∧ res = f item) items results ↔
      (∀ item ∈ items, good item) ∧ results = items.map f := by
  rw [forall₂_and_left]
  apply and_congr_right'
  constructor
  · intro pairs
    induction pairs with
    | nil => rfl
    | cons same _ ih => rw [same, ih, map_cons]
  · rintro rfl
    rw [forall₂_map_right_iff, forall₂_same]
    exact fun _ _ => rfl

lemma filter_flatten {τ : Type} [DecidableEq τ] {label : β → τ} {name : α → τ}
    {owners : List α} {groups : List (List β)}
    (injective : ∀ left ∈ owners, ∀ right ∈ owners, name left = name right → left = right)
    (nodup : owners.Nodup)
    (labelled : Forall₂ (fun owner group => ∀ item ∈ group, label item = name owner)
      owners groups) : Forall₂ (fun owner group =>
        groups.flatten.filter (fun item => decide (label item = name owner)) = group)
      owners groups := by
  induction labelled with
  | nil => exact .nil
  | @cons owner group rest others headLabels restLabels ih =>
    obtain ⟨notAgain, restDistinct⟩ := nodup_cons.mp nodup
    have differs : ∀ other ∈ rest, name other ≠ name owner := by
      intro other mem same
      exact notAgain (injective other (mem_cons_of_mem _ mem) owner mem_cons_self same ▸ mem)
    refine Forall₂.cons ?_ ?_
    · have whole : group.filter (fun item => decide (label item = name owner)) = group :=
        filter_eq_self.mpr fun item mem => decide_eq_true (headLabels item mem)
      have none : others.flatten.filter (fun item => decide (label item = name owner)) = [] := by
        refine filter_eq_nil_iff.mpr fun item mem same => ?_
        obtain ⟨otherGroup, groupMember, itemMember⟩ := mem_flatten.mp mem
        obtain ⟨other, otherMember, otherLabels⟩ := exists_of_mem_right restLabels groupMember
        exact differs other otherMember
          ((otherLabels item itemMember).symm.trans (of_decide_eq_true same))
      rw [flatten_cons, filter_append, whole, none, append_nil]
    · have tail := ih (fun left leftMember right rightMember =>
        injective left (mem_cons_of_mem _ leftMember) right
          (mem_cons_of_mem _ rightMember)) restDistinct
      refine ((forall₂_and_left _ _).mpr ⟨differs, tail⟩).imp ?_
      rintro other otherGroup ⟨otherName, split⟩
      have skipped : group.filter (fun item => decide (label item = name other)) = [] := by
        refine filter_eq_nil_iff.mpr fun item mem same => ?_
        exact otherName ((of_decide_eq_true same).symm.trans (headLabels item mem))
      rw [flatten_cons, filter_append, skipped, nil_append, split]

lemma forall₂_of_forall_exists {first : α → β → Prop} {second : β → α → Prop}
    (choice : ∀ item ∈ items, ∃ res, first item res ∧ second res item) :
    ∃ results, Forall₂ first items results ∧ Forall₂ second results items := by
  induction items with
  | nil => exact ⟨[], .nil, .nil⟩
  | cons item rest ih =>
    obtain ⟨⟨res, here, back⟩, later⟩ := forall_mem_cons.mp choice
    obtain ⟨results, forward, backward⟩ := ih later
    exact ⟨res :: results, .cons here forward, .cons back backward⟩

lemma mapM_mem (ok : items.mapM f = .ok results) {result : β} (mem : result ∈ results) :
    ∃ item ∈ items, f item = .ok result :=
  exists_of_mem_right (mapM_eq_ok.mp ok) mem

lemma exists_mapM_eq_ok (steps : ∀ item ∈ items, ∃ res, f item = .ok res) :
    ∃ results, items.mapM f = .ok results := by
  induction items with
  | nil => exact ⟨[], rfl⟩
  | cons item rest ih =>
    obtain ⟨⟨res, itemOk⟩, later⟩ := forall_mem_cons.mp steps
    obtain ⟨results, restOk⟩ := ih later
    exact ⟨res :: results, by simp [itemOk, restOk]⟩

def traverse (f : α → Except ε β) : Option α → Except ε (Option β)
  | none => .ok none
  | some value => some <$> f value

@[simp]
lemma traverse_none (f : α → Except ε β) : traverse f none = .ok none := rfl

@[simp]
lemma traverse_some (f : α → Except ε β) (value : α) :
    traverse f (some value) = some <$> f value := rfl

lemma traverse_some_eq_ok {source : Option α} {result : β} : traverse f source = .ok (some result) ↔
    ∃ value, source = some value ∧ f value = .ok result := by
  cases source with
  | none => simp
  | some value => simp [map_eq_ok]

lemma traverse_none_eq_ok {source : Option α} : traverse f source = .ok none ↔ source = none := by
  cases source with
  | none => simp
  | some value => simp [map_eq_ok]

lemma traverse_isSome {source : Option α} {result : Option β}
    (ok : traverse f source = .ok result) : result.isSome = source.isSome := by
  cases result with
  | none => rw [traverse_none_eq_ok.mp ok]; rfl
  | some value =>
    obtain ⟨found, same, _⟩ := traverse_some_eq_ok.mp ok
    rw [same]; rfl

lemma traverse_roundTrip {print : β → γ} {decode : γ → Except ε α} {convert : α → Except ε β}
    {exportable : β → Prop} {source : Option α} {converted : Option β}
    (ok : traverse convert source = .ok converted)
    (each : ∀ {value result}, convert value = .ok result →
      ((∃ middle, decode (print result) = .ok middle ∧ convert middle = .ok result) ↔
        exportable result)) :
    (∃ middle, traverse decode (converted.map print) = .ok middle ∧
        traverse convert middle = .ok converted) ↔
      ∀ value ∈ converted, exportable value := by
  cases converted with
  | none =>
    simp only [map_none, traverse_none, Except.ok.injEq, not_mem_none,
      false_implies, implies_true, iff_true]
    exact ⟨none, rfl, rfl⟩
  | some value =>
    obtain ⟨_, _, sourceOk⟩ := traverse_some_eq_ok.mp ok
    simp only [map_some, traverse_some, map_eq_ok, mem_def, Option.some.injEq, forall_eq',
      ← each sourceOk]
    constructor
    · rintro ⟨middle, ⟨decoded, decodeOk, same⟩, convertOk⟩
      subst same
      rw [traverse_some, map_eq_ok] at convertOk
      obtain ⟨result, resultOk, same⟩ := convertOk
      cases same
      exact ⟨decoded, decodeOk, resultOk⟩
    · rintro ⟨decoded, decodeOk, convertOk⟩
      exact ⟨some decoded, ⟨decoded, decodeOk, rfl⟩, by simp [convertOk]⟩

lemma forM_eq_ok {f : α → Except ε Unit} {done : Unit} :
    items.forM f = .ok done ↔ ∀ item ∈ items, f item = .ok () := by
  induction items with
  | nil => simp [List.forM]
  | cons head tail ih =>
    change (f head >>= fun _ => tail.forM f) = .ok done ↔ _
    rw [bind_eq_ok, forall_mem_cons]
    constructor
    · rintro ⟨_, headOk, tailOk⟩
      exact ⟨headOk, ih.mp tailOk⟩
    · rintro ⟨headOk, tailOk⟩
      exact ⟨(), headOk, ih.mpr tailOk⟩

section Loops

variable {f : σ → α → Except ε σ} {items : List α} {start finish : σ}

lemma foldlM_append_eq_ok {first second : List α} : (first ++ second).foldlM f start = .ok finish ↔
    ∃ middle, first.foldlM f start = .ok middle ∧ second.foldlM f middle = .ok finish := by
  rw [foldlM_append, bind_eq_ok]

lemma foldlM_cons_eq_ok {head : α} {tail : List α} : (head :: tail).foldlM f start = .ok finish ↔
    ∃ next, f start head = .ok next ∧ tail.foldlM f next = .ok finish := by
  rw [foldlM_cons, bind_eq_ok]

lemma foldlM_nil_eq_ok : ([] : List α).foldlM f start = .ok finish ↔ start = finish := by
  simp

lemma foldlM_prefix_invariant (holds : List α → σ → Prop) (initially : holds [] start)
    (kept : ∀ done state item next, item ∈ items → holds done state → f state item = .ok next →
      holds (done ++ [item]) next)
    (ok : items.foldlM f start = .ok finish) : holds items finish := by
  induction items using List.reverseRecOn generalizing finish with
  | nil => exact foldlM_nil_eq_ok.mp ok ▸ initially
  | append_singleton front last ih =>
    obtain ⟨middle, frontOk, lastOk⟩ := foldlM_append_eq_ok.mp ok
    obtain ⟨next, stepOk, done⟩ := foldlM_cons_eq_ok.mp lastOk
    have before : holds front middle := by
      refine ih (fun done state item next mem => ?_) frontOk
      exact kept done state item next (mem_append_left _ mem)
    have after := kept front middle last next (mem_append_right _ mem_cons_self) before stepOk
    exact foldlM_nil_eq_ok.mp done ▸ after

lemma foldlM_invariant (holds : σ → Prop) (initially : holds start)
    (kept : ∀ state item next, item ∈ items → holds state → f state item = .ok next → holds next)
    (ok : items.foldlM f start = .ok finish) : holds finish :=
  foldlM_prefix_invariant (fun _ => holds) initially (fun _ => kept) ok

lemma exists_step_of_foldlM (ok : items.foldlM f start = .ok finish) :
    ∀ item ∈ items, ∃ state next, f state item = .ok next := by
  refine foldlM_prefix_invariant (fun done _ => ∀ item ∈ done, ∃ state next,
    f state item = .ok next) (fun _ mem => nomatch mem) ?_ ok
  intro done state item next _ steps stepOk other mem
  rcases mem_append.mp mem with old | last
  · exact steps other old
  · exact ⟨state, next, mem_singleton.mp last ▸ stepOk⟩

lemma exists_failure_of_foldlM {message : ε} (fails : items.foldlM f start = .error message) :
    ∃ done item rest state, items = done ++ item :: rest ∧ done.foldlM f start = .ok state ∧
      f state item = .error message := by
  induction items generalizing start with
  | nil => cases fails
  | cons head tail ih =>
    rw [foldlM_cons, bind_eq_error] at fails
    rcases fails with headFails | ⟨next, headOk, tailFails⟩
    · exact ⟨[], head, tail, start, rfl, rfl, headFails⟩
    · obtain ⟨done, item, rest, state, split, doneOk, itemFails⟩ := ih tailFails
      refine ⟨head :: done, item, rest, state, by rw [split, cons_append], ?_, itemFails⟩
      rw [foldlM_cons, headOk, ok_bind, doneOk]

lemma foldlM_observe {τ : Type*} (part : σ → τ) (change : τ → α → τ)
    (step : ∀ state item next, f state item = .ok next → part next = change (part state) item)
    (ok : items.foldlM f start = .ok finish) : part finish = items.foldl change (part start) := by
  refine foldlM_prefix_invariant
    (fun done state => part state = done.foldl change (part start)) rfl ?_ ok
  intro done state item next _ here stepOk
  rw [foldl_append, ← here]
  exact step state item next stepOk

/-- A part of the state collects one result for each item that is picked. -/
lemma foldlM_collects {β γ : Type*} (part : σ → List β) (pick : α → Option γ)
    (rel : γ → β → Prop) (initially : part start = [])
    (step : ∀ state item next, f state item = .ok next →
      (pick item = none ∧ part next = part state) ∨ ∃ picked res, pick item = some picked ∧
        rel picked res ∧ part next = part state ++ [res])
    (ok : items.foldlM f start = .ok finish) :
    Forall₂ rel (items.filterMap pick) (part finish) := by
  refine foldlM_prefix_invariant
    (fun done state => Forall₂ rel (done.filterMap pick) (part state))
    (initially ▸ .nil) ?_ ok
  intro done state item next _ here stepOk
  rw [filterMap_append]
  rcases step state item next stepOk with ⟨skipped, same⟩ | ⟨picked, res, isPicked, holds, added⟩
  · simpa [skipped, same] using here
  · rw [added]
    exact rel_append here (by simpa [isPicked] using holds)

end Loops

section Runs

variable {holds : α → Prop} [∀ value, Decidable (holds value)]

instance decidableOk {computation : Except ε α} :
    Decidable (∃ value, computation = .ok value ∧ holds value) :=
  match computation with
  | .ok value => decidable_of_iff (holds value) (by simp)
  | .error _ => isFalse (by simp)

instance decidableSome {found : Option α} :
    Decidable (∃ value, found = some value ∧ holds value) :=
  match found with
  | some value => decidable_of_iff (holds value) (by simp)
  | none => isFalse (by simp)

instance decidableOkSome {computation : Except ε (Option α)} :
    Decidable (∃ value, computation = .ok (some value) ∧ holds value) :=
  match computation with
  | .ok (some value) => decidable_of_iff (holds value) (by simp)
  | .ok none | .error _ => isFalse (by simp)

end Runs

end Ngxora.Results
