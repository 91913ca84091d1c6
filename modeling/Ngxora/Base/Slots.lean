/-
Entries that several claimants compete for.
-/

import Ngxora.Base.Table

namespace Ngxora.Slots

open List Option

variable {α β K : Type}

def claim (strong weak : Bool) (value : β) (slot : Option β) : Option β :=
  if strong || (weak && slot.isNone) then some value else slot

/-- The last strong claimant, or the first weak one when there is none. -/
def holder (strong weak : α → Bool) (items : List α) : Option α :=
  (items.reverse.find? strong).or (items.find? weak)

lemma find?_reverse_cons (holds : α → Bool) (item : α) (rest : List α) :
    (item :: rest).reverse.find? holds =
      (rest.reverse.find? holds).or (if holds item then some item else none) := by
  rw [reverse_cons, find?_append, find?_singleton]

lemma foldl_claim (strong weak : α → Bool) (value : α → β) (items : List α) (slot : Option β) :
    items.foldl (fun slot item => claim (strong item) (weak item) (value item) slot) slot =
      ((items.reverse.find? strong).map value).or (slot.or ((items.find? weak).map value)) := by
  induction items generalizing slot with
  | nil => simp
  | cons item rest ih =>
    rw [foldl_cons, ih, find?_reverse_cons, find?_cons]
    cases laterStrong : rest.reverse.find? strong with
    | some later => simp
    | none =>
      cases isStrong : strong item with
      | true => simp [claim]
      | false =>
        cases isWeak : weak item with
        | true => cases slot <;> simp [claim]
        | false => simp [claim]

lemma foldl_claim_none (strong weak : α → Bool) (value : α → β) (items : List α) :
    items.foldl (fun slot item => claim (strong item) (weak item) (value item) slot) none =
      (holder strong weak items).map value := by
  rw [foldl_claim, holder, none_or, map_or]

variable {strong weak holds : α → Bool} {items : List α} {item fresh : α} {change : α → α}
  {good : α → Prop}

lemma holder_mem (holds : holder strong weak items = some item) : item ∈ items := by
  unfold holder at holds
  rcases or_eq_some_iff.mp holds with found | ⟨_, found⟩
  · exact mem_reverse.mp (mem_of_find?_eq_some found)
  · exact mem_of_find?_eq_some found

lemma holder_isSome (mem : item ∈ items) (willing : weak item = true) :
    (holder strong weak items).isSome = true := by
  unfold holder
  rw [isSome_or, Bool.or_eq_true]
  exact .inr (find?_isSome.mpr ⟨item, mem, willing⟩)

lemma holder_of_strong (weak : α → Bool) (claimed : ∃ item ∈ items, strong item = true) :
    ∃ item ∈ items, strong item = true ∧ holder strong weak items = some item := by
  obtain ⟨claimant, mem, isStrong⟩ := claimed
  have here : (items.reverse.find? strong).isSome = true :=
    find?_isSome.mpr ⟨claimant, mem_reverse.mpr mem, isStrong⟩
  obtain ⟨last, found⟩ := isSome_iff_exists.mp here
  refine ⟨last, mem_reverse.mp (mem_of_find?_eq_some found), find?_some found, ?_⟩
  rw [holder, found, some_or]

lemma holder_of_weak (unclaimed : ∀ item ∈ items, strong item = false) :
    holder strong weak items = items.find? weak := by
  have none : items.reverse.find? strong = none :=
    find?_eq_none.mpr fun item mem => by simp [unclaimed item (mem_reverse.mp mem)]
  rw [holder, none, none_or]

lemma holder_map (strong weak : β → Bool) (f : α → β) (items : List α) :
    holder strong weak (items.map f) =
      (holder (fun item => strong (f item)) (fun item => weak (f item)) items).map f := by
  rw [holder, holder, ← map_reverse, find?_map, find?_map, map_or]
  rfl

lemma first_related {rel : α → α → Prop} {first : α} (sorted : items.Pairwise rel)
    (found : items.find? holds = some first) (mem : item ∈ items) (qualifies : holds item)
    (refl : ∀ item, rel item item) : rel first item := by
  obtain ⟨_, before, after, rfl, failed⟩ := find?_eq_some_iff_append.mp found
  rcases mem_append.mp mem with old | rest
  · exact absurd qualifies (by simpa using failed item old)
  · rcases mem_cons.mp rest with rfl | later
    · exact refl item
    · exact (pairwise_cons.mp (pairwise_append.mp sorted).2.1).1 item later

variable {measure : α → Nat}

lemma first_le {first : α}
    (sorted : items.Pairwise fun old later => measure old ≤ measure later)
    (found : items.find? holds = some first) (mem : item ∈ items) (qualifies : holds item) :
    measure first ≤ measure item := by
  apply first_related sorted found mem qualifies
  exact fun _ => Nat.le_refl _

lemma le_last {last : α}
    (sorted : items.Pairwise fun old later => measure old ≤ measure later)
    (found : items.reverse.find? holds = some last) (mem : item ∈ items) (qualifies : holds item) :
    measure item ≤ measure last := by
  apply first_related (pairwise_reverse.mpr sorted) found (mem_reverse.mpr mem) qualifies
  exact fun _ => Nat.le_refl _

lemma lookup_foldl_insertAll [DecidableEq K] (keys : α → List K) (value : α → β)
    (items : List α) (table : Table K β) (key : K) :
    (items.foldl (fun table item => Table.insertAll (keys item) (value item) table) table).lookup
        key = ((items.reverse.find? fun item => decide (key ∈ keys item)).map value).or
        (table.lookup key) := by
  induction items generalizing table with
  | nil => simp
  | cons item rest ih =>
    rw [foldl_cons, ih, find?_reverse_cons, Table.lookup_insertAll]
    cases rest.reverse.find? fun item => decide (key ∈ keys item) with
    | some later => simp
    | none => by_cases claimed : key ∈ keys item <;> simp [claimed]

def updateFirst (holds : α → Bool) (change : α → α) (fresh : α) : List α → List α
  | [] => [fresh]
  | item :: rest =>
    if holds item then change item :: rest
    else item :: updateFirst holds change fresh rest

lemma forall_updateFirst (old : ∀ item ∈ items, good item)
    (changed : ∀ item ∈ items, holds item = true → good (change item)) (new : good fresh) :
    ∀ item ∈ updateFirst holds change fresh items, good item := by
  induction items with
  | nil => simpa [updateFirst] using new
  | cons head rest ih =>
    obtain ⟨headGood, restGood⟩ := forall_mem_cons.mp old
    obtain ⟨headChanged, restChanged⟩ := forall_mem_cons.mp changed
    rw [updateFirst]
    cases qualifies : holds head with
    | true => exact forall_mem_cons.mpr ⟨headChanged qualifies, restGood⟩
    | false => exact forall_mem_cons.mpr ⟨headGood, ih restGood restChanged⟩

lemma exists_updateFirst (kept : ∀ item, good item → good (change item))
    (here : ∃ item ∈ items, good item) :
    ∃ item ∈ updateFirst holds change fresh items, good item := by
  obtain ⟨item, mem, itemGood⟩ := here
  induction items with
  | nil => cases mem
  | cons head rest ih =>
    rw [updateFirst]
    cases qualifies : holds head with
    | true =>
      rcases mem_cons.mp mem with same | later
      · exact ⟨change head, mem_cons_self, kept head (same ▸ itemGood)⟩
      · exact ⟨item, mem_cons_of_mem _ later, itemGood⟩
    | false =>
      rcases mem_cons.mp mem with same | later
      · exact ⟨head, mem_cons_self, same ▸ itemGood⟩
      · obtain ⟨found, foundMember, foundGood⟩ := ih later
        exact ⟨found, mem_cons_of_mem _ foundMember, foundGood⟩

lemma exists_updateFirst_new (changed : ∀ item, good (change item)) (new : good fresh) :
    ∃ item ∈ updateFirst holds change fresh items, good item := by
  induction items with
  | nil => exact ⟨fresh, mem_singleton.mpr rfl, new⟩
  | cons head rest ih =>
    rw [updateFirst]
    cases qualifies : holds head with
    | true => exact ⟨change head, mem_cons_self, changed head⟩
    | false =>
      obtain ⟨found, foundMember, foundGood⟩ := ih
      exact ⟨found, mem_cons_of_mem _ foundMember, foundGood⟩

lemma head?_updateFirst (holds : α → Bool) (change : α → α) (fresh : α) (items : List α) :
    (updateFirst holds change fresh items).head? =
      match items.head? with
      | none => some fresh
      | some item => some (if holds item then change item else item) := by
  cases items with
  | nil => rfl
  | cons head rest =>
    rw [updateFirst]
    cases qualifies : holds head with
    | true | false => simp [qualifies]

end Ngxora.Slots
