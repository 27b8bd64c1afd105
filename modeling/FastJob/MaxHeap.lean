import Mathlib

/-!
# The contract of a max-heap

A binary max-heap under a comparison `cmp` is known here by what `peek` and
`pop` answer, not by its array: `peek` gives a greatest item, and nothing
exactly for an empty heap; `pop` removes the item `peek` gives. The items are a
list, of which only the multiset is observed.

Under the reverse of the order of a key, a greatest item is one of least key, so
such a heap is a min-heap on the key; `Contract.ofArgmin` meets the contract.
-/
namespace MaxHeap

variable {α : Type}

/-- What a max-heap under `cmp` answers to `peek`. -/
structure Contract (α : Type) (cmp : α → α → Ordering) where
  peek : List α → Option α
  peek_eq_none : ∀ items, peek items = none ↔ items = []
  mem_of_peek : ∀ {items a}, peek items = some a → a ∈ items
  isLE_of_peek : ∀ {items a}, peek items = some a → ∀ b ∈ items, (cmp b a).isLE

variable {cmp : α → α → Ordering}

/-- A non-empty heap has an item to peek. -/
theorem Contract.peek_of_mem (H : Contract α cmp) {items : List α} {b : α} (hb : b ∈ items) :
    ∃ a, H.peek items = some a := by
  cases h : H.peek items with
  | none =>
    rw [(H.peek_eq_none items).mp h] at hb
    cases hb
  | some a => exact ⟨a, rfl⟩

section Pop

variable [DecidableEq α]

/-- `pop`: the item `peek` gives, and the heap without it. -/
def Contract.pop (H : Contract α cmp) (items : List α) : Option (α × List α) :=
  (H.peek items).map fun a => (a, items.erase a)

theorem Contract.pop_of_peek {H : Contract α cmp} {items : List α} {a : α}
    (h : H.peek items = some a) : H.pop items = some (a, items.erase a) := by
  simp [Contract.pop, h]

theorem Contract.pop_eq_some {H : Contract α cmp} {items rest : List α} {a : α}
    (h : H.pop items = some (a, rest)) : H.peek items = some a ∧ rest = items.erase a := by
  obtain ⟨b, hb, hab⟩ := Option.map_eq_some_iff.mp h
  cases hab
  exact ⟨hb, rfl⟩

end Pop

/-! ### Reversed key orders -/

variable {β : Type} [LinearOrder β]

/-- The reverse of the order of `key`. -/
def revKey (key : α → β) (a b : α) : Ordering := (compare (key a) (key b)).swap

theorem revKey_isLE (key : α → β) (a b : α) : (revKey key b a).isLE = true ↔ key a ≤ key b := by
  rw [revKey, Ordering.isLE_swap, Ordering.isGE_iff_ne_lt]
  exact compare_ge_iff_ge

theorem revKey_eq_eq (key : α → β) (a b : α) : revKey key a b = .eq ↔ key a = key b := by
  rw [revKey, Ordering.swap_eq_eq, compare_eq_iff_eq]

/-- Under the reverse of the order of `key`, a peeked item has the least key. -/
theorem key_le_of_peek {key : α → β} {H : Contract α (revKey key)} {items : List α} {a : α}
    (h : H.peek items = some a) : ∀ b ∈ items, key a ≤ key b :=
  fun b hb => (revKey_isLE key a b).mp (H.isLE_of_peek h b hb)

/-- A heap under the reverse of the order of `key` whose `peek` is the first item of
least key. -/
def Contract.ofArgmin (key : α → β) : Contract α (revKey key) where
  peek := List.argmin key
  peek_eq_none _ := List.argmin_eq_none
  mem_of_peek h := List.argmin_mem h
  isLE_of_peek h b hb := (revKey_isLE key _ b).mpr (List.le_of_mem_argmin hb h)

end MaxHeap
