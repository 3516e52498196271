import Mathlib.Algebra.Order.BigOperators.Group.List
import Mathlib.Data.List.AList

namespace TunnelBore.Lib

/-!
# Totals over a table

`total w m` adds up the weights of the values of a table.  An insertion replaces what the key had,
so it adds the new weight to what is left without the key; a removal takes the weight of the key's
value away.  With multisets for weights this is an account of what the table holds.
-/

variable {κ β M : Type*} [AddCommMonoid M]

/-- The sum of the weights of all values. -/
def total (w : β → M) (m : AList fun _ : κ => β) : M := (m.entries.map fun entry => w entry.2).sum

@[simp] theorem total_empty (w : β → M) : total w (∅ : AList fun _ : κ => β) = 0 := rfl

variable [DecidableEq κ] {w : β → M} {m : AList fun _ : κ => β} {a : κ} {b : β}

theorem total_insert (a : κ) (b : β) : total w (m.insert a b) = w b + total w (m.erase a) :=
  List.sum_cons

/-- The value of a key and the rest of the table. -/
theorem total_of_lookup (h : m.lookup a = some b) : total w m = w b + total w (m.erase a) := by
  change m.entries.dlookup a = some b at h
  show (m.entries.map fun entry => w entry.2).sum =
    w b + ((m.entries.kerase a).map fun entry => w entry.2).sum
  -- both look for the first entry of the key
  generalize m.entries = entries at h ⊢
  induction entries with
  | nil => cases h
  | cons entry entries ih =>
    obtain ⟨key, value⟩ := entry
    by_cases hkey : a = key
    · subst hkey
      rw [List.dlookup_cons_eq, Option.some.injEq] at h
      have hrest : List.kerase a (⟨a, value⟩ :: entries) = entries := List.kerase_cons_eq rfl
      rw [hrest, List.map_cons, List.sum_cons, ← h]
    · rw [List.dlookup_cons_ne entries ⟨key, value⟩ hkey] at h
      have hrest : List.kerase a (⟨key, value⟩ :: entries) =
          ⟨key, value⟩ :: List.kerase a entries := List.kerase_cons_ne hkey
      rw [hrest, List.map_cons, List.sum_cons, List.map_cons, List.sum_cons, ih h, add_left_comm]

theorem erase_of_lookup_eq_none (h : m.lookup a = none) : m.erase a = m :=
  AList.ext (List.kerase_of_notMem_keys (AList.lookup_eq_none.mp h))

/-- A key that is new adds its weight. -/
theorem total_insert_of_new (h : m.lookup a = none) : total w (m.insert a b) = w b + total w m := by
  rw [total_insert, erase_of_lookup_eq_none h]

section
variable [PartialOrder M] [CanonicallyOrderedAdd M]

theorem total_erase_le (a : κ) : total w (m.erase a) ≤ total w m := by
  cases h : m.lookup a with
  | none => rw [erase_of_lookup_eq_none h]
  | some b =>
    rw [total_of_lookup h]
    exact le_add_self

/-- Whatever the key had, an insertion adds no more than the new weight. -/
theorem total_insert_le [IsOrderedAddMonoid M] (a : κ) (b : β) :
    total w (m.insert a b) ≤ w b + total w m := by
  rw [total_insert]
  exact add_le_add_right (total_erase_le a) _

end

end TunnelBore.Lib
