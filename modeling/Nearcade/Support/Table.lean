import Mathlib.Data.Fintype.Card
import Mathlib.Data.List.Nodup
import Mathlib.Tactic.Common

/-!
# Support — Table

Two kinds of table: `n` entries, each empty or holding a value, and a list of records under a
key.

* `card_used_store`, `card_used_clear`: how a counter of the entries in use must move.
* `Distinct.store`, `Distinct.clear`: no value comes to stand in two entries.
* `Distinct.clear_apply`: clearing the entry of a value takes that value out, and nothing else.
* `find_key`, `mem_erase_key`: under distinct keys, looking up a key finds its record, and erasing
  the first record of a key takes out that record, and nothing else.
-/

namespace Table

universe u
variable {n : Nat} {α : Type u} {t : Fin n → Option α} {i : Fin n} {a : α}

/-- The entries in use. -/
def used (t : Fin n → Option α) : Finset (Fin n) := Finset.univ.filter fun i => (t i).isSome

/-- No value stands in two entries. -/
def Distinct (t : Fin n → Option α) : Prop := ∀ i j a, t i = some a → t j = some a → i = j

theorem mem_used : i ∈ used t ↔ (t i).isSome = true := by
  simp [used]

theorem card_used_le (t : Fin n → Option α) : (used t).card ≤ n := by
  simpa using Finset.card_le_univ (used t)

theorem card_used_empty : (used fun _ : Fin n => (none : Option α)).card = 0 := by
  simp [used]

theorem used_store (a : α) : used (Function.update t i (some a)) = insert i (used t) := by
  ext j
  rw [Finset.mem_insert, mem_used, mem_used]
  by_cases h : j = i
  · subst h; simp
  · simp [h]

theorem used_clear : used (Function.update t i none) = (used t).erase i := by
  ext j
  rw [Finset.mem_erase, mem_used, mem_used]
  by_cases h : j = i
  · subst h; simp
  · simp [h]

theorem card_used_store (h : t i = none) (a : α) :
    (used (Function.update t i (some a))).card = (used t).card + 1 := by
  rw [used_store, Finset.card_insert_of_notMem]
  simp [mem_used, h]

theorem card_used_clear (h : t i = some a) :
    (used (Function.update t i none)).card + 1 = (used t).card := by
  rw [used_clear, Finset.card_erase_add_one]
  simp [mem_used, h]

theorem distinct_empty : Distinct fun _ : Fin n => (none : Option α) := nofun

theorem store_cases {j : Fin n} {b : α} (h : Function.update t i (some a) j = some b) :
    (j = i ∧ b = a) ∨ (j ≠ i ∧ t j = some b) := by
  by_cases hj : j = i
  · rw [hj, Function.update_self] at h
    exact .inl ⟨hj, (Option.some.inj h).symm⟩
  · rw [Function.update_of_ne hj] at h
    exact .inr ⟨hj, h⟩

theorem Distinct.store (h : Distinct t) (ha : ∀ j, t j ≠ some a) :
    Distinct (Function.update t i (some a)) := by
  intro j k b hj hk
  rcases store_cases hj with ⟨hji, hb⟩ | ⟨-, hj'⟩ <;>
    rcases store_cases hk with ⟨hki, hb'⟩ | ⟨-, hk'⟩
  · rw [hji, hki]
  · exact absurd (hb ▸ hk') (ha k)
  · exact absurd (hb' ▸ hj') (ha j)
  · exact h j k b hj' hk'

theorem eq_of_update_none {j : Fin n} (h : Function.update t i none j = some a) : t j = some a := by
  by_cases hj : j = i
  · rw [hj, Function.update_self] at h; cases h
  · rwa [Function.update_of_ne hj] at h

theorem Distinct.clear (h : Distinct t) (i : Fin n) : Distinct (Function.update t i none) :=
  fun j k b hj hk => h j k b (eq_of_update_none hj) (eq_of_update_none hk)

/-- **Clearing the entry of a value** takes that value out, and nothing else. -/
theorem Distinct.clear_apply [DecidableEq α] (h : Distinct t) (hi : t i = some a) (j : Fin n) :
    Function.update t i none j = if t j = some a then none else t j := by
  by_cases hj : j = i
  · rw [hj, Function.update_self, if_pos hi]
  · rw [Function.update_of_ne hj, if_neg fun e => hj (h j i a e hi)]

/-! ### Records under a key -/

variable {κ : Type u} [DecidableEq κ] {key : α → κ} {l : List α} {x : α}

theorem find_key (h : (l.map key).Nodup) (hx : x ∈ l) :
    l.find? (fun y => decide (key y = key x)) = some x := by
  cases hf : l.find? fun y => decide (key y = key x) with
  | none => simpa using List.find?_eq_none.mp hf x hx
  | some y =>
      have hk : key y = key x := by simpa using List.find?_some hf
      rw [List.inj_on_of_nodup_map h (List.mem_of_find?_eq_some hf) hx hk]

theorem nodup_erase_key (h : (l.map key).Nodup) (k : κ) :
    ((l.eraseP fun y => decide (key y = k)).map key).Nodup :=
  h.sublist (List.Sublist.map key List.eraseP_sublist)

theorem mem_erase_key (h : (l.map key).Nodup) {k : κ} :
    x ∈ l.eraseP (fun y => decide (key y = k)) ↔ x ∈ l ∧ key x ≠ k := by
  induction l with
  | nil => simp
  | cons y l ih =>
      obtain ⟨hy, hl⟩ := List.nodup_cons.mp (List.map_cons ▸ h)
      by_cases hk : key y = k
      · rw [List.eraseP_cons_of_pos (by simpa using hk)]
        constructor
        · intro hx
          exact ⟨List.mem_cons_of_mem _ hx, fun e => hy (hk ▸ e ▸ List.mem_map_of_mem hx)⟩
        · rintro ⟨hx, hne⟩
          exact (List.mem_cons.mp hx).resolve_left fun e => hne (e ▸ hk)
      · rw [List.eraseP_cons_of_neg (by simpa using hk), List.mem_cons, ih hl, List.mem_cons]
        constructor
        · rintro (rfl | ⟨hx, hne⟩)
          · exact ⟨.inl rfl, hk⟩
          · exact ⟨.inr hx, hne⟩
        · rintro ⟨rfl | hx, hne⟩
          · exact .inl rfl
          · exact .inr ⟨hx, hne⟩

end Table
