import Nearcade.Support.Runs
import Nearcade.Support.Table
import Mathlib.Data.Fin.Tuple.Basic

/-!
# Support — Allocation

An allocator hands out the keys of a table, the least free one first, and takes them back.  A
request may name no owner or no key; such a request changes nothing.

* `request_cases`: what a request can do.
* `tallied_run`: a key has an owner just when it was handed out and not freed since; a key handed
  out twice was freed in between; as many keys are held as were handed out and not freed.
-/

namespace Allocation
open Runs

universe u
variable {n : Nat} {α : Type u}

/-- What is asked: a key for an owner, or a key back. -/
inductive Request (n : Nat) (α : Type u) where
  | claim (owner : Option α)
  | release (key : Option (Fin n))

/-- What comes of it. -/
inductive Outcome (n : Nat) where
  | handed (k : Fin n)
  | refused
  | freed (k : Fin n)
  | kept
  deriving DecidableEq

/-- The least free key. -/
def least (t : Fin n → Option α) : Option (Fin n) := Fin.find? fun i => (t i).isNone

theorem least_eq_some_iff {t : Fin n → Option α} {k : Fin n} :
    least t = some k ↔ t k = none ∧ ∀ j < k, t j ≠ none := by
  simp [least, Option.isSome_iff_ne_none]

theorem least_eq_none_iff {t : Fin n → Option α} : least t = none ↔ ∀ k, t k ≠ none := by
  simp [least, Option.isSome_iff_ne_none]

/-- What a request comes to. -/
def outcome (t : Fin n → Option α) : Request n α → Outcome n
  | .claim (some _) =>
      match least t with
      | some k => .handed k
      | none => .refused
  | .claim none => .refused
  | .release (some k) => if (t k).isSome then .freed k else .kept
  | .release none => .kept

/-- The table after a request. -/
def answer (t : Fin n → Option α) : Request n α → Fin n → Option α
  | .claim (some a) =>
      match least t with
      | some k => Function.update t k (some a)
      | none => t
  | .claim none => t
  | .release (some k) => Function.update t k none
  | .release none => t

/-- **The allocator.** -/
def allocator (n : Nat) (α : Type u) : Machine (Fin n → Option α) (Request n α) (Outcome n) where
  enabled _ _ := True
  next := answer
  out t r := [outcome t r]

/-- Nothing is held. -/
def nothing : Fin n → Option α := fun _ => none

/-- **What a request can do**: hand out the least free key, take back a key, or nothing. -/
theorem request_cases (t : Fin n → Option α) (r : Request n α) :
    (∃ a k, t k = none ∧ (∀ j < k, t j ≠ none) ∧ outcome t r = .handed k ∧
      answer t r = Function.update t k (some a)) ∨
    (∃ k a, t k = some a ∧ outcome t r = .freed k ∧ answer t r = Function.update t k none) ∨
    ((∀ k, outcome t r ≠ .handed k ∧ outcome t r ≠ .freed k) ∧ answer t r = t) := by
  match r with
  | .claim none => exact .inr (.inr ⟨fun k => by simp [outcome], rfl⟩)
  | .release none => exact .inr (.inr ⟨fun k => by simp [outcome], rfl⟩)
  | .claim (some a) =>
      cases hl : least t with
      | some k =>
          obtain ⟨hk, hlt⟩ := least_eq_some_iff.mp hl
          exact .inl ⟨a, k, hk, hlt, by simp [outcome, hl], by simp [answer, hl]⟩
      | none => exact .inr (.inr ⟨fun k => by simp [outcome, hl], by simp [answer, hl]⟩)
  | .release (some k) =>
      cases hk : t k with
      | some a => exact .inr (.inl ⟨k, a, hk, by simp [outcome, hk], rfl⟩)
      | none =>
          refine .inr (.inr ⟨fun j => by simp [outcome, hk], ?_⟩)
          rw [answer, ← hk, Function.update_eq_self]

/-! ### What came of it -/

/-- A key was handed out, and not freed since. -/
def Holds (os : List (Outcome n)) (k : Fin n) : Prop :=
  ∃ pre mid, os = pre ++ .handed k :: mid ∧ .freed k ∉ mid

/-- Between any two hand-outs of a key it was freed. -/
def FreedBetween (os : List (Outcome n)) : Prop :=
  ∀ k pre mid post, os = pre ++ .handed k :: mid ++ .handed k :: post → .freed k ∈ mid

/-- How many keys were handed out. -/
def handedCount (os : List (Outcome n)) : Nat :=
  os.countP fun | .handed _ => true | _ => false

/-- How many keys were freed. -/
def freedCount (os : List (Outcome n)) : Nat :=
  os.countP fun | .freed _ => true | _ => false

theorem handedCount_append (os os' : List (Outcome n)) :
    handedCount (os ++ os') = handedCount os + handedCount os' :=
  List.countP_append

theorem freedCount_append (os os' : List (Outcome n)) :
    freedCount (os ++ os') = freedCount os + freedCount os' :=
  List.countP_append

theorem not_holds_nil (k : Fin n) : ¬ Holds [] k := by
  rintro ⟨pre, mid, h, -⟩
  simp at h

theorem holds_concat {os : List (Outcome n)} {x : Outcome n} {k : Fin n} :
    Holds (os ++ [x]) k ↔ x = .handed k ∨ Holds os k ∧ x ≠ .freed k := by
  constructor
  · rintro ⟨pre, mid, h, hf⟩
    rcases List.eq_nil_or_concat mid with rfl | ⟨mid, y, rfl⟩
    · -- the hand-out is the last outcome
      obtain ⟨-, hx⟩ := List.append_inj' h rfl
      exact .inl (List.singleton_inj.mp hx)
    · rw [List.concat_eq_append, ← List.cons_append, ← List.append_assoc] at h
      obtain ⟨hacts, hx⟩ := List.append_inj' h rfl
      obtain rfl := List.singleton_inj.mp hx
      simp only [List.concat_eq_append, List.mem_append, List.mem_singleton, not_or] at hf
      exact .inr ⟨⟨pre, mid, hacts, hf.1⟩, fun e => hf.2 e.symm⟩
  · rintro (rfl | ⟨⟨pre, mid, rfl, hf⟩, hx⟩)
    · exact ⟨os, [], rfl, List.not_mem_nil⟩
    · refine ⟨pre, mid ++ [x], by simp, ?_⟩
      simp only [List.mem_append, List.mem_singleton, not_or]
      exact ⟨hf, fun e => hx e.symm⟩

theorem freedBetween_nil : FreedBetween ([] : List (Outcome n)) := by
  intro k pre mid post h
  simp at h

/-- Handing out a key that is not held keeps the alternation. -/
theorem FreedBetween.concat {os : List (Outcome n)} (h : FreedBetween os) {x : Outcome n}
    (hx : ∀ k, x = .handed k → ¬ Holds os k) : FreedBetween (os ++ [x]) := by
  intro k pre mid post he
  rcases List.eq_nil_or_concat post with rfl | ⟨post, y, rfl⟩
  · obtain ⟨he, hk⟩ := List.append_inj' he rfl
    by_contra hf
    exact hx k (List.singleton_inj.mp hk) ⟨pre, mid, he, hf⟩
  · rw [List.concat_eq_append, ← List.cons_append, ← List.append_assoc] at he
    obtain ⟨he, -⟩ := List.append_inj' he rfl
    exact h k pre mid post he

/-! ### Runs -/

/-- What the outcomes so far say of the table. -/
structure Tallied (os : List (Outcome n)) (t : Fin n → Option α) : Prop where
  holds : ∀ k, Holds os k ↔ t k ≠ none
  freedBetween : FreedBetween os
  count : (Table.used t).card + freedCount os = handedCount os

theorem tallied_nothing : Tallied [] (nothing : Fin n → Option α) where
  holds k := iff_of_false (not_holds_nil k) (not_not.mpr rfl)
  freedBetween := freedBetween_nil
  count := Table.card_used_empty

theorem Tallied.step {os : List (Outcome n)} {t : Fin n → Option α} (h : Tallied os t)
    (r : Request n α) : Tallied (os ++ [outcome t r]) (answer t r) := by
  have hcount := h.count
  rcases request_cases t r with ⟨a, k, hk, -, ha, e⟩ | ⟨k, a, hk, ha, e⟩ | ⟨hne, e⟩ <;> rw [e]
  · rw [ha]
    refine ⟨fun j => ?_, h.freedBetween.concat fun j hj => ?_, ?_⟩
    · rw [holds_concat, h.holds]
      by_cases hjk : j = k
      · simp [hjk]
      · simp [Function.update_of_ne hjk, Ne.symm hjk]
    · obtain rfl := Outcome.handed.inj hj
      rw [h.holds, hk]
      exact not_not.mpr rfl
    · rw [Table.card_used_store hk, handedCount_append, freedCount_append,
        show handedCount [.handed k] = 1 from rfl, show freedCount [.handed k] = 0 from rfl]
      omega
  · rw [ha]
    refine ⟨fun j => ?_, h.freedBetween.concat fun j hj => ?_, ?_⟩
    · rw [holds_concat, h.holds]
      by_cases hjk : j = k
      · simp [hjk]
      · simp [Function.update_of_ne hjk, Ne.symm hjk]
    · cases hj
    · have hclear := Table.card_used_clear hk
      rw [handedCount_append, freedCount_append, show handedCount [.freed k] = 0 from rfl,
        show freedCount [.freed k] = 1 from rfl]
      omega
  · refine ⟨fun j => ?_, h.freedBetween.concat fun j hj => absurd hj (hne j).1, ?_⟩
    · rw [holds_concat, h.holds]
      simp [(hne j).1, (hne j).2]
    · have hx : freedCount [outcome t r] = 0 ∧ handedCount [outcome t r] = 0 := by
        cases hc : outcome t r with
        | handed k => exact absurd hc (hne k).1
        | freed k => exact absurd hc (hne k).2
        | refused => exact ⟨rfl, rfl⟩
        | kept => exact ⟨rfl, rfl⟩
      rw [handedCount_append, freedCount_append, hx.1, hx.2]
      exact hcount

/-- **The account of a run.** -/
theorem tallied_run (rs : List (Request n α)) :
    Tallied (outputs ((allocator n α).trace nothing rs)) ((allocator n α).final nothing rs) := by
  induction rs using List.reverseRecOn with
  | nil => exact tallied_nothing
  | append_singleton rs r ih =>
      rw [Machine.trace_append, Machine.final_append, outputs, List.flatMap_append]
      exact ih.step r

end Allocation
