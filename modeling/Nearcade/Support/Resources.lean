import Mathlib.Data.Finset.Basic
import Mathlib.Data.Finset.Image
import Mathlib.Tactic.Common

/-!
# Support — Resources

A program acquires resources and releases them.  `replay` follows a list of such uses from the
resources held before it, and stops where one is acquired that is held already, or released that
is not held.  So a replay that goes through releases nothing twice, and nothing that is not its
own.

* `replay_append`: a replay in two parts.
* `replay_frame`, `replay_map`: a replay next to resources it does not use, and one under other
  names.
-/

namespace Resources

universe u

/-- A resource is acquired, or released. -/
inductive Use (ρ : Type u) where
  | acquire (r : ρ)
  | release (r : ρ)

section
variable {ρ : Type u} [DecidableEq ρ]

/-- What is held after a use, unless it is out of place. -/
def Use.step (held : Finset ρ) : Use ρ → Option (Finset ρ)
  | .acquire r => if r ∈ held then none else some (insert r held)
  | .release r => if r ∈ held then some (held.erase r) else none

/-- What is held after a list of uses, unless one is out of place. -/
def replay (held : Finset ρ) : List (Use ρ) → Option (Finset ρ)
  | [] => some held
  | u :: us => (u.step held).bind fun held' => replay held' us

@[simp] theorem replay_nil (held : Finset ρ) : replay held [] = some held := rfl

theorem replay_append (held : Finset ρ) (us vs : List (Use ρ)) :
    replay held (us ++ vs) = (replay held us).bind fun held' => replay held' vs := by
  induction us generalizing held with
  | nil => rfl
  | cons u us ih =>
      rw [List.cons_append, replay, replay]
      cases u.step held with
      | none => rfl
      | some held' => exact ih held'

theorem replay_trans {held held' held'' : Finset ρ} {us vs : List (Use ρ)}
    (h : replay held us = some held') (h' : replay held' vs = some held'') :
    replay held (us ++ vs) = some held'' := by
  rw [replay_append, h, Option.bind_some, h']

theorem replay_acquire {held : Finset ρ} {r : ρ} (h : r ∉ held) :
    replay held [.acquire r] = some (insert r held) := by
  simp [replay, Use.step, h]

theorem replay_release {held : Finset ρ} {r : ρ} (h : r ∈ held) :
    replay held [.release r] = some (held.erase r) := by
  simp [replay, Use.step, h]

/-- Something acquired and released at once leaves no trace. -/
theorem replay_acquire_release {held : Finset ρ} {r : ρ} (h : r ∉ held) :
    replay held [.acquire r, .release r] = some held := by
  simp [replay, Use.step, h]

/-! ### Frame and renaming -/

/-- The resource a use is about. -/
def Use.of : Use ρ → ρ
  | .acquire r | .release r => r

/-- **The frame rule.**  Resources that are not used stay as they are. -/
theorem replay_frame {F : Finset ρ} {us : List (Use ρ)} (hF : ∀ u ∈ us, u.of ∉ F)
    {held held' : Finset ρ} (h : replay held us = some held') :
    replay (F ∪ held) us = some (F ∪ held') := by
  induction us generalizing held with
  | nil => rw [Option.some.inj h]; rfl
  | cons u us ih =>
      obtain ⟨held₁, h₁, h₂⟩ := Option.bind_eq_some_iff.mp h
      have hu : u.of ∉ F := hF u (List.mem_cons_self ..)
      have hstep : u.step (F ∪ held) = some (F ∪ held₁) := by
        cases u with
        | acquire r =>
            have hu : r ∉ F := hu
            rw [Use.step] at h₁ ⊢
            split at h₁
            · cases h₁
            · rename_i hr
              rw [if_neg (fun h => (Finset.mem_union.mp h).elim hu hr), ← Option.some.inj h₁,
                Finset.union_insert]
        | release r =>
            have hu : r ∉ F := hu
            rw [Use.step] at h₁ ⊢
            split at h₁
            · rename_i hr
              rw [if_pos (Finset.mem_union_right _ hr), ← Option.some.inj h₁,
                Finset.erase_union_distrib, Finset.erase_eq_of_notMem hu]
            · cases h₁
      rw [replay, hstep]
      exact ih (fun u' hu' => hF u' (List.mem_cons_of_mem _ hu')) h₂

/-- A use under another name. -/
def Use.map {σ : Type*} (f : ρ → σ) : Use ρ → Use σ
  | .acquire r => .acquire (f r)
  | .release r => .release (f r)

/-- A replay under other names, where different resources get different ones. -/
theorem replay_map {σ : Type*} [DecidableEq σ] {f : ρ → σ} (hf : f.Injective)
    {held held' : Finset ρ} {us : List (Use ρ)} (h : replay held us = some held') :
    replay (held.image f) (us.map (Use.map f)) = some (held'.image f) := by
  induction us generalizing held with
  | nil => rw [Option.some.inj h]; rfl
  | cons u us ih =>
      obtain ⟨held₁, h₁, h₂⟩ := Option.bind_eq_some_iff.mp h
      have hmem : ∀ r, f r ∈ held.image f ↔ r ∈ held := fun r =>
        ⟨fun hr => by
          obtain ⟨r', hr', e⟩ := Finset.mem_image.mp hr
          exact hf e ▸ hr', Finset.mem_image_of_mem f⟩
      have hstep : (u.map f).step (held.image f) = some (held₁.image f) := by
        cases u with
        | acquire r =>
            rw [Use.step] at h₁
            rw [Use.map, Use.step]
            split at h₁
            · cases h₁
            · rename_i hr
              rw [if_neg (fun h => hr ((hmem r).mp h)), ← Option.some.inj h₁, Finset.image_insert]
        | release r =>
            rw [Use.step] at h₁
            rw [Use.map, Use.step]
            split at h₁
            · rename_i hr
              rw [if_pos ((hmem r).mpr hr), ← Option.some.inj h₁, Finset.image_erase hf]
            · cases h₁
      rw [List.map_cons, replay, hstep]
      exact ih h₂

end

end Resources
