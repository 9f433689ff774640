import Mathlib.Data.List.Induction
import Mathlib.Tactic.Common

/-!
# Support — Runs

A machine reads one input at a time.  What the environment decides (which message arrives,
whether a system call succeeds) is part of the input, so the next state and the outputs are
functions of the state and the input; `enabled` says which inputs a state can meet.

A run is a list of inputs, each enabled where it is taken (`Valid`).  Its `trace` records every
step with the state it was taken in, so a property of the history of a run is a property of its
trace.

* `run_induction`: a property of trace and state that holds of the empty run, and that one step
  preserves, holds of every run.
* `before_step`: such a property holds of what comes before each step.
* `invariant`, `invariant_trace`: the same for a property of the state alone, at the end of the
  run and before each of its steps.
* `invariant_of`, `always_iff`: the same for the runs whose steps all meet a condition, and when the
  condition is exact.
* `simulate`, `simulate_map`: if every step of one machine is a run of another from related states,
  or a step of it, with the same outputs, then so is every run.
* `final_erase`, `valid_erase`: what no step reads can be erased.
* `run_relate`: where a step of two machines on related inputs keeps their states related, a run
  does.
* `Lockstep`: two runs of one machine that take related inputs.  Where related inputs lead to the
  same state, an observation of the steps that tells none of their inputs apart tells none of the
  runs apart (`Lockstep.observe`).
-/

namespace Runs

universe u v w u' v'

/-- A machine over states `σ`, inputs `ι` and outputs `ο`. -/
structure Machine (σ : Type u) (ι : Type v) (ο : Type w) where
  enabled : σ → ι → Prop
  next : σ → ι → σ
  out : σ → ι → List ο

/-- One step of a run: the state it was taken in, its input and its outputs. -/
structure Entry (σ : Type u) (ι : Type v) (ο : Type w) where
  pre : σ
  input : ι
  out : List ο

namespace Machine
variable {σ : Type u} {ι : Type v} {ο : Type w} (M : Machine σ ι ο)

/-- Every input of the list is enabled where it is taken. -/
def Valid : σ → List ι → Prop
  | _, [] => True
  | s, i :: is => M.enabled s i ∧ Valid (M.next s i) is

/-- The state a list of inputs ends in. -/
def final : σ → List ι → σ
  | s, [] => s
  | s, i :: is => final (M.next s i) is

/-- The steps of a list of inputs. -/
def trace : σ → List ι → List (Entry σ ι ο)
  | _, [] => []
  | s, i :: is => ⟨s, i, M.out s i⟩ :: trace (M.next s i) is

/-- `s` is the end of a run from `s₀`. -/
def Reachable (s₀ s : σ) : Prop := ∃ is, M.Valid s₀ is ∧ M.final s₀ is = s

variable {M}

instance decidableValid [∀ s i, Decidable (M.enabled s i)] : ∀ s is, Decidable (M.Valid s is)
  | _, [] => isTrue trivial
  | s, i :: is =>
      have := decidableValid (M.next s i) is
      inferInstanceAs (Decidable (M.enabled s i ∧ M.Valid (M.next s i) is))

theorem valid_append {s : σ} {is js : List ι} :
    M.Valid s (is ++ js) ↔ M.Valid s is ∧ M.Valid (M.final s is) js := by
  induction is generalizing s with
  | nil => simp [Valid, final]
  | cons i is ih => simp only [List.cons_append, Valid, final, ih, and_assoc]

theorem final_append (s : σ) (is js : List ι) :
    M.final s (is ++ js) = M.final (M.final s is) js := by
  induction is generalizing s with
  | nil => rfl
  | cons i is ih => simp only [List.cons_append, final, ih]

theorem trace_append (s : σ) (is js : List ι) :
    M.trace s (is ++ js) = M.trace s is ++ M.trace (M.final s is) js := by
  induction is generalizing s with
  | nil => rfl
  | cons i is ih => simp only [List.cons_append, trace, final, ih]

theorem map_input_trace (s : σ) (is : List ι) : (M.trace s is).map Entry.input = is := by
  induction is generalizing s with
  | nil => rfl
  | cons i is ih => rw [trace, List.map_cons, ih]

/-- A step of a run puts out what its input makes of the state. -/
theorem out_of_mem_trace {s : σ} {is : List ι} {e : Entry σ ι ο} (h : e ∈ M.trace s is) :
    e.out = M.out e.pre e.input := by
  induction is generalizing s with
  | nil => exact absurd h List.not_mem_nil
  | cons i is ih =>
      rcases List.mem_cons.mp h with rfl | h
      · rfl
      · exact ih h

/-- **Induction on a run**, by its last step. -/
theorem run_induction {s₀ : σ} {P : List (Entry σ ι ο) → σ → Prop} (h₀ : P [] s₀)
    (hs : ∀ t s i, P t s → M.enabled s i → P (t ++ [⟨s, i, M.out s i⟩]) (M.next s i))
    {is : List ι} (hv : M.Valid s₀ is) : P (M.trace s₀ is) (M.final s₀ is) := by
  induction is using List.reverseRecOn with
  | nil => exact h₀
  | append_singleton is i ih =>
      -- the last step is taken where the rest of the run ends
      obtain ⟨hv₁, hi, -⟩ := valid_append.mp hv
      rw [trace_append, final_append]
      exact hs _ _ _ (ih hv₁) hi

/-- A property one step preserves holds at the end of every run. -/
theorem invariant {s₀ : σ} {I : σ → Prop} (h₀ : I s₀)
    (hs : ∀ s i, I s → M.enabled s i → I (M.next s i)) {is : List ι} (hv : M.Valid s₀ is) :
    I (M.final s₀ is) :=
  run_induction (P := fun _ s => I s) h₀ (fun _ s i h he => hs s i h he) hv

/-- A property one step preserves holds before every step of a run. -/
theorem invariant_trace {s₀ : σ} {I : σ → Prop} (h₀ : I s₀)
    (hs : ∀ s i, I s → M.enabled s i → I (M.next s i)) {is : List ι} (hv : M.Valid s₀ is)
    {e : Entry σ ι ο} (he : e ∈ M.trace s₀ is) :
    I e.pre ∧ M.enabled e.pre e.input ∧ e.out = M.out e.pre e.input := by
  refine (run_induction (M := M) (P := fun t s => I s ∧ ∀ e ∈ t,
    I e.pre ∧ M.enabled e.pre e.input ∧ e.out = M.out e.pre e.input) ⟨h₀, by simp⟩ ?_ hv).2 e he
  rintro t s i ⟨h, ht⟩ hi
  refine ⟨hs s i h hi, fun e he => ?_⟩
  rcases List.mem_append.mp he with he | he
  · exact ht e he
  · obtain rfl := List.mem_singleton.mp he
    exact ⟨h, hi, rfl⟩

/-- A property of trace and state that one step preserves holds of what comes before every step of
a run. -/
theorem before_step {s₀ : σ} {P : List (Entry σ ι ο) → σ → Prop} (h₀ : P [] s₀)
    (hs : ∀ t s i, P t s → M.enabled s i → P (t ++ [⟨s, i, M.out s i⟩]) (M.next s i))
    {is : List ι} (hv : M.Valid s₀ is) {t : List (Entry σ ι ο)} {e : Entry σ ι ο}
    (hp : t ++ [e] <+: M.trace s₀ is) :
    P t e.pre ∧ M.enabled e.pre e.input ∧ e.out = M.out e.pre e.input := by
  refine (run_induction (M := M) (P := fun tr s => P tr s ∧ ∀ t e, t ++ [e] <+: tr →
    P t e.pre ∧ M.enabled e.pre e.input ∧ e.out = M.out e.pre e.input) ⟨h₀, ?_⟩ ?_ hv).2 t e hp
  · intro t e hp
    exact absurd (List.prefix_nil.mp hp) (by simp)
  · rintro tr s i ⟨h, ht⟩ hi
    refine ⟨hs tr s i h hi, fun t e hp => ?_⟩
    -- the step is the last one, or one of the run before it
    rcases List.prefix_concat_iff.mp hp with heq | hp
    · obtain ⟨rfl, he⟩ := List.append_inj' heq rfl
      obtain rfl := List.singleton_inj.mp he
      exact ⟨h, hi, rfl⟩
    · exact ht t e hp

/-- What comes before a step of a run, and the step. -/
theorem prefix_trace (M : Machine σ ι ο) (s : σ) (is : List ι) (i : ι) (js : List ι) :
    M.trace s is ++ [⟨M.final s is, i, M.out (M.final s is) i⟩] <+: M.trace s (is ++ i :: js) := by
  rw [trace_append]
  exact (List.prefix_append_right_inj _).mpr (List.prefix_append [_] _)

/-! ### Steps under a condition -/

section
variable {C : σ → ι → Prop}

/-- A property that the steps under a condition preserve holds at the end of every run of them. -/
theorem invariant_of {s₀ : σ} {I : σ → Prop} (h₀ : I s₀)
    (hs : ∀ s i, I s → M.enabled s i → C s i → I (M.next s i)) {is : List ι}
    (hv : M.Valid s₀ is) (hc : ∀ e ∈ M.trace s₀ is, C e.pre e.input) : I (M.final s₀ is) := by
  induction is generalizing s₀ with
  | nil => exact h₀
  | cons i is ih =>
      have hi : C s₀ i := hc _ (List.mem_cons_self ..)
      exact ih (hs s₀ i h₀ hv.1 hi) hv.2 fun e he => hc e (List.mem_cons_of_mem _ he)

/-- A property that follows from the invariant holds all the way. -/
theorem always_of {s₀ : σ} {I P : σ → Prop} (h₀ : I s₀) (hP : ∀ s, I s → P s)
    (hs : ∀ s i, I s → M.enabled s i → C s i → I (M.next s i)) {is : List ι}
    (hv : M.Valid s₀ is) (hc : ∀ e ∈ M.trace s₀ is, C e.pre e.input) :
    ∀ js, js <+: is → P (M.final s₀ js) := by
  rintro js ⟨ks, rfl⟩
  rw [trace_append] at hc
  refine hP _ (invariant_of h₀ hs (valid_append.mp hv).1 fun e he => ?_)
  exact hc e (List.mem_append_left _ he)

/-- **The exact condition of a property.**  If the steps under the condition preserve an invariant
that gives the property, and any other step breaks the property, then the property holds all the
way just when every step meets the condition. -/
theorem always_iff {s₀ : σ} {I P : σ → Prop} (h₀ : I s₀) (hP : ∀ s, I s → P s)
    (hs : ∀ s i, I s → M.enabled s i → C s i → I (M.next s i))
    (hb : ∀ s i, I s → M.enabled s i → ¬ C s i → ¬ P (M.next s i)) {is : List ι}
    (hv : M.Valid s₀ is) :
    (∀ js, js <+: is → P (M.final s₀ js)) ↔ ∀ e ∈ M.trace s₀ is, C e.pre e.input := by
  induction is generalizing s₀ with
  | nil =>
      refine iff_of_true (fun js hjs => ?_) fun _ he => absurd he List.not_mem_nil
      rw [List.prefix_nil.mp hjs]
      exact hP s₀ h₀
  | cons i is ih =>
      by_cases hc : C s₀ i
      · have ih := ih (hs s₀ i h₀ hv.1 hc) hv.2
        constructor
        · intro h e he
          rcases List.mem_cons.mp he with rfl | he
          · exact hc
          · exact ih.mp (fun js hjs => h (i :: js) (List.prefix_cons_inj i |>.mpr hjs)) e he
        · intro h js hjs
          cases js with
          | nil => exact hP s₀ h₀
          | cons j js =>
              obtain ⟨hij, hjs'⟩ := List.cons_prefix_cons.mp hjs
              subst hij
              exact ih.mpr (fun e he => h e (List.mem_cons_of_mem _ he)) js hjs'
      · -- the first step is the one that breaks the property
        refine iff_of_false (fun h => ?_) fun h => hc (h _ (List.mem_cons_self ..))
        exact hb s₀ i h₀ hv.1 hc (h [i] (List.prefix_cons_inj i |>.mpr (List.nil_prefix)))

end

theorem Reachable.refl (s : σ) : M.Reachable s s := ⟨[], trivial, rfl⟩

theorem Reachable.step {s₀ s : σ} {i : ι} (h : M.Reachable s₀ s) (hi : M.enabled s i) :
    M.Reachable s₀ (M.next s i) := by
  obtain ⟨is, hv, rfl⟩ := h
  exact ⟨is ++ [i], valid_append.mpr ⟨hv, hi, trivial⟩, final_append _ _ _⟩

theorem Reachable.trans {s₀ s s' : σ} (h : M.Reachable s₀ s) (h' : M.Reachable s s') :
    M.Reachable s₀ s' := by
  obtain ⟨is, hv, rfl⟩ := h
  obtain ⟨js, hv', rfl⟩ := h'
  exact ⟨is ++ js, valid_append.mpr ⟨hv, hv'⟩, final_append _ _ _⟩

theorem Reachable.of_invariant {s₀ s : σ} {I : σ → Prop} (h : M.Reachable s₀ s) (h₀ : I s₀)
    (hs : ∀ s i, I s → M.enabled s i → I (M.next s i)) : I s := by
  obtain ⟨is, hv, rfl⟩ := h
  exact invariant h₀ hs hv

end Machine

/-- What a trace puts out, in order. -/
def outputs {σ : Type u} {ι : Type v} {ο : Type w} (t : List (Entry σ ι ο)) : List ο :=
  t.flatMap Entry.out

theorem outputs_append {σ : Type u} {ι : Type v} {ο : Type w} (t t' : List (Entry σ ι ο)) :
    outputs (t ++ t') = outputs t ++ outputs t' :=
  List.flatMap_append

namespace Machine
variable {σ : Type u} {ι : Type v} {ο : Type w}

/-- A run leads from `s` to `s'` and puts out `os`. -/
def Takes (M : Machine σ ι ο) (s s' : σ) (os : List ο) : Prop :=
  ∃ is, M.Valid s is ∧ M.final s is = s' ∧ outputs (M.trace s is) = os

variable {M : Machine σ ι ο}

theorem outputs_cons (M : Machine σ ι ο) (s : σ) (i : ι) (is : List ι) :
    outputs (M.trace s (i :: is)) = M.out s i ++ outputs (M.trace (M.next s i) is) :=
  List.flatMap_cons

theorem Takes.refl (s : σ) : M.Takes s s [] := ⟨[], trivial, rfl, rfl⟩

theorem Takes.step {s : σ} {i : ι} (hi : M.enabled s i) : M.Takes s (M.next s i) (M.out s i) :=
  ⟨[i], ⟨hi, trivial⟩, rfl, by simp [outputs, trace]⟩

theorem Takes.trans {s s' s'' : σ} {os os' : List ο} (h : M.Takes s s' os)
    (h' : M.Takes s' s'' os') : M.Takes s s'' (os ++ os') := by
  obtain ⟨is, hv, rfl, rfl⟩ := h
  obtain ⟨js, hv', rfl, rfl⟩ := h'
  refine ⟨is ++ js, valid_append.mpr ⟨hv, hv'⟩, final_append _ _ _, ?_⟩
  rw [trace_append, outputs, List.flatMap_append]
  rfl

/-- What one step preserves, a run preserves. -/
theorem Takes.invariant {s s' : σ} {os : List ο} {I : σ → Prop} (h : M.Takes s s' os) (h₀ : I s)
    (hs : ∀ s i, I s → M.enabled s i → I (M.next s i)) : I s' := by
  obtain ⟨is, hv, rfl, -⟩ := h
  exact Machine.invariant h₀ hs hv

/-- **Simulation.**  If each step of `N` from a state related to `t` is matched by a run of `M`
from `t` with the same outputs, then every run of `N` is. -/
theorem simulate {τ : Type u'} {κ : Type v'} {N : Machine τ κ ο} {R : τ → σ → Prop}
    (hs : ∀ t s i, R t s → N.enabled t i → ∃ s', M.Takes s s' (N.out t i) ∧ R (N.next t i) s')
    {t : τ} {s : σ} (hR : R t s) {is : List κ} (hv : N.Valid t is) :
    ∃ s', M.Takes s s' (outputs (N.trace t is)) ∧ R (N.final t is) s' := by
  induction is generalizing s t with
  | nil => exact ⟨s, .refl s, hR⟩
  | cons i is ih =>
      obtain ⟨s₁, h₁, hR₁⟩ := hs t s i hR hv.1
      obtain ⟨s₂, h₂, hR₂⟩ := ih hR₁ hv.2
      exact ⟨s₂, h₁.trans h₂, hR₂⟩

/-- **Simulation in lockstep.**  If each step of `N` is one of `M` from the related state, on the
input `f` makes of it and with the same outputs, then a run of `N` is the run of `M` on those
inputs. -/
theorem simulate_map {τ : Type u'} {κ : Type v'} {N : Machine τ κ ο} {R : τ → σ → Prop} {f : κ → ι}
    (hs : ∀ t s k, R t s → N.enabled t k →
      M.enabled s (f k) ∧ N.out t k = M.out s (f k) ∧ R (N.next t k) (M.next s (f k)))
    {t : τ} {s : σ} (hR : R t s) {ks : List κ} (hv : N.Valid t ks) :
    M.Valid s (ks.map f) ∧ outputs (N.trace t ks) = outputs (M.trace s (ks.map f)) ∧
      R (N.final t ks) (M.final s (ks.map f)) := by
  induction ks generalizing s t with
  | nil => exact ⟨trivial, rfl, hR⟩
  | cons k ks ih =>
      obtain ⟨he, ho, hR₁⟩ := hs t s k hR hv.1
      obtain ⟨hv₁, ho₁, hR₂⟩ := ih hR₁ hv.2
      refine ⟨⟨he, hv₁⟩, ?_, hR₂⟩
      simp only [List.map_cons, trace, outputs, List.flatMap_cons] at ho₁ ⊢
      rw [ho, ho₁]

/-! ### Erasure -/

section
variable {e : σ → σ}

/-- **Erasure.**  Where a step does the same to what `e` leaves, so does a run. -/
theorem final_erase (hn : ∀ s i, e (M.next (e s) i) = e (M.next s i)) {s s' : σ} (h : e s = e s')
    (is : List ι) : e (M.final s is) = e (M.final s' is) := by
  induction is generalizing s s' with
  | nil => exact h
  | cons i is ih =>
      have hi : e (M.next s i) = e (M.next s' i) := by rw [← hn s, h, hn s']
      exact ih hi

theorem valid_erase (hn : ∀ s i, e (M.next (e s) i) = e (M.next s i))
    (hen : ∀ s i, M.enabled (e s) i ↔ M.enabled s i) {s s' : σ} (h : e s = e s') {is : List ι}
    (hv : M.Valid s is) : M.Valid s' is := by
  induction is generalizing s s' with
  | nil => trivial
  | cons i is ih =>
      have hi : e (M.next s i) = e (M.next s' i) := by rw [← hn s, h, hn s']
      exact ⟨(hen s' i).mp (h ▸ (hen s i).mpr hv.1), ih hi hv.2⟩

end

/-! ### Two runs -/

/-- **Two runs side by side.**  Where one step of each machine on related inputs keeps the states
related, and what the one puts out follows by `F` from what the other does, so does a run. -/
theorem run_relate {τ : Type u'} {κ : Type v'} {ο' : Type*} {N : Machine τ κ ο'}
    {R : σ → τ → Prop} {S : ι → κ → Prop} {F : List ο → List ο'}
    (hF : ∀ os os', F (os ++ os') = F os ++ F os')
    (hs : ∀ s t i k, R s t → S i k →
      R (M.next s i) (N.next t k) ∧ N.out t k = F (M.out s i))
    {is : List ι} {ks : List κ} (hi : List.Forall₂ S is ks) {s : σ} {t : τ} (h : R s t) :
    R (M.final s is) (N.final t ks) ∧
      outputs (N.trace t ks) = F (outputs (M.trace s is)) := by
  induction hi generalizing s t with
  | nil =>
      have hnil : F [] = [] := List.self_eq_append_right.mp (hF [] [])
      exact ⟨h, hnil.symm⟩
  | cons hi _ ih =>
      obtain ⟨hR, ho⟩ := hs _ _ _ _ h hi
      obtain ⟨hR', ho'⟩ := ih hR
      refine ⟨hR', ?_⟩
      rw [outputs_cons, outputs_cons, ho, ho', hF]

/-- Two runs from one state whose inputs are related, each where it is taken. -/
def Lockstep (M : Machine σ ι ο) (R : σ → ι → ι → Prop) : σ → List ι → List ι → Prop
  | s, i :: is, j :: js => R s i j ∧ Lockstep M R (M.next s i) is js
  | _, [], [] => True
  | _, _, _ => False

section
variable {R : σ → ι → ι → Prop}

theorem Lockstep.refl (h : ∀ s i, R s i i) (s : σ) (is : List ι) : M.Lockstep R s is is := by
  induction is generalizing s with
  | nil => trivial
  | cons i is ih => exact ⟨h s i, ih _⟩

/-- One input may be replaced by a related one that leads to the same state. -/
theorem Lockstep.replace (h : ∀ s i, R s i i) {i j : ι} {js : List ι} {s : σ} :
    ∀ {is : List ι}, R (M.final s is) i j → M.Lockstep R s (is ++ i :: js) (is ++ j :: js)
  | [], hR => ⟨hR, .refl h _ js⟩
  | i' :: _, hR => ⟨h s i', replace h hR⟩

/-- **Observations of runs in lockstep.**  Where related inputs lead to the same state, it is enough
to compare the observations step by step. -/
theorem Lockstep.observe {α : Type*} {f : Entry σ ι ο → List α}
    (hn : ∀ s i j, R s i j → M.next s i = M.next s j) {s : σ} {is js : List ι}
    (h : M.Lockstep R s is js)
    (hf : ∀ s' i j, R s' i j → ⟨s', i, M.out s' i⟩ ∈ M.trace s is →
      ⟨s', j, M.out s' j⟩ ∈ M.trace s js → f ⟨s', i, M.out s' i⟩ = f ⟨s', j, M.out s' j⟩) :
    (M.trace s is).flatMap f = (M.trace s js).flatMap f := by
  induction is generalizing s js with
  | nil =>
      cases js with
      | nil => rfl
      | cons j js => exact h.elim
  | cons i is ih =>
      cases js with
      | nil => exact h.elim
      | cons j js =>
          obtain ⟨hR, hl⟩ := h
          -- both runs go on from the same state
          have hnext := hn s i j hR
          rw [trace, trace, List.flatMap_cons, List.flatMap_cons,
            hf s i j hR (List.mem_cons_self ..) (List.mem_cons_self ..), ← hnext]
          refine congrArg _ (ih hl fun s' i' j' hR' hi hj => ?_)
          exact hf s' i' j' hR' (List.mem_cons_of_mem _ hi) (List.mem_cons_of_mem _ (hnext ▸ hj))

/-- Where a step stands in its run. -/
theorem split_of_mem_trace {s : σ} {is : List ι} {e : Entry σ ι ο} (h : e ∈ M.trace s is) :
    ∃ is₁ is₂, is = is₁ ++ e.input :: is₂ ∧ e.pre = M.final s is₁ := by
  induction is generalizing s with
  | nil => exact absurd h List.not_mem_nil
  | cons i is ih =>
      rcases List.mem_cons.mp h with rfl | h
      · exact ⟨[], is, rfl, rfl⟩
      · obtain ⟨is₁, is₂, rfl, hp⟩ := ih h
        exact ⟨i :: is₁, is₂, rfl, hp⟩

end

end Machine

end Runs
