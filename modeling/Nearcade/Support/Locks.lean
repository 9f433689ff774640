import Nearcade.Support.Runs
import Mathlib.Algebra.BigOperators.Group.Finset.Piecewise
import Mathlib.Data.Fintype.Basic

/-!
# Support — Locks

Threads that share locks which are not recursive.  What a thread does is a path: the locks it takes
and gives back, and the points between.  At some points code outside runs on the thread and may
start other paths; the locks that may be held there are lent.

A discipline ranks the locks and says which locks a point needs; a path keeps it when it takes
locks in the order of their ranks, holds what its points need, and only lent locks where code
outside runs.  `threads` interleaves any number of threads whose paths all keep a discipline; which
paths may be started on a thread depends on the locks it holds.

* `safe_of_reachable`: in every run each thread keeps the discipline and no lock is held twice.
* `Safe.exists_run`: while any thread has something to do, some thread can go on.
* `Safe.excludes`: two threads are never at points that need the same lock.
* `drains`: every way for the paths in progress to go on comes to an end, and at its end they all
  have; and there is one (`exists_drain`).
* `within_of_reachable`: a thread does and holds only what is on some path.
-/

namespace Locks
open Runs

universe u v w

/-- One action of a thread. -/
inductive Act (L : Type u) (P : Type v) where
  | acquire (l : L)
  | release (l : L)
  | point (p : P)
  deriving DecidableEq

section
variable {L : Type u} {P : Type v}

/-- A critical section. -/
def critical (l : L) (body : List (Act L P)) : List (Act L P) :=
  .acquire l :: (body ++ [.release l])

/-- Every action of a path has a property. -/
def Over (Q : Act L P → Prop) (path : List (Act L P)) : Prop := ∀ a ∈ path, Q a

variable {Q : Act L P → Prop}

theorem over_nil : Over Q ([] : List (Act L P)) := List.forall_mem_nil _

theorem Over.append {as bs : List (Act L P)} (h : Over Q as) (h' : Over Q bs) : Over Q (as ++ bs) :=
  List.forall_mem_append.mpr ⟨h, h'⟩

theorem over_singleton {a : Act L P} (h : Q a) : Over Q [a] := List.forall_mem_singleton.mpr h

theorem Over.flatMap {α : Type*} {path : α → List (Act L P)} (h : ∀ a, Over Q (path a))
    (xs : List α) : Over Q (xs.flatMap path) := fun b hb => by
  obtain ⟨a, -, hb⟩ := List.mem_flatMap.mp hb
  exact h a b hb

theorem Over.critical {l : L} {body : List (Act L P)} (ha : Q (.acquire l)) (hr : Q (.release l))
    (hb : Over Q body) : Over Q (critical l body) :=
  List.forall_mem_cons.mpr ⟨ha, hb.append (over_singleton hr)⟩

theorem over_ite {p : Prop} [Decidable p] {as bs : List (Act L P)} (h : Over Q as)
    (h' : Over Q bs) : Over Q (if p then as else bs) := by
  split
  · exact h
  · exact h'

end

/-- The order of the locks, the locks a point needs, the points where code outside runs, and the
locks that may be held there. -/
structure Discipline (L : Type u) (P : Type v) where
  rank : L → Nat
  guards : P → List L
  Opens : P → Prop
  Lent : L → Prop

section
variable {L : Type u} {P : Type v} [DecidableEq L] (D : Discipline L P)

/-- A path that starts with some locks held keeps the discipline and ends with others held. -/
def Discipline.Keeps : List L → List (Act L P) → List L → Prop
  | held, [], held' => held = held'
  | held, .acquire l :: as, held' =>
      (∀ h ∈ held, D.rank h < D.rank l) ∧ Discipline.Keeps (l :: held) as held'
  | held, .release l :: as, held' => l ∈ held ∧ Discipline.Keeps (held.erase l) as held'
  | held, .point p :: as, held' =>
      (∀ l ∈ D.guards p, l ∈ held) ∧ (D.Opens p → ∀ l ∈ held, D.Lent l) ∧
        Discipline.Keeps held as held'

/-- The paths keep the discipline, whichever lent locks are held when they are started. -/
def Discipline.KeptBy (paths : List L → List (Act L P) → Prop) : Prop :=
  ∀ held path, (∀ l ∈ held, D.Lent l) → paths held path → D.Keeps held path held

variable {D}

theorem Discipline.Keeps.append {held held' held'' : List L} {as bs : List (Act L P)}
    (h : D.Keeps held as held') (h' : D.Keeps held' bs held'') :
    D.Keeps held (as ++ bs) held'' := by
  induction as generalizing held with
  | nil =>
      obtain rfl : held = held' := h
      exact h'
  | cons a as ih =>
      cases a with
      | acquire l => exact ⟨h.1, ih h.2⟩
      | release l => exact ⟨h.1, ih h.2⟩
      | point p => exact ⟨h.1, h.2.1, ih h.2.2⟩

theorem Discipline.Keeps.ite {held : List L} {p : Prop} [Decidable p] {as bs : List (Act L P)}
    (h : D.Keeps held as held) (h' : D.Keeps held bs held) :
    D.Keeps held (if p then as else bs) held := by
  split
  · exact h
  · exact h'

/-- One path after the other, each of which gives back what it takes. -/
theorem Discipline.Keeps.flatMap {α : Type*} {held : List L} {path : α → List (Act L P)}
    (h : ∀ a, D.Keeps held (path a) held) (xs : List α) : D.Keeps held (xs.flatMap path) held := by
  induction xs with
  | nil => rfl
  | cons a xs ih =>
      rw [List.flatMap_cons]
      exact (h a).append ih

/-- A critical section keeps the discipline where its lock comes after those held. -/
theorem Discipline.Keeps.critical {held : List L} {l : L} {body : List (Act L P)}
    (hr : ∀ h ∈ held, D.rank h < D.rank l) (hb : D.Keeps (l :: held) body (l :: held)) :
    D.Keeps held (critical l body) held := by
  refine ⟨hr, hb.append ⟨List.mem_cons_self .., ?_⟩⟩
  rw [List.erase_cons_head]
  rfl

/-! ### Threads -/

/-- A thread: the locks it holds, and what it has still to do. -/
structure Thread (L : Type u) (P : Type v) where
  held : List L
  rest : List (Act L P)

/-- A thread with nothing to do. -/
def Thread.idle : Thread L P := ⟨[], []⟩

/-- The thread's next action, done. -/
def Thread.step (t : Thread L P) : Thread L P :=
  match t.rest with
  | [] => t
  | .acquire l :: as => ⟨l :: t.held, as⟩
  | .release l :: as => ⟨t.held.erase l, as⟩
  | .point _ :: as => ⟨t.held, as⟩

/-- Another path may be started: the thread is idle, or at a point where code outside runs. -/
def Thread.Open (D : Discipline L P) (t : Thread L P) : Prop :=
  t.rest = [] ∨ ∃ p as, t.rest = .point p :: as ∧ D.Opens p

/-- A thread goes on, or code outside starts a path on it. -/
inductive Move (I : Type w) (L : Type u) (P : Type v) where
  | run (i : I)
  | start (i : I) (path : List (Act L P))

variable {I : Type w}

/-- The next action of a thread can be done. -/
def CanRun (c : I → Thread L P) (i : I) : Prop :=
  match (c i).rest with
  | [] => False
  | .acquire l :: _ => ∀ j, l ∉ (c j).held
  | .release _ :: _ => True
  | .point _ :: _ => True

/-- Every thread keeps the discipline to its end, and no lock is held twice. -/
structure Safe (D : Discipline L P) (c : I → Thread L P) : Prop where
  keeps : ∀ i, D.Keeps (c i).held (c i).rest []
  exclusive : ∀ i j l, l ∈ (c i).held → l ∈ (c j).held → i = j

theorem safe_idle : Safe D fun _ : I => Thread.idle where
  keeps _ := rfl
  exclusive _ _ _ hl := absurd hl List.not_mem_nil

section
variable {c : I → Thread L P}

/-- **No deadlock.**  Where the ranks are bounded: the thread that waits for the lock of the highest
rank waits for one that can go on. -/
theorem Safe.exists_run (h : Safe D c) {b : Nat} (hb : ∀ l, D.rank l < b) {i : I}
    (hi : (c i).rest ≠ []) : ∃ j, CanRun c j := by
  have hwait : ∀ n i l as, (c i).rest = .acquire l :: as → b - D.rank l = n → ∃ j, CanRun c j := by
    intro n
    induction n using Nat.strongRecOn with
    | ind n ih =>
        intro i l as hr hn
        by_cases hfree : ∀ j, l ∉ (c j).held
        · exact ⟨i, by rw [CanRun, hr]; exact hfree⟩
        · obtain ⟨k, hk⟩ := not_forall.mp hfree
          have hk := not_not.mp hk
          have hkeeps := h.keeps k
          cases hrk : (c k).rest with
          | nil =>
              rw [hrk] at hkeeps
              have hnone : (c k).held = [] := hkeeps
              rw [hnone] at hk
              exact absurd hk List.not_mem_nil
          | cons a bs =>
              cases a with
              | acquire l' =>
                  -- it waits as well, for a lock of a higher rank
                  rw [hrk] at hkeeps
                  have hlt := hkeeps.1 l hk
                  have hlb := hb l'
                  exact ih (b - D.rank l') (by omega) k l' bs hrk rfl
              | release l' => exact ⟨k, by rw [CanRun, hrk]; trivial⟩
              | point p => exact ⟨k, by rw [CanRun, hrk]; trivial⟩
  cases hr : (c i).rest with
  | nil => exact absurd hr hi
  | cons a as =>
      cases a with
      | acquire l => exact hwait _ i l as hr rfl
      | release l => exact ⟨i, by rw [CanRun, hr]; trivial⟩
      | point p => exact ⟨i, by rw [CanRun, hr]; trivial⟩

/-- **Mutual exclusion**: two threads are never at points that need the same lock. -/
theorem Safe.excludes (h : Safe D c) {i j : I} {p q : P} {as bs : List (Act L P)}
    (hi : (c i).rest = .point p :: as) (hj : (c j).rest = .point q :: bs) {l : L}
    (hp : l ∈ D.guards p) (hq : l ∈ D.guards q) : i = j := by
  have hki := h.keeps i
  have hkj := h.keeps j
  rw [hi] at hki
  rw [hj] at hkj
  exact h.exclusive i j l (hki.1 l hp) (hkj.1 l hq)

/-- Where code outside runs, the thread holds only lent locks. -/
theorem Safe.lent_of_opens (h : Safe D c) {i : I} {p : P} {as : List (Act L P)}
    (hi : (c i).rest = .point p :: as) (hp : D.Opens p) : ∀ l ∈ (c i).held, D.Lent l := by
  have hk := h.keeps i
  rw [hi] at hk
  exact hk.2.1 hp

/-- A thread with nothing to do holds no lock. -/
theorem Safe.eq_idle (h : Safe D c) {i : I} (hi : (c i).rest = []) : c i = Thread.idle := by
  have hk := h.keeps i
  rw [hi] at hk
  have hheld : (c i).held = [] := hk
  exact congrArg₂ Thread.mk hheld hi

/-- Where no thread can go on, all are idle. -/
theorem Safe.idle_of_stuck (h : Safe D c) {b : Nat} (hb : ∀ l, D.rank l < b)
    (hs : ∀ i, ¬ CanRun c i) (i : I) : c i = Thread.idle := by
  refine h.eq_idle (by_contra fun hi => ?_)
  obtain ⟨j, hj⟩ := h.exists_run hb hi
  exact hs j hj

/-- Where a path may be started, the thread holds only lent locks. -/
theorem Safe.lent_of_open (h : Safe D c) {i : I} (hi : (c i).Open D) :
    ∀ l ∈ (c i).held, D.Lent l := by
  rcases hi with hr | ⟨p, as, hr, hp⟩
  · rw [h.eq_idle hr]
    exact fun _ hl => absurd hl List.not_mem_nil
  · exact h.lent_of_opens hr hp

/-! ### Runs -/

/-- **The threads.**  `paths` says which paths may be started where some locks are held. -/
def threads (D : Discipline L P) (paths : List L → List (Act L P) → Prop) (I : Type w)
    [DecidableEq I] : Machine (I → Thread L P) (Move I L P) (Act L P) where
  enabled c
    | .run i => CanRun c i
    | .start i path => paths (c i).held path ∧ (c i).Open D
  next c
    | .run i => Function.update c i (c i).step
    | .start i path => Function.update c i ⟨(c i).held, path ++ (c i).rest⟩
  out c
    | .run i => (c i).rest.head?.toList
    | .start .. => []

/-- A thread that can go on keeps the discipline. -/
theorem Thread.step_keeps {t : Thread L P} (h : D.Keeps t.held t.rest []) :
    D.Keeps t.step.held t.step.rest [] := by
  obtain ⟨held, rest⟩ := t
  cases rest with
  | nil => exact h
  | cons a as =>
      cases a with
      | acquire l => exact h.2
      | release l => exact h.2
      | point p => exact h.2.2

theorem length_step {t : Thread L P} (ht : t.rest ≠ []) :
    t.step.rest.length + 1 = t.rest.length := by
  obtain ⟨held, rest⟩ := t
  cases rest with
  | nil => exact absurd rfl ht
  | cons a as => cases a <;> rfl

omit [DecidableEq L] in
theorem CanRun.rest_ne_nil {i : I} (h : CanRun c i) : (c i).rest ≠ [] := fun hr => by
  rw [CanRun, hr] at h
  exact h

/-- What a thread holds after a step it held before, or it has just taken it. -/
theorem mem_held_step {i : I} {l : L} (hr : CanRun c i) (hl : l ∈ (c i).step.held) :
    l ∈ (c i).held ∨ ∀ j, l ∉ (c j).held := by
  rw [CanRun] at hr
  rw [Thread.step] at hl
  split at hr
  · exact hr.elim
  · rename_i heq
    rw [heq] at hl
    rcases List.mem_cons.mp hl with rfl | hl
    · exact .inr hr
    · exact .inl hl
  · rename_i heq
    rw [heq] at hl
    exact .inl (List.mem_of_mem_erase hl)
  · rename_i heq
    rw [heq] at hl
    exact .inl hl

variable [DecidableEq I] {paths : List L → List (Act L P) → Prop}

/-- **A step keeps the threads safe.** -/
theorem Safe.next (h : Safe D c) (hp : D.KeptBy paths) {m : Move I L P}
    (hm : (threads D paths I).enabled c m) : Safe D ((threads D paths I).next c m) := by
  cases m with
  | run i =>
      refine ⟨fun j => ?_, fun j k l hj hk => ?_⟩
      · exact (Function.forall_update_iff c fun _ t => D.Keeps t.held t.rest []).mpr
          ⟨Thread.step_keeps (h.keeps i), fun j _ => h.keeps j⟩ j
      · simp only [threads] at hj hk
        by_cases hji : j = i
        · by_cases hki : k = i
          · rw [hji, hki]
          · rw [Function.update_of_ne hki] at hk
            rw [hji, Function.update_self] at hj
            -- what it has just taken nobody holds
            rcases mem_held_step hm hj with hj | hfree
            · exact hji.trans (h.exclusive i k l hj hk)
            · exact absurd hk (hfree k)
        · rw [Function.update_of_ne hji] at hj
          by_cases hki : k = i
          · rw [hki, Function.update_self] at hk
            rcases mem_held_step hm hk with hk | hfree
            · exact (h.exclusive j i l hj hk).trans hki.symm
            · exact absurd hj (hfree j)
          · rw [Function.update_of_ne hki] at hk
            exact h.exclusive j k l hj hk
  | start i path =>
      obtain ⟨hpath, hopen⟩ := hm
      have hsame : ∀ j, ((threads D paths I).next c (.start i path) j).held = (c j).held := by
        intro j
        simp only [threads]
        by_cases hji : j = i
        · subst hji
          rw [Function.update_self]
        · rw [Function.update_of_ne hji]
      refine ⟨fun j => ?_, fun j k l hj hk => ?_⟩
      · -- the path gives back what it takes, and leaves the thread as it was
        exact (Function.forall_update_iff c fun _ t => D.Keeps t.held t.rest []).mpr
          ⟨(hp _ path (h.lent_of_open hopen) hpath).append (h.keeps i), fun j _ => h.keeps j⟩ j
      · rw [hsame] at hj hk
        exact h.exclusive j k l hj hk

/-- **Every run is safe.** -/
theorem safe_of_reachable (hp : D.KeptBy paths)
    (h : (threads D paths I).Reachable (fun _ => Thread.idle) c) : Safe D c :=
  h.of_invariant safe_idle fun _ _ hs hm => hs.next hp hm

/-! ### The paths come to their end -/

/-- What is still to be done. -/
def work [Fintype I] (c : I → Thread L P) : Nat := ∑ i, (c i).rest.length

/-- A step of a thread leaves less to be done, by one. -/
theorem work_run [Fintype I] {i : I} (h : CanRun c i) :
    work ((threads D paths I).next c (.run i)) + 1 = work c := by
  have hlen : (fun j => ((threads D paths I).next c (.run i) j).rest.length) =
      Function.update (fun j => (c j).rest.length) i (c i).step.rest.length := by
    funext j
    simp only [threads]
    by_cases hji : j = i
    · subst hji
      rw [Function.update_self, Function.update_self]
    · rw [Function.update_of_ne hji, Function.update_of_ne hji]
  have hi := Finset.mem_univ i
  rw [work, work, hlen, Finset.sum_update_of_mem hi, ← Finset.add_sum_erase _ _ hi,
    Finset.sdiff_singleton_eq_erase, ← length_step h.rest_ne_nil]
  omega

/-- Whichever way the paths in progress are interleaved, each step is one of what there is to be
done. -/
theorem length_add_work [Fintype I] {js : List I}
    (hv : (threads D paths I).Valid c (js.map .run)) :
    js.length + work ((threads D paths I).final c (js.map .run)) = work c := by
  induction js generalizing c with
  | nil => exact Nat.zero_add _
  | cons j js ih =>
      have hw : work ((threads D paths I).next c (.run j)) + 1 = work c := work_run hv.1
      have ih := ih hv.2
      rw [List.map_cons, Machine.final, List.length_cons]
      omega

/-- **The paths in progress come to their end**: in whichever order the threads go on, they do so
only so many times, and where none can go on all are idle. -/
theorem drains [Fintype I] (h : Safe D c) (hp : D.KeptBy paths) {b : Nat}
    (hb : ∀ l, D.rank l < b) {js : List I} (hv : (threads D paths I).Valid c (js.map .run)) :
    js.length ≤ work c ∧
      ((∀ i, ¬ CanRun ((threads D paths I).final c (js.map .run)) i) →
        ∀ i, (threads D paths I).final c (js.map .run) i = Thread.idle) := by
  have hsafe : Safe D ((threads D paths I).final c (js.map .run)) :=
    Machine.invariant h (fun _ _ hs hm => hs.next hp hm) hv
  exact ⟨(length_add_work hv).symm ▸ Nat.le_add_right .., hsafe.idle_of_stuck hb⟩

/-- They can come to it. -/
theorem exists_drain [Fintype I] (h : Safe D c) (hp : D.KeptBy paths) {b : Nat}
    (hb : ∀ l, D.rank l < b) :
    ∃ js : List I, (threads D paths I).Valid c (js.map .run) ∧
      ∀ i, (threads D paths I).final c (js.map .run) i = Thread.idle := by
  generalize hn : work c = n
  induction n generalizing c with
  | zero =>
      refine ⟨[], trivial, fun i => h.eq_idle ?_⟩
      have hlen : (c i).rest.length = 0 :=
        Finset.sum_eq_zero_iff.mp hn i (Finset.mem_univ i)
      exact List.length_eq_zero_iff.mp hlen
  | succ n ih =>
      have hne : ∃ i, (c i).rest ≠ [] := by
        by_contra hnone
        have hz : work c = 0 := Finset.sum_eq_zero fun i _ =>
          List.length_eq_zero_iff.mpr (not_not.mp fun hr => hnone ⟨i, hr⟩)
        omega
      obtain ⟨i, hi⟩ := hne
      obtain ⟨j, hj⟩ := h.exists_run hb hi
      have hw : work ((threads D paths I).next c (.run j)) + 1 = work c := work_run hj
      obtain ⟨js, hv, hidle⟩ := ih (h.next hp (m := .run j) hj) (by omega)
      exact ⟨j :: js, ⟨hj, hv⟩, hidle⟩

/-! ### What the threads do is on their paths -/

/-- All that a thread has still to do, and the taking of what it holds, has a property. -/
structure Thread.Within (Q : Act L P → Prop) (t : Thread L P) : Prop where
  rest : Over Q t.rest
  held : ∀ l ∈ t.held, Q (.acquire l)

/-- A thread that goes on has less to do, and holds what it held or had to take. -/
theorem Thread.Within.step {Q : Act L P → Prop} {t : Thread L P} (h : t.Within Q) :
    t.step.Within Q := by
  obtain ⟨held, rest⟩ := t
  cases rest with
  | nil => exact h
  | cons a as =>
      have has : ∀ b ∈ as, Q b := fun b hb => h.rest b (List.mem_cons_of_mem _ hb)
      cases a with
      | acquire l =>
          exact ⟨has, List.forall_mem_cons.mpr ⟨h.rest _ (List.mem_cons_self ..), h.held⟩⟩
      | release l => exact ⟨has, fun k hk => h.held k (List.mem_of_mem_erase hk)⟩
      | point p => exact ⟨has, h.held⟩

/-- **What holds of everything on the paths holds of everything the threads do.** -/
theorem within_of_reachable {Q : Act L P → Prop}
    (hQ : ∀ held path, paths held path → Over Q path)
    (h : (threads D paths I).Reachable (fun _ => Thread.idle) c) : ∀ i, (c i).Within Q := by
  refine h.of_invariant (I := fun c => ∀ i, (c i).Within Q)
    (fun _ => ⟨fun _ ha => absurd ha List.not_mem_nil, fun _ hl => absurd hl List.not_mem_nil⟩)
    fun c m hc hm => ?_
  cases m with
  | run i =>
      exact (Function.forall_update_iff c fun _ t => t.Within Q).mpr
        ⟨(hc i).step, fun j _ => hc j⟩
  | start i path =>
      exact (Function.forall_update_iff c fun _ t => t.Within Q).mpr
        ⟨⟨(hQ _ path hm.1).append (hc i).rest, (hc i).held⟩, fun j _ => hc j⟩

end

end

end Locks
