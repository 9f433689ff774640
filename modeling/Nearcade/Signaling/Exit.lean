import Nearcade.Signaling.Context

/-!
# Signaling — Exit

The end of a service thread.  "The signaling thread will exit when g_wsi becomes NULL", says
`signaling_shutdown`.  It does, and soon: from there on `Loop.togo` counts the steps it still takes,
until the next `signaling_init` creates a context.  `lws_service` is taken to return: the step on
which it does is always open to the thread.

* `togo_run`: a run takes each thread as many steps nearer to its end as it takes of the thread.
* `threads_exit`: so no thread takes more than four, and none stops on its way.
-/

namespace Nearcade.Context
open Runs

/-! ### Steps to go -/

/-- The steps to the end of a thread that finds no context. -/
def Loop.togo : Loop → Nat
  | .unborn | .exited => 0
  | .top => 1
  | .serving _ => 2
  | .calling _ => 3
  | .alive => 4

theorem Loop.togo_le : ∀ l : Loop, l.togo ≤ 4
  | .unborn | .exited | .top | .serving _ | .calling _ | .alive => by simp [Loop.togo]

/-- The service thread whose step it is. -/
def Step.thread : Step → Option Nat
  | .test t | .read t | .call t | .ret t => some t
  | .clear | .destroy | .destroyed | .create _ | .spawn | .spawnFails | .reset => none

/-- A context is created. -/
def Step.Creates : Step → Prop
  | .create (some _) => True
  | _ => False

/-- The steps of a thread. -/
def stepsOf (t : Nat) (es : List Step) : List Step := es.filter fun e => e.thread = some t

/-! ### One step -/

section
variable {s : Shared} {e : Step}

/-- A step of a service thread moves that thread, to its end where it finds no context. -/
theorem next_of_thread {t : Nat} (ht : e.thread = some t) (he : e.Enabled s) :
    ∃ l, e.next s = s.move t l ∧ (s.gWsi = none → 1 + l.togo = (s.loop t).togo) := by
  cases e with
  | test u =>
      obtain rfl : u = t := Option.some.inj ht
      have hl : s.loop u = .top := he
      refine ⟨_, rfl, fun hw => ?_⟩
      rw [hw, hl]
      rfl
  | read u =>
      obtain rfl : u = t := Option.some.inj ht
      have hl : s.loop u = .alive := he
      exact ⟨_, rfl, fun _ => by rw [hl]; rfl⟩
  | call u =>
      obtain rfl : u = t := Option.some.inj ht
      obtain ⟨wsi, hl⟩ := he
      exact ⟨.serving wsi, by simp only [Step.next, hl], fun _ => by rw [hl]; rfl⟩
  | ret u =>
      obtain rfl : u = t := Option.some.inj ht
      obtain ⟨wsi, hl⟩ := he
      exact ⟨_, rfl, fun _ => by rw [hl]; rfl⟩
  | _ => cases ht

/-- A step of the application thread moves no service thread, but to start one; it leaves a context
in `g_wsi` only where it creates one, and leaves the start of one only where that stays. -/
theorem next_of_app (ht : e.thread = none) (he : e.Enabled s) :
    ((e.next s).loop = s.loop ∨ ∃ ctx, s.app = .created ctx) ∧
      (¬ e.Creates → ((e.next s).gWsi = none ∨ (e.next s).gWsi = s.gWsi) ∧
        ∀ ctx, (e.next s).app ≠ .created ctx) ∧
      ∀ ctx, (e.next s).app = .created ctx → (e.next s).gWsi = some ctx := by
  cases e with
  | test | read | call | ret => cases ht
  | clear =>
      have hne : ∀ ctx, (Step.next s .clear).app ≠ .created ctx := fun ctx => by
        simp only [Step.next]
        split <;> simp
      exact ⟨.inl rfl, fun _ => ⟨.inl rfl, hne⟩, fun ctx h => absurd h (hne ctx)⟩
  | destroy =>
      obtain ⟨c, hc⟩ := he
      have hn : Step.next s .destroy = { s with app := .destroying c } := by
        simp only [Step.next, hc]
      rw [hn]
      exact ⟨.inl rfl, fun _ => ⟨.inr rfl, by simp⟩, by simp⟩
  | destroyed =>
      obtain ⟨c, hc | hc⟩ := he
      · have hn : Step.next s .destroyed =
            { s with live := s.live.erase c, app := .idle } := by simp only [Step.next, hc]
        rw [hn]
        exact ⟨.inl rfl, fun _ => ⟨.inr rfl, by simp⟩, by simp⟩
      · have hn : Step.next s .destroyed =
            { s with live := s.live.erase c, app := .failed } := by simp only [Step.next, hc]
        rw [hn]
        exact ⟨.inl rfl, fun _ => ⟨.inr rfl, by simp⟩, by simp⟩
  | create ctx =>
      have hidle : s.app = .idle := he.1
      cases ctx with
      | none =>
          have hne : ∀ ctx, s.app ≠ .created ctx := fun ctx => by simp [hidle]
          exact ⟨.inl rfl, fun _ => ⟨.inl rfl, hne⟩, fun ctx h => absurd h (hne ctx)⟩
      | some c =>
          exact ⟨.inl rfl, fun hn => absurd trivial hn, fun ctx h => by
            rw [App.created.inj h.symm]
            rfl⟩
  | spawn => exact ⟨.inr he, fun _ => ⟨.inr rfl, by simp [Step.next]⟩, by simp [Step.next]⟩
  | spawnFails =>
      obtain ⟨c, hc⟩ := he
      have hn : Step.next s .spawnFails = { s with app := .failing c } := by
        simp only [Step.next, hc]
      rw [hn]
      exact ⟨.inl rfl, fun _ => ⟨.inr rfl, by simp⟩, by simp⟩
  | reset => exact ⟨.inl rfl, fun _ => ⟨.inl rfl, by simp [Step.next]⟩, by simp [Step.next]⟩

end

/-! ### No context -/

/-- `g_wsi` is null, and no `signaling_init` is on its way. -/
structure Down (s : Shared) : Prop where
  null : s.gWsi = none
  quiet : ∀ ctx, s.app ≠ .created ctx

theorem Step.thread_cases (e : Step) : e.thread = none ∨ ∃ t, e.thread = some t := by
  cases e.thread with
  | none => exact .inl rfl
  | some t => exact .inr ⟨t, rfl⟩

/-- Where `g_wsi` is null, no `signaling_init` is on its way. -/
theorem down_of_reachable {s : Shared} (hr : services.Reachable .boot s) (hw : s.gWsi = none) :
    Down s := by
  have hcreated : ∀ ctx, s.app = .created ctx → s.gWsi = some ctx := by
    refine hr.of_invariant (I := fun s => ∀ ctx, s.app = .created ctx → s.gWsi = some ctx) ?_ ?_
    · intro ctx h
      cases h
    · intro s e hs he
      rcases e.thread_cases with ht | ⟨t, ht⟩
      · exact (next_of_app ht he).2.2
      · obtain ⟨l, hl, -⟩ := next_of_thread ht he
        show ∀ ctx, (e.next s).app = .created ctx → (e.next s).gWsi = some ctx
        rw [hl]
        exact hs
  refine ⟨hw, fun ctx ha => ?_⟩
  have := hcreated ctx ha
  rw [hw] at this
  cases this

theorem Down.next {s : Shared} (h : Down s) {e : Step} (he : e.Enabled s) (hn : ¬ e.Creates) :
    Down (e.next s) := by
  rcases e.thread_cases with ht | ⟨t, ht⟩
  · obtain ⟨hw, hq⟩ := (next_of_app ht he).2.1 hn
    exact ⟨hw.elim id fun hw => hw.trans h.null, hq⟩
  · obtain ⟨l, hl, -⟩ := next_of_thread ht he
    rw [hl]
    exact ⟨h.null, h.quiet⟩

/-- **A step of a thread takes it nearer to its end**, and no other step touches it. -/
theorem Down.togo {s : Shared} (h : Down s) {e : Step} (he : e.Enabled s) (t : Nat) :
    (stepsOf t [e]).length + ((e.next s).loop t).togo = (s.loop t).togo := by
  by_cases ht : e.thread = some t
  · obtain ⟨l, hl, hgo⟩ := next_of_thread ht he
    have hone : stepsOf t [e] = [e] := List.filter_cons_of_pos (by simpa using ht)
    rw [hone, hl, move_self]
    exact hgo h.null
  · have hnone : stepsOf t [e] = [] := List.filter_cons_of_neg (by simpa using ht)
    have hsame : (e.next s).loop t = s.loop t := by
      rcases e.thread_cases with hu | ⟨u, hu⟩
      · rcases (next_of_app hu he).1 with hl | ⟨ctx, ha⟩
        · rw [hl]
        · exact absurd ha (h.quiet ctx)
      · obtain ⟨l, hl, -⟩ := next_of_thread hu he
        rw [hl, move_other fun e => ht (hu.trans (congrArg some e.symm))]
    rw [hnone, hsame]
    exact Nat.zero_add _

/-- **A run.** -/
theorem togo_run {s : Shared} (h : Down s) {es : List Step} (hv : services.Valid s es)
    (hn : ∀ e ∈ es, ¬ e.Creates) (t : Nat) :
    (stepsOf t es).length + ((services.final s es).loop t).togo = (s.loop t).togo := by
  induction es generalizing s with
  | nil => exact Nat.zero_add _
  | cons e es ih =>
      have hrest := ih (h.next hv.1 (hn e (List.mem_cons_self ..))) hv.2
        fun e' he' => hn e' (List.mem_cons_of_mem _ he')
      have hone := h.togo hv.1 t
      have hcons : stepsOf t (e :: es) = stepsOf t [e] ++ stepsOf t es :=
        List.filter_append [e] es
      rw [hcons, List.length_append, Nat.add_assoc]
      exact (congrArg ((stepsOf t [e]).length + ·) hrest).trans hone

/-- A thread on its way can go on. -/
theorem enabled_of_active {s : Shared} {t : Nat} (h : (s.loop t).Active) :
    ∃ e : Step, e.thread = some t ∧ e.Enabled s := by
  cases hl : s.loop t with
  | unborn => exact absurd hl h.1
  | exited => exact absurd hl h.2
  | top => exact ⟨.test t, rfl, hl⟩
  | alive => exact ⟨.read t, rfl, hl⟩
  | calling wsi => exact ⟨.call t, rfl, wsi, hl⟩
  | serving wsi => exact ⟨.ret t, rfl, wsi, hl⟩

/-- **The service threads exit.**  In every state that runs reach, let `g_wsi` be null, as
`signaling_shutdown` leaves it.  Then in every run from there in which no `signaling_init` creates
another context, each service thread has taken the steps it had to go, four at most, but for those
it still has; and one that has not come to its end can take the next. -/
theorem threads_exit {s : Shared} (hr : services.Reachable .boot s) (hw : s.gWsi = none)
    {es : List Step} (hv : services.Valid s es) (hn : ∀ e ∈ es, ¬ e.Creates) (t : Nat) :
    (stepsOf t es).length + ((services.final s es).loop t).togo = (s.loop t).togo ∧
      (stepsOf t es).length ≤ 4 ∧
      (((services.final s es).loop t).Active →
        ∃ e : Step, e.thread = some t ∧ services.enabled (services.final s es) e) := by
  have hrun := togo_run (down_of_reachable hr hw) hv hn t
  refine ⟨hrun, ?_, enabled_of_active⟩
  calc (stepsOf t es).length ≤ (stepsOf t es).length + ((services.final s es).loop t).togo :=
        Nat.le_add_right ..
    _ = (s.loop t).togo := hrun
    _ ≤ 4 := Loop.togo_le _

/-- A thread has tested `g_wsi`, and the SDK shuts down. -/
def leaving : List Step := [.create (some 1), .spawn, .test 0, .clear]

/-- The thread calls `lws_service` once more, on the null it reads, while the context is
destroyed. -/
def lastService : List Step := [.read 0, .destroy, .call 0, .ret 0, .destroyed, .test 0]

theorem threads_exit_leaving :
    let s := services.final .boot leaving
    (stepsOf 0 lastService).length + ((services.final s lastService).loop 0).togo =
        (s.loop 0).togo ∧
      (stepsOf 0 lastService).length ≤ 4 ∧
      (((services.final s lastService).loop 0).Active →
        ∃ e : Step, e.thread = some 0 ∧ services.enabled (services.final s lastService) e) :=
  threads_exit ⟨leaving, by decide, rfl⟩ rfl (by decide) (by simp [lastService, Step.Creates]) 0

end Nearcade.Context
