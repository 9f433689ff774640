import Nearcade.Support.Runs
import Nearcade.Source.Signaling

/-!
# Signaling — Context

The loop of `signaling_thread` against `signaling_init` and `signaling_shutdown`.  The loop tests
`g_wsi` under the lock, lets the lock go, and reads `g_wsi` again for the call of `lws_service`;
nobody joins the thread.  `services` has one step for each critical section, for each read and write
of `g_wsi` outside them, and for the start and the end of `lws_service` and `lws_context_destroy`.

* `safe_of_waits`: where the application thread waits for the service thread (`Waits`),
  `lws_service` runs only on contexts that are there and stay there, each in one thread.
* `unsafe_of_not_waits`: where it does not, the run can go on to where that is broken.
* `takes_init`, `takes_shutdown`: the two functions of the module are runs of the machine.
-/

namespace Nearcade.Context
open Runs

/-! ### The threads -/

/-- Where a service thread is. -/
inductive Loop where
  | unborn
  /-- At the head of the loop. -/
  | top
  /-- It has found `g_wsi` set. -/
  | alive
  /-- It has read `g_wsi` for the call of `lws_service`. -/
  | calling (wsi : Option Nat)
  /-- It is inside `lws_service`. -/
  | serving (wsi : Option Nat)
  | exited
  deriving DecidableEq

/-- Where the application thread is. -/
inductive App where
  | idle
  /-- `signaling_shutdown` has taken the context out of `g_wsi`. -/
  | cleared (ctx : Nat)
  /-- It is inside `lws_context_destroy`. -/
  | destroying (ctx : Nat)
  /-- `signaling_init` has created the context; `pthread_create` comes next. -/
  | created (ctx : Nat)
  /-- That has failed, and it is inside `lws_context_destroy`. -/
  | failing (ctx : Nat)
  /-- It has returned; `g_wsi = NULL` comes next. -/
  | failed
  deriving DecidableEq

/-- The context that is being destroyed. -/
def App.destroys : App → Option Nat
  | .destroying ctx | .failing ctx => some ctx
  | .idle | .cleared _ | .created _ | .failed => none

/-- `g_wsi`, the contexts created and not destroyed, the application thread, the service threads and
how many have been started. -/
structure Shared where
  gWsi : Option Nat
  live : Finset Nat
  app : App
  loop : Nat → Loop
  started : Nat

/-- The program as it starts. -/
def Shared.boot : Shared := ⟨none, ∅, .idle, fun _ => .unborn, 0⟩

/-- The steps of a service thread, and those of the application thread. -/
inductive Step where
  | test (t : Nat)
  | read (t : Nat)
  | call (t : Nat)
  | ret (t : Nat)
  | clear
  | destroy
  | destroyed
  | create (ctx : Option Nat)
  | spawn
  | spawnFails
  | reset

/-- `lws_create_context` returns no context that is there already. -/
def Step.Enabled (s : Shared) : Step → Prop
  | .test t => s.loop t = .top
  | .read t => s.loop t = .alive
  | .call t => ∃ wsi, s.loop t = .calling wsi
  | .ret t => ∃ wsi, s.loop t = .serving wsi
  | .clear => s.app = .idle
  | .destroy => ∃ ctx, s.app = .cleared ctx
  | .destroyed => ∃ ctx, s.app = .destroying ctx ∨ s.app = .failing ctx
  | .create ctx => s.app = .idle ∧ ∀ c, ctx = some c → c ∉ s.live
  | .spawn | .spawnFails => ∃ ctx, s.app = .created ctx
  | .reset => s.app = .failed

/-- A service thread goes somewhere. -/
def Shared.move (s : Shared) (t : Nat) (l : Loop) : Shared :=
  { s with loop := Function.update s.loop t l }

def Step.next (s : Shared) : Step → Shared
  | .test t => s.move t (if s.gWsi.isSome then .alive else .exited)
  -- `g_wsi` is read again, without the lock
  | .read t => s.move t (.calling s.gWsi)
  | .call t =>
      match s.loop t with
      | .calling wsi => s.move t (.serving wsi)
      | _ => s
  | .ret t => s.move t .top
  | .clear =>
      { s with
        gWsi := none
        app := match s.gWsi with
          | some ctx => .cleared ctx
          | none => .idle }
  | .destroy =>
      match s.app with
      | .cleared ctx => { s with app := .destroying ctx }
      | _ => s
  | .destroyed =>
      match s.app with
      | .destroying ctx => { s with live := s.live.erase ctx, app := .idle }
      | .failing ctx => { s with live := s.live.erase ctx, app := .failed }
      | _ => s
  | .create none => { s with gWsi := none }
  | .create (some ctx) =>
      { s with gWsi := some ctx, live := insert ctx s.live, app := .created ctx }
  | .spawn => { s.move s.started .top with app := .idle, started := s.started + 1 }
  | .spawnFails =>
      match s.app with
      | .created ctx => { s with app := .failing ctx }
      | _ => s
  | .reset => { s with gWsi := none, app := .idle }

/-- What a step does to the contexts. -/
def Step.out (s : Shared) : Step → List Effect
  | .create (some ctx) => [.lwsCreateContext ctx]
  | .destroy =>
      match s.app with
      | .cleared ctx => [.lwsContextDestroy ctx]
      | _ => []
  | .spawnFails =>
      match s.app with
      | .created ctx => [.lwsContextDestroy ctx]
      | _ => []
  | _ => []

/-- **The service threads and the application thread.** -/
def services : Machine Shared Step Effect where
  enabled := Step.Enabled
  next := Step.next
  out := Step.out

instance (s : Shared) : ∀ e : Step, Decidable (e.Enabled s)
  | .test t => inferInstanceAs (Decidable (s.loop t = .top))
  | .read t => inferInstanceAs (Decidable (s.loop t = .alive))
  | .call t =>
      match h : s.loop t with
      | .calling wsi => isTrue ⟨wsi, h⟩
      | .unborn | .top | .alive | .serving _ | .exited => isFalse (by simp [Step.Enabled, h])
  | .ret t =>
      match h : s.loop t with
      | .serving wsi => isTrue ⟨wsi, h⟩
      | .unborn | .top | .alive | .calling _ | .exited => isFalse (by simp [Step.Enabled, h])
  | .clear => inferInstanceAs (Decidable (s.app = .idle))
  | .destroy =>
      match h : s.app with
      | .cleared ctx => isTrue ⟨ctx, h⟩
      | .idle | .destroying _ | .created _ | .failing _ | .failed =>
          isFalse (by simp [Step.Enabled, h])
  | .destroyed =>
      match h : s.app with
      | .destroying ctx => isTrue ⟨ctx, .inl h⟩
      | .failing ctx => isTrue ⟨ctx, .inr h⟩
      | .idle | .cleared _ | .created _ | .failed => isFalse (by simp [Step.Enabled, h])
  | .create none => decidable_of_iff (s.app = .idle) (by simp [Step.Enabled])
  | .create (some ctx) =>
      decidable_of_iff (s.app = .idle ∧ ctx ∉ s.live) (by simp [Step.Enabled])
  | .spawn | .spawnFails =>
      match h : s.app with
      | .created ctx => isTrue ⟨ctx, h⟩
      | .idle | .cleared _ | .destroying _ | .failing _ | .failed =>
          isFalse (by simp [Step.Enabled, h])
  | .reset => inferInstanceAs (Decidable (s.app = .failed))

instance (s : Shared) (e : Step) : Decidable (services.enabled s e) :=
  inferInstanceAs (Decidable (e.Enabled s))

/-! ### The law -/

/-- `lws_service` runs on a context that is there and is not being destroyed, and on each context in
one thread at most. -/
structure Safe (s : Shared) : Prop where
  serves : ∀ t wsi, s.loop t = .serving wsi →
    ∃ c, wsi = some c ∧ c ∈ s.live ∧ s.app.destroys ≠ some c
  one : ∀ t u c, s.loop t = .serving (some c) → s.loop u = .serving (some c) → t = u

/-- A thread that has been started and has not come to its end. -/
def Loop.Active (l : Loop) : Prop := l ≠ .unborn ∧ l ≠ .exited

instance (l : Loop) : Decidable l.Active := inferInstanceAs (Decidable (_ ∧ _))

/-- The application thread waits: `g_wsi` becomes null while no thread is between its test and its
second read; a context is destroyed when no thread is about to call `lws_service` on it or in that
call; and a new one is created when every thread has come to its end. -/
def Waits (s : Shared) : Step → Prop
  | .clear | .create none => ∀ t < s.started, s.loop t ≠ .alive
  | .destroy =>
      match s.app with
      | .cleared c => ∀ t < s.started, s.loop t ≠ .calling (some c) ∧ s.loop t ≠ .serving (some c)
      | _ => True
  | .create (some _) => ∀ t < s.started, ¬ (s.loop t).Active
  | .test _ | .read _ | .call _ | .ret _ | .destroyed | .spawn | .spawnFails | .reset => True

instance (s : Shared) : ∀ e : Step, Decidable (Waits s e)
  | .clear | .create none => inferInstanceAs (Decidable (∀ t < s.started, s.loop t ≠ .alive))
  | .destroy =>
      match h : s.app with
      | .cleared c =>
          decidable_of_iff (∀ t < s.started,
            s.loop t ≠ .calling (some c) ∧ s.loop t ≠ .serving (some c)) (by simp [Waits, h])
      | .idle | .destroying _ | .created _ | .failing _ | .failed => isTrue (by simp [Waits, h])
  | .create (some _) => inferInstanceAs (Decidable (∀ t < s.started, ¬ (s.loop t).Active))
  | .test _ | .read _ | .call _ | .ret _ | .destroyed | .spawn | .spawnFails | .reset =>
      isTrue trivial

/-! ### The invariant -/

/-- `signaling_init` is at work on a context that has no thread. -/
def App.Starting : App → Prop
  | .created _ | .failing _ | .failed => True
  | .idle | .cleared _ | .destroying _ => False

/-- The invariant of the runs in which the application thread waits. -/
structure Inv (s : Shared) : Prop where
  /-- `g_wsi` is a context that is there, but for the end of a `signaling_init` that fails. -/
  live : ∀ c, s.gWsi = some c → s.app ≠ .failed → c ∈ s.live
  /-- `signaling_shutdown` has set `g_wsi` to null. -/
  null : ∀ c, s.app = .cleared c ∨ s.app = .destroying c → s.gWsi = none
  alive : ∀ t, s.loop t = .alive → s.app = .idle ∧ s.gWsi ≠ none
  holds : ∀ t wsi, s.loop t = .calling wsi ∨ s.loop t = .serving wsi →
    ∃ c, wsi = some c ∧ c ∈ s.live ∧ s.app.destroys ≠ some c
  one : ∀ t u, (s.loop t).Active → (s.loop u).Active → t = u
  quiet : s.app.Starting → ∀ t, ¬ (s.loop t).Active
  unborn : ∀ t, s.started ≤ t → s.loop t = .unborn

theorem inv_boot : Inv .boot where
  live _ h := by simp [Shared.boot] at h
  null _ _ := rfl
  alive _ h := by simp [Shared.boot] at h
  holds _ _ h := by simp [Shared.boot] at h
  one _ _ h := absurd rfl h.1
  quiet h := h.elim
  unborn _ _ := rfl

section
variable {s : Shared} {t : Nat}

theorem Inv.safe (h : Inv s) : Safe s where
  serves t wsi hs := h.holds t wsi (.inr hs)
  one t u _ ht hu := h.one t u (by simp [Loop.Active, ht]) (by simp [Loop.Active, hu])

theorem Inv.lt_started (h : Inv s) (ht : (s.loop t).Active) : t < s.started := by
  by_contra hle
  exact ht.1 (h.unborn t (Nat.le_of_not_lt hle))

/-! ### The service threads -/

theorem move_self (s : Shared) (t : Nat) (l : Loop) : (s.move t l).loop t = l :=
  Function.update_self ..

theorem move_other {u : Nat} (hu : u ≠ t) (l : Loop) : (s.move t l).loop u = s.loop u :=
  Function.update_of_ne hu ..

/-- **A thread that is active goes somewhere**, the others stay where they are. -/
theorem Inv.move (h : Inv s) (ht : (s.loop t).Active) {l : Loop}
    (ha : l = .alive → s.app = .idle ∧ s.gWsi ≠ none)
    (hh : ∀ wsi, l = .calling wsi ∨ l = .serving wsi →
      ∃ c, wsi = some c ∧ c ∈ s.live ∧ s.app.destroys ≠ some c) : Inv (s.move t l) := by
  -- who is active after it was active before
  have hact : ∀ u, ((s.move t l).loop u).Active → (s.loop u).Active := fun u hu => by
    by_cases hut : u = t
    · rw [hut]
      exact ht
    · rwa [move_other hut] at hu
  refine ⟨h.live, h.null, fun u hu => ?_, fun u wsi hu => ?_, fun u v hu hv => ?_,
    fun hs u hu => h.quiet hs u (hact u hu), fun u hle => ?_⟩
  · by_cases hut : u = t
    · rw [hut, move_self] at hu
      exact ha hu
    · rw [move_other hut] at hu
      exact h.alive u hu
  · by_cases hut : u = t
    · rw [hut, move_self] at hu
      exact hh wsi hu
    · rw [move_other hut] at hu
      exact h.holds u wsi hu
  · exact h.one u v (hact u hu) (hact v hv)
  · have hut : u ≠ t := fun e => ht.1 (e ▸ h.unborn u hle)
    rw [move_other hut]
    exact h.unborn u hle

/-- Where `g_wsi` is set and a thread is active, the application thread is at rest. -/
theorem Inv.at_rest (h : Inv s) (ht : (s.loop t).Active) {c : Nat} (hg : s.gWsi = some c) :
    s.app = .idle := by
  cases ha : s.app with
  | idle => rfl
  | cleared d | destroying d =>
      have hnull : s.gWsi = none := h.null d (by simp [ha])
      exact absurd (hg.symm.trans hnull) (Option.some_ne_none c)
  | created d | failing d | failed =>
      have hs : s.app.Starting := by rw [ha]; trivial
      exact absurd ht (h.quiet hs t)

theorem Inv.test (h : Inv s) (ht : s.loop t = .top) : Inv (Step.next s (.test t)) := by
  have hact : (s.loop t).Active := by simp [Loop.Active, ht]
  cases hg : s.gWsi with
  | none => simpa [Step.next, hg] using h.move hact (l := .exited) (by simp) (by simp)
  | some c =>
      have hrest := h.at_rest hact hg
      simpa [Step.next, hg] using h.move hact (l := .alive) (by simp [hrest, hg]) (by simp)

theorem Inv.read (h : Inv s) (ht : s.loop t = .alive) : Inv (Step.next s (.read t)) := by
  obtain ⟨hrest, hg⟩ := h.alive t ht
  obtain ⟨c, hc⟩ := Option.ne_none_iff_exists'.mp hg
  have hact : (s.loop t).Active := by simp [Loop.Active, ht]
  refine h.move hact (by simp) fun wsi hw => ⟨c, ?_, h.live c hc ?_, ?_⟩
  · simpa [hc, eq_comm] using hw
  · simp [hrest]
  · simp [hrest, App.destroys]

theorem Inv.call (h : Inv s) {wsi : Option Nat} (ht : s.loop t = .calling wsi) :
    Inv (Step.next s (.call t)) := by
  have hact : (s.loop t).Active := by simp [Loop.Active, ht]
  have hmove := h.move hact (l := .serving wsi) (by simp) fun w hw => by
    obtain rfl : wsi = w := by simpa using hw
    exact h.holds t wsi (.inl ht)
  simpa only [Step.next, ht] using hmove

theorem Inv.ret (h : Inv s) {wsi : Option Nat} (ht : s.loop t = .serving wsi) :
    Inv (Step.next s (.ret t)) :=
  h.move (by simp [Loop.Active, ht]) (by simp) (by simp)

/-! ### The application thread -/

/-- Where no thread is active there is little to keep. -/
theorem Inv.of_silent (hs : ∀ t, ¬ (s.loop t).Active)
    (hl : ∀ c, s.gWsi = some c → s.app ≠ .failed → c ∈ s.live)
    (hn : ∀ c, s.app = .cleared c ∨ s.app = .destroying c → s.gWsi = none)
    (hu : ∀ t, s.started ≤ t → s.loop t = .unborn) : Inv s where
  live := hl
  null := hn
  alive t ht := absurd (by simp [Loop.Active, ht]) (hs t)
  holds t wsi ht := by
    refine absurd ?_ (hs t)
    rcases ht with ht | ht <;> simp [Loop.Active, ht]
  one t u ht := absurd ht (hs t)
  quiet _ := hs
  unborn := hu

theorem Inv.not_alive (h : Inv s) (hw : ∀ t < s.started, s.loop t ≠ .alive) (t : Nat) :
    s.loop t ≠ .alive := fun ht =>
  hw t (h.lt_started (by simp [Loop.Active, ht])) ht

theorem Inv.clear (h : Inv s) (hw : Waits s .clear) :
    Inv (Step.next s .clear) := by
  have happ : ∀ a : App, a = (match s.gWsi with
      | some ctx => .cleared ctx
      | none => .idle) → a.destroys = none ∧ ¬ a.Starting := by
    rintro a rfl
    cases s.gWsi <;> simp [App.destroys, App.Starting]
  obtain ⟨hd, hns⟩ := happ _ rfl
  refine ⟨fun c hg => absurd hg (by simp [Step.next]), fun _ _ => rfl,
    fun t ht => absurd ht (h.not_alive hw t), fun t wsi ht => ?_, h.one, fun hs => absurd hs hns,
    h.unborn⟩
  obtain ⟨c, hc, hlive, -⟩ := h.holds t wsi ht
  refine ⟨c, hc, hlive, ?_⟩
  simp only [Step.next]
  rw [hd]
  exact (Option.some_ne_none c).symm

theorem Inv.destroy (h : Inv s) {ctx : Nat} (ha : s.app = .cleared ctx) (hw : Waits s .destroy) :
    Inv (Step.next s .destroy) := by
  simp only [Waits, ha] at hw
  have hnull := h.null ctx (.inl ha)
  simp only [Step.next, ha]
  refine ⟨fun c hg => absurd (hnull.symm.trans hg) (by simp), fun _ _ => hnull,
    fun t ht => absurd hnull (h.alive t ht).2, fun t wsi ht => ?_, h.one, fun hs => hs.elim,
    h.unborn⟩
  obtain ⟨c, rfl, hlive, -⟩ := h.holds t wsi ht
  refine ⟨c, rfl, hlive, fun e => ?_⟩
  obtain rfl : ctx = c := Option.some.inj e
  have hact : (s.loop t).Active := by
    change s.loop t = _ ∨ s.loop t = _ at ht
    rcases ht with ht | ht <;> simp [Loop.Active, ht]
  have hlt := h.lt_started hact
  exact ht.elim (hw t hlt).1 (hw t hlt).2

theorem Inv.destroyed (h : Inv s) {ctx : Nat}
    (ha : s.app = .destroying ctx ∨ s.app = .failing ctx) : Inv (Step.next s .destroyed) := by
  rcases ha with ha | ha <;> simp only [Step.next, ha]
  · have hnull := h.null ctx (.inr ha)
    refine ⟨fun c hg => absurd (hnull.symm.trans hg) (by simp), fun _ _ => hnull,
      fun t ht => absurd hnull (h.alive t ht).2, fun t wsi ht => ?_, h.one, fun hs => hs.elim,
      h.unborn⟩
    obtain ⟨c, hc, hlive, hne⟩ := h.holds t wsi ht
    have hcc : c ≠ ctx := fun e => hne (by rw [ha, e]; rfl)
    exact ⟨c, hc, Finset.mem_erase.mpr ⟨hcc, hlive⟩, by simp [App.destroys]⟩
  · exact .of_silent (h.quiet (by rw [ha]; trivial)) (fun _ _ hf => absurd rfl hf)
      (fun c hc => by simp at hc) h.unborn

theorem Inv.create_none (h : Inv s) (hw : Waits s (.create none)) :
    Inv (Step.next s (.create none)) :=
  ⟨fun c hg => absurd hg (by simp [Step.next]), fun _ _ => rfl,
    fun t ht => absurd ht (h.not_alive hw t), h.holds, h.one, h.quiet, h.unborn⟩

theorem Inv.create_some (h : Inv s) {ctx : Nat} (hw : Waits s (.create (some ctx))) :
    Inv (Step.next s (.create (some ctx))) := by
  refine .of_silent (fun t ht => hw t (h.lt_started ht) ht) (fun c hc _ => ?_)
    (fun c hc => ?_) h.unborn
  · obtain rfl : ctx = c := Option.some.inj hc
    exact Finset.mem_insert_self ..
  · simp [Step.next] at hc

theorem Inv.spawn (h : Inv s) {ctx : Nat} (ha : s.app = .created ctx) :
    Inv (Step.next s .spawn) := by
  have hs := h.quiet (by rw [ha]; trivial)
  have hother : ∀ t, ((Step.next s .spawn).loop t).Active → t = s.started := fun t ht => by
    by_contra hne
    change ((s.move s.started .top).loop t).Active at ht
    exact hs t (by rwa [move_other hne] at ht)
  have htop : (Step.next s .spawn).loop s.started = .top := move_self ..
  refine ⟨fun c hc _ => h.live c hc (by simp [ha]), fun c hc => by simp [Step.next] at hc,
    fun t ht => ?_, fun t wsi ht => ?_, fun t u ht hu => ?_, fun hs => hs.elim, fun t hle => ?_⟩
  · rw [hother t (by simp [Loop.Active, ht]), htop] at ht
    exact absurd ht (by simp)
  · have hact : ((Step.next s .spawn).loop t).Active := by
      rcases ht with ht | ht <;> simp [Loop.Active, ht]
    rw [hother t hact, htop] at ht
    exact absurd ht (by simp)
  · rw [hother t ht, hother u hu]
  · have hne : t ≠ s.started := (Nat.lt_of_succ_le hle).ne'
    exact (move_other hne .top).trans (h.unborn t (Nat.le_of_succ_le hle))

theorem Inv.spawnFails (h : Inv s) {ctx : Nat} (ha : s.app = .created ctx) :
    Inv (Step.next s .spawnFails) := by
  simp only [Step.next, ha]
  exact .of_silent (h.quiet (by rw [ha]; trivial)) (fun c hc _ => h.live c hc (by simp [ha]))
    (fun c hc => by simp at hc) h.unborn

theorem Inv.reset (h : Inv s) (ha : s.app = .failed) : Inv (Step.next s .reset) :=
  .of_silent (h.quiet (by rw [ha]; trivial)) (fun c hc => by simp [Step.next] at hc)
    (fun _ _ => rfl) h.unborn

/-! ### Runs -/

/-- **A step at which the application thread waits.** -/
theorem Inv.next (h : Inv s) {e : Step} (he : e.Enabled s) (hw : Waits s e) : Inv (e.next s) := by
  cases e with
  | test t => exact h.test he
  | read t => exact h.read he
  | call t =>
      obtain ⟨wsi, ht⟩ := he
      exact h.call ht
  | ret t =>
      obtain ⟨wsi, ht⟩ := he
      exact h.ret ht
  | clear => exact h.clear hw
  | destroy =>
      obtain ⟨ctx, ha⟩ := he
      exact h.destroy ha hw
  | destroyed =>
      obtain ⟨ctx, ha⟩ := he
      exact h.destroyed ha
  | create ctx =>
      cases ctx with
      | none => exact h.create_none hw
      | some ctx => exact h.create_some hw
  | spawn =>
      obtain ⟨ctx, ha⟩ := he
      exact h.spawn ha
  | spawnFails =>
      obtain ⟨ctx, ha⟩ := he
      exact h.spawnFails ha
  | reset => exact h.reset he

/-! ### Where it does not wait -/

theorem not_safe_null (ht : s.loop t = .serving none) : ¬ Safe s := fun h => by
  obtain ⟨c, hc, -⟩ := h.serves t none ht
  exact Option.some_ne_none c hc.symm

theorem not_safe_destroys {c : Nat} (ht : s.loop t = .serving (some c))
    (ha : s.app.destroys = some c) : ¬ Safe s := fun h => by
  obtain ⟨d, hd, -, hne⟩ := h.serves t (some c) ht
  exact hne (ha.trans hd)

theorem move_move (l l' : Loop) : (s.move t l).move t l' = s.move t l' := by
  simp [Shared.move]

theorem reachable_step {e : Step} (he : e.Enabled s) : services.Reachable s (e.next s) :=
  .step (.refl s) he

theorem reachable_call {wsi : Option Nat} (ht : s.loop t = .calling wsi) :
    services.Reachable s (s.move t (.serving wsi)) := by
  have h : services.Reachable s (Step.next s (.call t)) := reachable_step ⟨wsi, ht⟩
  simpa only [Step.next, ht] using h

/-- A thread that has found `g_wsi` set takes what is there when it reads it again. -/
theorem reachable_alive (ht : s.loop t = .alive) :
    services.Reachable s (s.move t (.serving s.gWsi)) := by
  have hread : services.Reachable s (s.move t (.calling s.gWsi)) :=
    reachable_step (e := .read t) ht
  have hcall := reachable_call (move_self s t (.calling s.gWsi))
  rw [move_move] at hcall
  exact hread.trans hcall

theorem reachable_top (ht : s.loop t = .top) {c : Nat} (hg : s.gWsi = some c) :
    services.Reachable s (s.move t (.serving (some c))) := by
  have htest : services.Reachable s (s.move t .alive) := by
    have h : services.Reachable s (Step.next s (.test t)) := reachable_step ht
    simpa [Step.next, hg] using h
  have halive := reachable_alive (move_self s t .alive)
  rw [move_move] at halive
  exact htest.trans (by simpa [Shared.move, hg] using halive)

/-- A thread that is inside `lws_service` comes back to the head of the loop. -/
theorem reachable_ret {wsi : Option Nat} (ht : s.loop t = .serving wsi) {c : Nat}
    (hg : s.gWsi = some c) : services.Reachable s (s.move t (.serving (some c))) := by
  have hret : services.Reachable s (s.move t .top) := reachable_step (e := .ret t) ⟨wsi, ht⟩
  have htop := reachable_top (move_self s t .top) hg
  rw [move_move] at htop
  exact hret.trans htop

/-- **A thread that is active finds the context of `g_wsi`**, whichever it had before. -/
theorem reachable_serving (ht : (s.loop t).Active) {c : Nat} (hg : s.gWsi = some c) :
    services.Reachable s (s.move t (.serving (some c))) := by
  cases hl : s.loop t with
  | unborn => exact absurd hl ht.1
  | top => exact reachable_top hl hg
  | alive => exact hg ▸ reachable_alive hl
  | calling wsi =>
      have hret := reachable_ret (move_self s t (.serving wsi)) hg
      rw [move_move] at hret
      exact (reachable_call hl).trans hret
  | serving wsi => exact reachable_ret hl hg
  | exited => exact absurd hl ht.2

/-- A thread that has passed its test calls `lws_service` on the null it reads. -/
theorem unsafe_of_alive (hg : s.gWsi = none) (ht : s.loop t = .alive) :
    ∃ s', services.Reachable s s' ∧ ¬ Safe s' := by
  refine ⟨_, reachable_alive ht, not_safe_null (t := t) ?_⟩
  rw [move_self, hg]

/-- A thread that is active finds a context that is created beside it, and so does the thread that
is made for that context. -/
theorem unsafe_of_active (hlt : t < s.started) (ht : (s.loop t).Active) (c : Nat) :
    ∃ s', services.Reachable (Step.next s (.create (some c))) s' ∧ ¬ Safe s' := by
  have hne : t ≠ s.started := Nat.ne_of_lt hlt
  let made := Step.next (Step.next s (.create (some c))) .spawn
  let found := made.move t (.serving (some c))
  have hmade : services.Reachable (Step.next s (.create (some c))) made := reachable_step ⟨c, rfl⟩
  have hold : (made.loop t).Active := by
    rwa [show made.loop t = s.loop t from move_other hne .top]
  have hfound : services.Reachable made found := reachable_serving hold rfl
  have htop : found.loop s.started = .top := (move_other hne.symm _).trans (move_self ..)
  have hnew : services.Reachable found (found.move s.started (.serving (some c))) :=
    reachable_serving (by simp [Loop.Active, htop]) rfl
  refine ⟨_, (hmade.trans hfound).trans hnew, fun hs => hne ?_⟩
  have hserving : (found.move s.started (.serving (some c))).loop t = .serving (some c) :=
    (move_other hne _).trans (move_self ..)
  exact hs.one t s.started c hserving (move_self ..)

/-- **A step at which the application thread does not wait** can be followed by a call of
`lws_service` on no context, on one that is destroyed, or by two threads on one. -/
theorem unsafe_of_not_waits {e : Step} (he : e.Enabled s) (hw : ¬ Waits s e) :
    ∃ s', services.Reachable (e.next s) s' ∧ ¬ Safe s' := by
  cases e with
  | clear =>
      simp only [Waits] at hw
      push Not at hw
      obtain ⟨t, -, ht⟩ := hw
      exact unsafe_of_alive rfl ht
  | destroy =>
      obtain ⟨c, ha⟩ := he
      simp only [Waits, ha] at hw
      push Not at hw
      obtain ⟨t, -, ht⟩ := hw
      simp only [Step.next, ha]
      by_cases hc : s.loop t = .calling (some c)
      · have hcall := reachable_call (s := { s with app := .destroying c }) hc
        exact ⟨_, hcall, not_safe_destroys (move_self _ t _) rfl⟩
      · exact ⟨_, .refl _, not_safe_destroys (ht hc) rfl⟩
  | create ctx =>
      cases ctx with
      | none =>
          simp only [Waits] at hw
          push Not at hw
          obtain ⟨t, -, ht⟩ := hw
          exact unsafe_of_alive rfl ht
      | some c =>
          simp only [Waits] at hw
          push Not at hw
          obtain ⟨t, hlt, ht⟩ := hw
          exact unsafe_of_active hlt ht c
  | _ => exact absurd trivial hw

end

/-- **No dead context is serviced**, in any state of a run in which the application thread waits. -/
theorem safe_of_waits {is : List Step} (hv : services.Valid .boot is)
    (hw : ∀ e ∈ services.trace .boot is, Waits e.pre e.input) :
    ∀ js, js <+: is → Safe (services.final .boot js) :=
  Machine.always_of inv_boot (fun _ h => h.safe) (fun _ _ h he hw => h.next he hw) hv hw

/-- The SDK goes down while the thread is inside `lws_service`, and comes up again when the thread
has come to its end. -/
def waiting : List Step :=
  [.create (some 1), .spawn, .test 0, .read 0, .call 0, .clear, .ret 0, .test 0, .destroy,
   .destroyed, .create (some 2), .spawn, .test 1, .read 1, .call 1]

theorem waiting_safe :
    services.Valid .boot waiting ∧
      ∀ js, js <+: waiting → Safe (services.final .boot js) :=
  ⟨by decide +kernel, safe_of_waits (by decide +kernel) (by decide +kernel)⟩

/-- The context goes between the test and the second read. -/
def torn : List Step := [.create (some 1), .spawn, .test 0, .clear, .read 0, .call 0]

/-- It is destroyed under the thread that is inside `lws_service` on it. -/
def pulled : List Step := [.create (some 1), .spawn, .test 0, .read 0, .call 0, .clear, .destroy]

/-- The thread of the first run finds the context of the second, beside the thread made for it. -/
def doubled : List Step :=
  [.create (some 1), .spawn, .test 0, .read 0, .call 0, .clear, .ret 0, .destroy, .destroyed,
   .create (some 2), .spawn, .test 0, .read 0, .call 0, .test 1, .read 1, .call 1]

/-- `lws_service` is called with `NULL`, a context is destroyed under the thread inside it, and two
threads are inside it on one context. -/
theorem torn_pulled_doubled :
    (services.Valid .boot torn ∧ (services.final .boot torn).loop 0 = .serving none) ∧
    (services.Valid .boot pulled ∧ (services.final .boot pulled).loop 0 = .serving (some 1) ∧
      (services.final .boot pulled).app.destroys = some 1) ∧
    (services.Valid .boot doubled ∧ (services.final .boot doubled).loop 0 = .serving (some 2) ∧
      (services.final .boot doubled).loop 1 = .serving (some 2)) ∧
    ¬ Safe (services.final .boot torn) ∧ ¬ Safe (services.final .boot pulled) ∧
    ¬ Safe (services.final .boot doubled) := by
  have htorn : (services.final .boot torn).loop 0 = .serving none := by decide +kernel
  have hpulled : (services.final .boot pulled).loop 0 = .serving (some 1) ∧
      (services.final .boot pulled).app.destroys = some 1 := by decide +kernel
  have hdoubled : (services.final .boot doubled).loop 0 = .serving (some 2) ∧
      (services.final .boot doubled).loop 1 = .serving (some 2) := by decide +kernel
  refine ⟨⟨by decide +kernel, htorn⟩, ⟨by decide +kernel, hpulled⟩, ⟨by decide +kernel, hdoubled⟩,
    fun h => ?_, fun h => ?_, fun h => ?_⟩
  · obtain ⟨c, hc, -⟩ := h.serves 0 none htorn
    exact Option.some_ne_none c hc.symm
  · obtain ⟨c, hc, -, hne⟩ := h.serves 0 (some 1) hpulled.1
    exact hne (hpulled.2.trans hc)
  · exact absurd (h.one 0 1 2 hdoubled.1 hdoubled.2) (by decide)

/-! ### The two functions -/

/-- The application thread is at rest, and `g_wsi` is that of the module. -/
structure Settled (s : Shared) (st : Signaling.State) : Prop where
  app : s.app = .idle
  gWsi : s.gWsi = st.gWsi

section
variable {s : Shared} {st : Signaling.State}

theorem takes_step {e : Step} (he : e.Enabled s) :
    services.Takes s (e.next s) (e.out s) := Machine.Takes.step he

/-- `signaling_init`. -/
theorem takes_init (h : Settled s st) (port : Int) {ctx : Option Nat}
    (hctx : ∀ c, ctx = some c → c ∉ s.live) (thread : Bool) :
    ∃ s', services.Takes s s' (Signaling.signalingInit port ctx thread st).2.2 ∧
      Settled s' (Signaling.signalingInit port ctx thread st).2.1 := by
  have hcreate := takes_step (e := .create ctx) ⟨h.app, hctx⟩
  cases ctx with
  | none => exact ⟨_, hcreate, ⟨h.app, rfl⟩⟩
  | some c =>
      cases thread with
      | true =>
          have hspawn := takes_step (e := .spawn) (s := Step.next s (.create (some c))) ⟨c, rfl⟩
          exact ⟨_, hcreate.trans hspawn, ⟨rfl, rfl⟩⟩
      | false =>
          -- `pthread_create` fails, the context is destroyed, and `g_wsi` becomes null
          have hfails :=
            takes_step (e := .spawnFails) (s := Step.next s (.create (some c))) ⟨c, rfl⟩
          have hdone := hfails.trans (takes_step (e := .destroyed) ⟨c, .inr rfl⟩)
          have hreset := hdone.trans (takes_step (e := .reset) rfl)
          exact ⟨_, hcreate.trans hreset, ⟨rfl, rfl⟩⟩

/-- `signaling_shutdown`. -/
theorem takes_shutdown (h : Settled s st) :
    ∃ s', services.Takes s s' (Signaling.signalingShutdown st).2 ∧
      Settled s' (Signaling.signalingShutdown st).1 := by
  have hclear := takes_step (e := .clear) h.app
  cases hg : st.gWsi with
  | none =>
      refine ⟨Step.next s .clear, ?_, ⟨?_, rfl⟩⟩
      · simpa [Signaling.signalingShutdown, Step.out, hg] using hclear
      · simp [Step.next, h.gWsi, hg]
  | some c =>
      have happ : (Step.next s .clear).app = .cleared c := by simp [Step.next, h.gWsi, hg]
      have happ' : (Step.next (Step.next s .clear) .destroy).app = .destroying c := by
        simp [Step.next, h.gWsi, hg]
      have hdestroy := hclear.trans (takes_step (e := .destroy) ⟨c, happ⟩)
      have hdone := hdestroy.trans (takes_step (e := .destroyed) ⟨c, .inl happ'⟩)
      refine ⟨Step.next (Step.next (Step.next s .clear) .destroy) .destroyed, ?_, ⟨?_, ?_⟩⟩
      · simpa [Signaling.signalingShutdown, Step.out, hg, happ, happ'] using hdone
      · simp [Step.next, h.gWsi, hg]
      · simp [Step.next, h.gWsi, hg, Signaling.signalingShutdown, Signaling.clearTables]

end

end Nearcade.Context
