import Mathlib.Data.List.Nodup
import Mathlib.Logic.Function.Basic
import Mathlib.Tactic.Common

/-!
# Support — Evdev

An event device: controls take values one after the other, and a report shows those written so far.

* `writeAll_of_mem`, `writeAll_of_notMem`: what a list of values for different controls writes.
* `writeAll_congr`, `writeAll_const`: when two lists of values write the same.
* `Device.frame_settled`: values and then a report, on a device that shows all that was written,
  leave a device that does.
* `Pointer.report_foldl_add`: the same for motion, which adds up.
-/

namespace Evdev

universe u v

/-- The values written, and the ones shown by the last report. -/
@[ext] structure Device (κ : Type u) (ν : Type v) where
  written : κ → ν
  shown : κ → ν

section
variable {κ : Type u} {ν : Type v} [DecidableEq κ]

/-- A device that shows all that was written. -/
def Device.settled (f : κ → ν) : Device κ ν := ⟨f, f⟩

/-- A control takes a value. -/
def Device.set (d : Device κ ν) (c : κ) (v : ν) : Device κ ν :=
  { d with written := Function.update d.written c v }

/-- The report. -/
def Device.report (d : Device κ ν) : Device κ ν := .settled d.written

/-- Values, one after the other. -/
def writeAll (f : κ → ν) : List (κ × ν) → κ → ν
  | [] => f
  | (c, v) :: ws => writeAll (Function.update f c v) ws

theorem writeAll_of_notMem {c : κ} {ws : List (κ × ν)} (h : c ∉ ws.map Prod.fst) (f : κ → ν) :
    writeAll f ws c = f c := by
  induction ws generalizing f with
  | nil => rfl
  | cons w ws ih =>
      obtain ⟨hc, hws⟩ := not_or.mp (List.mem_cons.not.mp h)
      rw [writeAll, ih hws, Function.update_of_ne hc]

theorem writeAll_of_mem {c : κ} {v : ν} {ws : List (κ × ν)} (hn : (ws.map Prod.fst).Nodup)
    (h : (c, v) ∈ ws) (f : κ → ν) : writeAll f ws c = v := by
  induction ws generalizing f with
  | nil => exact absurd h List.not_mem_nil
  | cons w ws ih =>
      obtain ⟨hw, hn⟩ := List.nodup_cons.mp hn
      rcases List.mem_cons.mp h with rfl | h
      · -- no later value for the control
        rw [writeAll, writeAll_of_notMem hw, Function.update_self]
      · exact ih hn h _

/-- What was there matters only to the controls that are not written. -/
theorem writeAll_congr {f g : κ → ν} {ws : List (κ × ν)}
    (h : ∀ c, c ∉ ws.map Prod.fst → f c = g c) : writeAll f ws = writeAll g ws := by
  funext c
  induction ws generalizing f g with
  | nil => exact h c List.not_mem_nil
  | cons w ws ih =>
      refine ih fun c' hc' => ?_
      by_cases e : c' = w.1
      · rw [e, Function.update_self, Function.update_self]
      · rw [Function.update_of_ne e, Function.update_of_ne e]
        exact h c' (List.mem_cons.not.mpr (not_or.mpr ⟨e, hc'⟩))

/-- One value for every control of a list. -/
theorem writeAll_const {v : ν} {ws : List (κ × ν)} (h : ∀ w ∈ ws, w.2 = v) {c : κ}
    (hc : c ∈ ws.map Prod.fst) (f : κ → ν) : writeAll f ws c = v := by
  induction ws generalizing f with
  | nil => exact absurd hc List.not_mem_nil
  | cons w ws ih =>
      have hws : ∀ w' ∈ ws, w'.2 = v := fun w' hw' => h w' (List.mem_cons_of_mem _ hw')
      by_cases hl : c ∈ ws.map Prod.fst
      · exact ih hws hl _
      · have e : c = w.1 := (List.mem_cons.mp hc).resolve_right hl
        rw [writeAll, writeAll_of_notMem hl, e, Function.update_self]
        exact h w (List.mem_cons_self ..)

/-- Values, and then a report. -/
def Device.frame (d : Device κ ν) (ws : List (κ × ν)) : Device κ ν :=
  .settled (writeAll d.written ws)

theorem Device.report_foldl_set (d : Device κ ν) (ws : List (κ × ν)) :
    (ws.foldl (fun d w => d.set w.1 w.2) d).report = d.frame ws := by
  induction ws generalizing d with
  | nil => rfl
  | cons w ws ih => exact ih (d.set w.1 w.2)

theorem Device.frame_settled (f : κ → ν) (ws : List (κ × ν)) :
    (Device.settled f).frame ws = .settled (writeAll f ws) := rfl

end

/-! ### Motion -/

/-- How far the axes have moved since the last report, and up to it. -/
@[ext] structure Pointer (κ : Type u) where
  pending : κ → Int
  moved : κ → Int

section
variable {κ : Type u}

/-- A pointer whose motion has all been reported. -/
def Pointer.rest (f : κ → Int) : Pointer κ := ⟨fun _ => 0, f⟩

/-- What was added since the last report counts. -/
def Pointer.report (p : Pointer κ) : Pointer κ := .rest fun c => p.moved c + p.pending c

/-- There is nothing new to report. -/
theorem Pointer.report_rest (f : κ → Int) : (Pointer.rest f).report = .rest f := by
  simp [Pointer.report, Pointer.rest]

variable [DecidableEq κ]

/-- An axis moves. -/
def Pointer.add (p : Pointer κ) (c : κ) (v : Int) : Pointer κ :=
  { p with pending := Function.update p.pending c (p.pending c + v) }

/-- Moves, one after the other. -/
def addAll (f : κ → Int) : List (κ × Int) → κ → Int
  | [] => f
  | (c, v) :: ws => addAll (Function.update f c (f c + v)) ws

theorem Pointer.report_foldl_add (p : Pointer κ) (ws : List (κ × Int)) :
    (ws.foldl (fun p w => p.add w.1 w.2) p).report =
      .rest (addAll (fun c => p.moved c + p.pending c) ws) := by
  induction ws generalizing p with
  | nil => rfl
  | cons w ws ih =>
      have hw : (fun c => (p.add w.1 w.2).moved c + (p.add w.1 w.2).pending c) =
          Function.update (fun c => p.moved c + p.pending c) w.1
            (p.moved w.1 + p.pending w.1 + w.2) := by
        funext c
        by_cases e : c = w.1
        · rw [e, Function.update_self]
          simp only [Pointer.add, Function.update_self, Int.add_assoc]
        · rw [Function.update_of_ne e]
          simp only [Pointer.add, Function.update_of_ne e]
      rw [List.foldl_cons, ih, hw]
      rfl

end

end Evdev
