import Nearcade.Input.Controller

/-!
# Input — Keyboard

What the virtual keyboard and mouse shows.  A key is at the value `nearcade_submit_kbm` gave it
last, and the pointer is where its motions add up to; nothing else the backend does moves either.

* `typed`, `moved`: what a list of operations types and how far it moves the pointer, since the
  device was made.
* `Rig.Desk.next`: one operation.
* `desk_run`: every run.
-/

namespace Nearcade.Input
open Text Runs Evdev

/-! ### Pointers -/

/-- The pointers, by descriptor. -/
abbrev Pointers := Int → Option (Pointer UInt16)

/-- A pointer takes an event. -/
def track (p : Pointer UInt16) (type code : UInt16) (val : Int) : Pointer UInt16 :=
  if type = evSyn ∧ code = synReport then p.report
  else if type = evRel then p.add code val
  else p

/-- What an effect does to the pointers. -/
def Pointers.apply (ps : Pointers) : Effect → Pointers
  | .uinputCreate fd _ => Function.update ps fd (some (.rest fun _ => 0))
  | .inputEvent fd type code val =>
      Function.update ps fd ((ps fd).map fun p => track p type code val)
  | .uinputDestroy fd | .close fd => Function.update ps fd none
  | _ => ps

/-- Effects, one after the other. -/
def Pointers.applyAll (ps : Pointers) (fx : List Effect) : Pointers := fx.foldl Pointers.apply ps

theorem Pointers.applyAll_append (ps : Pointers) (fx fx' : List Effect) :
    ps.applyAll (fx ++ fx') = (ps.applyAll fx).applyAll fx' := List.foldl_append

/-- Effects for other descriptors. -/
theorem Pointers.applyAll_of_ne {ps : Pointers} {fx : List Effect} {fd : Int}
    (h : ∀ e ∈ fx, descriptor e ≠ some fd) : ps.applyAll fx fd = ps fd := by
  induction fx generalizing ps with
  | nil => rfl
  | cons e fx ih =>
      have hrest : (ps.apply e).applyAll fx fd = ps.apply e fd :=
        ih fun e' he' => h e' (List.mem_cons_of_mem _ he')
      have he := h e (List.mem_cons_self ..)
      refine hrest.trans ?_
      cases e with
      | uinputCreate fd' _ | inputEvent fd' _ _ _ | uinputDestroy fd' | close fd' =>
          exact Function.update_of_ne (fun e => he (by rw [e]; rfl)) _ _
      | _ => rfl

/-! ### What is typed -/

/-- The keys an operation sets. -/
def BackendCall.keys : BackendCall → List (Control × Int)
  | .submitKbm _ ev key _ _ =>
      if (ev = bytes "keydown" ∨ ev = bytes "keyup") ∧ 0 < keyNameToCode key then
        [((evKey, keyNameToCode key), if ev = bytes "keydown" then 1 else 0)]
      else []
  | _ => []

/-- The motions of an operation. -/
def BackendCall.motions : BackendCall → List (UInt16 × Int)
  | .submitKbm _ ev _ dx dy => if ev = bytes "mousemove" then [(relX, dx), (relY, dy)] else []
  | _ => []

/-- What an operation leaves of the keys. -/
def BackendCall.type (f : Control → Int) : BackendCall → Control → Int
  | .init _ => neutral
  | c => writeAll f c.keys

/-- What an operation leaves of the position. -/
def BackendCall.move (f : UInt16 → Int) : BackendCall → UInt16 → Int
  | .init _ => fun _ => 0
  | c => addAll f c.motions

/-- The keys, as the operations since the last `input_init` set them. -/
def typed (cs : List BackendCall) : Control → Int := cs.foldl BackendCall.type neutral

/-- The position, as the operations since the last `input_init` moved it. -/
def moved (cs : List BackendCall) : UInt16 → Int := cs.foldl BackendCall.move fun _ => 0

theorem typed_concat (cs : List BackendCall) (c : BackendCall) :
    typed (cs ++ [c]) = c.type (typed cs) := List.foldl_concat ..

theorem moved_concat (cs : List BackendCall) (c : BackendCall) :
    moved (cs ++ [c]) = c.move (moved cs) := List.foldl_concat ..

/-- What is about no device of its own, and what is about another, types nothing. -/
theorem BackendCall.idle {c : BackendCall} (h : c.about ≠ some .kbm) (ho : c.Operates)
    (f : Control → Int) (g : UInt16 → Int) : c.type f = f ∧ c.move g = g := by
  cases c with
  | init _ | shutdown => exact ho.elim
  | submitKbm _ _ _ _ _ => exact absurd rfl h
  | _ => exact ⟨rfl, rfl⟩

/-! ### The device -/

/-- The keyboard and mouse device shows what was typed, and its pointer is where it was moved. -/
structure Rig.Desk (r : Rig) (ps : Pointers) (cs : List BackendCall) : Prop where
  ledger : Ledger r.st
  keys : 0 ≤ r.st.kbmFd → r.devs r.st.kbmFd = some (.settled (typed cs))
  pointer : 0 ≤ r.st.kbmFd → ps r.st.kbmFd = some (.rest (moved cs))

/-- `input_init` makes a new device, or none. -/
theorem desk_inputInit (u : Uinput) (st : State) (devs : Devices) (ps : Pointers)
    (h0 : 0 ≤ (inputInit u st).2.1.kbmFd) :
    devs.applyAll (inputInit u st).2.2 (inputInit u st).2.1.kbmFd = some (.settled neutral) ∧
      ps.applyAll (inputInit u st).2.2 (inputInit u st).2.1.kbmFd =
        some (.rest fun _ => 0) := by
  revert h0
  simp only [inputInit, createKbmDevice]
  split
  · rename_i hu
    exact fun h0 => absurd hu (Int.not_lt.mpr h0)
  · split
    · intro _
      simp [Devices.applyAll, Devices.apply, Pointers.applyAll, Pointers.apply]
    · exact fun h0 => absurd h0 (Int.not_le.mpr (Int.negSucc_lt_zero 0))

theorem desk_started (u : Uinput) (st : State) (devs : Devices) (ps : Pointers) :
    (Rig.started u st devs).Desk (ps.applyAll (inputInit u st).2.2) [] :=
  ⟨ledger_inputInit u st, fun h0 => (desk_inputInit u st devs ps h0).1,
    fun h0 => (desk_inputInit u st devs ps h0).2⟩

/-- The events of `input_submit_kbm`, with their report. -/
def kbmWrites (ev : Bytes) (key : Option Bytes) (dx dy : Int) : List (UInt16 × UInt16 × Int) :=
  if ev = bytes "mousemove" then
    [(evRel, relX, dx), (evRel, relY, dy), (evSyn, synReport, 0)]
  else if (ev = bytes "keydown" ∨ ev = bytes "keyup") ∧ 0 < keyNameToCode key then
    [(evKey, keyNameToCode key, if ev = bytes "keydown" then 1 else 0), (evSyn, synReport, 0)]
  else []

theorem inputSubmitKbm_writes {st : State} (h0 : 0 ≤ st.kbmFd) (vid ev : Bytes)
    (key : Option Bytes) (dx dy : Int) :
    (inputSubmitKbm st vid ev key dx dy).2 = emitAll st.kbmFd (kbmWrites ev key dx dy) := by
  have hsyn : syn st.kbmFd = emit st.kbmFd evSyn synReport 0 := if_pos h0
  simp only [inputSubmitKbm, kbmWrites, if_neg (Int.not_lt.mpr h0), hsyn]
  split
  · simp only [emitAll, List.flatMap_cons, List.flatMap_nil, List.append_nil, List.append_assoc]
  · by_cases hk : ev = bytes "keydown" ∨ ev = bytes "keyup"
    · by_cases hc : 0 < keyNameToCode key
      · have hkc : (ev = bytes "keydown" ∨ ev = bytes "keyup") ∧ 0 < keyNameToCode key := ⟨hk, hc⟩
        rw [if_pos hk, if_pos hc, if_pos hkc]
        simp only [emitAll, List.flatMap_cons, List.flatMap_nil, List.append_nil]
      · rw [if_pos hk, if_neg hc, if_neg fun h => hc h.2]
        rfl
    · rw [if_neg hk, if_neg fun h => hk h.1]
      rfl

/-- Events for a descriptor, on its device. -/
theorem applyAll_feed {fd : Int} (h0 : 0 ≤ fd) (ws : List (UInt16 × UInt16 × Int))
    (devs : Devices) : devs.applyAll (emitAll fd ws) fd =
      (devs fd).map fun d => ws.foldl (fun d w => feed d w.1 w.2.1 w.2.2) d := by
  induction ws generalizing devs with
  | nil => simp [emitAll, Devices.applyAll]
  | cons w ws ih =>
      obtain ⟨type, code, val⟩ := w
      have hone : emitAll fd ((type, code, val) :: ws) =
          [.inputEvent fd type code val] ++ emitAll fd ws := by
        simp only [emitAll, List.flatMap_cons, emit, if_neg (Int.not_lt.mpr h0)]
      rw [hone, applyAll_append, ih]
      simp only [Devices.applyAll, List.foldl_cons, List.foldl_nil, Devices.apply,
        Function.update_self, Option.map_map]
      rfl

/-- Events for a descriptor, on its pointer. -/
theorem applyAll_track {fd : Int} (h0 : 0 ≤ fd) (ws : List (UInt16 × UInt16 × Int))
    (ps : Pointers) : ps.applyAll (emitAll fd ws) fd =
      (ps fd).map fun p => ws.foldl (fun p w => track p w.1 w.2.1 w.2.2) p := by
  induction ws generalizing ps with
  | nil => simp [emitAll, Pointers.applyAll]
  | cons w ws ih =>
      obtain ⟨type, code, val⟩ := w
      have hone : emitAll fd ((type, code, val) :: ws) =
          [.inputEvent fd type code val] ++ emitAll fd ws := by
        simp only [emitAll, List.flatMap_cons, emit, if_neg (Int.not_lt.mpr h0)]
      rw [hone, Pointers.applyAll_append, ih]
      simp only [Pointers.applyAll, List.foldl_cons, List.foldl_nil, Pointers.apply,
        Function.update_self, Option.map_map]
      rfl

/-- The three kinds of event. -/
theorem feed_report (d : Device Control Int) : feed d evSyn synReport 0 = d.report :=
  if_pos ⟨rfl, rfl⟩

theorem feed_rel (d : Device Control Int) (code : UInt16) (val : Int) :
    feed d evRel code val = d := by
  rw [feed, if_neg (by simp [evRel, evSyn]), if_neg (by simp [evRel, evKey, evAbs])]

theorem feed_key (d : Device Control Int) (code : UInt16) (val : Int) :
    feed d evKey code val = d.set (evKey, code) val := by
  rw [feed, if_neg (by simp [evKey, evSyn]), if_pos (.inl rfl)]

theorem track_report (p : Pointer UInt16) : track p evSyn synReport 0 = p.report :=
  if_pos ⟨rfl, rfl⟩

theorem track_rel (p : Pointer UInt16) (code : UInt16) (val : Int) :
    track p evRel code val = p.add code val := by
  rw [track, if_neg (by simp [evRel, evSyn]), if_pos rfl]

theorem track_key (p : Pointer UInt16) (code : UInt16) (val : Int) :
    track p evKey code val = p := by
  rw [track, if_neg (by simp [evKey, evSyn]), if_neg (by simp [evKey, evRel])]

/-- No event name is two. -/
theorem mousemove_ne {ev : Bytes} (h : ev = bytes "mousemove") :
    ¬ (ev = bytes "keydown" ∨ ev = bytes "keyup") := by
  rw [h]
  decide

/-- **`input_submit_kbm`.** -/
theorem desk_submitKbm {st : State} (h0 : 0 ≤ st.kbmFd) (vid ev : Bytes) (key : Option Bytes)
    (dx dy : Int) {devs : Devices} {ps : Pointers} {f : Control → Int} {g : UInt16 → Int}
    (hd : devs st.kbmFd = some (.settled f)) (hp : ps st.kbmFd = some (.rest g)) :
    devs.applyAll (inputSubmitKbm st vid ev key dx dy).2 st.kbmFd =
        some (.settled ((BackendCall.submitKbm vid ev key dx dy).type f)) ∧
      ps.applyAll (inputSubmitKbm st vid ev key dx dy).2 st.kbmFd =
        some (.rest ((BackendCall.submitKbm vid ev key dx dy).move g)) := by
  rw [inputSubmitKbm_writes h0, applyAll_feed h0, applyAll_track h0, hd, hp, kbmWrites]
  simp only [BackendCall.type, BackendCall.move, BackendCall.keys, BackendCall.motions,
    Option.map_some]
  by_cases hm : ev = bytes "mousemove"
  · -- motion is all in the pointer
    have hk : ¬ ((ev = bytes "keydown" ∨ ev = bytes "keyup") ∧ 0 < keyNameToCode key) := fun h =>
      mousemove_ne hm h.1
    simp only [if_pos hm, if_neg hk, List.foldl_cons, List.foldl_nil, feed_rel, feed_report,
      track_rel, track_report]
    refine ⟨rfl, congrArg some ?_⟩
    refine (Pointer.report_foldl_add (.rest g) [(relX, dx), (relY, dy)]).trans ?_
    simp [Pointer.rest]
  · by_cases hk : (ev = bytes "keydown" ∨ ev = bytes "keyup") ∧ 0 < keyNameToCode key
    · -- a key is all in the device
      simp only [if_neg hm, if_pos hk, List.foldl_cons, List.foldl_nil, feed_key, feed_report,
        track_key, track_report]
      exact ⟨rfl, congrArg some (Pointer.report_rest g)⟩
    · simp only [if_neg hm, if_neg hk, List.foldl_nil]
      exact ⟨rfl, rfl⟩

/-- **One operation.** -/
theorem Rig.Desk.next {r : Rig} {ps : Pointers} {cs : List BackendCall} (h : r.Desk ps cs)
    {c : BackendCall} (he : c.Enabled r.st) :
    (rig.next r c).Desk (ps.applyAll (rig.out r c)) (cs ++ [c]) := by
  have hl : Ledger (rig.next r c).st := (follows_run h.ledger he).ledger
  suffices hs : 0 ≤ (c.run r.st).1.kbmFd →
      r.devs.applyAll (c.run r.st).2 (c.run r.st).1.kbmFd = some (.settled (c.type (typed cs))) ∧
        ps.applyAll (c.run r.st).2 (c.run r.st).1.kbmFd = some (.rest (c.move (moved cs))) by
    refine ⟨hl, fun h0 => ?_, fun h0 => ?_⟩
    · rw [typed_concat]
      exact (hs h0).1
    · rw [moved_concat]
      exact (hs h0).2
  intro h0
  by_cases ho : c.Operates
  · by_cases hc : c.about = some .kbm
    · cases c with
      | submitKbm vid ev key dx dy =>
          exact desk_submitKbm h0 vid ev key dx dy (h.keys h0) (h.pointer h0)
      | init _ | shutdown => exact ho.elim
      | allocSlot _ _ _ _ _ _ | freeSlot _ | flushSlot _ | submitGamepad _ =>
          obtain ⟨k, -, e⟩ := Option.map_eq_some_iff.mp hc
          cases e
    · -- another device's operation leaves this one as it is
      have hf := operate_frame h.ledger ho he hc
      have hfd : (c.run r.st).1.kbmFd = r.st.kbmFd := hf.fd
      rw [hfd] at h0 ⊢
      obtain ⟨ht, hm⟩ := BackendCall.idle hc ho (typed cs) (moved cs)
      have hd : r.devs.applyAll (c.run r.st).2 r.st.kbmFd = r.devs r.st.kbmFd :=
        applyAll_of_ne (hf.effects h0)
      have hp : ps.applyAll (c.run r.st).2 r.st.kbmFd = ps r.st.kbmFd :=
        Pointers.applyAll_of_ne (hf.effects h0)
      rw [ht, hm, hd, hp]
      exact ⟨h.keys h0, h.pointer h0⟩
  · cases c with
    | init u => exact desk_inputInit u r.st r.devs ps h0
    | shutdown => exact absurd (idle_inputShutdown r.st).1 (Int.not_lt.mpr h0)
    | _ => exact absurd trivial ho

theorem desk_run (u : Uinput) (st : State) (devs : Devices) (ps : Pointers) {cs : List BackendCall}
    (hv : rig.Valid (.started u st devs) cs) :
    (rig.final (.started u st devs) cs).Desk
      (ps.applyAll ((inputInit u st).2.2 ++ outputs (rig.trace (.started u st devs) cs))) cs := by
  have h := Machine.run_induction (M := rig)
    (P := fun t r => r.Desk (ps.applyAll ((inputInit u st).2.2 ++ outputs t)) (t.map Entry.input))
    (by simpa [outputs] using desk_started u st devs ps)
    (fun t r c h he => by
      rw [List.map_append, outputs_append, ← List.append_assoc, Pointers.applyAll_append]
      simpa [outputs] using h.next he) hv
  rwa [Machine.map_input_trace] at h

end Nearcade.Input
