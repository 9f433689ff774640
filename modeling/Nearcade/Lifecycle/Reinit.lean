import Nearcade.Input.Controller
import Nearcade.Signaling.Table

/-!
# Lifecycle — Reinit

A second `nearcade_init` while the SDK runs.  `playing` is the SDK with an orchestrator that uses
the slot and device tables while it runs, so that a running instance may have gamepads; captures,
sessions and connections come from the calls and callbacks themselves.

While the SDK runs its three subsystems are up (`Up`, `up_of_reachable`).  `nearcade_init` looks at
none of that.  Where a mutex cannot be made it clears `running` and leaves the subsystems up; else
`input_init` overwrites `kbm_fd`, and the keyboard and mouse device of the running instance stays
behind on a descriptor that nobody has any more (`kbm_lost`).
-/

namespace Nearcade
open Text Runs

/-! ### The SDK and its tables -/

/-- A step of the SDK, or of the tables. -/
inductive PlayStep where
  | sdk (i : Input)
  | table (t : TableStep)

/-- The tables of the SDK. -/
def State.tables (s : State) : Tables := ⟨s.g.slots, s.inp⟩

/-- The SDK with other tables. -/
def State.withTables (s : State) (t : Tables) : State :=
  { s with g := { s.g with slots := t.slots }, inp := t.inp }

/-- **The SDK with its tables in use while it runs.** -/
def playing (ov : Int → Int) : Machine World PlayStep Effect where
  enabled w
    | .sdk i => (system ov).enabled w i
    | .table t => w.sdk.g.running = true ∧ tables.enabled w.sdk.tables t
  next w
    | .sdk i => (system ov).next w i
    | .table t => { w with sdk := w.sdk.withTables (tables.next w.sdk.tables t) }
  out w
    | .sdk i => (system ov).out w i
    | .table t => tables.out w.sdk.tables t

instance (ov : Int → Int) (w : World) : ∀ i : PlayStep, Decidable ((playing ov).enabled w i)
  | .sdk i => inferInstanceAs (Decidable ((system ov).enabled w i))
  | .table t => inferInstanceAs (Decidable (w.sdk.g.running = true ∧ tables.enabled w.sdk.tables t))

/-! ### The law -/

/-- The input, the WebRTC and the signaling subsystem are all up. -/
structure SubsystemsUp (s : State) : Prop where
  input : 0 ≤ s.inp.kbmFd
  webrtc : s.rtc.gInitialized = true
  signaling : s.sig.gWsi ≠ none

/-- A descriptor is recorded in the input backend. -/
def DeviceRecorded (inp : Input.State) (fd : Int) : Prop :=
  0 ≤ fd ∧ (fd = inp.kbmFd ∨ ∃ k, fd = inp.gpFds k)

/-- What a call must leave of the resources held before it: each is recorded still, or was released;
and `running` says whether the subsystems are up. -/
structure OrphansNothing (s : State) (r : State × List Effect) : Prop where
  devices : ∀ fd, DeviceRecorded s.inp fd → DeviceRecorded r.1.inp fd ∨ .close fd ∈ r.2
  child : s.cap.active = true →
    r.1.cap = s.cap ∨ ∃ nohang, .waitpid s.cap.pid nohang ∈ r.2
  context : ∀ ctx, s.sig.gWsi = some ctx →
    r.1.sig.gWsi = some ctx ∨ .lwsContextDestroy ctx ∈ r.2
  running : r.1.g.running = true ↔ SubsystemsUp r.1

/-! ### A running instance -/

/-- What holds while the SDK runs. -/
structure Up (s : State) : Prop extends SubsystemsUp s where
  ledger : Ledger s.inp

section
variable {ov : Int → Int} {s : State}

theorem nearcadeInit_running (config : Option NearcadeConfig) (e : InitEnv) (w : Capture.Waits)
    (s : State) (hr : (nearcadeInit config e w s).2.1.g.running = true) :
    Up (nearcadeInit config e w s).2.1 := by
  have hl := ledger_inputInit e.kbm s.inp
  have hok : (Input.inputInit e.kbm s.inp).1 = .ok →
      0 ≤ (Input.inputInit e.kbm s.inp).2.1.kbmFd := by
    simp only [Input.inputInit, Input.createKbmDevice]
    split
    · simp
    · rename_i h0
      split
      · exact fun _ => Int.not_lt.mp h0
      · simp
  have hsig : (initSignaling config e s).1 = .ok → (initSignaling config e s).2.1.gWsi ≠ none := by
    simp only [initSignaling]
    cases e.ctx with
    | none => simp [Signaling.signalingInit]
    | some c => cases e.thread <;> simp [Signaling.signalingInit]
  revert hr
  rcases nearcadeInit_cases config e w s with
    ⟨-, h⟩ | ⟨-, -, h⟩ | ⟨-, -, -, h⟩ | ⟨-, hi, hs, h⟩ <;> rw [h]
  · exact fun hr => absurd hr Bool.false_ne_true
  · exact fun hr => absurd hr Bool.false_ne_true
  · exact fun hr => absurd hr Bool.false_ne_true
  · exact fun _ => ⟨⟨hok hi, rfl, hsig hs⟩, hl⟩

/-- Allocating and freeing a slot leaves the keyboard and mouse device. -/
theorem kbmFd_allocSlot {inp : Input.State} (h : Ledger inp) {u : Input.Uinput} {slot : UInt8}
    (hu : AllocEnabled inp u slot) (v p ver : UInt16) (name : Option Bytes) :
    (Input.inputAllocSlot u slot v p ver name inp).2.1.kbmFd = inp.kbmFd := by
  have hne : (Input.BackendCall.allocSlot u slot v p ver name).about ≠ some .kbm := by
    simp [Input.BackendCall.about]
  have ho : (Input.BackendCall.allocSlot u slot v p ver name).Operates := trivial
  exact (Input.operate_frame h ho hu hne).fd

theorem kbmFd_freeSlot {inp : Input.State} (h : Ledger inp) (slot : UInt8) :
    (Input.inputFreeSlot slot inp).2.1.kbmFd = inp.kbmFd := by
  have hne : (Input.BackendCall.freeSlot slot).about ≠ some .kbm := by
    simp [Input.BackendCall.about]
  have ho : (Input.BackendCall.freeSlot slot).Operates := trivial
  exact (Input.operate_frame h ho trivial hne).fd

/-- **What a call leaves of a running instance.** -/
theorem up_call (h : s.g.running = true → Up s) (c : Call)
    (hr : (c.run ov s).1.g.running = true) : Up (c.run ov s).1 := by
  by_cases ho : c.Operates
  · obtain ⟨hrun, hrtc, hsig, -⟩ := ho.frame ov s
    have hs := h (hrun.symm.trans hr)
    have hinp : 0 ≤ (c.run ov s).1.inp.kbmFd ∧ Ledger (c.run ov s).1.inp := by
      rcases ho.inp ov s with e | ⟨slot, e⟩ <;> rw [e]
      · exact ⟨hs.input, hs.ledger⟩
      · exact ⟨hs.input.trans_eq (kbmFd_freeSlot hs.ledger slot).symm, hs.ledger.free slot⟩
    exact ⟨⟨hinp.1, hrtc ▸ hs.webrtc, hsig ▸ hs.signaling⟩, hinp.2⟩
  · cases c with
    | init config e w => exact nearcadeInit_running config e w s hr
    | shutdown w =>
        revert hr
        simp only [Call.run, nearcadeShutdown]
        split
        · exact h
        · exact fun hr => absurd hr Bool.false_ne_true
    | _ => exact absurd trivial ho

/-- A callback leaves the context where it is. -/
theorem Net.gWsi (ov : Int → Int) (s : State) (n : Net) :
    (n.run ov s).1.sig.gWsi = s.sig.gWsi := by
  cases n with
  | established wsi uri stack =>
      have hs : (Net.run ov s (.established wsi uri stack)).1.sig =
          (Signaling.established s.sig wsi (Signaling.lwsHdrCopy uri stack)).1 :=
        callViewerCb_sig _ _ _
      rw [hs]
      rcases Signaling.established_cases s.sig wsi (Signaling.lwsHdrCopy uri stack) with
        ⟨-, e⟩ | ⟨-, i, -, -, e⟩ | ⟨-, -, e⟩ <;> rw [e]
  | closed wsi =>
      have hs : (Net.run ov s (.closed wsi)).1.sig = (Signaling.closed s.sig wsi).1 :=
        callViewerCb_sig _ _ _
      rw [hs]
      rcases Signaling.closed_cases s.sig wsi with ⟨-, e⟩ | ⟨-, i, -, e⟩ | ⟨-, -, e⟩ <;> rw [e]
  | stateChange _ _ | receive _ _ _ | localDescription _ _ _ _ | localCandidate _ _ _
  | message _ _ => rfl

theorem Up.net (h : Up s) (n : Net) : Up (n.run ov s).1 := by
  have hinp : (n.run ov s).1.inp = s.inp := (Net.frame s n).2
  refine ⟨⟨?_, ?_, ?_⟩, ?_⟩
  · rw [hinp]
    exact h.input
  · rcases Net.rtc_cases ov s n with e | ⟨i, -, e⟩ | ⟨i, e⟩ | ⟨p, st, -, e⟩ <;> rw [e] <;>
      exact h.webrtc
  · rw [Net.gWsi]
    exact h.signaling
  · rw [hinp]
    exact h.ledger

theorem Up.table (h : Up s) {t : TableStep} (he : tables.enabled s.tables t) :
    Up (s.withTables (tables.next s.tables t)) := by
  cases t with
  | claim _ | release _ => exact ⟨⟨h.input, h.webrtc, h.signaling⟩, h.ledger⟩
  | alloc u slot v p ver name =>
      refine ⟨⟨?_, h.webrtc, h.signaling⟩, h.ledger.alloc he v p ver name⟩
      exact h.input.trans_eq (kbmFd_allocSlot h.ledger he v p ver name).symm
  | free slot =>
      refine ⟨⟨?_, h.webrtc, h.signaling⟩, h.ledger.free slot⟩
      exact h.input.trans_eq (kbmFd_freeSlot h.ledger slot).symm

end

/-- While the SDK runs its subsystems are up. -/
theorem up_of_reachable {ov : Int → Int} {w : World} (h : (playing ov).Reachable .boot w)
    (hr : w.sdk.g.running = true) : Up w.sdk := by
  refine h.of_invariant (I := fun w => w.sdk.g.running = true → Up w.sdk) nofun ?_ hr
  intro w i hi he hr
  cases i with
  | table t => exact (hi he.1).table he.2
  | sdk i =>
      cases i with
      | call c => exact up_call hi c hr
      | net n =>
          have hg : (n.run ov w.sdk).1.g = w.sdk.g := (Net.frame w.sdk n).1
          exact (hi ((congrArg NearcadeState.running hg).symm.trans hr)).net n

/-! ### A second `nearcade_init` -/

/-- `input_init` records the descriptor it opened, and no other. -/
theorem eq_of_recorded_init {u : Input.Uinput} {st : Input.State} {fd : Int}
    (h : DeviceRecorded (Input.inputInit u st).2.1 fd) : fd = u.fd := by
  obtain ⟨h0, hk | ⟨k, hk⟩⟩ := h
  · revert hk
    simp only [Input.inputInit, Input.createKbmDevice]
    split
    · exact id
    · split
      · exact id
      · rintro rfl
        exact absurd h0 (Int.not_le.mpr (Int.negSucc_lt_zero 0))
  · exact absurd (noDevice_inputInit u st k) (Int.not_lt.mpr (hk ▸ h0))

theorem eq_of_close_init {u : Input.Uinput} {st : Input.State} {fd : Int}
    (h : .close fd ∈ (Input.inputInit u st).2.2) : fd = u.fd := by
  simp only [Input.inputInit, Input.createKbmDevice] at h
  split at h
  · exact absurd h List.not_mem_nil
  · split at h
    · simp at h
    · simpa using h

/-- Without gamepads `input_shutdown` closes the keyboard and mouse device, and no other. -/
theorem recorded_of_close_shutdown {st : Input.State} (hn : NoDevice st) {fd : Int}
    (h : .close fd ∈ (Input.inputShutdown st).2) : DeviceRecorded st fd := by
  simp only [Input.inputShutdown, hn.shutdownSlots] at h
  split at h
  · rename_i h0
    have e : fd = st.kbmFd := by simpa using h
    exact e ▸ ⟨h0, .inl rfl⟩
  · exact absurd h List.not_mem_nil

/-- The keyboard and mouse device of the running instance is neither recorded nor closed. -/
theorem kbm_lost {s : State} {e : InitEnv} (h : Up s) (he : e.kbm.Fresh s.inp)
    (hl : e.viewerLock = true ∧ e.slotsLock = true) (config : Option NearcadeConfig)
    (w : Capture.Waits) :
    ¬ DeviceRecorded (nearcadeInit config e w s).2.1.inp s.inp.kbmFd ∧
      .close s.inp.kbmFd ∉ (nearcadeInit config e w s).2.2 := by
  -- it is open, so it is not the new one
  have hne : s.inp.kbmFd ≠ e.kbm.fd := fun hk =>
    he (hk ▸ h.input) (hk ▸ h.ledger.kbm h.input)
  have hrec : ¬ DeviceRecorded (Input.inputInit e.kbm s.inp).2.1 s.inp.kbmFd := fun hr =>
    hne (eq_of_recorded_init hr)
  have hclose : .close s.inp.kbmFd ∉ (Input.inputInit e.kbm s.inp).2.2 := fun hc =>
    hne (eq_of_close_init hc)
  have hother : ∀ {ks : List Kind} {fx : List Effect}, Within ks fx → .device ∉ ks →
      .close s.inp.kbmFd ∉ fx := fun hw hk hc => hk (hw _ hc)
  have hsig : .close s.inp.kbmFd ∉ (initSignaling config e s).2.2 :=
    hother Signaling.within_init (by simp)
  rcases nearcadeInit_cases config e w s with
    ⟨hl', -⟩ | ⟨-, -, hr⟩ | ⟨-, -, -, hr⟩ | ⟨-, -, -, hr⟩
  · simp [hl] at hl'
  · rw [hr]
    exact ⟨hrec, hclose⟩
  · rw [hr]
    have hn := noDevice_inputInit e.kbm s.inp
    refine ⟨fun hr => ?_, ?_⟩
    · obtain ⟨h0, hk | ⟨k, hk⟩⟩ := hr
      · exact absurd (Input.idle_inputShutdown _).1 (Int.not_lt.mpr (hk ▸ h0))
      · exact absurd ((Input.idle_inputShutdown _).2 k) (Int.not_lt.mpr (hk ▸ h0))
    · simp only [List.mem_append, not_or]
      exact ⟨⟨hclose, hsig⟩, fun hc => hrec (recorded_of_close_shutdown hn hc)⟩
  · rw [hr]
    refine ⟨hrec, ?_⟩
    simp only [List.mem_append, not_or]
    exact ⟨hclose, hsig⟩

/-- **A second `nearcade_init` orphans something.** -/
theorem reinit_orphans {ov : Int → Int} {w : World} (hw : (playing ov).Reachable .boot w)
    (hr : w.sdk.g.running = true) (config : Option NearcadeConfig) (e : InitEnv)
    (waits : Capture.Waits) (he : (playing ov).enabled w (.sdk (.call (.init config e waits)))) :
    ¬ OrphansNothing w.sdk (nearcadeInit config e waits w.sdk).2 := by
  have h := up_of_reachable hw hr
  intro ho
  rcases e.locks with hl | hl
  · -- `running` is cleared, and nothing is taken down
    have hn : nearcadeInit config e waits w.sdk = (.errInit, { w.sdk with
        g := { NearcadeState.zero with config := normaliseConfig config } }, []) := if_pos hl
    rw [hn] at ho
    exact Bool.false_ne_true (ho.running.mpr ⟨h.input, h.webrtc, h.signaling⟩)
  · obtain ⟨hrec, hclose⟩ := kbm_lost h he hl config waits
    exact (ho.devices w.sdk.inp.kbmFd ⟨h.input, .inl rfl⟩).elim hrec hclose

/-- An environment in which nothing fails, and `open` returns another descriptor. -/
def InitEnv.again : InitEnv := { InitEnv.good with kbm := ⟨4, true, true⟩, ctx := some 2 }

/-- The SDK is started, and started again. -/
theorem reinit_orphans_first :
    (playing id).enabled .first (.sdk (.call (.init none .again ⟨0, 0⟩))) ∧
      ¬ OrphansNothing World.first.sdk (nearcadeInit none .again ⟨0, 0⟩ World.first.sdk).2 := by
  have hr : (playing id).Reachable .boot .first :=
    ⟨[.sdk (.call (.init none .good ⟨0, 0⟩))], by decide +kernel, rfl⟩
  have he : (playing id).enabled .first (.sdk (.call (.init none .again ⟨0, 0⟩))) := by
    decide +kernel
  exact ⟨he, reinit_orphans hr (by decide +kernel) _ _ _ he⟩

/-- A capture is started, and the SDK is started again: the FFmpeg process is forgotten. -/
theorem reinit_forgets_capture :
    let run := [.call (.init none .good ⟨0, 0⟩), .call (.startCapture 42)]
    let s := ((system id).final .boot run).sdk
    (system id).Valid .boot run ∧ s.g.running = true ∧ InitEnv.again.kbm.Fresh s.inp ∧
      ¬ OrphansNothing s (nearcadeInit none .again ⟨0, 0⟩ s).2 := by
  refine ⟨by decide +kernel, by decide +kernel, by decide +kernel, fun h => ?_⟩
  rcases h.child (by decide +kernel) with hc | ⟨nohang, hw⟩
  · exact absurd hc (by decide +kernel)
  · cases nohang with
    | true => exact absurd hw (by decide +kernel)
    | false => exact absurd hw (by decide +kernel)

end Nearcade
