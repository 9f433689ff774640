import Nearcade.Lifecycle.Reinit

/-!
# Input — Ranges

`input_alloc_slot` declares a range for each axis of the device it creates, and
`input_submit_gamepad` writes the fields of a packet to the axes as they are.  No function between
the network and the device looks at a value, and two kinds of field hold more than was declared.

* `Tracks`: the kernel has the devices that the backend says, and those on slots declare the axes of
  a gamepad.
* `Tracks.next`: every step of the SDK and its tables keeps that.
* `holds_gamepadWrites_iff`: the packets whose values are in the ranges.
* `ranged_iff`: so all that is written is, just when only such packets reach a device.
-/

namespace Nearcade
open Text Runs

/-! ### What is declared -/

/-- The devices the kernel has, by descriptor, as they were described. -/
abbrev Declared := Int → Option UinputUserDev

/-- What an effect does to them. -/
def Declared.apply (D : Declared) : Effect → Declared
  | .uinputCreate fd dev => Function.update D fd (some dev)
  | .uinputDestroy fd | .close fd => Function.update D fd none
  | _ => D

/-- Effects, one after the other. -/
def Declared.applyAll (D : Declared) (fx : List Effect) : Declared := fx.foldl Declared.apply D

/-- Some axis of a list has the code, and the value is in its range. -/
def AxesHold (axes : List AbsAxis) (code : UInt16) (val : Int) : Prop :=
  ∃ a ∈ axes, a.axis = code ∧ a.absmin ≤ val ∧ val ≤ a.absmax

/-- An EV_ABS event for a device has a value that the device declared. -/
def InRange (D : Declared) : Effect → Prop
  | .inputEvent fd type code val =>
      type = Input.evAbs → ∀ dev ∈ D fd, AxesHold dev.abs code val
  | _ => True

/-- So has every event of a list of effects, which may create and destroy devices. -/
def Ranged : Declared → List Effect → Prop
  | _, [] => True
  | D, e :: fx => InRange D e ∧ Ranged (D.apply e) fx

instance (axes : List AbsAxis) (code : UInt16) (val : Int) : Decidable (AxesHold axes code val) :=
  inferInstanceAs (Decidable (∃ a ∈ axes, _))

instance (D : Declared) : ∀ e : Effect, Decidable (InRange D e)
  | .inputEvent fd type code val =>
      inferInstanceAs (Decidable (type = Input.evAbs → ∀ dev ∈ D fd, AxesHold dev.abs code val))
  | .event .. | .uinputOpen _ | .uinputCreate .. | .uinputDestroy _ | .close _ | .fork _ | .kill ..
  | .waitpid .. | .lwsWrite .. | .lwsCreateContext _ | .lwsContextDestroy _ | .trackSend ..
  | .rtc _ => isTrue trivial

instance decidableRanged : ∀ (D : Declared) (fx : List Effect), Decidable (Ranged D fx)
  | _, [] => isTrue trivial
  | D, e :: fx =>
      have := decidableRanged (D.apply e) fx
      inferInstanceAs (Decidable (InRange D e ∧ Ranged (D.apply e) fx))

theorem declared_append (D : Declared) (fx fx' : List Effect) :
    D.applyAll (fx ++ fx') = (D.applyAll fx).applyAll fx' := List.foldl_append

theorem ranged_append {D : Declared} {fx fx' : List Effect} :
    Ranged D (fx ++ fx') ↔ Ranged D fx ∧ Ranged (D.applyAll fx) fx' := by
  induction fx generalizing D with
  | nil => exact (and_iff_right trivial).symm
  | cons e fx ih => simp only [List.cons_append, Ranged, ih, and_assoc]; rfl

/-- What does not reach the devices leaves them. -/
theorem declared_foreign {ks : List Kind} {fx : List Effect} (h : Within ks fx)
    (hk : .device ∉ ks) (D : Declared) : D.applyAll fx = D := by
  induction fx with
  | nil => rfl
  | cons e fx ih =>
      have he : D.apply e = D := by
        have hke := h e (List.mem_cons_self ..)
        cases e with
        | uinputCreate _ _ | uinputDestroy _ | close _ => exact absurd hke hk
        | _ => rfl
      rw [Declared.applyAll, List.foldl_cons, he]
      exact ih fun e' he' => h e' (List.mem_cons_of_mem _ he')

/-- So its events can be looked at one by one. -/
theorem ranged_foreign {ks : List Kind} {fx : List Effect} (h : Within ks fx)
    (hk : .device ∉ ks) (D : Declared) : Ranged D fx ↔ ∀ e ∈ fx, InRange D e := by
  induction fx with
  | nil => simp [Ranged]
  | cons e fx ih =>
      have hw : Within ks fx := fun e' he' => h e' (List.mem_cons_of_mem _ he')
      have hone : Within ks [e] := .one (h e (List.mem_cons_self ..))
      have he : D.apply e = D := declared_foreign hone hk D
      rw [Ranged, he, ih hw, List.forall_mem_cons]

/-! ### The backend and the kernel -/

/-- The kernel has a device behind each open descriptor, and behind that of a slot a gamepad. -/
structure Tracks (D : Declared) (inp : Input.State) : Prop where
  opened : ∀ fd, (D fd).isSome = true ↔ fd ∈ inp.opened
  gamepads : ∀ k, 0 ≤ inp.gpFds k → ∀ dev ∈ D (inp.gpFds k), dev.abs = Input.gamepadAxes

theorem tracks_boot : Tracks (fun _ => none) Input.State.boot :=
  ⟨fun fd => by simp [Input.State.boot], fun _ _ dev h => by cases h⟩

section
variable {D : Declared} {inp : Input.State}

theorem isSome_create (h : Tracks D inp) (fd : Int) (dev : UinputUserDev) (fd' : Int) :
    (Function.update D fd (some dev) fd').isSome = true ↔ fd' ∈ insert fd inp.opened := by
  rw [Finset.mem_insert, ← h.opened]
  by_cases e : fd' = fd
  · simp [e]
  · simp [e]

theorem isSome_close (h : Tracks D inp) (fd fd' : Int) :
    (Function.update D fd none fd').isSome = true ↔ fd' ∈ inp.opened.erase fd := by
  rw [Finset.mem_erase, ← h.opened]
  by_cases e : fd' = fd
  · simp [e]
  · simp [e]

/-- A descriptor that was not open is closed again. -/
theorem declared_close (h : Tracks D inp) {fd : Int} (hfd : fd ∉ inp.opened) :
    Function.update D fd none = D := by
  refine Function.update_eq_self_iff.mpr ?_
  rw [← h.opened, Bool.not_eq_true, Option.isSome_eq_false_iff, Option.isNone_iff_eq_none] at hfd
  exact hfd.symm

theorem Tracks.inputInit (h : Tracks D inp) {u : Input.Uinput} (hu : u.Fresh inp) :
    Tracks (D.applyAll (Input.inputInit u inp).2.2) (Input.inputInit u inp).2.1 := by
  refine ⟨?_, fun k h0 => absurd (noDevice_inputInit u inp k) (Int.not_lt.mpr h0)⟩
  simp only [Input.inputInit, Input.createKbmDevice]
  split
  · exact h.opened
  · rename_i h0
    split
    · exact isSome_create h u.fd _
    · have hc : Function.update D u.fd none = D := declared_close h (hu (Int.not_lt.mp h0))
      intro fd
      show (Function.update D u.fd none fd).isSome = true ↔ fd ∈ inp.opened
      rw [hc]
      exact h.opened fd

theorem Tracks.destroyGp (h : Tracks D inp) (k : Fin maxSlots) :
    Tracks (D.applyAll (Input.destroyGp inp k).2) (Input.destroyGp inp k).1 := by
  have hD : D.applyAll (Input.destroyGp inp k).2 = Function.update D (inp.gpFds k) none :=
    Function.update_idem ..
  rw [hD]
  refine ⟨isSome_close h (inp.gpFds k), fun j h0 dev hdev => ?_⟩
  simp only [Input.destroyGp] at h0 hdev
  by_cases hj : j = k
  · rw [hj, Function.update_self] at h0
    exact absurd h0 (by decide)
  · rw [Function.update_of_ne hj] at h0 hdev
    by_cases e : inp.gpFds j = inp.gpFds k
    · rw [e, Function.update_self] at hdev
      cases hdev
    · rw [Function.update_of_ne e] at hdev
      exact h.gamepads j h0 dev hdev

theorem Tracks.evictGp (h : Tracks D inp) (k : Fin maxSlots) :
    Tracks (D.applyAll (Input.evictGp inp k).2) (Input.evictGp inp k).1 := by
  rw [Input.evictGp]
  split
  · exact h.destroyGp k
  · exact h

/-- A new device declares the axes of a gamepad. -/
theorem Tracks.create (h : Tracks D inp) (k : Fin maxSlots) (fd : Int) {dev : UinputUserDev}
    (hdev : dev.abs = Input.gamepadAxes) (names : Fin maxSlots → Bytes) :
    Tracks (Function.update D fd (some dev)) { inp with
      gpFds := Function.update inp.gpFds k fd
      gpNames := names
      opened := insert fd inp.opened } := by
  refine ⟨isSome_create h fd dev, fun j h0 dev' hdev' => ?_⟩
  dsimp only at h0 hdev'
  by_cases e : Function.update inp.gpFds k fd j = fd
  · rw [e, Function.update_self] at hdev'
    rw [← Option.some.inj hdev', hdev]
  · rw [Function.update_of_ne e] at hdev'
    have hj : j ≠ k := fun hj => e (by rw [hj, Function.update_self])
    rw [Function.update_of_ne hj] at h0 hdev'
    exact h.gamepads j h0 dev' hdev'

theorem Tracks.allocSlot (h : Tracks D inp) {u : Input.Uinput} {slot : UInt8}
    (hu : AllocEnabled inp u slot) (v p ver : UInt16) (name : Option Bytes) :
    Tracks (D.applyAll (Input.inputAllocSlot u slot v p ver name inp).2.2)
      (Input.inputAllocSlot u slot v p ver name inp).2.1 := by
  rw [Input.inputAllocSlot]
  split
  · exact h
  · rename_i k hk
    have he := h.evictGp k
    simp only
    split
    · exact he
    · rename_i h0
      split
      · rw [declared_append]
        exact he.create k u.fd rfl _
      · rw [declared_append]
        have hc : Function.update (D.applyAll (Input.evictGp inp k).2) u.fd none = _ :=
          declared_close he (hu k hk (Int.not_lt.mp h0))
        show Tracks (Function.update (D.applyAll (Input.evictGp inp k).2) u.fd none) _
        rw [hc]
        exact he

theorem Tracks.freeSlot (h : Tracks D inp) (slot : UInt8) :
    Tracks (D.applyAll (Input.inputFreeSlot slot inp).2.2) (Input.inputFreeSlot slot inp).2.1 := by
  rw [Input.inputFreeSlot]
  split
  · exact h
  · rename_i k hk
    split
    · have hd := h.destroyGp k
      exact ⟨hd.opened, hd.gamepads⟩
    · exact h

theorem Tracks.shutdownSlots {D : Declared} {inp : Input.State} (h : Tracks D inp) :
    ∀ l, Tracks (D.applyAll (Input.shutdownSlots l inp).2) (Input.shutdownSlots l inp).1
  | [] => h
  | k :: l => by
      rw [Input.shutdownSlots]
      split
      · simp only [declared_append]
        exact (h.destroyGp k).shutdownSlots l
      · exact h.shutdownSlots l

/-- The keyboard and mouse device goes. -/
theorem Tracks.closeKbm (h : Tracks D inp) :
    Tracks (Function.update D inp.kbmFd none)
      { inp with kbmFd := -1, opened := inp.opened.erase inp.kbmFd } := by
  refine ⟨isSome_close h inp.kbmFd, fun j h0 dev hdev => ?_⟩
  dsimp only at h0 hdev
  by_cases e : inp.gpFds j = inp.kbmFd
  · rw [e, Function.update_self] at hdev
    cases hdev
  · rw [Function.update_of_ne e] at hdev
    exact h.gamepads j h0 dev hdev

theorem Tracks.shutdown (h : Tracks D inp) :
    Tracks (D.applyAll (Input.inputShutdown inp).2) (Input.inputShutdown inp).1 := by
  have hs := h.shutdownSlots (List.finRange maxSlots)
  simp only [Input.inputShutdown]
  split
  · have hk := hs.closeKbm
    rw [← Function.update_idem] at hk
    rw [declared_append]
    exact hk
  · exact hs

end

/-! ### The SDK -/

theorem Tracks.call {D : Declared} {ov : Int → Int} {s : State} (h : Tracks D s.inp) {c : Call}
    (he : c.Enabled s) : Tracks (D.applyAll (c.run ov s).2) (c.run ov s).1.inp := by
  by_cases hk : .device ∈ c.kinds
  · cases c with
    | init config e w =>
        have hi : Tracks _ (Input.inputInit e.kbm s.inp).2.1 := h.inputInit he
        have hs : ∀ D : Declared, D.applyAll (initSignaling config e s).2.2 = D :=
          declared_foreign Signaling.within_init (by simp)
        rw [Call.run]
        rcases nearcadeInit_cases config e w s with
          ⟨-, hr⟩ | ⟨-, -, hr⟩ | ⟨-, -, -, hr⟩ | ⟨-, -, -, hr⟩ <;> rw [hr]
        · exact h
        · exact hi
        · rw [declared_append, declared_append, hs]
          exact hi.shutdown
        · rw [declared_append, hs]
          exact hi
    | shutdown w =>
        simp only [Call.run, nearcadeShutdown]
        split
        · exact h
        · have hc : ∀ D : Declared, D.applyAll (Capture.captureShutdown w s.cap).2 = D :=
            declared_foreign Capture.within_stop (by simp)
          have hs : ∀ D : Declared, D.applyAll (Signaling.signalingShutdown s.sig).2 = D :=
            declared_foreign Signaling.within_shutdown (by simp)
          rw [declared_append, declared_append, hc, hs]
          exact h.shutdown
    | disconnectViewer id =>
        cases id with
        | none => exact h
        | some id =>
            simp only [Call.run, nearcadeDisconnectViewer]
            split
            · exact h
            · exact h.freeSlot _
    | _ => exact absurd hk (by simp [Call.kinds])
  · rw [Call.inp_of_kinds ov s hk, declared_foreign (Call.within ov s c) hk]
    exact h

theorem Net.device_not_mem_kinds (n : Net) : .device ∉ n.kinds := by
  cases n <;> simp [Net.kinds]

/-- **Every step of the SDK and its tables.** -/
theorem Tracks.next {D : Declared} {ov : Int → Int} {w : World} (h : Tracks D w.sdk.inp)
    {i : PlayStep} (he : (playing ov).enabled w i) :
    Tracks (D.applyAll ((playing ov).out w i)) ((playing ov).next w i).sdk.inp := by
  cases i with
  | table t =>
      cases t with
      | claim id | release slot => exact h
      | alloc u slot v p ver name => exact h.allocSlot he.2 v p ver name
      | free slot => exact h.freeSlot slot
  | sdk i =>
      cases i with
      | call c => exact h.call he
      | net n =>
          show Tracks (D.applyAll (n.run ov w.sdk).2) (n.run ov w.sdk).1.inp
          rw [(Net.frame w.sdk n).2,
            declared_foreign (Net.within ov w.sdk n) (Net.device_not_mem_kinds n)]
          exact h

/-! ### What is written -/

/-- The values of a packet that the axes of a gamepad hold. -/
structure Fits (pkt : NearcadeGamepadPacket) : Prop where
  lx : pkt.lx.toInt ≠ -32768
  ly : pkt.ly.toInt ≠ -32768
  rx : pkt.rx.toInt ≠ -32768
  ry : pkt.ry.toInt ≠ -32768
  hx : -1 ≤ pkt.hx.toInt ∧ pkt.hx.toInt ≤ 1
  hy : -1 ≤ pkt.hy.toInt ∧ pkt.hy.toInt ≤ 1

/-- The range of an axis. -/
theorem holds_stick {code : UInt16}
    (hc : code ∈ [Input.absX, Input.absY, Input.absRx, Input.absRy]) (v : Int16) :
    AxesHold Input.gamepadAxes code v.toInt ↔ v.toInt ≠ -32768 := by
  have hmin := Int16.le_toInt v
  have hmax := Int16.toInt_lt v
  have hr : AxesHold Input.gamepadAxes code v.toInt ↔ -32767 ≤ v.toInt ∧ v.toInt ≤ 32767 := by
    simp only [List.mem_cons, List.not_mem_nil, or_false] at hc
    rcases hc with rfl | rfl | rfl | rfl <;> simp [AxesHold, Input.gamepadAxes, Input.absX,
      Input.absY, Input.absRx, Input.absRy, Input.absZ, Input.absRz, Input.absHat0x, Input.absHat0y]
  rw [hr]
  omega

theorem holds_trigger {code : UInt16} (hc : code ∈ [Input.absZ, Input.absRz]) (v : UInt8) :
    AxesHold Input.gamepadAxes code v.toNat := by
  have hmin : (0 : Int) ≤ v.toNat := Int.natCast_nonneg _
  have hmax : (v.toNat : Int) ≤ 255 := Int.ofNat_le.mpr (Nat.le_of_lt_succ (UInt8.toNat_lt v))
  simp only [List.mem_cons, List.not_mem_nil, or_false] at hc
  rcases hc with rfl | rfl
  · exact ⟨⟨Input.absZ, 0, 255, 0, 0⟩, by decide, rfl, hmin, hmax⟩
  · exact ⟨⟨Input.absRz, 0, 255, 0, 0⟩, by decide, rfl, hmin, hmax⟩

theorem holds_hat {code : UInt16} (hc : code ∈ [Input.absHat0x, Input.absHat0y]) (v : Int8) :
    AxesHold Input.gamepadAxes code v.toInt ↔ -1 ≤ v.toInt ∧ v.toInt ≤ 1 := by
  simp only [List.mem_cons, List.not_mem_nil, or_false] at hc
  rcases hc with rfl | rfl <;> simp [AxesHold, Input.gamepadAxes, Input.absX, Input.absY,
    Input.absRx, Input.absRy, Input.absZ, Input.absRz, Input.absHat0x, Input.absHat0y]

/-- **The packets whose values are in the ranges declared.** -/
theorem holds_gamepadWrites_iff (pkt : NearcadeGamepadPacket) :
    (∀ w ∈ Input.gamepadWrites pkt, w.1 = Input.evAbs →
      AxesHold Input.gamepadAxes w.2.1 w.2.2) ↔ Fits pkt := by
  have hkey : Input.evKey ≠ Input.evAbs := by decide
  simp only [Input.gamepadWrites, List.forall_mem_cons, List.not_mem_nil, false_implies,
    implies_true, true_implies, hkey, and_true]
  rw [holds_stick (by decide), holds_stick (by decide), holds_stick (by decide),
    holds_stick (by decide), holds_hat (by decide), holds_hat (by decide)]
  constructor
  · rintro ⟨hlx, hly, hrx, hry, -, -, hhx, hhy⟩
    exact ⟨hlx, hly, hrx, hry, hhx, hhy⟩
  · intro h
    exact ⟨h.lx, h.ly, h.rx, h.ry, holds_trigger (by decide) _, holds_trigger (by decide) _,
      h.hx, h.hy⟩

section
variable {D : Declared} {inp : Input.State}

theorem inRange_emit {type : UInt16} (ht : type ≠ Input.evAbs) (fd : Int) (code : UInt16)
    (val : Int) : ∀ e ∈ Input.emit fd type code val, InRange D e := by
  intro e he
  rw [Input.emit] at he
  split at he
  · cases he
  · rw [List.mem_singleton.mp he]
    exact fun h => absurd h ht

theorem inRange_syn (fd : Int) : ∀ e ∈ Input.syn fd, InRange D e := by
  rw [Input.syn]
  split
  · exact inRange_emit (by decide) _ _ _
  · exact List.forall_mem_nil _

/-- The events of a list, for one device. -/
theorem inRange_report_iff {fd : Int} (h0 : 0 ≤ fd) (ws : List (UInt16 × UInt16 × Int)) :
    (∀ e ∈ Input.emitAll fd ws ++ Input.syn fd, InRange D e) ↔
      ∀ w ∈ ws, w.1 = Input.evAbs → ∀ dev ∈ D fd, AxesHold dev.abs w.2.1 w.2.2 := by
  have hone : ∀ type code val, Input.emit fd type code val = [.inputEvent fd type code val] :=
    fun type code val => if_neg (Int.not_lt.mpr h0)
  rw [List.forall_mem_append, and_iff_left (inRange_syn fd), Input.emitAll]
  simp only [List.forall_mem_flatMap, hone, List.forall_mem_singleton]
  rfl

/-- A slot has a device, and the kernel has it. -/
def OnDevice (inp : Input.State) (slot : UInt8) : Prop :=
  ∃ fd ∈ inp.opened, Input.OnSlot inp slot fd

theorem onDevice_iff {slot : UInt8} {k : Fin maxSlots} (hk : Input.slotOfByte slot = some k) :
    OnDevice inp slot ↔ 0 ≤ inp.gpFds k ∧ inp.gpFds k ∈ inp.opened := by
  constructor
  · rintro ⟨fd, hfd, j, hj, h0, rfl⟩
    obtain rfl := Option.some.inj (hk.symm.trans hj)
    exact ⟨h0, hfd⟩
  · rintro ⟨h0, hfd⟩
    exact ⟨inp.gpFds k, hfd, k, hk, h0, rfl⟩

/-- Events for the descriptor of a slot. -/
theorem inRange_slot_iff (h : Tracks D inp) {slot : UInt8} {k : Fin maxSlots}
    (hk : Input.slotOfByte slot = some k) (h0 : 0 ≤ inp.gpFds k)
    (ws : List (UInt16 × UInt16 × Int)) :
    (∀ e ∈ Input.emitAll (inp.gpFds k) ws ++ Input.syn (inp.gpFds k), InRange D e) ↔
      (OnDevice inp slot → ∀ w ∈ ws, w.1 = Input.evAbs →
        AxesHold Input.gamepadAxes w.2.1 w.2.2) := by
  rw [inRange_report_iff h0, onDevice_iff hk, ← h.opened]
  cases hD : D (inp.gpFds k) with
  | none => simp
  | some dev =>
      have habs : dev.abs = Input.gamepadAxes := h.gamepads k h0 dev hD
      simp [habs, h0]

/-- **A packet that is submitted.** -/
theorem inRange_submit_iff (h : Tracks D inp) (pkt : NearcadeGamepadPacket) :
    (∀ e ∈ (Input.inputSubmitGamepad inp (some pkt)).2, InRange D e) ↔
      (OnDevice inp pkt.slot → Fits pkt) := by
  simp only [Input.inputSubmitGamepad]
  split
  · rename_i hk
    refine iff_of_true (List.forall_mem_nil _) ?_
    rintro ⟨fd, -, k, hk', -⟩
    rw [hk] at hk'
    cases hk'
  · rename_i k hk
    split
    · rename_i h0
      refine iff_of_true (List.forall_mem_nil _) fun hd => ?_
      exact absurd h0 (Int.not_lt.mpr ((onDevice_iff hk).mp hd).1)
    · rename_i h0
      rw [Input.gamepadEvents, inRange_slot_iff h hk (Int.not_lt.mp h0),
        holds_gamepadWrites_iff]

/-- A flush writes zeros, which every axis holds. -/
theorem inRange_flush (h : Tracks D inp) (slot : UInt8) :
    ∀ e ∈ (Input.inputFlushSlot inp slot).2, InRange D e := by
  have hzero : ∀ w ∈ Input.flushWrites, w.1 = Input.evAbs →
      AxesHold Input.gamepadAxes w.2.1 w.2.2 := by decide
  simp only [Input.inputFlushSlot]
  split
  · exact List.forall_mem_nil _
  · rename_i k hk
    split
    · rename_i h0
      exact (inRange_slot_iff h hk h0 _).mpr fun _ => hzero
    · exact List.forall_mem_nil _

/-- The keyboard and mouse have no axes. -/
theorem inRange_submitKbm (vid ev : Bytes) (key : Option Bytes) (dx dy : Int) :
    ∀ e ∈ (Input.inputSubmitKbm inp vid ev key dx dy).2, InRange D e := by
  have hrel : Input.evRel ≠ Input.evAbs := by decide
  have hkey : Input.evKey ≠ Input.evAbs := by decide
  simp only [Input.inputSubmitKbm]
  split
  · exact List.forall_mem_nil _
  · split
    · simp only [List.forall_mem_append]
      exact ⟨⟨inRange_emit hrel _ _ _, inRange_emit hrel _ _ _⟩, inRange_syn _⟩
    · split
      · split
        · exact List.forall_mem_append.mpr ⟨inRange_emit hkey _ _ _, inRange_syn _⟩
        · exact List.forall_mem_nil _
      · exact List.forall_mem_nil _

/-- Where nothing is injected, there is nothing to hold. -/
theorem ranged_of_within {ks : List Kind} {fx : List Effect} (h : Within ks fx)
    (hk : .injection ∉ ks) (D : Declared) : Ranged D fx := by
  induction fx generalizing D with
  | nil => trivial
  | cons e fx ih =>
      refine ⟨?_, ih (fun e' he' => h e' (List.mem_cons_of_mem _ he')) _⟩
      have hke := h e (List.mem_cons_self ..)
      cases e with
      | inputEvent _ _ _ _ => exact absurd hke hk
      | _ => trivial

end

/-! ### Runs -/

/-- The packet a step submits: the caller's, or that of a message on a data channel. -/
def submitted (s : State) : PlayStep → Option NearcadeGamepadPacket
  | .sdk (.call (.submitGamepad pkt)) => pkt
  | .sdk (.net (.message _ msg)) => Webrtc.onMessage s.rtc msg
  | _ => none

section
variable {D : Declared} {ov : Int → Int} {s : State}

/-- What submits no packet, and is in the ranges. -/
theorem ranged_unsubmitted {fx : List Effect} (h : Ranged D fx) :
    Ranged D fx ↔ ∀ pkt ∈ (none : Option NearcadeGamepadPacket),
      OnDevice s.inp pkt.slot → Fits pkt :=
  iff_of_true h fun _ hp => absurd hp (Option.not_mem_none _)

/-- A packet, and effects behind it that write nothing. -/
theorem ranged_submitted (h : Tracks D s.inp) {pkt : NearcadeGamepadPacket} {fx : List Effect}
    (hfx : ∀ e ∈ fx, InRange D e) :
    (∀ e ∈ (Input.inputSubmitGamepad s.inp (some pkt)).2 ++ fx, InRange D e) ↔
      ∀ pkt' ∈ some pkt, OnDevice s.inp pkt'.slot → Fits pkt' := by
  rw [List.forall_mem_append, and_iff_left hfx, inRange_submit_iff h]
  simp

theorem ranged_call_iff (h : Tracks D s.inp) (c : Call) :
    Ranged D (c.run ov s).2 ↔
      ∀ pkt ∈ submitted s (.sdk (.call c)), OnDevice s.inp pkt.slot → Fits pkt := by
  cases c with
  | submitGamepad pkt =>
      cases pkt with
      | none => exact ranged_unsubmitted trivial
      | some pkt =>
          have hone := @ranged_submitted _ _ h pkt [] (List.forall_mem_nil _)
          rw [List.append_nil] at hone
          exact (ranged_foreign Input.within_submitGamepad (by simp) D).trans hone
  | submitKbm vid ev key dx dy =>
      refine ranged_unsubmitted ?_
      rcases vid with _ | vid
      · trivial
      · rcases ev with _ | ev
        · trivial
        · exact (ranged_foreign Input.within_submitKbm (by simp) D).mpr
            (inRange_submitKbm _ _ _ _ _)
  | flushSlot slot =>
      exact ranged_unsubmitted
        ((ranged_foreign Input.within_flushSlot (by simp) D).mpr (inRange_flush h slot))
  | _ =>
      exact ranged_unsubmitted
        (ranged_of_within (Call.within ov s _) (by simp [Call.kinds]) D)

theorem ranged_net_iff (h : Tracks D s.inp) (n : Net) :
    Ranged D (n.run ov s).2 ↔
      ∀ pkt ∈ submitted s (.sdk (.net n)), OnDevice s.inp pkt.slot → Fits pkt := by
  cases n with
  | message pc msg =>
      refine (ranged_foreign (Net.within ov s _) (by simp [Net.kinds]) D).trans ?_
      simp only [Net.run, submitted]
      cases Webrtc.onMessage s.rtc msg with
      | none =>
          exact iff_of_true (List.forall_mem_nil _) fun _ hp => absurd hp (Option.not_mem_none _)
      | some pkt => exact ranged_submitted h (by simp [fireEvent, InRange])
  | _ =>
      exact ranged_unsubmitted
        (ranged_of_within (Net.within ov s _) (by simp [Net.kinds]) D)

/-- **One step.** -/
theorem ranged_out_iff {w : World} (h : Tracks D w.sdk.inp) (i : PlayStep) :
    Ranged D ((playing ov).out w i) ↔
      ∀ pkt ∈ submitted w.sdk i, OnDevice w.sdk.inp pkt.slot → Fits pkt := by
  cases i with
  | sdk i =>
      cases i with
      | call c => exact ranged_call_iff h c
      | net n => exact ranged_net_iff h n
  | table t =>
      cases t with
      | claim id | release slot => exact ranged_unsubmitted trivial
      | alloc u slot v p ver name =>
          exact ranged_unsubmitted (ranged_of_within Input.within_allocSlot (by simp) D)
      | free slot => exact ranged_unsubmitted (ranged_of_within Input.within_freeSlot (by simp) D)

end

theorem ranged_run_iff {D : Declared} {ov : Int → Int} {w : World} (h : Tracks D w.sdk.inp)
    {is : List PlayStep} (hv : (playing ov).Valid w is) :
    Ranged D (outputs ((playing ov).trace w is)) ↔
      ∀ e ∈ (playing ov).trace w is, ∀ pkt ∈ submitted e.pre.sdk e.input,
        OnDevice e.pre.sdk.inp pkt.slot → Fits pkt := by
  induction is generalizing D w with
  | nil => exact iff_of_true trivial fun _ he => absurd he List.not_mem_nil
  | cons i is ih =>
      have hout : outputs ((playing ov).trace w (i :: is)) =
          (playing ov).out w i ++ outputs ((playing ov).trace ((playing ov).next w i) is) :=
        List.flatMap_cons
      have hrest := ih (h.next hv.1) hv.2
      rw [hout, ranged_append, ranged_out_iff h i, hrest, Machine.trace, List.forall_mem_cons]

/-- **When the values injected stay in the ranges declared.**  In every run of the SDK from the
start, with its slot and device tables in use: every EV_ABS event for a device has a value between
the bounds declared for that axis, just when no packet that reaches a device has a stick at -32768,
or a hat outside -1..1. -/
theorem ranged_iff {ov : Int → Int} {is : List PlayStep} (hv : (playing ov).Valid .boot is) :
    Ranged (fun _ => none) (outputs ((playing ov).trace .boot is)) ↔
      ∀ e ∈ (playing ov).trace .boot is, ∀ pkt ∈ submitted e.pre.sdk e.input,
        OnDevice e.pre.sdk.inp pkt.slot → Fits pkt :=
  ranged_run_iff tracks_boot hv

/-- A viewer plays on slot 0: its messages carry packets with the left stick's x as given. -/
def playingWith (lo hi : UInt8) : List PlayStep :=
  [.sdk (.call (.init none .good ⟨0, 0⟩)), .sdk (connect 7),
   .table (.alloc ⟨4, true, true⟩ 0 0x045e 0x028e 1 none),
   .sdk (.net (.message 0 (.binary [1, lo, hi, 0, 0, 0, 0, 0, 0, 0, 0, 0, 0, 0, 0, 0])))]

/-- The stick fully to the left, by the smallest value of its field. -/
theorem ranged_fails : ¬∀ (ov : Int → Int) (is : List PlayStep), (playing ov).Valid .boot is →
    Ranged (fun _ => none) (outputs ((playing ov).trace .boot is)) := by
  intro h
  have hr := h id (playingWith 0 0x80) (by decide +kernel)
  exact absurd hr (by decide +kernel)

theorem ranged_iff_playing :
    Ranged (fun _ => none) (outputs ((playing id).trace .boot (playingWith 1 0x80))) ↔
      ∀ e ∈ (playing id).trace .boot (playingWith 1 0x80), ∀ pkt ∈ submitted e.pre.sdk e.input,
        OnDevice e.pre.sdk.inp pkt.slot → Fits pkt :=
  ranged_iff (by decide +kernel)

end Nearcade
