import Mathlib.Data.Nat.Bitwise
import Nearcade.Input.Controller

/-!
# Input — Buttons

An application composes a mask of the `NEARCADE_BTN_*` constants and assigns it to the `buttons` of
a packet, which has sixteen bits.  `input_submit_gamepad` tests that field with the `W3C_*` masks of
the same names, and `NEARCADE_BTN_GUIDE` is the seventeenth bit.

* `pressed_ofNat_eq_one_iff`: what a test sees of a mask that was assigned.
* `reaches_iff`: one packet.
* `buttons_reach_iff`: in a run every button reaches the device, just when the guide button is in no
  mask that does.
-/

namespace Nearcade.Input
open Text Runs Evdev

/-! ### Masks -/

/-- The buttons of the public header. -/
inductive Button where
  | a | b | y | x | lb | rb | back | start | ls | rs | guide
  deriving DecidableEq

namespace Button

/-- The bit of `NEARCADE_BTN_*`. -/
def bit : Button → Nat
  | a => 0
  | b => 1
  | y => 2
  | x => 3
  | lb => 4
  | rb => 5
  | back => 8
  | start => 9
  | ls => 10
  | rs => 11
  | guide => 16

/-- `NEARCADE_BTN_*`. -/
def mask (btn : Button) : Nat := 1 <<< btn.bit

/-- The key the backend emits for the `W3C_*` mask of the same name. -/
def key : Button → UInt16
  | a => btnSouth
  | b => btnEast
  | y => btnWest
  | x => btnNorth
  | lb => btnTl
  | rb => btnTr
  | back => btnSelect
  | start => btnStart
  | ls => btnThumbl
  | rs => btnThumbr
  | guide => btnMode

theorem bit_injective {btn btn' : Button} (h : btn.bit = btn'.bit) : btn = btn' := by
  cases btn <;> cases btn' <;> first | rfl | cases h

end Button

/-- An `int` composed of the constants. -/
def maskOf (btns : List Button) : Nat := btns.foldr (fun btn m => btn.mask ||| m) 0

theorem testBit_maskOf (btns : List Button) (i : Nat) :
    (maskOf btns).testBit i = true ↔ ∃ btn ∈ btns, btn.bit = i := by
  induction btns with
  | nil => simp [maskOf]
  | cons btn btns ih =>
      have hcons : maskOf (btn :: btns) = btn.mask ||| maskOf btns := rfl
      rw [hcons, Nat.testBit_or, Bool.or_eq_true, ih, Button.mask, Nat.one_shiftLeft,
        Nat.testBit_two_pow, decide_eq_true_eq, List.exists_mem_cons_iff]

/-- A test with one bit. -/
theorem and_bit_ne_zero_iff (m i : Nat) : m &&& 1 <<< i ≠ 0 ↔ m.testBit i = true := by
  rw [Nat.one_shiftLeft, Nat.and_two_pow]
  cases m.testBit i <;> simp

/-- The bit of a button is set in the mask just when the button is in it. -/
theorem mask_set_iff (btns : List Button) (btn : Button) :
    maskOf btns &&& btn.mask ≠ 0 ↔ btn ∈ btns := by
  rw [Button.mask, and_bit_ne_zero_iff, testBit_maskOf]
  constructor
  · rintro ⟨btn', hmem, hbit⟩
    rwa [← Button.bit_injective hbit]
  · exact fun hmem => ⟨btn, hmem, rfl⟩

/-- **What a test sees of a mask assigned to `buttons`**: its sixteen low bits. -/
theorem pressed_ofNat_eq_one_iff (m i : Nat) :
    pressed (UInt16.ofNat m) (1 <<< i) = 1 ↔ i < 16 ∧ m.testBit i = true := by
  have hif : pressed (UInt16.ofNat m) (1 <<< i) = 1 ↔
      (UInt16.ofNat m).toNat &&& 1 <<< i ≠ 0 := by
    rw [pressed]
    split <;> simp_all
  rw [hif, and_bit_ne_zero_iff, UInt16.toNat_ofNat', Nat.testBit_mod_two_pow, Bool.and_eq_true,
    decide_eq_true_eq]

/-! ### A packet -/

/-- `pkt.buttons = mask`. -/
def withButtons (pkt : NearcadeGamepadPacket) (btns : List Button) : NearcadeGamepadPacket :=
  { pkt with buttons := UInt16.ofNat (maskOf btns) }

/-- The value a packet shows for a button's key. -/
theorem target_key (pkt : NearcadeGamepadPacket) (btn : Button) :
    target (some pkt) (evKey, btn.key) = pressed pkt.buttons btn.mask := by
  rw [target_some]
  refine writeAll_of_mem (nodup_gamepadWrites pkt) ?_ _
  cases btn <;> simp [valuesOf, gamepadWrites, Button.key, Button.mask, Button.bit, w3cA, w3cB,
    w3cX, w3cY, w3cLb, w3cRb, w3cBack, w3cStart, w3cLs, w3cRs, w3cGuide]

/-- A key is 1 just when the button's bit is set in the mask the application composed. -/
def Reaches (f : Control → Int) (btns : List Button) : Prop :=
  ∀ btn : Button, f (evKey, btn.key) = 1 ↔ maskOf btns &&& btn.mask ≠ 0

/-- **One packet.** -/
theorem reaches_iff (pkt : NearcadeGamepadPacket) (btns : List Button) :
    Reaches (target (some (withButtons pkt btns))) btns ↔ Button.guide ∉ btns := by
  have hkey : ∀ btn : Button, target (some (withButtons pkt btns)) (evKey, btn.key) = 1 ↔
      btn.bit < 16 ∧ btn ∈ btns := by
    intro btn
    rw [target_key, withButtons, Button.mask, pressed_ofNat_eq_one_iff, ← and_bit_ne_zero_iff]
    exact and_congr_right fun _ => mask_set_iff btns btn
  simp only [Reaches, hkey, mask_set_iff]
  constructor
  · intro h hguide
    exact absurd ((h .guide).mpr hguide).1 (by decide)
  · intro hguide btn
    refine ⟨And.right, fun hmem => ⟨?_, hmem⟩⟩
    cases btn with
    | guide => exact absurd hmem hguide
    | _ => decide

/-! ### Runs -/

/-- A call of the backend, or the submission of a packet whose buttons were composed. -/
inductive PadStep where
  | backend (c : BackendCall)
  | submit (pkt : NearcadeGamepadPacket) (btns : List Button)

/-- The call a step makes. -/
def PadStep.call : PadStep → BackendCall
  | .backend c => c
  | .submit pkt btns => .submitGamepad (some (withButtons pkt btns))

/-- **The rig in the hands of an application.** -/
def pad : Machine Rig PadStep Effect where
  enabled r i := rig.enabled r i.call
  next r i := rig.next r i.call
  out r i := rig.out r i.call

instance (r : Rig) (i : PadStep) : Decidable (pad.enabled r i) :=
  inferInstanceAs (Decidable (rig.enabled r i.call))

/-- Where a step submits a packet on an allocated slot: the slot, and the buttons composed. -/
def Submits (e : Entry Rig PadStep Effect) (k : Fin maxSlots) (btns : List Button) : Prop :=
  ∃ pkt, e.input = .submit pkt btns ∧ slotOfByte pkt.slot = some k ∧ 0 ≤ e.pre.st.gpFds k

/-- After a step the device of a slot shows the buttons. -/
def ShowsAfter (e : Entry Rig PadStep Effect) (k : Fin maxSlots) (btns : List Button) : Prop :=
  ∃ d, (pad.next e.pre e.input).devs ((pad.next e.pre e.input).st.gpFds k) = some d ∧
    Reaches d.shown btns

/-- The rig a run leads to shows what was submitted. -/
theorem shown_pad {u : Uinput} {st : State} {devs : Devices} {is : List PadStep}
    (hv : pad.Valid (.started u st devs) is) {e : Entry Rig PadStep Effect}
    (he : e ∈ pad.trace (.started u st devs) is) : ∃ cs, e.pre.Shown cs := by
  have hstep : ∀ r i, (∃ cs, Rig.Shown r cs) → pad.enabled r i →
      ∃ cs, (pad.next r i).Shown cs := by
    rintro r i ⟨cs, h⟩ hen
    exact ⟨cs ++ [i.call], h.next hen⟩
  exact (Machine.invariant_trace ⟨[], shown_started u st devs⟩ hstep hv he).1

/-- **When every public button reaches the device.**  In every run of the backend after
`input_init`: after each packet submitted on an allocated slot the eleven keys show the mask the
application composed, just when no such mask has the guide button. -/
theorem buttons_reach_iff (u : Uinput) (st : State) (devs : Devices) {is : List PadStep}
    (hv : pad.Valid (.started u st devs) is) :
    (∀ e ∈ pad.trace (.started u st devs) is, ∀ k btns, Submits e k btns → ShowsAfter e k btns) ↔
      ∀ e ∈ pad.trace (.started u st devs) is, ∀ k btns, Submits e k btns →
        Button.guide ∉ btns := by
  refine forall₂_congr fun e he => forall₃_congr fun k btns hs => ?_
  obtain ⟨cs, h⟩ := shown_pad hv he
  obtain ⟨pkt, hin, hk, h0⟩ := hs
  have hdev : e.pre.devs.applyAll (inputSubmitGamepad e.pre.st (some (withButtons pkt btns))).2
      (e.pre.st.gpFds k) = some (.settled (target (some (withButtons pkt btns)))) :=
    h.submit hk h0
  rw [ShowsAfter, hin, ← reaches_iff pkt]
  constructor
  · rintro ⟨d, hd, hreach⟩
    obtain rfl := Option.some.inj (hdev.symm.trans hd)
    exact hreach
  · exact fun hreach => ⟨_, hdev, hreach⟩

/-- A gamepad is plugged in, and buttons are pressed on it. -/
def pressing (btns : List Button) : List PadStep :=
  [.backend (.allocSlot ⟨4, true, true⟩ 0 0x045e 0x028e 1 none), .submit (zeroPacket 0) btns]

/-- The guide button by itself. -/
theorem guide_not_shown : ¬∀ (u : Uinput) (st : State) (devs : Devices) (is : List PadStep),
    pad.Valid (.started u st devs) is →
      ∀ e ∈ pad.trace (.started u st devs) is, ∀ k btns, Submits e k btns →
        ShowsAfter e k btns := by
  intro h
  obtain ⟨d, hd, hreach⟩ := h ⟨3, true, true⟩ .boot (fun _ => none) (pressing [.guide])
    (by decide +kernel) _ (List.mem_cons_of_mem _ (List.mem_cons_self ..)) 0 [.guide]
    ⟨zeroPacket 0, rfl, by decide +kernel, by decide +kernel⟩
  have hval : ((pad.final (.started ⟨3, true, true⟩ .boot fun _ => none)
      (pressing [.guide])).devs 4).map (·.shown (evKey, btnMode)) = some 0 := by decide +kernel
  have hzero : d.shown (evKey, btnMode) = 0 := Option.some.inj ((congrArg _ hd).symm.trans hval)
  have hone := (hreach .guide).mpr (by decide)
  rw [Button.key, hzero] at hone
  cases hone

theorem buttons_reach_iff_pressing :
    let t := pad.trace (.started ⟨3, true, true⟩ .boot fun _ => none) (pressing [.a, .rs])
    (∃ e ∈ t, Submits e 0 [.a, .rs]) ∧
      ∀ e ∈ t, ∀ k btns, Submits e k btns → ShowsAfter e k btns := by
  intro t
  refine ⟨⟨_, List.mem_cons_of_mem _ (List.mem_cons_self ..), zeroPacket 0, rfl, by decide +kernel,
    by decide +kernel⟩, (buttons_reach_iff _ _ _ (by decide +kernel)).mpr ?_⟩
  rintro e he k btns ⟨pkt, hin, -⟩
  rcases List.mem_pair.mp he with rfl | rfl
  · cases hin
  · cases hin
    decide

end Nearcade.Input
