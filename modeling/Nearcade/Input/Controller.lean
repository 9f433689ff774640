import Nearcade.Support.Evdev
import Nearcade.Input.Descriptors

/-!
# Input — Controller

What the virtual controllers show.  `rig` is the input backend together with the kernel's devices,
by descriptor: `UI_DEV_CREATE` makes a neutral one, an `input_event` sets a control, and SYN_REPORT
shows what was set.  A device is taken to show the last value committed for each control: every
`write` succeeds, and the kernel's filter for small changes of an axis (`absfuzz`) is left out.

* `Rig.Shown`: the device of every allocated slot shows the packet submitted last since the slot was
  allocated or flushed, or is neutral (`latest`).
* `operate_frame`: an operation leaves the other devices as they are.
* `controller_follows`: both, and that a flush is a neutral packet, in every run.
-/

namespace Nearcade.Input
open Text Runs Evdev

/-! ### The kernel's devices -/

/-- A control: type and code. -/
abbrev Control := UInt16 × UInt16

/-- The devices, by descriptor. -/
abbrev Devices := Int → Option (Device Control Int)

/-- Every axis and every key at 0. -/
def neutral : Control → Int := fun _ => 0

/-- A device takes an event, whatever the fuzz of its axes.  Motion leaves no state behind. -/
def feed (d : Device Control Int) (type code : UInt16) (val : Int) : Device Control Int :=
  if type = evSyn ∧ code = synReport then d.report
  else if type = evKey ∨ type = evAbs then d.set (type, code) val
  else d

/-- What an effect does to the devices. -/
def Devices.apply (devs : Devices) : Effect → Devices
  | .uinputCreate fd _ => Function.update devs fd (some (.settled neutral))
  | .inputEvent fd type code val =>
      Function.update devs fd ((devs fd).map fun d => feed d type code val)
  | .uinputDestroy fd | .close fd => Function.update devs fd none
  | _ => devs

/-- Effects, one after the other. -/
def Devices.applyAll (devs : Devices) (fx : List Effect) : Devices := fx.foldl Devices.apply devs

/-- The descriptor an effect is for. -/
def descriptor : Effect → Option Int
  | .uinputOpen fd | .uinputCreate fd _ | .uinputDestroy fd | .close fd
  | .inputEvent fd _ _ _ => some fd
  | _ => none

theorem applyAll_append (devs : Devices) (fx fx' : List Effect) :
    devs.applyAll (fx ++ fx') = (devs.applyAll fx).applyAll fx' := List.foldl_append

/-- Effects for other descriptors. -/
theorem applyAll_of_ne {devs : Devices} {fx : List Effect} {fd : Int}
    (h : ∀ e ∈ fx, descriptor e ≠ some fd) : devs.applyAll fx fd = devs fd := by
  induction fx generalizing devs with
  | nil => rfl
  | cons e fx ih =>
      have hrest : (devs.apply e).applyAll fx fd = devs.apply e fd :=
        ih fun e' he' => h e' (List.mem_cons_of_mem _ he')
      have he := h e (List.mem_cons_self ..)
      refine hrest.trans ?_
      cases e with
      | uinputCreate fd' _ | inputEvent fd' _ _ _ | uinputDestroy fd' | close fd' =>
          exact Function.update_of_ne (fun e => he (by rw [e]; rfl)) _ _
      | _ => rfl

/-- The values of a list of events. -/
def valuesOf (ws : List (UInt16 × UInt16 × Int)) : List (Control × Int) :=
  ws.map fun (type, code, val) => ((type, code), val)

/-- Events for axes and keys set the controls of their device. -/
theorem applyAll_emitAll {fd : Int} (h0 : 0 ≤ fd) {ws : List (UInt16 × UInt16 × Int)}
    (hws : ∀ w ∈ ws, w.1 = evKey ∨ w.1 = evAbs) (devs : Devices) :
    devs.applyAll (emitAll fd ws) = Function.update devs fd
      ((devs fd).map fun d => (valuesOf ws).foldl (fun d w => d.set w.1 w.2) d) := by
  induction ws generalizing devs with
  | nil => simp [emitAll, valuesOf, Devices.applyAll]
  | cons w ws ih =>
      obtain ⟨type, code, val⟩ := w
      have hw := hws _ (List.mem_cons_self ..)
      have hsyn : ¬ (type = evSyn ∧ code = synReport) := by
        rintro ⟨e, -⟩
        have hw : evSyn = evKey ∨ evSyn = evAbs := e ▸ hw
        exact absurd hw (by decide)
      have hone : emitAll fd ((type, code, val) :: ws) =
          .inputEvent fd type code val :: emitAll fd ws := by
        simp only [emitAll, List.flatMap_cons, emit, if_neg (Int.not_lt.mpr h0)]
        rfl
      rw [hone, Devices.applyAll, List.foldl_cons]
      refine (ih (fun w hw => hws w (List.mem_cons_of_mem _ hw)) _).trans ?_
      simp only [Devices.apply, Function.update_idem, Function.update_self, Option.map_map, feed,
        if_neg hsyn, if_pos hw]
      rfl

/-- **Events and their report.** -/
theorem applyAll_report {fd : Int} (h0 : 0 ≤ fd) {ws : List (UInt16 × UInt16 × Int)}
    (hws : ∀ w ∈ ws, w.1 = evKey ∨ w.1 = evAbs) (devs : Devices) :
    devs.applyAll (emitAll fd ws ++ syn fd) = Function.update devs fd
      ((devs fd).map fun d => d.frame (valuesOf ws)) := by
  have hsyn : syn fd = [.inputEvent fd evSyn synReport 0] := by
    rw [syn, if_pos h0, emit, if_neg (Int.not_lt.mpr h0)]
  rw [applyAll_append, applyAll_emitAll h0 hws, hsyn]
  simp only [Devices.applyAll, List.foldl_cons, List.foldl_nil, Devices.apply,
    Function.update_idem, Function.update_self, Option.map_map]
  congr 2
  funext d
  exact Device.report_foldl_set d (valuesOf ws)

/-! ### Places -/

/-- A device of the backend: on a slot, or the keyboard and mouse. -/
inductive Place where
  | gp (k : Fin maxSlots)
  | kbm
  deriving DecidableEq

/-- The descriptor recorded for a place. -/
def State.fd (st : State) : Place → Int
  | .gp k => st.gpFds k
  | .kbm => st.kbmFd

/-- The place an operation is about. -/
def BackendCall.about : BackendCall → Option Place
  | .allocSlot _ slot _ _ _ _ | .freeSlot slot | .flushSlot slot => (slotOfByte slot).map .gp
  | .submitGamepad pkt => (pkt.bind fun p => slotOfByte p.slot).map .gp
  | .submitKbm .. => some .kbm
  | .init _ | .shutdown => none

/-- A call that operates on a device, where `input_init` and `input_shutdown` are about all. -/
def BackendCall.Operates : BackendCall → Prop
  | .init _ | .shutdown => False
  | _ => True

section
variable {st : State}

/-- Two places have no descriptor in common. -/
theorem fd_ne (h : Ledger st) {p q : Place} (hne : p ≠ q) (h0 : 0 ≤ st.fd p) :
    st.fd p ≠ st.fd q := by
  cases p with
  | gp j =>
      cases q with
      | gp k => exact fun e => hne (congrArg Place.gp (h.apart j k h0 e))
      | kbm => exact h.apartKbm j h0
  | kbm =>
      cases q with
      | gp k => exact fun e => h.apartKbm k (by rw [e] at h0; exact h0) e.symm
      | kbm => exact absurd rfl hne

theorem fd_mem_opened (h : Ledger st) {p : Place} (h0 : 0 ≤ st.fd p) : st.fd p ∈ st.opened := by
  cases p with
  | gp k => exact h.gp k h0
  | kbm => exact h.kbm h0

/-- The effects of injection are for the descriptors written to. -/
theorem descriptor_injection {fx : List Effect} (h : Within [.injection] fx) {e : Effect}
    (he : e ∈ fx) {fd : Int} (hd : descriptor e = some fd) : fd ∈ writes fx := by
  refine List.mem_filterMap.mpr ⟨e, he, ?_⟩
  have hk := h e he
  cases e with
  | inputEvent fd' _ _ _ => exact hd
  | _ => simp [Effect.kind] at hk

/-- Another place keeps its descriptor when a table entry is set. -/
theorem fd_update {k : Fin maxSlots} {fd : Int} {p : Place} (hp : p ≠ .gp k)
    (names : Fin maxSlots → Bytes) (opened : Finset Int) :
    ({ st with gpFds := Function.update st.gpFds k fd, gpNames := names,
               opened := opened } : State).fd p = st.fd p := by
  cases p with
  | gp j => exact Function.update_of_ne (fun e => hp (by rw [e])) _ _
  | kbm => rfl

/-- What a function leaves of a place: its descriptor, and what is behind it. -/
structure Leaves (st : State) (p : Place) (r : State × List Effect) : Prop where
  fd : r.1.fd p = st.fd p
  effects : 0 ≤ st.fd p → ∀ e ∈ r.2, descriptor e ≠ some (st.fd p)

theorem Leaves.devices {p : Place} {r : State × List Effect} (h : Leaves st p r) (devs : Devices)
    (h0 : 0 ≤ st.fd p) : devs.applyAll r.2 (r.1.fd p) = devs (st.fd p) := by
  rw [h.fd]
  exact applyAll_of_ne (h.effects h0)

theorem Leaves.refl (p : Place) : Leaves st p (st, []) :=
  ⟨rfl, fun _ _ he => absurd he List.not_mem_nil⟩

/-- Injection into the device of another place. -/
theorem Leaves.injection (h : Ledger st) {p q : Place} (hne : p ≠ q) {fx : List Effect}
    (hw : Within [.injection] fx) (hq : ∀ fd ∈ writes fx, fd = st.fd q) : Leaves st p (st, fx) :=
  ⟨rfl, fun h0 _ he hd => fd_ne h hne h0 (hq _ (descriptor_injection hw he hd))⟩

theorem leaves_destroyGp (h : Ledger st) {k : Fin maxSlots} {p : Place} (hp : p ≠ .gp k) :
    Leaves st p (destroyGp st k) := by
  refine ⟨fd_update hp _ _, fun h0 e he => ?_⟩
  have hne : st.fd p ≠ st.gpFds k := fd_ne h hp h0
  rcases List.mem_pair.mp he with rfl | rfl <;>
    exact fun hd => hne (Option.some.inj hd).symm

theorem leaves_evictGp (h : Ledger st) {k : Fin maxSlots} {p : Place} (hp : p ≠ .gp k) :
    Leaves st p (evictGp st k) := by
  rw [evictGp]
  split
  · exact leaves_destroyGp h hp
  · exact .refl p

theorem leaves_freeSlot (h : Ledger st) {slot : UInt8} {p : Place}
    (hp : (slotOfByte slot).map Place.gp ≠ some p) : Leaves st p (inputFreeSlot slot st).2 := by
  rw [inputFreeSlot]
  split
  · exact .refl p
  · rename_i k hk
    have hne : p ≠ .gp k := fun e => hp (by rw [hk, e]; rfl)
    split
    · exact ⟨fd_update hne _ _, (leaves_destroyGp h hne).effects⟩
    · exact .refl p

theorem leaves_allocSlot (h : Ledger st) {u : Uinput} {slot : UInt8} (hu : AllocEnabled st u slot)
    (v p' ver : UInt16) (name : Option Bytes) {p : Place}
    (hp : (slotOfByte slot).map Place.gp ≠ some p) :
    Leaves st p (inputAllocSlot u slot v p' ver name st).2 := by
  rw [inputAllocSlot]
  split
  · exact .refl p
  · rename_i k hk
    have hne : p ≠ .gp k := fun e => hp (by rw [hk, e]; rfl)
    have he := leaves_evictGp h hne
    -- the new descriptor is not open, and that of the place is
    have hnew : 0 ≤ u.fd → 0 ≤ st.fd p → st.fd p ≠ u.fd := fun hu0 h0 e => by
      have hm := fd_mem_opened (h.evictGp k) (p := p) (by rw [he.fd]; exact h0)
      rw [he.fd, e] at hm
      exact hu k hk hu0 hm
    simp only
    split
    · exact he
    · rename_i hu0
      have hu0 := Int.not_lt.mp hu0
      have hfx : ∀ {e e' : Effect}, descriptor e = some u.fd → descriptor e' = some u.fd →
          0 ≤ st.fd p → ∀ x ∈ (evictGp st k).2 ++ [e, e'], descriptor x ≠ some (st.fd p) := by
        intro e e' hd hd' h0 x hx
        rcases List.mem_append.mp hx with hx | hx
        · exact he.effects h0 x hx
        · rcases List.mem_pair.mp hx with rfl | rfl
          · rw [hd]
            exact fun e => hnew hu0 h0 (Option.some.inj e).symm
          · rw [hd']
            exact fun e => hnew hu0 h0 (Option.some.inj e).symm
      split
      · exact ⟨(fd_update hne _ _).trans he.fd, hfx rfl rfl⟩
      · exact ⟨he.fd, hfx rfl rfl⟩

/-- **The frame of an operation.**  It leaves every place it is not about. -/
theorem operate_frame (h : Ledger st) {c : BackendCall} (ho : c.Operates) (he : c.Enabled st)
    {p : Place} (hp : c.about ≠ some p) : Leaves st p (c.run st) := by
  -- what is written to a slot is written to its device
  have hslot : ∀ {slot : UInt8} {fx : List Effect}, (slotOfByte slot).map Place.gp ≠ some p →
      Within [.injection] fx → (∀ fd ∈ writes fx, OnSlot st slot fd) → Leaves st p (st, fx) := by
    intro slot fx hp hw hfd
    cases hk : slotOfByte slot with
    | none =>
        refine ⟨rfl, fun _ e he hd => ?_⟩
        obtain ⟨k, hk', -⟩ := hfd _ (descriptor_injection hw he hd)
        rw [hk] at hk'
        cases hk'
    | some k =>
        refine .injection h (q := .gp k) (fun e => hp (by rw [hk, e]; rfl)) hw fun fd hf => ?_
        obtain ⟨j, hj, -, e⟩ := hfd fd hf
        rw [hk] at hj
        rw [e, Option.some.inj hj]
        rfl
  cases c with
  | init _ | shutdown => exact ho.elim
  | allocSlot u slot v p' ver name => exact leaves_allocSlot h he v p' ver name hp
  | freeSlot slot => exact leaves_freeSlot h hp
  | flushSlot slot => exact hslot hp within_flushSlot fun fd => mem_writes_flushSlot.mp
  | submitGamepad pkt =>
      cases pkt with
      | none => exact .refl p
      | some pkt => exact hslot hp within_submitGamepad fun fd => mem_writes_submitGamepad.mp
  | submitKbm vid ev key dx dy =>
      refine .injection h (q := .kbm) (fun e => hp (by rw [e]; rfl)) within_submitKbm ?_
      exact fun fd hf => (mem_writes_submitKbm.mp hf).2.2

end

/-! ### What a controller shows -/

/-- The values of a packet, and zero everywhere else. -/
def target : Option NearcadeGamepadPacket → Control → Int
  | none => neutral
  | some pkt => writeAll neutral (valuesOf (gamepadWrites pkt))

theorem target_some (pkt : NearcadeGamepadPacket) :
    target (some pkt) = writeAll neutral (valuesOf (gamepadWrites pkt)) := rfl

/-- The packet with all fields zero, for a slot. -/
def zeroPacket (slot : UInt8) : NearcadeGamepadPacket := ⟨0, 0, 0, 0, 0, 0, 0, 0, 0, 0, slot⟩

/-- The nineteen controls of a gamepad. -/
def controls : List Control := (valuesOf flushWrites).map Prod.fst

theorem controls_gamepadWrites (pkt : NearcadeGamepadPacket) :
    (valuesOf (gamepadWrites pkt)).map Prod.fst = (valuesOf (gamepadWrites (zeroPacket 0))).map
      Prod.fst := rfl

/-- A packet writes each control once. -/
theorem nodup_gamepadWrites (pkt : NearcadeGamepadPacket) :
    ((valuesOf (gamepadWrites pkt)).map Prod.fst).Nodup := by
  rw [controls_gamepadWrites]
  decide

/-- A packet writes the controls a flush writes. -/
theorem mem_controls (pkt : NearcadeGamepadPacket) (c : Control) :
    c ∈ (valuesOf (gamepadWrites pkt)).map Prod.fst ↔ c ∈ controls := by
  rw [controls_gamepadWrites]
  have hp : ((valuesOf (gamepadWrites (zeroPacket 0))).map Prod.fst).Perm controls := by decide
  exact hp.mem_iff

theorem types_gamepadWrites (pkt : NearcadeGamepadPacket) :
    ∀ w ∈ gamepadWrites pkt, w.1 = evKey ∨ w.1 = evAbs := by
  simp [gamepadWrites]

theorem types_flushWrites : ∀ w ∈ flushWrites, w.1 = evKey ∨ w.1 = evAbs := by decide

/-- Nothing but the controls of a gamepad is ever set on one. -/
theorem target_of_notMem {c : Control} (h : c ∉ controls) :
    ∀ x : Option NearcadeGamepadPacket, target x c = 0
  | none => rfl
  | some pkt => by
      rw [target_some]
      exact writeAll_of_notMem (fun hc => h ((mem_controls pkt c).mp hc)) _

/-- A packet replaces what was shown. -/
theorem writeAll_target_packet (x : Option NearcadeGamepadPacket) (pkt : NearcadeGamepadPacket) :
    writeAll (target x) (valuesOf (gamepadWrites pkt)) = target (some pkt) := by
  rw [target_some]
  refine writeAll_congr fun c hc => ?_
  exact target_of_notMem (fun h => hc ((mem_controls pkt c).mpr h)) x

/-- A flush leaves nothing shown. -/
theorem writeAll_target_flush (x : Option NearcadeGamepadPacket) :
    writeAll (target x) (valuesOf flushWrites) = target none := by
  have h0 : ∀ w ∈ valuesOf flushWrites, w.2 = 0 := by decide
  funext c
  by_cases hc : c ∈ controls
  · exact writeAll_const h0 hc _
  · exact (writeAll_of_notMem hc _).trans (target_of_notMem hc x)

/-- The zero packet writes what a flush writes. -/
theorem writeAll_zeroPacket (f : Control → Int) (slot : UInt8) :
    writeAll f (valuesOf (gamepadWrites (zeroPacket slot))) =
      writeAll f (valuesOf flushWrites) := by
  have hp : ∀ w ∈ valuesOf (gamepadWrites (zeroPacket slot)), w.2 = 0 := by
    show ∀ w ∈ valuesOf (gamepadWrites (zeroPacket 0)), w.2 = 0
    decide
  have h0 : ∀ w ∈ valuesOf flushWrites, w.2 = 0 := by decide
  funext c
  by_cases hc : c ∈ controls
  · rw [writeAll_const hp ((mem_controls _ c).mpr hc), writeAll_const h0 hc]
  · rw [writeAll_of_notMem (fun h => hc ((mem_controls _ c).mp h)), writeAll_of_notMem hc]

/-- The ten keys of the law, with their masks. -/
def buttonMasks : List (UInt16 × Nat) :=
  [(btnSouth, w3cA), (btnEast, w3cB), (btnNorth, w3cX), (btnWest, w3cY), (btnTl, w3cLb),
   (btnTr, w3cRb), (btnSelect, w3cBack), (btnStart, w3cStart), (btnThumbl, w3cLs),
   (btnThumbr, w3cRs)]

/-- What a device shows: a packet, or nothing. -/
def Shows (f : Control → Int) : Option NearcadeGamepadPacket → Prop
  | none => ∀ c, f c = 0
  | some pkt =>
      f (evAbs, absX) = pkt.lx.toInt ∧ f (evAbs, absY) = pkt.ly.toInt ∧
      f (evAbs, absRx) = pkt.rx.toInt ∧ f (evAbs, absRy) = pkt.ry.toInt ∧
      f (evAbs, absZ) = pkt.lt.toNat ∧ f (evAbs, absRz) = pkt.rt.toNat ∧
      f (evAbs, absHat0x) = pkt.hx.toInt ∧ f (evAbs, absHat0y) = pkt.hy.toInt ∧
      ∀ b ∈ buttonMasks, f (evKey, b.1) = if pkt.buttons.toNat &&& b.2 ≠ 0 then 1 else 0

theorem shows_target : ∀ x : Option NearcadeGamepadPacket, Shows (target x) x
  | none => fun _ => rfl
  | some pkt => by
      have hval : ∀ {c : Control} {v : Int}, (c, v) ∈ valuesOf (gamepadWrites pkt) →
          target (some pkt) c = v := by
        intro c v h
        rw [target_some]
        exact writeAll_of_mem (nodup_gamepadWrites pkt) h _
      have hkey : ∀ b ∈ buttonMasks,
          ((evKey, b.1), pressed pkt.buttons b.2) ∈ valuesOf (gamepadWrites pkt) := by
        simp [buttonMasks, valuesOf, gamepadWrites]
      refine ⟨hval ?_, hval ?_, hval ?_, hval ?_, hval ?_, hval ?_, hval ?_, hval ?_,
        fun b hb => hval (hkey b hb)⟩ <;> simp [valuesOf, gamepadWrites]

/-! ### The rig -/

/-- The backend and the kernel's devices. -/
structure Rig where
  st : State
  devs : Devices

/-- **The backend with the devices it drives.** -/
def rig : Machine Rig BackendCall Effect where
  enabled r c := c.Enabled r.st
  next r c := ⟨(c.run r.st).1, r.devs.applyAll (c.run r.st).2⟩
  out r c := (c.run r.st).2

instance (r : Rig) (c : BackendCall) : Decidable (rig.enabled r c) :=
  inferInstanceAs (Decidable (c.Enabled r.st))

/-- After `input_init`. -/
def Rig.started (u : Uinput) (st : State) (devs : Devices) : Rig :=
  ⟨(inputInit u st).2.1, devs.applyAll (inputInit u st).2.2⟩

/-- What a call leaves to be shown on a slot: a packet, or nothing. -/
def BackendCall.shows (k : Fin maxSlots) : BackendCall → Option (Option NearcadeGamepadPacket)
  | .allocSlot _ slot _ _ _ _ | .flushSlot slot =>
      if slotOfByte slot = some k then some none else none
  | .submitGamepad (some pkt) => if slotOfByte pkt.slot = some k then some (some pkt) else none
  | _ => none

/-- The packet submitted last for a slot, unless it was flushed or allocated since. -/
def latest (k : Fin maxSlots) (cs : List BackendCall) : Option NearcadeGamepadPacket :=
  (cs.filterMap (BackendCall.shows k)).getLast?.join

theorem latest_concat (k : Fin maxSlots) (cs : List BackendCall) (c : BackendCall) :
    latest k (cs ++ [c]) = (c.shows k).getD (latest k cs) := by
  rw [latest, List.filterMap_append]
  cases h : c.shows k with
  | none => simp [h, latest]
  | some x => simp [h]

theorem shows_eq_none {k : Fin maxSlots} {c : BackendCall} (h : c.about ≠ some (.gp k)) :
    c.shows k = none := by
  have hslot : ∀ {slot : UInt8}, (slotOfByte slot).map Place.gp ≠ some (.gp k) →
      slotOfByte slot ≠ some k := fun h e => h (by rw [e]; rfl)
  cases c with
  | allocSlot _ slot _ _ _ _ | flushSlot slot => exact if_neg (hslot h)
  | submitGamepad pkt =>
      cases pkt with
      | none => rfl
      | some pkt => exact if_neg (hslot h)
  | _ => rfl

/-- The device of every allocated slot shows what its history says. -/
structure Rig.Shown (r : Rig) (cs : List BackendCall) : Prop where
  ledger : Ledger r.st
  shown : ∀ k, 0 ≤ r.st.gpFds k →
    r.devs (r.st.gpFds k) = some (.settled (target (latest k cs)))

theorem shown_started (u : Uinput) (st : State) (devs : Devices) :
    (Rig.started u st devs).Shown [] :=
  ⟨ledger_inputInit u st, fun k h => absurd (noDevice_inputInit u st k) (Int.not_lt.mpr h)⟩

section
variable {r : Rig} {cs : List BackendCall} {k : Fin maxSlots} {slot : UInt8}

/-- A new device is neutral. -/
theorem Rig.shown_alloc (hk : slotOfByte slot = some k) {u : Uinput} {v p ver : UInt16}
    {name : Option Bytes}
    (h0 : 0 ≤ (inputAllocSlot u slot v p ver name r.st).2.1.gpFds k) :
    r.devs.applyAll (inputAllocSlot u slot v p ver name r.st).2.2
      ((inputAllocSlot u slot v p ver name r.st).2.1.gpFds k) = some (.settled (target none)) := by
  have hev := gpFds_evictGp r.st k
  revert h0
  simp only [inputAllocSlot, hk]
  split
  · exact fun h0 => absurd hev (Int.not_lt.mpr h0)
  · split
    · intro _
      rw [applyAll_append]
      simp [Devices.applyAll, Devices.apply, target]
    · exact fun h0 => absurd hev (Int.not_lt.mpr h0)

/-- A freed slot has no device. -/
theorem gpFds_freeSlot (hk : slotOfByte slot = some k) (st : State) :
    (inputFreeSlot slot st).2.1.gpFds k < 0 := by
  simp only [inputFreeSlot, hk]
  split
  · simp [destroyGp]
  · rename_i h
    exact Int.not_le.mp h

theorem Rig.Shown.flush (h : r.Shown cs) (hk : slotOfByte slot = some k)
    (h0 : 0 ≤ r.st.gpFds k) :
    r.devs.applyAll (inputFlushSlot r.st slot).2 (r.st.gpFds k) =
      some (.settled (target none)) := by
  simp only [inputFlushSlot, hk, if_pos h0, flushEvents, applyAll_report h0 types_flushWrites,
    Function.update_self, h.shown k h0, Option.map_some, Device.frame_settled,
    writeAll_target_flush]

theorem Rig.Shown.submit (h : r.Shown cs) {pkt : NearcadeGamepadPacket}
    (hk : slotOfByte pkt.slot = some k) (h0 : 0 ≤ r.st.gpFds k) :
    r.devs.applyAll (inputSubmitGamepad r.st (some pkt)).2 (r.st.gpFds k) =
      some (.settled (target (some pkt))) := by
  simp only [inputSubmitGamepad, hk, if_neg (Int.not_lt.mpr h0), gamepadEvents,
    applyAll_report h0 (types_gamepadWrites pkt), Function.update_self, h.shown k h0,
    Option.map_some, Device.frame_settled, writeAll_target_packet]

/-- **One operation.** -/
theorem Rig.Shown.next (h : r.Shown cs) {c : BackendCall} (he : c.Enabled r.st) :
    (rig.next r c).Shown (cs ++ [c]) := by
  refine ⟨(follows_run h.ledger he).ledger, fun k h0 => ?_⟩
  rw [latest_concat]
  by_cases hc : c.about = some (.gp k)
  · -- the call is about this slot
    have hslot : ∀ {slot : UInt8}, (slotOfByte slot).map Place.gp = some (.gp k) →
        slotOfByte slot = some k := by
      intro slot hs
      obtain ⟨j, hj, e⟩ := Option.map_eq_some_iff.mp hs
      rw [hj, Place.gp.inj e]
    cases c with
    | init _ | shutdown | submitKbm _ _ _ _ _ => cases hc
    | allocSlot u slot v p ver name =>
        have hk := hslot hc
        rw [BackendCall.shows, if_pos hk]
        exact shown_alloc hk h0
    | freeSlot slot =>
        exact absurd (gpFds_freeSlot (hslot hc) r.st) (Int.not_lt.mpr h0)
    | flushSlot slot =>
        have hk := hslot hc
        rw [BackendCall.shows, if_pos hk]
        exact h.flush hk h0
    | submitGamepad pkt =>
        cases pkt with
        | none => cases hc
        | some pkt =>
            have hk := hslot hc
            rw [BackendCall.shows, if_pos hk]
            exact h.submit hk h0
  · rw [shows_eq_none hc, Option.getD_none]
    by_cases ho : c.Operates
    · -- another device's call leaves this one as it is
      have hl := operate_frame h.ledger ho he hc
      have hfd : (c.run r.st).1.gpFds k = r.st.gpFds k := hl.fd
      have h0' : 0 ≤ r.st.gpFds k := hfd ▸ h0
      exact (hl.devices r.devs h0').trans (h.shown k h0')
    · -- `input_init` and `input_shutdown` leave no slot with a device
      cases c with
      | init u => exact absurd (noDevice_inputInit u r.st k) (Int.not_lt.mpr h0)
      | shutdown => exact absurd ((idle_inputShutdown r.st).2 k) (Int.not_lt.mpr h0)
      | _ => exact absurd trivial ho

end

theorem shown_run {u : Uinput} {st : State} {devs : Devices} {cs : List BackendCall}
    (hv : rig.Valid (.started u st devs) cs) :
    (rig.final (.started u st devs) cs).Shown cs := by
  have h := Machine.run_induction (M := rig) (P := fun t r => r.Shown (t.map Entry.input))
    (shown_started u st devs) (fun t r c h he => by rw [List.map_append]; exact h.next he) hv
  rwa [Machine.map_input_trace] at h

/-! ### Flush and report -/

/-- A flush does to the devices what the zero packet does. -/
theorem flush_eq_zeroPacket (r : Rig) (slot : UInt8) :
    (rig.next r (.flushSlot slot)).devs =
      (rig.next r (.submitGamepad (some (zeroPacket slot)))).devs := by
  show r.devs.applyAll (inputFlushSlot r.st slot).2 =
    r.devs.applyAll (inputSubmitGamepad r.st (some (zeroPacket slot))).2
  have hs : (zeroPacket slot).slot = slot := rfl
  simp only [inputFlushSlot, inputSubmitGamepad, hs]
  cases slotOfByte slot with
  | none => rfl
  | some k =>
      by_cases h0 : 0 ≤ r.st.gpFds k
      · simp only [if_pos h0, if_neg (Int.not_lt.mpr h0), flushEvents, gamepadEvents,
          applyAll_report h0 types_flushWrites, applyAll_report h0 (types_gamepadWrites _),
          Device.frame, writeAll_zeroPacket]
      · simp only [if_neg h0, if_pos (Int.not_le.mp h0)]

/-- SYN_REPORT. -/
def IsReport : Effect → Prop
  | .inputEvent _ type code _ => type = evSyn ∧ code = synReport
  | _ => False

/-- A report to a descriptor ends the effects, and is the only one. -/
def ReportsOnce (fd : Int) (fx : List Effect) : Prop :=
  ∃ body, fx = body ++ [.inputEvent fd evSyn synReport 0] ∧ ∀ e ∈ body, ¬ IsReport e

theorem reportsOnce_emitAll {fd : Int} (h0 : 0 ≤ fd) {ws : List (UInt16 × UInt16 × Int)}
    (hws : ∀ w ∈ ws, w.1 = evKey ∨ w.1 = evAbs) : ReportsOnce fd (emitAll fd ws ++ syn fd) := by
  refine ⟨emitAll fd ws, ?_, fun e he => ?_⟩
  · rw [syn, if_pos h0, emit, if_neg (Int.not_lt.mpr h0)]
  · obtain ⟨⟨type, code, val⟩, hw, he⟩ := List.mem_flatMap.mp he
    have he : e ∈ emit fd type code val := he
    rw [emit, if_neg (Int.not_lt.mpr h0)] at he
    rw [List.mem_singleton.mp he]
    rintro ⟨e, -⟩
    have ht : type = evKey ∨ type = evAbs := hws _ hw
    rw [e] at ht
    exact absurd ht (by decide)

theorem reportsOnce_flush {st : State} {slot : UInt8} {k : Fin maxSlots}
    (hk : slotOfByte slot = some k) (h0 : 0 ≤ st.gpFds k) :
    ReportsOnce (st.gpFds k) (inputFlushSlot st slot).2 := by
  simp only [inputFlushSlot, hk, if_pos h0]
  exact reportsOnce_emitAll h0 types_flushWrites

theorem reportsOnce_submit {st : State} {pkt : NearcadeGamepadPacket} {k : Fin maxSlots}
    (hk : slotOfByte pkt.slot = some k) (h0 : 0 ≤ st.gpFds k) :
    ReportsOnce (st.gpFds k) (inputSubmitGamepad st (some pkt)).2 := by
  simp only [inputSubmitGamepad, hk, if_neg (Int.not_lt.mpr h0)]
  exact reportsOnce_emitAll h0 (types_gamepadWrites pkt)

/-- **The virtual controllers follow the packets.**  In every run after `input_init`: the device of
an allocated slot shows the latest packet, or is neutral; a flush does what the zero packet does;
each ends with its only report; and an operation leaves the other devices as they are. -/
theorem controller_follows (u : Uinput) (st : State) (devs : Devices) {cs : List BackendCall}
    (hv : rig.Valid (.started u st devs) cs) :
    let r := rig.final (.started u st devs) cs
    (∀ k, 0 ≤ r.st.gpFds k →
      ∃ d, r.devs (r.st.gpFds k) = some d ∧ Shows d.shown (latest k cs)) ∧
    (∀ slot, (rig.next r (.flushSlot slot)).devs =
      (rig.next r (.submitGamepad (some (zeroPacket slot)))).devs) ∧
    (∀ slot k, slotOfByte slot = some k → 0 ≤ r.st.gpFds k →
      ReportsOnce (r.st.gpFds k) (rig.out r (.flushSlot slot)) ∧
      ∀ pkt, pkt.slot = slot →
        ReportsOnce (r.st.gpFds k) (rig.out r (.submitGamepad (some pkt)))) ∧
    ∀ c : BackendCall, c.Operates → c.Enabled r.st → ∀ p, c.about ≠ some p → 0 ≤ r.st.fd p →
      (rig.next r c).st.fd p = r.st.fd p ∧
        (rig.next r c).devs (r.st.fd p) = r.devs (r.st.fd p) := by
  intro r
  have h : r.Shown cs := shown_run hv
  refine ⟨fun k h0 => ⟨_, h.shown k h0, shows_target _⟩, flush_eq_zeroPacket r, ?_, ?_⟩
  · rintro slot k hk h0
    refine ⟨reportsOnce_flush hk h0, ?_⟩
    rintro pkt rfl
    exact reportsOnce_submit hk h0
  · intro c ho he p hp h0
    have hl := operate_frame h.ledger ho he hp
    exact ⟨hl.fd, applyAll_of_ne (hl.effects h0)⟩

/-- Two controllers, one of them replaced and flushed. -/
def played : List BackendCall :=
  [.allocSlot ⟨4, true, true⟩ 0 0x045e 0x028e 1 none,
   .allocSlot ⟨5, true, true⟩ 1 0x045e 0x028e 1 none,
   .submitGamepad (some ⟨1, 1, -2, 3, -4, 5, 6, 0x0f03, 1, -1, 0⟩),
   .submitKbm [] (bytes "keydown") (some (bytes "KEY_W")) 0 0,
   .submitGamepad (some ⟨1, 0, 0, 0, 0, 0, 0, 0x0008, 0, 0, 1⟩), .flushSlot 1]

theorem controller_follows_played :
    let r := rig.final (.started ⟨3, true, true⟩ .boot fun _ => none) played
    (∃ d, r.devs 4 = some d ∧ Shows d.shown (some ⟨1, 1, -2, 3, -4, 5, 6, 0x0f03, 1, -1, 0⟩)) ∧
      (∃ d, r.devs 5 = some d ∧ Shows d.shown none) ∧
      ReportsOnce 4 (rig.out r (.flushSlot 0)) := by
  intro r
  have h4 : r.st.gpFds 0 = 4 := by decide +kernel
  have h5 : r.st.gpFds 1 = 5 := by decide +kernel
  have hv : rig.Valid (.started ⟨3, true, true⟩ .boot fun _ => none) played := by decide +kernel
  obtain ⟨hshows, -, honce, -⟩ := controller_follows ⟨3, true, true⟩ .boot (fun _ => none) hv
  have hfirst := hshows 0 (h4 ▸ by decide)
  have hsecond := hshows 1 (h5 ▸ by decide)
  have hflush := (honce 0 0 rfl (h4 ▸ by decide)).1
  rw [h4] at hfirst hflush
  rw [h5] at hsecond
  exact ⟨hfirst, hsecond, hflush⟩

end Nearcade.Input
