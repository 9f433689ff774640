import Nearcade.System.Devices
import Nearcade.System.Events

/-!
# Lanes — Isolation

Whether one viewer can move another's controller.  Two runs are in lockstep under `Twin v` when they
differ only in what viewers other than `v` send on their data channels, and `deviceEvents k` are the
input events a run writes to the device on slot `k`.

* `deviceEvents_eq`: what a viewer sends reaches the device of the slot its packets name, and no
  other, so runs agree on slot `k` where no other viewer's packet names it.
* `input_isolated_iff`: the slot byte is all that decides, whoever owns the slot.  The runs of an
  interleaving agree just when no other viewer sends anything while the slot has a device.
-/

namespace Nearcade
open Text Runs

/-! ### Runs that differ in what the others send -/

/-- The same input, or two messages of one viewer other than `v`. -/
def Twin (v : Int) (w : World) (i j : Input) : Prop :=
  i = j ∨ ∃ pc m m', i = .net (.message pc m) ∧ j = .net (.message pc m') ∧
    w.sdk.rtc.captured pc ≠ some v

theorem Twin.refl (v : Int) (w : World) (i : Input) : Twin v w i i := .inl rfl

/-- A message changes no state, so twins lead to the same world. -/
theorem Twin.next_eq {ov : Int → Int} {v : Int} {w : World} {i j : Input} (h : Twin v w i j) :
    (system ov).next w i = (system ov).next w j := by
  obtain rfl | ⟨pc, m, m', rfl, rfl, -⟩ := h <;> rfl

/-! ### What is written to a device -/

/-- An event as a device gets it: type, code and value. -/
abbrev DeviceEvent := UInt16 × UInt16 × Int

/-- The events written to a device. -/
def writtenTo (fd : Int) (fx : List Effect) : List DeviceEvent :=
  if fd < 0 then []
  else fx.filterMap fun
    | .inputEvent fd' type code value => if fd' = fd then some (type, code, value) else none
    | _ => none

/-- The events written to the device on a slot, in order. -/
def deviceEvents (k : Fin maxSlots) (t : Trace) : List DeviceEvent :=
  t.flatMap fun e => writtenTo (e.pre.sdk.inp.gpFds k) e.out

theorem writtenTo_of_neg {fd : Int} (h : fd < 0) (fx : List Effect) : writtenTo fd fx = [] :=
  if_pos h

@[simp] theorem writtenTo_nil (fd : Int) : writtenTo fd [] = [] := by
  rw [writtenTo]
  split <;> rfl

@[simp] theorem writtenTo_append (fd : Int) (fx fx' : List Effect) :
    writtenTo fd (fx ++ fx') = writtenTo fd fx ++ writtenTo fd fx' := by
  simp only [writtenTo]
  split
  · rfl
  · exact List.filterMap_append

@[simp] theorem writtenTo_fireEvent (fd : Int) (g : NearcadeState) (ev : NearcadeEvent) :
    writtenTo fd (fireEvent g ev) = [] := by
  rw [writtenTo]
  split <;> rfl

/-- `emit` writes to its own device. -/
theorem writtenTo_emit {fd : Int} (h : 0 ≤ fd) (fd' : Int) (type code : UInt16) (val : Int) :
    writtenTo fd (Input.emit fd' type code val) =
      if fd' = fd then [(type, code, val)] else [] := by
  have hfd := Int.not_lt.mpr h
  rw [writtenTo, if_neg hfd, Input.emit]
  by_cases e : fd' = fd
  · subst e
    simp [hfd]
  · split <;> simp [e]

theorem writtenTo_emitAll {fd : Int} (h : 0 ≤ fd) (fd' : Int) (ws : List DeviceEvent) :
    writtenTo fd (Input.emitAll fd' ws) = if fd' = fd then ws else [] := by
  induction ws with
  | nil => simp [Input.emitAll]
  | cons x ws ih =>
      rw [Input.emitAll, List.flatMap_cons, writtenTo_append, writtenTo_emit h]
      rw [Input.emitAll] at ih
      rw [ih]
      split <;> rfl

/-- **A packet is written to the device of its slot, and to no other.** -/
theorem writtenTo_gamepadEvents {fd : Int} (h : 0 ≤ fd) (fd' : Int)
    (pkt : NearcadeGamepadPacket) :
    writtenTo fd (Input.gamepadEvents fd' pkt) =
      if fd' = fd then Input.gamepadWrites pkt ++ [(Input.evSyn, Input.synReport, 0)] else [] := by
  rw [Input.gamepadEvents, writtenTo_append, writtenTo_emitAll h, Input.syn]
  by_cases e : fd' = fd
  · subst e
    rw [if_pos rfl, if_pos h, writtenTo_emit h, if_pos rfl, if_pos rfl]
  · rw [if_neg e, if_neg e]
    split
    · rw [writtenTo_emit h, if_neg e]
      rfl
    · simp

/-! ### Messages -/

section
variable {ov : Int → Int} {w : World} {is : List Input}

/-- What a message puts out, where the callbacks are set. -/
theorem out_message (h : Wired w.sdk.rtc) (pc : PcId) (bin : Bytes) :
    (system ov).out w (.net (.message pc (.binary bin))) =
      match NearcadeGamepadPacket.ofBytes bin with
      | some pkt => webrtcReceivedInput w.sdk pkt
      | none => [] := by
  cases hb : NearcadeGamepadPacket.ofBytes bin <;>
    simp [system, Net.run, Webrtc.onMessage, h.input, hb]

/-- A message on a PeerConnection that exists finds the callbacks set. -/
theorem wired_of_message (hw : WiredWhenUp w.sdk.rtc) {pc : PcId} {m : Webrtc.ChanMsg}
    (he : (system ov).enabled w (.net (.message pc m))) : Wired w.sdk.rtc := by
  have hlt : pc < w.sdk.rtc.pcs.length := he
  exact hw.2 (List.ne_nil_of_length_pos (Nat.zero_lt_of_lt hlt))

/-- What a packet writes to the device on a slot. -/
theorem writtenTo_received (s : State) (k : Fin maxSlots) (hk : 0 ≤ s.inp.gpFds k)
    (pkt : NearcadeGamepadPacket) :
    writtenTo (s.inp.gpFds k) (webrtcReceivedInput s pkt) =
      match Input.slotOfByte pkt.slot with
      | some j =>
          if s.inp.gpFds j = s.inp.gpFds k then
            Input.gamepadWrites pkt ++ [(Input.evSyn, Input.synReport, 0)]
          else []
      | none => [] := by
  rw [webrtcReceivedInput, writtenTo_append, writtenTo_fireEvent, List.append_nil]
  simp only [Input.inputSubmitGamepad]
  cases Input.slotOfByte pkt.slot with
  | none => simp
  | some j =>
      simp only
      split
      · rename_i hj
        have hne : ¬ s.inp.gpFds j = s.inp.gpFds k := fun e => Int.not_lt.mpr hk (e ▸ hj)
        rw [if_neg hne, writtenTo_nil]
      · exact writtenTo_gamepadEvents hk _ pkt

variable (ov) in
/-- A message that names another slot writes nothing to the device on this one. -/
theorem writtenTo_message (hw : Wired w.sdk.rtc) (hl : Ledger w.sdk.inp) {k : Fin maxSlots}
    (pc : PcId) {m : Webrtc.ChanMsg}
    (hm : ∀ bin pkt, m = .binary bin → NearcadeGamepadPacket.ofBytes bin = some pkt →
      pkt.slot.toNat ≠ k.val) :
    writtenTo (w.sdk.inp.gpFds k) ((system ov).out w (.net (.message pc m))) = [] := by
  by_cases hk : w.sdk.inp.gpFds k < 0
  · exact writtenTo_of_neg hk _
  have hk := Int.not_lt.mp hk
  cases m with
  | string str => exact writtenTo_nil _
  | binary bin =>
      rw [out_message hw]
      cases hb : NearcadeGamepadPacket.ofBytes bin with
      | none => exact writtenTo_nil _
      | some pkt =>
          simp only
          rw [writtenTo_received _ _ hk]
          -- the packet's slot is another one, and so is its descriptor
          have hslot : ∀ j, Input.slotOfByte pkt.slot = some j → j ≠ k := by
            rintro j hj rfl
            refine hm bin pkt rfl hb ?_
            rw [Input.slotOfByte] at hj
            split at hj
            · rw [← Option.some.inj hj]
            · cases hj
          cases hj : Input.slotOfByte pkt.slot with
          | none => rfl
          | some j =>
              simp only
              have hne : ¬ w.sdk.inp.gpFds j = w.sdk.inp.gpFds k := fun e =>
                hslot j hj (hl.apart j k (hk.trans_eq e.symm) e)
              rw [if_neg hne]

/-! ### Isolation -/

/-- In the trace, no packet of a viewer other than `v` names the slot. -/
def Unaddressed (v : Int) (k : Fin maxSlots) (t : Trace) : Prop :=
  ∀ e ∈ t, ∀ pc bin pkt, e.input = .net (.message pc (.binary bin)) →
    e.pre.sdk.rtc.captured pc ≠ some v → NearcadeGamepadPacket.ofBytes bin = some pkt →
      pkt.slot.toNat ≠ k.val

/-- **Runs agree on a slot that no other viewer's packet names.** -/
theorem deviceEvents_eq (hw : WiredWhenUp w.sdk.rtc) (hl : Ledger w.sdk.inp)
    (hv : (system ov).Valid w is) {js : List Input} {v : Int} {k : Fin maxSlots}
    (h : (system ov).Lockstep (Twin v) w is js) (hi : Unaddressed v k ((system ov).trace w is))
    (hj : Unaddressed v k ((system ov).trace w js)) :
    deviceEvents k ((system ov).trace w is) = deviceEvents k ((system ov).trace w js) := by
  refine h.observe (fun _ _ _ ht => ht.next_eq) fun w' i j ht hmi hmj => ?_
  obtain rfl | ⟨pc, m, m', rfl, rfl, hc⟩ := ht
  · rfl
  · obtain ⟨⟨hw', hl'⟩, he, -⟩ := Machine.invariant_trace
      (I := fun w => WiredWhenUp w.sdk.rtc ∧ Ledger w.sdk.inp) ⟨hw, hl⟩
      (fun w i h he => ⟨h.1.next i, h.2.next he⟩) hv hmi
    have hup := wired_of_message hw' he
    refine (writtenTo_message ov hup hl' pc fun bin pkt e hb => ?_).trans
      (writtenTo_message ov hup hl' pc fun bin pkt e hb => ?_).symm
    · exact hi _ hmi pc bin pkt (e ▸ rfl) hc hb
    · exact hj _ hmj pc bin pkt (e ▸ rfl) hc hb

/-- On each slot `v` owns, any two runs in lockstep with `is` agree. -/
def Isolated (ov : Int → Int) (w : World) (v : Int) (is : List Input) : Prop :=
  ∀ k, w.sdk.g.slots.Owns k (viewerId v) → ∀ is₁ is₂, (system ov).Valid w is₁ →
    (system ov).Valid w is₂ → (system ov).Lockstep (Twin v) w is is₁ →
      (system ov).Lockstep (Twin v) w is is₂ →
        deviceEvents k ((system ov).trace w is₁) = deviceEvents k ((system ov).trace w is₂)

/-- No other viewer's message arrives while a slot `v` owns has a device. -/
def Undisturbed (ov : Int → Int) (w : World) (v : Int) (is : List Input) : Prop :=
  ∀ k, w.sdk.g.slots.Owns k (viewerId v) → ∀ e ∈ (system ov).trace w is, ∀ pc m,
    e.input = .net (.message pc m) → e.pre.sdk.rtc.captured pc ≠ some v →
      e.pre.sdk.inp.gpFds k < 0

/-- Undisturbed runs write what the runs in lockstep with them write. -/
theorem Undisturbed.deviceEvents_eq {v : Int} (h : Undisturbed ov w v is) {k : Fin maxSlots}
    (hk : w.sdk.g.slots.Owns k (viewerId v)) {js : List Input}
    (hl : (system ov).Lockstep (Twin v) w is js) :
    deviceEvents k ((system ov).trace w is) = deviceEvents k ((system ov).trace w js) := by
  refine hl.observe (fun _ _ _ ht => ht.next_eq) fun w' i j ht hmi _ => ?_
  obtain rfl | ⟨pc, m, m', rfl, rfl, hc⟩ := ht
  · rfl
  · have hneg := h k hk _ hmi pc m rfl hc
    exact (writtenTo_of_neg hneg _).trans (writtenTo_of_neg hneg _).symm

/-- A packet that names a slot. -/
def packetFor (k : Fin maxSlots) : Bytes := List.replicate 15 0 ++ [UInt8.ofNat k.val]

theorem slotOfByte_ofNat : ∀ k : Fin maxSlots, Input.slotOfByte (UInt8.ofNat k.val) = some k := by
  decide

theorem ofBytes_packetFor (k : Fin maxSlots) :
    ∃ pkt, NearcadeGamepadPacket.ofBytes (packetFor k) = some pkt ∧
      Input.slotOfByte pkt.slot = some k :=
  ⟨_, rfl, slotOfByte_ofNat k⟩

/-- A packet that names a slot with a device moves it. -/
theorem writtenTo_packetFor (hw : Wired w.sdk.rtc) {k : Fin maxSlots}
    (hk : 0 ≤ w.sdk.inp.gpFds k) (pc : PcId) :
    writtenTo (w.sdk.inp.gpFds k)
      ((system ov).out w (.net (.message pc (.binary (packetFor k))))) ≠ [] := by
  obtain ⟨pkt, hb, hslot⟩ := ofBytes_packetFor k
  rw [out_message hw, hb]
  simp only
  rw [writtenTo_received _ _ hk, hslot]
  simp

/-- **The runs of an interleaving agree on the slots of `v` just when nobody else sends anything
while they have a device**; and two runs agree where nobody else's packet names the slot. -/
theorem input_isolated_iff (hw : WiredWhenUp w.sdk.rtc)
    (ht : TablesReached ⟨w.sdk.g.slots, w.sdk.inp⟩) (hv : (system ov).Valid w is) (v : Int) :
    (Isolated ov w v is ↔ Undisturbed ov w v is) ∧
      ∀ k js, (system ov).Lockstep (Twin v) w is js → Unaddressed v k ((system ov).trace w is) →
        Unaddressed v k ((system ov).trace w js) →
          deviceEvents k ((system ov).trace w is) = deviceEvents k ((system ov).trace w js) := by
  refine ⟨⟨fun h k hk e he pc m hm hc => ?_, fun h k hk is₁ is₂ _ _ h₁ h₂ => ?_⟩,
    fun k js => deviceEvents_eq hw (ledger_of_reached ht) hv⟩
  · -- two runs that differ there: one with a message that is no packet, one with a packet
    by_contra hneg
    obtain ⟨is₁, is₂, rfl, hpre⟩ := Machine.split_of_mem_trace he
    rw [hm] at hv h
    obtain ⟨hv₁, hen, hv₂⟩ := Machine.valid_append.mp hv
    have hvalid : ∀ m', (system ov).Valid w (is₁ ++ .net (.message pc m') :: is₂) := fun m' =>
      Machine.valid_append.mpr ⟨hv₁, hen, hv₂⟩
    have hlock : ∀ m', (system ov).Lockstep (Twin v) w (is₁ ++ .net (.message pc m) :: is₂)
        (is₁ ++ .net (.message pc m') :: is₂) := fun m' =>
      .replace (Twin.refl v) (.inr ⟨pc, m, m', rfl, rfl, hpre ▸ hc⟩)
    have heq := h k hk _ _ (hvalid (.string [])) (hvalid (.binary (packetFor k))) (hlock _)
      (hlock _)
    simp only [deviceEvents, Machine.trace_append, Machine.trace, List.flatMap_append,
      List.flatMap_cons] at heq
    have hsame := List.append_cancel_right (List.append_cancel_left heq)
    have hup : Wired ((system ov).final w is₁).sdk.rtc :=
      wired_of_message (Machine.invariant (I := fun w => WiredWhenUp w.sdk.rtc) hw
        (fun _ i hw _ => hw.next i) hv₁) hen
    rw [hpre, Int.not_lt] at hneg
    exact writtenTo_packetFor hup hneg pc (hsame.symm.trans (writtenTo_nil _))
  · exact (h.deviceEvents_eq hk h₁).symm.trans (h.deviceEvents_eq hk h₂)

end

/-! ### Two viewers -/

/-- The first viewer gets slot 0, and a device on it. -/
def claimFirst : List TableStep :=
  [.claim (some (viewerId 0)), .alloc ⟨5, true, true⟩ 0 0x045e 0x028e 1 none]

/-- The tables after that. -/
def firstSlot : Tables :=
  tables.final ⟨.zero, (Input.inputInit InitEnv.good.kbm .boot).2.1⟩ claimFirst

/-- Two viewers connect. -/
def connectTwo : List Input :=
  reporting [.connecting, .connected] ++
    [connect 8, .net (.stateChange 1 .connecting), .net (.stateChange 1 .connected)]

/-- Two viewers are connected, and the first has slot 0. -/
def World.twoViewers : World :=
  let w := (system id).final .first connectTwo
  { w with sdk := { w.sdk with
      g := { w.sdk.g with slots := firstSlot.slots }
      inp := firstSlot.inp } }

theorem firstSlot_reached : TablesReached firstSlot :=
  ⟨InitEnv.good.kbm, .boot, claimFirst, by decide +kernel, rfl⟩

theorem twoViewers_wired : WiredWhenUp World.twoViewers.sdk.rtc := by
  have hv : (system id).Valid .first connectTwo := by decide +kernel
  exact ((started_first id).inv_final hv).wired

/-- The first viewer's own packets do not break its isolation. -/
theorem input_isolated_iff_own :
    Isolated id .twoViewers 0 [.net (.message 0 (.binary (packetFor 0)))] := by
  refine (input_isolated_iff twoViewers_wired firstSlot_reached (by decide +kernel) 0).1.mpr ?_
  intro k _ e he pc m hm hc
  obtain rfl := List.mem_singleton.mp he
  cases hm
  exact absurd (by decide +kernel) hc

/-- The second viewer moves the first one's controller. -/
theorem second_viewer_injects :
    TablesReached ⟨World.twoViewers.sdk.g.slots, World.twoViewers.sdk.inp⟩ ∧
      WiredWhenUp World.twoViewers.sdk.rtc ∧
      (system id).Valid .twoViewers [.net (.message 1 (.string []))] ∧
      ¬ Isolated id .twoViewers 0 [.net (.message 1 (.string []))] := by
  refine ⟨firstSlot_reached, twoViewers_wired, by decide +kernel, fun h => ?_⟩
  have hc : World.twoViewers.sdk.rtc.captured 1 ≠ some 0 := by decide +kernel
  have heq := h 0 (by decide +kernel) [.net (.message 1 (.string []))]
    [.net (.message 1 (.binary (packetFor 0)))] (by decide +kernel) (by decide +kernel)
    ⟨.inr ⟨1, _, _, rfl, rfl, hc⟩, trivial⟩ ⟨.inr ⟨1, _, _, rfl, rfl, hc⟩, trivial⟩
  revert heq
  decide +kernel

end Nearcade
