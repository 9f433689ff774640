import Nearcade.Input.Keyboard
import Nearcade.Lifecycle.Reinit

/-!
# Lanes — Injection

The virtual devices of the whole SDK.  Every step of the SDK and of its tables comes to operations
of the input backend (`PlayStep.operations`), and does to the devices what they do
(`PlayStep.comesTo`); so a run of the SDK is a run of the backend (`run_comesTo`).

* `devices_follow`: whatever the application calls and the viewers send, each gamepad shows the last
  packet for its slot, and the keyboard and mouse what `nearcade_submit_kbm` was told.
-/

namespace Nearcade
open Text Runs Input

/-! ### Operations -/

/-- The operations a call comes to. -/
def Call.operations (s : State) : Call → List BackendCall
  | .init config e _ =>
      if e.viewerLock = false ∨ e.slotsLock = false then []
      else if (inputInit e.kbm s.inp).1 ≠ .ok then [.init e.kbm]
      -- the device goes again where `signaling_init` fails
      else if (initSignaling config e s).1 ≠ .ok then [.init e.kbm, .shutdown]
      else [.init e.kbm]
  | .shutdown _ => if s.g.running then [.shutdown] else []
  | .submitGamepad (some pkt) => [.submitGamepad (some pkt)]
  | .submitKbm (some vid) (some ev) key dx dy => [.submitKbm vid ev key dx dy]
  | .flushSlot slot => [.flushSlot slot]
  | .disconnectViewer id =>
      match id.bind (findViewer s.g) with
      | some i => [.freeSlot (UInt8.ofInt (s.g.viewers i).slot)]
      | none => []
  | _ => []

/-- The operations a callback comes to: those of a viewer's packet. -/
def Net.operations (s : State) : Net → List BackendCall
  | .message _ msg =>
      match Webrtc.onMessage s.rtc msg with
      | some pkt => [.submitGamepad (some pkt)]
      | none => []
  | _ => []

/-- The operations on the tables. -/
def TableStep.operations : TableStep → List BackendCall
  | .alloc u slot v p ver name => [.allocSlot u slot v p ver name]
  | .free slot => [.freeSlot slot]
  | _ => []

/-- The operations a step comes to. -/
def PlayStep.operations (w : World) : PlayStep → List BackendCall
  | .sdk (.call c) => c.operations w.sdk
  | .sdk (.net n) => n.operations w.sdk
  | .table t => t.operations

/-- The effects on devices. -/
def onDevices (fx : List Effect) : List Effect :=
  fx.filter fun e => decide (e.kind = .device ∨ e.kind = .injection)

@[simp] theorem onDevices_append (fx fx' : List Effect) :
    onDevices (fx ++ fx') = onDevices fx ++ onDevices fx' := List.filter_append ..

theorem onDevices_self {fx : List Effect} (h : Within [.device, .injection] fx) :
    onDevices fx = fx :=
  List.filter_eq_self.mpr fun e he => by
    have hk := h e he
    simpa using hk

theorem onDevices_foreign {ks : List Kind} {fx : List Effect} (h : Within ks fx)
    (hd : .device ∉ ks) (hi : .injection ∉ ks) : onDevices fx = [] :=
  List.filter_eq_nil_iff.mpr fun e he => by
    have hk := h e he
    simp only [decide_eq_true_eq, not_or]
    exact ⟨fun e => hd (e ▸ hk), fun e => hi (e ▸ hk)⟩

/-- What does nothing with the other effects need not see them. -/
theorem foldl_onDevices {σ : Type*} {f : σ → Effect → σ}
    (hf : ∀ s e, ¬ (e.kind = .device ∨ e.kind = .injection) → f s e = s) (s : σ)
    (fx : List Effect) : (onDevices fx).foldl f s = fx.foldl f s := by
  rw [onDevices, List.foldl_filter]
  congr 1
  funext s e
  split
  · rfl
  · rename_i hk
    exact (hf s e (by simpa using hk)).symm

theorem applyAll_onDevices (devs : Devices) (fx : List Effect) :
    devs.applyAll (onDevices fx) = devs.applyAll fx :=
  foldl_onDevices (fun devs e hk => by
    cases e with
    | inputEvent | uinputOpen | uinputCreate | uinputDestroy | close =>
        exact absurd (by simp [Effect.kind]) hk
    | _ => rfl) devs fx

theorem Input.Pointers.applyAll_onDevices (ps : Pointers) (fx : List Effect) :
    ps.applyAll (onDevices fx) = ps.applyAll fx :=
  foldl_onDevices (fun ps e hk => by
    cases e with
    | inputEvent | uinputOpen | uinputCreate | uinputDestroy | close =>
        exact absurd (by simp [Effect.kind]) hk
    | _ => rfl) ps fx

/-! ### One step -/

/-- The operations are a run of the backend, which ends in the backend's new state and has the
effects on the devices. -/
structure ComesTo (st : Input.State) (cs : List BackendCall) (r : Input.State × List Effect) :
    Prop where
  valid : backend.Valid st cs
  final : backend.final st cs = r.1
  out : outputs (backend.trace st cs) = onDevices r.2

namespace ComesTo
variable {st st' : Input.State} {fx fx' : List Effect}

theorem nil (h : st' = st) (hfx : onDevices fx = []) : ComesTo st [] (st', fx) :=
  ⟨trivial, h.symm, hfx.symm⟩

theorem one {c : BackendCall} (he : c.Enabled st) (h : st' = (c.run st).1)
    (hfx : onDevices fx = (c.run st).2) : ComesTo st [c] (st', fx) :=
  ⟨⟨he, trivial⟩, h.symm, by rw [hfx]; exact List.append_nil _⟩

theorem append {st'' : Input.State} {cs cs' : List BackendCall} (h : ComesTo st cs (st', fx))
    (h' : ComesTo st' cs' (st'', fx')) : ComesTo st (cs ++ cs') (st'', fx ++ fx') := by
  have hf : backend.final st cs = st' := h.final
  refine ⟨Machine.valid_append.mpr ⟨h.valid, by rw [hf]; exact h'.valid⟩, ?_, ?_⟩
  · rw [Machine.final_append, hf, h'.final]
  · rw [Machine.trace_append, outputs_append, hf, h.out, h'.out, onDevices_append]

end ComesTo

/-- The devices are initialised only where there are none. -/
def Call.InitsIdle (s : State) : Call → Prop
  | .init .. => Idle s.inp
  | _ => True

section
variable {ov : Int → Int} {s : State}

theorem comesTo_init {config : Option NearcadeConfig} {e : InitEnv} {w : Capture.Waits}
    (hi : Idle s.inp) (he : e.kbm.Fresh s.inp) :
    ComesTo s.inp ((Call.init config e w).operations s)
      ((nearcadeInit config e w s).2.1.inp, (nearcadeInit config e w s).2.2) := by
  have hinit : onDevices (inputInit e.kbm s.inp).2.2 = (inputInit e.kbm s.inp).2.2 :=
    onDevices_self (within_init.mono (by simp))
  have hsig : onDevices (initSignaling config e s).2.2 = [] :=
    onDevices_foreign Signaling.within_init (by simp) (by simp)
  have one : ∀ {fx}, onDevices fx = [] → ComesTo s.inp [.init e.kbm]
      ((inputInit e.kbm s.inp).2.1, (inputInit e.kbm s.inp).2.2 ++ fx) := fun h =>
    .one ⟨hi, he⟩ rfl (by rw [onDevices_append, hinit, h, List.append_nil]; rfl)
  have locked : e.viewerLock = true ∧ e.slotsLock = true →
      ¬ (e.viewerLock = false ∨ e.slotsLock = false) := fun hl => by simp [hl]
  simp only [Call.operations]
  rcases nearcadeInit_cases config e w s with
    ⟨hl, h⟩ | ⟨hl, hn, h⟩ | ⟨hl, hn, hs, h⟩ | ⟨hl, hn, hs, h⟩ <;> rw [h]
  · rw [if_pos hl]
    exact .nil rfl rfl
  · rw [if_neg (locked hl), if_pos hn]
    have h₀ : ComesTo s.inp [.init e.kbm] ((inputInit e.kbm s.inp).2.1,
        (inputInit e.kbm s.inp).2.2 ++ []) := one rfl
    rwa [List.append_nil] at h₀
  · rw [if_neg (locked hl), if_neg (not_not.mpr hn), if_pos hs]
    have hdown : ComesTo (inputInit e.kbm s.inp).2.1 [.shutdown]
        (inputShutdown (inputInit e.kbm s.inp).2.1) :=
      .one trivial rfl (onDevices_self (within_shutdown.mono (by simp)))
    exact (one hsig).append hdown
  · rw [if_neg (locked hl), if_neg (not_not.mpr hn), if_neg (not_not.mpr hs)]
    exact one hsig

/-- **A call comes to its operations.** -/
theorem Call.comesTo {c : Call} (he : c.Enabled s) (hi : c.InitsIdle s) :
    ComesTo s.inp (c.operations s) ((c.run ov s).1.inp, (c.run ov s).2) := by
  have idle : ∀ {c : Call}, .device ∉ c.kinds → .injection ∉ c.kinds →
      ComesTo s.inp [] ((c.run ov s).1.inp, (c.run ov s).2) := fun hd hj =>
    .nil (Call.inp_of_kinds ov s hd) (onDevices_foreign (Call.within ov s _) hd hj)
  have inject : ∀ {fx : List Effect}, Within [.injection] fx → onDevices fx = fx := fun h =>
    onDevices_self (h.mono (by simp))
  cases c with
  | init config e w => exact comesTo_init hi he
  | shutdown w =>
      simp only [Call.operations, Call.run, nearcadeShutdown]
      cases hr : s.g.running with
      | false => exact .nil rfl rfl
      | true =>
          refine .one trivial rfl ?_
          have hc : onDevices (Capture.captureShutdown w s.cap).2 = [] :=
            onDevices_foreign Capture.within_stop (by simp) (by simp)
          have hs : onDevices (Signaling.signalingShutdown s.sig).2 = [] :=
            onDevices_foreign Signaling.within_shutdown (by simp) (by simp)
          have hd : onDevices (inputShutdown s.inp).2 = (inputShutdown s.inp).2 :=
            onDevices_self (within_shutdown.mono (by simp))
          show onDevices ((Capture.captureShutdown w s.cap).2 ++ (inputShutdown s.inp).2 ++
            (Signaling.signalingShutdown s.sig).2) = (inputShutdown s.inp).2
          rw [onDevices_append, onDevices_append, hc, hs, hd, List.nil_append, List.append_nil]
  | submitGamepad pkt =>
      cases pkt with
      | none => exact .nil rfl rfl
      | some pkt => exact .one trivial rfl (inject within_submitGamepad)
  | submitKbm vid ev key dx dy =>
      cases vid with
      | none => exact .nil rfl rfl
      | some vid =>
          cases ev with
          | none => exact .nil rfl rfl
          | some ev => exact .one trivial rfl (inject within_submitKbm)
  | flushSlot slot => exact .one trivial rfl (inject within_flushSlot)
  | disconnectViewer id =>
      cases id with
      | none => exact .nil rfl rfl
      | some id =>
          simp only [Call.operations, Call.run, nearcadeDisconnectViewer, Option.bind_some]
          cases findViewer s.g id with
          | none => exact .nil rfl rfl
          | some i => exact .one trivial rfl (onDevices_self (within_freeSlot.mono (by simp)))
  | _ => exact idle (by simp [Call.kinds]) (by simp [Call.kinds])

/-- **A callback comes to its operations.** -/
theorem Net.comesTo (n : Net) :
    ComesTo s.inp (n.operations s) ((n.run ov s).1.inp, (n.run ov s).2) := by
  have idle : ∀ {n : Net}, .device ∉ n.kinds → .injection ∉ n.kinds →
      ComesTo s.inp [] ((n.run ov s).1.inp, (n.run ov s).2) := fun hd hj =>
    .nil (Net.frame s _).2 (onDevices_foreign (Net.within ov s _) hd hj)
  cases n with
  | message pc msg =>
      simp only [Net.operations, Net.run]
      cases Webrtc.onMessage s.rtc msg with
      | none => exact .nil rfl rfl
      | some pkt =>
          refine .one trivial rfl ?_
          have hw : onDevices (inputSubmitGamepad s.inp (some pkt)).2 =
              (inputSubmitGamepad s.inp (some pkt)).2 :=
            onDevices_self (within_submitGamepad.mono (by simp))
          have hf : onDevices (fireEvent s.g (.inputPacket pkt [])) = [] :=
            onDevices_foreign within_fireEvent (by simp) (by simp)
          simp only [webrtcReceivedInput, onDevices_append, hw, hf, List.append_nil]
          rfl
  | _ => exact idle (by simp [Net.kinds]) (by simp [Net.kinds])

theorem TableStep.comesTo {t : TableStep} (he : tables.enabled s.tables t) :
    ComesTo s.inp t.operations
      ((tables.next s.tables t).inp, tables.out s.tables t) := by
  cases t with
  | claim id | release slot => exact .nil rfl rfl
  | alloc u slot v p ver name =>
      exact .one he rfl (onDevices_self (within_allocSlot.mono (by simp)))
  | free slot => exact .one trivial rfl (onDevices_self (within_freeSlot.mono (by simp)))

end

/-- `nearcade_init`. -/
def PlayStep.inits : PlayStep → Bool
  | .sdk (.call (.init ..)) => true
  | _ => false

/-- `nearcade_init` is called only while the SDK does not run. -/
def PlayStep.InitsDown (w : World) (i : PlayStep) : Prop :=
  i.inits = true → w.sdk.g.running = false

instance (w : World) (i : PlayStep) : Decidable (i.InitsDown w) :=
  inferInstanceAs (Decidable (_ → _))

/-- Where the SDK does not run, no device is recorded. -/
def IdleWhenDown (w : World) : Prop := w.sdk.g.running = false → Idle w.sdk.inp

/-- A `nearcade_init` that fails leaves no device. -/
theorem idle_init {config : Option NearcadeConfig} {e : InitEnv} {w : Capture.Waits} {s : State}
    (hi : Idle s.inp) (hr : (nearcadeInit config e w s).2.1.g.running = false) :
    Idle (nearcadeInit config e w s).2.1.inp := by
  revert hr
  rcases nearcadeInit_cases config e w s with
    ⟨-, h⟩ | ⟨-, hn, h⟩ | ⟨-, -, -, h⟩ | ⟨-, -, -, h⟩ <;> rw [h]
  · exact fun _ => hi
  · refine fun _ => ⟨?_, noDevice_inputInit e.kbm s.inp⟩
    revert hn
    simp only [inputInit, createKbmDevice]
    split
    · exact fun _ => ‹_›
    · split
      · exact fun hn => absurd rfl hn
      · exact fun _ => Int.negSucc_lt_zero 0
  · exact fun _ => idle_inputShutdown _
  · exact fun hr => absurd hr (by simp)

theorem IdleWhenDown.next {ov : Int → Int} {w : World} (h : IdleWhenDown w) {i : PlayStep}
    (he : (playing ov).enabled w i) (hd : i.InitsDown w) :
    IdleWhenDown ((playing ov).next w i) := by
  intro hr
  cases i with
  | table t =>
      -- the tables are used while the SDK runs
      have hrun : w.sdk.g.running = false := hr
      exact absurd (he.1.symm.trans hrun) (by simp)
  | sdk i =>
      cases i with
      | net n =>
          have hf : (n.run ov w.sdk).1.g = w.sdk.g ∧ (n.run ov w.sdk).1.inp = w.sdk.inp :=
            Net.frame w.sdk n
          have hr : (n.run ov w.sdk).1.g.running = false := hr
          show Idle (n.run ov w.sdk).1.inp
          rw [hf.1] at hr
          rw [hf.2]
          exact h hr
      | call c =>
          have hr : (c.run ov w.sdk).1.g.running = false := hr
          show Idle (c.run ov w.sdk).1.inp
          by_cases ho : c.Operates
          · have hi := h ((ho.frame ov w.sdk).1.symm.trans hr)
            rcases ho.inp ov w.sdk with e | ⟨slot, e⟩ <;> rw [e]
            · exact hi
            · rw [hi.2.free]
              exact hi
          · cases c with
            | init config e w' => exact idle_init (h (hd rfl)) hr
            | shutdown w' =>
                revert hr
                simp only [Call.run, nearcadeShutdown]
                split
                · exact fun hr => h hr
                · exact fun _ => idle_inputShutdown _
            | _ => exact absurd trivial ho

/-- **A step comes to its operations.** -/
theorem PlayStep.comesTo {ov : Int → Int} {w : World} (h : IdleWhenDown w) {i : PlayStep}
    (he : (playing ov).enabled w i) (hd : i.InitsDown w) :
    ComesTo w.sdk.inp (i.operations w) (((playing ov).next w i).sdk.inp, (playing ov).out w i) := by
  cases i with
  | table t => exact TableStep.comesTo he.2
  | sdk i =>
      cases i with
      | net n => exact Net.comesTo n
      | call c =>
          refine Call.comesTo he ?_
          cases c with
          | init config e w' => exact h (hd rfl)
          | _ => trivial

/-! ### Runs -/

/-- The operations a run comes to. -/
def operations (ov : Int → Int) : World → List PlayStep → List BackendCall
  | _, [] => []
  | w, i :: is => i.operations w ++ operations ov ((playing ov).next w i) is

/-- **A run comes to its operations.** -/
theorem run_comesTo {ov : Int → Int} {w : World} (h : IdleWhenDown w) {is : List PlayStep}
    (hv : (playing ov).Valid w is)
    (hd : ∀ e ∈ (playing ov).trace w is, e.input.InitsDown e.pre) :
    ComesTo w.sdk.inp (operations ov w is)
      (((playing ov).final w is).sdk.inp, outputs ((playing ov).trace w is)) := by
  induction is generalizing w with
  | nil => exact .nil rfl rfl
  | cons i is ih =>
      have hi : i.InitsDown w := hd _ (List.mem_cons_self ..)
      rw [Machine.outputs_cons]
      exact (PlayStep.comesTo h hv.1 hi).append
        (ih (h.next hv.1 hi) hv.2 fun e he => hd e (List.mem_cons_of_mem _ he))

/-! ### The devices -/

/-- The backend with the devices it drives does what the backend does. -/
theorem rig_of_backend {st : Input.State} (devs : Devices) {cs : List BackendCall}
    (hv : backend.Valid st cs) :
    rig.Valid ⟨st, devs⟩ cs ∧ outputs (rig.trace ⟨st, devs⟩ cs) = outputs (backend.trace st cs) ∧
      rig.final ⟨st, devs⟩ cs =
        ⟨backend.final st cs, devs.applyAll (outputs (backend.trace st cs))⟩ := by
  induction cs generalizing st devs with
  | nil => exact ⟨trivial, rfl, rfl⟩
  | cons c cs ih =>
      obtain ⟨hv', ho, hf⟩ := ih (devs.applyAll (c.run st).2) hv.2
      refine ⟨⟨hv.1, hv'⟩, ?_, ?_⟩
      · rw [Machine.outputs_cons, Machine.outputs_cons]
        exact congrArg ((c.run st).2 ++ ·) ho
      · rw [Machine.outputs_cons, applyAll_append]
        exact hf

/-- What a successful `nearcade_init` does to the devices. -/
theorem onDevices_init {config : Option NearcadeConfig} {e : InitEnv} {w : Capture.Waits}
    {s : State} (hok : (nearcadeInit config e w s).1 = .ok) :
    onDevices (nearcadeInit config e w s).2.2 = (inputInit e.kbm s.inp).2.2 := by
  revert hok
  rcases nearcadeInit_cases config e w s with
    ⟨-, h⟩ | ⟨-, -, h⟩ | ⟨-, -, -, h⟩ | ⟨-, -, -, h⟩ <;> rw [h]
  · exact fun hr => absurd hr (by simp)
  · exact fun hr => absurd hr (by simp)
  · exact fun hr => absurd hr (by simp)
  · intro _
    have hsig : onDevices (initSignaling config e s).2.2 = [] :=
      onDevices_foreign Signaling.within_init (by simp) (by simp)
    rw [onDevices_append, hsig, List.append_nil]
    exact onDevices_self (within_init.mono (by simp))

/-- **The virtual devices follow what the SDK is told.**  Take a successful `nearcade_init`, and any
run after it of calls, callbacks and uses of the tables in which `nearcade_init` is called only
while the SDK does not run.  Then the device of every slot shows the last packet for the slot, from
whichever viewer or from the application, or is neutral since it was allocated or flushed; every key
is where `nearcade_submit_kbm` put it last, and the pointer where its motions add up to.  A device
is taken to show what was committed last for each control, and its writes to succeed (`feed`). -/
theorem devices_follow (ov : Int → Int) (config : Option NearcadeConfig) (e : InitEnv)
    (waits : Capture.Waits) (w₀ : World) (hok : (nearcadeInit config e waits w₀.sdk).1 = .ok)
    (devs : Devices) (ps : Pointers) (is : List PlayStep) :
    let r := (nearcadeInit config e waits w₀.sdk).2
    let w : World := ⟨r.1, w₀.live⟩
    (playing ov).Valid w is → (∀ e ∈ (playing ov).trace w is, e.input.InitsDown e.pre) →
      let st := ((playing ov).final w is).sdk.inp
      let fx := r.2 ++ outputs ((playing ov).trace w is)
      let cs := operations ov w is
      (∀ k, 0 ≤ st.gpFds k →
        ∃ d, devs.applyAll fx (st.gpFds k) = some d ∧ Shows d.shown (latest k cs)) ∧
      (0 ≤ st.kbmFd → ∃ d p, devs.applyAll fx st.kbmFd = some d ∧ ps.applyAll fx st.kbmFd = some p ∧
        d.shown = typed cs ∧ p.moved = moved cs) := by
  intro r w hv hd st fx cs
  have hs := nearcadeInit_ok hok
  have hinp : w.sdk.inp = (inputInit e.kbm w₀.sdk.inp).2.1 := congrArg State.inp hs
  have hup : w.sdk.g.running = true := congrArg (fun s : State => s.g.running) hs
  have hc := run_comesTo (fun hr => absurd (hup.symm.trans hr) (by simp)) hv hd
  -- the run of the backend, from `input_init` on
  have hv' : backend.Valid (inputInit e.kbm w₀.sdk.inp).2.1 cs := hinp ▸ hc.valid
  have hf' : backend.final (inputInit e.kbm w₀.sdk.inp).2.1 cs = st := hinp ▸ hc.final
  have ho' : outputs (backend.trace (inputInit e.kbm w₀.sdk.inp).2.1 cs) =
      onDevices (outputs ((playing ov).trace w is)) := hinp ▸ hc.out
  obtain ⟨hrig, hout, hfin⟩ := rig_of_backend (devs.applyAll (inputInit e.kbm w₀.sdk.inp).2.2) hv'
  have hdev : devs.applyAll fx = (devs.applyAll (inputInit e.kbm w₀.sdk.inp).2.2).applyAll
      (outputs (backend.trace (inputInit e.kbm w₀.sdk.inp).2.1 cs)) := by
    rw [ho', ← applyAll_append, ← onDevices_init hok, ← onDevices_append, applyAll_onDevices]
  have hptr : ps.applyAll fx = ps.applyAll ((inputInit e.kbm w₀.sdk.inp).2.2 ++
      outputs (backend.trace (inputInit e.kbm w₀.sdk.inp).2.1 cs)) := by
    rw [ho', ← onDevices_init hok, ← onDevices_append, Pointers.applyAll_onDevices]
  have hrig : rig.Valid (Rig.started e.kbm w₀.sdk.inp devs) cs := hrig
  have hfin : rig.final (Rig.started e.kbm w₀.sdk.inp devs) cs = ⟨st, devs.applyAll fx⟩ := by
    rw [hdev, ← hf']
    exact hfin
  have hshown := shown_run hrig
  have hdesk := desk_run e.kbm w₀.sdk.inp devs ps hrig
  rw [hfin] at hshown hdesk
  have hout : outputs (rig.trace (Rig.started e.kbm w₀.sdk.inp devs) cs) = _ := hout
  rw [hout, ← hptr] at hdesk
  refine ⟨fun k h0 => ⟨_, hshown.shown k h0, shows_target _⟩, fun h0 => ?_⟩
  exact ⟨_, _, hdesk.keys h0, hdesk.pointer h0, rfl, rfl⟩

/-- A gamepad is plugged in, a viewer joins and sends a packet for it, and the application walks and
looks around. -/
def playRun : List PlayStep :=
  [.table (.alloc ⟨4, true, true⟩ 0 0x045e 0x028e 1 none), .sdk (connect 7),
   .sdk (.net (.message 0 (.binary [1, 255, 127, 0, 0, 0, 0, 0, 0, 0, 0, 1, 0, 0, 0, 0]))),
   .sdk (.call (.submitKbm (some []) (some (bytes "keydown")) (some (bytes "KEY_W")) 0 0)),
   .sdk (.call (.submitKbm (some []) (some (bytes "mousemove")) none 5 (-2))),
   .sdk (.call (.submitKbm (some []) (some (bytes "mousemove")) none 1 1))]

theorem devices_follow_play :
    let fx := (nearcadeInit none .good ⟨0, 0⟩ .boot).2.2 ++
      outputs ((playing id).trace .first playRun)
    (∃ d, Devices.applyAll (fun _ => none) fx 4 = some d ∧
      Shows d.shown (some ⟨1, 32767, 0, 0, 0, 0, 0, 1, 0, 0, 0⟩)) ∧
    ∃ d p, Devices.applyAll (fun _ => none) fx 3 = some d ∧
      Pointers.applyAll (fun _ => none) fx 3 = some p ∧
        d.shown (evKey, 17) = 1 ∧ p.moved relX = 6 ∧ p.moved relY = -1 := by
  have hgp : ((playing id).final .first playRun).sdk.inp.gpFds 0 = 4 := by decide +kernel
  have hkbm : ((playing id).final .first playRun).sdk.inp.kbmFd = 3 := by decide +kernel
  have hlast : latest 0 (operations id .first playRun) =
    some ⟨1, 32767, 0, 0, 0, 0, 0, 1, 0, 0, 0⟩ := by decide +kernel
  have hkey : typed (operations id .first playRun) (evKey, 17) = 1 := by decide +kernel
  have hx : moved (operations id .first playRun) relX = 6 := by decide +kernel
  have hy : moved (operations id .first playRun) relY = -1 := by decide +kernel
  obtain ⟨hpad, hdesk⟩ := devices_follow id none .good ⟨0, 0⟩ .boot rfl (fun _ => none)
    (fun _ => none) playRun (by decide +kernel) (by decide +kernel)
  intro fx
  have hpad : 0 ≤ ((playing id).final .first playRun).sdk.inp.gpFds 0 →
      ∃ d, Devices.applyAll (fun _ => none) fx
        (((playing id).final .first playRun).sdk.inp.gpFds 0) = some d ∧
        Shows d.shown (latest 0 (operations id .first playRun)) := hpad 0
  have hdesk : 0 ≤ ((playing id).final .first playRun).sdk.inp.kbmFd → ∃ d p,
      Devices.applyAll (fun _ => none) fx ((playing id).final .first playRun).sdk.inp.kbmFd =
        some d ∧
      Pointers.applyAll (fun _ => none) fx ((playing id).final .first playRun).sdk.inp.kbmFd =
        some p ∧
      d.shown = typed (operations id .first playRun) ∧
        p.moved = moved (operations id .first playRun) := hdesk
  rw [hgp, hlast] at hpad
  rw [hkbm] at hdesk
  obtain ⟨d, p, hd, hp, ht, hm⟩ := hdesk (by decide)
  exact ⟨hpad (by decide), d, p, hd, hp, by rw [ht, hkey], by rw [hm, hx], by rw [hm, hy]⟩

end Nearcade
