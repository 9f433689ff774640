import Nearcade.Source.Ports
import Nearcade.System.Effects

/-!
# System — Ports

The SDK of a port does what the SDK of Linux does, but for the devices, what is injected into them
and the capture.  `State.ported` is the state of a port next to that of Linux: the same `g_state`
but for `capturing`, and the same tables of connections and sessions.  A call and a callback keep
the two together (`Port.run_ported`, `Port.react_ported`).

* `ports_agree`: so a port puts out what Linux does, without the effects on a device or a child.
-/

namespace Nearcade
open Text Runs

/-! ### Effects a port has -/

/-- An effect that is no business of a backend. -/
def Effect.portable (e : Effect) : Bool :=
  match e.kind with
  | .device | .injection | .child => false
  | .application | .context | .socket | .track | .rtc => true

section
variable {ks : List Kind} {fx : List Effect}

/-- The kinds of the effects a port has. -/
def Kind.Portable (k : Kind) : Prop := k ≠ .device ∧ k ≠ .injection ∧ k ≠ .child

instance (k : Kind) : Decidable k.Portable := inferInstanceAs (Decidable (_ ∧ _ ∧ _))

theorem portable_iff {e : Effect} : e.portable = true ↔ e.kind.Portable := by
  cases h : e.kind <;> simp [Effect.portable, Kind.Portable, h]

theorem Within.portable (h : Within ks fx) (hk : ∀ k ∈ ks, k.Portable) :
    fx.filter Effect.portable = fx :=
  List.filter_eq_self.mpr fun e he => portable_iff.mpr (hk _ (h e he))

theorem Within.hidden (h : Within ks fx) (hk : ∀ k ∈ ks, ¬ k.Portable) :
    fx.filter Effect.portable = [] :=
  List.filter_eq_nil_iff.mpr fun e he hp => hk _ (h e he) (portable_iff.mp hp)

end

/-! ### States -/

/-- The state of a port next to a state of Linux. -/
def State.ported (inp : Input.State) (cap : Capture.State) (s : State) : State :=
  { s with g := { s.g with capturing := false }, inp := inp, cap := cap }

/-- A state of a port stands by one of Linux; no capture is active in it. -/
def Ported (s s' : State) : Prop :=
  ∃ inp cap, cap.active = false ∧ s' = s.ported inp cap

namespace Port
variable {p : Port} {ov : Int → Int} {s s' : State}

/-- The `nearcade_init` of an input goes as well on Linux as on the port: the keyboard and mouse
device can be made, and on Windows, where the mutexes cannot fail, they are made on Linux too, and
`WSAStartup` succeeds. -/
def Comparable (p : Port) (i : PortInput) : Prop :=
  match i.input with
  | .call (.init _ e _) => 0 ≤ e.kbm.fd ∧ (e.kbm.wrote && e.kbm.created) = true ∧
      (p = .windows → e.viewerLock = true ∧ e.slotsLock = true ∧ i.wsa = true)
  | _ => True

theorem inputInit_ok {u : Input.Uinput} (h0 : 0 ≤ u.fd) (hu : (u.wrote && u.created) = true)
    (st : Input.State) : (Input.inputInit u st).1 = .ok := by
  simp only [Input.inputInit, Input.createKbmDevice, if_neg (Int.not_lt.mpr h0), hu, if_true]

theorem captureShutdown_inactive (p : Port) (w : Capture.Waits) {st : Capture.State}
    (h : st.active = false) : p.captureShutdown w st = (st, []) := by
  cases p with
  | apple =>
      have hc : ¬ (st.active = true ∧ 0 < st.pid) := fun hc => by simp [h] at hc
      exact if_neg hc
  | windows => rfl

/-! ### One step -/

/-- What the `nearcade_init` of a port can do: it fails before the modules, at `signaling_init`, or
it succeeds. -/
theorem nearcadeInit_cases (p : Port) (config : Option NearcadeConfig) (e : InitEnv) {wsa : Bool}
    (hwsa : p = .windows → wsa = true) (w : Capture.Waits) {s : State}
    (hcap : s.cap.active = false) :
    (p.mutexInit e.viewerLock = false ∨ p.mutexInit e.slotsLock = false) ∧
      p.nearcadeInit config ⟨e, wsa⟩ w s = (.errInit, { s with
        g := { NearcadeState.zero with config := normaliseConfig config } }, []) ∨
    ¬ (p.mutexInit e.viewerLock = false ∨ p.mutexInit e.slotsLock = false) ∧
      ∃ cap, cap.active = false ∧ p.nearcadeInit config ⟨e, wsa⟩ w s =
        if (initSignaling config e s).1 ≠ .ok then
          (.errInit, { s with
            g := initState config e
            cap := cap
            sig := (initSignaling config e s).2.1
            rtc := Webrtc.webrtcShutdown (webrtcUp s.rtc) }, (initSignaling config e s).2.2)
        else
          (.ok, { s with
            g := { initState config e with running := true }
            cap := cap
            sig := (initSignaling config e s).2.1
            rtc := webrtcUp s.rtc }, (initSignaling config e s).2.2) := by
  have hw : ¬ (p = .windows ∧ wsa = false) := fun h => by simp [hwsa h.1] at h
  have hcap' : (p.captureInit s.cap).2.active = false := by
    cases p with
    | apple => rfl
    | windows => exact hcap
  by_cases hl : p.mutexInit e.viewerLock = false ∨ p.mutexInit e.slotsLock = false
  · exact .inl ⟨hl, (if_neg hw).trans (if_pos hl)⟩
  · refine .inr ⟨hl, _, hcap', (if_neg hw).trans ((if_neg hl).trans ?_)⟩
    -- no capture runs, so none is stopped when `signaling_init` fails
    have hs : p.captureShutdown w (p.captureInit s.cap).2 = ((p.captureInit s.cap).2, []) :=
      p.captureShutdown_inactive w hcap'
    simp only [initModules, hs, List.append_nil]
    rfl

theorem nearcadeInit_ported {config : Option NearcadeConfig} {e : InitEnv} {wsa : Bool}
    {w : Capture.Waits} (h : Ported s s') (hc : p.Comparable ⟨.call (.init config e w), wsa⟩) :
    let r := Nearcade.nearcadeInit config e w s
    let r' := p.nearcadeInit config ⟨e, wsa⟩ w s'
    r'.1 = r.1 ∧ Ported r.2.1 r'.2.1 ∧ r'.2.2 = r.2.2.filter Effect.portable := by
  intro r r'
  obtain ⟨inp, cap, hcap, rfl⟩ := h
  obtain ⟨h0, hu, hlocks⟩ := hc
  have hok := inputInit_ok h0 hu s.inp
  have hdev : (Input.inputInit e.kbm s.inp).2.2.filter Effect.portable = [] :=
    Input.within_init.hidden (by decide)
  have hdown : (Input.inputShutdown (Input.inputInit e.kbm s.inp).2.1).2.filter
      Effect.portable = [] := Input.within_shutdown.hidden (by decide)
  have hsig : (initSignaling config e s).2.2.filter Effect.portable =
      (initSignaling config e s).2.2 := Signaling.within_init.portable (by decide)
  have hboth : (e.viewerLock = false ∨ e.slotsLock = false) ↔
      (p.mutexInit e.viewerLock = false ∨ p.mutexInit e.slotsLock = false) := by
    cases p with
    | apple => rfl
    | windows => simp [mutexInit, hlocks rfl]
  have port := p.nearcadeInit_cases config e (fun hp => (hlocks hp).2.2) w (s := s.ported inp cap)
    hcap
  rcases Nearcade.nearcadeInit_cases config e w s with
    ⟨hl, h⟩ | ⟨-, hi, -⟩ | ⟨hl, -, hrc, h⟩ | ⟨hl, -, hrc, h⟩
  · have h : r = _ := h
    obtain ⟨-, h'⟩ | ⟨hl', -⟩ := port
    · have h' : r' = _ := h'
      rw [h, h']
      exact ⟨rfl, ⟨inp, cap, hcap, rfl⟩, rfl⟩
    · exact absurd (hboth.mp hl) hl'
  · exact absurd hok hi
  · have h : r = _ := h
    obtain ⟨hl', -⟩ | ⟨-, cap', hcap', h'⟩ := port
    · exact absurd (hboth.mpr hl') (by simp [hl])
    · have h' : r' = _ := h'.trans (if_pos hrc)
      rw [h, h', List.filter_append, List.filter_append, hdev, hdown, hsig, List.append_nil]
      exact ⟨rfl, ⟨inp, cap', hcap', rfl⟩, rfl⟩
  · have h : r = _ := h
    obtain ⟨hl', -⟩ | ⟨-, cap', hcap', h'⟩ := port
    · exact absurd (hboth.mpr hl') (by simp [hl])
    · have h' : r' = _ := h'.trans (if_neg (not_not.mpr hrc))
      rw [h, h', List.filter_append, hdev, hsig]
      exact ⟨rfl, ⟨inp, cap', hcap', rfl⟩, rfl⟩

theorem disconnectViewer_ported (h : Ported s s') (id : Option Bytes) :
    let r := Nearcade.nearcadeDisconnectViewer s id
    Ported r.2.1 { s' with g := (nearcadeDisconnectViewer s'.g id).2 } ∧
      r.2.2.filter Effect.portable = [] := by
  intro r
  obtain ⟨inp, cap, hcap, rfl⟩ := h
  cases id with
  | none => exact ⟨⟨inp, cap, hcap, rfl⟩, rfl⟩
  | some id =>
      have hf : findViewer (s.ported inp cap).g id = findViewer s.g id := rfl
      simp only [r, Nearcade.nearcadeDisconnectViewer, nearcadeDisconnectViewer, hf]
      cases findViewer s.g id with
      | none => exact ⟨⟨inp, cap, hcap, rfl⟩, rfl⟩
      | some i => exact ⟨⟨inp, cap, hcap, rfl⟩, Input.within_freeSlot.hidden (by decide)⟩

theorem shutdown_ported (h : Ported s s') (w : Capture.Waits) :
    let r := Nearcade.nearcadeShutdown w s
    let r' := p.nearcadeShutdown w s'
    Ported r.1 r'.1 ∧ r'.2 = r.2.filter Effect.portable := by
  intro r r'
  obtain ⟨inp, cap, hcap, rfl⟩ := h
  have hchild : (Capture.captureShutdown w s.cap).2.filter Effect.portable = [] :=
    Capture.within_stop.hidden (by decide)
  have hdev : (Input.inputShutdown s.inp).2.filter Effect.portable = [] :=
    Input.within_shutdown.hidden (by decide)
  have hsig : (Signaling.signalingShutdown s.sig).2.filter Effect.portable =
      (Signaling.signalingShutdown s.sig).2 := Signaling.within_shutdown.portable (by decide)
  have hs : p.captureShutdown w (s.ported inp cap).cap = (cap, []) :=
    p.captureShutdown_inactive w hcap
  by_cases hr : s.g.running = false
  · have h : r = (s, []) := if_pos hr
    have h' : r' = (s.ported inp cap, []) := if_pos hr
    rw [h, h']
    exact ⟨⟨inp, cap, hcap, rfl⟩, rfl⟩
  · have hr' : ¬ (s.ported inp cap).g.running = false := hr
    simp only [r, r', Nearcade.nearcadeShutdown, Port.nearcadeShutdown, if_neg hr, if_neg hr', hs,
      List.filter_append, hchild, hdev, hsig, List.nil_append]
    exact ⟨⟨inp, cap, hcap, rfl⟩, rfl⟩

theorem run_hidden {c : Call} (hk : ∀ k ∈ c.kinds, ¬ k.Portable) :
    (c.run ov s).2.filter Effect.portable = [] := (Call.within ov s c).hidden hk

theorem run_portable {c : Call} (hk : ∀ k ∈ c.kinds, k.Portable) :
    (c.run ov s).2.filter Effect.portable = (c.run ov s).2 := (Call.within ov s c).portable hk

theorem setViewer_ported (h : Ported s s') (id : Option Bytes) (f : ViewerInfo → ViewerInfo) :
    Ported { s with g := (setViewer s.g id f).2 } { s' with g := (setViewer s'.g id f).2 } := by
  obtain ⟨inp, cap, hcap, rfl⟩ := h
  cases id with
  | none => exact ⟨inp, cap, hcap, rfl⟩
  | some id =>
      have hf : findViewer (s.ported inp cap).g id = findViewer s.g id := rfl
      simp only [setViewer, hf]
      cases findViewer s.g id <;> exact ⟨inp, cap, hcap, rfl⟩

/-- **A call does on a port what it does on Linux**, the devices and the child apart. -/
theorem run_ported (h : Ported s s') {c : Call} {wsa : Bool} (hc : p.Comparable ⟨.call c, wsa⟩) :
    Ported (c.run ov s).1 (p.run ov wsa s' c).1 ∧
      (p.run ov wsa s' c).2 = (c.run ov s).2.filter Effect.portable := by
  cases c with
  | init config e w => exact (nearcadeInit_ported h hc).2
  | shutdown w => exact shutdown_ported h w
  | disconnectViewer id =>
      obtain ⟨hs, hfx⟩ := disconnectViewer_ported h id
      exact ⟨hs, hfx.symm⟩
  | startCapture pid =>
      obtain ⟨inp, cap, hcap, rfl⟩ := h
      obtain ⟨cap', capturing, e⟩ := startCapture_eq pid s
      refine ⟨⟨inp, cap, hcap, ?_⟩, (run_hidden (by simp [Call.kinds, Kind.Portable])).symm⟩
      rw [Call.run, e]
      rfl
  | stopCapture w =>
      obtain ⟨inp, cap, hcap, rfl⟩ := h
      obtain ⟨cap', capturing, e⟩ := stopCapture_eq w s
      refine ⟨⟨inp, cap, hcap, ?_⟩, (run_hidden (by simp [Call.kinds, Kind.Portable])).symm⟩
      rw [Call.run, e]
      rfl
  | submitGamepad _ | submitKbm _ _ _ _ _ | flushSlot _ =>
      exact ⟨h, (run_hidden (by simp [Call.kinds, Kind.Portable])).symm⟩
  | startStreaming | sendH264 _ _ | sendAnswer _ _ _ | sendIceCandidate _ _ _ =>
      obtain ⟨inp, cap, hcap, rfl⟩ := h
      exact ⟨⟨inp, cap, hcap, rfl⟩, (run_portable (by simp [Call.kinds, Kind.Portable])).symm⟩
  | setViewerInputMode id mode | setControllerType id ctrl =>
      exact ⟨setViewer_ported h id _, rfl⟩
  | stopStreaming | pollEvents _ | sendFrame _ _ _ _ | setEventCallback _ _ | getSignalingUrl _
  | getLanIp _ | getPin _ | regeneratePin _ | sendOffer _ _ =>
      obtain ⟨inp, cap, hcap, rfl⟩ := h
      exact ⟨⟨inp, cap, hcap, rfl⟩, rfl⟩

/-- **So does a callback.** -/
theorem react_ported (h : Ported s s') (n : Net) :
    Ported (n.run ov s).1 (react ov s' n).1 ∧
      (react ov s' n).2 = (n.run ov s).2.filter Effect.portable := by
  obtain ⟨inp, cap, hcap, rfl⟩ := h
  have hcb : ∀ (sig : Signaling.State) (idx : Option (Fin maxViewers)) (joined : Bool),
      callViewerCb { s.ported inp cap with sig := sig } idx joined =
        (callViewerCb { s with sig := sig } idx joined).ported inp cap := by
    intro sig idx joined
    cases idx with
    | none => rfl
    | some i =>
        simp only [callViewerCb]
        split
        · cases joined <;> rfl
        · rfl
  cases n with
  | established wsi uri stack | closed wsi => exact ⟨⟨inp, cap, hcap, hcb _ _ _⟩, rfl⟩
  | stateChange _ _ | receive _ _ _ | localDescription _ _ _ _ | localCandidate _ _ _ =>
      refine ⟨⟨inp, cap, hcap, rfl⟩, ?_⟩
      rw [(Net.within ov s _).portable]
      · rfl
      · simp [Net.kinds, Kind.Portable]
  | message pc msg =>
      refine ⟨⟨inp, cap, hcap, rfl⟩, ?_⟩
      have hm : Webrtc.onMessage (s.ported inp cap).rtc msg = Webrtc.onMessage s.rtc msg := rfl
      simp only [react, Net.run, hm]
      cases Webrtc.onMessage s.rtc msg with
      | none => rfl
      | some pkt =>
          -- the event is fired, whatever the backend makes of the packet
          have hpad : (Input.inputSubmitGamepad s.inp (some pkt)).2.filter Effect.portable = [] :=
            Input.within_submitGamepad.hidden (by decide)
          have hev : (fireEvent s.g (.inputPacket pkt [])).filter Effect.portable =
              fireEvent s.g (.inputPacket pkt []) := within_fireEvent.portable (by decide)
          simp only [Nearcade.webrtcReceivedInput, List.filter_append, hpad, hev, List.nil_append]
          rfl

/-- **What a port refuses, Linux refuses with the same code**, of the calls that inject. -/
theorem input_refused (s : State) :
    (∀ pkt, nearcadeSubmitGamepad pkt ≠ .ok →
      (Nearcade.nearcadeSubmitGamepad s pkt).1 = nearcadeSubmitGamepad pkt) ∧
    (∀ vid ev key dx dy, nearcadeSubmitKbm vid ev key dx dy ≠ .ok →
      (Nearcade.nearcadeSubmitKbm s vid ev key dx dy).1 = nearcadeSubmitKbm vid ev key dx dy) ∧
    ∀ slot, nearcadeFlushSlot slot = .ok := by
  refine ⟨fun pkt h => ?_, fun vid ev key dx dy h => ?_, fun _ => rfl⟩
  · cases pkt with
    | none => rfl
    | some pkt => exact absurd rfl h
  · cases vid with
    | none => rfl
    | some vid =>
        cases ev with
        | none => rfl
        | some ev => exact absurd rfl h

/-- Two worlds, of Linux and of a port. -/
def Beside (w w' : World) : Prop := Ported w.sdk w'.sdk ∧ w'.live = w.live

theorem Beside.next {w w' : World} (h : Beside w w') {i : PortInput} (hi : p.Comparable i) :
    Beside ((Nearcade.system ov).next w i.input) ((p.system ov).next w' i) ∧
      (p.system ov).out w' i = ((Nearcade.system ov).out w i.input).filter Effect.portable := by
  obtain ⟨i, wsa⟩ := i
  cases i with
  | call c =>
      obtain ⟨hs, hfx⟩ := run_ported h.1 hi
      exact ⟨⟨hs, h.2⟩, hfx⟩
  | net n =>
      obtain ⟨hs, hfx⟩ := react_ported h.1 n
      exact ⟨⟨hs, congrArg n.live h.2⟩, hfx⟩

/-- **The ports agree with Linux.**  Take the same calls and callbacks on a port and on Linux, in
which each `nearcade_init` of the Linux SDK gets its keyboard and mouse device, and where the port
is Windows its mutexes, and `WSAStartup` succeeds on the port.  Then the port puts out what Linux
does, in the same order, but for what Linux does to devices and to the capture's child; and the two
end with the same `g_state` but for `capturing`, which is 0 on the port, with the same tables of
connections and sessions. -/
theorem ports_agree (p : Port) (ov : Int → Int) {is : List PortInput}
    (h : ∀ i ∈ is, p.Comparable i) :
    let js := is.map PortInput.input
    outputs ((p.system ov).trace .boot is) =
        (outputs ((Nearcade.system ov).trace .boot js)).filter Effect.portable ∧
      Ported ((Nearcade.system ov).final .boot js).sdk ((p.system ov).final .boot is).sdk := by
  intro js
  have hsame : List.Forall₂ (fun j i => j = i.input ∧ p.Comparable i) js is :=
    List.forall₂_map_left_iff.mpr (List.forall₂_same.mpr fun i hi => ⟨rfl, h i hi⟩)
  have hboot : Beside .boot .boot := ⟨⟨.boot, .zero, rfl, rfl⟩, rfl⟩
  obtain ⟨hs, ho⟩ := Machine.run_relate (M := Nearcade.system ov) (N := p.system ov)
    (F := List.filter Effect.portable) (fun _ _ => List.filter_append ..)
    (fun _ _ _ _ hw hi => by rw [hi.1]; exact hw.next hi.2) hsame hboot
  exact ⟨ho, hs.1⟩

/-- A viewer joins and presses a button, and a capture starts; `WSAStartup` succeeds. -/
def playRun : List PortInput :=
  [⟨.call (.init none .good ⟨0, 0⟩), true⟩, ⟨.call (.startCapture 9), true⟩, ⟨connect 7, true⟩,
   ⟨.net (.stateChange 0 .connected), true⟩,
   ⟨.net (.message 0 (.binary (List.replicate 16 1))), true⟩]

theorem ports_agree_play :
    outputs ((Port.windows.system id).trace .boot playRun) =
        (outputs ((Nearcade.system id).trace .boot (playRun.map PortInput.input))).filter
          Effect.portable ∧
      Ported ((Nearcade.system id).final .boot (playRun.map PortInput.input)).sdk
        ((Port.windows.system id).final .boot playRun).sdk :=
  ports_agree .windows id (by
    simp [playRun, Comparable, InitEnv.good, connect])

end Port

end Nearcade
