import Nearcade.System.Effects

/-!
# System — Invariants

What one call or callback can do to each module, said once (`Call.rtc_cases`, `Net.rtc_cases`,
`Call.registry`, `Call.inp_cases`), and the invariants that follow for every reachable world.

* `Registry.Empty`: no viewer is registered in `g_state.viewers` and no slot is claimed.  No
  function of the SDK writes either table but to remove an entry.
* `Sessions.Wf`: every session has its PeerConnection and video track, made for its index, and
  its `connected` flag is false.  No function of the SDK sets the flag.
* `Wired`: where a PeerConnection exists the WebRTC callbacks are set.
* `InTable`: the callbacks of every PeerConnection have captured an index of the viewer table.
* `NoDevice`: once `input_init` has run, no slot has a device.  No function of the SDK calls
  `input_alloc_slot`.
-/

namespace Nearcade
open Text Runs

/-! ### The registry -/

/-- No viewer is registered, and no slot is claimed. -/
structure Registry.Empty (g : NearcadeState) : Prop where
  inactive : ∀ i, (g.viewers i).active = false
  count : g.numViewers = 0
  free : ∀ k, g.slots.slotMap k = 0

theorem Registry.empty_zero : Registry.Empty .zero := ⟨fun _ => rfl, rfl, fun _ => rfl⟩

theorem Registry.Empty.findViewer {g : NearcadeState} (h : Registry.Empty g) (id : Bytes) :
    findViewer g id = none := by
  rw [Nearcade.findViewer, firstIdx_eq_none_iff]
  intro i
  rw [h.inactive i, Bool.false_and]

theorem Registry.Empty.setViewer {g : NearcadeState} (h : Registry.Empty g) (id : Option Bytes)
    (f : ViewerInfo → ViewerInfo) : setViewer g id f = (.errInvalidArg, g) := by
  cases id with
  | none => rfl
  | some id => simp only [Nearcade.setViewer, h.findViewer]

theorem Registry.Empty.disconnect {s : State} (h : Registry.Empty s.g) (id : Option Bytes) :
    (nearcadeDisconnectViewer s id).2 = (s, []) := by
  cases id with
  | none => rfl
  | some id => simp only [nearcadeDisconnectViewer, h.findViewer]

/-! ### `nearcade_init` -/

/-- What `nearcade_init` leaves in `g_state` before it sets `running`. -/
structure FreshState (g : NearcadeState) : Prop where
  viewers : g.viewers = fun _ => .zero
  count : g.numViewers = 0
  slots : g.slots = .zero

theorem FreshState.empty {g : NearcadeState} (h : FreshState g) : Registry.Empty g where
  inactive i := by rw [h.viewers]; rfl
  count := h.count
  free k := by rw [h.slots]; rfl

theorem nearcadeInit_fresh (config : Option NearcadeConfig) (e : InitEnv) (w : Capture.Waits)
    (s : State) : FreshState (nearcadeInit config e w s).2.1.g := by
  rcases nearcadeInit_cases config e w s with
    ⟨-, h⟩ | ⟨-, -, h⟩ | ⟨-, -, -, h⟩ | ⟨-, -, -, h⟩ <;> rw [h] <;> exact ⟨rfl, rfl, rfl⟩

/-- A `nearcade_init` that succeeds leaves the modules up. -/
theorem nearcadeInit_ok {config : Option NearcadeConfig} {e : InitEnv} {w : Capture.Waits}
    {s : State} (h : (nearcadeInit config e w s).1 = .ok) :
    (nearcadeInit config e w s).2.1 =
      { broughtUp config e s with g := { initState config e with running := true } } := by
  revert h
  rcases nearcadeInit_cases config e w s with
    ⟨-, h⟩ | ⟨-, -, h⟩ | ⟨-, -, -, h⟩ | ⟨-, -, -, h⟩ <;> rw [h]
  · exact fun hr => absurd hr (by simp)
  · exact fun hr => absurd hr (by simp)
  · exact fun hr => absurd hr (by simp)
  · exact fun _ => rfl

/-- A successful `nearcade_init` leaves the callbacks of the signaling module set. -/
theorem nearcadeInit_ok_sig {config : Option NearcadeConfig} {e : InitEnv} {w : Capture.Waits}
    {s : State} (h : (nearcadeInit config e w s).1 = .ok) :
    (nearcadeInit config e w s).2.1.sig.gMsgCb = true ∧
      (nearcadeInit config e w s).2.1.sig.gViewerCb = true := by
  obtain ⟨wsi, hs⟩ := Signaling.signalingInit_eq (normaliseConfig config).port e.ctx e.thread
    (Signaling.setInternalCallbacks s.sig)
  rw [nearcadeInit_ok h]
  simp only [broughtUp, initSignaling]
  rw [hs]
  exact ⟨rfl, rfl⟩

/-! ### What a call can do -/

section
variable {ov : Int → Int}

/-- A call keeps the registry empty. -/
theorem Call.registry {s : State} (h : Registry.Empty s.g) (c : Call) :
    Registry.Empty (c.run ov s).1.g := by
  cases c with
  | init config e w => exact (nearcadeInit_fresh config e w s).empty
  | shutdown w =>
      simp only [Call.run, nearcadeShutdown]
      split
      · exact h
      · exact ⟨h.inactive, h.count, h.free⟩
  | startCapture pid =>
      obtain ⟨cap, capturing, e⟩ := startCapture_eq pid s
      rw [Call.run, e]
      exact ⟨h.inactive, h.count, h.free⟩
  | stopCapture w =>
      obtain ⟨cap, capturing, e⟩ := stopCapture_eq w s
      rw [Call.run, e]
      exact ⟨h.inactive, h.count, h.free⟩
  | disconnectViewer id => simp only [Call.run, h.disconnect]; exact h
  | setViewerInputMode id mode =>
      simp only [Call.run, nearcadeSetViewerInputMode, h.setViewer]; exact h
  | setControllerType id ctrl =>
      simp only [Call.run, nearcadeSetControllerType, h.setViewer]; exact h
  | startStreaming | stopStreaming | setEventCallback _ _ | regeneratePin _ =>
      exact ⟨h.inactive, h.count, h.free⟩
  | pollEvents _ | sendH264 _ _ | sendFrame _ _ _ _ | submitGamepad _ | submitKbm _ _ _ _ _
  | flushSlot _ | getSignalingUrl _ | getLanIp _ | getPin _ | sendOffer _ _ | sendAnswer _ _ _
  | sendIceCandidate _ _ _ => exact h

theorem setViewer_flags (g : NearcadeState) (id : Option Bytes) (f : ViewerInfo → ViewerInfo) :
    (setViewer g id f).2.running = g.running ∧ (setViewer g id f).2.streaming = g.streaming := by
  obtain ⟨viewers, e⟩ := setViewer_eq g id f
  rw [e]
  exact ⟨rfl, rfl⟩

/-- A call other than `nearcade_init` and `nearcade_shutdown`. -/
def Call.Operates : Call → Prop
  | .init .. | .shutdown _ => False
  | _ => True

/-- What such a call sets `streaming` to, if it does. -/
def Call.streams : Call → Option Bool
  | .startStreaming => some true
  | .stopStreaming => some false
  | _ => none

/-- **What such a call leaves alone**: whether the SDK runs, the WebRTC and the signaling module,
and `streaming` unless it is there to set it. -/
theorem Call.Operates.frame (ov : Int → Int) (s : State) {c : Call} (h : c.Operates) :
    (c.run ov s).1.g.running = s.g.running ∧ (c.run ov s).1.rtc = s.rtc ∧
      (c.run ov s).1.sig = s.sig ∧
        (c.run ov s).1.g.streaming = c.streams.getD s.g.streaming := by
  cases c with
  | init config e w | shutdown w => exact h.elim
  | startCapture pid =>
      obtain ⟨cap, capturing, e⟩ := startCapture_eq pid s
      rw [Call.run, e]
      exact ⟨rfl, rfl, rfl, rfl⟩
  | stopCapture w =>
      obtain ⟨cap, capturing, e⟩ := stopCapture_eq w s
      rw [Call.run, e]
      exact ⟨rfl, rfl, rfl, rfl⟩
  | disconnectViewer id =>
      cases id with
      | none => exact ⟨rfl, rfl, rfl, rfl⟩
      | some id =>
          simp only [Call.run, nearcadeDisconnectViewer]
          split <;> exact ⟨rfl, rfl, rfl, rfl⟩
  | setViewerInputMode id mode | setControllerType id ctrl =>
      obtain ⟨hrun, hstream⟩ := setViewer_flags s.g id _
      exact ⟨hrun, rfl, rfl, hstream⟩
  | startStreaming | stopStreaming | setEventCallback _ _ | regeneratePin _ | pollEvents _
  | sendH264 _ _ | sendFrame _ _ _ _ | submitGamepad _ | submitKbm _ _ _ _ _ | flushSlot _
  | getSignalingUrl _ | getLanIp _ | getPin _ | sendOffer _ _ | sendAnswer _ _ _
  | sendIceCandidate _ _ _ => exact ⟨rfl, rfl, rfl, rfl⟩

/-- Of the devices it takes away one at most. -/
theorem Call.Operates.inp (ov : Int → Int) (s : State) {c : Call} (h : c.Operates) :
    (c.run ov s).1.inp = s.inp ∨
      ∃ slot, (c.run ov s).1.inp = (Input.inputFreeSlot slot s.inp).2.1 := by
  by_cases hk : .device ∈ c.kinds
  · cases c with
    | init config e w | shutdown w => exact h.elim
    | disconnectViewer id =>
        rcases disconnectViewer_cases s id with e | ⟨slot, g, e⟩
        · exact .inl (by rw [Call.run, e])
        · exact .inr ⟨slot, by rw [Call.run, e]⟩
    | _ => exact absurd hk (by simp [Call.kinds])
  · exact .inl (Call.inp_of_kinds ov s hk)

/-- A call that reaches no device is one of them. -/
theorem Call.operates_of_kinds {c : Call} (hk : .device ∉ c.kinds) : c.Operates := by
  cases c with
  | init config e w | shutdown w => exact absurd (by simp [Call.kinds]) hk
  | _ => trivial

/-- **What a call can do to the WebRTC module.** -/
theorem Call.rtc_cases (ov : Int → Int) (s : State) (c : Call) :
    (c.run ov s).1.rtc = s.rtc ∨ (c.run ov s).1.rtc = webrtcUp s.rtc ∨
      (c.run ov s).1.rtc = Webrtc.webrtcShutdown (webrtcUp s.rtc) ∨
      (c.run ov s).1.rtc = Webrtc.webrtcShutdown s.rtc := by
  by_cases ho : c.Operates
  · exact .inl (ho.frame ov s).2.1
  · cases c with
    | init config e w =>
        rw [Call.run]
        rcases nearcadeInit_cases config e w s with
          ⟨-, h⟩ | ⟨-, -, h⟩ | ⟨-, -, -, h⟩ | ⟨-, -, -, h⟩ <;> rw [h]
        · exact .inl rfl
        · exact .inl rfl
        · exact .inr (.inr (.inl rfl))
        · exact .inr (.inl rfl)
    | shutdown w =>
        simp only [Call.run, nearcadeShutdown]
        split
        · exact .inl rfl
        · exact .inr (.inr (.inr rfl))
    | _ => exact absurd trivial ho

/-- A call creates no PeerConnection, and none changes its state. -/
theorem Call.pcs (ov : Int → Int) (s : State) (c : Call) : (c.run ov s).1.rtc.pcs = s.rtc.pcs := by
  rcases Call.rtc_cases ov s c with h | h | h | h <;> rw [h] <;> rfl

/-- What ESTABLISHED does to the sessions. -/
theorem callbackEstablished_rtc (s : State) (wsi : Wsi) (uri stack : Bytes) :
    (callbackEstablished s wsi uri stack).rtc = s.rtc ∨ ∃ i : Fin maxViewers,
      s.rtc.gInitialized = true ∧
        (callbackEstablished s wsi uri stack).rtc = Webrtc.createSession s.rtc (i.val : Int) := by
  simp only [callbackEstablished, callViewerCb]
  split
  · rename_i i hi
    split
    · simp only [onSignalingViewer, if_true, Webrtc.webrtcViewerJoined]
      split
      · rename_i hup
        exact .inr ⟨i, hup, rfl⟩
      · exact .inl rfl
    · exact .inl rfl
  · exact .inl rfl

/-- What CLOSED does to them. -/
theorem callbackClosed_rtc (s : State) (wsi : Wsi) :
    (callbackClosed s wsi).rtc = s.rtc ∨ ∃ i : Fin maxViewers,
      (Signaling.closed s.sig wsi).2 = some i ∧
        (callbackClosed s wsi).rtc = Webrtc.webrtcViewerLeft s.rtc (i.val : Int) := by
  simp only [callbackClosed, callViewerCb]
  split
  · rename_i i hi
    split
    · exact .inr ⟨i, hi, rfl⟩
    · exact .inl rfl
  · exact .inl rfl

/-- **What a callback can do to the WebRTC module.** -/
theorem Net.rtc_cases (ov : Int → Int) (s : State) (n : Net) :
    (n.run ov s).1.rtc = s.rtc ∨
      (∃ i : Fin maxViewers, s.rtc.gInitialized = true ∧
        (n.run ov s).1.rtc = Webrtc.createSession s.rtc (i.val : Int)) ∨
      (∃ i : Fin maxViewers, (n.run ov s).1.rtc = Webrtc.webrtcViewerLeft s.rtc (i.val : Int)) ∨
      ∃ p st, n = .stateChange p st ∧ (n.run ov s).1.rtc = (Webrtc.onStateChange s.rtc p st).1 := by
  cases n with
  | established wsi uri stack =>
      rcases callbackEstablished_rtc s wsi uri stack with h | ⟨i, hi, h⟩
      · exact .inl h
      · exact .inr (.inl ⟨i, hi, h⟩)
  | closed wsi =>
      rcases callbackClosed_rtc s wsi with h | ⟨i, -, h⟩
      · exact .inl h
      · exact .inr (.inr (.inl ⟨i, h⟩))
  | stateChange p st => exact .inr (.inr (.inr ⟨p, st, rfl, rfl⟩))
  | receive _ _ _ | localDescription _ _ _ _ | localCandidate _ _ _ | message _ _ =>
      exact .inl rfl

/-- A callback leaves `g_state` and the input backend alone. -/
theorem Net.frame (s : State) (n : Net) :
    (n.run ov s).1.g = s.g ∧ (n.run ov s).1.inp = s.inp := by
  have hcb : ∀ (s' : State) (idx : Option (Fin maxViewers)) (joined : Bool),
      (callViewerCb s' idx joined).g = s'.g ∧ (callViewerCb s' idx joined).inp = s'.inp := by
    intro s' idx joined
    obtain ⟨rtc, e⟩ := callViewerCb_eq s' idx joined
    rw [e]
    exact ⟨rfl, rfl⟩
  cases n with
  | established wsi uri stack =>
      exact hcb { s with sig := (Signaling.established s.sig wsi _).1 } _ true
  | closed wsi => exact hcb { s with sig := (Signaling.closed s.sig wsi).1 } _ false
  | stateChange _ _ | receive _ _ _ | localDescription _ _ _ _ | localCandidate _ _ _
  | message _ _ => exact ⟨rfl, rfl⟩

/-- **What a call can do to the input backend.** -/
theorem Call.inp_cases (ov : Int → Int) {s : State} {c : Call} (he : c.Enabled s) :
    (c.run ov s).1.inp = s.inp ∨
      (∃ u : Input.Uinput, u.Fresh s.inp ∧ ((c.run ov s).1.inp = (Input.inputInit u s.inp).2.1 ∨
        (c.run ov s).1.inp = (Input.inputShutdown (Input.inputInit u s.inp).2.1).1)) ∨
      (c.run ov s).1.inp = (Input.inputShutdown s.inp).1 ∨
      ∃ slot, (c.run ov s).1.inp = (Input.inputFreeSlot slot s.inp).2.1 := by
  by_cases ho : c.Operates
  · exact (ho.inp ov s).imp_right fun h => .inr (.inr h)
  · cases c with
    | init config e w =>
        rw [Call.run]
        rcases nearcadeInit_cases config e w s with
          ⟨-, h⟩ | ⟨-, -, h⟩ | ⟨-, -, -, h⟩ | ⟨-, -, -, h⟩ <;> rw [h]
        · exact .inl rfl
        · exact .inr (.inl ⟨e.kbm, he, .inl rfl⟩)
        · exact .inr (.inl ⟨e.kbm, he, .inr rfl⟩)
        · exact .inr (.inl ⟨e.kbm, he, .inl rfl⟩)
    | shutdown w =>
        simp only [Call.run, nearcadeShutdown]
        split
        · exact .inl rfl
        · exact .inr (.inr (.inl rfl))
    | _ => exact absurd trivial ho

end

/-! ### Sessions -/

/-- What holds of every session: its PeerConnection and its track are one, created for its index,
and its `connected` flag is false. -/
structure Session.Wf (st : Webrtc.State) (sess : Webrtc.WebrtcSession) (p : PcId) : Prop where
  pc : sess.pc = some p
  track : sess.videoTrack = some p
  captured : st.captured p = some sess.viewerIdx
  flag : sess.connected = false

/-- Every session is well formed. -/
def Sessions.Wf (st : Webrtc.State) : Prop := ∀ sess ∈ st.gSessions, ∃ p, Session.Wf st sess p

theorem Sessions.Wf.up {st : Webrtc.State} (h : Sessions.Wf st) : Sessions.Wf (webrtcUp st) :=
  fun sess hs => (h sess hs).imp fun _ w => ⟨w.pc, w.track, w.captured, w.flag⟩

theorem Sessions.wf_shutdown (st : Webrtc.State) : Sessions.Wf (Webrtc.webrtcShutdown st) :=
  fun _ hs => absurd hs List.not_mem_nil

theorem captured_build {st : Webrtc.State} {p : PcId} {i idx : Int}
    (h : st.captured p = some i) : (Webrtc.buildSession st idx).captured p = some i := by
  obtain ⟨c, hc, hi⟩ := Option.map_eq_some_iff.mp h
  refine Option.map_eq_some_iff.mpr ⟨c, ?_, hi⟩
  rw [Webrtc.buildSession, List.getElem?_append_left (List.getElem?_eq_some_iff.mp hc).1, hc]

theorem captured_build_new (st : Webrtc.State) (idx : Int) :
    (Webrtc.buildSession st idx).captured st.pcs.length = some idx := by
  simp [Webrtc.State.captured, Webrtc.buildSession]

theorem captured_onStateChange (st : Webrtc.State) (p q : PcId) (state : Webrtc.PcState) :
    (Webrtc.onStateChange st p state).1.captured q = st.captured q := by
  simp only [Webrtc.State.captured, Webrtc.onStateChange, List.getElem?_modify]
  cases st.pcs[q]? with
  | none => rfl
  | some c => by_cases h : p = q <;> simp [h]

theorem Sessions.Wf.create {st : Webrtc.State} (h : Sessions.Wf st) (idx : Int) :
    Sessions.Wf (Webrtc.createSession st idx) := by
  intro sess hs
  rcases List.mem_append.mp hs with hs | hs
  · obtain ⟨p, w⟩ := h sess hs
    exact ⟨p, w.pc, w.track, captured_build w.captured, w.flag⟩
  · obtain rfl := List.mem_singleton.mp hs
    exact ⟨_, rfl, rfl, captured_build_new st idx, rfl⟩

theorem Sessions.Wf.left {st : Webrtc.State} (h : Sessions.Wf st) (idx : Int) :
    Sessions.Wf (Webrtc.webrtcViewerLeft st idx) := fun sess hs =>
  (h sess (List.mem_of_mem_eraseP hs)).imp fun _ w => ⟨w.pc, w.track, w.captured, w.flag⟩

theorem Sessions.Wf.stateChange {st : Webrtc.State} (h : Sessions.Wf st) (p : PcId)
    (state : Webrtc.PcState) : Sessions.Wf (Webrtc.onStateChange st p state).1 := fun sess hs =>
  (h sess hs).imp fun q w =>
    ⟨w.pc, w.track, (captured_onStateChange st p q state).trans w.captured, w.flag⟩

/-- The callbacks of the WebRTC module are all set. -/
structure Wired (st : Webrtc.State) : Prop where
  send : st.gSendCb = true
  input : st.gInputCb = true
  viewer : st.gViewerCb = true

/-- The WebRTC module is wired before it is initialised, and stays so. -/
def WiredWhenUp (st : Webrtc.State) : Prop :=
  (st.gInitialized = true → Wired st) ∧ (st.pcs ≠ [] → Wired st)

/-! ### Reachable worlds -/

/-- Every PeerConnection was made for an index of the viewer table. -/
def InTable (st : Webrtc.State) : Prop :=
  ∀ p idx, st.captured p = some idx → ∃ i : Fin maxViewers, idx = (i.val : Int)

theorem InTable.create {st : Webrtc.State} (h : InTable st) (i : Fin maxViewers) :
    InTable (Webrtc.createSession st (i.val : Int)) := by
  intro p idx hp
  obtain ⟨c, hc, rfl⟩ := Option.map_eq_some_iff.mp hp
  obtain hc | hc := List.mem_append.mp (List.mem_of_getElem? hc)
  · obtain ⟨q, hq⟩ := List.mem_iff_getElem?.mp hc
    exact h q _ (Option.map_eq_some_iff.mpr ⟨c, hq, rfl⟩)
  · obtain rfl := List.mem_singleton.mp hc
    exact ⟨i, rfl⟩

/-- What holds of every world the SDK can reach from its start. -/
structure Inv (w : World) : Prop where
  registry : Registry.Empty w.sdk.g
  sessions : Sessions.Wf w.sdk.rtc
  wired : WiredWhenUp w.sdk.rtc
  inTable : InTable w.sdk.rtc

theorem inv_boot : Inv .boot :=
  ⟨Registry.empty_zero, fun _ hs => absurd hs List.not_mem_nil, ⟨nofun, fun h => absurd rfl h⟩,
    nofun⟩

theorem WiredWhenUp.call {ov : Int → Int} {s : State} (h : WiredWhenUp s.rtc) (c : Call) :
    WiredWhenUp (c.run ov s).1.rtc := by
  rcases Call.rtc_cases ov s c with e | e | e | e <;> rw [e]
  · exact h
  · exact ⟨fun _ => ⟨rfl, rfl, rfl⟩, fun _ => ⟨rfl, rfl, rfl⟩⟩
  · exact ⟨nofun, fun _ => ⟨rfl, rfl, rfl⟩⟩
  · exact ⟨nofun, fun hp => ⟨(h.2 hp).send, (h.2 hp).input, (h.2 hp).viewer⟩⟩

theorem WiredWhenUp.net {ov : Int → Int} {s : State} (h : WiredWhenUp s.rtc) (n : Net) :
    WiredWhenUp (n.run ov s).1.rtc := by
  rcases Net.rtc_cases ov s n with e | ⟨i, hi, e⟩ | ⟨i, e⟩ | ⟨p, st, -, e⟩ <;> rw [e]
  · exact h
  · have w := h.1 hi
    exact ⟨fun _ => ⟨w.send, w.input, w.viewer⟩, fun _ => ⟨w.send, w.input, w.viewer⟩⟩
  · exact ⟨fun hi => ⟨(h.1 hi).send, (h.1 hi).input, (h.1 hi).viewer⟩,
      fun hp => ⟨(h.2 hp).send, (h.2 hp).input, (h.2 hp).viewer⟩⟩
  · have hw : s.rtc.pcs ≠ [] → Wired (Webrtc.onStateChange s.rtc p st).1 := fun hp =>
      ⟨(h.2 hp).send, (h.2 hp).input, (h.2 hp).viewer⟩
    refine ⟨fun hi => ⟨(h.1 hi).send, (h.1 hi).input, (h.1 hi).viewer⟩, fun hp => hw ?_⟩
    rintro he
    exact hp (by simp [Webrtc.onStateChange, he])

theorem WiredWhenUp.next {ov : Int → Int} {w : World} (h : WiredWhenUp w.sdk.rtc) (i : Input) :
    WiredWhenUp ((system ov).next w i).sdk.rtc := by
  cases i with
  | call c => exact h.call c
  | net n => exact h.net n

theorem Inv.next {ov : Int → Int} {w : World} (h : Inv w) (i : Input) :
    Inv ((system ov).next w i) := by
  cases i with
  | call c =>
      refine ⟨Call.registry h.registry c, ?_, h.wired.call c, ?_⟩
      · show Sessions.Wf (c.run ov w.sdk).1.rtc
        rcases Call.rtc_cases ov w.sdk c with e | e | e | e <;> rw [e]
        · exact h.sessions
        · exact h.sessions.up
        · exact Sessions.wf_shutdown _
        · exact Sessions.wf_shutdown _
      · intro p idx hp
        have hp : (c.run ov w.sdk).1.rtc.captured p = some idx := hp
        rw [Webrtc.State.captured, Call.pcs] at hp
        exact h.inTable p idx hp
  | net n =>
      refine ⟨?_, ?_, h.wired.net n, ?_⟩
      · show Registry.Empty (n.run ov w.sdk).1.g
        rw [(Net.frame w.sdk n).1]
        exact h.registry
      · show Sessions.Wf (n.run ov w.sdk).1.rtc
        rcases Net.rtc_cases ov w.sdk n with e | ⟨i, -, e⟩ | ⟨i, e⟩ | ⟨p, st, -, e⟩ <;>
          rw [e]
        · exact h.sessions
        · exact h.sessions.create _
        · exact h.sessions.left _
        · exact h.sessions.stateChange p st
      · show InTable (n.run ov w.sdk).1.rtc
        rcases Net.rtc_cases ov w.sdk n with e | ⟨i, -, e⟩ | ⟨i, e⟩ | ⟨p, st, -, e⟩ <;> rw [e]
        · exact h.inTable
        · exact h.inTable.create i
        · exact h.inTable
        · exact fun q idx hq => h.inTable q idx (by rwa [captured_onStateChange] at hq)

theorem inv_of_reachable {ov : Int → Int} {w : World} (h : (system ov).Reachable .boot w) :
    Inv w :=
  h.of_invariant inv_boot fun _ i hw _ => hw.next i

/-! ### Worlds after a successful `nearcade_init` -/

/-- No slot has a device. -/
def NoDevice (inp : Input.State) : Prop := ∀ k, inp.gpFds k < 0

/-- What holds from a successful `nearcade_init` on. -/
structure StartedInv (w : World) : Prop extends Inv w where
  up : Wired w.sdk.rtc
  devices : NoDevice w.sdk.inp

theorem noDevice_inputInit (u : Input.Uinput) (st : Input.State) :
    NoDevice (Input.inputInit u st).2.1 := by
  intro k
  simp only [Input.inputInit, Input.createKbmDevice]
  split
  · exact Int.negSucc_lt_zero 0
  · split <;> exact Int.negSucc_lt_zero 0

theorem NoDevice.shutdownSlots {st : Input.State} (h : NoDevice st) :
    ∀ l, Input.shutdownSlots l st = (st, [])
  | [] => rfl
  | k :: l => by
      rw [Input.shutdownSlots, if_neg (Int.not_le.mpr (h k)), h.shutdownSlots l]

theorem NoDevice.shutdown {st : Input.State} (h : NoDevice st) :
    NoDevice (Input.inputShutdown st).1 := by
  simp only [Input.inputShutdown, h.shutdownSlots]
  split <;> exact h

theorem NoDevice.free {st : Input.State} (h : NoDevice st) (slot : UInt8) :
    (Input.inputFreeSlot slot st).2.1 = st := by
  simp only [Input.inputFreeSlot]
  split
  · rfl
  · rw [if_neg (Int.not_le.mpr (h _))]

theorem NoDevice.call {ov : Int → Int} {s : State} (h : NoDevice s.inp) {c : Call}
    (he : c.Enabled s) : NoDevice (c.run ov s).1.inp := by
  rcases Call.inp_cases ov he with e | ⟨u, -, e | e⟩ | e | ⟨slot, e⟩ <;> rw [e]
  · exact h
  · exact noDevice_inputInit u _
  · exact (noDevice_inputInit u _).shutdown
  · exact h.shutdown
  · rw [h.free]; exact h

theorem Wired.call {ov : Int → Int} {s : State} (h : Wired s.rtc) (c : Call) :
    Wired (c.run ov s).1.rtc := by
  rcases Call.rtc_cases ov s c with e | e | e | e <;> rw [e]
  · exact h
  · exact ⟨rfl, rfl, rfl⟩
  · exact ⟨rfl, rfl, rfl⟩
  · exact ⟨h.send, h.input, h.viewer⟩

theorem Wired.net {ov : Int → Int} {s : State} (h : Wired s.rtc) (n : Net) :
    Wired (n.run ov s).1.rtc := by
  rcases Net.rtc_cases ov s n with e | ⟨i, -, e⟩ | ⟨i, e⟩ | ⟨p, st, -, e⟩ <;> rw [e]
  · exact h
  all_goals exact ⟨h.send, h.input, h.viewer⟩

theorem StartedInv.next {ov : Int → Int} {w : World} (h : StartedInv w) {i : Input}
    (he : (system ov).enabled w i) : StartedInv ((system ov).next w i) := by
  refine ⟨h.toInv.next i, ?_, ?_⟩
  · cases i with
    | call c => exact h.up.call c
    | net n => exact h.up.net n
  · cases i with
    | call c => exact h.devices.call he
    | net n =>
        show NoDevice (n.run ov w.sdk).1.inp
        rw [(Net.frame w.sdk n).2]
        exact h.devices

theorem Started.inv {ov : Int → Int} {w : World} (h : Started ov w) : StartedInv w := by
  obtain ⟨w₀, config, e, waits, hr, hf, hok, rfl⟩ := h
  have hi : Inv ((system ov).next w₀ (.call (.init config e waits))) :=
    (inv_of_reachable hr).next _
  have hs := nearcadeInit_ok hok
  refine ⟨hi, ?_, ?_⟩
  · show Wired (nearcadeInit config e waits w₀.sdk).2.1.rtc
    rw [hs]
    exact ⟨rfl, rfl, rfl⟩
  · show NoDevice (nearcadeInit config e waits w₀.sdk).2.1.inp
    rw [hs]
    exact noDevice_inputInit _ _

theorem Started.reachable {ov : Int → Int} {w : World} (h : Started ov w) :
    (system ov).Reachable .boot w := by
  obtain ⟨w₀, config, e, waits, hr, hf, -, rfl⟩ := h
  exact hr.step (show (system ov).enabled w₀ (.call (.init config e waits)) from hf)

/-- Before every step of a run after a successful `nearcade_init`. -/
theorem Started.inv_trace {ov : Int → Int} {w : World} (h : Started ov w) {is : List Input}
    (hv : (system ov).Valid w is) {e : Entry World Input Effect}
    (he : e ∈ (system ov).trace w is) :
    StartedInv e.pre ∧ (system ov).enabled e.pre e.input ∧
      e.out = (system ov).out e.pre e.input :=
  Machine.invariant_trace h.inv (fun _ _ hs hi => hs.next hi) hv he

/-- At the end of a run after a successful `nearcade_init`. -/
theorem Started.inv_final {ov : Int → Int} {w : World} (h : Started ov w) {is : List Input}
    (hv : (system ov).Valid w is) : StartedInv ((system ov).final w is) :=
  Machine.invariant h.inv (fun _ _ hs hi => hs.next hi) hv

end Nearcade
