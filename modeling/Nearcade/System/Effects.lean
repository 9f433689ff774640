import Nearcade.System.Machine

/-!
# System — Effects

Every effect is for one part of the world outside (`Effect.kind`), and every function of a module
reaches the parts its module deals with, no others.

* `Call.within`, `Net.within`: the parts a call and a callback can reach.
* `Call.mem_writes`, `Net.mem_writes`: the devices they write input events to.
* `Within.filterMap`: what only tells the effects on some parts says nothing about the functions
  that do not reach them.
-/

namespace Nearcade
open Text Runs

/-- The parts of the world outside: the application, the uinput devices, the events injected into
them, the FFmpeg child, the libwebsockets context, the sockets on it, the video tracks, and the
PeerConnections. -/
inductive Kind where
  | application | device | injection | child | context | socket | track | rtc
  deriving DecidableEq

/-- The part an effect is for. -/
def Effect.kind : Effect → Kind
  | .event .. => .application
  | .inputEvent .. => .injection
  | .uinputOpen _ | .uinputCreate .. | .uinputDestroy _ | .close _ => .device
  | .fork _ | .kill .. | .waitpid .. => .child
  | .lwsWrite .. => .socket
  | .lwsCreateContext _ | .lwsContextDestroy _ => .context
  | .trackSend .. => .track
  | .rtc _ => .rtc

/-- All effects are for parts of a list. -/
def Within (ks : List Kind) (fx : List Effect) : Prop := ∀ e ∈ fx, e.kind ∈ ks

namespace Within
variable {ks ks' : List Kind} {fx fx' : List Effect}

theorem nil : Within ks [] := fun _ h => absurd h List.not_mem_nil

theorem one {e : Effect} (h : e.kind ∈ ks) : Within ks [e] := fun _ he =>
  List.mem_singleton.mp he ▸ h

theorem append (h : Within ks fx) (h' : Within ks fx') : Within ks (fx ++ fx') := fun e he =>
  (List.mem_append.mp he).elim (h e) (h' e)

theorem mono (h : Within ks fx) (hk : ks ⊆ ks') : Within ks' fx := fun e he => hk (h e he)

/-- A view of the effects that is blind to some parts sees nothing there. -/
theorem filterMap {β : Type*} {f : Effect → Option β} (h : Within ks fx)
    (hf : ∀ e : Effect, e.kind ∈ ks → f e = none) : fx.filterMap f = [] :=
  List.filterMap_eq_nil_iff.mpr fun e he => hf e (h e he)

end Within

/-! ### The modules -/

namespace Input

theorem within_emit {fd : Int} {type code : UInt16} {val : Int} :
    Within [.injection] (emit fd type code val) := by
  rw [emit]
  split
  · exact .nil
  · exact .one (List.mem_singleton.mpr rfl)

theorem within_syn {fd : Int} : Within [.injection] (syn fd) := by
  rw [syn]
  split
  · exact within_emit
  · exact .nil

theorem within_emitAll {fd : Int} {ws : List (UInt16 × UInt16 × Int)} :
    Within [.injection] (emitAll fd ws) := by
  intro e he
  obtain ⟨⟨type, code, val⟩, -, he⟩ := List.mem_flatMap.mp he
  exact within_emit e he

theorem within_submitGamepad {st : State} {pkt : Option NearcadeGamepadPacket} :
    Within [.injection] (inputSubmitGamepad st pkt).2 := by
  simp only [inputSubmitGamepad]
  split
  · exact .nil
  · split
    · exact .nil
    · split
      · exact .nil
      · exact within_emitAll.append within_syn

theorem within_submitKbm {st : State} {vid ev : Bytes} {key : Option Bytes} {dx dy : Int} :
    Within [.injection] (inputSubmitKbm st vid ev key dx dy).2 := by
  simp only [inputSubmitKbm]
  split
  · exact .nil
  · split
    · exact (within_emit.append within_emit).append within_syn
    · split
      · split
        · exact within_emit.append within_syn
        · exact .nil
      · exact .nil

theorem within_flushSlot {st : State} {slot : UInt8} :
    Within [.injection] (inputFlushSlot st slot).2 := by
  simp only [inputFlushSlot]
  split
  · exact .nil
  · split
    · exact within_emitAll.append within_syn
    · exact .nil

/-- Opening a device, whether it is then created or closed again. -/
theorem within_opened {e e' : Effect} (h : e.kind = .device) (h' : e'.kind = .device) :
    Within [.device] [e, e'] := by
  intro f hf
  rcases List.mem_pair.mp hf with rfl | rfl
  · exact List.mem_singleton.mpr h
  · exact List.mem_singleton.mpr h'

theorem within_init {u : Uinput} {st : State} : Within [.device] (inputInit u st).2.2 := by
  simp only [inputInit, createKbmDevice]
  split
  · exact .nil
  · split <;> exact within_opened rfl rfl

theorem within_destroyGp {st : State} {k : Fin maxSlots} :
    Within [.device] (destroyGp st k).2 := within_opened rfl rfl

theorem within_shutdownSlots : ∀ {l : List (Fin maxSlots)} {st : State},
    Within [.device] (shutdownSlots l st).2
  | [], _ => .nil
  | k :: l, st => by
      rw [shutdownSlots]
      split
      · exact within_destroyGp.append within_shutdownSlots
      · exact within_shutdownSlots

theorem within_shutdown {st : State} : Within [.device] (inputShutdown st).2 := by
  simp only [inputShutdown]
  split
  · exact within_shutdownSlots.append (within_opened rfl rfl)
  · exact within_shutdownSlots

theorem within_evictGp {st : State} {k : Fin maxSlots} : Within [.device] (evictGp st k).2 := by
  rw [evictGp]
  split
  · exact within_destroyGp
  · exact .nil

theorem within_allocSlot {u : Uinput} {slot : UInt8} {v p ver : UInt16} {name : Option Bytes}
    {st : State} : Within [.device] (inputAllocSlot u slot v p ver name st).2.2 := by
  simp only [inputAllocSlot]
  split
  · exact .nil
  · split
    · exact within_evictGp
    · split <;> exact within_evictGp.append (within_opened rfl rfl)

theorem within_freeSlot {slot : UInt8} {st : State} :
    Within [.device] (inputFreeSlot slot st).2.2 := by
  simp only [inputFreeSlot]
  split
  · exact .nil
  · split
    · exact within_destroyGp
    · exact .nil

end Input

namespace Capture

theorem within_start {pid : Int} {st : State} : Within [.child] (captureStart pid st).2.2 := by
  simp only [captureStart]
  split
  · exact .nil
  · split
    · exact .nil
    · exact .one (List.mem_singleton.mpr rfl)

theorem within_stop {w : Waits} {st : State} : Within [.child] (captureStop w st).2 := by
  simp only [captureStop, reapChild, Within]
  split
  · split
    · split <;> simp [Effect.kind]
    · simp [Effect.kind]
  · simp

end Capture

namespace Signaling

theorem within_init {port : Int} {ctx : Option Nat} {thread : Bool} {st : State} :
    Within [.context] (signalingInit port ctx thread st).2.2 := by
  cases ctx with
  | none => exact .nil
  | some c => cases thread <;> simp [signalingInit, Within, Effect.kind]

theorem within_shutdown {st : State} : Within [.context] (signalingShutdown st).2 := by
  simp only [signalingShutdown]
  cases st.gWsi with
  | none => exact .nil
  | some c => exact .one (List.mem_singleton.mpr rfl)

theorem within_sendToLws {io : Io} {wsi : Option Wsi} {data : Bytes} :
    Within [.socket] (sendToLws io wsi data).2 := by
  cases wsi with
  | none => exact .nil
  | some w =>
      simp only [sendToLws]
      split
      · exact .nil
      · split
        · exact .nil
        · exact .one (List.mem_singleton.mpr rfl)

theorem within_sendAnswer {ov : Int → Int} {io : Io} {st : State} {id sdp : Option Bytes} :
    Within [.socket] (signalingSendAnswer ov io st id sdp).2 := by
  cases sdp with
  | none => exact .nil
  | some sdp => exact within_sendToLws

theorem within_sendIce {ov : Int → Int} {io : Io} {st : State} {id cand : Option Bytes} :
    Within [.socket] (signalingSendIce ov io st id cand).2 := by
  cases cand with
  | none => exact .nil
  | some cand => exact within_sendToLws

theorem within_sendToViewer {ov : Int → Int} {io : Io} {st : State} {id data : Bytes} :
    Within [.socket] (signalingSendToViewer ov io st id data).2 := by
  simp only [signalingSendToViewer]
  split
  · exact within_sendToLws
  · exact .nil

end Signaling

namespace Webrtc

theorem within_sendH264 {st : State} {data : Option Bytes} :
    Within [.track] (webrtcSendH264 st data).2 := by
  simp only [webrtcSendH264]
  split
  · exact .nil
  · split
    · exact .nil
    · intro e he
      obtain ⟨sess, -, he⟩ := List.mem_flatMap.mp he
      split at he
      · split at he
        · rw [List.mem_singleton.mp he]
          exact List.mem_singleton.mpr rfl
        · exact absurd he List.not_mem_nil
      · exact absurd he List.not_mem_nil

theorem within_applyPayload {throws : RtcCall → Bool} {value : Option Bytes}
    {calls : Bytes → List RtcCall} : Within [.rtc] (applyPayload throws value calls).2 := by
  cases value with
  | none => exact .nil
  | some v =>
      rw [applyPayload_effects]
      intro e he
      obtain ⟨c, -, rfl⟩ := mem_callAll he
      exact List.mem_singleton.mpr rfl

theorem within_handleSignaling {ov : Int → Int} {throws : RtcCall → Bool} {st : State}
    {id data : Option Bytes} : Within [.rtc] (webrtcHandleSignaling ov throws st id data).2 := by
  simp only [webrtcHandleSignaling]
  split
  · split
    · exact .nil
    · split
      · exact .nil
      · split
        · exact .nil
        · split
          · exact .nil
          · exact within_applyPayload
          · exact within_applyPayload
          · exact .nil
  · exact .nil

end Webrtc

/-! ### What is written -/

/-- The descriptors that input events are written to, one for each event. -/
def writes (fx : List Effect) : List Int :=
  fx.filterMap fun
    | .inputEvent fd _ _ _ => some fd
    | _ => none

@[simp] theorem writes_nil : writes [] = [] := rfl

@[simp] theorem writes_append (fx fx' : List Effect) :
    writes (fx ++ fx') = writes fx ++ writes fx' :=
  List.filterMap_append

/-- What does not reach the injection writes nothing. -/
theorem writes_foreign {ks : List Kind} {fx : List Effect} (h : Within ks fx)
    (hk : .injection ∉ ks) : writes fx = [] :=
  h.filterMap fun e he => by
    cases e with
    | inputEvent fd type code val => exact absurd he hk
    | _ => rfl

namespace Input

theorem writes_emit (fd : Int) (type code : UInt16) (val : Int) :
    writes (emit fd type code val) = if fd < 0 then [] else [fd] := by
  rw [emit]
  split <;> rfl

theorem mem_writes_emitAll {fd fd' : Int} {ws : List (UInt16 × UInt16 × Int)}
    (h : fd' ∈ writes (emitAll fd ws)) : 0 ≤ fd ∧ fd' = fd := by
  obtain ⟨e, he, hf⟩ := List.mem_filterMap.mp h
  obtain ⟨⟨type, code, val⟩, -, he⟩ := List.mem_flatMap.mp he
  have hm : fd' ∈ writes (emit fd type code val) := List.mem_filterMap.mpr ⟨e, he, hf⟩
  rw [writes_emit] at hm
  split at hm
  · exact absurd hm List.not_mem_nil
  · rename_i h0
    exact ⟨Int.not_lt.mp h0, List.mem_singleton.mp hm⟩

theorem mem_writes_syn {fd fd' : Int} : fd' ∈ writes (syn fd) ↔ 0 ≤ fd ∧ fd' = fd := by
  rw [syn]
  split
  · rename_i h0
    rw [writes_emit, if_neg (Int.not_lt.mpr h0), List.mem_singleton]
    exact (and_iff_right h0).symm
  · rename_i h0
    exact iff_of_false List.not_mem_nil fun h => h0 h.1

/-- A list of events that ends with a report goes to its device. -/
theorem mem_writes_report {fd fd' : Int} {ws : List (UInt16 × UInt16 × Int)} :
    fd' ∈ writes (emitAll fd ws ++ syn fd) ↔ 0 ≤ fd ∧ fd' = fd := by
  rw [writes_append, List.mem_append, mem_writes_syn]
  exact ⟨fun h => h.elim mem_writes_emitAll id, .inr⟩

/-- A slot has a device, on a descriptor. -/
def OnSlot (st : State) (slot : UInt8) (fd : Int) : Prop :=
  ∃ k, slotOfByte slot = some k ∧ 0 ≤ st.gpFds k ∧ fd = st.gpFds k

/-- What a gamepad packet is written to. -/
theorem mem_writes_submitGamepad {st : State} {pkt : NearcadeGamepadPacket} {fd : Int} :
    fd ∈ writes (inputSubmitGamepad st (some pkt)).2 ↔ OnSlot st pkt.slot fd := by
  simp only [inputSubmitGamepad]
  split
  · rename_i h
    exact iff_of_false List.not_mem_nil fun ⟨k, hk, _⟩ => by rw [h] at hk; cases hk
  · rename_i k h
    have hk : ∀ j, slotOfByte pkt.slot = some j → j = k := fun j hj =>
      Option.some.inj (hj.symm.trans h)
    split
    · rename_i h0
      refine iff_of_false List.not_mem_nil fun ⟨j, hj, h0', _⟩ => ?_
      rw [hk j hj] at h0'
      exact absurd h0 (Int.not_lt.mpr h0')
    · rw [gamepadEvents, mem_writes_report]
      constructor
      · exact fun hm => ⟨k, h, hm⟩
      · rintro ⟨j, hj, hm⟩
        rwa [hk j hj] at hm

/-- What a flush is written to. -/
theorem mem_writes_flushSlot {st : State} {slot : UInt8} {fd : Int} :
    fd ∈ writes (inputFlushSlot st slot).2 ↔ OnSlot st slot fd := by
  simp only [inputFlushSlot]
  split
  · rename_i h
    exact iff_of_false List.not_mem_nil fun ⟨k, hk, _⟩ => by rw [h] at hk; cases hk
  · rename_i k h
    have hk : ∀ j, slotOfByte slot = some j → j = k := fun j hj =>
      Option.some.inj (hj.symm.trans h)
    split
    · rw [flushEvents, mem_writes_report]
      constructor
      · exact fun hm => ⟨k, h, hm⟩
      · rintro ⟨j, hj, hm⟩
        rwa [hk j hj] at hm
    · rename_i h0
      refine iff_of_false List.not_mem_nil fun ⟨j, hj, h0', _⟩ => ?_
      rw [hk j hj] at h0'
      exact h0 h0'

/-- The events of the keyboard and mouse that are written: motion, and keys the table knows. -/
def KbmMapped (eventType : Bytes) (key : Option Bytes) : Prop :=
  eventType = bytes "mousemove" ∨
    (eventType = bytes "keydown" ∨ eventType = bytes "keyup") ∧ 0 < keyNameToCode key

instance (eventType : Bytes) (key : Option Bytes) : Decidable (KbmMapped eventType key) :=
  inferInstanceAs (Decidable (_ ∨ _))

/-- What an event of the keyboard and mouse is written to. -/
theorem mem_writes_submitKbm {st : State} {vid ev : Bytes} {key : Option Bytes} {dx dy fd : Int} :
    fd ∈ writes (inputSubmitKbm st vid ev key dx dy).2 ↔
      KbmMapped ev key ∧ 0 ≤ st.kbmFd ∧ fd = st.kbmFd := by
  simp only [inputSubmitKbm, KbmMapped]
  split
  · rename_i h0
    exact iff_of_false List.not_mem_nil fun h => absurd h0 (Int.not_lt.mpr h.2.1)
  · rename_i h0
    have hsyn : ∀ {fx : List Effect}, (∀ fd' ∈ writes fx, fd' = st.kbmFd) →
        (fd ∈ writes (fx ++ syn st.kbmFd) ↔ 0 ≤ st.kbmFd ∧ fd = st.kbmFd) := by
      intro fx hfx
      rw [writes_append, List.mem_append, mem_writes_syn]
      exact ⟨fun h => h.elim (fun h => ⟨Int.not_lt.mp h0, hfx fd h⟩) id, .inr⟩
    split
    · rename_i hm
      rw [hsyn (by simp [writes_emit, h0])]
      exact (and_iff_right (.inl hm)).symm
    · rename_i hm
      split
      · rename_i hk
        split
        · rename_i hc
          rw [hsyn (by simp [writes_emit, h0])]
          exact (and_iff_right (.inr ⟨hk, hc⟩)).symm
        · rename_i hc
          exact iff_of_false List.not_mem_nil fun h => h.1.elim hm fun h => hc h.2
      · rename_i hk
        exact iff_of_false List.not_mem_nil fun h => h.1.elim hm fun h => hk h.1

end Input

/-! ### Calls and callbacks -/

/-- The parts a call can reach. -/
def Call.kinds : Call → List Kind
  | .init .. => [.device, .context]
  | .shutdown _ => [.child, .device, .context]
  | .startStreaming => [.application]
  | .startCapture _ | .stopCapture _ => [.child]
  | .submitGamepad _ | .submitKbm .. | .flushSlot _ => [.injection]
  | .disconnectViewer _ => [.device]
  | .sendH264 .. => [.track]
  | .sendAnswer .. | .sendIceCandidate .. => [.socket]
  | _ => []

/-- The parts a callback can reach. -/
def Net.kinds : Net → List Kind
  | .receive .. => [.rtc, .application]
  | .stateChange .. => [.application]
  | .localDescription .. | .localCandidate .. => [.socket]
  | .message .. => [.injection, .application]
  | _ => []

theorem within_fireEvent {g : NearcadeState} {ev : NearcadeEvent} :
    Within [.application] (fireEvent g ev) := .one (List.mem_singleton.mpr rfl)

theorem within_nearcadeInit {config : Option NearcadeConfig} {e : InitEnv} {w : Capture.Waits}
    {s : State} : Within [.device, .context] (nearcadeInit config e w s).2.2 := by
  have dev : ∀ {fx : List Effect}, Within [.device] fx → Within [.device, .context] fx := fun h =>
    h.mono (by simp)
  have ctx : ∀ {fx : List Effect}, Within [.context] fx → Within [.device, .context] fx := fun h =>
    h.mono (by simp)
  have hi : Within [.device, .context] (Input.inputInit e.kbm s.inp).2.2 := dev Input.within_init
  have hs : Within [.device, .context] (initSignaling config e s).2.2 := ctx Signaling.within_init
  rcases nearcadeInit_cases config e w s with
    ⟨-, h⟩ | ⟨-, -, h⟩ | ⟨-, -, -, h⟩ | ⟨-, -, -, h⟩ <;> rw [h]
  · exact .nil
  · exact hi
  · exact (hi.append hs).append (dev Input.within_shutdown)
  · exact hi.append hs

theorem within_nearcadeShutdown {w : Capture.Waits} {s : State} :
    Within [.child, .device, .context] (nearcadeShutdown w s).2 := by
  simp only [nearcadeShutdown]
  split
  · exact .nil
  · refine .append (.append ?_ ?_) ?_
    · exact Capture.within_stop.mono (by simp)
    · exact Input.within_shutdown.mono (by simp)
    · exact Signaling.within_shutdown.mono (by simp)

/-- **The parts a call reaches.** -/
theorem Call.within (ov : Int → Int) (s : State) (c : Call) : Within c.kinds (c.run ov s).2 := by
  cases c with
  | init config e w => exact within_nearcadeInit
  | shutdown w => exact within_nearcadeShutdown
  | startStreaming => exact within_fireEvent
  | startCapture pid =>
      simp only [Call.run, nearcadeStartCapture]
      split
      · exact .nil
      · split <;> exact Capture.within_start
  | stopCapture w =>
      simp only [Call.run, nearcadeStopCapture]
      split
      · exact .nil
      · exact Capture.within_stop
  | submitGamepad pkt =>
      cases pkt with
      | none => exact .nil
      | some pkt => exact Input.within_submitGamepad
  | submitKbm vid ev key dx dy =>
      simp only [Call.run, nearcadeSubmitKbm]
      split
      · exact Input.within_submitKbm
      · exact .nil
  | flushSlot slot => exact Input.within_flushSlot
  | disconnectViewer id =>
      cases id with
      | none => exact .nil
      | some id =>
          simp only [Call.run, nearcadeDisconnectViewer]
          split
          · exact .nil
          · exact Input.within_freeSlot
  | sendH264 data _ => exact Webrtc.within_sendH264
  | sendAnswer id sdp io => exact Signaling.within_sendAnswer
  | sendIceCandidate id cand io => exact Signaling.within_sendIce
  | stopStreaming | pollEvents _ | sendFrame _ _ _ _ | setViewerInputMode _ _
  | setControllerType _ _ | setEventCallback _ _ | getSignalingUrl _ | getLanIp _ | getPin _
  | regeneratePin _ | sendOffer _ _ => exact .nil

/-- A call that reaches no device leaves the input backend alone. -/
theorem Call.inp_of_kinds (ov : Int → Int) (s : State) {c : Call} (hk : .device ∉ c.kinds) :
    (c.run ov s).1.inp = s.inp := by
  cases c with
  | init config e w | shutdown w | disconnectViewer id => exact absurd (by simp [Call.kinds]) hk
  | startCapture pid =>
      obtain ⟨cap, capturing, e⟩ := startCapture_eq pid s
      rw [Call.run, e]
  | stopCapture w =>
      obtain ⟨cap, capturing, e⟩ := stopCapture_eq w s
      rw [Call.run, e]
  | startStreaming | stopStreaming | setEventCallback _ _ | regeneratePin _ | pollEvents _
  | sendH264 _ _ | sendFrame _ _ _ _ | submitGamepad _ | submitKbm _ _ _ _ _ | flushSlot _
  | getSignalingUrl _ | getLanIp _ | getPin _ | sendOffer _ _ | sendAnswer _ _ _
  | sendIceCandidate _ _ _ | setViewerInputMode _ _ | setControllerType _ _ => rfl

/-- **The parts a callback reaches.** -/
theorem Net.within (ov : Int → Int) (s : State) (n : Net) : Within n.kinds (n.run ov s).2 := by
  have send : ∀ io call, Within [.socket] (webrtcSendViaSignaling ov io s call) := by
    intro io call
    cases call with
    | none => exact .nil
    | some p => exact Signaling.within_sendToViewer
  cases n with
  | established _ _ _ | closed _ => exact .nil
  | receive wsi input throws =>
      have fire : ∀ ev, Within [.rtc, .application] (fireEvent s.g ev) := fun ev =>
        within_fireEvent.mono (by simp)
      simp only [Net.run, callbackReceive]
      split
      · exact fire _
      · refine .append ?_ (fire _)
        split
        · exact Webrtc.within_handleSignaling.mono (by simp [Net.kinds])
        · exact .nil
      · exact .nil
  | stateChange pc state =>
      simp only [Net.run]
      split
      · exact within_fireEvent
      · exact .nil
  | localDescription pc type sdp io | localCandidate pc cand io => exact send io _
  | message pc msg =>
      simp only [Net.run]
      split
      · exact (Input.within_submitGamepad.mono (by simp [Net.kinds])).append
          (within_fireEvent.mono (by simp [Net.kinds]))
      · exact .nil

/-- The devices a call writes to. -/
def Call.Targets (s : State) (fd : Int) : Call → Prop
  | .submitGamepad (some pkt) => Input.OnSlot s.inp pkt.slot fd
  | .flushSlot slot => Input.OnSlot s.inp slot fd
  | .submitKbm (some _) (some ev) key _ _ =>
      Input.KbmMapped ev key ∧ 0 ≤ s.inp.kbmFd ∧ fd = s.inp.kbmFd
  | _ => False

/-- The devices a callback writes to. -/
def Net.Targets (s : State) (fd : Int) : Net → Prop
  | .message _ msg =>
      ∃ pkt, Webrtc.onMessage s.rtc msg = some pkt ∧ Input.OnSlot s.inp pkt.slot fd
  | _ => False

theorem Call.mem_writes (ov : Int → Int) {s : State} {c : Call} {fd : Int} :
    fd ∈ writes (c.run ov s).2 ↔ c.Targets s fd := by
  have none : ∀ {c : Call}, .injection ∉ c.kinds → ¬ fd ∈ writes (c.run ov s).2 := by
    intro c hk hm
    rw [writes_foreign (Call.within ov s c) hk] at hm
    exact absurd hm List.not_mem_nil
  cases c with
  | submitGamepad pkt =>
      cases pkt with
      | none => exact iff_of_false List.not_mem_nil id
      | some pkt => exact Input.mem_writes_submitGamepad
  | flushSlot slot => exact Input.mem_writes_flushSlot
  | submitKbm vid ev key dx dy =>
      rcases vid with _ | vid
      · exact iff_of_false List.not_mem_nil id
      · rcases ev with _ | ev
        · exact iff_of_false List.not_mem_nil id
        · exact Input.mem_writes_submitKbm
  | _ => exact iff_of_false (none (by simp [Call.kinds])) id

theorem Net.mem_writes (ov : Int → Int) {s : State} {n : Net} {fd : Int} :
    fd ∈ writes (n.run ov s).2 ↔ n.Targets s fd := by
  have none : ∀ {n : Net}, .injection ∉ n.kinds → ¬ fd ∈ writes (n.run ov s).2 := by
    intro n hk hm
    rw [writes_foreign (Net.within ov s n) hk] at hm
    exact absurd hm List.not_mem_nil
  cases n with
  | message pc msg =>
      simp only [Net.run, Net.Targets]
      cases Webrtc.onMessage s.rtc msg with
      | none => simp
      | some pkt =>
          have hf : writes (fireEvent s.g (.inputPacket pkt [])) = [] := rfl
          simp only [webrtcReceivedInput, writes_append, hf, List.append_nil,
            Input.mem_writes_submitGamepad, Option.some.injEq, exists_eq_left']
  | _ => exact iff_of_false (none (by simp [Net.kinds])) id

end Nearcade
