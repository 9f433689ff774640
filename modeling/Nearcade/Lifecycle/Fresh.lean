import Nearcade.System.Unread
import Nearcade.System.Effects

/-!
# Lifecycle — Fresh

An SDK that was shut down and is started again.  What is left of the first instance are the
PeerConnections libdatachannel has seen, which the SDK never asks about, the PIN, and descriptors
that were lost on the way.  `State.behind` is a state with older PeerConnections in front: every
PeerConnection has its name moved up by their number, and every call and every callback does there
what it does in the state itself, under the new names (`Call.run_behind`, `Net.run_behind`).

Calls and callbacks come one after the other here: when the SDK starts again, the service thread of
the first instance has ended and none of its callbacks runs any more.  Where one still does, a
restart is no fresh start (`Signaling/Context.lean`, `Signaling/Restart.lean`).

* `restart_fresh`: whatever happened before the shutdown, the second instance behaves as the first
  one that program would start.
-/

namespace Nearcade
open Text Runs

/-! ### Names -/

/-- The call on the PeerConnection that has `n` older ones in front. -/
def RtcCall.behind (n : Nat) : RtcCall → RtcCall
  | .setRemoteDescription pc sdp type => .setRemoteDescription (n + pc) sdp type
  | .addRemoteCandidate pc cand => .addRemoteCandidate (n + pc) cand
  | c => c

/-- The call without the older PeerConnections. -/
def RtcCall.alone (n : Nat) : RtcCall → RtcCall
  | .setRemoteDescription pc sdp type => .setRemoteDescription (pc - n) sdp type
  | .addRemoteCandidate pc cand => .addRemoteCandidate (pc - n) cand
  | c => c

@[simp] theorem RtcCall.alone_behind (n : Nat) (c : RtcCall) : (c.behind n).alone n = c := by
  cases c with
  | description | candidate => rfl
  | setRemoteDescription pc sdp type | addRemoteCandidate pc cand =>
      simp only [RtcCall.behind, RtcCall.alone, Nat.add_sub_cancel_left]

/-- The effect, with `n` older PeerConnections in front. -/
def Effect.behind (n : Nat) : Effect → Effect
  | .trackSend track frame => .trackSend (n + track) frame
  | .rtc c => .rtc (c.behind n)
  | e => e

/-- What reaches no PeerConnection has the same name. -/
theorem map_behind_foreign {ks : List Kind} {fx : List Effect} (h : Within ks fx)
    (ht : .track ∉ ks) (hr : .rtc ∉ ks) (n : Nat) : fx.map (·.behind n) = fx := by
  refine (List.map_congr_left fun e he => ?_).trans (List.map_id fx)
  have hk := h e he
  cases e with
  | trackSend => exact absurd hk ht
  | rtc => exact absurd hk hr
  | _ => rfl

/-- The callback of the PeerConnection that has `n` older ones in front.  What a call of
libdatachannel does, it does under its new name. -/
def Net.behind (n : Nat) : Net → Net
  | .receive wsi input throws => .receive wsi input fun c => throws (c.alone n)
  | .stateChange pc state => .stateChange (n + pc) state
  | .localDescription pc type sdp io => .localDescription (n + pc) type sdp io
  | .localCandidate pc cand io => .localCandidate (n + pc) cand io
  | .message pc msg => .message (n + pc) msg
  | net => net

/-! ### The WebRTC module -/

namespace Webrtc

/-- The session, with `n` older PeerConnections in front. -/
def WebrtcSession.behind (n : Nat) (sess : WebrtcSession) : WebrtcSession :=
  { sess with
    pc := sess.pc.map (n + ·)
    videoTrack := sess.videoTrack.map (n + ·)
    inputChan := sess.inputChan.map (n + ·) }

/-- The module, with older PeerConnections in front. -/
def State.behind (old : List PeerConnection) (st : State) : State :=
  { st with gSessions := st.gSessions.map (·.behind old.length), pcs := old ++ st.pcs }

variable (old : List PeerConnection) (st : State)

theorem captured_behind (pc : PcId) :
    (st.behind old).captured (old.length + pc) = st.captured pc := by
  rw [State.captured, State.captured, State.behind,
    List.getElem?_append_right (Nat.le_add_right ..), Nat.add_sub_cancel_left]

theorem sessionForViewer_behind (idx : Int) :
    sessionForViewer (st.behind old) idx =
      (sessionForViewer st idx).map (·.behind old.length) :=
  List.find?_map

theorem createSession_behind (idx : Int) :
    createSession (st.behind old) idx = (createSession st idx).behind old := by
  simp [createSession, pushSession, buildSession, newSession, State.behind, WebrtcSession.behind,
    WebrtcSession.init]

theorem webrtcViewerLeft_behind (idx : Int) :
    webrtcViewerLeft (st.behind old) idx = (webrtcViewerLeft st idx).behind old := by
  simp only [webrtcViewerLeft, State.behind, List.eraseP_map]
  rfl

theorem modify_behind (f : PeerConnection → PeerConnection) (l : List PeerConnection) (pc : PcId) :
    (old ++ l).modify (old.length + pc) f = old ++ l.modify pc f := by
  induction old with
  | nil => rw [List.length_nil, Nat.zero_add, List.nil_append, List.nil_append]
  | cons c old ih =>
      rw [List.length_cons, Nat.succ_add, List.cons_append, List.modify_succ_cons, ih,
        List.cons_append]

theorem onStateChange_behind (pc : PcId) (state : PcState) :
    onStateChange (st.behind old) (old.length + pc) state =
      ((onStateChange st pc state).1.behind old, (onStateChange st pc state).2) := by
  simp only [onStateChange, captured_behind]
  refine Prod.ext ?_ rfl
  simp only [State.behind, modify_behind]

theorem sendPrinted_behind (pc : PcId) (size : Nat) (text : Bytes) :
    sendPrinted (st.behind old) (old.length + pc) size text = sendPrinted st pc size text := by
  rw [sendPrinted, captured_behind]
  rfl

/-- The calls of libdatachannel, under their new names. -/
theorem callAll_behind (throws : RtcCall → Bool) (n : Nat) (cs : List RtcCall) :
    callAll (fun c => throws (c.alone n)) (cs.map (·.behind n)) =
      ((callAll throws cs).1, (callAll throws cs).2.map (·.behind n)) := by
  induction cs with
  | nil => rfl
  | cons c cs ih =>
      rw [List.map_cons, callAll, callAll, RtcCall.alone_behind, ih]
      split <;> rfl

theorem applyPayload_behind (throws : RtcCall → Bool) (n : Nat) (value : Option Bytes)
    (calls : Bytes → List RtcCall) :
    (applyPayload (fun c => throws (c.alone n)) value fun v => (calls v).map (·.behind n)).2 =
      (applyPayload throws value calls).2.map (·.behind n) := by
  cases value with
  | none => rfl
  | some v => rw [applyPayload_effects, applyPayload_effects, callAll_behind]

theorem webrtcHandleSignaling_behind (ov : Int → Int) (throws : RtcCall → Bool) (id data : Bytes) :
    (webrtcHandleSignaling ov (fun c => throws (c.alone old.length)) (st.behind old) (some id)
        (some data)).2 =
      (webrtcHandleSignaling ov throws st (some id) (some data)).2.map
        (·.behind old.length) := by
  simp only [webrtcHandleSignaling]
  cases sscanf ov (bytes "viewer_") id with
  | none => rfl
  | some idx =>
      simp only [sessionForViewer_behind]
      split
      · rfl
      · cases sessionForViewer st idx with
        | none => rfl
        | some sess =>
            simp only [Option.map_some, Option.bind_some, WebrtcSession.behind]
            cases sess.pc with
            | none => rfl
            | some pc =>
                simp only [Option.map_some]
                cases messageType data with
                | none => rfl
                | some type =>
                    cases type with
                    | offer => rfl
                    | answer =>
                        exact applyPayload_behind throws old.length (valueAfter sdpKey data)
                          fun sdp => [.description sdp (bytes "answer"),
                            .setRemoteDescription pc sdp (bytes "answer")]
                    | ice =>
                        exact applyPayload_behind throws old.length (valueAfter candidateKey data)
                          fun cand => [.candidate cand, .addRemoteCandidate pc cand]

theorem webrtcSendH264_behind (data : Option Bytes) :
    (webrtcSendH264 (st.behind old) data).2 =
      (webrtcSendH264 st data).2.map (·.behind old.length) := by
  cases data with
  | none => rfl
  | some frame =>
      simp only [webrtcSendH264]
      split
      · rfl
      · simp only [State.behind, List.flatMap_map, List.map_flatMap]
        refine List.flatMap_congr fun sess _ => ?_
        obtain ⟨pc, track, chan, idx, connected⟩ := sess
        cases track with
        | none => rfl
        | some track => cases connected <;> rfl

end Webrtc

/-! ### The SDK -/

/-- The SDK, with older PeerConnections in front. -/
def State.behind (old : List Webrtc.PeerConnection) (s : State) : State :=
  { s with rtc := s.rtc.behind old }

section
variable (ov : Int → Int) (old : List Webrtc.PeerConnection) (s : State)

theorem nearcadeInit_behind (config : Option NearcadeConfig) (e : InitEnv) (w : Capture.Waits) :
    nearcadeInit config e w (s.behind old) =
      ((nearcadeInit config e w s).1, (nearcadeInit config e w s).2.1.behind old,
        (nearcadeInit config e w s).2.2) := by
  have hinp : (s.behind old).inp = s.inp := rfl
  have hsig : (s.behind old).sig = s.sig := rfl
  simp only [nearcadeInit]
  split
  · rfl
  · simp only [initModules, hinp, hsig]
    split
    · rfl
    · split <;> rfl

theorem nearcadeShutdown_behind (w : Capture.Waits) :
    nearcadeShutdown w (s.behind old) =
      ((nearcadeShutdown w s).1.behind old, (nearcadeShutdown w s).2) := by
  have hg : (s.behind old).g = s.g := rfl
  simp only [nearcadeShutdown, hg]
  split <;> rfl

/-- **A call does the same behind older PeerConnections**, under the new names. -/
theorem Call.run_behind (c : Call) :
    c.run ov (s.behind old) =
      ((c.run ov s).1.behind old, (c.run ov s).2.map (·.behind old.length)) := by
  by_cases hk : .track ∈ c.kinds
  · cases c with
    | sendH264 data _ =>
        exact congrArg (s.behind old, ·) (Webrtc.webrtcSendH264_behind old s.rtc data)
    | _ => simp [Call.kinds] at hk
  · have hr : .rtc ∉ c.kinds := by cases c <;> simp [Call.kinds]
    rw [map_behind_foreign (Call.within ov s c) hk hr]
    cases c with
    | init config e w =>
        simp only [Call.run, nearcadeInit_behind]
    | shutdown w => exact nearcadeShutdown_behind old s w
    | startCapture pid =>
        have hg : (s.behind old).g = s.g := rfl
        have hc : (s.behind old).cap = s.cap := rfl
        simp only [Call.run, nearcadeStartCapture, hg, hc]
        split
        · rfl
        · split <;> rfl
    | stopCapture w =>
        have hg : (s.behind old).g = s.g := rfl
        simp only [Call.run, nearcadeStopCapture, hg]
        split <;> rfl
    | disconnectViewer id =>
        cases id with
        | none => rfl
        | some id =>
            have hg : (s.behind old).g = s.g := rfl
            simp only [Call.run, nearcadeDisconnectViewer, hg]
            split <;> rfl
    | sendH264 data _ => exact absurd (by simp [Call.kinds]) hk
    | startStreaming | stopStreaming | setEventCallback _ _ | regeneratePin _ | pollEvents _
    | sendFrame _ _ _ _ | submitGamepad _ | submitKbm _ _ _ _ _ | flushSlot _
    | getSignalingUrl _ | getLanIp _ | getPin _ | sendOffer _ _ | sendAnswer _ _ _
    | sendIceCandidate _ _ _ | setViewerInputMode _ _ | setControllerType _ _ => rfl

theorem callViewerCb_behind (sig : Signaling.State) (idx : Option (Fin maxViewers))
    (joined : Bool) : callViewerCb { s.behind old with sig := sig } idx joined =
      (callViewerCb { s with sig := sig } idx joined).behind old := by
  cases idx with
  | none => rfl
  | some i =>
      simp only [callViewerCb]
      split
      · cases joined with
        | false =>
            exact congrArg (fun rtc => ({ s with sig := sig, rtc := rtc } : State))
              (Webrtc.webrtcViewerLeft_behind old s.rtc (i.val : Int))
        | true =>
            have hup : (s.behind old).rtc.gInitialized = s.rtc.gInitialized := rfl
            simp only [onSignalingViewer, if_true, Webrtc.webrtcViewerJoined, hup]
            split
            · exact congrArg (fun rtc => ({ s with sig := sig, rtc := rtc } : State))
                (Webrtc.createSession_behind old s.rtc (i.val : Int))
            · rfl
      · rfl

theorem within_sendViaSignaling (io : Signaling.Io) (call : Option (Bytes × Bytes)) :
    Within [.socket] (webrtcSendViaSignaling ov io s call) := by
  cases call with
  | none => exact .nil
  | some p => exact Signaling.within_sendToViewer

/-- **So does a callback**, of the PeerConnection with the new name. -/
theorem Net.run_behind (n : Net) :
    (n.behind old.length).run ov (s.behind old) =
      ((n.run ov s).1.behind old, (n.run ov s).2.map (·.behind old.length)) := by
  cases n with
  | established wsi uri stack | closed wsi =>
      exact congrArg (·, []) (callViewerCb_behind old s _ _ _)
  | receive wsi input throws =>
      have hsig : (s.behind old).sig = s.sig := rfl
      refine congrArg (s.behind old, ·) ?_
      simp only [Net.run, callbackReceive, hsig]
      cases Signaling.senderOf s.sig wsi with
      | host | unknown => rfl
      | viewer i =>
          simp only [handleViewerMessage, hsig, List.map_append]
          refine congrArg₂ (· ++ ·) ?_ rfl
          split
          · exact Webrtc.webrtcHandleSignaling_behind old s.rtc ov throws _ _
          · rfl
  | stateChange pc state =>
      simp only [Net.behind, Net.run, State.behind, Webrtc.onStateChange_behind]
      refine Prod.ext rfl ?_
      cases (Webrtc.onStateChange s.rtc pc state).2 <;> rfl
  | localDescription pc type sdp io | localCandidate pc cand io =>
      refine congrArg (s.behind old, ·) ?_
      simp only [Net.run, Webrtc.onLocalDescription, Webrtc.onLocalCandidate]
      refine (congrArg (webrtcSendViaSignaling ov io (s.behind old))
        (Webrtc.sendPrinted_behind old s.rtc pc _ _)).trans ?_
      exact (map_behind_foreign (within_sendViaSignaling ov s io _) (by simp) (by simp) _).symm
  | message pc msg =>
      have hm : Webrtc.onMessage (s.behind old).rtc msg = Webrtc.onMessage s.rtc msg := rfl
      refine congrArg (s.behind old, ·) ?_
      simp only [Net.run, hm]
      cases Webrtc.onMessage s.rtc msg with
      | none => rfl
      | some pkt =>
          have hw : Within [.injection, .application] (webrtcReceivedInput s pkt) :=
            (Input.within_submitGamepad.mono (by simp)).append (within_fireEvent.mono (by simp))
          exact (map_behind_foreign hw (by simp) (by simp) _).symm

/-! ### Runs -/

/-- The input, with `k` older PeerConnections in front. -/
def Input.behind (k : Nat) : Input → Input
  | .call c => .call c
  | .net n => .net (n.behind k)

/-- The world, with older PeerConnections in front. -/
def World.behind (w : World) : World := { w with sdk := w.sdk.behind old }

theorem World.behind_next (w : World) (i : Input) :
    (system ov).next (w.behind old) (i.behind old.length) = ((system ov).next w i).behind old ∧
      (system ov).out (w.behind old) (i.behind old.length) =
        ((system ov).out w i).map (·.behind old.length) := by
  cases i with
  | call c =>
      have h := Call.run_behind ov old w.sdk c
      have ho : (c.run ov (w.sdk.behind old)).2 =
          (c.run ov w.sdk).2.map (·.behind old.length) := by rw [h]
      exact ⟨congrArg (fun r => World.mk r.1 w.live) h, ho⟩
  | net n =>
      have h := Net.run_behind ov old w.sdk n
      have hl : (n.behind old.length).live w.live = n.live w.live := by cases n <;> rfl
      have ho : ((n.behind old.length).run ov (w.sdk.behind old)).2 =
          (n.run ov w.sdk).2.map (·.behind old.length) := by rw [h]
      exact ⟨congrArg₂ (fun r live => World.mk r.1 live) h hl, ho⟩

/-- The same input comes to a later instance: it is about the PeerConnection that has `n` older ones
in front, and `rand` returns what it likes. -/
def Input.Again (n : Nat) (i i' : Input) : Prop := (i.behind n).Redrawn i'

/-- The world is the one of a later instance, with what is left of earlier ones. -/
def World.Again (w w' : World) : Prop := (w.behind old).Like w'

variable {ov old}

theorem World.Again.next {w w' : World} (h : w.Again old w') {i i' : Input}
    (hi : i.Again old.length i') :
    ((system ov).next w i).Again old ((system ov).next w' i') ∧
      (system ov).out w' i' = ((system ov).out w i).map (·.behind old.length) := by
  obtain ⟨hn, ho⟩ := World.behind_next ov old w i
  obtain ⟨hl, ho'⟩ : _ ∧ (system ov).out w' i' = _ := World.Like.next h hi
  rw [hn] at hl
  exact ⟨hl, ho'.trans ho⟩

end

/-! ### The second instance -/

/-- `signaling_init` does the same from all states with empty tables. -/
theorem initSignaling_clear (config : Option NearcadeConfig) (e : InitEnv)
    (st st' : Signaling.State) {s s' : State} (h : s.sig = Signaling.clearTables st)
    (h' : s'.sig = Signaling.clearTables st') :
    initSignaling config e s' = initSignaling config e s := by
  simp only [initSignaling, h, h']
  cases e.ctx with
  | none => rfl
  | some c => cases e.thread <;> rfl

/-- What a shutdown leaves for the next `nearcade_init`. -/
theorem nearcadeInit_shutdown {config : Option NearcadeConfig} {e : InitEnv} {w : Capture.Waits}
    (w' : Capture.Waits) (hok : (nearcadeInit config e w .boot).1 = .ok) {s : State}
    (hrun : s.g.running = true) :
    ∃ pin o, nearcadeInit config e w (nearcadeShutdown w' s).1 =
      (.ok, ((nearcadeInit config e w .boot).2.1.behind s.rtc.pcs).vary pin o,
        (nearcadeInit config e w .boot).2.2) := by
  -- the step at which it would fail does not depend on the state
  obtain ⟨o, hi⟩ := Input.inputInit_any e.kbm State.boot.inp (nearcadeShutdown w' s).1.inp
  have hsig : initSignaling config e (nearcadeShutdown w' s).1 = initSignaling config e .boot :=
    initSignaling_clear config e .boot s.sig rfl (by
      rw [nearcadeShutdown, if_neg (by simp [hrun])]
      rfl)
  have hrtc : webrtcUp (nearcadeShutdown w' s).1.rtc = (webrtcUp .boot).behind s.rtc.pcs := by
    rw [nearcadeShutdown, if_neg (by simp [hrun])]
    simp [webrtcUp, Webrtc.setCallbacks, Webrtc.webrtcInit, Webrtc.webrtcShutdown,
      Webrtc.State.behind, Webrtc.State.boot]
  refine ⟨generatePin e.rand, o, ?_⟩
  revert hok
  rcases nearcadeInit_cases config e w .boot with
    ⟨-, h⟩ | ⟨-, -, h⟩ | ⟨-, -, -, h⟩ | ⟨hl, hi₀, hs₀, h⟩ <;> rw [h]
  · exact fun hr => absurd hr (by simp)
  · exact fun hr => absurd hr (by simp)
  · exact fun hr => absurd hr (by simp)
  · intro _
    rcases nearcadeInit_cases config e w (nearcadeShutdown w' s).1 with
      ⟨hl', -⟩ | ⟨-, hi', -⟩ | ⟨-, -, hs', -⟩ | ⟨-, -, -, h'⟩
    · exact absurd hl' (by simp [hl])
    · exact absurd (by rw [hi]; exact hi₀) hi'
    · exact absurd (by rw [hsig]; exact hs₀) hs'
    · rw [h', hsig]
      simp only [broughtUp, hi, hsig, hrtc]
      rfl

/-- **A restart is a fresh start**, where the service thread has ended and no callback runs.  Let a
program shut down a running SDK, whatever its statics hold, and start it again in an environment in
which a first `nearcade_init` would succeed.  The second one succeeds and acquires the same.  From
there on the same calls and callbacks, about the PeerConnections of the second instance and one
after the other, put out what they would have put out in the first, on those PeerConnections, and
end in the same state. -/
theorem restart_fresh (ov : Int → Int) (config : Option NearcadeConfig) (e : InitEnv)
    (w w' : Capture.Waits) (hok : (nearcadeInit config e w .boot).1 = .ok) {s : State}
    (hrun : s.g.running = true) (rand : Nat) (live live' : Finset Wsi) {is is' : List Input}
    (hi : List.Forall₂ (Input.Again s.rtc.pcs.length) is is') :
    let first := nearcadeInit config e w .boot
    let again := nearcadeInit config { e with rand := rand } w (nearcadeShutdown w' s).1
    again.1 = .ok ∧ again.2.2 = first.2.2 ∧
      outputs ((system ov).trace ⟨again.2.1, live'⟩ is') =
        (outputs ((system ov).trace ⟨first.2.1, live⟩ is)).map (·.behind s.rtc.pcs.length) ∧
      World.Again s.rtc.pcs ((system ov).final ⟨first.2.1, live⟩ is)
        ((system ov).final ⟨again.2.1, live'⟩ is') := by
  intro first again
  obtain ⟨pin, o, h⟩ := nearcadeInit_shutdown w' hok hrun
  obtain ⟨pin', o', h'⟩ := nearcadeInit_vary config e w (nearcadeShutdown w' s).1
    (nearcadeShutdown w' s).1.g.pin (nearcadeShutdown w' s).1.inp.opened rand
  rw [h] at h'
  have h' : again = _ := h'
  have hstart : World.Again s.rtc.pcs ⟨first.2.1, live⟩ ⟨again.2.1, live'⟩ :=
    ⟨pin', o', by rw [h']; rfl⟩
  obtain ⟨hs, ho⟩ := Machine.run_relate (M := system ov) (N := system ov)
    (F := List.map (·.behind s.rtc.pcs.length)) (fun _ _ => List.map_append)
    (fun _ _ _ _ hw hi => hw.next hi) hi hstart
  exact ⟨by rw [h'], by rw [h'], ho, hs⟩

/-- A viewer joins, on the PeerConnection `pc`, and presses a button. -/
def pressRun (pc : PcId) : List Input :=
  [connect 7, .net (.stateChange pc .connected), .net (.message pc (.binary (List.replicate 16 1)))]

theorem pressRun_again (n : Nat) : List.Forall₂ (Input.Again n) (pressRun 0) (pressRun n) := by
  refine .cons ?_ (.cons ?_ (.cons ?_ .nil))
  · exact rfl
  · exact rfl
  · exact rfl

theorem restart_fresh_press :
    let first := nearcadeInit none .good ⟨0, 0⟩ .boot
    let again := nearcadeInit none { InitEnv.good with rand := 41 } ⟨0, 0⟩
      (nearcadeShutdown ⟨0, 0⟩ World.oneViewer.sdk).1
    again.1 = .ok ∧ again.2.2 = first.2.2 ∧
      outputs ((system id).trace ⟨again.2.1, ∅⟩ (pressRun 1)) =
        (outputs ((system id).trace ⟨first.2.1, ∅⟩ (pressRun 0))).map (·.behind 1) ∧
      World.Again World.oneViewer.sdk.rtc.pcs ((system id).final ⟨first.2.1, ∅⟩ (pressRun 0))
        ((system id).final ⟨again.2.1, ∅⟩ (pressRun 1)) := by
  have hn : World.oneViewer.sdk.rtc.pcs.length = 1 := by decide +kernel
  have h := restart_fresh id none .good ⟨0, 0⟩ ⟨0, 0⟩ rfl (s := World.oneViewer.sdk)
    (by decide +kernel) 41 ∅ ∅ (pressRun_again _)
  rw [hn] at h
  exact h

end Nearcade
