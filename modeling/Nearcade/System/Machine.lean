import Nearcade.Support.Runs
import Nearcade.Source.Orchestrator

/-!
# System — Machine

The SDK in its world, one public call or one network event at a time: `system` is the machine
whose inputs are the calls of the public API, the callbacks of libwebsockets and the callbacks
of libdatachannel, each run to its end.  An input carries what the environment answers on the
way (what `open` returns, whether a libdatachannel call throws).

The world keeps, next to the SDK's statics, the connections libwebsockets has established and
not closed.  `enabled` is what the environment promises: `open` returns no open descriptor,
`fork` returns 0 to no parent, a connection is established once and closed at most once, only a
PeerConnection that exists calls back.  Nothing else is assumed; in particular a PeerConnection
may call back after its session is erased, in any order of states, and connections may come
while no service thread runs.
-/

namespace Nearcade
open Text Runs

/-- The calls of the public API, with what the environment answers. -/
inductive Call where
  | init (config : Option NearcadeConfig) (env : InitEnv) (waits : Capture.Waits)
  | startStreaming
  | stopStreaming
  | pollEvents (timeoutMs : Int)
  | shutdown (waits : Capture.Waits)
  | sendH264 (data : Option Bytes) (timestampUs : Int)
  | sendFrame (data : Option Bytes) (width height : Int) (timestampUs : Int)
  | startCapture (pid : Int)
  | stopCapture (waits : Capture.Waits)
  | submitGamepad (pkt : Option NearcadeGamepadPacket)
  | submitKbm (viewerId eventType key : Option Bytes) (dx dy : Int)
  | flushSlot (slot : UInt8)
  | disconnectViewer (viewerId : Option Bytes)
  | setViewerInputMode (viewerId : Option Bytes) (mode : NearcadeInputMode)
  | setControllerType (viewerId : Option Bytes) (ctrl : NearcadeCtrlType)
  | setEventCallback (cb : Option Nat) (userdata : Nat)
  | getSignalingUrl (buf : Option Bytes)
  | getLanIp (buf : Option Bytes)
  | getPin (buf : Option Bytes)
  | regeneratePin (rand : Nat)
  | sendOffer (viewerId sdp : Option Bytes)
  | sendAnswer (viewerId sdp : Option Bytes) (io : Signaling.Io)
  | sendIceCandidate (viewerId candidate : Option Bytes) (io : Signaling.Io)

/-- The callbacks of libwebsockets and libdatachannel. -/
inductive Net where
  | established (wsi : Wsi) (uri stack : Bytes)
  | closed (wsi : Wsi)
  | receive (wsi : Wsi) (input : Bytes) (throws : RtcCall → Bool)
  | stateChange (pc : PcId) (state : Webrtc.PcState)
  | localDescription (pc : PcId) (type sdp : Bytes) (io : Signaling.Io)
  | localCandidate (pc : PcId) (cand : Bytes) (io : Signaling.Io)
  | message (pc : PcId) (msg : Webrtc.ChanMsg)

/-- A call or a callback. -/
inductive Input where
  | call (c : Call)
  | net (n : Net)

/-- The SDK, and the connections that are established and not closed. -/
structure World where
  sdk : State
  live : Finset Wsi

/-- Before the first call. -/
def World.boot : World := ⟨.boot, ∅⟩

/-- A call of the public API. -/
def Call.run (ov : Int → Int) (s : State) : Call → State × List Effect
  | .init config env waits => (nearcadeInit config env waits s).2
  | .startStreaming =>
      ({ s with g := (nearcadeStartStreaming s.g).2.1 }, (nearcadeStartStreaming s.g).2.2)
  | .stopStreaming => ({ s with g := (nearcadeStopStreaming s.g).2 }, [])
  | .pollEvents _ => (s, [])
  | .shutdown waits => nearcadeShutdown waits s
  | .sendH264 data _ => (s, (nearcadeSendH264 s data).2)
  | .sendFrame .. => (s, [])
  | .startCapture pid => (nearcadeStartCapture pid s).2
  | .stopCapture waits => (nearcadeStopCapture waits s).2
  | .submitGamepad pkt => (s, (nearcadeSubmitGamepad s pkt).2)
  | .submitKbm vid ev key dx dy => (s, (nearcadeSubmitKbm s vid ev key dx dy).2)
  | .flushSlot slot => (s, (nearcadeFlushSlot s slot).2)
  | .disconnectViewer id => (nearcadeDisconnectViewer s id).2
  | .setViewerInputMode id mode =>
      ({ s with g := (nearcadeSetViewerInputMode s.g id mode).2 }, [])
  | .setControllerType id ctrl => ({ s with g := (nearcadeSetControllerType s.g id ctrl).2 }, [])
  | .setEventCallback cb ud => ({ s with g := (nearcadeSetEventCallback s.g cb ud).2 }, [])
  | .getSignalingUrl _ | .getLanIp _ | .getPin _ => (s, [])
  | .regeneratePin rand => ({ s with g := (nearcadeRegeneratePin rand s.g).2 }, [])
  | .sendOffer _ _ => (s, [])
  | .sendAnswer id sdp io => (s, (nearcadeSendAnswer ov io s id sdp).2)
  | .sendIceCandidate id cand io => (s, (nearcadeSendIceCandidate ov io s id cand).2)

/-- A callback, in the SDK. -/
def Net.run (ov : Int → Int) (s : State) : Net → State × List Effect
  | .established wsi uri stack => (callbackEstablished s wsi uri stack, [])
  | .closed wsi => (callbackClosed s wsi, [])
  | .receive wsi input throws => (s, callbackReceive ov throws s wsi input)
  | .stateChange pc state =>
      let (rtc, call) := Webrtc.onStateChange s.rtc pc state
      ({ s with rtc := rtc },
        match call with
        | some (idx, connected) => webrtcViewerState s idx connected
        | none => [])
  | .localDescription pc type sdp io =>
      (s, webrtcSendViaSignaling ov io s (Webrtc.onLocalDescription s.rtc pc type sdp))
  | .localCandidate pc cand io =>
      (s, webrtcSendViaSignaling ov io s (Webrtc.onLocalCandidate s.rtc pc cand))
  | .message _ msg =>
      (s,
        match Webrtc.onMessage s.rtc msg with
        | some pkt => webrtcReceivedInput s pkt
        | none => [])

/-- The connections after a callback. -/
def Net.live (live : Finset Wsi) : Net → Finset Wsi
  | .established wsi .. => insert wsi live
  | .closed wsi => live.erase wsi
  | _ => live

/-- What the environment promises of a call. -/
def Call.Enabled (s : State) : Call → Prop
  | .init _ env _ => env.kbm.Fresh s.inp
  | .startCapture pid => pid ≠ 0
  | _ => True

/-- What the environment promises of a callback. -/
def Net.Enabled (w : World) : Net → Prop
  | .established wsi .. => wsi ∉ w.live
  | .closed wsi => wsi ∈ w.live
  | .receive wsi .. => wsi ∈ w.live
  | .stateChange pc _ | .localDescription pc .. | .localCandidate pc .. | .message pc _ =>
      pc < w.sdk.rtc.pcs.length

/-- **The SDK in its world.** -/
def system (ov : Int → Int) : Machine World Input Effect where
  enabled w
    | .call c => c.Enabled w.sdk
    | .net n => n.Enabled w
  next w
    | .call c => { w with sdk := (c.run ov w.sdk).1 }
    | .net n => ⟨(n.run ov w.sdk).1, n.live w.live⟩
  out w
    | .call c => (c.run ov w.sdk).2
    | .net n => (n.run ov w.sdk).2

instance (s : State) : ∀ c : Call, Decidable (c.Enabled s)
  | .init _ env _ => inferInstanceAs (Decidable (env.kbm.Fresh s.inp))
  | .startCapture pid => inferInstanceAs (Decidable (pid ≠ 0))
  | .startStreaming | .stopStreaming | .pollEvents _ | .shutdown _ | .sendH264 .. | .sendFrame ..
  | .stopCapture _ | .submitGamepad _ | .submitKbm .. | .flushSlot _
  | .disconnectViewer _ | .setViewerInputMode .. | .setControllerType .. | .setEventCallback ..
  | .getSignalingUrl _ | .getLanIp _ | .getPin _ | .regeneratePin _ | .sendOffer ..
  | .sendAnswer .. | .sendIceCandidate .. => isTrue trivial

instance (w : World) : ∀ n : Net, Decidable (n.Enabled w)
  | .established wsi .. => inferInstanceAs (Decidable (wsi ∉ w.live))
  | .closed wsi | .receive wsi .. => inferInstanceAs (Decidable (wsi ∈ w.live))
  | .stateChange pc _ | .localDescription pc .. | .localCandidate pc .. | .message pc _ =>
      inferInstanceAs (Decidable (pc < w.sdk.rtc.pcs.length))

instance (ov : Int → Int) (w : World) : ∀ i : Input, Decidable ((system ov).enabled w i)
  | .call c => inferInstanceAs (Decidable (c.Enabled w.sdk))
  | .net n => inferInstanceAs (Decidable (n.Enabled w))

/-- The worlds in which a `nearcade_init`, called in a reachable world, has just returned
`NEARCADE_OK`. -/
def Started (ov : Int → Int) (w : World) : Prop :=
  ∃ w₀ config env waits, (system ov).Reachable .boot w₀ ∧ env.kbm.Fresh w₀.sdk.inp ∧
    (nearcadeInit config env waits w₀.sdk).1 = .ok ∧
    w = ⟨(nearcadeInit config env waits w₀.sdk).2.1, w₀.live⟩

/-! ### A world to start from -/

/-- An environment in which nothing fails. -/
def InitEnv.good : InitEnv where
  viewerLock := true
  slotsLock := true
  lanIp := bytes "192.168.1.2"
  rand := 0
  kbm := ⟨3, true, true⟩
  ctx := some 1
  thread := true

/-- The world after a first `nearcade_init`. -/
def World.first : World := ⟨(nearcadeInit none .good ⟨0, 0⟩ .boot).2.1, ∅⟩

theorem started_first (ov : Int → Int) : Started ov .first :=
  ⟨.boot, none, .good, ⟨0, 0⟩, Machine.Reachable.refl _, by decide, rfl, rfl⟩

/-- A viewer connects, on the connection `wsi`. -/
def connect (wsi : Wsi) : Input := .net (.established wsi (bytes "/viewer") [])

/-- A viewer connects, and its PeerConnection reports the states, one after the other. -/
def reporting (states : List Webrtc.PcState) : List Input :=
  connect 7 :: states.map fun state => .net (.stateChange 0 state)

/-- The world in which one viewer has connected. -/
def World.oneViewer : World := (system id).final .first [connect 7]

end Nearcade
