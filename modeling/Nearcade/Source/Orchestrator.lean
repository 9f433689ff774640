import Nearcade.Source.InputLinux
import Nearcade.Source.Capture
import Nearcade.Source.Signaling
import Nearcade.Source.Webrtc

/-!
# Source — Orchestrator

`src/nearcade.c`: the public API, and the callbacks that wire the signaling module to the WebRTC
module and the WebRTC module to the input backend.  This is the Linux build with signaling and
WebRTC.

`ov` is what `sscanf`'s `%d` makes of a number outside `int`.
-/

namespace Nearcade
open Text

/-- The statics of all modules. -/
structure State where
  g : NearcadeState
  inp : Input.State
  cap : Capture.State
  sig : Signaling.State
  rtc : Webrtc.State

/-- The program as it starts. -/
def State.boot : State := ⟨.zero, .boot, .zero, .boot, .boot⟩

/-! ### The callbacks between the modules -/

/-- `webrtc_send_via_signaling`, for a call of `g_send_cb`. -/
def webrtcSendViaSignaling (ov : Int → Int) (io : Signaling.Io) (s : State)
    (call : Option (Bytes × Bytes)) : List Effect :=
  match call with
  | none => []
  | some (vid, data) => (Signaling.signalingSendToViewer ov io s.sig vid data).2

/-- `on_signaling_msg`. -/
def onSignalingMsg (ov : Int → Int) (throws : RtcCall → Bool) (s : State) (vid data : Bytes) :
    List Effect :=
  (Webrtc.webrtcHandleSignaling ov throws s.rtc (some vid) (some data)).2

/-- `on_signaling_viewer`. -/
def onSignalingViewer (s : State) (idx : Int) (joined : Bool) : State :=
  if joined then { s with rtc := (Webrtc.webrtcViewerJoined s.rtc idx).2 }
  else { s with rtc := Webrtc.webrtcViewerLeft s.rtc idx }

/-- `webrtc_received_input`. -/
def webrtcReceivedInput (s : State) (pkt : NearcadeGamepadPacket) : List Effect :=
  -- the event is zeroed and gets the packet; nothing says whose it is
  (Input.inputSubmitGamepad s.inp (some pkt)).2 ++ fireEvent s.g (.inputPacket pkt [])

/-- The event `webrtc_viewer_state` fires. -/
def viewerEvent (viewerIdx : Int) (connected : Bool) : NearcadeEvent :=
  if connected then
    .viewerJoined (viewerId viewerIdx) (bytes "WebRTC Viewer " ++ decimalInt viewerIdx)
  else .viewerLeft (viewerId viewerIdx)

/-- `webrtc_viewer_state`. -/
def webrtcViewerState (s : State) (viewerIdx : Int) (connected : Bool) : List Effect :=
  fireEvent s.g (viewerEvent viewerIdx connected)

/-! ### The callbacks of libwebsockets -/

/-- The call of `g_viewer_cb` after a critical section that left `idx`. -/
def callViewerCb (s : State) (idx : Option (Fin maxViewers)) (joined : Bool) : State :=
  match idx with
  | some i => if s.sig.gViewerCb then onSignalingViewer s (i.val : Int) joined else s
  | none => s

/-- It touches the WebRTC module. -/
theorem callViewerCb_eq (s : State) (idx : Option (Fin maxViewers)) (joined : Bool) : ∃ rtc,
    callViewerCb s idx joined = { s with rtc := rtc } := by
  cases idx with
  | none => exact ⟨s.rtc, rfl⟩
  | some i =>
      simp only [callViewerCb, onSignalingViewer]
      split
      · split
        · exact ⟨_, rfl⟩
        · exact ⟨_, rfl⟩
      · exact ⟨s.rtc, rfl⟩

/-- `LWS_CALLBACK_ESTABLISHED`. -/
def callbackEstablished (s : State) (wsi : Wsi) (uri stack : Bytes) : State :=
  let (sig, idx) := Signaling.established s.sig wsi (Signaling.lwsHdrCopy uri stack)
  callViewerCb { s with sig := sig } idx true

/-- `LWS_CALLBACK_CLOSED`. -/
def callbackClosed (s : State) (wsi : Wsi) : State :=
  let (sig, idx) := Signaling.closed s.sig wsi
  callViewerCb { s with sig := sig } idx false

/-- `LWS_CALLBACK_RECEIVE` after its critical section found a viewer. -/
def handleViewerMessage (ov : Int → Int) (throws : RtcCall → Bool) (s : State)
    (i : Fin maxViewers) (rx : Bytes) : List Effect :=
  (if s.sig.gMsgCb then onSignalingMsg ov throws s (viewerId (i.val : Int)) rx else []) ++
    fireEvent s.g (Signaling.signalingEvent (viewerId (i.val : Int)) rx)

/-- `LWS_CALLBACK_RECEIVE`. -/
def callbackReceive (ov : Int → Int) (throws : RtcCall → Bool) (s : State) (wsi : Wsi)
    (input : Bytes) : List Effect :=
  match Signaling.senderOf s.sig wsi with
  | .host => fireEvent s.g (Signaling.signalingEvent (bytes "host") (Signaling.rxBuf input))
  | .viewer i => handleViewerMessage ov throws s i (Signaling.rxBuf input)
  | .unknown => []

/-! ### Lifecycle -/

/-- One `struct ifaddrs`: the four bytes of its address, where it has one of `AF_INET`, and whether
`IFF_LOOPBACK` is set. -/
structure Ifaddrs where
  sinAddr : Option (UInt8 × UInt8 × UInt8 × UInt8)
  loopback : Bool

/-- `inet_ntop(AF_INET, …, buf, len)`: the text, where it fits. -/
def inetNtop (addr : UInt8 × UInt8 × UInt8 × UInt8) (len : Nat) : Bytes :=
  let (a, b, c, d) := addr
  let text := decimal a.toNat ++ bytes "." ++ decimal b.toNat ++ bytes "." ++ decimal c.toNat ++
    bytes "." ++ decimal d.toNat
  if text.length < len then text else []

/-- The first address the loop of `get_lan_ip` takes. -/
def lanAddr (ifaddr : List Ifaddrs) : Option (UInt8 × UInt8 × UInt8 × UInt8) :=
  (ifaddr.filter fun ifa => !ifa.loopback).findSome? (·.sinAddr)

/-- `get_lan_ip`, into a buffer of `len` zeros: the string then in it.  `getifaddrs` gives a list of
interfaces, or fails. -/
def getLanIp (getifaddrs : Option (List Ifaddrs)) (len : Nat) : Bytes :=
  match getifaddrs.bind lanAddr with
  | some addr => inetNtop addr len
  | none => (bytes "127.0.0.1").take (len - 1)

/-- What `nearcade_init` meets: whether the two mutexes can be made, the address and the random
number it reads, the system calls of `input_init`, what `lws_create_context` returns and whether
the service thread can be started. -/
structure InitEnv where
  viewerLock : Bool
  slotsLock : Bool
  lanIp : Bytes
  rand : Nat
  kbm : Input.Uinput
  ctx : Option Nat
  thread : Bool

/-- `generate_pin`. -/
def generatePin (rand : Nat) : Bytes := decimal (1000 + rand % 9000)

/-- The configuration `nearcade_init` stores: the caller's or the default, with a port and a
screen size that are positive. -/
def normaliseConfig (config : Option NearcadeConfig) : NearcadeConfig :=
  let c := config.getD .default
  { c with
    port := if c.port ≤ 0 then 3000 else c.port
    screenWidth := if c.screenWidth ≤ 0 then 1920 else c.screenWidth
    screenHeight := if c.screenHeight ≤ 0 then 1080 else c.screenHeight }

/-- `nearcade_init` after the two mutexes: the modules come up one by one, and those that are up
go down again when one fails. -/
def initModules (e : InitEnv) (w : Capture.Waits) (s : State) :
    NearcadeError × State × List Effect :=
  let (rc, inp, fx₁) := Input.inputInit e.kbm s.inp
  if rc ≠ .ok then (.errInit, { s with inp := inp }, fx₁)
  else
    -- the callbacks are set before the service thread starts
    let s₁ := { s with
      inp := inp
      cap := Capture.captureInit.2
      rtc := Webrtc.setCallbacks (Webrtc.webrtcInit s.rtc).2
      sig := Signaling.setInternalCallbacks s.sig }
    let (rc, sig, fx₂) := Signaling.signalingInit s.g.config.port e.ctx e.thread s₁.sig
    if rc ≠ .ok then
      let (cap, fx₃) := Capture.captureShutdown w s₁.cap
      let (inp, fx₄) := Input.inputShutdown s₁.inp
      (.errInit,
        { s₁ with sig := sig, rtc := Webrtc.webrtcShutdown s₁.rtc, cap := cap, inp := inp },
        fx₁ ++ fx₂ ++ fx₃ ++ fx₄)
    else (.ok, { s₁ with sig := sig, g := { s₁.g with running := true } }, fx₁ ++ fx₂)

/-- `nearcade_init`.  `capture_init` and `webrtc_init` cannot fail. -/
def nearcadeInit (config : Option NearcadeConfig) (e : InitEnv) (w : Capture.Waits) (s : State) :
    NearcadeError × State × List Effect :=
  let g := { NearcadeState.zero with config := normaliseConfig config }
  if e.viewerLock = false ∨ e.slotsLock = false then (.errInit, { s with g := g }, [])
  else initModules e w { s with g := { g with lanIp := e.lanIp, pin := generatePin e.rand } }

/-- `g_state` when `nearcade_init` comes to the modules. -/
def initState (config : Option NearcadeConfig) (e : InitEnv) : NearcadeState :=
  { NearcadeState.zero with
    config := normaliseConfig config, lanIp := e.lanIp, pin := generatePin e.rand }

/-- The WebRTC module after `webrtc_init` and the three `webrtc_set_…_callback`. -/
def webrtcUp (st : Webrtc.State) : Webrtc.State :=
  Webrtc.setCallbacks (Webrtc.webrtcInit st).2

/-- The `signaling_init` of `nearcade_init`. -/
def initSignaling (config : Option NearcadeConfig) (e : InitEnv) (s : State) :
    NearcadeError × Signaling.State × List Effect :=
  Signaling.signalingInit (normaliseConfig config).port e.ctx e.thread
    (Signaling.setInternalCallbacks s.sig)

/-- What `nearcade_init` has made of the statics when `signaling_init` returns. -/
def broughtUp (config : Option NearcadeConfig) (e : InitEnv) (s : State) : State where
  g := initState config e
  inp := (Input.inputInit e.kbm s.inp).2.1
  cap := .zero
  sig := (initSignaling config e s).2.1
  rtc := webrtcUp s.rtc

theorem InitEnv.locks (e : InitEnv) :
    (e.viewerLock = false ∨ e.slotsLock = false) ∨ e.viewerLock = true ∧ e.slotsLock = true := by
  cases e.viewerLock <;> cases e.slotsLock <;> simp

/-- **What `nearcade_init` can do.**  It fails before the modules, at `input_init` or at
`signaling_init`, or it succeeds. -/
theorem nearcadeInit_cases (config : Option NearcadeConfig) (e : InitEnv) (w : Capture.Waits)
    (s : State) :
    (e.viewerLock = false ∨ e.slotsLock = false) ∧ nearcadeInit config e w s =
        (.errInit, { s with
          g := { NearcadeState.zero with config := normaliseConfig config } }, []) ∨
    (e.viewerLock = true ∧ e.slotsLock = true) ∧ (Input.inputInit e.kbm s.inp).1 ≠ .ok ∧
      nearcadeInit config e w s =
        (.errInit, { s with
          g := initState config e
          inp := (Input.inputInit e.kbm s.inp).2.1 }, (Input.inputInit e.kbm s.inp).2.2) ∨
    (e.viewerLock = true ∧ e.slotsLock = true) ∧ (Input.inputInit e.kbm s.inp).1 = .ok ∧
      (initSignaling config e s).1 ≠ .ok ∧ nearcadeInit config e w s =
        (.errInit, { broughtUp config e s with
          inp := (Input.inputShutdown (Input.inputInit e.kbm s.inp).2.1).1
          rtc := Webrtc.webrtcShutdown (webrtcUp s.rtc) },
          (Input.inputInit e.kbm s.inp).2.2 ++ (initSignaling config e s).2.2 ++
            (Input.inputShutdown (Input.inputInit e.kbm s.inp).2.1).2) ∨
    (e.viewerLock = true ∧ e.slotsLock = true) ∧ (Input.inputInit e.kbm s.inp).1 = .ok ∧
      (initSignaling config e s).1 = .ok ∧ nearcadeInit config e w s =
        (.ok, { broughtUp config e s with g := { initState config e with running := true } },
          (Input.inputInit e.kbm s.inp).2.2 ++ (initSignaling config e s).2.2) := by
  rcases e.locks with hl | hl
  · exact .inl ⟨hl, if_pos hl⟩
  · have hn : nearcadeInit config e w s = initModules e w { s with g := initState config e } :=
      if_neg (by simp [hl])
    rw [hn]
    refine .inr ?_
    by_cases hi : (Input.inputInit e.kbm s.inp).1 = .ok
    · by_cases hs : (initSignaling config e s).1 = .ok
      · have hr : initModules e w { s with g := initState config e } = _ :=
          (if_neg (not_not.mpr hi)).trans (if_neg (not_not.mpr hs))
        exact .inr (.inr ⟨hl, hi, hs, hr⟩)
      · have hr : initModules e w { s with g := initState config e } = _ :=
          (if_neg (not_not.mpr hi)).trans (if_pos hs)
        refine .inr (.inl ⟨hl, hi, hs, hr.trans ?_⟩)
        -- the child of an earlier run is forgotten, so none is stopped
        rw [Capture.captureInit, Capture.captureShutdown_zero]
        simp only [List.append_nil]
        rfl
    · exact .inl ⟨hl, hi, if_pos hi⟩

/-- `nearcade_start_streaming`. -/
def nearcadeStartStreaming (g : NearcadeState) : NearcadeError × NearcadeState × List Effect :=
  -- `ev.data.streaming.viewer_count = 0`
  (.ok, { g with streaming := true }, fireEvent { g with streaming := true } (.streaming 0))

/-- `nearcade_stop_streaming`. -/
def nearcadeStopStreaming (g : NearcadeState) : NearcadeError × NearcadeState :=
  (.ok, { g with streaming := false })

/-- `nearcade_send_h264`. -/
def nearcadeSendH264 (s : State) (data : Option Bytes) : NearcadeError × List Effect :=
  Webrtc.webrtcSendH264 s.rtc data

/-- `nearcade_start_capture`. -/
def nearcadeStartCapture (pid : Int) (s : State) : NearcadeError × State × List Effect :=
  if s.g.capturing then (.ok, s, [])
  else
    let (ret, cap, fx) := Capture.captureStart pid s.cap
    if ret = .ok then (ret, { s with cap := cap, g := { s.g with capturing := true } }, fx)
    else (ret, { s with cap := cap }, fx)

/-- `nearcade_stop_capture`. -/
def nearcadeStopCapture (w : Capture.Waits) (s : State) : NearcadeError × State × List Effect :=
  if s.g.capturing = false then (.ok, s, [])
  else
    let (cap, fx) := Capture.captureStop w s.cap
    (.ok, { s with cap := cap, g := { s.g with capturing := false } }, fx)

/-- `nearcade_start_capture` touches the capture module and its flag. -/
theorem startCapture_eq (pid : Int) (s : State) : ∃ cap capturing,
    (nearcadeStartCapture pid s).2.1 =
      { s with cap := cap, g := { s.g with capturing := capturing } } := by
  simp only [nearcadeStartCapture]
  split
  · exact ⟨s.cap, s.g.capturing, rfl⟩
  · split
    · exact ⟨_, true, rfl⟩
    · exact ⟨_, s.g.capturing, rfl⟩

/-- So does `nearcade_stop_capture`. -/
theorem stopCapture_eq (w : Capture.Waits) (s : State) : ∃ cap capturing,
    (nearcadeStopCapture w s).2.1 =
      { s with cap := cap, g := { s.g with capturing := capturing } } := by
  simp only [nearcadeStopCapture]
  split
  · exact ⟨s.cap, s.g.capturing, rfl⟩
  · exact ⟨_, false, rfl⟩

/-- `nearcade_shutdown`. -/
def nearcadeShutdown (w : Capture.Waits) (s : State) : State × List Effect :=
  if s.g.running = false then (s, [])
  else
    let (cap, fx₁) := Capture.captureShutdown w s.cap
    let (inp, fx₂) := Input.inputShutdown s.inp
    let (sig, fx₃) := Signaling.signalingShutdown s.sig
    ({ g := { s.g with running := false, capturing := false, streaming := false }
       rtc := Webrtc.webrtcShutdown s.rtc
       cap := cap
       inp := inp
       sig := sig }, fx₁ ++ fx₂ ++ fx₃)

/-! ### Input -/

/-- `nearcade_submit_gamepad`. -/
def nearcadeSubmitGamepad (s : State) (pkt : Option NearcadeGamepadPacket) :
    NearcadeError × List Effect :=
  match pkt with
  | none => (.errInvalidArg, [])
  | some pkt => Input.inputSubmitGamepad s.inp (some pkt)

/-- `nearcade_submit_kbm`. -/
def nearcadeSubmitKbm (s : State) (viewerId eventType key : Option Bytes) (dx dy : Int) :
    NearcadeError × List Effect :=
  match viewerId, eventType with
  | some vid, some ev => Input.inputSubmitKbm s.inp vid ev key dx dy
  | _, _ => (.errInvalidArg, [])

/-- `nearcade_flush_slot`. -/
def nearcadeFlushSlot (s : State) (slot : UInt8) : NearcadeError × List Effect :=
  Input.inputFlushSlot s.inp slot

/-! ### Viewers -/

/-- The first active entry with an id, as the loops over `viewers` find it. -/
def findViewer (g : NearcadeState) (id : Bytes) : Option (Fin maxViewers) :=
  firstIdx fun i => (g.viewers i).active && decide (cstr (g.viewers i).id = id)

/-- `nearcade_disconnect_viewer`. -/
def nearcadeDisconnectViewer (s : State) (id : Option Bytes) :
    NearcadeError × State × List Effect :=
  match id with
  | none => (.errInvalidArg, s, [])
  | some id =>
      match findViewer s.g id with
      | none => (.ok, s, [])
      | some i =>
          let slot := (s.g.viewers i).slot
          -- `(uint8_t)slot`
          let (_, inp, fx) := Input.inputFreeSlot (UInt8.ofInt slot) s.inp
          (.ok,
            { s with
              inp := inp
              g := { s.g with
                slots := slotRelease s.g.slots slot
                viewers := Function.update s.g.viewers i { s.g.viewers i with active := false }
                numViewers := s.g.numViewers - 1 } }, fx)

/-- `nearcade_disconnect_viewer` changes nothing, or `g_state` and the device of one slot. -/
theorem disconnectViewer_cases (s : State) (id : Option Bytes) :
    (nearcadeDisconnectViewer s id).2.1 = s ∨ ∃ slot g,
      (nearcadeDisconnectViewer s id).2.1 =
        { s with g := g, inp := (Input.inputFreeSlot slot s.inp).2.1 } := by
  cases id with
  | none => exact .inl rfl
  | some id =>
      simp only [nearcadeDisconnectViewer]
      split
      · exact .inl rfl
      · exact .inr ⟨_, _, rfl⟩

/-- The loop of `nearcade_set_viewer_input_mode` and `nearcade_set_controller_type`, which store
in the entry by `f`. -/
def setViewer (g : NearcadeState) (id : Option Bytes) (f : ViewerInfo → ViewerInfo) :
    NearcadeError × NearcadeState :=
  match id with
  | none => (.errInvalidArg, g)
  | some id =>
      match findViewer g id with
      | none => (.errInvalidArg, g)
      | some i => (.ok, { g with viewers := Function.update g.viewers i (f (g.viewers i)) })

/-- It touches the table of viewers. -/
theorem setViewer_eq (g : NearcadeState) (id : Option Bytes) (f : ViewerInfo → ViewerInfo) :
    ∃ viewers, (setViewer g id f).2 = { g with viewers := viewers } := by
  cases id with
  | none => exact ⟨g.viewers, rfl⟩
  | some id =>
      simp only [setViewer]
      split
      · exact ⟨g.viewers, rfl⟩
      · exact ⟨_, rfl⟩

/-- `nearcade_set_viewer_input_mode`. -/
def nearcadeSetViewerInputMode (g : NearcadeState) (id : Option Bytes) (mode : NearcadeInputMode) :
    NearcadeError × NearcadeState :=
  setViewer g id fun v => { v with mode := mode }

/-- `nearcade_set_controller_type`. -/
def nearcadeSetControllerType (g : NearcadeState) (id : Option Bytes) (ctrl : NearcadeCtrlType) :
    NearcadeError × NearcadeState :=
  setViewer g id fun v => { v with ctrlType := ctrl }

/-! ### Queries and the rest -/

/-- `nearcade_set_event_callback`. -/
def nearcadeSetEventCallback (g : NearcadeState) (cb : Option Nat) (userdata : Nat) :
    NearcadeError × NearcadeState :=
  (.ok, { g with eventCb := cb, eventCbUserdata := userdata })

/-- `nearcade_get_signaling_url`: the buffer afterwards. -/
def nearcadeGetSignalingUrl (s : State) (buf : Option Bytes) : NearcadeError × Bytes :=
  match buf with
  | none => (.errInvalidArg, [])
  | some buf =>
      if buf.length = 0 then (.errInvalidArg, buf)
      else
        let text := Signaling.signalingGetUrl s.g.lanIp s.sig buf.length
        (.ok, text ++ 0 :: buf.drop (text.length + 1))

/-- The body of `nearcade_get_lan_ip` and `nearcade_get_pin`: the buffer after
`strncpy(buf, value, buf_size - 1)`. -/
def copyOut (value : Bytes) (buf : Option Bytes) : NearcadeError × Bytes :=
  match buf with
  | none => (.errInvalidArg, [])
  | some buf =>
      if buf.length = 0 then (.errInvalidArg, buf)
      else (.ok, strncpy buf value (buf.length - 1))

/-- `nearcade_get_lan_ip`. -/
def nearcadeGetLanIp (g : NearcadeState) (buf : Option Bytes) : NearcadeError × Bytes :=
  copyOut g.lanIp buf

/-- `nearcade_get_pin`. -/
def nearcadeGetPin (g : NearcadeState) (buf : Option Bytes) : NearcadeError × Bytes :=
  copyOut g.pin buf

/-- `nearcade_regenerate_pin`. -/
def nearcadeRegeneratePin (rand : Nat) (g : NearcadeState) : NearcadeError × NearcadeState :=
  (.ok, { g with pin := generatePin rand })

/-- `nearcade_send_answer`. -/
def nearcadeSendAnswer (ov : Int → Int) (io : Signaling.Io) (s : State) (id sdp : Option Bytes) :
    Int × List Effect :=
  Signaling.signalingSendAnswer ov io s.sig id sdp

/-- `nearcade_send_ice_candidate`. -/
def nearcadeSendIceCandidate (ov : Int → Int) (io : Signaling.Io) (s : State)
    (id candidate : Option Bytes) : Int × List Effect :=
  Signaling.signalingSendIce ov io s.sig id candidate

end Nearcade
