import Nearcade.Support.Locks
import Nearcade.System.Machine

/-!
# Source — Locking

The mutexes of the SDK and where each function takes them: `viewer_lock` and `slots.lock` of
`g_state`, `input_lock` of the input backend, `g_lock` of the WebRTC module and `g_ws_lock` of the
signaling module.  The path of a call or a callback, in the state it finds, is the locks it takes
and gives back, the tables it may read or write between, the `fire_event`s it makes, its calls of
libdatachannel, the `lws_context_destroy`, in which libwebsockets closes connections, and the
mutexes it destroys.

libdatachannel calls back on threads of its own, and may do so on the thread that calls it; it runs a
callback of a PeerConnection once at a time, and deleting the PeerConnection waits until those that
run have returned.  So there is a lock for each of the four callbacks of a PeerConnection, held while
the callback runs, and the deletion takes them one after the other.  No other lock of
libdatachannel, and none of libwebsockets, is held where it calls back.

`nearcade_init` sets up tables and mutexes without a lock, and has no path.  `g_host_ws` is compared
without the lock when a message comes in, before and after the section that reads it.  What is in no
table (`g_wsi`, the flags, the callback pointers, what the getters copy) is read and written without
a lock, and the paths say nothing of it.
-/

namespace Nearcade
open Text Locks

/-- The callbacks `create_session` registers. -/
inductive CallbackKind where
  | onStateChange | onLocalDescription | onLocalCandidate | onMessage
  deriving DecidableEq

/-- The mutexes, and the lock that is held while a callback of a PeerConnection runs. -/
inductive Mutex where
  | viewerLock | slotsLock | inputLock | gLock | gWsLock
  | callback (pc : PcId) (kind : CallbackKind)
  deriving DecidableEq

/-- What the mutexes are for: `g_state.viewers`, `slot_map` and `slot_viewers`, `gp_fds`, `gp_names`
and `kbm_fd`, `g_sessions`, `g_host_ws`, and `g_viewer_ws` and `g_num_viewers`. -/
inductive LockedTable where
  | viewers | slots | devices | sessions | hostWs | viewerWs
  deriving DecidableEq

/-- A table is used, `g_host_ws` is compared without the lock, the application's callback is called,
libdatachannel is called, connections are closed, or a mutex is destroyed. -/
inductive LockPoint where
  | access (t : LockedTable)
  | peekHost
  | fireEvent
  | rtc
  | lwsContextDestroy
  | destroy (m : Mutex)
  deriving DecidableEq

/-- A path of the SDK. -/
abbrev LockPath := List (Locks.Act Mutex LockPoint)

/-- A use of a table. -/
def access (t : LockedTable) : LockPath := [.point (.access t)]

/-- The call of `event_cb` in `fire_event`. -/
def firePath : LockPath := [.point .fireEvent]

/-! ### `src/nearcade_internal.h` and `src/input_linux.c` -/

/-- `slot_claim`. -/
def slotClaimPath (viewerId : Option Bytes) : LockPath :=
  match viewerId with
  | none => []
  | some _ => critical .slotsLock (access .slots)

/-- `slot_release`. -/
def slotReleasePath (slot : Int) : LockPath :=
  match slotOfInt slot with
  | none => []
  | some _ => critical .slotsLock (access .slots)

namespace Input

/-- `input_alloc_slot` and `input_free_slot`, which look at the number first. -/
def slotPath (slot : UInt8) : LockPath :=
  match slotOfByte slot with
  | none => []
  | some _ => critical .inputLock (access .devices)

/-- `input_submit_gamepad` and `input_flush_slot`, which look at the number under the lock. -/
def slotInLockPath (slot : UInt8) : LockPath :=
  critical .inputLock <|
    match slotOfByte slot with
    | none => []
    | some _ => access .devices

/-- `input_submit_kbm` and `input_shutdown`. -/
def devicePath : LockPath := critical .inputLock (access .devices)

end Input

/-! ### `src/webrtc.cpp` -/

namespace Webrtc

/-- A call of libdatachannel, which may call back. -/
def rtcPath : LockPath := [.point .rtc]

/-- The four callbacks of a PeerConnection. -/
def callbackKinds : List CallbackKind :=
  [.onStateChange, .onLocalDescription, .onLocalCandidate, .onMessage]

/-- The destructor of a session: its PeerConnection may call back, and waits for its callbacks. -/
def destroyPath (sess : WebrtcSession) : LockPath :=
  match sess.pc with
  | none => []
  | some pc => rtcPath ++ callbackKinds.flatMap fun kind => critical (.callback pc kind) []

/-- `webrtc_shutdown`. -/
def shutdownPath (st : State) : LockPath :=
  critical .gLock (access .sessions ++ st.gSessions.flatMap destroyPath)

/-- `webrtc_viewer_joined`: `create_session` locks at its end. -/
def viewerJoinedPath (st : State) : LockPath :=
  if st.gInitialized then rtcPath ++ critical .gLock (access .sessions) else []

/-- `webrtc_viewer_left`. -/
def viewerLeftPath (st : State) (viewerIdx : Int) : LockPath :=
  critical .gLock <| access .sessions ++
    match sessionForViewer st viewerIdx with
    | none => []
    | some sess => destroyPath sess

/-- `webrtc_handle_signaling`. -/
def handleSignalingPath (ov : Int → Int) (viewerId : Bytes) : LockPath :=
  match sscanf ov (bytes "viewer_") viewerId with
  | none => []
  | some viewerIdx =>
      if viewerIdx < 0 then [] else critical .gLock (access .sessions ++ rtcPath)

/-- `webrtc_send_h264`. -/
def sendH264Path (data : Option Bytes) : LockPath :=
  match data with
  | none => []
  | some frame =>
      if frame.length = 0 then [] else critical .gLock (access .sessions ++ rtcPath)

end Webrtc

/-! ### `src/signaling.c` -/

namespace Signaling

/-- `signaling_send_to_viewer`. -/
def sendToViewerPath : LockPath := critical .gWsLock (access .viewerWs)

/-- `signaling_send_answer` and `signaling_send_ice`: what goes to no viewer goes to the host. -/
def relayPath (ov : Int → Int) (st : State) (viewerId payload : Option Bytes) : LockPath :=
  match payload with
  | none => []
  | some _ =>
      critical .gWsLock <|
        if viewerId = some (bytes "host") then access .hostWs
        else
          access .viewerWs ++
            match viewerWsById ov st viewerId with
            | some _ => []
            | none => access .hostWs

/-- `signaling_shutdown`. -/
def shutdownPath (st : State) : LockPath :=
  critical .gWsLock (access .hostWs ++ access .viewerWs) ++
    match st.gWsi with
    | none => []
    | some _ => [.point .lwsContextDestroy]

/-- One look of `signaling_thread` at `g_wsi`. -/
def threadPath : LockPath := critical .gWsLock []

/-- The call of `g_viewer_cb`. -/
def viewerCbPath (s : Nearcade.State) (idx : Option (Fin maxViewers)) (joined : Bool) : LockPath :=
  match idx with
  | none => []
  | some i =>
      if s.sig.gViewerCb then
        if joined then Webrtc.viewerJoinedPath s.rtc
        else Webrtc.viewerLeftPath s.rtc (i.val : Int)
      else []

/-- `LWS_CALLBACK_ESTABLISHED`. -/
def establishedPath (s : Nearcade.State) (wsi : Wsi) (uri : Bytes) : LockPath :=
  critical .gWsLock
      (if (strstr uri (bytes "/host")).isSome then access .hostWs else access .viewerWs) ++
    viewerCbPath s (established s.sig wsi uri).2 true

/-- The section in which CLOSED and RECEIVE look for a connection: first at `g_host_ws`. -/
def lookupPath (st : State) (wsi : Wsi) : LockPath :=
  critical .gWsLock
    (access .hostWs ++ if st.gHostWs = some wsi then [] else access .viewerWs)

/-- `LWS_CALLBACK_CLOSED`. -/
def closedPath (s : Nearcade.State) (wsi : Wsi) : LockPath :=
  lookupPath s.sig wsi ++ viewerCbPath s (closed s.sig wsi).2 false

/-- The call of `g_msg_cb`, before which `g_host_ws` is compared again. -/
def msgCbPath (ov : Int → Int) (st : State) (viewerId : Bytes) (host : Bool) : LockPath :=
  if st.gMsgCb then
    .point .peekHost :: if host then [] else Webrtc.handleSignalingPath ov viewerId
  else []

/-- `LWS_CALLBACK_RECEIVE`. -/
def receivePath (ov : Int → Int) (s : Nearcade.State) (wsi : Wsi) : LockPath :=
  -- the first comparison is for the log
  .point .peekHost :: lookupPath s.sig wsi ++
    match senderOf s.sig wsi with
    | .host => msgCbPath ov s.sig (bytes "host") true ++ firePath
    | .viewer i => msgCbPath ov s.sig (viewerId (i.val : Int)) false ++ firePath
    | .unknown => []

end Signaling

/-! ### `src/nearcade.c` -/

/-- `webrtc_send_via_signaling`, for a call of `g_send_cb`. -/
def webrtcSendViaSignalingPath (call : Option (Bytes × Bytes)) : LockPath :=
  match call with
  | none => []
  | some _ => Signaling.sendToViewerPath

/-- `nearcade_shutdown`. -/
def nearcadeShutdownPath (s : State) : LockPath :=
  if s.g.running = false then []
  else
    Webrtc.shutdownPath s.rtc ++ Input.devicePath ++ Signaling.shutdownPath s.sig ++
      [.point (.destroy .viewerLock), .point (.destroy .slotsLock)]

/-- `nearcade_disconnect_viewer`: the device and the slot go under `viewer_lock`. -/
def nearcadeDisconnectViewerPath (s : State) (id : Option Bytes) : LockPath :=
  match id with
  | none => []
  | some id =>
      critical .viewerLock <|
        match findViewer s.g id with
        | none => access .viewers
        | some i =>
            access .viewers ++ Input.slotPath (UInt8.ofInt (s.g.viewers i).slot) ++
              slotReleasePath (s.g.viewers i).slot ++ access .viewers

/-- `nearcade_set_viewer_input_mode` and `nearcade_set_controller_type`. -/
def setViewerPath (id : Option Bytes) : LockPath :=
  match id with
  | none => []
  | some _ => critical .viewerLock (access .viewers)

/-- A call that has a path. -/
def Call.Locked : Call → Prop
  | .init .. => False
  | _ => True

/-- The path of a call, `nearcade_init` apart. -/
def Call.lockPath (ov : Int → Int) (s : State) : Call → LockPath
  | .startStreaming => firePath
  | .shutdown _ => nearcadeShutdownPath s
  | .sendH264 data _ => Webrtc.sendH264Path data
  | .submitGamepad (some pkt) => Input.slotInLockPath pkt.slot
  | .submitKbm (some _) (some _) _ _ _ => Input.devicePath
  | .flushSlot slot => Input.slotInLockPath slot
  | .disconnectViewer id => nearcadeDisconnectViewerPath s id
  | .setViewerInputMode id _ | .setControllerType id _ => setViewerPath id
  | .sendAnswer id sdp _ => Signaling.relayPath ov s.sig id sdp
  | .sendIceCandidate id cand _ => Signaling.relayPath ov s.sig id cand
  | _ => []

/-- The path of a callback; those of libdatachannel run under the callback's lock. -/
def Net.lockPath (ov : Int → Int) (s : State) : Net → LockPath
  | .established wsi uri stack =>
      Signaling.establishedPath s wsi (Signaling.lwsHdrCopy uri stack)
  | .closed wsi => Signaling.closedPath s wsi
  | .receive wsi _ _ => Signaling.receivePath ov s wsi
  | .stateChange pc state =>
      critical (.callback pc .onStateChange) <|
        match (Webrtc.onStateChange s.rtc pc state).2 with
        | some _ => firePath
        | none => []
  | .localDescription pc type sdp _ =>
      critical (.callback pc .onLocalDescription)
        (webrtcSendViaSignalingPath (Webrtc.onLocalDescription s.rtc pc type sdp))
  | .localCandidate pc cand _ =>
      critical (.callback pc .onLocalCandidate)
        (webrtcSendViaSignalingPath (Webrtc.onLocalCandidate s.rtc pc cand))
  | .message pc msg =>
      critical (.callback pc .onMessage) <|
        match Webrtc.onMessage s.rtc msg with
        | some pkt => Input.slotInLockPath pkt.slot ++ firePath
        | none => []

/-! ### The paths of the SDK -/

/-- What the application keeps to: where a lock is held it calls neither `nearcade_send_h264` nor
`nearcade_shutdown`, which take `g_lock`; and where it shuts down (`closes`) it does not use the
viewers at the same time. -/
def Call.MayStart (closes : Bool) (held : List Mutex) : Call → Prop
  | .init .. => False
  | .shutdown _ => closes = true ∧ held = []
  | .sendH264 .. => held = []
  | .disconnectViewer _ | .setViewerInputMode .. | .setControllerType .. => closes = false
  | _ => True

/-- Where callbacks run: those of libwebsockets where no lock is held, those of libdatachannel also
where it is called under `g_lock`. -/
def Net.MayStart (held : List Mutex) : Net → Prop
  | .established .. | .closed _ | .receive .. => held = []
  | .stateChange .. | .localDescription .. | .localCandidate .. | .message .. =>
      ∀ l ∈ held, l = .gLock

/-- **The paths of the SDK**, with the locks that may be held where they start: those of the calls
and the callbacks in any state they may find, of the service thread, and of an orchestrator that
claims slots and makes devices. -/
inductive SdkPath (ov : Int → Int) (closes : Bool) : List Mutex → LockPath → Prop where
  | call {held : List Mutex} {c : Call} (s : State) (h : c.MayStart closes held) :
      SdkPath ov closes held (c.lockPath ov s)
  | net {held : List Mutex} {n : Net} (s : State) (h : n.MayStart held) :
      SdkPath ov closes held (n.lockPath ov s)
  | thread : SdkPath ov closes [] Signaling.threadPath
  | slotClaim {held : List Mutex} (viewerId : Option Bytes) (h : closes = false) :
      SdkPath ov closes held (slotClaimPath viewerId)
  | slotRelease {held : List Mutex} (slot : Int) (h : closes = false) :
      SdkPath ov closes held (slotReleasePath slot)
  | deviceSlot {held : List Mutex} (slot : UInt8) : SdkPath ov closes held (Input.slotPath slot)

/-- The order of the mutexes, what they are for, where code outside runs (the application's
callback, libdatachannel and libwebsockets), and what may be held there: `g_lock`, under which
libdatachannel is called, and the locks of its callbacks. -/
def sdkLocks : Discipline Mutex LockPoint where
  rank
    | .gLock => 0
    | .callback _ _ => 1
    | .viewerLock => 2
    | .slotsLock | .inputLock | .gWsLock => 3
  guards
    | .access .viewers => [.viewerLock]
    | .access .slots => [.slotsLock]
    | .access .devices => [.inputLock]
    | .access .sessions => [.gLock]
    | .access .hostWs | .access .viewerWs => [.gWsLock]
    | .peekHost | .fireEvent | .rtc | .lwsContextDestroy | .destroy _ => []
  Opens
    | .access _ | .peekHost | .destroy _ => False
    | .fireEvent | .rtc | .lwsContextDestroy => True
  Lent
    | .gLock | .callback _ _ => True
    | .viewerLock | .slotsLock | .inputLock | .gWsLock => False

end Nearcade
