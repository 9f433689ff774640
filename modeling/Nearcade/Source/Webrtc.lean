import Nearcade.Support.Memory
import Nearcade.Source.Internal

/-!
# Source — Webrtc

`src/webrtc.cpp`: the table of sessions, the callbacks `create_session` registers with
libdatachannel, and the handling of a viewer's signaling message.

A PeerConnection is named by its place in the order of creation, and so are the data channel and
the video track created on it.  `pcs` is libdatachannel's side: for each PeerConnection ever
created the index its callbacks captured, and the state it reported last.  It stays there after
its session is erased, since its callbacks may still run.
-/

namespace Nearcade.Webrtc
open Text

/-- `rtc::PeerConnection::State`. -/
inductive PcState where
  | new | connecting | connected | disconnected | failed | closed
  deriving DecidableEq, Repr

/-- A PeerConnection: the `viewer_idx` its callbacks captured, and its last reported state. -/
structure PeerConnection where
  viewerIdx : Int
  state : Option PcState
  deriving DecidableEq

/-- `webrtc_session`. -/
structure WebrtcSession where
  pc : Option PcId
  videoTrack : Option PcId
  inputChan : Option PcId
  viewerIdx : Int
  connected : Bool
  deriving DecidableEq

/-- The constructor `webrtc_session()`. -/
def WebrtcSession.init : WebrtcSession := ⟨none, none, none, -1, false⟩

/-- The statics of `webrtc.cpp`.  The three callbacks are either null or the orchestrator's. -/
structure State where
  gSessions : List WebrtcSession
  gInitialized : Bool
  gSendCb : Bool
  gInputCb : Bool
  gViewerCb : Bool
  pcs : List PeerConnection

/-- The static initialisers. -/
def State.boot : State := ⟨[], false, false, false, false, []⟩

/-- The index the callbacks of a PeerConnection captured. -/
def State.captured (st : State) (pc : PcId) : Option Int := st.pcs[pc]?.map (·.viewerIdx)

theorem State.exists_captured {st : State} {pc : PcId} (h : pc < st.pcs.length) :
    ∃ idx, st.captured pc = some idx :=
  ⟨_, by rw [captured, List.getElem?_eq_getElem h, Option.map_some]⟩

/-- A captured index is of a PeerConnection that exists. -/
theorem lt_of_captured {st : State} {pc : PcId} {idx : Int} (h : st.captured pc = some idx) :
    pc < st.pcs.length := by
  obtain ⟨c, hc, -⟩ := Option.map_eq_some_iff.mp h
  exact (List.getElem?_eq_some_iff.mp hc).1

/-- The state a PeerConnection reported last. -/
def State.reported (st : State) (pc : PcId) : Option PcState := st.pcs[pc]?.bind (·.state)

/-- A message on a data channel: `std::variant<rtc::binary, rtc::string>`. -/
inductive ChanMsg where
  | binary (bin : Bytes)
  | string (str : Bytes)
  deriving DecidableEq

/-! ### Sessions -/

/-- `session_idx_for_viewer`, as the session found. -/
def sessionForViewer (st : State) (viewerIdx : Int) : Option WebrtcSession :=
  st.gSessions.find? fun sess => sess.viewerIdx = viewerIdx

/-- The session `create_session` builds, on the next PeerConnection. -/
def newSession (st : State) (viewerIdx : Int) : WebrtcSession :=
  { WebrtcSession.init with
    viewerIdx := viewerIdx
    pc := some st.pcs.length
    inputChan := some st.pcs.length
    videoTrack := some st.pcs.length }

/-- `create_session` up to the lock: the PeerConnection exists, and its callbacks may run. -/
def buildSession (st : State) (viewerIdx : Int) : State :=
  { st with pcs := st.pcs ++ [⟨viewerIdx, none⟩] }

/-- `create_session` under the lock. -/
def pushSession (st : State) (sess : WebrtcSession) : State :=
  { st with gSessions := st.gSessions ++ [sess] }

/-- `create_session`. -/
def createSession (st : State) (viewerIdx : Int) : State :=
  pushSession (buildSession st viewerIdx) (newSession st viewerIdx)

/-- `webrtc_init`. -/
def webrtcInit (st : State) : NearcadeError × State := (.ok, { st with gInitialized := true })

/-- `webrtc_shutdown`. -/
def webrtcShutdown (st : State) : State := { st with gSessions := [], gInitialized := false }

/-- `webrtc_set_send_callback`, `webrtc_set_input_callback` and `webrtc_set_viewer_callback`,
each with a callback. -/
def setCallbacks (st : State) : State :=
  { st with gSendCb := true, gInputCb := true, gViewerCb := true }

/-- `webrtc_viewer_joined`. -/
def webrtcViewerJoined (st : State) (viewerIdx : Int) : NearcadeError × State :=
  if st.gInitialized then (.ok, createSession st viewerIdx) else (.errInit, st)

/-- `webrtc_viewer_left`: the first session of the index goes. -/
def webrtcViewerLeft (st : State) (viewerIdx : Int) : State :=
  { st with gSessions := st.gSessions.eraseP fun sess => sess.viewerIdx = viewerIdx }

/-! ### The callbacks of `create_session` -/

/-- libdatachannel reports a state, and `onStateChange` calls `g_viewer_cb` with the index and
the flag returned, if any. -/
def onStateChange (st : State) (pc : PcId) (state : PcState) : State × Option (Int × Bool) :=
  ({ st with pcs := st.pcs.modify pc fun p => { p with state := some state } },
    match st.captured pc with
    | none => none
    | some idx =>
        -- `connected` of the session is not touched
        match state with
        | .connected => if st.gViewerCb then some (idx, true) else none
        | .disconnected | .failed | .closed => if st.gViewerCb then some (idx, false) else none
        | .new | .connecting => none)

/-- What the callbacks do with a printed message: `snprintf` into `size` bytes, then
`send_to_viewer` if nothing was cut.  The result is the call of `g_send_cb`. -/
def sendPrinted (st : State) (pc : PcId) (size : Nat) (text : Bytes) : Option (Bytes × Bytes) :=
  match st.captured pc with
  | none => none
  | some idx =>
      -- a message that was cut is dropped
      if 0 < snprintfRet text ∧ snprintfRet text < size ∧ st.gSendCb = true then
        some (viewerId idx, snprintf size text)
      else none

/-- `onLocalDescription`. -/
def onLocalDescription (st : State) (pc : PcId) (type sdp : Bytes) : Option (Bytes × Bytes) :=
  sendPrinted st pc 8192
    (bytes "\x7b\"type\":\"" ++ type ++ bytes "\",\"sdp\":\"" ++ sdp ++ bytes "\"\x7d")

/-- `onLocalCandidate`. -/
def onLocalCandidate (st : State) (pc : PcId) (cand : Bytes) : Option (Bytes × Bytes) :=
  sendPrinted st pc 4096 (bytes "\x7b\"type\":\"ice\",\"candidate\":\"" ++ cand ++ bytes "\"\x7d")

/-- `onMessage` of the data channel: the packet `g_input_cb` is called with, if any. -/
def onMessage (st : State) (msg : ChanMsg) : Option NearcadeGamepadPacket :=
  match msg with
  | .string _ => none
  | .binary bin => if st.gInputCb then NearcadeGamepadPacket.ofBytes bin else none

/-! ### A viewer's signaling message -/

/-- The type `webrtc_handle_signaling` finds. -/
inductive MsgType where
  | answer | offer | ice
  deriving DecidableEq

/-- The search for the type. -/
def messageType (data : Bytes) : Option MsgType :=
  if (strstr data (bytes "\"answer\"")).isSome then some .answer
  else if (strstr data (bytes "\"offer\"")).isSome then some .offer
  else if (strstr data (bytes "\"ice\"")).isSome then some .ice
  else none

/-- The search for a key: what follows it. -/
def valueAfter (key data : Bytes) : Option Bytes := (strstr data key).map (·.drop key.length)

/-- The two unescape loops, which are the same: the text extracted, and what is left where the
loop stops. -/
def unescape : Bytes → Bytes × Bytes
  | [] => ([], [])
  | [c] => if c = 34 then ([], [c]) else ([c], [])
  | c :: d :: p =>
      if c = 34 then ([], c :: d :: p)
      -- `\"` alone is undone
      else if c = 92 ∧ d = 34 then (34 :: (unescape p).1, (unescape p).2)
      else (c :: (unescape (d :: p)).1, (unescape (d :: p)).2)

/-- `"sdp":"`. -/
def sdpKey : Bytes := bytes "\"sdp\":\""

/-- `"candidate":"`. -/
def candidateKey : Bytes := bytes "\"candidate\":\""

/-- The search for the type, on the string's bytes. -/
def messageTypeAt (data : Bytes) : Option (Option MsgType) :=
  (Memory.strstrAt data (bytes "\"answer\"") 0).bind fun answer =>
    if answer.isSome then some (some .answer)
    else
      (Memory.strstrAt data (bytes "\"offer\"") 0).bind fun offer =>
        if offer.isSome then some (some .offer)
        else
          (Memory.strstrAt data (bytes "\"ice\"") 0).map fun ice =>
            if ice.isSome then some .ice else none

/-- The search for a key: the position behind it. -/
def valueAt (key data : Bytes) : Option (Option Nat) :=
  (Memory.strstrAt data key 0).map fun found => found.map (· + key.length)

/-- The unescape loops from a position on, with the text extracted so far: the whole text, and the
position they stop at. -/
def unescapeAt (data : Bytes) (i : Nat) (str : Bytes) : Option (Bytes × Nat) :=
  match h : Memory.readAt data i with
  | none => none
  | some c =>
      if c = 0 ∨ c = 34 then some (str, i)
      else if c = 92 then
        -- the next byte is read behind a backslash only
        (Memory.readAt data (i + 1)).bind fun d =>
          if d = 34 then unescapeAt data (i + 2) (str ++ [34])
          else unescapeAt data (i + 1) (str ++ [c])
      else unescapeAt data (i + 1) (str ++ [c])
termination_by data.length + 1 - i
decreasing_by all_goals
  have := Memory.le_of_readAt h
  omega

/-- The text of a member, where its key was found. -/
def textAt (data : Bytes) : Option Nat → Option (Option Bytes)
  | none => some none
  | some i => (unescapeAt data i []).map fun r => some r.1

/-- All that `webrtc_handle_signaling` reads of a message: its type, and the text of the member
that the type needs. -/
def extractAt (data : Bytes) : Option (Option (MsgType × Option Bytes)) :=
  (messageTypeAt data).bind fun
    | none => some none
    | some type =>
        (valueAt sdpKey data).bind fun sdpVal =>
          (valueAt candidateKey data).bind fun candVal =>
            match type with
            | .answer => (textAt data sdpVal).map fun text => some (.answer, text)
            | .ice => (textAt data candVal).map fun text => some (.ice, text)
            | .offer => some (some (.offer, none))

/-- The calls of libdatachannel in order, up to the first that throws: that one is the last
made, and the result says whether there was one. -/
def callAll (throws : RtcCall → Bool) : List RtcCall → Bool × List Effect
  | [] => (true, [])
  | c :: cs =>
      if throws c then (false, [.rtc c])
      else ((callAll throws cs).1, .rtc c :: (callAll throws cs).2)

/-- The `answer` and `ice` branches: with the member's text, the two calls on the session's
PeerConnection. -/
def applyPayload (throws : RtcCall → Bool) (value : Option Bytes) (calls : Bytes → List RtcCall) :
    NearcadeError × List Effect :=
  match value with
  | none => (.errInvalidArg, [])
  | some v =>
      match callAll throws (calls (unescape v).1) with
      | (true, fx) => (.ok, fx)
      | (false, fx) => (.errNetwork, fx)

theorem applyPayload_effects (throws : RtcCall → Bool) (v : Bytes) (calls : Bytes → List RtcCall) :
    (applyPayload throws (some v) calls).2 = (callAll throws (calls (unescape v).1)).2 := by
  simp only [applyPayload]
  split <;> simp_all

/-- Only calls of the list are made. -/
theorem mem_callAll {throws : RtcCall → Bool} {e : Effect} :
    ∀ {cs : List RtcCall}, e ∈ (callAll throws cs).2 → ∃ c ∈ cs, e = .rtc c
  | [], h => absurd h List.not_mem_nil
  | c :: cs, h => by
      rw [callAll] at h
      split at h
      · exact ⟨c, List.mem_cons_self .., List.mem_singleton.mp h⟩
      · rcases List.mem_cons.mp h with h | h
        · exact ⟨c, List.mem_cons_self .., h⟩
        · obtain ⟨d, hd, he⟩ := mem_callAll h
          exact ⟨d, List.mem_cons_of_mem _ hd, he⟩

/-- `webrtc_handle_signaling`.  It changes no table. -/
def webrtcHandleSignaling (ov : Int → Int) (throws : RtcCall → Bool) (st : State)
    (viewerId data : Option Bytes) : NearcadeError × List Effect :=
  match viewerId, data with
  | some vid, some data =>
      match sscanf ov (bytes "viewer_") vid with
      | none => (.errInvalidArg, [])
      | some viewerIdx =>
          if viewerIdx < 0 then (.errInvalidArg, [])
          else
            match (sessionForViewer st viewerIdx).bind (·.pc) with
            | none => (.errInvalidArg, [])
            | some pc =>
                match messageType data with
                | none => (.errInvalidArg, [])
                | some .answer =>
                    applyPayload throws (valueAfter sdpKey data) fun sdp =>
                      [.description sdp (bytes "answer"),
                       .setRemoteDescription pc sdp (bytes "answer")]
                | some .ice =>
                    applyPayload throws (valueAfter candidateKey data) fun cand =>
                      [.candidate cand, .addRemoteCandidate pc cand]
                | some .offer => (.ok, [])
  | _, _ => (.errInvalidArg, [])

/-- A message that comes with the id of an index. -/
theorem webrtcHandleSignaling_viewerId (ov : Int → Int) (throws : RtcCall → Bool) (st : State)
    (i : Fin maxViewers) (data : Bytes) :
    webrtcHandleSignaling ov throws st (some (viewerId (i.val : Int))) (some data) =
      match (sessionForViewer st (i.val : Int)).bind (·.pc) with
      | none => (.errInvalidArg, [])
      | some pc =>
          match messageType data with
          | none => (.errInvalidArg, [])
          | some .answer =>
              applyPayload throws (valueAfter sdpKey data) fun sdp =>
                [.description sdp (bytes "answer"), .setRemoteDescription pc sdp (bytes "answer")]
          | some .ice =>
              applyPayload throws (valueAfter candidateKey data) fun cand =>
                [.candidate cand, .addRemoteCandidate pc cand]
          | some .offer => (.ok, []) := by
  simp only [webrtcHandleSignaling, viewerId, sscanf_append_decimalInt ov _ (inInt_idx i)]
  rw [if_neg (Int.not_lt.mpr (Int.natCast_nonneg _))]

/-- `webrtc_send_h264`. -/
def webrtcSendH264 (st : State) (data : Option Bytes) : NearcadeError × List Effect :=
  match data with
  | none => (.errInvalidArg, [])
  | some frame =>
      if frame.length = 0 then (.errInvalidArg, [])
      else
        (.ok, st.gSessions.flatMap fun sess =>
          match sess.videoTrack with
          | some track => if sess.connected then [.trackSend track frame] else []
          | none => [])

end Nearcade.Webrtc
