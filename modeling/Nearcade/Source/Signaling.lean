import Nearcade.Support.Memory
import Nearcade.Source.Internal

/-!
# Source — Signaling

`src/signaling.c`: the table of WebSocket connections, and the messages sent over them.  The
functions here are the critical sections under `g_ws_lock`; the callbacks a WebSocket event
makes into the other modules after the section are in `Source/Orchestrator.lean`.
-/

namespace Nearcade.Signaling
open Text

/-- The statics of `signaling.c`.  `gMsgCb` and `gViewerCb` say whether the routing callbacks
are set: each can only be the orchestrator's one. -/
structure State where
  gWsi : Option Nat
  gHostWs : Option Wsi
  gViewerWs : Fin maxViewers → Option Wsi
  gNumViewers : Int
  gPort : Int
  gMsgCb : Bool
  gViewerCb : Bool

/-- The static initialisers. -/
def State.boot : State := ⟨none, none, fun _ => none, 0, 3000, false, false⟩

/-! ### Text -/

/-- What `json_escape` emits for a byte. -/
def escapeByte (c : UInt8) : Bytes :=
  if c = 34 then bytes "\\\""
  else if c = 92 then bytes "\\\\"
  else if c = 10 then bytes "\\n"
  else if c = 13 then bytes "\\r"
  else if c = 9 then bytes "\\t"
  else [c]

/-- The loop of `json_escape`, with `out[0..j)` written so far.  A two-byte escape that does not
fit is left out, and the loop goes on. -/
def jsonEscapeLoop (outSize : Nat) : Bytes → Bytes → Bytes
  | [], out => out
  | c :: rest, out =>
      if out.length < outSize - 1 then
        -- `if (j + 2 < out_size)` guards the two bytes of an escape
        if (escapeByte c).length = 1 ∨ out.length + 2 < outSize then
          jsonEscapeLoop outSize rest (out ++ escapeByte c)
        else jsonEscapeLoop outSize rest out
      else out

/-- `json_escape`: the string it leaves in a buffer of `outSize` bytes. -/
def jsonEscape (s : Bytes) (outSize : Nat) : Bytes := jsonEscapeLoop outSize s []

/-- The same loop on the two buffers, `in[i]` and `out[j]`. -/
def jsonEscapeLoopAt (s : Bytes) (outSize i j : Nat) (out : Bytes) : Option Bytes :=
  match h : Memory.readAt s i with
  | none => none
  | some c =>
      if c ≠ 0 ∧ j < outSize - 1 then
        if (escapeByte c).length = 1 ∨ j + 2 < outSize then
          (Memory.writeBytes out j (escapeByte c)).bind fun out =>
            jsonEscapeLoopAt s outSize (i + 1) (j + (escapeByte c).length) out
        else jsonEscapeLoopAt s outSize (i + 1) j out
      else Memory.writeAt out j 0
termination_by s.length + 1 - i
decreasing_by all_goals
  have := Memory.le_of_readAt h
  omega

/-- `json_escape` on the buffers: what `out` holds afterwards, if every access was inside. -/
def jsonEscapeAt (s : Bytes) (outSize : Nat) (out : Bytes) : Option Bytes :=
  jsonEscapeLoopAt s outSize 0 0 out

/-- `viewer_ws_by_id`. -/
def viewerWsById (ov : Int → Int) (st : State) (viewerId : Option Bytes) : Option Wsi :=
  match viewerId with
  | none => none
  | some id =>
      match sscanf ov (bytes "viewer_") id with
      | none => none
      | some idx =>
          if h : 0 ≤ idx ∧ idx < maxViewers then st.gViewerWs ⟨idx.toNat, by omega⟩ else none

/-- The id of an index finds its entry. -/
theorem viewerWsById_viewerId (ov : Int → Int) (st : State) (i : Fin maxViewers) :
    viewerWsById ov st (some (viewerId (i.val : Int))) = st.gViewerWs i := by
  have h : (0 : Int) ≤ (i.val : Int) ∧ (i.val : Int) < maxViewers :=
    ⟨Int.natCast_nonneg _, Int.ofNat_lt.mpr i.isLt⟩
  simp only [viewerWsById, viewerId, sscanf_append_decimalInt ov _ (inInt_idx i), dif_pos h,
    Int.toNat_natCast]

/-! ### Connections -/

/-- `lws_hdr_copy(wsi, uri, sizeof(uri), WSI_TOKEN_GET_URI)`: the string then in the buffer,
whose earlier contents are `stack`. -/
def lwsHdrCopy (uri stack : Bytes) : Bytes := if uri.length < 256 then uri else cstr stack

/-- The loop that stores a viewer in the first free entry. -/
def storeViewer (st : State) (wsi : Wsi) : State × Option (Fin maxViewers) :=
  match firstIdx fun i => (st.gViewerWs i).isNone with
  | some i =>
      ({ st with gViewerWs := Function.update st.gViewerWs i (some wsi)
                 gNumViewers := st.gNumViewers + 1 }, some i)
  | none => (st, none)

/-- The critical section of `LWS_CALLBACK_ESTABLISHED`, with the index it leaves in
`viewer_idx`. -/
def established (st : State) (wsi : Wsi) (uri : Bytes) : State × Option (Fin maxViewers) :=
  if (strstr uri (bytes "/host")).isSome then ({ st with gHostWs := some wsi }, none)
  else if (strstr uri (bytes "/viewer")).isSome then storeViewer st wsi
  -- any other path is taken for a viewer's
  else storeViewer st wsi

theorem storeViewer_tables (st : State) (wsi : Wsi) : ∃ ws n,
    (storeViewer st wsi).1 = { st with gViewerWs := ws, gNumViewers := n } := by
  rw [storeViewer]
  split
  · exact ⟨_, _, rfl⟩
  · exact ⟨st.gViewerWs, st.gNumViewers, rfl⟩

/-- ESTABLISHED touches the tables of connections. -/
theorem established_tables (st : State) (wsi : Wsi) (uri : Bytes) : ∃ host ws n,
    (established st wsi uri).1 =
      { st with gHostWs := host, gViewerWs := ws, gNumViewers := n } := by
  obtain ⟨ws, n, hs⟩ := storeViewer_tables st wsi
  rw [established]
  split
  · exact ⟨some wsi, st.gViewerWs, st.gNumViewers, rfl⟩
  · split <;> exact ⟨st.gHostWs, ws, n, hs⟩

/-- The entry that holds a connection, if any. -/
def entryOf (st : State) (wsi : Wsi) : Option (Fin maxViewers) :=
  firstIdx fun i => decide (st.gViewerWs i = some wsi)

/-- The critical section of `LWS_CALLBACK_CLOSED`, with the index it leaves in `closed_idx`. -/
def closed (st : State) (wsi : Wsi) : State × Option (Fin maxViewers) :=
  if st.gHostWs = some wsi then ({ st with gHostWs := none }, none)
  else
    match entryOf st wsi with
    | some i =>
        ({ st with gViewerWs := Function.update st.gViewerWs i none
                   gNumViewers := st.gNumViewers - 1 }, some i)
    | none => (st, none)

/-- So does CLOSED. -/
theorem closed_tables (st : State) (wsi : Wsi) : ∃ host ws n,
    (closed st wsi).1 = { st with gHostWs := host, gViewerWs := ws, gNumViewers := n } := by
  rw [closed]
  split
  · exact ⟨none, st.gViewerWs, st.gNumViewers, rfl⟩
  · split
    · exact ⟨st.gHostWs, _, _, rfl⟩
    · exact ⟨st.gHostWs, st.gViewerWs, st.gNumViewers, rfl⟩

/-- Whose message it is, by the critical section of `LWS_CALLBACK_RECEIVE`. -/
inductive Sender where
  | host
  | viewer (idx : Fin maxViewers)
  | unknown
  deriving DecidableEq

/-- The critical section of `LWS_CALLBACK_RECEIVE`. -/
def senderOf (st : State) (wsi : Wsi) : Sender :=
  if st.gHostWs = some wsi then .host
  else
    match entryOf st wsi with
    | some i => .viewer i
    | none => .unknown

/-- The string in `rx_buf`. -/
def rxBuf (input : Bytes) : Bytes := cstr (input.take 4095)

/-- The event `LWS_CALLBACK_RECEIVE` fires. -/
def signalingEvent (viewerId rx : Bytes) : NearcadeEvent := .signaling viewerId (rx.take 2047)

/-- `signaling_set_internal_callbacks`, with both callbacks. -/
def setInternalCallbacks (st : State) : State := { st with gMsgCb := true, gViewerCb := true }

/-- `signaling_init`: `ctx` is what `lws_create_context` returns, `thread` whether
`pthread_create` succeeds. -/
def signalingInit (port : Int) (ctx : Option Nat) (thread : Bool) (st : State) :
    NearcadeError × State × List Effect :=
  match ctx with
  | none => (.errNetwork, { st with gPort := port, gWsi := none }, [])
  | some c =>
      if thread then (.ok, { st with gPort := port, gWsi := some c }, [.lwsCreateContext c])
      else
        (.errInit, { st with gPort := port, gWsi := none },
          [.lwsCreateContext c, .lwsContextDestroy c])

/-- `signaling_init` touches `g_port` and `g_wsi`. -/
theorem signalingInit_eq (port : Int) (ctx : Option Nat) (thread : Bool) (st : State) : ∃ wsi,
    (signalingInit port ctx thread st).2.1 = { st with gPort := port, gWsi := wsi } := by
  cases ctx with
  | none => exact ⟨none, rfl⟩
  | some c =>
      cases thread with
      | true => exact ⟨some c, rfl⟩
      | false => exact ⟨none, rfl⟩

/-- The critical section of `signaling_shutdown`. -/
def clearTables (st : State) : State :=
  { st with gWsi := none, gHostWs := none, gViewerWs := fun _ => none, gNumViewers := 0 }

/-- `signaling_shutdown`. -/
def signalingShutdown (st : State) : State × List Effect :=
  (clearTables st, (st.gWsi.map Effect.lwsContextDestroy).toList)

/-! ### Sending -/

/-- What one `send_to_lws` meets: whether `malloc` succeeds, and what `lws_write` returns. -/
structure Io where
  malloc : Bool
  wrote : Int
  deriving DecidableEq

/-- `send_to_lws`. -/
def sendToLws (io : Io) (wsi : Option Wsi) (data : Bytes) : Int × List Effect :=
  match wsi with
  | none => (-1, [])
  | some w =>
      if data.length = 0 then (-1, [])
      else if io.malloc = false then (-1, [])
      else (if io.wrote < 0 then -1 else 0, [.lwsWrite w data])

/-- `signaling_send_to_viewer`. -/
def signalingSendToViewer (ov : Int → Int) (io : Io) (st : State) (viewerId : Bytes)
    (data : Bytes) : Int × List Effect :=
  match viewerWsById ov st (some viewerId) with
  | some w => sendToLws io (some w) data
  | none => (-1, [])

/-- The message of `signaling_send_offer`, `signaling_send_answer` and `signaling_send_ice`:
the payload escaped into 4096 bytes, then printed into 4096 bytes. -/
def relayMessage (before payload : Bytes) : Bytes :=
  snprintf 4096 (before ++ jsonEscape payload 4096 ++ bytes "\"\x7d")

/-- `signaling_send_offer`. -/
def signalingSendOffer (io : Io) (st : State) (sdp : Option Bytes) : Int × List Effect :=
  match sdp with
  | none => (-1, [])
  | some sdp =>
      sendToLws io st.gHostWs (relayMessage (bytes "\x7b\"type\":\"offer\",\"sdp\":\"") sdp)

/-- The receiver of `signaling_send_answer` and `signaling_send_ice`: the host for the id
`"host"` and for a viewer that is not connected. -/
def relayTarget (ov : Int → Int) (st : State) (viewerId : Option Bytes) : Option Wsi :=
  if viewerId = some (bytes "host") then st.gHostWs
  else
    match viewerWsById ov st viewerId with
    | some w => some w
    | none => st.gHostWs

/-- `signaling_send_answer`. -/
def signalingSendAnswer (ov : Int → Int) (io : Io) (st : State) (viewerId sdp : Option Bytes) :
    Int × List Effect :=
  match sdp with
  | none => (-1, [])
  | some sdp =>
      sendToLws io (relayTarget ov st viewerId)
        (relayMessage (bytes "\x7b\"type\":\"answer\",\"sdp\":\"") sdp)

/-- `signaling_send_ice`. -/
def signalingSendIce (ov : Int → Int) (io : Io) (st : State) (viewerId candidate : Option Bytes) :
    Int × List Effect :=
  match candidate with
  | none => (-1, [])
  | some candidate =>
      sendToLws io (relayTarget ov st viewerId)
        (relayMessage (bytes "\x7b\"type\":\"ice\",\"candidate\":\"") candidate)

/-- `signaling_get_url`. -/
def signalingGetUrl (lanIp : Bytes) (st : State) (bufSize : Nat) : Bytes :=
  snprintf bufSize (bytes "ws://" ++ lanIp ++ bytes ":" ++ decimalInt st.gPort)

end Nearcade.Signaling
