import Nearcade.Support.Text
import Mathlib.Data.Finset.Basic

/-!
# Source — Header

`include/nearcade.h` and the declarations of `src/nearcade_internal.h`: the constants, the
configuration, the gamepad packet, the events, and the effects the modules have on the world
outside.  Names are the source's, in camel case.
-/

namespace Nearcade
open Text

/-- `MAX_VIEWERS`. -/
abbrev maxViewers : Nat := 64

/-- `MAX_SLOTS`. -/
abbrev maxSlots : Nat := 16

/-- `NEARCADE_VIEWER_ID_LEN`. -/
abbrev viewerIdLen : Nat := 64

/-- `NEARCADE_DEVICE_NAME_LEN`. -/
abbrev deviceNameLen : Nat := 32

/-- `nearcade_error`. -/
inductive NearcadeError where
  | ok | errInit | errPermission | errNoDevice | errSlotFull | errInvalidArg | errNetwork
  | errCapture
  deriving DecidableEq, Repr

/-- `nearcade_config`, without the TURN settings, which nothing reads. -/
structure NearcadeConfig where
  port : Int
  screenWidth : Int
  screenHeight : Int
  maxBitrate : Int
  fps : Int
  enableAudio : Int
  deriving DecidableEq, Repr

/-- `NEARCADE_DEFAULT_CONFIG`. -/
def NearcadeConfig.default : NearcadeConfig := ⟨3000, 1920, 1080, 8000000, 60, 0⟩

/-- `nearcade_ctrl_type`. -/
inductive NearcadeCtrlType where
  | xbox360 | xboxOne | ds4 | dualsense | switchPro
  deriving DecidableEq, Repr

/-- `nearcade_input_mode`. -/
inductive NearcadeInputMode where
  | gamepad | kbm | kbmEmulated | disabled
  deriving DecidableEq, Repr

/-- `nearcade_gamepad_packet`, packed: 16 bytes. -/
structure NearcadeGamepadPacket where
  type : UInt8
  lx : Int16
  ly : Int16
  rx : Int16
  ry : Int16
  lt : UInt8
  rt : UInt8
  buttons : UInt16
  hx : Int8
  hy : Int8
  slot : UInt8
  deriving DecidableEq

/-- A little-endian `uint16_t`. -/
def le16 (lo hi : UInt8) : UInt16 := lo.toUInt16 ||| (hi.toUInt16 <<< 8)

/-- `memcpy(&pkt, bin.data(), sizeof(pkt))`, for a message of at least `sizeof(pkt)` bytes. -/
def NearcadeGamepadPacket.ofBytes : Bytes → Option NearcadeGamepadPacket
  | type :: lx₀ :: lx₁ :: ly₀ :: ly₁ :: rx₀ :: rx₁ :: ry₀ :: ry₁ :: lt :: rt :: b₀ :: b₁ ::
      hx :: hy :: slot :: _ =>
    some ⟨type, (le16 lx₀ lx₁).toInt16, (le16 ly₀ ly₁).toInt16, (le16 rx₀ rx₁).toInt16,
      (le16 ry₀ ry₁).toInt16, lt, rt, le16 b₀ b₁, hx.toInt8, hy.toInt8, slot⟩
  | _ => none

/-- `nearcade_event`, without the rumble and error events, which nothing fires.  The texts are
the strings in the event's buffers. -/
inductive NearcadeEvent where
  | viewerJoined (viewerId name : Bytes)
  | viewerLeft (viewerId : Bytes)
  | inputPacket (packet : NearcadeGamepadPacket) (viewerId : Bytes)
  | signaling (viewerId data : Bytes)
  | streaming (viewerCount : Int)
  deriving DecidableEq

/-- `"viewer_%d"`. -/
def viewerId (idx : Int) : Bytes := bytes "viewer_" ++ decimalInt idx

theorem viewerId_injective {i j : Int} (hi : InInt i) (hj : InInt j)
    (h : viewerId i = viewerId j) : i = j :=
  decimalInt_injective hi hj (List.append_cancel_left h)

/-- An index of the viewer table is an `int`. -/
theorem inInt_idx (i : Fin maxViewers) : InInt (i.val : Int) := by
  have := i.isLt
  simp only [maxViewers, InInt] at *
  omega

theorem idx_inj {i j : Fin maxViewers} (h : (i.val : Int) = (j.val : Int)) : i = j :=
  Fin.ext (Int.ofNat.inj h)

theorem viewerId_idx_inj {i j : Fin maxViewers}
    (h : viewerId (i.val : Int) = viewerId (j.val : Int)) : i = j :=
  idx_inj (viewerId_injective (inInt_idx i) (inInt_idx j) h)

/-! ### What the modules do to the world outside -/

/-- A `struct lws *`: one WebSocket connection. -/
abbrev Wsi := Nat

/-- An `rtc::PeerConnection`, with the data channel and the video track created on it, by the
order of creation. -/
abbrev PcId := Nat

/-- The calls `webrtc_handle_signaling` makes to libdatachannel, each of which may throw. -/
inductive RtcCall where
  | description (sdp type : Bytes)
  | setRemoteDescription (pc : PcId) (sdp type : Bytes)
  | candidate (cand : Bytes)
  | addRemoteCandidate (pc : PcId) (cand : Bytes)
  deriving DecidableEq

/-- One axis of `uinput_user_dev`, as `set_abs` fills it. -/
structure AbsAxis where
  axis : UInt16
  absmin : Int
  absmax : Int
  absfuzz : Int
  absflat : Int
  deriving DecidableEq

/-- The part of `uinput_user_dev` the SDK fills in. -/
structure UinputUserDev where
  vendor : UInt16
  product : UInt16
  version : UInt16
  name : Bytes
  ffEffectsMax : Nat
  abs : List AbsAxis
  deriving DecidableEq

/-- The signals `capture_stop` sends. -/
inductive Signal where
  | sigterm | sigkill
  deriving DecidableEq

/-- What a call of the SDK does outside its own state, in the order it does it. -/
inductive Effect where
  /-- `fire_event`: the registered callback, if any, gets the event. -/
  | event (cb : Option Nat) (userdata : Nat) (ev : NearcadeEvent)
  /-- `write(fd, &ie, sizeof(ie))`, one `input_event`. -/
  | inputEvent (fd : Int) (type code : UInt16) (value : Int)
  /-- `open("/dev/uinput")` returned `fd`. -/
  | uinputOpen (fd : Int)
  /-- `write(fd, &uud)` and `UI_DEV_CREATE` succeeded. -/
  | uinputCreate (fd : Int) (dev : UinputUserDev)
  | uinputDestroy (fd : Int)
  | close (fd : Int)
  | fork (pid : Int)
  | kill (pid : Int) (sig : Signal)
  | waitpid (pid : Int) (nohang : Bool)
  /-- `lws_write(wsi, …, LWS_WRITE_TEXT)`, one text frame. -/
  | lwsWrite (wsi : Wsi) (frame : Bytes)
  | lwsCreateContext (ctx : Nat)
  | lwsContextDestroy (ctx : Nat)
  /-- `video_track->send(frame)`. -/
  | trackSend (track : PcId) (frame : Bytes)
  | rtc (call : RtcCall)
  deriving DecidableEq

end Nearcade
