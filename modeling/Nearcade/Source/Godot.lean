import Nearcade.Support.Queue
import Nearcade.System.Machine

/-!
# Source — Godot

`bindings/godot/src/nearcade_godot.cpp`: the class `NearcadeSDK` that Godot calls.  It keeps one
queue of events, which the SDK's callback fills and `poll_event` empties, and turns events and
packets into Godot's dictionaries and back.

`godot` is the class in its world: its inputs are the methods a script calls and the callbacks of
the network.  A method is one or more calls of the public API, so a step of `godot` is a run of
`system`; what the network does between the two calls of `init` is part of the input.

A Godot string made of a C string is the list of its bytes.  `conv` is what Godot's conversion to
`int` makes of a `Variant` that is no integer.
-/

namespace Nearcade.Godot
open Text Runs

/-! ### Variants -/

/-- `Variant`: the kinds the class builds, and any other value a script may pass. -/
inductive Variant where
  | int (v : Int64)
  | string (s : Bytes)
  | dictionary (d : List (Bytes × Variant))
  | other (value : Nat)

/-- `Dictionary`, as the list of its entries. -/
abbrev Dictionary := List (Bytes × Variant)

/-- A C `int`, as a `Variant`. -/
def Variant.ofInt (z : Int32) : Variant := .int z.toInt64

/-- `(int)v`. -/
def Variant.toInt (conv : Variant → Int32) : Variant → Int32
  | .int v => v.toInt32
  | v => conv v

/-- `d.has(key) ? cast((int)d[key]) : value`. -/
def Dictionary.intOr {α : Type} (conv : Variant → Int32) (d : Dictionary) (key : String) (value : α)
    (cast : Int32 → α) : α :=
  match d.lookup (bytes key) with
  | some v => cast (v.toInt conv)
  | none => value

/-! ### What is read from a dictionary -/

/-- The configuration `init` makes of a dictionary. -/
def configOf (conv : Variant → Int32) (d : Dictionary) : NearcadeConfig :=
  let c := NearcadeConfig.default
  { c with
    port := d.intOr conv "port" c.port Int32.toInt
    screenWidth := d.intOr conv "screen_width" c.screenWidth Int32.toInt
    screenHeight := d.intOr conv "screen_height" c.screenHeight Int32.toInt
    maxBitrate := d.intOr conv "max_bitrate" c.maxBitrate Int32.toInt
    fps := d.intOr conv "fps" c.fps Int32.toInt
    enableAudio := d.intOr conv "enable_audio" c.enableAudio Int32.toInt }

/-- `(uint8_t)z`. -/
def toUInt8 (z : Int32) : UInt8 := z.toUInt32.toUInt8

/-- `(uint16_t)z`. -/
def toUInt16 (z : Int32) : UInt16 := z.toUInt32.toUInt16

/-- The packet `submit_gamepad` makes of a dictionary. -/
def packetOf (conv : Variant → Int32) (d : Dictionary) : NearcadeGamepadPacket where
  type := d.intOr conv "type" 0x01 toUInt8
  lx := d.intOr conv "lx" 0 Int32.toInt16
  ly := d.intOr conv "ly" 0 Int32.toInt16
  rx := d.intOr conv "rx" 0 Int32.toInt16
  ry := d.intOr conv "ry" 0 Int32.toInt16
  lt := d.intOr conv "lt" 0 toUInt8
  rt := d.intOr conv "rt" 0 toUInt8
  buttons := d.intOr conv "buttons" 0 toUInt16
  hx := d.intOr conv "hx" 0 Int32.toInt8
  hy := d.intOr conv "hy" 0 Int32.toInt8
  slot := d.intOr conv "slot" 0 toUInt8

/-! ### What an event becomes -/

/-- The dictionary `poll_event` makes of a packet. -/
def packetDict (pkt : NearcadeGamepadPacket) : Dictionary :=
  [(bytes "type", .ofInt pkt.type.toUInt32.toInt32),
   (bytes "lx", .ofInt pkt.lx.toInt32), (bytes "ly", .ofInt pkt.ly.toInt32),
   (bytes "rx", .ofInt pkt.rx.toInt32), (bytes "ry", .ofInt pkt.ry.toInt32),
   (bytes "lt", .ofInt pkt.lt.toUInt32.toInt32), (bytes "rt", .ofInt pkt.rt.toUInt32.toInt32),
   (bytes "buttons", .ofInt pkt.buttons.toUInt32.toInt32),
   (bytes "hx", .ofInt pkt.hx.toInt32), (bytes "hy", .ofInt pkt.hy.toInt32),
   (bytes "slot", .ofInt pkt.slot.toUInt32.toInt32)]

/-- `nearcade_event_type`. -/
def eventType : NearcadeEvent → Int32
  | .viewerJoined .. => 0
  | .viewerLeft _ => 1
  | .inputPacket .. => 2
  | .signaling .. => 4
  | .streaming _ => 6

/-- The entries of an event besides its type. -/
def eventEntries : NearcadeEvent → Dictionary
  | .viewerJoined id name => [(bytes "viewer_id", .string id), (bytes "name", .string name)]
  | .viewerLeft id => [(bytes "viewer_id", .string id)]
  | .inputPacket pkt id =>
      [(bytes "packet", .dictionary (packetDict pkt)), (bytes "viewer_id", .string id)]
  | .signaling id data => [(bytes "viewer_id", .string id), (bytes "data", .string data)]
  | .streaming count => [(bytes "viewer_count", .ofInt (Int32.ofInt count))]

/-- The dictionary `poll_event` returns for an event. -/
def eventDict (ev : NearcadeEvent) : Dictionary :=
  (bytes "type", .ofInt (eventType ev)) :: eventEntries ev

/-- The name of the signal `poll_event` emits for an event; its arguments are the entries. -/
def signalName : NearcadeEvent → Bytes
  | .viewerJoined .. => bytes "viewer_joined"
  | .viewerLeft _ => bytes "viewer_left"
  | .inputPacket .. => bytes "input_packet"
  | .signaling .. => bytes "signaling_message"
  | .streaming _ => bytes "streaming_started"

/-! ### The getters -/

/-- `char buf[size] = {0}; nearcade_get_…(buf, sizeof(buf)); return String(buf);` -/
def getString (size : Nat) (get : Option Bytes → NearcadeError × Bytes) : Bytes :=
  cstr (get (some (List.replicate size 0))).2

/-- `get_signaling_url`. -/
def getSignalingUrl (s : State) : Bytes := getString 256 (nearcadeGetSignalingUrl s)

/-- `get_lan_ip`. -/
def getLanIp (s : State) : Bytes := getString 64 (nearcadeGetLanIp s.g)

/-- `get_pin`. -/
def getPin (s : State) : Bytes := getString 8 (nearcadeGetPin s.g)

/-! ### The class in its world -/

/-- The methods, with what the environment answers.  `between` is what the network does after
`nearcade_init` has returned and before the callback is set. -/
inductive Method where
  | init (config : Dictionary) (env : InitEnv) (waits : Capture.Waits) (between : List Net)
  | startStreaming
  | stopStreaming
  | startCapture (pid : Int)
  | stopCapture (waits : Capture.Waits)
  | sendH264 (data : Bytes) (timestampUs : Int)
  | sendFrame (data : Bytes) (width height : Int) (timestampUs : Int)
  | shutdown (waits : Capture.Waits)
  | submitGamepad (packet : Dictionary)
  | submitKbm (viewerId eventType key : Bytes) (dx dy : Int)
  | flushSlot (slot : Int32)
  | disconnectViewer (viewerId : Bytes)
  | getSignalingUrl
  | getLanIp
  | getPin
  | regeneratePin (rand : Nat)
  | pollEvent

/-- A method is called, or the network calls back. -/
inductive Input where
  | method (m : Method)
  | net (n : Net)

/-- What a step does: something outside, a value it returns to the script, or a signal. -/
inductive Out where
  | effect (e : Effect)
  | returned (v : Variant)
  | emitSignal (name : Bytes) (args : Dictionary)

/-- The SDK in its world, and `event_queue`. -/
structure World where
  world : Nearcade.World
  eventQueue : List NearcadeEvent

/-- The class as it is constructed: nothing is queued. -/
def World.boot : World := ⟨.boot, []⟩

/-- `_event_callback`, as a function pointer. -/
def eventCallback : Nat := 1

/-- `this`, as the `userdata` of the callback. -/
def self : Nat := 1

/-- The calls of the public API a method makes. -/
def Method.calls (conv : Variant → Int32) (s : State) : Method → List Nearcade.Input
  | .init config env waits between =>
      let init := Call.init (some (configOf conv config)) env waits
      .call init :: between.map .net ++
        -- the callback is set only where `nearcade_init` returned 0
        if (nearcadeInit (some (configOf conv config)) env waits s).1 = .ok then
          [.call (.setEventCallback (some eventCallback) self)]
        else []
  | .startStreaming => [.call .startStreaming]
  | .stopStreaming => [.call .stopStreaming]
  | .startCapture pid => [.call (.startCapture pid)]
  | .stopCapture waits => [.call (.stopCapture waits)]
  | .sendH264 data ts => [.call (.sendH264 (some data) ts)]
  | .sendFrame data width height ts => [.call (.sendFrame (some data) width height ts)]
  | .shutdown waits => [.call (.shutdown waits)]
  | .submitGamepad packet => [.call (.submitGamepad (some (packetOf conv packet)))]
  | .submitKbm vid ev key dx dy => [.call (.submitKbm (some vid) (some ev) (some key) dx dy)]
  | .flushSlot slot => [.call (.flushSlot (toUInt8 slot))]
  | .disconnectViewer vid => [.call (.disconnectViewer (some vid))]
  | .regeneratePin rand => [.call (.regeneratePin rand)]
  | .getSignalingUrl | .getLanIp | .getPin | .pollEvent => []

/-- What a step of `godot` makes the SDK do. -/
def Input.calls (conv : Variant → Int32) (s : State) : Input → List Nearcade.Input
  | .method m => m.calls conv s
  | .net n => [.net n]

/-- `nearcade_error`, as the number a method returns. -/
def errorCode : NearcadeError → Int32
  | .ok => 0
  | .errInit => -1
  | .errPermission => -2
  | .errNoDevice => -3
  | .errSlotFull => -4
  | .errInvalidArg => -5
  | .errNetwork => -6
  | .errCapture => -7

/-- The dictionary `init` returns. -/
def initResult (ret : NearcadeError) (s : State) : Dictionary :=
  [(bytes "result", .ofInt (errorCode ret)), (bytes "lan_ip", .string (getLanIp s)),
   (bytes "pin", .string (getPin s)), (bytes "signaling_url", .string (getSignalingUrl s))]

/-- `poll_event`: what it emits and returns. -/
def pollEvent (queue : List NearcadeEvent) : List Out :=
  match queue with
  | [] => [.returned (.dictionary [])]
  | ev :: _ =>
      [.emitSignal (signalName ev) (eventEntries ev), .returned (.dictionary (eventDict ev))]

/-- A number a method returns. -/
def returnCode (ret : NearcadeError) : List Out := [.returned (.ofInt (errorCode ret))]

/-- What a method returns and emits, where it leaves the SDK in `s'`. -/
def Method.returns (conv : Variant → Int32) (s s' : State) (queue : List NearcadeEvent) :
    Method → List Out
  | .init config env waits _ =>
      let ret := (nearcadeInit (some (configOf conv config)) env waits s).1
      [.returned (.dictionary (initResult ret s'))]
  | .startStreaming => returnCode (nearcadeStartStreaming s.g).1
  | .stopStreaming => returnCode (nearcadeStopStreaming s.g).1
  | .startCapture pid => returnCode (nearcadeStartCapture pid s).1
  | .stopCapture waits => returnCode (nearcadeStopCapture waits s).1
  | .sendH264 data _ => returnCode (nearcadeSendH264 s (some data)).1
  | .sendFrame .. => returnCode .errInit
  | .shutdown _ => []
  | .submitGamepad packet => returnCode (nearcadeSubmitGamepad s (some (packetOf conv packet))).1
  | .submitKbm vid ev key dx dy =>
      returnCode (nearcadeSubmitKbm s (some vid) (some ev) (some key) dx dy).1
  | .flushSlot slot => returnCode (nearcadeFlushSlot s (toUInt8 slot)).1
  | .disconnectViewer vid => returnCode (nearcadeDisconnectViewer s (some vid)).1
  | .getSignalingUrl => [.returned (.string (Godot.getSignalingUrl s))]
  | .getLanIp => [.returned (.string (Godot.getLanIp s))]
  | .getPin => [.returned (.string (Godot.getPin s))]
  | .regeneratePin rand => returnCode (nearcadeRegeneratePin rand s.g).1
  | .pollEvent => Godot.pollEvent queue

/-- What a step returns and emits. -/
def Input.returns (conv : Variant → Int32) (s s' : State) (queue : List NearcadeEvent) :
    Input → List Out
  | .method m => m.returns conv s s' queue
  | .net _ => []

/-- The events among the effects that `_event_callback` is called with. -/
def delivered (fx : List Effect) : List NearcadeEvent :=
  fx.filterMap fun
    | .event cb ud ev => if cb = some eventCallback ∧ ud = self then some ev else none
    | _ => none

/-- `_event_callback`, for one event. -/
def push (queue : List NearcadeEvent) (ev : NearcadeEvent) : List NearcadeEvent :=
  if queue.length < 256 then queue ++ [ev] else queue

/-- `event_queue` after a step: `poll_event` takes an event. -/
def Input.queueAfter (queue : List NearcadeEvent) (evs : List NearcadeEvent) :
    Input → List NearcadeEvent
  | .method .pollEvent => queue.tail
  | _ => evs.foldl push queue

section
variable (ov : Int → Int) (conv : Variant → Int32)

/-- What the SDK does in a step. -/
def sdkEffects (w : World) (i : Input) : List Effect :=
  outputs ((system ov).trace w.world (i.calls conv w.world.sdk))

/-- The SDK in its world after a step. -/
def sdkAfter (w : World) (i : Input) : Nearcade.World :=
  (system ov).final w.world (i.calls conv w.world.sdk)

/-- **The class in its world.** -/
def godot : Machine World Input Out where
  enabled w i := (system ov).Valid w.world (i.calls conv w.world.sdk)
  next w i :=
    ⟨sdkAfter ov conv w i, i.queueAfter w.eventQueue (delivered (sdkEffects ov conv w i))⟩
  out w i :=
    (sdkEffects ov conv w i).map .effect ++
      i.returns conv w.world.sdk (sdkAfter ov conv w i).sdk w.eventQueue

end

end Nearcade.Godot
