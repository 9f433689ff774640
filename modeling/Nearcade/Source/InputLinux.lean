import Nearcade.Source.Internal

/-!
# Source — InputLinux

`src/input_linux.c`: the keyboard and mouse device and the sixteen gamepads, each a uinput
device behind a file descriptor.

`opened` is the kernel's side: the descriptors `open("/dev/uinput")` returned and `close` was
not called on.
-/

namespace Nearcade.Input
open Text

/-- `kbm_fd`, `gp_fds`, `gp_names` (the whole buffers), and the open descriptors. -/
structure State where
  kbmFd : Int
  gpFds : Fin maxSlots → Int
  gpNames : Fin maxSlots → Bytes
  opened : Finset Int

/-- The static initialisers: `gp_fds` is zero until `input_init`. -/
def State.boot : State := ⟨-1, fun _ => 0, fun _ => List.replicate deviceNameLen 0, ∅⟩

/-- What the system calls answer while one device is created: the descriptor `open` returns
(negative on failure), whether `write(fd, &uud)` and `UI_DEV_CREATE` succeed. -/
structure Uinput where
  fd : Int
  wrote : Bool
  created : Bool
  deriving DecidableEq

/-- The kernel returns no descriptor that is open already. -/
def Uinput.Fresh (u : Uinput) (st : State) : Prop := 0 ≤ u.fd → u.fd ∉ st.opened

instance (u : Uinput) (st : State) : Decidable (u.Fresh st) :=
  inferInstanceAs (Decidable (_ → _))

/-! ### Event codes -/

def evSyn : UInt16 := 0x00
def evKey : UInt16 := 0x01
def evRel : UInt16 := 0x02
def evAbs : UInt16 := 0x03
def synReport : UInt16 := 0
def relX : UInt16 := 0x00
def relY : UInt16 := 0x01
def absX : UInt16 := 0x00
def absY : UInt16 := 0x01
def absZ : UInt16 := 0x02
def absRx : UInt16 := 0x03
def absRy : UInt16 := 0x04
def absRz : UInt16 := 0x05
def absHat0x : UInt16 := 0x10
def absHat0y : UInt16 := 0x11
def btnSouth : UInt16 := 0x130
def btnEast : UInt16 := 0x131
def btnNorth : UInt16 := 0x133
def btnWest : UInt16 := 0x134
def btnTl : UInt16 := 0x136
def btnTr : UInt16 := 0x137
def btnSelect : UInt16 := 0x13a
def btnStart : UInt16 := 0x13b
def btnMode : UInt16 := 0x13c
def btnThumbl : UInt16 := 0x13d
def btnThumbr : UInt16 := 0x13e

/-- The `W3C_*` masks; `w3cGuide` is above the 16 bits of `buttons`. -/
def w3cA : Nat := 1 <<< 0
def w3cB : Nat := 1 <<< 1
def w3cY : Nat := 1 <<< 2
def w3cX : Nat := 1 <<< 3
def w3cLb : Nat := 1 <<< 4
def w3cRb : Nat := 1 <<< 5
def w3cBack : Nat := 1 <<< 8
def w3cStart : Nat := 1 <<< 9
def w3cLs : Nat := 1 <<< 10
def w3cRs : Nat := 1 <<< 11
def w3cGuide : Nat := 1 <<< 16

/-! ### Writing events -/

/-- `emit`. -/
def emit (fd : Int) (type code : UInt16) (val : Int) : List Effect :=
  if fd < 0 then [] else [.inputEvent fd type code val]

/-- `syn`. -/
def syn (fd : Int) : List Effect := if 0 ≤ fd then emit fd evSyn synReport 0 else []

/-- `(btn & mask) ? 1 : 0`. -/
def pressed (btn : UInt16) (mask : Nat) : Int := if btn.toNat &&& mask ≠ 0 then 1 else 0

/-! ### Devices -/

/-- `snprintf(uud.name, UINPUT_MAX_NAME_SIZE, …)`. -/
def uudName (name : Bytes) : Bytes := snprintf 80 name

/-- The device `create_kbm_device` describes. -/
def kbmDev : UinputUserDev := ⟨0x1234, 0x5678, 1, uudName (bytes "Nearsec Virtual KBM"), 0, []⟩

/-- The axes `input_alloc_slot` declares, by `set_abs`. -/
def gamepadAxes : List AbsAxis :=
  [⟨absX, -32767, 32767, 16, 128⟩, ⟨absY, -32767, 32767, 16, 128⟩,
   ⟨absRx, -32767, 32767, 16, 128⟩, ⟨absRy, -32767, 32767, 16, 128⟩,
   ⟨absZ, 0, 255, 0, 0⟩, ⟨absRz, 0, 255, 0, 0⟩, ⟨absHat0x, -1, 1, 0, 0⟩,
   ⟨absHat0y, -1, 1, 0, 0⟩]

/-- `name ? name : "Nearcade Gamepad"`. -/
def gamepadName (name : Option Bytes) : Bytes := name.getD (bytes "Nearcade Gamepad")

/-- The device `input_alloc_slot` describes. -/
def gamepadDev (vendor product version : UInt16) (name : Option Bytes) : UinputUserDev :=
  ⟨vendor, product, version, uudName (gamepadName name), 16, gamepadAxes⟩

/-- `create_kbm_device`. -/
def createKbmDevice (u : Uinput) (st : State) : NearcadeError × State × List Effect :=
  -- `kbm_fd` keeps what `open` returned
  if u.fd < 0 then (.errPermission, { st with kbmFd := u.fd }, [])
  else if u.wrote && u.created then
    (.ok, { st with kbmFd := u.fd, opened := insert u.fd st.opened },
      [.uinputOpen u.fd, .uinputCreate u.fd kbmDev])
  else (.errNoDevice, { st with kbmFd := -1 }, [.uinputOpen u.fd, .close u.fd])

/-- `input_init`. -/
def inputInit (u : Uinput) (st : State) : NearcadeError × State × List Effect :=
  createKbmDevice u
    { st with gpFds := fun _ => -1, gpNames := fun _ => List.replicate deviceNameLen 0 }

/-- `ioctl(gp_fds[slot], UI_DEV_DESTROY); close(gp_fds[slot]); gp_fds[slot] = -1;` -/
def destroyGp (st : State) (slot : Fin maxSlots) : State × List Effect :=
  ({ st with gpFds := Function.update st.gpFds slot (-1)
             opened := st.opened.erase (st.gpFds slot) },
    [.uinputDestroy (st.gpFds slot), .close (st.gpFds slot)])

/-- The loop of `input_shutdown` over the slots of a list. -/
def shutdownSlots : List (Fin maxSlots) → State → State × List Effect
  | [], st => (st, [])
  | slot :: rest, st =>
      if 0 ≤ st.gpFds slot then
        let (st₁, fx₁) := destroyGp st slot
        let (st₂, fx₂) := shutdownSlots rest st₁
        (st₂, fx₁ ++ fx₂)
      else shutdownSlots rest st

/-- `input_shutdown`. -/
def inputShutdown (st : State) : State × List Effect :=
  let (st₁, fx₁) := shutdownSlots (List.finRange maxSlots) st
  if 0 ≤ st₁.kbmFd then
    ({ st₁ with kbmFd := -1, opened := st₁.opened.erase st₁.kbmFd },
      fx₁ ++ [.uinputDestroy st₁.kbmFd, .close st₁.kbmFd])
  else (st₁, fx₁)

/-- A `uint8_t` slot that passes `slot < MAX_SLOTS`. -/
def slotOfByte (slot : UInt8) : Option (Fin maxSlots) :=
  if h : slot.toNat < maxSlots then some ⟨slot.toNat, h⟩ else none

/-- The first part of `input_alloc_slot`: the device already on the slot goes. -/
def evictGp (st : State) (slot : Fin maxSlots) : State × List Effect :=
  if 0 ≤ st.gpFds slot then destroyGp st slot else (st, [])

/-- `input_alloc_slot`. -/
def inputAllocSlot (u : Uinput) (slot : UInt8) (vendor product version : UInt16)
    (name : Option Bytes) (st : State) : NearcadeError × State × List Effect :=
  match slotOfByte slot with
  | none => (.errInvalidArg, st, [])
  | some k =>
      -- on failure the slot stays without a device
      let (st₁, fx₁) := evictGp st k
      if u.fd < 0 then (.errPermission, st₁, fx₁)
      else if u.wrote && u.created then
        (.ok,
          { st₁ with
            gpFds := Function.update st₁.gpFds k u.fd
            gpNames := Function.update st₁.gpNames k
              (strncpy (st₁.gpNames k) (gamepadName name) (deviceNameLen - 1))
            opened := insert u.fd st₁.opened },
          fx₁ ++ [.uinputOpen u.fd, .uinputCreate u.fd (gamepadDev vendor product version name)])
      else (.errNoDevice, st₁, fx₁ ++ [.uinputOpen u.fd, .close u.fd])

/-- `input_free_slot`. -/
def inputFreeSlot (slot : UInt8) (st : State) : NearcadeError × State × List Effect :=
  match slotOfByte slot with
  | none => (.errInvalidArg, st, [])
  | some k =>
      if 0 ≤ st.gpFds k then
        let (st₁, fx₁) := destroyGp st k
        (.ok,
          { st₁ with gpNames := Function.update st₁.gpNames k (List.replicate deviceNameLen 0) },
          fx₁)
      else (.ok, st, [])

/-! ### Injection -/

/-- The calls of `emit` in `input_submit_gamepad`, in order: type, code and value. -/
def gamepadWrites (pkt : NearcadeGamepadPacket) : List (UInt16 × UInt16 × Int) :=
  [(evAbs, absX, pkt.lx.toInt), (evAbs, absY, pkt.ly.toInt),
   (evAbs, absRx, pkt.rx.toInt), (evAbs, absRy, pkt.ry.toInt),
   (evAbs, absZ, pkt.lt.toNat), (evAbs, absRz, pkt.rt.toNat),
   (evAbs, absHat0x, pkt.hx.toInt), (evAbs, absHat0y, pkt.hy.toInt),
   (evKey, btnSouth, pressed pkt.buttons w3cA), (evKey, btnEast, pressed pkt.buttons w3cB),
   (evKey, btnWest, pressed pkt.buttons w3cY), (evKey, btnNorth, pressed pkt.buttons w3cX),
   (evKey, btnTl, pressed pkt.buttons w3cLb), (evKey, btnTr, pressed pkt.buttons w3cRb),
   (evKey, btnSelect, pressed pkt.buttons w3cBack),
   (evKey, btnStart, pressed pkt.buttons w3cStart),
   (evKey, btnThumbl, pressed pkt.buttons w3cLs), (evKey, btnThumbr, pressed pkt.buttons w3cRs),
   (evKey, btnMode, pressed pkt.buttons w3cGuide)]

/-- Calls of `emit`, one after the other. -/
def emitAll (fd : Int) (ws : List (UInt16 × UInt16 × Int)) : List Effect :=
  ws.flatMap fun (type, code, val) => emit fd type code val

/-- The events of `input_submit_gamepad` on a slot with the device `fd`. -/
def gamepadEvents (fd : Int) (pkt : NearcadeGamepadPacket) : List Effect :=
  emitAll fd (gamepadWrites pkt) ++ syn fd

/-- `input_submit_gamepad`.  It changes no state. -/
def inputSubmitGamepad (st : State) (pkt : Option NearcadeGamepadPacket) :
    NearcadeError × List Effect :=
  match pkt with
  | none => (.errInvalidArg, [])
  | some pkt =>
      match slotOfByte pkt.slot with
      | none => (.errInvalidArg, [])
      | some k =>
          if st.gpFds k < 0 then (.errNoDevice, [])
          else (.ok, gamepadEvents (st.gpFds k) pkt)

/-- The table of `key_name_to_code`, in its order. -/
def keyCodes : List (Bytes × UInt16) :=
  [(bytes "A", 30), (bytes "B", 48), (bytes "C", 46), (bytes "D", 32), (bytes "W", 17),
   (bytes "S", 31), (bytes "SPACE", 57), (bytes "LEFTSHIFT", 42), (bytes "LSHIFT", 42),
   (bytes "LEFTCTRL", 29), (bytes "LCTRL", 29), (bytes "ESC", 1), (bytes "TAB", 15),
   (bytes "E", 18), (bytes "R", 19), (bytes "F", 33), (bytes "G", 34), (bytes "C", 46),
   (bytes "UP", 103), (bytes "DOWN", 108), (bytes "LEFT", 105), (bytes "RIGHT", 106),
   (bytes "ENTER", 28)]

/-- `key_name_to_code`: 0 for a name it does not know. -/
def keyNameToCode (name : Option Bytes) : UInt16 :=
  match name with
  | none => 0
  | some name =>
      let k := if bytes "KEY_" <+: name then name.drop 4 else name
      (keyCodes.lookup k).getD 0

/-- `input_submit_kbm`.  It never reads `viewer_id`, and changes no state. -/
def inputSubmitKbm (st : State) (_viewerId eventType : Bytes) (key : Option Bytes) (dx dy : Int) :
    NearcadeError × List Effect :=
  if st.kbmFd < 0 then (.errNoDevice, [])
  else if eventType = bytes "mousemove" then
    (.ok, emit st.kbmFd evRel relX dx ++ emit st.kbmFd evRel relY dy ++ syn st.kbmFd)
  else if eventType = bytes "keydown" ∨ eventType = bytes "keyup" then
    let val := if eventType = bytes "keydown" then 1 else 0
    let code := keyNameToCode key
    if 0 < code then (.ok, emit st.kbmFd evKey code val ++ syn st.kbmFd) else (.ok, [])
  else (.ok, [])

/-- The key codes `input_flush_slot` resets, in its order. -/
def flushCodes : List UInt16 :=
  [btnSouth, btnEast, btnWest, btnNorth, btnTl, btnTr, btnSelect, btnStart, btnMode, btnThumbl,
   btnThumbr]

/-- The calls of `emit` in `input_flush_slot`, in order. -/
def flushWrites : List (UInt16 × UInt16 × Int) :=
  [absX, absY, absRx, absRy, absZ, absRz, absHat0x, absHat0y].map (evAbs, ·, 0) ++
  flushCodes.map (evKey, ·, 0)

/-- The events of `input_flush_slot` on a slot with the device `fd`. -/
def flushEvents (fd : Int) : List Effect := emitAll fd flushWrites ++ syn fd

/-- `input_flush_slot`.  It changes no state. -/
def inputFlushSlot (st : State) (slot : UInt8) : NearcadeError × List Effect :=
  match slotOfByte slot with
  | none => (.ok, [])
  | some k => if 0 ≤ st.gpFds k then (.ok, flushEvents (st.gpFds k)) else (.ok, [])

end Nearcade.Input
