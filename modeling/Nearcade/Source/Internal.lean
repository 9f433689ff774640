import Nearcade.Source.Header
import Mathlib.Data.Fin.Tuple.Basic

/-!
# Source — Internal

`src/nearcade_internal.h`: the kinds of packet, the state `g_state`, the slot
manager and `fire_event`.
-/

namespace Nearcade
open Text

/-- `PKT_GAMEPAD`, one of the kinds of packet that are declared.  No function reads a kind. -/
def pktGamepad : UInt8 := 0x01

/-- `PKT_MOUSE_REL`. -/
def pktMouseRel : UInt8 := 0x02

/-- `viewer_info`.  `id` and `name` are the whole buffers. -/
structure ViewerInfo where
  id : Bytes
  name : Bytes
  slot : Int
  active : Bool
  mode : NearcadeInputMode
  ctrlType : NearcadeCtrlType
  slotAllocated : Bool
  deriving DecidableEq

/-- All bytes zero. -/
def ViewerInfo.zero : ViewerInfo :=
  ⟨List.replicate viewerIdLen 0, List.replicate 48 0, 0, false, .gamepad, .xbox360, false⟩

/-- `slot_manager`.  `slotViewers` holds the whole buffers. -/
structure SlotManager where
  slotMap : Fin maxSlots → Int
  slotViewers : Fin maxSlots → Bytes

/-- All bytes zero. -/
def SlotManager.zero : SlotManager := ⟨fun _ => 0, fun _ => List.replicate viewerIdLen 0⟩

/-- `nearcade_state`.  `pin` and `lanIp` are the strings in their buffers. -/
structure NearcadeState where
  config : NearcadeConfig
  running : Bool
  capturing : Bool
  streaming : Bool
  viewers : Fin maxViewers → ViewerInfo
  numViewers : Int
  slots : SlotManager
  eventCb : Option Nat
  eventCbUserdata : Nat
  pin : Bytes
  lanIp : Bytes

/-- `g_state` before the first `nearcade_init`, and after its `memset`. -/
def NearcadeState.zero : NearcadeState where
  config := ⟨0, 0, 0, 0, 0, 0⟩
  running := false
  capturing := false
  streaming := false
  viewers := fun _ => .zero
  numViewers := 0
  slots := .zero
  eventCb := none
  eventCbUserdata := 0
  pin := []
  lanIp := []

/-- `fire_event`. -/
def fireEvent (g : NearcadeState) (ev : NearcadeEvent) : List Effect :=
  [.event g.eventCb g.eventCbUserdata ev]

/-- The index at which a loop over a table stops: the first that passes a test.  Irreducible, so
that no proof runs the loop. -/
@[irreducible] def firstIdx {n : Nat} (test : Fin n → Bool) : Option (Fin n) := Fin.find? test

theorem firstIdx_eq_some_iff {n : Nat} {test : Fin n → Bool} {i : Fin n} :
    firstIdx test = some i ↔ test i = true ∧ ∀ j < i, test j = false := by
  rw [firstIdx, Fin.find?_eq_some_iff]

theorem firstIdx_eq_none_iff {n : Nat} {test : Fin n → Bool} :
    firstIdx test = none ↔ ∀ i, test i = false := by
  rw [firstIdx, Fin.find?_eq_none_iff]

/-- `slot_claim`: the slot it returns (`none` for -1). -/
def slotClaim (sm : SlotManager) (viewerId : Option Bytes) : Option (Fin maxSlots) × SlotManager :=
  match viewerId with
  | none => (none, sm)
  | some id =>
      match firstIdx fun i => decide (sm.slotMap i = 0) with
      | some i =>
          -- `strncpy` into the buffer as it was left
          (some i,
            { slotMap := Function.update sm.slotMap i 1
              slotViewers := Function.update sm.slotViewers i
                (strncpy (sm.slotViewers i) id (viewerIdLen - 1)) })
      | none => (none, sm)

/-- A slot number that passes `0 <= slot < MAX_SLOTS`. -/
def slotOfInt (slot : Int) : Option (Fin maxSlots) :=
  if h : 0 ≤ slot ∧ slot < maxSlots then some ⟨slot.toNat, by omega⟩ else none

theorem slotOfInt_eq_some {slot : Int} {k : Fin maxSlots} :
    slotOfInt slot = some k ↔ slot = (k.val : Int) := by
  have hk := k.isLt
  rw [slotOfInt]
  split
  · simp only [Option.some.injEq, Fin.ext_iff]
    omega
  · refine iff_of_false nofun ?_
    omega

/-- `slot_release`. -/
def slotRelease (sm : SlotManager) (slot : Int) : SlotManager :=
  match slotOfInt slot with
  | none => sm
  | some k =>
      if sm.slotMap k = 0 then sm
      else
        { slotMap := Function.update sm.slotMap k 0
          slotViewers := Function.update sm.slotViewers k (List.replicate viewerIdLen 0) }

/-- `slot_map[k] == 1` with `id` as its owner. -/
def SlotManager.Owns (sm : SlotManager) (k : Fin maxSlots) (id : Bytes) : Prop :=
  sm.slotMap k = 1 ∧ cstr (sm.slotViewers k) = id

instance (sm : SlotManager) (k : Fin maxSlots) (id : Bytes) : Decidable (sm.Owns k id) :=
  inferInstanceAs (Decidable (_ ∧ _))

end Nearcade
