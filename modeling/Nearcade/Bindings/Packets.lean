import Nearcade.Bindings.Events

/-!
# Bindings — Packets

A gamepad packet on its way from the wire to a script and back: sixteen bytes in a message of a
viewer, a `nearcade_gamepad_packet` in an event, a dictionary that `poll_event` returns, and a
packet again where the script passes the dictionary to `submit_gamepad`.

* `ofBytes_eq_some_iff`: a message holds a packet just when it begins with the packet's bytes.
* `packetOf_packetDict`: the packet made of a packet's dictionary is the packet.
* `polled_packet`: every packet a script polls is one a viewer's message held, and the dictionary
  is read back to it and submitted as it.
-/

namespace Nearcade
open Text Runs

/-! ### The bytes of a packet -/

theorem getLsbD_le16 (lo hi : UInt8) (i : Nat) : (le16 lo hi).toBitVec.getLsbD i =
    if i < 8 then lo.toBitVec.getLsbD i else hi.toBitVec.getLsbD (i - 8) := by
  simp only [le16, UInt16.toBitVec_or, UInt16.toBitVec_shiftLeft, UInt8.toBitVec_toUInt16,
    BitVec.getLsbD_or, BitVec.getLsbD_setWidth]
  split
  · rename_i h
    have h' : i < 16 := by omega
    simp [h, h']
  · rename_i h
    have hlo : lo.toBitVec.getLsbD i = false := BitVec.getLsbD_of_ge _ _ (by omega)
    by_cases h16 : i < 16
    · simp [h, h16, hlo]
    · have hhi : hi.toBitVec.getLsbD (i - 8) = false := BitVec.getLsbD_of_ge _ _ (by omega)
      simp [h16, hlo, hhi]

theorem lo_le16 (lo hi : UInt8) : (le16 lo hi).toUInt8 = lo := by
  refine UInt8.toBitVec_inj.mp (BitVec.eq_of_getLsbD_eq fun i h => ?_)
  rw [UInt16.toBitVec_toUInt8, BitVec.getLsbD_setWidth, getLsbD_le16, if_pos h]
  simp [h]

theorem hi_le16 (lo hi : UInt8) : (le16 lo hi >>> 8).toUInt8 = hi := by
  refine UInt8.toBitVec_inj.mp (BitVec.eq_of_getLsbD_eq fun i h => ?_)
  have hs : (le16 lo hi >>> 8).toBitVec.getLsbD i = hi.toBitVec.getLsbD i := by
    rw [UInt16.toBitVec_shiftRight, BitVec.ushiftRight_eq', BitVec.getLsbD_ushiftRight]
    exact (getLsbD_le16 lo hi (8 + i)).trans (by rw [if_neg (by omega), Nat.add_sub_cancel_left])
  rw [UInt16.toBitVec_toUInt8, BitVec.getLsbD_setWidth, hs]
  simp [h]

theorem le16_lo_hi (x : UInt16) : le16 x.toUInt8 (x >>> 8).toUInt8 = x := by
  refine UInt16.toBitVec_inj.mp (BitVec.eq_of_getLsbD_eq fun i h => ?_)
  rw [getLsbD_le16]
  split
  · rename_i h8
    rw [UInt16.toBitVec_toUInt8, BitVec.getLsbD_setWidth]
    simp [h8]
  · -- a bit of the upper byte
    rename_i h8
    have h₁ : i - 8 < 8 := by omega
    have h₂ : 8 + (i - 8) = i := by omega
    rw [UInt16.toBitVec_toUInt8, BitVec.getLsbD_setWidth, UInt16.toBitVec_shiftRight,
      BitVec.ushiftRight_eq', BitVec.getLsbD_ushiftRight]
    simp [h₁, h₂]

/-- The two bytes of a little-endian `uint16_t`. -/
def le16Bytes (x : UInt16) : Bytes := [x.toUInt8, (x >>> 8).toUInt8]

/-- The sixteen bytes of a packet. -/
def NearcadeGamepadPacket.toBytes (pkt : NearcadeGamepadPacket) : Bytes :=
  [pkt.type] ++ le16Bytes pkt.lx.toUInt16 ++ le16Bytes pkt.ly.toUInt16 ++
    le16Bytes pkt.rx.toUInt16 ++ le16Bytes pkt.ry.toUInt16 ++ [pkt.lt, pkt.rt] ++
    le16Bytes pkt.buttons ++ [pkt.hx.toUInt8, pkt.hy.toUInt8, pkt.slot]

/-- What is read of a packet's bytes, whatever follows them, is the packet. -/
theorem NearcadeGamepadPacket.ofBytes_toBytes (pkt : NearcadeGamepadPacket) (rest : Bytes) :
    ofBytes (pkt.toBytes ++ rest) = some pkt := by
  have h : ofBytes (pkt.toBytes ++ rest) = some
      ⟨pkt.type, (le16 pkt.lx.toUInt16.toUInt8 (pkt.lx.toUInt16 >>> 8).toUInt8).toInt16,
        (le16 pkt.ly.toUInt16.toUInt8 (pkt.ly.toUInt16 >>> 8).toUInt8).toInt16,
        (le16 pkt.rx.toUInt16.toUInt8 (pkt.rx.toUInt16 >>> 8).toUInt8).toInt16,
        (le16 pkt.ry.toUInt16.toUInt8 (pkt.ry.toUInt16 >>> 8).toUInt8).toInt16, pkt.lt, pkt.rt,
        le16 pkt.buttons.toUInt8 (pkt.buttons >>> 8).toUInt8, pkt.hx.toUInt8.toInt8,
        pkt.hy.toUInt8.toInt8, pkt.slot⟩ := rfl
  rw [h]
  simp only [le16_lo_hi]
  rfl

/-- **When a message holds a packet**: when it begins with the packet's sixteen bytes. -/
theorem NearcadeGamepadPacket.ofBytes_eq_some_iff {bin : Bytes} {pkt : NearcadeGamepadPacket} :
    ofBytes bin = some pkt ↔ pkt.toBytes <+: bin := by
  constructor
  · intro h
    unfold ofBytes at h
    split at h
    · obtain rfl := Option.some.inj h
      rename_i rest
      refine ⟨rest, ?_⟩
      simp only [toBytes, le16Bytes, UInt16.toUInt16_toInt16, lo_le16, hi_le16]
      rfl
    · exact absurd h (by simp)
  · rintro ⟨rest, rfl⟩
    exact ofBytes_toBytes pkt rest

namespace Godot

/-! ### The dictionary of a packet -/

theorem toInt_ofInt (conv : Variant → Int32) (z : Int32) : (Variant.ofInt z).toInt conv = z :=
  Int32.toInt32_toInt64 z

theorem toUInt8_toInt32 (b : UInt8) : toUInt8 b.toUInt32.toInt32 = b := by
  rw [toUInt8, UInt32.toUInt32_toInt32, UInt8.toUInt8_toUInt32]

theorem toUInt16_toInt32 (x : UInt16) : toUInt16 x.toUInt32.toInt32 = x := by
  rw [toUInt16, UInt32.toUInt32_toInt32, UInt16.toUInt16_toUInt32]

/-- An entry that is there is what `intOr` takes. -/
theorem intOr_of_lookup {α : Type} {conv : Variant → Int32} {d : Dictionary} {key : String}
    {z : Int32} {value : α} {cast : Int32 → α} (h : d.lookup (bytes key) = some (.ofInt z)) :
    d.intOr conv key value cast = cast z := by
  simp only [Dictionary.intOr, h, toInt_ofInt]

/-- **The packet of a packet's dictionary is the packet.** -/
theorem packetOf_packetDict (conv : Variant → Int32) (pkt : NearcadeGamepadPacket) :
    packetOf conv (packetDict pkt) = pkt := by
  have hl : ∀ key z, (packetDict pkt).lookup (bytes key) = some (.ofInt z) →
      ∀ {α : Type} (value : α) (cast : Int32 → α),
        (packetDict pkt).intOr conv key value cast = cast z :=
      fun key z h _ _ _ => intOr_of_lookup h
  simp only [packetOf]
  rw [hl "type" _ rfl, hl "lx" _ rfl, hl "ly" _ rfl, hl "rx" _ rfl, hl "ry" _ rfl, hl "lt" _ rfl,
    hl "rt" _ rfl, hl "buttons" _ rfl, hl "hx" _ rfl, hl "hy" _ rfl, hl "slot" _ rfl]
  simp only [toUInt8_toInt32, toUInt16_toInt32, Int16.toInt16_toInt32, Int8.toInt8_toInt32]

/-! ### The packets a script polls -/

/-- `d["packet"]`, of an event's dictionary. -/
def packetEntry (d : Dictionary) : Option Dictionary :=
  match d.lookup (bytes "packet") with
  | some (.dictionary p) => some p
  | _ => none

/-- Only an INPUT_PACKET event has a packet. -/
theorem packetEntry_eventDict {ev : NearcadeEvent} {p : Dictionary}
    (h : packetEntry (eventDict ev) = some p) : ∃ pkt id, ev = .inputPacket pkt id ∧
      p = packetDict pkt := by
  cases ev with
  | inputPacket pkt id => exact ⟨pkt, id, rfl, (Option.some.inj h).symm⟩
  | viewerJoined _ _ | viewerLeft _ | signaling _ _ | streaming _ =>
      have hn : none = some p := h
      cases hn

/-- Only a message that holds a packet tells of it. -/
theorem packet_of_event {s : State} {i : Input} {pkt : NearcadeGamepadPacket} {id : Bytes}
    (h : .inputPacket pkt id ∈ i.event s) : ∃ pc bin, i = .net (.message pc (.binary bin)) ∧
      pkt.toBytes <+: bin := by
  cases i with
  | method m =>
      cases m with
      | startStreaming => exact absurd (List.mem_singleton.mp h) (by simp)
      | _ => exact absurd h List.not_mem_nil
  | net n =>
      cases n with
      | message pc msg =>
          cases msg with
          | string str => exact absurd h List.not_mem_nil
          | binary bin =>
              obtain ⟨pkt', hb, he⟩ := Option.map_eq_some_iff.mp (Option.mem_toList.mp h)
              cases he
              exact ⟨pc, bin, rfl, NearcadeGamepadPacket.ofBytes_eq_some_iff.mp hb⟩
      | receive wsi input throws =>
          simp only [Input.event, Net.event] at h
          split at h
          · exact absurd (List.mem_singleton.mp h) (by simp [Signaling.signalingEvent])
          · exact absurd (List.mem_singleton.mp h) (by simp [Signaling.signalingEvent])
          · exact absurd h List.not_mem_nil
      | stateChange pc state =>
          obtain ⟨r, -, he⟩ := Option.map_eq_some_iff.mp (Option.mem_toList.mp h)
          rw [viewerEvent] at he
          split at he <;> cases he
      | established _ _ _ | closed _ | localDescription _ _ _ _ | localCandidate _ _ _ =>
          exact absurd h List.not_mem_nil

/-- **The packets a script polls are the viewers'.**  In every run, the packet in a dictionary that
was polled is one that a viewer's message began with; the dictionary is read back to that packet,
and to submit it does, in any state of the SDK, what to submit the packet does. -/
theorem polled_packet (ov : Int → Int) (conv : Variant → Int32) (is : List Input)
    {d p : Dictionary} (hd : d ∈ polled ((godot ov conv).trace .boot is))
    (hp : packetEntry d = some p) :
    ∃ e ∈ (godot ov conv).trace .boot is, ∃ pc bin pkt,
      e.input = .net (.message pc (.binary bin)) ∧ pkt.toBytes <+: bin ∧ packetOf conv p = pkt ∧
        ∀ s, nearcadeSubmitGamepad s (some (packetOf conv p)) =
          Input.inputSubmitGamepad s.inp (some pkt) := by
  obtain ⟨-, hsub, -⟩ := polled_in_order ov conv is
  obtain ⟨ev, hev, rfl⟩ := List.mem_map.mp (hsub.subset (List.mem_append_left _ hd))
  obtain ⟨e, he, hev⟩ := List.mem_flatMap.mp hev
  obtain ⟨pkt, id, rfl, rfl⟩ := packetEntry_eventDict hp
  -- the event is that of its step
  rw [deliveredIn_eq (Machine.out_of_mem_trace he)] at hev
  obtain ⟨pc, bin, hi, hbin⟩ := packet_of_event ((delivered_sublist e.pre e.input).subset hev)
  refine ⟨e, he, pc, bin, pkt, hi, hbin, packetOf_packetDict conv pkt, fun s => ?_⟩
  rw [packetOf_packetDict]
  rfl

/-- A packet: the left stick half right, A and B pressed. -/
def halfRight : NearcadeGamepadPacket := ⟨pktGamepad, 16384, 0, 0, 0, 0, 0, 3, 0, 0, 0⟩

/-- A script starts the SDK, and polls after a viewer has sent a packet. -/
def packetRun : List Input :=
  [.method (.init [] .good ⟨0, 0⟩ []), .net (.established 7 (bytes "/viewer") []),
   .net (.message 0 (.binary halfRight.toBytes)), .method .pollEvent]

theorem polled_packet_halfRight :
    ∃ e ∈ (godot id fun _ => 0).trace .boot packetRun, ∃ pc bin pkt,
      e.input = .net (.message pc (.binary bin)) ∧ pkt.toBytes <+: bin ∧
        packetOf (fun _ => 0) (packetDict halfRight) = pkt ∧
        ∀ s, nearcadeSubmitGamepad s (some (packetOf (fun _ => 0) (packetDict halfRight))) =
          Input.inputSubmitGamepad s.inp (some pkt) :=
  have hd : eventDict (.inputPacket halfRight []) ∈
      polled ((godot id fun _ => 0).trace .boot packetRun) := by
    rw [(queue_run _ _ _ _).2]
    exact List.mem_map_of_mem (by decide +kernel)
  polled_packet id (fun _ => 0) packetRun hd rfl

end Godot

end Nearcade
