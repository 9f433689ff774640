import Nearcade.System.Events

/-!
# Lanes — Attribution

What a host learns of its players' input.  A message of a viewer's data channel that holds a
packet becomes one INPUT_PACKET event (`Started.inputsOf`), which a host tells from those of other
players by its `viewer_id`.

* `attributed_iff`: the id is always empty, so the events are those of their senders just when
  nobody sends a packet.
-/

namespace Nearcade
open Text Runs

/-! ### Packets -/

/-- A message holds a packet just when it has its sixteen bytes. -/
theorem NearcadeGamepadPacket.ofBytes_eq_none {bin : Bytes} :
    ofBytes bin = none ↔ bin.length < 16 := by
  iterate 16
    rcases bin with _ | ⟨_, bin⟩
    · exact iff_of_true rfl (by simp)
  exact iff_of_false (by simp [ofBytes]) (by simp)

/-- The packets decoded from the messages of a viewer, in order. -/
def sentBy (t : Trace) (i : Int) : List NearcadeGamepadPacket :=
  (t.filterMap decoded).filterMap fun r => if r.1 = i then some r.2 else none

/-! ### INPUT_PACKET events -/

/-- The packet of an INPUT_PACKET event with an id. -/
def inputMark (id : Bytes) : NearcadeEvent → Option NearcadeGamepadPacket
  | .inputPacket pkt vid => if vid = id then some pkt else none
  | _ => none

/-- The packets of the INPUT_PACKET events with an id, in order. -/
def inputsOf (t : Trace) (id : Bytes) : List NearcadeGamepadPacket :=
  (fired (outputs t)).filterMap (inputMark id)

/-- The INPUT_PACKET events with a viewer's id are the packets it sent, and there are none with
another id. -/
structure Attributed (t : Trace) : Prop where
  own : ∀ i : Fin maxViewers, inputsOf t (viewerId (i.val : Int)) = sentBy t (i.val : Int)
  noOther : ∀ id, (∀ i : Fin maxViewers, id ≠ viewerId (i.val : Int)) → inputsOf t id = []

/-- A step shows an application the packet it decodes, with no id. -/
theorem Tells.inputMark {e : Entry World Input Effect} {evs : List NearcadeEvent}
    (h : Tells e evs) (id : Bytes) :
    evs.filterMap (inputMark id) =
      ((decoded e).bind fun r => Nearcade.inputMark id (.inputPacket r.2 [])).toList := by
  cases h with
  | viewer r _ hd =>
      rw [hd]
      obtain ⟨idx, _ | _⟩ := r <;> rfl
  | packet r _ hd =>
      rw [hd, Option.bind_some, List.filterMap_cons]
      cases Nearcade.inputMark id (.inputPacket r.2 []) <;> rfl
  | other _ hd ho =>
      rw [hd]
      refine List.filterMap_eq_nil_iff.mpr fun ev hev => ?_
      cases ev with
      | inputPacket _ _ => exact (ho _ hev).elim
      | _ => rfl

section
variable {ov : Int → Int} {w : World} {is : List Input}

/-- **Every packet becomes one event, in order, with the empty id.** -/
theorem Started.inputsOf (h : Started ov w) (hv : (system ov).Valid w is) (id : Bytes) :
    Nearcade.inputsOf ((system ov).trace w is) id =
      (((system ov).trace w is).filterMap decoded).filterMap
        fun r => inputMark id (.inputPacket r.2 []) := by
  rw [List.filterMap_filterMap]
  exact h.filterMap_fired hv fun _ _ he => (tells_entry he).inputMark id

theorem nil_ne_viewerId (idx : Int) : [] ≠ viewerId idx := nofun

/-- The events are attributed just when no message holds a packet. -/
theorem Started.attributed_iff_decoded (h : Started ov w) (hv : (system ov).Valid w is) :
    Attributed ((system ov).trace w is) ↔ ((system ov).trace w is).filterMap decoded = [] := by
  constructor
  · -- a packet would show under the empty id
    intro ha
    have hnil := ha.noOther [] fun i => nil_ne_viewerId _
    rw [h.inputsOf hv] at hnil
    refine List.eq_nil_iff_forall_not_mem.mpr fun r hr => ?_
    exact absurd (List.filterMap_eq_nil_iff.mp hnil r hr) (by simp [inputMark])
  · intro hnil
    have hin : ∀ id, Nearcade.inputsOf ((system ov).trace w is) id = [] := fun id => by
      rw [h.inputsOf hv, hnil]
      rfl
    refine ⟨fun i => ?_, fun id _ => hin id⟩
    rw [hin, sentBy, hnil]
    rfl

/-- **The events are attributed to their senders just when every message is too short to hold a
packet.** -/
theorem attributed_iff (h : Started ov w) (hv : (system ov).Valid w is) :
    Attributed ((system ov).trace w is) ↔
      ∀ pc bin, Input.net (.message pc (.binary bin)) ∈ is → bin.length < 16 := by
  rw [h.attributed_iff_decoded hv, List.filterMap_eq_nil_iff]
  constructor
  · intro hd pc bin hi
    rw [← (system ov).map_input_trace w is] at hi
    obtain ⟨e, he, hei⟩ := List.mem_map.mp hi
    obtain ⟨-, hen, -⟩ := h.inv_trace hv he
    rw [hei] at hen
    obtain ⟨idx, hc⟩ := Webrtc.State.exists_captured hen
    simpa [decoded, hei, hc, NearcadeGamepadPacket.ofBytes_eq_none] using hd e he
  · intro hs e he
    simp only [decoded]
    split
    · rename_i pc bin hi
      have hmem : e.input ∈ is := by
        rw [← (system ov).map_input_trace w is]
        exact List.mem_map_of_mem he
      rw [NearcadeGamepadPacket.ofBytes_eq_none.mpr (hs pc bin (hi ▸ hmem))]
      cases e.pre.sdk.rtc.captured pc <;> rfl
    · rfl

end

/-- Two viewers whose messages are too short. -/
theorem attributed_iff_short :
    Attributed ((system id).trace .first
      [connect 7, connect 8, .net (.message 0 (.binary [1, 2, 3])),
       .net (.message 1 (.binary []))]) := by
  refine (attributed_iff (started_first id) (by decide +kernel)).mpr fun pc bin hi => ?_
  simp only [connect, List.mem_cons, Input.net.injEq, reduceCtorEq, Net.message.injEq,
    Webrtc.ChanMsg.binary.injEq, List.not_mem_nil, false_or, or_false] at hi
  obtain ⟨-, rfl⟩ | ⟨-, rfl⟩ := hi <;> decide

/-- The packet of a viewer comes with the empty id. -/
theorem packet_not_attributed :
    let run := reporting [.connecting, .connected] ++
      [.net (.message 0 (.binary (List.replicate 16 0)))]
    (system id).Valid .first run ∧ ¬ Attributed ((system id).trace .first run) := by
  refine ⟨by decide +kernel, fun h => ?_⟩
  exact absurd (h.own 0) (by decide +kernel)

end Nearcade
