import Nearcade.Lanes.Attribution

/-!
# Lanes — Packets

A viewer's data channel is for packets of sixteen bytes that begin with their kind, of which
`nearcade_internal.h` declares ten.  What a message does is decided by its length alone, from
below: the kind is never read, and what follows the sixteen bytes is dropped.

* `message_acts_iff`: the messages that act as gamepad input.
* `only_packets_act_iff`: when these are gamepad packets.
-/

namespace Nearcade
open Text Runs

/-- An effect of gamepad input: an event for a device, or an INPUT_PACKET event. -/
def Effect.IsGamepadInput : Effect → Prop
  | .inputEvent .. => True
  | .event _ _ (.inputPacket ..) => True
  | _ => False

/-- A message that is one gamepad packet. -/
def IsPacket (msg : Webrtc.ChanMsg) : Prop :=
  ∃ bin, msg = .binary bin ∧ bin.length = 16 ∧ bin.head? = some pktGamepad

/-- Some effect of a callback is one of gamepad input. -/
def Net.Acts (ov : Int → Int) (s : State) (n : Net) : Prop :=
  ∃ e ∈ (n.run ov s).2, e.IsGamepadInput

/-- **The messages that act as gamepad input**: all that are long enough. -/
theorem message_acts_iff (ov : Int → Int) (s : State) (pc : PcId) (msg : Webrtc.ChanMsg) :
    Net.Acts ov s (.message pc msg) ↔
      s.rtc.gInputCb = true ∧ ∃ bin, msg = .binary bin ∧ 16 ≤ bin.length := by
  simp only [Net.Acts, Net.run]
  cases msg with
  | string str => exact iff_of_false (by simp [Webrtc.onMessage]) (by simp)
  | binary bin =>
      simp only [Webrtc.onMessage]
      by_cases hcb : s.rtc.gInputCb = true
      · rw [if_pos hcb]
        cases hb : NearcadeGamepadPacket.ofBytes bin with
        | none =>
            have hshort := NearcadeGamepadPacket.ofBytes_eq_none.mp hb
            refine iff_of_false (by simp) ?_
            rintro ⟨-, bin', hbin, hlen⟩
            obtain rfl := Webrtc.ChanMsg.binary.inj hbin
            omega
        | some pkt =>
            have hlong : 16 ≤ bin.length := by
              refine Nat.not_lt.mp fun hlt => ?_
              rw [NearcadeGamepadPacket.ofBytes_eq_none.mpr hlt] at hb
              cases hb
            refine iff_of_true ?_ ⟨hcb, bin, rfl, hlong⟩
            -- the event is fired whether the slot has a device or not
            exact ⟨_, List.mem_append_right _ (List.mem_singleton.mpr rfl), trivial⟩
      · rw [if_neg hcb]
        exact iff_of_false (by simp) fun h => hcb h.1

/-- **When only gamepad packets act as gamepad input.**  For every state of the SDK and every
message: if it acts, it is one gamepad packet, just when no input callback is set or the message is
a string, or shorter than a packet, or one gamepad packet. -/
theorem only_packets_act_iff (ov : Int → Int) (s : State) (pc : PcId) (msg : Webrtc.ChanMsg) :
    (Net.Acts ov s (.message pc msg) → IsPacket msg) ↔
      s.rtc.gInputCb = false ∨ (∃ str, msg = .string str) ∨
        (∃ bin, msg = .binary bin ∧ bin.length < 16) ∨ IsPacket msg := by
  rw [message_acts_iff]
  constructor
  · intro h
    cases msg with
    | string str => exact .inr (.inl ⟨str, rfl⟩)
    | binary bin =>
        by_cases hlen : bin.length < 16
        · exact .inr (.inr (.inl ⟨bin, rfl, hlen⟩))
        · cases hcb : s.rtc.gInputCb with
          | false => exact .inl rfl
          | true => exact .inr (.inr (.inr (h ⟨hcb, bin, rfl, Nat.not_lt.mp hlen⟩)))
  · rintro (hcb | ⟨str, rfl⟩ | ⟨bin, rfl, hlen⟩ | h) ⟨hcb', bin', hbin, hlen'⟩
    · rw [hcb] at hcb'
      cases hcb'
    · cases hbin
    · obtain rfl := Webrtc.ChanMsg.binary.inj hbin
      omega
    · exact h

/-- The SDK is started, and a viewer comes. -/
def oneViewer : List Input := [.call (.init none .good ⟨0, 0⟩), connect 7]

/-- A viewer moves a mouse. -/
theorem mouse_packet_acts : ¬∀ (ov : Int → Int) (w : World) (pc : PcId) (msg : Webrtc.ChanMsg),
    (system ov).Reachable .boot w → (system ov).enabled w (.net (.message pc msg)) →
      Net.Acts ov w.sdk (.message pc msg) → IsPacket msg := by
  intro h
  have hreach : (system id).Reachable .boot ((system id).final .boot oneViewer) :=
    ⟨oneViewer, by decide +kernel, rfl⟩
  have hact := (message_acts_iff id ((system id).final .boot oneViewer).sdk 0
    (.binary (pktMouseRel :: List.replicate 15 0))).mpr
      ⟨by decide +kernel, _, rfl, by decide⟩
  obtain ⟨bin, hbin, -, hhead⟩ := h id _ 0 _ hreach (by decide +kernel) hact
  rw [← Webrtc.ChanMsg.binary.inj hbin] at hhead
  exact absurd hhead (by decide)

end Nearcade
