import Nearcade.Handshake.Incoming
import Nearcade.Signaling.Sessions

/-!
# Handshake — Applied

`webrtc_handle_signaling` answers `NEARCADE_OK` for a message it has applied: one call on the
PeerConnection of the viewer's session, with the whole payload.

* `handle_eq`: the function, once the session is found.
* `unescape_rest`: its loops end at a quote or at the end of the text, and it does not ask which.
* `applied_iff`: the answer is right, and a malformed message left alone, unless an offer comes for
  a session, or an answer or candidate that is cut before its closing quote.
-/

namespace Nearcade.Handshake
open Text
open Webrtc (messageType valueAfter unescape webrtcHandleSignaling applyPayload callAll)
open Service (target)

/-! ### What counts -/

/-- The PeerConnection of the session an id leads to. -/
def addressed (ov : Int → Int) (st : Webrtc.State) (vid : Bytes) : Option PcId :=
  match sscanf ov (bytes "viewer_") vid with
  | none => none
  | some idx => if idx < 0 then none else (Webrtc.sessionForViewer st idx).bind (·.pc)

/-- The calls on PeerConnections. -/
def pcCalls (fx : List Effect) : List RtcCall :=
  fx.filterMap fun
    | .rtc c => if (target c).isSome then some c else none
    | _ => none

/-- The loop that reads the payload stops at its closing quote. -/
def Complete (value : Bytes) : Prop := ∃ r, (unescape value).2 = 34 :: r

/-- The one call made on a PeerConnection is on that of the viewer's session, with a complete
payload of the message, and throws or not. -/
def AppliedOnce (throws : RtcCall → Bool) (pc : Option PcId) (data : Bytes) (fx : List Effect)
    (thrown : Bool) : Prop :=
  ∃ p k value, pc = some p ∧ valueAfter (Payload.key k) data = some value ∧ Complete value ∧
    pcCalls fx = [k.apply p (unescape value).1] ∧
    throws (k.apply p (unescape value).1) = thrown

/-- `NEARCADE_OK` means that the message was applied; and where it is an error, no PeerConnection
was called, except for the call that threw. -/
def Answers (ov : Int → Int) (throws : RtcCall → Bool) (st : Webrtc.State) (vid data : Bytes) :
    Prop :=
  let r := webrtcHandleSignaling ov throws st (some vid) (some data)
  (r.1 = .ok ↔ AppliedOnce throws (addressed ov st vid) data r.2 false) ∧
    (r.1 ≠ .ok → pcCalls r.2 = [] ∨ AppliedOnce throws (addressed ov st vid) data r.2 true)

/-- No offer comes for a session; and where an answer or a candidate does, its payload is complete
or is refused by the constructor. -/
def WellFormed (ov : Int → Int) (throws : RtcCall → Bool) (st : Webrtc.State) (vid data : Bytes) :
    Prop :=
  ∀ p, addressed ov st vid = some p → messageType data ≠ some .offer ∧
    ∀ k : Payload, messageType data = some k.branch →
      ∀ value, valueAfter k.key data = some value →
        Complete value ∨ throws (k.call (unescape value).1) = true

/-! ### The function -/

/-- **The loop ends at a quote, or at the end of the text.** -/
theorem unescape_rest (t : Bytes) : (unescape t).2 = [] ∨ Complete t := by
  induction t using Webrtc.unescape.induct with
  | case1 => exact .inl rfl
  | case2 => exact .inr ⟨[], rfl⟩
  | case3 c h => exact .inl (by simp [unescape, h])
  | case4 d p => exact .inr ⟨d :: p, rfl⟩
  | case5 c d p h₁ h₂ ih =>
      obtain ⟨rfl, rfl⟩ := h₂
      rw [Complete, unescape_quote]
      exact ih
  | case6 c d p h₁ h₂ ih =>
      rw [Complete, unescape, if_neg h₁, if_neg h₂]
      exact ih

/-- An answer or a candidate, for a session. -/
def applyTo (throws : RtcCall → Bool) (p : PcId) (data : Bytes) (k : Payload) :
    NearcadeError × List Effect :=
  applyPayload throws (valueAfter k.key data) fun s => [k.call s, k.apply p s]

/-- **`webrtc_handle_signaling`, once the session is found.** -/
theorem handle_eq (ov : Int → Int) (throws : RtcCall → Bool) (st : Webrtc.State)
    (vid data : Bytes) :
    webrtcHandleSignaling ov throws st (some vid) (some data) =
      match addressed ov st vid with
      | none => (.errInvalidArg, [])
      | some p =>
          match messageType data with
          | none => (.errInvalidArg, [])
          | some .answer => applyTo throws p data .answer
          | some .ice => applyTo throws p data .ice
          | some .offer => (.ok, []) := by
  simp only [webrtcHandleSignaling, addressed]
  cases sscanf ov (bytes "viewer_") vid with
  | none => rfl
  | some idx =>
      simp only
      split
      · rfl
      · rfl

theorem pcCalls_call (k : Payload) (s : Bytes) : pcCalls [.rtc (k.call s)] = [] := by
  cases k <;> rfl

theorem pcCalls_both (k : Payload) (p : PcId) (s : Bytes) :
    pcCalls [.rtc (k.call s), .rtc (k.apply p s)] = [k.apply p s] := by
  cases k <;> rfl

theorem Payload.apply_injective {k k' : Payload} {p p' : PcId} {s s' : Bytes}
    (h : k.apply p s = k'.apply p' s') : k = k' := by
  cases k <;> cases k' <;> first | rfl | cases h

/-- **What the two calls can do**: the constructor throws, or the call does, or neither. -/
theorem applyTo_cases (throws : RtcCall → Bool) (p : PcId) {data : Bytes} {k : Payload}
    {value : Bytes} (hv : valueAfter k.key data = some value) :
    (throws (k.call (unescape value).1) = true ∧ applyTo throws p data k =
        (.errNetwork, [.rtc (k.call (unescape value).1)])) ∨
    (throws (k.call (unescape value).1) = false ∧
      throws (k.apply p (unescape value).1) = true ∧ applyTo throws p data k =
        (.errNetwork, [.rtc (k.call (unescape value).1), .rtc (k.apply p (unescape value).1)])) ∨
    (throws (k.call (unescape value).1) = false ∧
      throws (k.apply p (unescape value).1) = false ∧ applyTo throws p data k =
        (.ok, [.rtc (k.call (unescape value).1), .rtc (k.apply p (unescape value).1)])) := by
  simp only [applyTo, hv, applyPayload, callAll]
  cases h₁ : throws (k.call (unescape value).1) with
  | true => exact .inl ⟨rfl, rfl⟩
  | false =>
      cases h₂ : throws (k.apply p (unescape value).1) with
      | true => exact .inr (.inl ⟨rfl, rfl, rfl⟩)
      | false => exact .inr (.inr ⟨rfl, rfl, rfl⟩)

/-- The one call of a branch counts just when the payload is complete. -/
theorem appliedOnce_iff {throws : RtcCall → Bool} {p : PcId} {data : Bytes} {k : Payload}
    {value : Bytes} (hv : valueAfter k.key data = some value) {fx : List Effect}
    (hfx : pcCalls fx = [k.apply p (unescape value).1]) {b : Bool} :
    AppliedOnce throws (some p) data fx b ↔
      Complete value ∧ throws (k.apply p (unescape value).1) = b := by
  constructor
  · rintro ⟨p', k', value', -, hv', hc, hcall, ht⟩
    rw [hfx] at hcall
    have he := (List.cons.inj hcall).1
    obtain rfl := Payload.apply_injective he
    obtain rfl := Option.some.inj (hv.symm.trans hv')
    rw [he]
    exact ⟨hc, ht⟩
  · rintro ⟨hc, ht⟩
    exact ⟨p, k, value, rfl, hv, hc, hfx, ht⟩

theorem not_appliedOnce {throws : RtcCall → Bool} {pc : Option PcId} {data : Bytes}
    {fx : List Effect} {b : Bool} (h : pcCalls fx = []) : ¬ AppliedOnce throws pc data fx b := by
  rintro ⟨p, k, value, -, -, -, hcall, -⟩
  rw [h] at hcall
  cases hcall

/-- Of a branch, the answer is right just when the payload is complete or refused. -/
theorem applyTo_answers {throws : RtcCall → Bool} {p : PcId} {data : Bytes} {k : Payload} :
    (((applyTo throws p data k).1 = .ok ↔
        AppliedOnce throws (some p) data (applyTo throws p data k).2 false) ∧
      ((applyTo throws p data k).1 ≠ .ok → pcCalls (applyTo throws p data k).2 = [] ∨
        AppliedOnce throws (some p) data (applyTo throws p data k).2 true)) ↔
    ∀ value, valueAfter k.key data = some value →
      Complete value ∨ throws (k.call (unescape value).1) = true := by
  cases hv : valueAfter k.key data with
  | none =>
      have he : applyTo throws p data k = (.errInvalidArg, []) := by rw [applyTo, hv, applyPayload]
      rw [he]
      exact iff_of_true ⟨iff_of_false (by simp) (not_appliedOnce rfl), fun _ => .inl rfl⟩
        fun value h => by cases h
  | some value =>
      rcases applyTo_cases throws p hv with
        ⟨h₁, e⟩ | ⟨h₁, h₂, e⟩ | ⟨h₁, h₂, e⟩ <;> rw [e]
      · -- the constructor throws
        have hno := pcCalls_call k (unescape value).1
        refine iff_of_true ⟨iff_of_false (by simp) (not_appliedOnce hno), fun _ => .inl hno⟩ ?_
        rintro _ ⟨⟩
        exact .inr h₁
      · have hone := pcCalls_both k p (unescape value).1
        simp [appliedOnce_iff hv hone, h₁, h₂, hone]
      · have hone := pcCalls_both k p (unescape value).1
        simp [appliedOnce_iff hv hone, h₁, h₂]

/-- **When the answer to a message is right.**  For every session table, id and message, whatever
throws: unless an offer comes for a session, or an answer or a candidate whose payload is cut before
its closing quote and that the constructor takes all the same. -/
theorem applied_iff (ov : Int → Int) (throws : RtcCall → Bool) (st : Webrtc.State)
    (vid data : Bytes) :
    Answers ov throws st vid data ↔ WellFormed ov throws st vid data := by
  simp only [Answers, WellFormed, handle_eq]
  cases ha : addressed ov st vid with
  | none =>
      refine iff_of_true ⟨iff_of_false (by simp) (not_appliedOnce rfl), fun _ => .inl rfl⟩ ?_
      rintro p ⟨⟩
  | some p =>
      have hpayload (k : Payload) : (∀ p', some p = some p' → some k.branch ≠ some .offer ∧
          ∀ k' : Payload, some k.branch = some k'.branch → ∀ value,
            valueAfter k'.key data = some value →
              Complete value ∨ throws (k'.call (unescape value).1) = true) ↔
          ∀ value, valueAfter k.key data = some value →
            Complete value ∨ throws (k.call (unescape value).1) = true := by
        constructor
        · intro h
          exact (h p rfl).2 k rfl
        · rintro h p' -
          refine ⟨by cases k <;> simp [Payload.branch], fun k' hk => ?_⟩
          obtain rfl := Payload.branch_injective (Option.some.inj hk)
          exact h
      cases hm : messageType data with
      | none =>
          refine iff_of_true ⟨iff_of_false (by simp) (not_appliedOnce rfl), fun _ => .inl rfl⟩ ?_
          rintro p' -
          exact ⟨by simp, fun k hk => by cases hk⟩
      | some T =>
          cases T with
          | answer => exact applyTo_answers.trans (hpayload .answer).symm
          | ice => exact applyTo_answers.trans (hpayload .ice).symm
          | offer =>
              -- success, and no call
              refine iff_of_false (fun h => ?_) fun h => (h p rfl).1 rfl
              exact not_appliedOnce rfl (h.1.mp rfl)

/-- An offer for a session is answered with success and left alone; and so an answer without its
closing quote is applied. -/
theorem offer_answered_ok :
    let st := World.oneViewer.sdk.rtc
    let vid := viewerId 0
    ¬ Answers id (fun _ => false) st vid (bytes "\x7b\"type\":\"offer\",\"sdp\":\"v=0\"\x7d") ∧
      ¬ Answers id (fun _ => false) st vid (bytes "\x7b\"type\":\"answer\",\"sdp\":\"v=0") := by
  intro st vid
  have haddr : addressed id st vid = some 0 := by decide +kernel
  constructor
  · intro h
    have hr : webrtcHandleSignaling id (fun _ => false) st (some vid)
        (some (bytes "\x7b\"type\":\"offer\",\"sdp\":\"v=0\"\x7d")) = (.ok, []) := by
      decide +kernel
    simp only [Answers, hr, haddr] at h
    exact not_appliedOnce rfl (h.1.mp trivial)
  · intro h
    have hr : webrtcHandleSignaling id (fun _ => false) st (some vid)
        (some (bytes "\x7b\"type\":\"answer\",\"sdp\":\"v=0")) =
          (.ok, [.rtc (Payload.call (bytes "v=0") .answer),
            .rtc (Payload.apply 0 (bytes "v=0") .answer)]) := by
      decide +kernel
    have hv : valueAfter (Payload.key .answer) (bytes "\x7b\"type\":\"answer\",\"sdp\":\"v=0") =
        some (bytes "v=0") := by decide
    simp only [Answers, hr, haddr] at h
    obtain ⟨⟨r, hrest⟩, -⟩ := (appliedOnce_iff hv (pcCalls_both .answer 0 _)).mp (h.1.mp trivial)
    have hnone : (unescape (bytes "v=0")).2 = [] := by decide
    rw [hnone] at hrest
    cases hrest

end Nearcade.Handshake
