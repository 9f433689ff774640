import Nearcade.System.Events

/-!
# Signaling — Delivery

libwebsockets passes a message on in one or more calls of `LWS_CALLBACK_RECEIVE`.  The SDK takes
each call for a message: it passes on what fits its buffer, and reports what fits the event.

* `callbackReceive_eq`: what one call does.
* `message_delivered_iff`: a message gets through whole, or not at all, just when it comes in one
  call and fits the event, and the routing callback is set, or when there is no call.
-/

namespace Nearcade
open Text Runs

/-- The calls of `g_msg_cb` that `LWS_CALLBACK_RECEIVE` makes: a viewer's id, and the string in
`rx_buf`. -/
def msgCbCalls (sig : Signaling.State) (wsi : Wsi) (input : Bytes) : List (Bytes × Bytes) :=
  match Signaling.senderOf sig wsi with
  | .viewer i =>
      if sig.gMsgCb then [(viewerId (i.val : Int), Signaling.rxBuf input)] else []
  | .host | .unknown => []

/-- **What `LWS_CALLBACK_RECEIVE` does**: `on_signaling_msg`, which calls `webrtc_handle_signaling`,
and the event. -/
theorem callbackReceive_eq (ov : Int → Int) (throws : RtcCall → Bool) (s : State) (wsi : Wsi)
    (input : Bytes) :
    callbackReceive ov throws s wsi input =
      ((msgCbCalls s.sig wsi input).flatMap fun c => onSignalingMsg ov throws s c.1 c.2) ++
        (Net.event s (.receive wsi input throws)).flatMap (fireEvent s.g) := by
  simp only [callbackReceive, msgCbCalls, Net.event]
  cases Signaling.senderOf s.sig wsi with
  | host | unknown => rfl
  | viewer i =>
      simp only [handleViewerMessage, List.flatMap_cons, List.flatMap_nil, List.append_nil]
      split <;> simp

/-- The calls of `webrtc_handle_signaling` in a run, with their arguments. -/
def handled (t : Trace) : List (Bytes × Bytes) :=
  t.flatMap fun e =>
    match e.input with
    | .net (.receive wsi input _) => msgCbCalls e.pre.sdk.sig wsi input
    | _ => []

/-- The events of a run. -/
def reported (t : Trace) : List NearcadeEvent := fired (outputs t)

/-- A viewer's message is handled and reported once, as it is; or neither. -/
def Delivered (t : Trace) (vid m : Bytes) : Prop :=
  (handled t = [(vid, m)] ∧ reported t = [.signaling vid m]) ∨ (handled t = [] ∧ reported t = [])

/-- A connection sends a text in parts, each with what throws while it is handled. -/
def sends (wsi : Wsi) (parts : List (Bytes × (RtcCall → Bool))) : List Input :=
  parts.map fun p => .net (.receive wsi p.1 p.2)

/-! ### One part -/

/-- Of a part without NULs, `rx_buf` holds all that fits. -/
theorem rxBuf_eq {c : Bytes} (h : 0 ∉ c) : Signaling.rxBuf c = c.take 4095 := by
  have hcut := cstr_padded (fun hm => h (List.mem_of_mem_take hm)) 0 (s := c.take 4095)
  rwa [List.replicate_zero, List.append_nil] at hcut

/-- The event of one part. -/
theorem fired_receive {ov : Int → Int} (throws : RtcCall → Bool) (s : State) (wsi : Wsi)
    (input : Bytes) :
    fired (callbackReceive ov throws s wsi input) = Net.event s (.receive wsi input throws) := by
  have hcalls : ∀ cs : List (Bytes × Bytes),
      fired (cs.flatMap fun c => onSignalingMsg ov throws s c.1 c.2) = [] := fun cs => by
    have hw : Within [.rtc] (cs.flatMap fun c => onSignalingMsg ov throws s c.1 c.2) := fun e he =>
      let ⟨_, _, hc⟩ := List.mem_flatMap.mp he
      Webrtc.within_handleSignaling e hc
    exact hw.fired (by simp)
  rw [callbackReceive_eq, fired_append, hcalls, List.nil_append]
  simp only [Net.event]
  cases Signaling.senderOf s.sig wsi <;> rfl

section
variable {ov : Int → Int} {w : World} {wsi : Wsi} {i : Fin maxViewers}

theorem valid_sends (hlive : wsi ∈ w.live) (parts : List (Bytes × (RtcCall → Bool))) :
    (system ov).Valid w (sends wsi parts) := by
  induction parts with
  | nil => trivial
  | cons p parts ih => exact ⟨hlive, ih⟩

/-- Each part of a viewer's text is handled by itself. -/
theorem handled_sends (hi : Signaling.senderOf w.sdk.sig wsi = .viewer i)
    (parts : List (Bytes × (RtcCall → Bool))) :
    handled ((system ov).trace w (sends wsi parts)) =
      if w.sdk.sig.gMsgCb then
        parts.map fun p => (viewerId (i.val : Int), Signaling.rxBuf p.1)
      else [] := by
  induction parts with
  | nil => simp [sends, Machine.trace, handled]
  | cons p parts ih =>
      have hone : msgCbCalls w.sdk.sig wsi p.1 =
          if w.sdk.sig.gMsgCb then [(viewerId (i.val : Int), Signaling.rxBuf p.1)] else [] := by
        rw [msgCbCalls, hi]
      have hcons : handled ((system ov).trace w (sends wsi (p :: parts))) =
          msgCbCalls w.sdk.sig wsi p.1 ++ handled ((system ov).trace w (sends wsi parts)) := rfl
      rw [hcons, ih, hone]
      split <;> rfl

/-- Each part is reported by itself. -/
theorem reported_sends (hi : Signaling.senderOf w.sdk.sig wsi = .viewer i)
    (parts : List (Bytes × (RtcCall → Bool))) :
    reported ((system ov).trace w (sends wsi parts)) =
      parts.map fun p =>
        Signaling.signalingEvent (viewerId (i.val : Int)) (Signaling.rxBuf p.1) := by
  induction parts with
  | nil => rfl
  | cons p parts ih =>
      have hcons : reported ((system ov).trace w (sends wsi (p :: parts))) =
          fired (callbackReceive ov p.2 w.sdk wsi p.1 ++
            outputs ((system ov).trace w (sends wsi parts))) := rfl
      have hevent : Net.event w.sdk (.receive wsi p.1 p.2) =
          [Signaling.signalingEvent (viewerId (i.val : Int)) (Signaling.rxBuf p.1)] := by
        rw [Net.event, hi]
      rw [hcons, fired_append, fired_receive, hevent]
      exact congrArg _ ih

/-! ### The message -/

/-- **When a viewer's message is delivered whole or not at all.**  However the text is split, that
is so just when there is no call, or a single one, of a text that fits the event, with the routing
callback set. -/
theorem message_delivered_iff (hlive : wsi ∈ w.live)
    (hi : Signaling.senderOf w.sdk.sig wsi = .viewer i) {m : Bytes} (hm : 0 ∉ m)
    {parts : List (Bytes × (RtcCall → Bool))} (hparts : (parts.map Prod.fst).flatten = m) :
    (system ov).Valid w (sends wsi parts) ∧
    (Delivered ((system ov).trace w (sends wsi parts)) (viewerId (i.val : Int)) m ↔
      parts = [] ∨
        w.sdk.sig.gMsgCb = true ∧ parts.map Prod.fst = [m] ∧ m.length ≤ 2047) := by
  refine ⟨valid_sends hlive parts, ?_⟩
  rw [Delivered, handled_sends hi, reported_sends hi]
  match parts with
  | [] => exact iff_of_true (.inr (by simp)) (.inl rfl)
  | [(c, throws)] =>
      -- the one call gets the whole message
      obtain rfl : c = m := by simpa using hparts
      have hcut : ∀ n, c.take n = c ↔ c.length ≤ n := fun n => by simp
      simp only [List.map_cons, List.map_nil, rxBuf_eq hm, Signaling.signalingEvent, reduceCtorEq,
        false_or, and_false, or_false, true_and]
      by_cases hcb : w.sdk.sig.gMsgCb = true
      · simp only [hcb, if_true, List.cons.injEq, and_true, Prod.mk.injEq, true_and,
          NearcadeEvent.signaling.injEq, List.take_take, hcut]
        omega
      · simp [hcb]
  | p :: q :: parts =>
      -- two calls, so two events
      simp
end

/-- A message of one part. -/
theorem message_delivered_iff_whole :
    (system id).Valid .oneViewer (sends 7 [(bytes "\x7b\x7d", fun _ => false)]) ∧
    (Delivered ((system id).trace .oneViewer (sends 7 [(bytes "\x7b\x7d", fun _ => false)]))
      (viewerId 0) (bytes "\x7b\x7d") ↔
      [((bytes "\x7b\x7d"), (fun _ => false : RtcCall → Bool))] = [] ∨
        World.oneViewer.sdk.sig.gMsgCb = true ∧ [bytes "\x7b\x7d"] = [bytes "\x7b\x7d"] ∧
          (bytes "\x7b\x7d").length ≤ 2047) :=
  message_delivered_iff (i := 0) (by decide +kernel) (by decide +kernel) (by decide) rfl

/-- A message that comes in two parts is handled as two. -/
theorem split_message_not_delivered :
    let m := bytes "\x7b\"type\":\"offer\"\x7d"
    let parts : List (Bytes × (RtcCall → Bool)) :=
      [(m.take 4, fun _ => false), (m.drop 4, fun _ => false)]
    Signaling.senderOf World.oneViewer.sdk.sig 7 = .viewer 0 ∧
      (system id).Valid .oneViewer (sends 7 parts) ∧ (parts.map Prod.fst).flatten = m ∧
      (∀ p ∈ parts, p.1.length ≤ 4096) ∧
      ¬ Delivered ((system id).trace .oneViewer (sends 7 parts)) (viewerId 0) m := by
  intro m parts
  have hi : Signaling.senderOf World.oneViewer.sdk.sig 7 = .viewer 0 := by decide +kernel
  refine ⟨hi, valid_sends (by decide +kernel) _, by decide, by decide, ?_⟩
  have hr : reported ((system id).trace .oneViewer (sends 7 parts)) = _ := reported_sends hi parts
  rintro (⟨-, h⟩ | ⟨-, h⟩) <;> rw [hr] at h <;> simp [parts] at h

end Nearcade
