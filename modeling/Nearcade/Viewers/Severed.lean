import Nearcade.System.Events
import Nearcade.Viewers.Disabled

/-!
# Viewers — Severed

What `nearcade_disconnect_viewer` leaves of a viewer.  It frees the slot and the entry of
`g_state.viewers`; the session of its index, its WebSocket connection and its data channel are in
other modules, which the call does not reach.

* `disconnect_severs_nothing`: the session is there when the call returns, and stays until its
  connection is closed or the SDK is shut down or started again.
-/

namespace Nearcade
open Text Runs

/-! ### A viewer that is gone -/

/-- The step gives an index to a new connection. -/
def Takes (i : Fin maxViewers) (w : World) : PlayStep → Prop
  | .sdk (.net (.established wsi uri stack)) =>
      (Signaling.established w.sdk.sig wsi (Signaling.lwsHdrCopy uri stack)).2 = some i
  | _ => False

/-- After the steps `t` nothing is left of the viewer that had an index before them, in `w`. -/
structure Gone (i : Fin maxViewers) (w : World) (t : List (Entry World PlayStep Effect))
    (w' : World) : Prop where
  session : ∀ sess ∈ w'.sdk.rtc.gSessions, sess.viewerIdx ≠ (i.val : Int)
  frames : ∀ e ∈ t, ∀ track frame, .trackSend track frame ∈ e.out →
    w.sdk.rtc.captured track ≠ some (i.val : Int)
  /-- Messages that come on its connection before that is closed are not applied. -/
  socket : ∀ t₁ e wsi input throws, t₁ ++ [e] <+: t →
    e.input = .sdk (.net (.receive wsi input throws)) → w.sdk.sig.gViewerWs i = some wsi →
      (∀ e' ∈ t₁, e'.input ≠ .sdk (.net (.closed wsi))) → ∀ c, .rtc c ∉ e.out
  channel : ∀ e ∈ t, ∀ pc msg, e.input = .sdk (.net (.message pc msg)) →
    w.sdk.rtc.captured pc = some (i.val : Int) →
      writes e.out = [] ∧ ∀ pkt vid, .inputPacket pkt vid ∉ fired e.out

/-- From `w'` on nothing is left of the viewer that had the index in `w`, whatever happens before
another one takes it. -/
def Severed (ov : Int → Int) (i : Fin maxViewers) (w w' : World) : Prop :=
  ∀ is, (playing ov).Valid w' is → (∀ e ∈ (playing ov).trace w' is, ¬ Takes i e.pre e.input) →
    Gone i w ((playing ov).trace w' is) ((playing ov).final w' is)

/-! ### The session stays -/

/-- The step ends the session of an index: its connection is closed, or the SDK is shut down or
started again. -/
def Ends (i : Fin maxViewers) (w : World) : PlayStep → Prop
  | .sdk (.call c) => ¬ c.Operates
  | .sdk (.net (.closed wsi)) => (Signaling.closed w.sdk.sig wsi).2 = some i
  | _ => False

/-- Erasing finds nothing else. -/
theorem find?_eraseP_of_disjoint {α : Type*} {p q : α → Bool} (h : ∀ x, q x = true → p x = false)
    (l : List α) : (l.eraseP p).find? q = l.find? q := by
  induction l with
  | nil => rfl
  | cons x l ih =>
      by_cases hp : p x = true
      · have hq : ¬ q x = true := fun hq => Bool.false_ne_true ((h x hq).symm.trans hp)
        rw [List.eraseP_cons_of_pos hp, List.find?_cons_of_neg hq]
      · rw [List.eraseP_cons_of_neg hp]
        by_cases hq : q x = true
        · rw [List.find?_cons_of_pos hq, List.find?_cons_of_pos hq]
        · rw [List.find?_cons_of_neg hq, List.find?_cons_of_neg hq, ih]

/-- `webrtc_viewer_left` for another index. -/
theorem sessionForViewer_left {st : Webrtc.State} {i j : Int} (h : i ≠ j) :
    Webrtc.sessionForViewer (Webrtc.webrtcViewerLeft st j) i = Webrtc.sessionForViewer st i := by
  refine find?_eraseP_of_disjoint (fun sess hs => ?_) _
  rw [decide_eq_true_eq] at hs
  rw [decide_eq_false_iff_not, hs]
  exact h

/-- A new session comes after those that are there. -/
theorem sessionForViewer_create {st : Webrtc.State} {i : Int} {sess : Webrtc.WebrtcSession}
    (h : Webrtc.sessionForViewer st i = some sess) (j : Int) :
    Webrtc.sessionForViewer (Webrtc.createSession st j) i = some sess := by
  show (st.gSessions ++ [_]).find? _ = _
  rw [List.find?_append]
  exact Option.or_eq_some_iff.mpr (.inl h)

section
variable {ov : Int → Int} {w : World} {i : Fin maxViewers} {sess : Webrtc.WebrtcSession}

/-- **A step that does not end the session leaves it.** -/
theorem sessionForViewer_next (h : Webrtc.sessionForViewer w.sdk.rtc (i.val : Int) = some sess)
    {s : PlayStep} (he : ¬ Ends i w s) :
    Webrtc.sessionForViewer ((playing ov).next w s).sdk.rtc (i.val : Int) = some sess := by
  cases s with
  | table t => exact h
  | sdk s =>
      cases s with
      | call c =>
          obtain ⟨-, hrtc, -⟩ := Call.Operates.frame ov w.sdk (not_not.mp he)
          exact (congrArg (Webrtc.sessionForViewer · _) hrtc).trans h
      | net n =>
          show Webrtc.sessionForViewer (n.run ov w.sdk).1.rtc _ = _
          cases n with
          | closed wsi =>
              show Webrtc.sessionForViewer (callbackClosed w.sdk wsi).rtc _ = _
              rcases callbackClosed_rtc w.sdk wsi with e | ⟨j, hj, e⟩ <;> rw [e]
              · exact h
              · -- the connection is another viewer's
                refine (sessionForViewer_left fun hij => he ?_).trans h
                exact hj.trans (congrArg some (idx_inj hij).symm)
          | established wsi uri stack =>
              show Webrtc.sessionForViewer (callbackEstablished w.sdk wsi uri stack).rtc _ = _
              rcases callbackEstablished_rtc w.sdk wsi uri stack with
                e | ⟨j, -, e⟩ <;> rw [e]
              · exact h
              · exact sessionForViewer_create h _
          | stateChange _ _ | receive _ _ _ | localDescription _ _ _ _ | localCandidate _ _ _
          | message _ _ => exact h

/-- So does a run of such steps. -/
theorem sessionForViewer_final {w : World}
    (h : Webrtc.sessionForViewer w.sdk.rtc (i.val : Int) = some sess) {is : List PlayStep}
    (hv : (playing ov).Valid w is)
    (he : ∀ e ∈ (playing ov).trace w is, ¬ Ends i e.pre e.input) :
    Webrtc.sessionForViewer ((playing ov).final w is).sdk.rtc (i.val : Int) = some sess :=
  Machine.invariant_of
    (I := fun w => Webrtc.sessionForViewer w.sdk.rtc (i.val : Int) = some sess)
    (C := fun w s => ¬ Ends i w s) h (fun _ _ h _ he => sessionForViewer_next h he) hv he

/-! ### `nearcade_disconnect_viewer` -/

/-- The entry goes. -/
theorem findViewer_disconnect {s : State} {id : Bytes}
    (h : ∃! k, (s.g.viewers k).active = true ∧ cstr (s.g.viewers k).id = id) :
    findViewer (nearcadeDisconnectViewer s (some id)).2.1.g id = none := by
  obtain ⟨k, -, huniq⟩ := h
  have hnone : ∀ j, (s.g.viewers j).active = true → cstr (s.g.viewers j).id = id → j = k :=
    fun j ha hid => huniq j ⟨ha, hid⟩
  simp only [nearcadeDisconnectViewer]
  cases hf : findViewer s.g id with
  | none => exact hf
  | some j =>
      have hj := (firstIdx_eq_some_iff.mp hf).1
      simp only [Bool.and_eq_true, decide_eq_true_eq] at hj
      refine firstIdx_eq_none_iff.mpr fun l => ?_
      by_cases e : l = j
      · subst e
        simp
      · -- another entry has another id
        have hl : (s.g.viewers l).active = true → cstr (s.g.viewers l).id ≠ id := fun ha hid =>
          e ((hnone l ha hid).trans (hnone j hj.1 hj.2).symm)
        simpa [Function.update_of_ne e] using hl

/-- **`nearcade_disconnect_viewer` severs no viewer.**  It returns `NEARCADE_OK`, and the viewer's
entry is gone; its session stays. -/
theorem disconnect_severs_nothing (ov : Int → Int) {w : World} {i : Fin maxViewers}
    (hone : ∃! k, (w.sdk.g.viewers k).active = true ∧
      cstr (w.sdk.g.viewers k).id = viewerId (i.val : Int))
    (hs : Webrtc.sessionForViewer w.sdk.rtc (i.val : Int) = some sess) :
    let r := nearcadeDisconnectViewer w.sdk (some (viewerId (i.val : Int)))
    let w' : World := ⟨r.2.1, w.live⟩
    r.1 = .ok ∧ findViewer w'.sdk.g (viewerId (i.val : Int)) = none ∧ ¬ Severed ov i w w' ∧
      ∀ is, (playing ov).Valid w' is → (∀ e ∈ (playing ov).trace w' is, ¬ Ends i e.pre e.input) →
        Webrtc.sessionForViewer ((playing ov).final w' is).sdk.rtc (i.val : Int) = some sess := by
  intro r w'
  have hok : r.1 = .ok := by
    simp only [r, nearcadeDisconnectViewer]
    split <;> rfl
  have hrtc : w'.sdk.rtc = w.sdk.rtc :=
    (Call.Operates.frame ov w.sdk (c := .disconnectViewer (some (viewerId (i.val : Int))))
      trivial).2.1
  have hs' : Webrtc.sessionForViewer w'.sdk.rtc (i.val : Int) = some sess := hrtc ▸ hs
  refine ⟨hok, findViewer_disconnect hone, fun h => ?_, fun is hv he =>
    sessionForViewer_final hs' hv he⟩
  -- the session is there when the call returns
  have hgone := h [] trivial fun _ he => absurd he List.not_mem_nil
  have hidx := List.find?_some hs'
  exact hgone.session sess (List.mem_of_find?_eq_some hs') (by simpa using hidx)

/-- The viewer of `World.registered` is disconnected. -/
theorem disconnect_severs_nothing_registered :
    let w := World.registered
    let r := nearcadeDisconnectViewer w.sdk (some (viewerId 0))
    let w' : World := ⟨r.2.1, w.live⟩
    let sess : Webrtc.WebrtcSession := ⟨some 0, some 0, some 0, 0, false⟩
    r.1 = .ok ∧ findViewer w'.sdk.g (viewerId 0) = none ∧ ¬ Severed id 0 w w' ∧
      ∀ is, (playing id).Valid w' is → (∀ e ∈ (playing id).trace w' is, ¬ Ends 0 e.pre e.input) →
        Webrtc.sessionForViewer ((playing id).final w' is).sdk.rtc 0 = some sess := by
  have hone : ∃! k, (World.registered.sdk.g.viewers k).active = true ∧
      cstr (World.registered.sdk.g.viewers k).id = viewerId ((0 : Fin maxViewers).val : Int) := by
    refine ⟨0, by decide +kernel, ?_⟩
    decide +kernel
  exact disconnect_severs_nothing id hone (by decide +kernel)

/-- It is disconnected; its packets and its messages go on. -/
theorem registered_not_severed :
    let w := World.registered
    let r := nearcadeDisconnectViewer w.sdk (some (viewerId 0))
    let w' : World := ⟨r.2.1, w.live⟩
    let answer := bytes "\x7b\"type\":\"answer\",\"sdp\":\"v=0\"\x7d"
    let packet : PlayStep := .sdk (.net (.message 0 (.binary (List.replicate 16 0))))
    let message : PlayStep := .sdk (.net (.receive 7 answer fun _ => false))
    (playing id).Valid w' [packet, message] ∧
      fired ((playing id).out w' packet) ≠ [] ∧
      .rtc (.setRemoteDescription 0 (bytes "v=0") (bytes "answer")) ∈ (playing id).out w' message ∧
      ¬ Severed id 0 w w' := by
  intro w r w' answer packet message
  have hv : (playing id).Valid w' [packet, message] := by decide +kernel
  have hp : ∃ pkt vid, .inputPacket pkt vid ∈ fired ((playing id).out w' packet) :=
    ⟨⟨0, 0, 0, 0, 0, 0, 0, 0, 0, 0, 0⟩, [], by decide +kernel⟩
  refine ⟨hv, by decide +kernel, by decide +kernel, fun h => ?_⟩
  have hgone := h [packet, message] hv (by simp [Machine.trace, packet, message, Takes])
  obtain ⟨pkt, vid, hmem⟩ := hp
  exact (hgone.channel _ (List.mem_cons_self ..) 0 _ rfl (by decide +kernel)).2 pkt vid hmem

end

end Nearcade
