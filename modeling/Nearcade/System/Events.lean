import Nearcade.System.Effects
import Nearcade.System.Invariants

/-!
# System — Events

The events an application gets, and what causes them.  Of the calls only
`nearcade_start_streaming` fires one, and each callback fires at most one (`Call.fired`,
`Net.fired`).

`Tells` sorts the events of one step: that of the state a PeerConnection reports, that of the
packet a message holds, or others (`tells_entry`).

The history of a run is read off its trace.  `joinLeft t id` are the VIEWER_JOINED and VIEWER_LEFT
events about an id, `reports t i` the states the PeerConnections made for an index have reported
that call for an event, both in order.

* `joinLeft_eq`, `joinLeft_eq_nil`: after a successful `nearcade_init` the events about `viewer_i`
  are the reports for `i`, one for one, and there are none about any other id.
-/

namespace Nearcade
open Text Runs

/-! ### What is fired -/

/-- The events among the effects. -/
def fired (fx : List Effect) : List NearcadeEvent :=
  fx.filterMap fun
    | .event _ _ ev => some ev
    | _ => none

@[simp] theorem fired_nil : fired [] = [] := rfl

@[simp] theorem fired_append (fx fx' : List Effect) : fired (fx ++ fx') = fired fx ++ fired fx' :=
  List.filterMap_append

@[simp] theorem fired_fireEvent (g : NearcadeState) (ev : NearcadeEvent) :
    fired (fireEvent g ev) = [ev] := rfl

/-- What does not reach the application fires nothing. -/
theorem Within.fired {ks : List Kind} {fx : List Effect} (h : Within ks fx)
    (hk : .application ∉ ks) : Nearcade.fired fx = [] :=
  h.filterMap fun e he => by
    cases e with
    | event cb ud ev => exact absurd he hk
    | _ => rfl

/-! ### What a call and a callback fire -/

section
variable {ov : Int → Int}

/-- The event of a call. -/
def Call.event : Call → List NearcadeEvent
  | .startStreaming => [.streaming 0]
  | _ => []

/-- **What a call fires.** -/
theorem Call.fired (s : State) (c : Call) : Nearcade.fired (c.run ov s).2 = c.event := by
  cases c with
  | startStreaming => rfl
  | _ => exact (Call.within ov s _).fired (by simp [Call.kinds])

/-- The report a PeerConnection's state makes: that the viewer is there, or that it has gone. -/
def report : Webrtc.PcState → Option Bool
  | .connected => some true
  | .disconnected | .failed | .closed => some false
  | .new | .connecting => none

/-- The index a PeerConnection reports a state for, and what it reports. -/
def reportBy (s : State) (pc : PcId) (state : Webrtc.PcState) : Option (Int × Bool) :=
  (s.rtc.captured pc).bind fun idx => (report state).map fun connected => (idx, connected)

/-- The event of a callback. -/
def Net.event (s : State) : Net → List NearcadeEvent
  | .established .. | .closed _ | .localDescription .. | .localCandidate .. => []
  | .receive wsi input _ =>
      match Signaling.senderOf s.sig wsi with
      | .host => [Signaling.signalingEvent (bytes "host") (Signaling.rxBuf input)]
      | .viewer i => [Signaling.signalingEvent (viewerId (i.val : Int)) (Signaling.rxBuf input)]
      | .unknown => []
  | .stateChange pc state =>
      ((reportBy s pc state).map fun r => viewerEvent r.1 r.2).toList
  | .message _ (.binary bin) =>
      ((NearcadeGamepadPacket.ofBytes bin).map (.inputPacket · [])).toList
  | .message _ (.string _) => []

/-- **What a callback fires**, where the WebRTC callbacks are set. -/
theorem Net.fired {s : State} (h : Wired s.rtc) (n : Net) :
    Nearcade.fired (n.run ov s).2 = n.event s := by
  cases n with
  | established | closed => rfl
  | receive wsi input throws =>
      simp only [Net.run, callbackReceive, Net.event]
      cases Signaling.senderOf s.sig wsi with
      | host | unknown => rfl
      | viewer i =>
          have hm : Within [.rtc] (onSignalingMsg ov throws s (viewerId (i.val : Int))
              (Signaling.rxBuf input)) := Webrtc.within_handleSignaling
          simp only [handleViewerMessage, fired_append, fired_fireEvent]
          split
          · rw [hm.fired (by simp)]
            rfl
          · rfl
  | stateChange pc state =>
      simp only [Net.run, Webrtc.onStateChange, Net.event, reportBy]
      cases s.rtc.captured pc with
      | none => rfl
      | some idx => cases state <;> simp [report, h.viewer, webrtcViewerState]
  | localDescription pc type sdp io | localCandidate pc cand io =>
      exact (Net.within ov s _).fired (by simp [Net.kinds])
  | message pc msg =>
      cases msg with
      | string str => rfl
      | binary bin =>
          simp only [Net.run, Webrtc.onMessage, h.input, if_true, Net.event]
          cases NearcadeGamepadPacket.ofBytes bin with
          | none => rfl
          | some pkt =>
              have hi : Within [.injection] (Input.inputSubmitGamepad s.inp (some pkt)).2 :=
                Input.within_submitGamepad
              simp only [webrtcReceivedInput, fired_append, hi.fired (by simp), fired_fireEvent]
              rfl

end

/-! ### The history of a run -/

/-- A trace of the SDK. -/
abbrev Trace := List (Entry World Input Effect)

/-- What an event says about a viewer: that it is there, or that it has gone. -/
def viewerMark (id : Bytes) : NearcadeEvent → Option Bool
  | .viewerJoined id' _ => if id' = id then some true else none
  | .viewerLeft id' => if id' = id then some false else none
  | _ => none

/-- The VIEWER_JOINED (`true`) and VIEWER_LEFT (`false`) events about an id. -/
def joinLeft (t : Trace) (id : Bytes) : List Bool := (fired (outputs t)).filterMap (viewerMark id)

/-- The report made in a step. -/
def reportOf (e : Entry World Input Effect) : Option (Int × Bool) :=
  match e.input with
  | .net (.stateChange pc state) => reportBy e.pre.sdk pc state
  | _ => none

/-- The report made for an index in a step. -/
def reportFor (i : Int) (e : Entry World Input Effect) : Option Bool :=
  (reportOf e).bind fun r => if r.1 = i then some r.2 else none

/-- The reports made by the PeerConnections of an index. -/
def reports (t : Trace) (i : Int) : List Bool := t.filterMap (reportFor i)

theorem reports_eq_filterMap (t : Trace) (i : Int) :
    reports t i = (t.filterMap reportOf).filterMap fun r => if r.1 = i then some r.2 else none :=
  List.filterMap_filterMap.symm

/-- The packet a viewer's message holds, with the index of the viewer. -/
def decoded (e : Entry World Input Effect) : Option (Int × NearcadeGamepadPacket) :=
  match e.input with
  | .net (.message pc (.binary bin)) =>
      (e.pre.sdk.rtc.captured pc).bind fun idx =>
        (NearcadeGamepadPacket.ofBytes bin).map fun pkt => (idx, pkt)
  | _ => none

theorem fired_outputs (t : Trace) : fired (outputs t) = t.flatMap fun e => fired e.out := by
  induction t with
  | nil => rfl
  | cons e t ih =>
      rw [outputs, List.flatMap_cons, fired_append, List.flatMap_cons]
      exact congrArg _ ih

/-- The event of a step. -/
def eventOf (s : State) : Input → List NearcadeEvent
  | .call c => c.event
  | .net n => n.event s

theorem fired_entry {ov : Int → Int} {e : Entry World Input Effect} (h : StartedInv e.pre)
    (ho : e.out = (system ov).out e.pre e.input) : fired e.out = eventOf e.pre.sdk e.input := by
  rw [ho]
  obtain ⟨w, i, o⟩ := e
  cases i with
  | call c => exact Call.fired w.sdk c
  | net n => exact Net.fired h.up n

/-- An event that is about no viewer's coming or going, and holds no packet. -/
def NearcadeEvent.Other : NearcadeEvent → Prop
  | .signaling .. | .streaming _ => True
  | .viewerJoined .. | .viewerLeft _ | .inputPacket .. => False

/-- The events of a step: that of the report it makes, that of the packet it decodes, or others. -/
inductive Tells (e : Entry World Input Effect) : List NearcadeEvent → Prop where
  | viewer (r : Int × Bool) (hr : reportOf e = some r) (hd : decoded e = none) :
      Tells e [viewerEvent r.1 r.2]
  | packet (r : Int × NearcadeGamepadPacket) (hr : reportOf e = none) (hd : decoded e = some r) :
      Tells e [.inputPacket r.2 []]
  | other {evs : List NearcadeEvent} (hr : reportOf e = none) (hd : decoded e = none)
      (ho : ∀ ev ∈ evs, ev.Other) : Tells e evs

theorem Tells.nil {e : Entry World Input Effect} (hr : reportOf e = none)
    (hd : decoded e = none) : Tells e [] :=
  .other hr hd fun _ h => absurd h List.not_mem_nil

/-- **What the events of a step are about.** -/
theorem tells_entry {ov : Int → Int} {e : Entry World Input Effect}
    (he : (system ov).enabled e.pre e.input) : Tells e (eventOf e.pre.sdk e.input) := by
  obtain ⟨w, i, o⟩ := e
  cases i with
  | call c =>
      refine .other rfl rfl fun ev hev => ?_
      cases c with
      | startStreaming => rw [List.mem_singleton.mp hev]; trivial
      | _ => exact absurd hev List.not_mem_nil
  | net n =>
      cases n with
      | receive wsi input throws =>
          refine .other rfl rfl fun ev hev => ?_
          simp only [eventOf, Net.event] at hev
          split at hev
          · rw [List.mem_singleton.mp hev]; trivial
          · rw [List.mem_singleton.mp hev]; trivial
          · exact absurd hev List.not_mem_nil
      | stateChange pc state =>
          simp only [eventOf, Net.event]
          cases hr : reportBy w.sdk pc state with
          | none => exact .nil hr rfl
          | some r => exact .viewer r hr rfl
      | message pc msg =>
          cases msg with
          | string str => exact .nil rfl rfl
          | binary bin =>
              obtain ⟨idx, hc⟩ := Webrtc.State.exists_captured he
              simp only [eventOf, Net.event]
              cases hb : NearcadeGamepadPacket.ofBytes bin with
              | none => exact .nil rfl (by simp [decoded, hb])
              | some pkt => exact .packet (idx, pkt) rfl (by simp [decoded, hb, hc])
      | established _ _ _ | closed _ | localDescription _ _ _ _ | localCandidate _ _ _ =>
          exact .nil rfl rfl

/-- What the events of a run say, read off its steps one by one. -/
theorem Started.filterMap_fired {ov : Int → Int} {w : World} (h : Started ov w)
    {is : List Input} (hv : (system ov).Valid w is) {β : Type} {mark : NearcadeEvent → Option β}
    {said : Entry World Input Effect → Option β}
    (hs : ∀ e : Entry World Input Effect, StartedInv e.pre → (system ov).enabled e.pre e.input →
      (eventOf e.pre.sdk e.input).filterMap mark = (said e).toList) :
    (fired (outputs ((system ov).trace w is))).filterMap mark =
      ((system ov).trace w is).filterMap said := by
  rw [fired_outputs, List.filterMap_flatMap, List.filterMap_eq_flatMap_toList]
  refine List.flatMap_congr fun e he => ?_
  obtain ⟨hI, hen, ho⟩ := h.inv_trace hv he
  rw [fired_entry hI ho, hs e hI hen]

/-! ### The events about a viewer -/

theorem viewerMark_self (idx : Int) (c : Bool) :
    viewerMark (viewerId idx) (viewerEvent idx c) = some c := by
  cases c <;> simp [viewerEvent, viewerMark]

theorem viewerMark_of_ne {id : Bytes} {idx : Int} (h : viewerId idx ≠ id) (c : Bool) :
    viewerMark id (viewerEvent idx c) = none := by
  cases c <;> simp [viewerEvent, viewerMark, h]

/-- A step says of a viewer what it reports, and nothing else. -/
theorem Tells.viewerMark {e : Entry World Input Effect} {evs : List NearcadeEvent}
    (h : Tells e evs) (id : Bytes) :
    evs.filterMap (viewerMark id) =
      ((reportOf e).bind fun r => Nearcade.viewerMark id (viewerEvent r.1 r.2)).toList := by
  cases h with
  | viewer r hr _ =>
      rw [hr, Option.bind_some, List.filterMap_cons]
      cases Nearcade.viewerMark id (viewerEvent r.1 r.2) <;> rfl
  | packet r hr _ => rw [hr]; rfl
  | other hr _ ho =>
      rw [hr]
      refine List.filterMap_eq_nil_iff.mpr fun ev hev => ?_
      cases ev with
      | viewerJoined _ _ | viewerLeft _ => exact (ho _ hev).elim
      | _ => rfl

/-- A report is for an index of the viewer table. -/
theorem report_inTable {e : Entry World Input Effect} (h : StartedInv e.pre) {r : Int × Bool}
    (hr : reportOf e = some r) : ∃ i : Fin maxViewers, r.1 = (i.val : Int) := by
  rw [reportOf] at hr
  split at hr
  · rw [reportBy, Option.bind_eq_some_iff] at hr
    obtain ⟨idx, hc, hr⟩ := hr
    obtain ⟨c, -, rfl⟩ := Option.map_eq_some_iff.mp hr
    exact h.inTable _ idx hc
  · cases hr

theorem Tells.viewer_idx {e : Entry World Input Effect} {evs : List NearcadeEvent}
    (ht : Tells e evs) (h : StartedInv e.pre) (i : Fin maxViewers) :
    evs.filterMap (Nearcade.viewerMark (viewerId (i.val : Int))) =
      (reportFor (i.val : Int) e).toList := by
  rw [ht.viewerMark, reportFor]
  cases hr : reportOf e with
  | none => rfl
  | some r =>
      obtain ⟨j, hj⟩ := report_inTable h hr
      rw [Option.bind_some, Option.bind_some, hj]
      by_cases hij : j = i
      · rw [hij, viewerMark_self, if_pos rfl]
      · rw [viewerMark_of_ne fun e => hij (viewerId_idx_inj e), if_neg fun e => hij (idx_inj e)]

theorem Tells.nobody {e : Entry World Input Effect} {evs : List NearcadeEvent}
    (ht : Tells e evs) (h : StartedInv e.pre) {id : Bytes}
    (hid : ∀ i : Fin maxViewers, id ≠ viewerId (i.val : Int)) :
    evs.filterMap (Nearcade.viewerMark id) = [] := by
  rw [ht.viewerMark]
  cases hr : reportOf e with
  | none => rfl
  | some r =>
      obtain ⟨j, hj⟩ := report_inTable h hr
      rw [Option.bind_some, hj, viewerMark_of_ne (hid j).symm]
      rfl

section
variable {ov : Int → Int} {w : World} {is : List Input}

/-- **The events about `viewer_i` are the reports for `i`.** -/
theorem joinLeft_eq (h : Started ov w) (hv : (system ov).Valid w is) (i : Fin maxViewers) :
    joinLeft ((system ov).trace w is) (viewerId (i.val : Int)) =
      reports ((system ov).trace w is) (i.val : Int) :=
  h.filterMap_fired hv fun _ hI he => (tells_entry he).viewer_idx hI i

/-- No event is about an id of no index. -/
theorem joinLeft_eq_nil (h : Started ov w) (hv : (system ov).Valid w is) {id : Bytes}
    (hid : ∀ i : Fin maxViewers, id ≠ viewerId (i.val : Int)) :
    joinLeft ((system ov).trace w is) id = [] := by
  have hn : joinLeft ((system ov).trace w is) id =
      ((system ov).trace w is).filterMap fun _ => none :=
    h.filterMap_fired hv fun e hI he => (tells_entry he).nobody hI hid
  rw [hn]
  exact List.filterMap_eq_nil_iff.mpr fun _ _ => rfl

/-- The events about an id are the reports for its index, or there are none. -/
theorem joinLeft_cases (h : Started ov w) (hv : (system ov).Valid w is) (id : Bytes) :
    (∃ i : Fin maxViewers, id = viewerId (i.val : Int) ∧
      joinLeft ((system ov).trace w is) id = reports ((system ov).trace w is) (i.val : Int)) ∨
    joinLeft ((system ov).trace w is) id = [] := by
  by_cases hid : ∃ i : Fin maxViewers, id = viewerId (i.val : Int)
  · obtain ⟨i, rfl⟩ := hid
    exact .inl ⟨i, rfl, joinLeft_eq h hv i⟩
  · exact .inr (joinLeft_eq_nil h hv fun i e => hid ⟨i, e⟩)

/-- Nothing is reported for an index outside the viewer table. -/
theorem reports_eq_nil (h : Started ov w) (hv : (system ov).Valid w is) {i : Int}
    (hi : ∀ j : Fin maxViewers, i ≠ (j.val : Int)) : reports ((system ov).trace w is) i = [] := by
  refine List.filterMap_eq_nil_iff.mpr fun e he => ?_
  obtain ⟨hI, -, -⟩ := h.inv_trace hv he
  rw [reportFor]
  cases hr : reportOf e with
  | none => rfl
  | some r =>
      obtain ⟨j, hj⟩ := report_inTable hI hr
      rw [Option.bind_some, hj, if_neg fun e => hi j e.symm]

end

end Nearcade
