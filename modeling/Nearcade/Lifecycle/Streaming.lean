import Nearcade.Signaling.Table
import Nearcade.System.Events

/-!
# Lifecycle — Streaming

`nearcade_start_streaming` says that it accepts viewer connections.  It sets `streaming`, which
`on_signaling_viewer` does not read: a viewer's connection gets a session where the table has an
entry for it and the WebRTC module is up (`Welcome`).

* `givesSession_iff`: no other step gives one.
* `streaming_iff_started`: `streaming` is set by a start that was not taken back just when that
  start is the last of the calls of the lifecycle.
* `sessions_gated_iff`: so sessions are gated by streaming just in the runs where that is the last
  call whenever a viewer is welcome.
-/

namespace Nearcade
open Text Runs

/-! ### The calls -/

/-- What a call does to the gate: a start opens it, a stop and a shutdown close it. -/
def gateMark : Input → Option Bool
  | .call .startStreaming => some true
  | .call .stopStreaming | .call (.shutdown _) => some false
  | _ => none

/-- The same, where `nearcade_init` closes it too. -/
def lifecycleMark : Input → Option Bool
  | .call (.init ..) => some false
  | i => gateMark i

/-- The last mark of a run is an opening one. -/
def LastOpens (mark : Input → Option Bool) (t : Trace) : Prop :=
  (t.filterMap fun e => mark e.input).getLast? = some true

instance (mark : Input → Option Bool) (t : Trace) : Decidable (LastOpens mark t) :=
  inferInstanceAs (Decidable (_ = _))

/-- A start was called, and no stop or shutdown since. -/
abbrev Opened (t : Trace) : Prop := LastOpens gateMark t

/-- The last call of the lifecycle was a start. -/
abbrev StartedLast (t : Trace) : Prop := LastOpens lifecycleMark t

theorem lastOpens_concat_some {mark : Input → Option Bool} {t : Trace}
    {e : Entry World Input Effect} {b : Bool} (h : mark e.input = some b) :
    LastOpens mark (t ++ [e]) ↔ b = true := by
  simp [LastOpens, List.filterMap_append, h]

theorem lastOpens_concat_none {mark : Input → Option Bool} {t : Trace}
    {e : Entry World Input Effect} (h : mark e.input = none) :
    LastOpens mark (t ++ [e]) ↔ LastOpens mark t := by
  simp [LastOpens, List.filterMap_append, h]

/-! ### The flag -/

/-- A call without a mark leaves the flag. -/
theorem Call.streaming_of_unmarked (ov : Int → Int) (s : State) {c : Call}
    (h : lifecycleMark (.call c) = none) : (c.run ov s).1.g.streaming = s.g.streaming := by
  have ho : c.Operates := by cases c <;> trivial
  have hs : c.streams = none := by cases c <;> first | rfl | cases h
  rw [(ho.frame ov s).2.2.2, hs, Option.getD_none]

theorem nearcadeInit_streaming (config : Option NearcadeConfig) (e : InitEnv) (w : Capture.Waits)
    (s : State) : (nearcadeInit config e w s).2.1.g.streaming = false := by
  rcases nearcadeInit_cases config e w s with
    ⟨-, h⟩ | ⟨-, -, h⟩ | ⟨-, -, -, h⟩ | ⟨-, -, -, h⟩ <;> rw [h] <;> rfl

/-- What the flag stands for after a history. -/
def GateAgrees (t : Trace) (w : World) : Prop :=
  (w.sdk.g.streaming = true ∧ Opened t) ↔ StartedLast t

/-- One step keeps the flag and the history together. -/
theorem GateAgrees.step (ov : Int → Int) {t : Trace} {w : World} (h : GateAgrees t w) (i : Input) :
    GateAgrees (t ++ [⟨w, i, (system ov).out w i⟩]) ((system ov).next w i) := by
  have closes (hg : gateMark i = some false) (hl : lifecycleMark i = some false) :
      GateAgrees (t ++ [⟨w, i, (system ov).out w i⟩]) ((system ov).next w i) := by
    rw [GateAgrees, Opened, StartedLast, lastOpens_concat_some hg, lastOpens_concat_some hl]
    simp
  have leaves (hg : gateMark i = none) (hl : lifecycleMark i = none)
      (hs : ((system ov).next w i).sdk.g.streaming = w.sdk.g.streaming) :
      GateAgrees (t ++ [⟨w, i, (system ov).out w i⟩]) ((system ov).next w i) := by
    rw [GateAgrees, Opened, StartedLast, lastOpens_concat_none hg, lastOpens_concat_none hl, hs]
    exact h
  cases i with
  | net n => exact leaves rfl rfl (congrArg NearcadeState.streaming (Net.frame w.sdk n).1)
  | call c =>
      cases hm : lifecycleMark (.call c) with
      | none =>
          have hg : gateMark (.call c) = none := by
            cases c <;> first | rfl | cases hm
          exact leaves hg hm (Call.streaming_of_unmarked ov w.sdk hm)
      | some b =>
          cases c with
          | init config e waits =>
              -- the history may still end in a start, but the flag is cleared
              have hs : ((system ov).next w (.call (.init config e waits))).sdk.g.streaming =
                  false := nearcadeInit_streaming config e waits w.sdk
              rw [GateAgrees, StartedLast, lastOpens_concat_some (b := false) rfl, hs]
              simp
          | startStreaming =>
              rw [GateAgrees, Opened, StartedLast, lastOpens_concat_some (b := true) rfl,
                lastOpens_concat_some (b := true) rfl]
              exact iff_of_true ⟨rfl, rfl⟩ rfl
          | stopStreaming | shutdown _ => exact closes rfl rfl
          | _ => cases hm

/-- **What the flag stands for.**  It is set, by a start that was not taken back, just when that
start is the last call of the lifecycle.  A shutdown of an SDK that does not run leaves the flag,
and `nearcade_init` clears it. -/
theorem streaming_iff_started {ov : Int → Int} {is : List Input}
    (hv : (system ov).Valid .boot is) {t : Trace} {e : Entry World Input Effect}
    (hp : t ++ [e] <+: (system ov).trace .boot is) :
    (e.pre.sdk.g.streaming = true ∧ Opened t) ↔ StartedLast t := by
  have hboot : GateAgrees [] World.boot :=
    iff_of_false (fun h => Bool.false_ne_true h.1) (by decide)
  exact (Machine.before_step (M := system ov) (P := GateAgrees) hboot
    (fun _ _ i h _ => h.step ov i) hv hp).1

/-! ### The sessions -/

/-- The step gives a connection a session. -/
def GivesSession (ov : Int → Int) (e : Entry World Input Effect) : Prop :=
  ∃ i : Fin maxViewers,
    ((system ov).next e.pre e.input).sdk.rtc = Webrtc.createSession e.pre.sdk.rtc (i.val : Int)

/-- A viewer's connection that finds a free entry, the routing callback set and the WebRTC module
up. -/
def Welcome (w : World) : Input → Prop
  | .net (.established _ uri stack) =>
      ¬ Signaling.IsHost (Signaling.lwsHdrCopy uri stack) ∧ (∃ i, w.sdk.sig.gViewerWs i = none) ∧
        w.sdk.sig.gViewerCb = true ∧ w.sdk.rtc.gInitialized = true
  | _ => False

/-- A session comes with a PeerConnection, which no step but one creates. -/
theorem length_createSession (st : Webrtc.State) (idx : Int) :
    (Webrtc.createSession st idx).pcs.length = st.pcs.length + 1 := by
  simp [Webrtc.createSession, Webrtc.pushSession, Webrtc.buildSession]

theorem not_createSession {st st' : Webrtc.State} (h : st'.pcs.length = st.pcs.length) :
    ¬ ∃ i : Fin maxViewers, st' = Webrtc.createSession st (i.val : Int) := by
  rintro ⟨i, rfl⟩
  rw [length_createSession] at h
  omega

/-- `on_signaling_viewer` reads no flag but those of the WebRTC module. -/
theorem callbackEstablished_session (s : State) (wsi : Wsi) (uri stack : Bytes) :
    (∃ i : Fin maxViewers,
      (callbackEstablished s wsi uri stack).rtc = Webrtc.createSession s.rtc (i.val : Int)) ↔
    ¬ Signaling.IsHost (Signaling.lwsHdrCopy uri stack) ∧ (∃ i, s.sig.gViewerWs i = none) ∧
      s.sig.gViewerCb = true ∧ s.rtc.gInitialized = true := by
  have hkeep : ¬ ∃ i : Fin maxViewers, s.rtc = Webrtc.createSession s.rtc (i.val : Int) :=
    not_createSession rfl
  rcases Signaling.established_cases s.sig wsi (Signaling.lwsHdrCopy uri stack) with
    ⟨hu, e⟩ | ⟨hu, i, hi, -, e⟩ | ⟨hu, hn, e⟩
  · simp only [callbackEstablished, e, callViewerCb]
    exact iff_of_false hkeep fun h => h.1 hu
  · simp only [callbackEstablished, e, callViewerCb]
    by_cases hcb : s.sig.gViewerCb = true
    · rw [if_pos hcb]
      simp only [onSignalingViewer, if_true, Webrtc.webrtcViewerJoined]
      by_cases hup : s.rtc.gInitialized = true
      · rw [if_pos hup]
        exact iff_of_true ⟨i, rfl⟩ ⟨hu, ⟨i, hi⟩, hcb, hup⟩
      · rw [if_neg hup]
        exact iff_of_false hkeep fun h => hup h.2.2.2
    · rw [if_neg hcb]
      exact iff_of_false hkeep fun h => hcb h.2.2.1
  · simp only [callbackEstablished, e, callViewerCb]
    refine iff_of_false hkeep fun h => ?_
    obtain ⟨i, hi⟩ := h.2.1
    exact hn i hi

/-- **Which steps give a session.** -/
theorem givesSession_iff (ov : Int → Int) (e : Entry World Input Effect) :
    GivesSession ov e ↔ Welcome e.pre e.input := by
  obtain ⟨w, i, out⟩ := e
  cases i with
  | call c =>
      exact iff_of_false (not_createSession (congrArg List.length (Call.pcs ov w.sdk c))) id
  | net n =>
      cases n with
      | established wsi uri stack => exact callbackEstablished_session w.sdk wsi uri stack
      | closed wsi =>
          refine iff_of_false (not_createSession ?_) id
          show (callbackClosed w.sdk wsi).rtc.pcs.length = w.sdk.rtc.pcs.length
          rcases callbackClosed_rtc w.sdk wsi with e | ⟨i, -, e⟩ <;> rw [e]
          rfl
      | stateChange pc state =>
          exact iff_of_false (not_createSession (List.length_modify ..)) id
      | receive _ _ _ | localDescription _ _ _ _ | localCandidate _ _ _ | message _ _ =>
          exact iff_of_false (not_createSession rfl) id

/-- **When sessions are given only while streaming.**  In every run from the start of the program,
each session is given with `streaming` set, by a start that no stop or shutdown has taken back,
just when the last call of the lifecycle is a start whenever a viewer is welcome. -/
theorem sessions_gated_iff {ov : Int → Int} {is : List Input}
    (hv : (system ov).Valid .boot is) :
    (∀ t e, t ++ [e] <+: (system ov).trace .boot is → GivesSession ov e →
      e.pre.sdk.g.streaming = true ∧ Opened t) ↔
    ∀ t e, t ++ [e] <+: (system ov).trace .boot is → Welcome e.pre e.input → StartedLast t := by
  refine forall₂_congr fun t e => forall_congr' fun hp => ?_
  rw [givesSession_iff, streaming_iff_started hv hp]

/-- A program that starts streaming before the first viewer connects. -/
theorem sessions_gated_iff_started :
    let is : List Input := [.call (.init none .good ⟨0, 0⟩), .call .startStreaming, connect 7]
    (∀ t e, t ++ [e] <+: (system id).trace .boot is → GivesSession id e →
      e.pre.sdk.g.streaming = true ∧ Opened t) ↔
    ∀ t e, t ++ [e] <+: (system id).trace .boot is → Welcome e.pre e.input → StartedLast t :=
  sessions_gated_iff (by decide +kernel)

/-- A viewer that connects before streaming gets a session. -/
theorem session_before_streaming :
    let is : List Input := [.call (.init none .good ⟨0, 0⟩), connect 7]
    (system id).Valid .boot is ∧ ∃ t e, t ++ [e] <+: (system id).trace .boot is ∧
      GivesSession id e ∧ e.pre.sdk.g.streaming = false ∧ ¬ Opened t := by
  refine ⟨by decide +kernel, _, _,
    Machine.prefix_trace (system id) .boot [.call (.init none .good ⟨0, 0⟩)] (connect 7) [],
    (givesSession_iff id _).mpr ⟨by decide +kernel, ⟨0, by decide +kernel⟩, by decide +kernel,
      by decide +kernel⟩, by decide +kernel, by decide +kernel⟩

end Nearcade
