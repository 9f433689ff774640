import Nearcade.System.Invariants

/-!
# Lanes — Video

Which sessions get a frame.  `sessions` is `webrtc.cpp` on its own: its functions that change the
table of sessions, called in any order with any index, and the states libdatachannel reports.
The statics of the module in any reachable world of the SDK are reachable in it
(`sessions_of_system`).

`Delivered` says what a frame is for: it goes, once, to each session whose PeerConnection has
`Connected` as its last reported state, and to no other.

* `delivered_iff_flags`: the loop of `webrtc_send_h264` goes by the `connected` flags, so a frame
  is delivered just when the flags say what the PeerConnections reported.
* `delivered_iff`: the flags never say it, and a frame is delivered just when no session is
  connected.
-/

namespace Nearcade.Video
open Text Runs

/-- A function of `webrtc.cpp`, or a state a PeerConnection reports. -/
inductive Step where
  | init
  | setCallbacks
  | shutdown
  | viewerJoined (viewerIdx : Int)
  | viewerLeft (viewerIdx : Int)
  | stateChange (pc : PcId) (state : Webrtc.PcState)

/-- **The table of sessions.**  A step puts out the calls of `g_viewer_cb`. -/
def sessions : Machine Webrtc.State Step (Int × Bool) where
  enabled st
    | .stateChange pc _ => pc < st.pcs.length
    | _ => True
  next st
    | .init => (Webrtc.webrtcInit st).2
    | .setCallbacks => Webrtc.setCallbacks st
    | .shutdown => Webrtc.webrtcShutdown st
    | .viewerJoined idx => (Webrtc.webrtcViewerJoined st idx).2
    | .viewerLeft idx => Webrtc.webrtcViewerLeft st idx
    | .stateChange pc state => (Webrtc.onStateChange st pc state).1
  out st
    | .stateChange pc state => (Webrtc.onStateChange st pc state).2.toList
    | _ => []

instance (st : Webrtc.State) : ∀ i : Step, Decidable (sessions.enabled st i)
  | .stateChange pc _ => inferInstanceAs (Decidable (pc < st.pcs.length))
  | .init | .setCallbacks | .shutdown | .viewerJoined _ | .viewerLeft _ => isTrue trivial

/-- A run of the SDK is one of the module. -/
theorem sessions_of_system {ov : Int → Int} {w : World} (h : (system ov).Reachable .boot w) :
    sessions.Reachable .boot w.sdk.rtc := by
  have init : ∀ {st}, sessions.Reachable .boot st → sessions.Reachable .boot (webrtcUp st) :=
    fun h => (h.step (i := Step.init) trivial).step (i := Step.setCallbacks) trivial
  have shutdown : ∀ {st}, sessions.Reachable .boot st →
      sessions.Reachable .boot (Webrtc.webrtcShutdown st) :=
    fun h => h.step (i := Step.shutdown) trivial
  refine h.of_invariant (I := fun w => sessions.Reachable .boot w.sdk.rtc) (.refl _) ?_
  intro w i hw he
  cases i with
  | call c =>
      show sessions.Reachable .boot (c.run ov w.sdk).1.rtc
      rcases Call.rtc_cases ov w.sdk c with e | e | e | e <;> rw [e]
      · exact hw
      · exact init hw
      · exact shutdown (init hw)
      · exact shutdown hw
  | net n =>
      show sessions.Reachable .boot (n.run ov w.sdk).1.rtc
      rcases Net.rtc_cases ov w.sdk n with e | ⟨i, hi, e⟩ | ⟨i, e⟩ | ⟨p, st, rfl, e⟩ <;> rw [e]
      · exact hw
      · -- `webrtc_viewer_joined` found the module initialised
        have hj : (Webrtc.webrtcViewerJoined w.sdk.rtc (i.val : Int)).2 =
            Webrtc.createSession w.sdk.rtc (i.val : Int) := by
          rw [Webrtc.webrtcViewerJoined, if_pos hi]
        rw [← hj]
        exact hw.step (i := Step.viewerJoined (i.val : Int)) trivial
      · exact hw.step (i := Step.viewerLeft (i.val : Int)) trivial
      · exact hw.step (i := Step.stateChange p st) he

/-! ### What the sessions have -/

/-- No two sessions share a video track. -/
def Apart (st : Webrtc.State) : Prop :=
  st.gSessions.Pairwise fun sess sess' => sess.videoTrack ≠ sess'.videoTrack

theorem apart_of_nil {st : Webrtc.State} (h : st.gSessions = []) : Apart st := by
  rw [Apart, h]
  exact List.Pairwise.nil

/-- Elements told apart by `f`: a filter that asks for one value of `f` keeps at most one. -/
theorem filter_eq_singleton {α β : Type} {f : α → β} {P : α → Bool} {a : α} {l : List α}
    (h : l.Pairwise fun x y => f x ≠ f y) (ha : a ∈ l) (hp : P a = true)
    (hP : ∀ b, P b = true → f b = f a) : l.filter P = [a] := by
  induction l with
  | nil => exact absurd ha List.not_mem_nil
  | cons x l ih =>
      obtain ⟨hx, hl⟩ := List.pairwise_cons.mp h
      rcases List.mem_cons.mp ha with rfl | ha
      · rw [List.filter_cons_of_pos hp,
          List.filter_eq_nil_iff.mpr fun b hb hb' => hx b hb (hP b hb').symm]
      · rw [List.filter_cons_of_neg fun hx' => hx a ha (hP x hx'), ih hl ha]

theorem Apart.unique {st : Webrtc.State} (h : Apart st) {sess sess' : Webrtc.WebrtcSession}
    (hs : sess ∈ st.gSessions) (hs' : sess' ∈ st.gSessions)
    (ht : sess'.videoTrack = sess.videoTrack) : sess' = sess := by
  have hf : st.gSessions.filter (fun x => x.videoTrack = sess.videoTrack) = [sess] :=
    filter_eq_singleton h hs (by simp) fun x hx => of_decide_eq_true hx
  exact List.mem_singleton.mp (hf ▸ List.mem_filter.mpr ⟨hs', decide_eq_true ht⟩)

theorem Apart.create {st : Webrtc.State} (h : Apart st) (hw : Sessions.Wf st) (idx : Int) :
    Apart (Webrtc.createSession st idx) := by
  refine List.pairwise_append.mpr ⟨h, List.pairwise_singleton _ _, ?_⟩
  intro sess hs sess' hs'
  obtain rfl := List.mem_singleton.mp hs'
  obtain ⟨p, w⟩ := hw sess hs
  rw [w.track]
  exact fun e => (Webrtc.lt_of_captured w.captured).ne (Option.some.inj e)

/-- In every run the sessions are well formed, and their tracks are distinct. -/
theorem sessions_wf {is : List Step} (hv : sessions.Valid .boot is) :
    Sessions.Wf (sessions.final .boot is) ∧ Apart (sessions.final .boot is) := by
  refine Machine.invariant (I := fun st => Sessions.Wf st ∧ Apart st)
    ⟨fun _ hs => absurd hs List.not_mem_nil, apart_of_nil rfl⟩ ?_ hv
  rintro st i ⟨hw, ha⟩ -
  cases i with
  | init | setCallbacks =>
      exact ⟨fun s hs => (hw s hs).imp fun _ w => ⟨w.pc, w.track, w.captured, w.flag⟩, ha⟩
  | shutdown => exact ⟨Sessions.wf_shutdown st, apart_of_nil rfl⟩
  | viewerJoined idx =>
      simp only [sessions, Webrtc.webrtcViewerJoined]
      split
      · exact ⟨hw.create idx, ha.create hw idx⟩
      · exact ⟨hw, ha⟩
  | viewerLeft idx => exact ⟨hw.left idx, ha.sublist List.eraseP_sublist⟩
  | stateChange pc state => exact ⟨hw.stateChange pc state, ha⟩

/-! ### What the PeerConnections report -/

/-- The state reported for a PeerConnection in a step. -/
def reportedIn (pc : PcId) (e : Entry Webrtc.State Step (Int × Bool)) : Option Webrtc.PcState :=
  match e.input with
  | .stateChange pc' state => if pc' = pc then some state else none
  | _ => none

/-- The state reported last for a PeerConnection. -/
def lastReported (t : List (Entry Webrtc.State Step (Int × Bool))) (pc : PcId) :
    Option Webrtc.PcState :=
  (t.filterMap (reportedIn pc)).getLast?

/-- A new PeerConnection has reported nothing. -/
theorem reported_createSession (st : Webrtc.State) (idx : Int) (pc : PcId) :
    (Webrtc.createSession st idx).reported pc = st.reported pc := by
  simp only [Webrtc.State.reported, Webrtc.createSession, Webrtc.pushSession, Webrtc.buildSession]
  rcases Nat.lt_trichotomy pc st.pcs.length with h | rfl | h
  · rw [List.getElem?_append_left h]
  · simp
  · rw [List.getElem?_eq_none (by simpa using Nat.succ_le_of_lt h),
      List.getElem?_eq_none h.le]

/-- What `pcs` keeps of a PeerConnection is the state it reported last. -/
theorem lastReported_eq {is : List Step} (hv : sessions.Valid .boot is) (pc : PcId) :
    lastReported (sessions.trace .boot is) pc = (sessions.final .boot is).reported pc := by
  refine Machine.run_induction (P := fun t st => lastReported t pc = st.reported pc) rfl ?_ hv
  intro t st i ih hi
  rw [lastReported, List.filterMap_append, List.getLast?_append]
  cases i with
  | stateChange pc' state =>
      by_cases e : pc' = pc
      · subst e
        have hlt : pc' < st.pcs.length := hi
        simp [reportedIn, sessions, Webrtc.onStateChange, Webrtc.State.reported, hlt]
      · rw [lastReported] at ih
        simp [reportedIn, sessions, Webrtc.onStateChange, Webrtc.State.reported, e, ih]
  | viewerJoined idx =>
      rw [show (sessions.next st (.viewerJoined idx)).reported pc = st.reported pc from ?_]
      · exact ih
      · simp only [sessions, Webrtc.webrtcViewerJoined]
        split
        · exact reported_createSession st idx pc
        · rfl
  | init | setCallbacks | shutdown | viewerLeft _ => exact ih

/-! ### Delivery -/

/-- The frames sent on a track. -/
def sentOn (track : PcId) (fx : List Effect) : List Bytes :=
  fx.filterMap fun
    | .trackSend track' frame => if track' = track then some frame else none
    | _ => none

/-- The session's PeerConnection is connected, by what was reported last. -/
def Connected (last : PcId → Option Webrtc.PcState) (sess : Webrtc.WebrtcSession) : Prop :=
  ∃ pc, sess.pc = some pc ∧ last pc = some .connected

/-- What `nearcade_send_h264` owes a frame: it is sent once on the track of each connected
session, and on no other. -/
structure Delivered (s : State) (last : PcId → Option Webrtc.PcState) (frame : Bytes) : Prop where
  each : ∀ sess ∈ s.rtc.gSessions, Connected last sess →
    ∃ track, sess.videoTrack = some track ∧
      sentOn track (nearcadeSendH264 s (some frame)).2 = [frame]
  noOther : ∀ track, (∀ sess ∈ s.rtc.gSessions, sess.videoTrack = some track →
    ¬ Connected last sess) → sentOn track (nearcadeSendH264 s (some frame)).2 = []

/-- The session has the track and the flag. -/
def sendsOn (track : PcId) (sess : Webrtc.WebrtcSession) : Bool :=
  sess.videoTrack = some track ∧ sess.connected = true

/-- The loop of `webrtc_send_h264` sends a frame on a track once for each session that has the
track and the flag. -/
theorem sentOn_sendH264 (s : State) {frame : Bytes} (hf : frame ≠ []) (track : PcId) :
    sentOn track (nearcadeSendH264 s (some frame)).2 =
      (s.rtc.gSessions.filter (sendsOn track)).map fun _ => frame := by
  have hl : ¬ frame.length = 0 := fun h => hf (List.length_eq_zero_iff.mp h)
  simp only [nearcadeSendH264, Webrtc.webrtcSendH264, if_neg hl, sentOn]
  induction s.rtc.gSessions with
  | nil => rfl
  | cons sess l ih =>
      rw [List.flatMap_cons, List.filterMap_append, ih, List.filter_cons, sendsOn]
      cases ht : sess.videoTrack with
      | none => simp
      | some t =>
          cases hc : sess.connected with
          | false => simp
          | true => by_cases e : t = track <;> simp [e]

section
variable {s : State} {frame : Bytes}

/-- Nothing is sent on a track when no session has it and the flag. -/
theorem sentOn_eq_nil (hf : frame ≠ []) {track : PcId} :
    sentOn track (nearcadeSendH264 s (some frame)).2 = [] ↔
      ∀ sess ∈ s.rtc.gSessions, sendsOn track sess = false := by
  rw [sentOn_sendH264 s hf, List.map_eq_nil_iff, List.filter_eq_nil_iff]
  simp only [Bool.not_eq_true]

/-- **The flags decide.**  A frame is delivered just when each session's flag says whether its
PeerConnection is connected. -/
theorem delivered_iff_flags (hw : Sessions.Wf s.rtc) (ha : Apart s.rtc) (hf : frame ≠ [])
    (last : PcId → Option Webrtc.PcState) :
    Delivered s last frame ↔
      ∀ sess ∈ s.rtc.gSessions, sess.connected = true ↔ Connected last sess := by
  constructor
  · intro h sess hs
    obtain ⟨p, w⟩ := hw sess hs
    constructor
    · -- a flag without a connection sends on a track of no connected session
      intro hc
      by_contra hn
      have hnil := (sentOn_eq_nil hf).mp (h.noOther p fun sess' hs' ht => by
        rwa [ha.unique hs hs' (ht.trans w.track.symm)]) sess hs
      exact absurd hnil (by simp [sendsOn, w.track, hc])
    · -- what is sent on the track is sent for a session with the flag, and that is this one
      intro hc
      obtain ⟨track, ht, hsent⟩ := h.each sess hs hc
      by_contra hn
      have hnil : sentOn track (nearcadeSendH264 s (some frame)).2 = [] := by
        refine (sentOn_eq_nil hf).mpr fun sess' hs' => decide_eq_false ?_
        rintro ⟨ht', hc'⟩
        rw [ha.unique hs hs' (ht'.trans ht.symm)] at hc'
        exact hn hc'
      rw [hnil] at hsent
      cases hsent
  · intro h
    refine ⟨fun sess hs hc => ?_, fun track hn => (sentOn_eq_nil hf).mpr fun sess hs => ?_⟩
    · obtain ⟨p, w⟩ := hw sess hs
      refine ⟨p, w.track, ?_⟩
      rw [sentOn_sendH264 s hf, filter_eq_singleton ha hs]
      · rfl
      · exact decide_eq_true ⟨w.track, (h sess hs).mpr hc⟩
      · exact fun sess' hs' => (of_decide_eq_true hs').1.trans w.track.symm
    · refine decide_eq_false ?_
      rintro ⟨ht, hc⟩
      exact hn sess hs ht ((h sess hs).mp hc)

end

/-- No flag is ever set, so the flags are right just when no session is connected. -/
theorem flags_iff {st : Webrtc.State} (hw : Sessions.Wf st)
    (last : PcId → Option Webrtc.PcState) :
    (∀ sess ∈ st.gSessions, sess.connected = true ↔ Connected last sess) ↔
      ∀ sess ∈ st.gSessions, ¬ Connected last sess := by
  refine forall₂_congr fun sess hs => ?_
  obtain ⟨p, w⟩ := hw sess hs
  rw [w.flag]
  simp

/-- **A frame is delivered just when no session is connected.** -/
theorem delivered_iff {is : List Step} (hv : sessions.Valid .boot is) (s : State) {frame : Bytes}
    (hf : frame ≠ []) :
    Delivered { s with rtc := sessions.final .boot is } (lastReported (sessions.trace .boot is))
        frame ↔
      ∀ sess ∈ (sessions.final .boot is).gSessions,
        ¬ Connected (lastReported (sessions.trace .boot is)) sess := by
  obtain ⟨hw, ha⟩ := sessions_wf hv
  rw [delivered_iff_flags hw ha hf]
  exact flags_iff hw _

/-- The same in the SDK, in every reachable world. -/
theorem system_delivered_iff {ov : Int → Int} {w : World} (h : (system ov).Reachable .boot w)
    {frame : Bytes} (hf : frame ≠ []) :
    Delivered w.sdk w.sdk.rtc.reported frame ↔
      ∀ sess ∈ w.sdk.rtc.gSessions, ¬ Connected w.sdk.rtc.reported sess := by
  obtain ⟨is, hv, hrtc⟩ := sessions_of_system h
  obtain ⟨hw, ha⟩ := sessions_wf hv
  rw [hrtc] at hw ha
  rw [delivered_iff_flags hw ha hf]
  exact flags_iff hw _

/-- The module comes up, a viewer joins and connects. -/
def oneConnected : List Step :=
  [.init, .setCallbacks, .viewerJoined 0, .stateChange 0 .connecting, .stateChange 0 .connected]

/-- A viewer that joins, connects and disconnects: nothing has to be sent, and nothing is. -/
theorem delivered_iff_disconnected :
    let run := oneConnected ++ [.stateChange 0 .disconnected]
    Delivered { State.boot with rtc := sessions.final .boot run }
      (lastReported (sessions.trace .boot run)) [1] := by
  refine (delivered_iff ?_ _ (by decide)).mpr ?_
  · decide
  · intro sess hs
    obtain rfl := List.mem_singleton.mp hs
    rintro ⟨p, hp, hl⟩
    obtain rfl := Option.some.inj hp
    cases hl

/-- The connected viewer gets no frame. -/
theorem connected_not_delivered :
    sessions.Valid .boot oneConnected ∧
      ¬ Delivered { State.boot with rtc := sessions.final .boot oneConnected }
        (lastReported (sessions.trace .boot oneConnected)) [1] := by
  refine ⟨by decide, fun h => ?_⟩
  obtain ⟨track, -, hsent⟩ := h.each (Webrtc.newSession .boot 0) (List.mem_singleton.mpr rfl)
    ⟨0, rfl, rfl⟩
  cases hsent

end Nearcade.Video
