import Nearcade.Handshake.Incoming
import Nearcade.Signaling.Service

/-!
# Signaling — Sessions

What the invariant of the two tables says of the runs of the service thread, and of the messages
that go through.

* `Paired.handle_out`: a message is applied to the session of the connection it came from.
* `Paired.send_out`: what a session that is there sends goes to the connection it was made for.
* `sessions_follow_connections`: both in every run, with the correspondence of the two tables
  between two callbacks and at every step.
* `leaks_unless_waits`: where the destructor of a PeerConnection did not wait, what a session sends
  could go to the next connection.
* `threads_of_callbacks`: the callbacks of the whole SDK, each taken as one step, are runs of the
  threads.
-/

namespace Nearcade.Service
open Text Runs Webrtc
open Handshake (Payload)

/-! ### Messages -/

/-- The PeerConnection a call is made on. -/
def target : RtcCall → Option PcId
  | .setRemoteDescription pc .. | .addRemoteCandidate pc _ => some pc
  | .description .. | .candidate _ => none

/-- The message carries the text `s`, for an answer or a candidate. -/
def Carries (rx : Bytes) (k : Payload) (s : Bytes) : Prop :=
  messageType rx = some k.branch ∧ ∃ value, valueAfter k.key rx = some value ∧
    s = (unescape value).1

/-- What a branch does to a PeerConnection: the payload is applied, unless the constructor throws
before. -/
theorem mem_applyPayload {throws : RtcCall → Bool} {p : PcId} {data : Bytes} (k : Payload)
    {c : RtcCall} (hc : target c ≠ none) :
    .rtc c ∈ (applyPayload throws (valueAfter k.key data) fun s => [k.call s, k.apply p s]).2 ↔
      ∃ value, valueAfter k.key data = some value ∧
        throws (k.call (unescape value).1) = false ∧ c = k.apply p (unescape value).1 := by
  have hne : ∀ s, c ≠ k.call s := by
    rintro s rfl
    cases k <;> exact hc rfl
  cases hv : valueAfter k.key data with
  | none => simp [applyPayload]
  | some value =>
      rw [applyPayload_effects]
      cases ht : throws (k.call (unescape value).1) with
      | true => simp [callAll, ht, hne]
      | false =>
          cases ht' : throws (k.apply p (unescape value).1) <;> simp [callAll, ht, ht', hne]

/-- **What a message does to PeerConnections**: its payload is applied to that of the session
found. -/
theorem mem_handleSignaling {ov : Int → Int} {throws : RtcCall → Bool} {st : Webrtc.State}
    {i : Fin maxViewers} {p : PcId}
    (hp : (sessionForViewer st (i.val : Int)).bind (·.pc) = some p) {data : Bytes} {c : RtcCall}
    (hc : target c ≠ none) :
    .rtc c ∈ (webrtcHandleSignaling ov throws st (some (viewerId (i.val : Int))) (some data)).2 ↔
      ∃ k s, Carries data k s ∧ throws (k.call s) = false ∧ c = k.apply p s := by
  have hbranch : ∀ k : Payload, messageType data = some k.branch →
      ((∃ k s, Carries data k s ∧ throws (k.call s) = false ∧ c = k.apply p s) ↔
        ∃ value, valueAfter k.key data = some value ∧
          throws (k.call (unescape value).1) = false ∧ c = k.apply p (unescape value).1) := by
    intro k hk
    constructor
    · rintro ⟨k', s, ⟨hk', value, hv, rfl⟩, ht, rfl⟩
      obtain rfl : k' = k := Payload.branch_injective (Option.some.inj (hk'.symm.trans hk))
      exact ⟨value, hv, ht, rfl⟩
    · rintro ⟨value, hv, ht, rfl⟩
      exact ⟨k, _, ⟨hk, value, hv, rfl⟩, ht, rfl⟩
  have hnone : (∀ k : Payload, messageType data ≠ some k.branch) →
      ¬ ∃ k s, Carries data k s ∧ throws (k.call s) = false ∧ c = k.apply p s := by
    rintro h ⟨k, s, ⟨hk, -⟩, -⟩
    exact h k hk
  rw [webrtcHandleSignaling_viewerId, hp]
  cases hm : messageType data with
  | none => exact iff_of_false List.not_mem_nil (hnone (by simp [hm]))
  | some T =>
      cases T with
      | answer => exact (mem_applyPayload .answer hc).trans (hbranch .answer hm).symm
      | ice => exact (mem_applyPayload .ice hc).trans (hbranch .ice hm).symm
      | offer =>
          refine iff_of_false List.not_mem_nil (hnone fun k hk => ?_)
          rw [hm] at hk
          cases k <;> cases hk

/-- **A message is applied to the session of its connection.** -/
theorem Paired.handle_out {w : Threads} (h : Paired w) {i : Fin maxViewers} {wsi : Wsi} {rx : Bytes}
    (hp : w.place = .handling i wsi rx) (ov : Int → Int) (throws : RtcCall → Bool) :
    ∃ sess ∈ w.sdk.rtc.gSessions, ∃ p, sess.pc = some p ∧ w.owner p = wsi ∧
      ∀ c, target c ≠ none → (.rtc c ∈ Section.out ov w (.handle throws) ↔
        ∃ k s, Carries rx k s ∧ throws (k.call s) = false ∧ c = k.apply p s) := by
  have hplace := h.place
  rw [PlaceOk, hp] at hplace
  obtain ⟨hi, hm⟩ := hplace
  obtain ⟨sess, hs, hidx⟩ := (hm i not_false).mpr (by simp [hi])
  obtain ⟨j, p, o⟩ := h.owned sess hs
  obtain rfl := idx_inj (o.idx.symm.trans hidx)
  have hfind : (sessionForViewer w.sdk.rtc (j.val : Int)).bind (·.pc) = some p := by
    rw [h.find hs hidx]
    exact o.pc
  refine ⟨sess, hs, p, o.pc, o.owner wsi hi, fun c hc => ?_⟩
  rw [← mem_handleSignaling hfind hc]
  simp only [Section.out, hp, handleViewerMessage, onSignalingMsg, fireEvent, if_pos h.msgCb,
    List.mem_append]
  -- the event is no call
  exact or_iff_left fun he => by cases List.mem_singleton.mp he

/-- **What a session that is there sends goes to its connection.** -/
theorem Paired.send_out {w : Threads} (h : Paired w) (ov : Int → Int) {k : Nat}
    (io : Signaling.Io) {p : PcId} {call : Option (Bytes × Bytes)}
    (hk : w.inFlight[k]? = some (p, call)) (ha : Alive w p) {e : Effect}
    (he : e ∈ Section.out ov w (.send k io)) :
    ∃ vid frame, call = some (vid, frame) ∧ e = .lwsWrite (w.owner p) frame := by
  have hid := h.flying _ (List.mem_of_getElem? hk)
  -- the session's entry holds its connection, if it holds one
  have hown : ∃ i : Fin maxViewers, w.sdk.rtc.captured p = some (i.val : Int) ∧
      ∀ wsi, w.sdk.sig.gViewerWs i = some wsi → w.owner p = wsi := by
    have of_owned {sess : WebrtcSession} {i : Fin maxViewers} {q : PcId}
        (o : Owned w.sdk w.owner sess i q) (hq : sess.pc = some p) :
        w.sdk.rtc.captured p = some (i.val : Int) ∧
          ∀ wsi, w.sdk.sig.gViewerWs i = some wsi → w.owner p = wsi := by
      obtain rfl := Option.some.inj (o.pc.symm.trans hq)
      exact ⟨o.captured, o.owner⟩
    rcases ha with ⟨sess, hs, hq⟩ | ⟨i, wsi, sess, hp, hq⟩
    · obtain ⟨i, q, o⟩ := h.owned sess hs
      exact ⟨i, of_owned o hq⟩
    · have hplace := h.place
      rw [PlaceOk, hp] at hplace
      obtain ⟨-, -, -, q, o⟩ := hplace
      exact ⟨i, of_owned o hq⟩
  obtain ⟨i, hc, hentry⟩ := hown
  simp only [Section.out, hk] at he
  cases call with
  | none => exact absurd he List.not_mem_nil
  | some c =>
      obtain ⟨vid, data⟩ := c
      obtain ⟨idx, hidx, rfl⟩ := hid vid data rfl
      obtain rfl := Option.some.inj (hidx.symm.trans hc)
      simp only [webrtcSendViaSignaling, Signaling.signalingSendToViewer,
        Signaling.viewerWsById_viewerId] at he
      cases hw : w.sdk.sig.gViewerWs i with
      | none => rw [hw] at he; exact absurd he List.not_mem_nil
      | some wsi =>
          rw [hw] at he
          simp only [Signaling.sendToLws] at he
          split at he
          · exact absurd he List.not_mem_nil
          · split at he
            · exact absurd he List.not_mem_nil
            · rw [hentry wsi hw]
              exact ⟨_, data, rfl, List.mem_singleton.mp he⟩

/-! ### Runs -/

/-- A successful `nearcade_init` has just returned, with both tables empty. -/
structure Begin (ov : Int → Int) (w : Threads) : Prop where
  started : Started ov ⟨w.sdk, w.live⟩
  noViewers : ∀ i, w.sdk.sig.gViewerWs i = none
  noSessions : w.sdk.rtc.gSessions = []
  idle : w.place = .idle
  quiet : w.inFlight = []

theorem Begin.paired {ov : Int → Int} {w : Threads} (h : Begin ov w) : Paired w where
  init := by
    obtain ⟨w₀, config, e, waits, -, -, hok, hw⟩ := h.started
    have hsdk : w.sdk = _ := congrArg World.sdk hw
    rw [hsdk, nearcadeInit_ok hok]
    rfl
  viewerCb := by
    obtain ⟨w₀, config, e, waits, -, -, hok, hw⟩ := h.started
    have hsdk : w.sdk = _ := congrArg World.sdk hw
    rw [hsdk]
    exact (nearcadeInit_ok_sig hok).2
  msgCb := by
    obtain ⟨w₀, config, e, waits, -, -, hok, hw⟩ := h.started
    have hsdk : w.sdk = _ := congrArg World.sdk hw
    rw [hsdk]
    exact (nearcadeInit_ok_sig hok).1
  table := table_of_system h.started.reachable
  nodup := by rw [h.noSessions]; exact List.nodup_nil
  owned := by rw [h.noSessions]; exact fun _ hs => absurd hs List.not_mem_nil
  place := by
    rw [PlaceOk, h.idle]
    intro i _
    refine iff_of_false ?_ (by simp [h.noViewers i])
    rintro ⟨sess, hs, -⟩
    rw [h.noSessions] at hs
    exact absurd hs List.not_mem_nil
  flying := by rw [h.quiet]; exact fun _ hc => absurd hc List.not_mem_nil

/-- The sessions are those of the entries in use, one each, and each was made for the connection
in its entry. -/
structure Corresponds (w : Threads) : Prop where
  distinct : (w.sdk.rtc.gSessions.map (·.viewerIdx)).Nodup
  indices : ∀ z, z ∈ w.sdk.rtc.gSessions.map (·.viewerIdx) ↔
    ∃ i : Fin maxViewers, z = (i.val : Int) ∧ w.sdk.sig.gViewerWs i ≠ none
  made : ∀ sess ∈ w.sdk.rtc.gSessions, ∀ i : Fin maxViewers, sess.viewerIdx = (i.val : Int) →
    ∃ p wsi, sess.pc = some p ∧ w.sdk.sig.gViewerWs i = some wsi ∧ w.owner p = wsi

/-- Where a session's entry is in use, it holds the connection the session was made for. -/
def Belongs (w : Threads) : Prop :=
  ∀ sess ∈ w.sdk.rtc.gSessions, ∀ (i : Fin maxViewers) (wsi : Wsi),
    sess.viewerIdx = (i.val : Int) → w.sdk.sig.gViewerWs i = some wsi →
      ∃ p, sess.pc = some p ∧ w.owner p = wsi

/-- A message from a connection is applied to the session made for it, and to no other: the calls on
PeerConnections are those that apply what the message carries. -/
def Received (e : Entry Threads Section Effect) : Prop :=
  ∀ throws i wsi rx, e.input = .handle throws → e.pre.place = .handling i wsi rx →
    ∃ sess ∈ e.pre.sdk.rtc.gSessions, ∃ p, sess.pc = some p ∧ e.pre.owner p = wsi ∧
      ∀ c, target c ≠ none → (.rtc c ∈ e.out ↔
        ∃ k s, Carries rx k s ∧ throws (k.call s) = false ∧ c = k.apply p s)

/-- What a session sends goes to the connection it was made for, and to no other. -/
def Sent (e : Entry Threads Section Effect) : Prop :=
  ∀ k io p call, e.input = .send k io → e.pre.inFlight[k]? = some (p, call) →
    ∀ fx ∈ e.out, ∃ vid frame, call = some (vid, frame) ∧ fx = .lwsWrite (e.pre.owner p) frame

/-- **What libdatachannel promises**: in the run, the destructor of a PeerConnection returns only
when the callbacks of that PeerConnection that run have returned. -/
def DestructorWaits (ov : Int → Int) (w₀ : Threads) (is : List Section) : Prop :=
  ∀ e ∈ (threads ov).trace w₀ is, Waits e.pre e.input

instance (ov : Int → Int) (w₀ : Threads) (is : List Section) :
    Decidable (DestructorWaits ov w₀ is) :=
  inferInstanceAs (Decidable (∀ e ∈ (threads ov).trace w₀ is, Waits e.pre e.input))

theorem Paired.belongs {w : Threads} (h : Paired w) : Belongs w := by
  intro sess hs i wsi hi hw
  obtain ⟨j, p, o⟩ := h.owned sess hs
  obtain rfl := idx_inj (o.idx.symm.trans hi)
  exact ⟨p, o.pc, o.owner wsi hw⟩

theorem Paired.corresponds {w : Threads} (h : Paired w) (hp : w.place = .idle) : Corresponds w := by
  have hm := h.matched_idle hp
  refine ⟨h.nodup, fun z => ?_, fun sess hs i hi => ?_⟩
  · constructor
    · intro hz
      obtain ⟨sess, hs, rfl⟩ := List.mem_map.mp hz
      obtain ⟨i, p, o⟩ := h.owned sess hs
      exact ⟨i, o.idx, (hm i not_false).mp ⟨sess, hs, o.idx⟩⟩
    · rintro ⟨i, rfl, hi⟩
      obtain ⟨sess, hs, e⟩ := (hm i not_false).mpr hi
      exact List.mem_map.mpr ⟨sess, hs, e⟩
  · obtain ⟨wsi, hw⟩ := Option.ne_none_iff_exists'.mp ((hm i not_false).mp ⟨sess, hs, hi⟩)
    obtain ⟨p, hp, ho⟩ := h.belongs sess hs i wsi hi hw
    exact ⟨p, wsi, hp, hw, ho⟩

/-- In a run that waits, every callback that runs has its session. -/
theorem attended_of_waits {ov : Int → Int} {w₀ : Threads} (h : Begin ov w₀) {is : List Section}
    (hv : (threads ov).Valid w₀ is) (hw : DestructorWaits ov w₀ is) :
    ∀ e ∈ (threads ov).trace w₀ is, Attended e.pre := by
  have h₀ : Attended w₀ := by
    intro c hc
    rw [h.quiet] at hc
    exact absurd hc List.not_mem_nil
  refine (Machine.run_induction (M := threads ov) (P := fun t w => Paired w ∧
    ((∀ e ∈ t, Waits e.pre e.input) → Attended w ∧ ∀ e ∈ t, Attended e.pre))
    ⟨h.paired, fun _ => ⟨h₀, by simp⟩⟩ ?_ hv).2 hw |>.2
  rintro t w i ⟨hp, ht⟩ hi
  refine ⟨hp.next hi, fun hw => ?_⟩
  obtain ⟨ha, ht⟩ := ht fun e he => hw e (List.mem_append_left _ he)
  refine ⟨ha.next hp hi (hw _ (List.mem_append_right _ (List.mem_singleton_self _))), ?_⟩
  intro e he
  rcases List.mem_append.mp he with he | he
  · exact ht e he
  · obtain rfl := List.mem_singleton.mp he
    exact ha

/-- **The two tables correspond.**  Between two callbacks the sessions are those of the entries in
use; at every step a session's entry, if it is in use, holds the session's own connection; and
messages stay with their connection: those that are received, and, where the destructors wait as
libdatachannel promises, those that sessions send. -/
theorem sessions_follow_connections {ov : Int → Int} {w₀ : Threads} (h : Begin ov w₀)
    {is : List Section} (hv : (threads ov).Valid w₀ is) :
    (((threads ov).final w₀ is).place = .idle → Corresponds ((threads ov).final w₀ is)) ∧
      Belongs ((threads ov).final w₀ is) ∧
      (∀ e ∈ (threads ov).trace w₀ is, Received e) ∧
      (DestructorWaits ov w₀ is → ∀ e ∈ (threads ov).trace w₀ is, Sent e) := by
  have hstep : ∀ w e, Paired w → (threads ov).enabled w e → Paired ((threads ov).next w e) :=
    fun w e hw he => hw.next he
  have hfin := Machine.invariant h.paired hstep hv
  refine ⟨hfin.corresponds, hfin.belongs, fun e he => ?_, fun hwait e he => ?_⟩
  · obtain ⟨hp, -, hout⟩ := Machine.invariant_trace h.paired hstep hv he
    intro throws i wsi rx hi hplace
    rw [hout, hi]
    exact hp.handle_out hplace ov throws
  · obtain ⟨hp, -, hout⟩ := Machine.invariant_trace h.paired hstep hv he
    intro k io p call hi hk
    -- the callback has its session
    have ha : Alive e.pre p := attended_of_waits h hv hwait e he _ (List.mem_of_getElem? hk)
    rw [hout, hi]
    exact fun fx hfx => hp.send_out ov io hk ha hfx

/-- The threads after a first `nearcade_init`. -/
def Threads.first : Threads := ⟨World.first.sdk, ∅, .idle, fun _ => 0, []⟩

theorem begin_first (ov : Int → Int) : Begin ov .first :=
  ⟨started_first ov, fun _ => rfl, rfl, rfl, rfl⟩

/-- An offer, as a session sends it. -/
def offerMessage : Bytes := bytes "\x7b\"type\":\"offer\",\"sdp\":\"v=0\"\x7d"

/-- An answer, as a viewer sends it. -/
def answerMessage : Bytes := bytes "\x7b\"type\":\"answer\",\"sdp\":\"v=0\"\x7d"

/-- A viewer connects on `wsi`, gets an offer from its session, the PeerConnection `pc`, and
answers. -/
def handshake (wsi : Wsi) (pc : PcId) : List Section :=
  [.established wsi (bytes "/viewer") [], .build, .push,
   .localDescription pc (bytes "offer") (bytes "v=0"), .send 0 ⟨true, 1000⟩,
   .receive wsi answerMessage, .handle fun _ => false]

/-- A viewer comes and goes, and another takes its entry. -/
def reused : List Section := handshake 7 0 ++ [.closed 7, .leave] ++ handshake 8 1

theorem sessions_follow_connections_reused :
    let w := (threads id).final .first reused
    let t := (threads id).trace .first reused
    Corresponds w ∧ Belongs w ∧ (∀ e ∈ t, Received e) ∧ (∀ e ∈ t, Sent e) ∧
      w.sdk.sig.gViewerWs 0 = some 8 ∧ w.sdk.rtc.gSessions.map (·.pc) = [some 1] ∧
      .lwsWrite 7 offerMessage ∈ outputs t ∧ .lwsWrite 8 offerMessage ∈ outputs t ∧
      .rtc (.setRemoteDescription 0 (bytes "v=0") (bytes "answer")) ∈ outputs t ∧
      .rtc (.setRemoteDescription 1 (bytes "v=0") (bytes "answer")) ∈ outputs t := by
  have hv : (threads id).Valid .first reused := by decide +kernel
  have hidle : ((threads id).final .first reused).place = .idle := by decide +kernel
  have hwaits : DestructorWaits id .first reused := by decide +kernel
  obtain ⟨htables, hbelongs, hreceived, hsent⟩ := sessions_follow_connections (begin_first id) hv
  exact ⟨htables hidle, hbelongs, hreceived, hsent hwaits, by decide +kernel, by decide +kernel,
    by decide +kernel, by decide +kernel, by decide +kernel, by decide +kernel⟩

/-- A callback of the first session runs on while the session goes and another connection takes the
entry. -/
def overtaken : List Section :=
  [.established 7 (bytes "/viewer") [], .build, .push,
   .localDescription 0 (bytes "offer") (bytes "v=0"), .closed 7, .leave,
   .established 8 (bytes "/viewer") [], .build, .push]

/-- **The promise is needed**: if the destructor of a PeerConnection did not wait, what a session
sends could go to the next connection. -/
theorem leaks_unless_waits : ¬ ∀ is, (threads id).Valid .first is →
    ∀ e ∈ (threads id).trace .first is, Sent e := by
  intro h
  obtain ⟨-, frame, -, he⟩ := h (overtaken ++ [.send 0 ⟨true, 1000⟩]) (by decide +kernel) _
    ((Machine.prefix_trace (threads id) .first overtaken (.send 0 ⟨true, 1000⟩) []).subset
      (List.mem_append_right _ (List.mem_singleton_self _)))
    0 _ 0 (some (viewerId 0, offerMessage)) rfl (by decide +kernel) (.lwsWrite 8 offerMessage)
    (by decide +kernel)
  exact absurd (Effect.lwsWrite.inj he).1 (by decide +kernel)

/-! ### The callbacks of the SDK -/

/-- The callbacks of libwebsockets, and those of libdatachannel for a session in the list, each as
one step of the SDK. -/
def callbacks (ov : Int → Int) : Machine World Net Effect where
  enabled w n := n.Enabled w ∧
    match n with
    | .established .. | .closed _ | .receive .. => True
    | .localDescription pc .. | .localCandidate pc .. =>
        ∃ sess ∈ w.sdk.rtc.gSessions, sess.pc = some pc
    | .stateChange .. | .message .. => False
  next w n := (system ov).next w (.net n)
  out w n := (system ov).out w (.net n)

/-- The threads stand between two callbacks, in the same world. -/
structure Between (w : World) (t : Threads) : Prop where
  sdk : t.sdk = w.sdk
  live : t.live = w.live
  idle : t.place = .idle
  quiet : t.inFlight = []
  paired : Paired t

theorem Between.run {ov : Int → Int} {w w' : World} {t t' : Threads} {os : List Effect}
    (h : Between w t) (ht : (threads ov).Takes t t' os) (hsdk : t'.sdk = w'.sdk)
    (hlive : t'.live = w'.live) (hidle : t'.place = .idle) (hquiet : t'.inFlight = []) :
    Between w' t' :=
  ⟨hsdk, hlive, hidle, hquiet, ht.invariant h.paired fun _ _ hw he => hw.next he⟩

theorem takes_section (ov : Int → Int) {t : Threads} {e : Section} (he : e.Enabled t) :
    (threads ov).Takes t (e.next t) (e.out ov t) := Machine.Takes.step he

/-- `webrtc_viewer_joined`, from its call to its return. -/
theorem takes_join (ov : Int → Int) {t : Threads} {i : Fin maxViewers} {wsi : Wsi}
    (hp : t.place = .joining i wsi) (hinit : t.sdk.rtc.gInitialized = true) :
    ∃ t', (threads ov).Takes t t' [] ∧
      t'.sdk = { t.sdk with rtc := createSession t.sdk.rtc (i.val : Int) } ∧ t'.live = t.live ∧
      t'.place = .idle ∧ t'.inFlight = t.inFlight := by
  have hbuild : Section.build.Enabled t := ⟨i, wsi, hp⟩
  have hplace : (Section.build.next t).place =
      .pushing i wsi (newSession t.sdk.rtc (i.val : Int)) := by
    simp only [Section.next, hp, if_pos hinit]
  have hpush : Section.push.Enabled (Section.build.next t) := ⟨i, wsi, _, hplace⟩
  refine ⟨_, (takes_section ov hbuild).trans (takes_section ov hpush), ?_, ?_, ?_, ?_⟩ <;>
    simp [Section.next, hp, hinit, createSession]

/-- `LWS_CALLBACK_ESTABLISHED`. -/
theorem takes_established (ov : Int → Int) {w : World} {t : Threads} (h : Between w t)
    {wsi : Wsi} (hw : wsi ∉ w.live) (uri stack : Bytes) :
    ∃ t', (threads ov).Takes t t' [] ∧
      Between ⟨callbackEstablished w.sdk wsi uri stack, insert wsi w.live⟩ t' := by
  have hcb := h.sdk ▸ h.paired.viewerCb
  have hinit := h.sdk ▸ h.paired.init
  have he : (Section.established wsi uri stack).Enabled t := ⟨h.idle, h.live ▸ hw⟩
  have ht := takes_section ov he
  have hnone : ∀ {sig}, Signaling.established w.sdk.sig wsi (Signaling.lwsHdrCopy uri stack) =
      (sig, none) → ∃ t', (threads ov).Takes t t' [] ∧
        Between ⟨callbackEstablished w.sdk wsi uri stack, insert wsi w.live⟩ t' := by
    intro sig e
    refine ⟨_, ht, h.run ht ?_ ?_ ?_ h.quiet⟩ <;>
      simp [Section.next, h.sdk, h.live, e, viewerCall, callbackEstablished, callViewerCb]
  rcases Signaling.established_cases w.sdk.sig wsi (Signaling.lwsHdrCopy uri stack) with
    ⟨-, e⟩ | ⟨-, i, -, -, e⟩ | ⟨-, -, e⟩
  · exact hnone e
  · have hplace : ((Section.established wsi uri stack).next t).place = .joining i wsi := by
      simp only [Section.next, h.sdk, e, viewerCall, if_pos hcb]
    obtain ⟨t', ht', hsdk, hlive, hidle, hquiet⟩ := takes_join ov hplace
      (by simp only [Section.next, h.sdk, hinit])
    refine ⟨t', ht.trans ht', h.run (ht.trans ht') ?_ ?_ hidle (hquiet.trans h.quiet)⟩
    · rw [hsdk]
      simp [Section.next, h.sdk, e, callbackEstablished, callViewerCb, hcb, onSignalingViewer,
        webrtcViewerJoined, hinit]
    · rw [hlive]
      simp [Section.next, h.live]
  · exact hnone e

/-- `LWS_CALLBACK_CLOSED`. -/
theorem takes_closed (ov : Int → Int) {w : World} {t : Threads} (h : Between w t)
    {wsi : Wsi} (hw : wsi ∈ w.live) :
    ∃ t', (threads ov).Takes t t' [] ∧
      Between ⟨callbackClosed w.sdk wsi, w.live.erase wsi⟩ t' := by
  have hcb := h.sdk ▸ h.paired.viewerCb
  have he : (Section.closed wsi).Enabled t := ⟨h.idle, h.live ▸ hw⟩
  have ht := takes_section ov he
  have hnone : ∀ {sig}, Signaling.closed w.sdk.sig wsi = (sig, none) →
      ∃ t', (threads ov).Takes t t' [] ∧
        Between ⟨callbackClosed w.sdk wsi, w.live.erase wsi⟩ t' := by
    intro sig e
    refine ⟨_, ht, h.run ht ?_ ?_ ?_ h.quiet⟩ <;>
      simp [Section.next, h.sdk, h.live, e, viewerCall, callbackClosed, callViewerCb]
  rcases Signaling.closed_cases w.sdk.sig wsi with ⟨-, e⟩ | ⟨-, i, -, e⟩ | ⟨-, -, e⟩
  · exact hnone e
  · have hplace : ((Section.closed wsi).next t).place = .leaving i wsi := by
      simp only [Section.next, h.sdk, e, viewerCall, if_pos hcb]
    have hleave : Section.leave.Enabled ((Section.closed wsi).next t) := ⟨i, wsi, hplace⟩
    have ht' := ht.trans (takes_section ov hleave)
    refine ⟨_, ht', h.run ht' ?_ ?_ ?_ ?_⟩ <;>
      simp [Section.next, h.sdk, h.live, h.quiet, e, viewerCall, callbackClosed, callViewerCb,
        hcb, onSignalingViewer]
  · exact hnone e

/-- `LWS_CALLBACK_RECEIVE`. -/
theorem takes_receive (ov : Int → Int) {w : World} {t : Threads} (h : Between w t)
    {wsi : Wsi} (hw : wsi ∈ w.live) (input : Bytes) (throws : RtcCall → Bool) :
    ∃ t', (threads ov).Takes t t' (callbackReceive ov throws w.sdk wsi input) ∧
      Between w t' := by
  have he : (Section.receive wsi input).Enabled t := ⟨h.idle, h.live ▸ hw⟩
  have ht := takes_section ov he
  cases hs : Signaling.senderOf w.sdk.sig wsi with
  | host | unknown =>
      have hout : (Section.receive wsi input).out ov t =
          callbackReceive ov throws w.sdk wsi input := by
        simp only [Section.out, callbackReceive, h.sdk, hs]
      refine ⟨_, hout ▸ ht, h.run ht ?_ ?_ ?_ ?_⟩ <;>
        simp [Section.next, h.sdk, h.live, h.idle, h.quiet, hs]
  | viewer i =>
      have hplace : ((Section.receive wsi input).next t).place =
          .handling i wsi (Signaling.rxBuf input) := by
        simp only [Section.next, h.sdk, hs]
      have hsdk : ((Section.receive wsi input).next t).sdk = w.sdk := by
        simp only [Section.next, h.sdk, hs]
      have hhandle : (Section.handle throws).Enabled ((Section.receive wsi input).next t) :=
        ⟨i, wsi, _, hplace⟩
      have ht' := ht.trans (takes_section ov hhandle)
      have hout : (Section.receive wsi input).out ov t ++
          (Section.handle throws).out ov ((Section.receive wsi input).next t) =
          callbackReceive ov throws w.sdk wsi input := by
        simp only [Section.out, hplace, hsdk, h.sdk, hs, callbackReceive, List.nil_append]
      refine ⟨_, hout ▸ ht', h.run ht' ?_ ?_ ?_ ?_⟩ <;>
        simp [Section.next, h.sdk, h.live, h.quiet, hs]

/-- A callback of libdatachannel, from its start to its return. -/
theorem takes_send (ov : Int → Int) {w : World} {t : Threads} (h : Between w t) (pc : PcId)
    {e : Section} {call : Option (Bytes × Bytes)} (he : e.Enabled t)
    (hnext : e.next t = { t with inFlight := t.inFlight ++ [(pc, call)] })
    (hout : e.out ov t = []) (io : Signaling.Io) :
    ∃ t', (threads ov).Takes t t' (webrtcSendViaSignaling ov io w.sdk call) ∧ Between w t' := by
  have hfly : (e.next t).inFlight = [(pc, call)] := by rw [hnext, h.quiet]; rfl
  have hsend : (Section.send 0 io).Enabled (e.next t) := by
    show 0 < _
    rw [hfly]
    exact Nat.one_pos
  have ht := (takes_section ov he).trans (takes_section ov hsend)
  have hout' : e.out ov t ++ (Section.send 0 io).out ov (e.next t) =
      webrtcSendViaSignaling ov io w.sdk call := by
    have hsdk : (e.next t).sdk = w.sdk := by rw [hnext]; exact h.sdk
    rw [hout, List.nil_append]
    simp only [Section.out, hfly, hsdk, List.getElem?_cons_zero]
  refine ⟨_, hout' ▸ ht, h.run ht ?_ ?_ ?_ ?_⟩
  · show (e.next t).sdk = w.sdk
    rw [hnext]
    exact h.sdk
  · show (e.next t).live = w.live
    rw [hnext]
    exact h.live
  · show (e.next t).place = .idle
    rw [hnext]
    exact h.idle
  · show (e.next t).inFlight.eraseIdx 0 = []
    rw [hfly]
    rfl

/-- **The callbacks of the SDK are runs of the threads.** -/
theorem threads_of_callbacks {ov : Int → Int} {w : World} {t : Threads} (h : Between w t)
    {is : List Net} (hv : (callbacks ov).Valid w is) :
    ∃ t', (threads ov).Takes t t' (outputs ((callbacks ov).trace w is)) ∧
      Between ((callbacks ov).final w is) t' := by
  refine Machine.simulate (fun w t n h he => ?_) h hv
  obtain ⟨he, hwhich⟩ := he
  cases n with
  | established wsi uri stack => exact takes_established ov h he uri stack
  | closed wsi => exact takes_closed ov h he
  | receive wsi input throws => exact takes_receive ov h he input throws
  | localDescription pc type sdp io =>
      have he : (Section.localDescription pc type sdp).Enabled t :=
        .inl (by rw [h.sdk]; exact hwhich)
      exact takes_send ov h pc he (by rw [← h.sdk]; rfl) rfl io
  | localCandidate pc cand io =>
      have he : (Section.localCandidate pc cand).Enabled t := .inl (by rw [h.sdk]; exact hwhich)
      exact takes_send ov h pc he (by rw [← h.sdk]; rfl) rfl io
  | stateChange _ _ | message _ _ => exact hwhich.elim

/-- So between two callbacks of the SDK the sessions are those of the entries in use. -/
theorem callbacks_correspond {ov : Int → Int} {w : World} (h : Started ov w)
    (hv₀ : ∀ i, w.sdk.sig.gViewerWs i = none) (hs₀ : w.sdk.rtc.gSessions = []) {is : List Net}
    (hv : (callbacks ov).Valid w is) (i : Fin maxViewers) :
    HasSession ((callbacks ov).final w is).sdk.rtc i ↔
      ((callbacks ov).final w is).sdk.sig.gViewerWs i ≠ none := by
  have hb : Begin ov ⟨w.sdk, w.live, .idle, fun _ => 0, []⟩ := ⟨h, hv₀, hs₀, rfl, rfl⟩
  obtain ⟨t', -, h'⟩ := threads_of_callbacks ⟨rfl, rfl, rfl, rfl, hb.paired⟩ hv
  rw [← h'.sdk]
  exact h'.paired.matched_idle h'.idle i not_false

end Nearcade.Service
