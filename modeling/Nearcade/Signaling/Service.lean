import Nearcade.Signaling.Table
import Nearcade.System.Invariants

/-!
# Signaling — Service

The service thread at the granularity of its locks.  A libwebsockets callback takes `g_ws_lock`
for the table of connections, lets it go, and then calls into the WebRTC module, which takes its
own lock for the sessions: `threads` is the machine whose steps are these sections, with the
callbacks of libdatachannel, on threads of their own, between any two of them.

A ghost `owner` remembers for each PeerConnection the connection `create_session` was running
for.  A callback of libdatachannel starts only while its session is there or being made.  In
`threads` it may still run when the session goes; libdatachannel promises more, that the destructor
of a PeerConnection returns only when the callbacks that run have returned (`Waits`).

* `Paired`: the invariant.  The sessions are those of the entries in use, but for the entry the
  service thread is working on, and each belongs to the connection in its entry.
* `Paired.next`: every section keeps it.
* `Attended.next`: where the destructors wait, every callback that runs has its session.
-/

namespace Nearcade.Service
open Text Runs Webrtc

/-- Where the service thread is. -/
inductive Place where
  | idle
  /-- The connection has its entry; `webrtc_viewer_joined` comes next. -/
  | joining (i : Fin maxViewers) (wsi : Wsi)
  /-- `create_session` has made `sess`, and waits for the lock to store it. -/
  | pushing (i : Fin maxViewers) (wsi : Wsi) (sess : WebrtcSession)
  /-- The connection has left its entry; `webrtc_viewer_left` comes next. -/
  | leaving (i : Fin maxViewers) (wsi : Wsi)
  /-- A message has come from the connection in an entry; `g_msg_cb` comes next. -/
  | handling (i : Fin maxViewers) (wsi : Wsi) (rx : Bytes)
  deriving DecidableEq

/-- The SDK, the live connections, the service thread, the connection each PeerConnection was
made for, and the callbacks of libdatachannel that run, each with its call of `g_send_cb`. -/
structure Threads where
  sdk : State
  live : Finset Wsi
  place : Place
  owner : PcId → Wsi
  inFlight : List (PcId × Option (Bytes × Bytes))

/-- The sections. -/
inductive Section where
  | established (wsi : Wsi) (uri stack : Bytes)
  | build
  | push
  | closed (wsi : Wsi)
  | leave
  | receive (wsi : Wsi) (input : Bytes)
  | handle (throws : RtcCall → Bool)
  | localDescription (pc : PcId) (type sdp : Bytes)
  | localCandidate (pc : PcId) (cand : Bytes)
  | send (k : Nat) (io : Signaling.Io)

/-- The session of a PeerConnection is in `g_sessions`, or is being made. -/
def Alive (w : Threads) (pc : PcId) : Prop :=
  (∃ sess ∈ w.sdk.rtc.gSessions, sess.pc = some pc) ∨
    ∃ i wsi sess, w.place = .pushing i wsi sess ∧ sess.pc = some pc

/-- What a section needs. -/
def Section.Enabled (w : Threads) : Section → Prop
  | .established wsi .. => w.place = .idle ∧ wsi ∉ w.live
  | .build => ∃ i wsi, w.place = .joining i wsi
  | .push => ∃ i wsi sess, w.place = .pushing i wsi sess
  | .closed wsi | .receive wsi _ => w.place = .idle ∧ wsi ∈ w.live
  | .leave => ∃ i wsi, w.place = .leaving i wsi
  | .handle _ => ∃ i wsi rx, w.place = .handling i wsi rx
  | .localDescription pc .. | .localCandidate pc _ => Alive w pc
  | .send k _ => k < w.inFlight.length

instance (p : Place) : Decidable (∃ i wsi, p = .joining i wsi) :=
  match p with
  | .joining i wsi => isTrue ⟨i, wsi, rfl⟩
  | .idle | .pushing .. | .leaving .. | .handling .. => isFalse (by simp)

instance (p : Place) : Decidable (∃ i wsi sess, p = .pushing i wsi sess) :=
  match p with
  | .pushing i wsi sess => isTrue ⟨i, wsi, sess, rfl⟩
  | .idle | .joining .. | .leaving .. | .handling .. => isFalse (by simp)

instance (p : Place) : Decidable (∃ i wsi, p = .leaving i wsi) :=
  match p with
  | .leaving i wsi => isTrue ⟨i, wsi, rfl⟩
  | .idle | .joining .. | .pushing .. | .handling .. => isFalse (by simp)

instance (p : Place) : Decidable (∃ i wsi rx, p = .handling i wsi rx) :=
  match p with
  | .handling i wsi rx => isTrue ⟨i, wsi, rx, rfl⟩
  | .idle | .joining .. | .pushing .. | .leaving .. => isFalse (by simp)

instance (p : Place) (pc : PcId) :
    Decidable (∃ i wsi sess, p = .pushing i wsi sess ∧ sess.pc = some pc) :=
  match p with
  | .pushing i wsi sess => decidable_of_iff (sess.pc = some pc) (by simp)
  | .idle | .joining .. | .leaving .. | .handling .. => isFalse (by simp)

instance (w : Threads) (pc : PcId) : Decidable (Alive w pc) := inferInstanceAs (Decidable (_ ∨ _))

instance (w : Threads) : ∀ e : Section, Decidable (e.Enabled w)
  | .established .. | .closed _ | .receive .. => inferInstanceAs (Decidable (_ ∧ _))
  | .build => inferInstanceAs (Decidable (∃ i wsi, w.place = .joining i wsi))
  | .push => inferInstanceAs (Decidable (∃ i wsi sess, w.place = .pushing i wsi sess))
  | .leave => inferInstanceAs (Decidable (∃ i wsi, w.place = .leaving i wsi))
  | .handle _ => inferInstanceAs (Decidable (∃ i wsi rx, w.place = .handling i wsi rx))
  | .localDescription pc .. | .localCandidate pc _ => inferInstanceAs (Decidable (Alive w pc))
  | .send k _ => inferInstanceAs (Decidable (k < w.inFlight.length))

/-- The call of `g_viewer_cb` after a section that left `idx`, if one is made. -/
def viewerCall (sig : Signaling.State) (idx : Option (Fin maxViewers))
    (place : Fin maxViewers → Place) : Place :=
  match idx with
  | some i => if sig.gViewerCb then place i else .idle
  | none => .idle

/-- The sections of the service thread after the first. -/
def Section.next (w : Threads) : Section → Threads
  | .established wsi uri stack =>
      let (sig, idx) := Signaling.established w.sdk.sig wsi (Signaling.lwsHdrCopy uri stack)
      { w with
        sdk := { w.sdk with sig := sig }
        live := insert wsi w.live
        place := viewerCall sig idx (.joining · wsi) }
  | .build =>
      match w.place with
      | .joining i wsi =>
          if w.sdk.rtc.gInitialized then
            { w with
              sdk := { w.sdk with rtc := buildSession w.sdk.rtc (i.val : Int) }
              owner := Function.update w.owner w.sdk.rtc.pcs.length wsi
              place := .pushing i wsi (newSession w.sdk.rtc (i.val : Int)) }
          else { w with place := .idle }
      | _ => w
  | .push =>
      match w.place with
      | .pushing _ _ sess =>
          { w with sdk := { w.sdk with rtc := pushSession w.sdk.rtc sess }, place := .idle }
      | _ => w
  | .closed wsi =>
      let (sig, idx) := Signaling.closed w.sdk.sig wsi
      { w with
        sdk := { w.sdk with sig := sig }
        live := w.live.erase wsi
        place := viewerCall sig idx (.leaving · wsi) }
  | .leave =>
      match w.place with
      | .leaving i _ =>
          { w with
            sdk := { w.sdk with rtc := webrtcViewerLeft w.sdk.rtc (i.val : Int) }
            place := .idle }
      | _ => w
  | .receive wsi input =>
      match Signaling.senderOf w.sdk.sig wsi with
      | .viewer i => { w with place := .handling i wsi (Signaling.rxBuf input) }
      | .host | .unknown => w
  | .handle _ => { w with place := .idle }
  | .localDescription pc type sdp =>
      { w with inFlight := w.inFlight ++ [(pc, onLocalDescription w.sdk.rtc pc type sdp)] }
  | .localCandidate pc cand =>
      { w with inFlight := w.inFlight ++ [(pc, onLocalCandidate w.sdk.rtc pc cand)] }
  | .send k _ => { w with inFlight := w.inFlight.eraseIdx k }

/-- What a section does to the world outside. -/
def Section.out (ov : Int → Int) (w : Threads) : Section → List Effect
  | .receive wsi input =>
      match Signaling.senderOf w.sdk.sig wsi with
      | .host => fireEvent w.sdk.g
          (Signaling.signalingEvent (bytes "host") (Signaling.rxBuf input))
      | .viewer _ | .unknown => []
  | .handle throws =>
      match w.place with
      | .handling i _ rx => handleViewerMessage ov throws w.sdk i rx
      | _ => []
  | .send k io =>
      match w.inFlight[k]? with
      | some (_, call) => webrtcSendViaSignaling ov io w.sdk call
      | none => []
  | .established .. | .build | .push | .closed _ | .leave | .localDescription ..
  | .localCandidate .. => []

/-- **The service thread and the threads of libdatachannel.** -/
def threads (ov : Int → Int) : Machine Threads Section Effect where
  enabled := Section.Enabled
  next := Section.next
  out := Section.out ov

instance (ov : Int → Int) (w : Threads) (e : Section) : Decidable ((threads ov).enabled w e) :=
  inferInstanceAs (Decidable (e.Enabled w))

/-! ### The invariant -/

/-- There is a session of index `i`. -/
def HasSession (st : Webrtc.State) (i : Fin maxViewers) : Prop :=
  ∃ sess ∈ st.gSessions, sess.viewerIdx = (i.val : Int)

/-- The sessions are those of the entries in use, where `but` does not say otherwise. -/
def Matched (s : State) (but : Fin maxViewers → Prop) : Prop :=
  ∀ i, ¬ but i → (HasSession s.rtc i ↔ s.sig.gViewerWs i ≠ none)

/-- A session, its index, and the connection it was made for, unless its entry is empty. -/
structure Owned (s : State) (owner : PcId → Wsi) (sess : WebrtcSession) (i : Fin maxViewers)
    (p : PcId) : Prop where
  idx : sess.viewerIdx = (i.val : Int)
  pc : sess.pc = some p
  captured : s.rtc.captured p = some (i.val : Int)
  owner : ∀ wsi, s.sig.gViewerWs i = some wsi → owner p = wsi

/-- What holds of the entry the service thread is working on. -/
def PlaceOk (w : Threads) : Prop :=
  match w.place with
  | .idle => Matched w.sdk fun _ => False
  | .joining i wsi =>
      w.sdk.sig.gViewerWs i = some wsi ∧ ¬ HasSession w.sdk.rtc i ∧ Matched w.sdk (· = i)
  | .pushing i wsi sess =>
      w.sdk.sig.gViewerWs i = some wsi ∧ ¬ HasSession w.sdk.rtc i ∧ Matched w.sdk (· = i) ∧
        ∃ p, Owned w.sdk w.owner sess i p
  | .leaving i _ => w.sdk.sig.gViewerWs i = none ∧ Matched w.sdk (· = i)
  | .handling i wsi _ =>
      w.sdk.sig.gViewerWs i = some wsi ∧ Matched w.sdk fun _ => False

/-- **The invariant of the two tables.** -/
structure Paired (w : Threads) : Prop where
  init : w.sdk.rtc.gInitialized = true
  viewerCb : w.sdk.sig.gViewerCb = true
  msgCb : w.sdk.sig.gMsgCb = true
  table : Signaling.TableInv w.sdk.sig w.live
  nodup : (w.sdk.rtc.gSessions.map (·.viewerIdx)).Nodup
  owned : ∀ sess ∈ w.sdk.rtc.gSessions, ∃ i p, Owned w.sdk w.owner sess i p
  place : PlaceOk w
  flying : ∀ c ∈ w.inFlight, ∀ vid data, c.2 = some (vid, data) →
    ∃ idx, w.sdk.rtc.captured c.1 = some idx ∧ vid = viewerId idx

theorem Paired.matched_idle {w : Threads} (h : Paired w) (hp : w.place = .idle) :
    Matched w.sdk fun _ => False := by
  have := h.place
  rwa [PlaceOk, hp] at this

/-- A step of the service thread that leaves the WebRTC module alone. -/
theorem Paired.frame {w w' : Threads} (h : Paired w) (hrtc : w'.sdk.rtc = w.sdk.rtc)
    (howner : w'.owner = w.owner) (hfly : w'.inFlight = w.inFlight)
    (hcb : w'.sdk.sig.gViewerCb = w.sdk.sig.gViewerCb)
    (hmsg : w'.sdk.sig.gMsgCb = w.sdk.sig.gMsgCb)
    (htable : Signaling.TableInv w'.sdk.sig w'.live) (hplace : PlaceOk w')
    (hentry : ∀ i, HasSession w.sdk.rtc i → ∀ wsi, w'.sdk.sig.gViewerWs i = some wsi →
      w.sdk.sig.gViewerWs i = some wsi) : Paired w' where
  init := by rw [hrtc]; exact h.init
  viewerCb := hcb.trans h.viewerCb
  msgCb := hmsg.trans h.msgCb
  table := htable
  nodup := by rw [hrtc]; exact h.nodup
  owned := by
    rw [hrtc]
    intro sess hs
    obtain ⟨i, p, o⟩ := h.owned sess hs
    exact ⟨i, p, o.idx, o.pc, by rw [hrtc]; exact o.captured, fun wsi e =>
      by rw [howner]; exact o.owner wsi (hentry i ⟨sess, hs, o.idx⟩ wsi e)⟩
  place := hplace
  flying := by
    rw [hfly, hrtc]
    exact h.flying

theorem Paired.established {w : Threads} (h : Paired w) (hp : w.place = .idle) {wsi : Wsi}
    (hw : wsi ∉ w.live) (uri stack : Bytes) :
    Paired (Section.next w (.established wsi uri stack)) := by
  have htable := h.table.established hw (Signaling.lwsHdrCopy uri stack)
  have hm := h.matched_idle hp
  rcases Signaling.established_cases w.sdk.sig wsi (Signaling.lwsHdrCopy uri stack) with
    ⟨-, e⟩ | ⟨-, i, hi, -, e⟩ | ⟨-, -, e⟩ <;> rw [e] at htable <;>
    simp only [Section.next, e, viewerCall, if_pos h.viewerCb]
  · exact h.frame rfl rfl rfl rfl rfl htable hm fun _ _ _ e => e
  · -- the entry was free, so its index has no session yet
    have hno : ¬ HasSession w.sdk.rtc i := fun hs => (hm i not_false).mp hs hi
    refine h.frame rfl rfl rfl rfl rfl htable ⟨Function.update_self .., hno, ?_⟩ ?_
    · intro j hj
      have := hm j not_false
      simp only [Function.update_of_ne hj]
      exact this
    · intro j hs wsi' hj
      rcases Table.store_cases hj with ⟨rfl, -⟩ | ⟨-, hj⟩
      · exact absurd hs hno
      · exact hj
  · exact h.frame rfl rfl rfl rfl rfl htable hm fun _ _ _ e => e

theorem Paired.closed {w : Threads} (h : Paired w) (hp : w.place = .idle) (wsi : Wsi) :
    Paired (Section.next w (.closed wsi)) := by
  have htable := h.table.closed wsi
  have hm := h.matched_idle hp
  rcases Signaling.closed_cases w.sdk.sig wsi with
    ⟨-, e⟩ | ⟨-, i, hi, e⟩ | ⟨-, -, e⟩ <;> rw [e] at htable <;>
    simp only [Section.next, e, viewerCall, if_pos h.viewerCb]
  · exact h.frame rfl rfl rfl rfl rfl htable hm fun _ _ _ e => e
  · refine h.frame rfl rfl rfl rfl rfl htable ⟨Function.update_self .., ?_⟩ ?_
    · intro j hj
      have := hm j not_false
      simp only [Function.update_of_ne hj]
      exact this
    · exact fun j _ wsi' hj => Table.eq_of_update_none hj
  · exact h.frame rfl rfl rfl rfl rfl htable hm fun _ _ _ e => e

theorem Paired.receive {w : Threads} (h : Paired w) (hp : w.place = .idle) (wsi : Wsi)
    (input : Bytes) : Paired (Section.next w (.receive wsi input)) := by
  simp only [Section.next, Signaling.senderOf]
  split
  · rename_i i hs
    have hi : w.sdk.sig.gViewerWs i = some wsi := by
      split at hs
      · cases hs
      · split at hs
        · rename_i j he
          obtain rfl := Signaling.Sender.viewer.inj hs
          exact Signaling.entryOf_eq_some he
        · cases hs
    exact h.frame rfl rfl rfl rfl rfl h.table ⟨hi, h.matched_idle hp⟩ fun _ _ _ e => e
  · exact h
  · exact h

theorem Paired.handle {w : Threads} (h : Paired w) {i : Fin maxViewers} {wsi : Wsi} {rx : Bytes}
    (hp : w.place = .handling i wsi rx) (throws : RtcCall → Bool) :
    Paired (Section.next w (.handle throws)) := by
  have hplace := h.place
  rw [PlaceOk, hp] at hplace
  exact h.frame rfl rfl rfl rfl rfl h.table hplace.2 fun _ _ _ e => e

theorem Paired.build {w : Threads} (h : Paired w) {i : Fin maxViewers} {wsi : Wsi}
    (hp : w.place = .joining i wsi) : Paired (Section.next w .build) := by
  have hplace := h.place
  rw [PlaceOk, hp] at hplace
  obtain ⟨hi, hno, hm⟩ := hplace
  simp only [Section.next, hp, if_pos h.init]
  refine ⟨h.init, h.viewerCb, h.msgCb, h.table, h.nodup, ?_,
    ⟨hi, hno, hm, w.sdk.rtc.pcs.length, ?_⟩, ?_⟩
  · intro sess hs
    obtain ⟨j, p, o⟩ := h.owned sess hs
    refine ⟨j, p, o.idx, o.pc, captured_build o.captured, fun wsi' e => ?_⟩
    exact (Function.update_of_ne (lt_of_captured o.captured).ne _ _).trans (o.owner wsi' e)
  · refine ⟨rfl, rfl, captured_build_new _ _, fun wsi' e => ?_⟩
    exact (Function.update_self ..).trans (Option.some.inj (hi.symm.trans e))
  · intro c hc vid data e
    obtain ⟨idx, hidx, hv⟩ := h.flying c hc vid data e
    exact ⟨idx, captured_build hidx, hv⟩

theorem Paired.push {w : Threads} (h : Paired w) {i : Fin maxViewers} {wsi : Wsi}
    {sess : WebrtcSession} (hp : w.place = .pushing i wsi sess) :
    Paired (Section.next w .push) := by
  have hplace := h.place
  rw [PlaceOk, hp] at hplace
  obtain ⟨hi, hno, hm, p, o⟩ := hplace
  simp only [Section.next, hp]
  refine ⟨h.init, h.viewerCb, h.msgCb, h.table, ?_, ?_, ?_, h.flying⟩
  · show ((w.sdk.rtc.gSessions ++ [sess]).map (·.viewerIdx)).Nodup
    rw [List.map_append, List.map_singleton, List.nodup_append]
    refine ⟨h.nodup, List.nodup_singleton _, fun a ha b hb => ?_⟩
    obtain ⟨sess', hs', rfl⟩ := List.mem_map.mp ha
    rw [List.mem_singleton.mp hb]
    exact fun e => hno ⟨sess', hs', e.trans o.idx⟩
  · intro sess' hs'
    rcases List.mem_append.mp hs' with hs' | hs'
    · obtain ⟨j, q, o'⟩ := h.owned sess' hs'
      exact ⟨j, q, o'.idx, o'.pc, o'.captured, o'.owner⟩
    · obtain rfl := List.mem_singleton.mp hs'
      exact ⟨i, p, o.idx, o.pc, o.captured, o.owner⟩
  · intro j _
    show (∃ sess' ∈ w.sdk.rtc.gSessions ++ [sess], sess'.viewerIdx = (j.val : Int)) ↔ _
    by_cases hj : j = i
    · subst hj
      exact iff_of_true ⟨sess, by simp, o.idx⟩ (by simp [hi])
    · rw [← hm j hj]
      constructor
      · -- the new session is not of this index
        rintro ⟨sess', hs', e⟩
        rcases List.mem_append.mp hs' with hs' | hs'
        · exact ⟨sess', hs', e⟩
        · obtain rfl := List.mem_singleton.mp hs'
          exact absurd (idx_inj (e.symm.trans o.idx)) hj
      · rintro ⟨sess', hs', e⟩
        exact ⟨sess', List.mem_append_left _ hs', e⟩

/-- In a well formed list the session of an index is the one that is found. -/
theorem Paired.find {w : Threads} (h : Paired w) {sess : WebrtcSession}
    (hs : sess ∈ w.sdk.rtc.gSessions) {i : Fin maxViewers} (hi : sess.viewerIdx = (i.val : Int)) :
    sessionForViewer w.sdk.rtc (i.val : Int) = some sess := by
  rw [← hi]
  exact Table.find_key h.nodup hs

/-- The sessions `webrtc_viewer_left` keeps. -/
theorem Paired.mem_left {w : Threads} (h : Paired w) {i : Fin maxViewers} {sess : WebrtcSession} :
    sess ∈ (webrtcViewerLeft w.sdk.rtc (i.val : Int)).gSessions ↔
      sess ∈ w.sdk.rtc.gSessions ∧ sess.viewerIdx ≠ (i.val : Int) :=
  Table.mem_erase_key h.nodup

theorem Paired.leave {w : Threads} (h : Paired w) {i : Fin maxViewers} {wsi : Wsi}
    (hp : w.place = .leaving i wsi) : Paired (Section.next w .leave) := by
  have hplace := h.place
  rw [PlaceOk, hp] at hplace
  obtain ⟨hi, hm⟩ := hplace
  simp only [Section.next, hp]
  refine ⟨h.init, h.viewerCb, h.msgCb, h.table, Table.nodup_erase_key h.nodup _, ?_, ?_, h.flying⟩
  · intro sess hs
    obtain ⟨j, p, o⟩ := h.owned sess (h.mem_left.mp hs).1
    exact ⟨j, p, o.idx, o.pc, o.captured, o.owner⟩
  · intro j _
    by_cases hj : j = i
    · subst hj
      refine iff_of_false ?_ (by simp [hi])
      rintro ⟨sess, hs, e⟩
      exact (h.mem_left.mp hs).2 e
    · refine Iff.trans ?_ (hm j hj)
      constructor
      · rintro ⟨sess, hs, e⟩
        exact ⟨sess, (h.mem_left.mp hs).1, e⟩
      · rintro ⟨sess, hs, e⟩
        exact ⟨sess, h.mem_left.mpr ⟨hs, fun e' => hj (idx_inj (e.symm.trans e'))⟩, e⟩

/-- What a callback of libdatachannel is going to send goes by its captured index. -/
theorem sendPrinted_id {st : Webrtc.State} {pc : PcId} {size : Nat} {text vid data : Bytes}
    (h : sendPrinted st pc size text = some (vid, data)) :
    ∃ idx, st.captured pc = some idx ∧ vid = viewerId idx := by
  rw [sendPrinted] at h
  split at h
  · cases h
  · rename_i idx hc
    split at h
    · exact ⟨idx, hc, (Prod.mk.inj (Option.some.inj h)).1.symm⟩
    · cases h

theorem Paired.start {w : Threads} (h : Paired w) {pc : PcId} {call : Option (Bytes × Bytes)}
    (hid : ∀ vid data, call = some (vid, data) →
      ∃ idx, w.sdk.rtc.captured pc = some idx ∧ vid = viewerId idx) :
    Paired { w with inFlight := w.inFlight ++ [(pc, call)] } :=
  ⟨h.init, h.viewerCb, h.msgCb, h.table, h.nodup, h.owned, h.place, fun c hc => by
    rcases List.mem_append.mp hc with hc | hc
    · exact h.flying c hc
    · obtain rfl := List.mem_singleton.mp hc
      exact hid⟩

/-- **Every section keeps the invariant.** -/
theorem Paired.next {w : Threads} (h : Paired w) {e : Section} (he : e.Enabled w) :
    Paired (e.next w) := by
  cases e with
  | established wsi uri stack => exact h.established he.1 he.2 uri stack
  | build => obtain ⟨i, wsi, hp⟩ := he; exact h.build hp
  | push => obtain ⟨i, wsi, sess, hp⟩ := he; exact h.push hp
  | closed wsi => exact h.closed he.1 wsi
  | leave => obtain ⟨i, wsi, hp⟩ := he; exact h.leave hp
  | receive wsi input => exact h.receive he.1 wsi input
  | handle throws => obtain ⟨i, wsi, rx, hp⟩ := he; exact h.handle hp throws
  | localDescription pc type sdp => exact h.start fun _ _ => sendPrinted_id
  | localCandidate pc cand => exact h.start fun _ _ => sendPrinted_id
  | send k io =>
      exact ⟨h.init, h.viewerCb, h.msgCb, h.table, h.nodup, h.owned, h.place,
        fun c hc => h.flying c (List.mem_of_mem_eraseIdx hc)⟩

/-! ### The callbacks that run -/

/-- Every callback that runs has its session. -/
def Attended (w : Threads) : Prop := ∀ c ∈ w.inFlight, Alive w c.1

/-- The destructor of a PeerConnection waits: the section lets no session go while one of its
callbacks runs. -/
def Waits (w : Threads) : Section → Prop
  | .leave => ∀ i wsi, w.place = .leaving i wsi →
      ∀ sess, sessionForViewer w.sdk.rtc (i.val : Int) = some sess →
        ∀ c ∈ w.inFlight, sess.pc ≠ some c.1
  | _ => True

instance (p : Place) (st : Webrtc.State) (fly : List (PcId × Option (Bytes × Bytes))) :
    Decidable (∀ i wsi, p = .leaving i wsi → ∀ sess, sessionForViewer st (i.val : Int) = some sess →
      ∀ c ∈ fly, sess.pc ≠ some c.1) :=
  match p with
  | .leaving i wsi =>
      decidable_of_iff (∀ sess ∈ sessionForViewer st (i.val : Int), ∀ c ∈ fly, sess.pc ≠ some c.1)
        ⟨fun h j wsi' e => by cases e; exact h, fun h => h i wsi rfl⟩
  | .idle | .joining .. | .pushing .. | .handling .. => isTrue (by simp)

instance (w : Threads) : ∀ e : Section, Decidable (Waits w e)
  | .leave => inferInstanceAs (Decidable (∀ i wsi, w.place = .leaving i wsi → ∀ sess,
      sessionForViewer w.sdk.rtc (i.val : Int) = some sess → ∀ c ∈ w.inFlight, sess.pc ≠ some c.1))
  | .established .. | .build | .push | .closed _ | .receive .. | .handle _ | .localDescription ..
  | .localCandidate .. | .send .. => isTrue trivial

/-- Unless a session is being made, the ones that are alive are in the list. -/
theorem Alive.mem {w : Threads} {pc : PcId} (h : Alive w pc)
    (hp : ∀ i wsi sess, w.place ≠ .pushing i wsi sess) :
    ∃ sess ∈ w.sdk.rtc.gSessions, sess.pc = some pc :=
  h.resolve_right fun ⟨i, wsi, sess, e, _⟩ => hp i wsi sess e

/-- A section of the service thread that keeps the list, from a place where no session is being
made. -/
theorem Attended.frame {w w' : Threads} (h : Attended w)
    (hp : ∀ i wsi sess, w.place ≠ .pushing i wsi sess)
    (hs : w'.sdk.rtc.gSessions = w.sdk.rtc.gSessions) (hfly : w'.inFlight = w.inFlight) :
    Attended w' := by
  intro c hc
  rw [hfly] at hc
  refine .inl ?_
  rw [hs]
  exact (h c hc).mem hp

theorem Attended.push {w : Threads} (h : Attended w) {i : Fin maxViewers} {wsi : Wsi}
    {sess : WebrtcSession} (hp : w.place = .pushing i wsi sess) :
    Attended (Section.next w .push) := by
  simp only [Section.next, hp]
  intro c hc
  refine .inl ?_
  -- the session that was being made is now in the list
  rcases h c hc with ⟨sess', hs', e⟩ | ⟨i', wsi', sess', hp', e⟩
  · exact ⟨sess', List.mem_append_left _ hs', e⟩
  · rw [hp] at hp'
    obtain ⟨-, -, rfl⟩ := Place.pushing.inj hp'
    exact ⟨sess, List.mem_append_right _ (List.mem_singleton_self _), e⟩

theorem Attended.leave {w : Threads} (h : Attended w) (hpair : Paired w) {i : Fin maxViewers}
    {wsi : Wsi} (hp : w.place = .leaving i wsi) (hw : Waits w .leave) :
    Attended (Section.next w .leave) := by
  simp only [Section.next, hp]
  intro c hc
  obtain ⟨sess, hs, e⟩ := (h c hc).mem (by rw [hp]; nofun)
  -- the session that goes has no callback running
  refine .inl ⟨sess, hpair.mem_left.mpr ⟨hs, fun e' => ?_⟩, e⟩
  exact hw i wsi hp sess (hpair.find hs e') c hc e

theorem Attended.start {w : Threads} (h : Attended w) {pc : PcId} (ha : Alive w pc)
    (call : Option (Bytes × Bytes)) :
    Attended { w with inFlight := w.inFlight ++ [(pc, call)] } := by
  intro c hc
  rcases List.mem_append.mp hc with hc | hc
  · exact h c hc
  · obtain rfl := List.mem_singleton.mp hc
    exact ha

/-- **Every section that waits keeps the sessions of the callbacks that run.** -/
theorem Attended.next {w : Threads} (h : Attended w) (hpair : Paired w) {e : Section}
    (he : e.Enabled w) (hw : Waits w e) : Attended (e.next w) := by
  cases e with
  | established wsi uri stack => exact h.frame (by rw [he.1]; nofun) rfl rfl
  | build =>
      obtain ⟨i, wsi, hp⟩ := he
      simp only [Section.next, hp, if_pos hpair.init]
      exact h.frame (by rw [hp]; nofun) rfl rfl
  | push => obtain ⟨i, wsi, sess, hp⟩ := he; exact h.push hp
  | closed wsi => exact h.frame (by rw [he.1]; nofun) rfl rfl
  | leave => obtain ⟨i, wsi, hp⟩ := he; exact h.leave hpair hp hw
  | receive wsi input =>
      simp only [Section.next]
      split
      · exact h.frame (by rw [he.1]; nofun) rfl rfl
      · exact h
      · exact h
  | handle throws =>
      obtain ⟨i, wsi, rx, hp⟩ := he
      exact h.frame (by rw [hp]; nofun) rfl rfl
  | localDescription pc type sdp => exact h.start he _
  | localCandidate pc cand => exact h.start he _
  | send k io => exact fun c hc => h c (List.mem_of_mem_eraseIdx hc)

end Nearcade.Service
