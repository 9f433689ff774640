import Nearcade.Signaling.Service

/-!
# Signaling — Restart

WebRTC goes down and comes up again under the service thread.  `webrtc_viewer_joined` takes three
steps there: it looks at `g_initialized`, it makes the session, and it stores it under the lock.
`restarts` is the machine in which the application thread runs `webrtc_shutdown`, clears the table
of connections and runs `webrtc_init` between any two of them.

The runs of WebRTC, from one `webrtc_init` to the next, are numbered.  A ghost `owner` remembers for
each PeerConnection the run in which its connection was accepted.

* `Inv.next`: a session of the run it is stored in keeps the table clean.
* `swept_iff`: no session is left over, all the way, just when every session is stored in the run in
  which its connection was accepted.
-/

namespace Nearcade.Restart
open Text Runs Webrtc Service

/-! ### The two threads -/

/-- Where the service thread is, with the run in which the connection was accepted. -/
inductive Place where
  | idle
  /-- `webrtc_viewer_joined` has not yet looked at `g_initialized`. -/
  | joining (i : Fin maxViewers) (run : Nat)
  /-- It has found it set. -/
  | building (i : Fin maxViewers) (run : Nat)
  /-- `create_session` has made `sess`, and waits for the lock to store it. -/
  | pushing (i : Fin maxViewers) (run : Nat) (sess : WebrtcSession)
  /-- The connection has left its entry; `webrtc_viewer_left` comes next. -/
  | leaving (i : Fin maxViewers)
  deriving DecidableEq

/-- The run in which the connection of a join was accepted. -/
def Place.run : Place → Option Nat
  | .joining _ run | .building _ run | .pushing _ run _ => some run
  | .idle | .leaving _ => none

/-- The statics of the two modules, the service thread, the number of the run, and the run in which
the connection of each PeerConnection was accepted. -/
structure Shared where
  sig : Signaling.State
  rtc : Webrtc.State
  place : Place
  run : Nat
  owner : PcId → Nat

/-- The program as it starts. -/
def Shared.boot : Shared := ⟨.boot, .boot, .idle, 0, fun _ => 0⟩

/-- The steps of the service thread, and those of `nearcade_init` and `nearcade_shutdown`. -/
inductive Step where
  | established (wsi : Wsi) (uri stack : Bytes)
  | test
  | build
  | push
  | closed (wsi : Wsi)
  | leave
  | webrtcInit
  | signalingInit (port : Int) (ctx : Option Nat) (thread : Bool)
  | webrtcShutdown
  | clearTables

/-- The call of `g_viewer_cb` after a section that left `idx`, if one is made. -/
def called (sig : Signaling.State) (idx : Option (Fin maxViewers))
    (place : Fin maxViewers → Place) : Place :=
  match idx with
  | some i => if sig.gViewerCb then place i else .idle
  | none => .idle

/-- `nearcade_init` comes when WebRTC is down, and `nearcade_shutdown` clears the table of
connections after it took WebRTC down. -/
def Step.Enabled (s : Shared) : Step → Prop
  | .established .. | .closed _ => s.place = .idle
  | .test => ∃ i run, s.place = .joining i run
  | .build => ∃ i run, s.place = .building i run
  | .push => ∃ i run sess, s.place = .pushing i run sess
  | .leave => ∃ i, s.place = .leaving i
  | .webrtcInit | .clearTables => s.rtc.gInitialized = false
  | .signalingInit .. | .webrtcShutdown => True

def Step.next (s : Shared) : Step → Shared
  | .established wsi uri stack =>
      let (sig, idx) := Signaling.established s.sig wsi (Signaling.lwsHdrCopy uri stack)
      { s with sig := sig, place := called sig idx (.joining · s.run) }
  | .test =>
      match s.place with
      | .joining i run =>
          { s with place := if s.rtc.gInitialized then .building i run else .idle }
      | _ => s
  | .build =>
      match s.place with
      | .building i run =>
          { s with
            rtc := buildSession s.rtc (i.val : Int)
            owner := Function.update s.owner s.rtc.pcs.length run
            place := .pushing i run (newSession s.rtc (i.val : Int)) }
      | _ => s
  | .push =>
      match s.place with
      | .pushing _ _ sess => { s with rtc := pushSession s.rtc sess, place := .idle }
      | _ => s
  | .closed wsi =>
      let (sig, idx) := Signaling.closed s.sig wsi
      { s with sig := sig, place := called sig idx .leaving }
  | .leave =>
      match s.place with
      | .leaving i => { s with rtc := webrtcViewerLeft s.rtc (i.val : Int), place := .idle }
      | _ => s
  -- `webrtc_init`, and the callbacks `nearcade_init` sets after it
  | .webrtcInit =>
      { s with
        rtc := webrtcUp s.rtc
        sig := Signaling.setInternalCallbacks s.sig
        run := s.run + 1 }
  | .signalingInit port ctx thread =>
      { s with sig := (Signaling.signalingInit port ctx thread s.sig).2.1 }
  | .webrtcShutdown => { s with rtc := Webrtc.webrtcShutdown s.rtc }
  | .clearTables => { s with sig := Signaling.clearTables s.sig }

/-- **The service thread and the application thread.** -/
def restarts : Machine Shared Step Effect where
  enabled := Step.Enabled
  next := Step.next
  out _ _ := []

instance (s : Shared) : ∀ e : Step, Decidable (e.Enabled s)
  | .established .. | .closed _ => inferInstanceAs (Decidable (s.place = .idle))
  | .test =>
      match h : s.place with
      | .joining i run => isTrue ⟨i, run, h⟩
      | .idle | .building .. | .pushing .. | .leaving _ => isFalse (by simp [Step.Enabled, h])
  | .build =>
      match h : s.place with
      | .building i run => isTrue ⟨i, run, h⟩
      | .idle | .joining .. | .pushing .. | .leaving _ => isFalse (by simp [Step.Enabled, h])
  | .push =>
      match h : s.place with
      | .pushing i run sess => isTrue ⟨i, run, sess, h⟩
      | .idle | .joining .. | .building .. | .leaving _ => isFalse (by simp [Step.Enabled, h])
  | .leave =>
      match h : s.place with
      | .leaving i => isTrue ⟨i, h⟩
      | .idle | .joining .. | .building .. | .pushing .. => isFalse (by simp [Step.Enabled, h])
  | .webrtcInit | .clearTables => inferInstanceAs (Decidable (s.rtc.gInitialized = false))
  | .signalingInit .. | .webrtcShutdown => isTrue trivial

instance (s : Shared) (e : Step) : Decidable (restarts.enabled s e) :=
  inferInstanceAs (Decidable (e.Enabled s))

/-! ### The law -/

/-- While WebRTC is down there is no session.  No two sessions have one index, and the session that
is found for an index is one of this run. -/
structure Swept (s : Shared) : Prop where
  down : s.rtc.gInitialized = false → s.rtc.gSessions = []
  distinct : (s.rtc.gSessions.map (·.viewerIdx)).Nodup
  current : ∀ idx sess, sessionForViewer s.rtc idx = some sess →
    ∃ p, sess.pc = some p ∧ s.owner p = s.run

/-- A session is stored while WebRTC is up, in the run in which its connection was accepted. -/
def InRun (s : Shared) : Step → Prop
  | .push => s.rtc.gInitialized = true ∧ s.place.run = some s.run
  | _ => True

instance (s : Shared) : ∀ e : Step, Decidable (InRun s e)
  | .push => inferInstanceAs (Decidable (_ ∧ _))
  | .established .. | .test | .build | .closed _ | .leave | .webrtcInit | .signalingInit ..
  | .webrtcShutdown | .clearTables => isTrue trivial

/-! ### The invariant -/

/-- What holds of a join: its index has no session, and it holds the entry while its run lasts. -/
structure Joins (s : Shared) (i : Fin maxViewers) (run : Nat) : Prop where
  alone : ¬ HasSession s.rtc i
  past : run ≤ s.run
  entry : s.rtc.gInitialized = true → run = s.run → s.sig.gViewerWs i ≠ none

/-- The PeerConnection of a session, with the run of its connection. -/
def Made (s : Shared) (sess : WebrtcSession) (run : Nat) : Prop :=
  ∃ p, sess.pc = some p ∧ s.owner p = run ∧ p < s.rtc.pcs.length

def PlaceOk (s : Shared) : Prop :=
  match s.place with
  | .idle | .leaving _ => True
  | .joining i run | .building i run => Joins s i run
  | .pushing i run sess => Joins s i run ∧ sess.viewerIdx = (i.val : Int) ∧ Made s sess run

/-- The invariant of the runs that meet the condition.  Every session is of this run, and its entry
is in use, or about to lose the session. -/
structure Inv (s : Shared) : Prop where
  down : s.rtc.gInitialized = false → s.rtc.gSessions = []
  callback : s.rtc.gInitialized = true → s.sig.gViewerCb = true
  distinct : (s.rtc.gSessions.map (·.viewerIdx)).Nodup
  owned : ∀ sess ∈ s.rtc.gSessions, ∃ i : Fin maxViewers, sess.viewerIdx = (i.val : Int) ∧
    Made s sess s.run ∧ (s.sig.gViewerWs i ≠ none ∨ s.place = .leaving i)
  place : PlaceOk s

theorem inv_boot : Inv .boot where
  down _ := rfl
  callback h := absurd h Bool.false_ne_true
  distinct := List.nodup_nil
  owned _ h := absurd h List.not_mem_nil
  place := trivial

section
variable {s : Shared}

theorem Inv.swept (h : Inv s) : Swept s := by
  refine ⟨h.down, h.distinct, fun idx sess hf => ?_⟩
  obtain ⟨-, -, ⟨p, hp, ho, -⟩, -⟩ := h.owned sess (List.mem_of_find?_eq_some hf)
  exact ⟨p, hp, ho⟩

/-- While WebRTC is down there is nothing to own. -/
theorem Inv.no_session (h : Inv s) (hd : s.rtc.gInitialized = false) {sess : WebrtcSession}
    (hs : sess ∈ s.rtc.gSessions) : False := by
  rw [h.down hd] at hs
  exact absurd hs List.not_mem_nil

/-- Where no connection has just left, the entry of a session is in use. -/
theorem Inv.used (h : Inv s) (hp : ∀ i, s.place ≠ .leaving i) {sess : WebrtcSession}
    (hs : sess ∈ s.rtc.gSessions) : ∃ i : Fin maxViewers, sess.viewerIdx = (i.val : Int) ∧
      Made s sess s.run ∧ s.sig.gViewerWs i ≠ none := by
  obtain ⟨i, hi, hm, hu⟩ := h.owned sess hs
  exact ⟨i, hi, hm, hu.resolve_right (hp i)⟩

/-- A join is left alone by what keeps its entry while its run lasts. -/
theorem PlaceOk.mono {s' : Shared} (h : PlaceOk s) (hp : s'.place = s.place)
    (hj : ∀ i run, Joins s i run → Joins s' i run)
    (hm : ∀ sess run, Made s sess run → Made s' sess run) : PlaceOk s' := by
  rw [PlaceOk, hp]
  rw [PlaceOk] at h
  cases e : s.place with
  | idle | leaving i => trivial
  | joining i run | building i run =>
      rw [e] at h
      exact hj i run h
  | pushing i run sess =>
      rw [e] at h
      exact ⟨hj i run h.1, h.2.1, hm sess run h.2.2⟩

/-! ### The service thread -/

/-- Where no connection has just left, what keeps the entries in use keeps the sessions. -/
theorem Inv.keep (h : Inv s) (hne : ∀ i, s.place ≠ .leaving i) {sig : Signaling.State}
    {place : Place} (hcb : sig.gViewerCb = s.sig.gViewerCb)
    (hws : ∀ i, s.sig.gViewerWs i ≠ none → sig.gViewerWs i ≠ none)
    (hok : PlaceOk { s with sig := sig, place := place }) :
    Inv { s with sig := sig, place := place } := by
  refine ⟨h.down, fun hi => hcb.trans (h.callback hi), h.distinct, fun sess hs => ?_, hok⟩
  obtain ⟨i, hi, hm, hu⟩ := h.used hne hs
  exact ⟨i, hi, hm, .inl (hws i hu)⟩

theorem Inv.established (h : Inv s) (hp : s.place = .idle) (wsi : Wsi) (uri stack : Bytes) :
    Inv (Step.next s (.established wsi uri stack)) := by
  have hne : ∀ i, s.place ≠ .leaving i := fun i => by simp [hp]
  simp only [Step.next]
  rcases Signaling.established_cases s.sig wsi (Signaling.lwsHdrCopy uri stack) with
    ⟨-, e⟩ | ⟨-, i, hi, -, e⟩ | ⟨-, -, e⟩ <;> rw [e]
  · exact h.keep hne rfl (fun _ hu => hu) trivial
  · refine h.keep hne rfl (fun j hu => ?_) ?_
    · have hji : j ≠ i := fun e => hu (e ▸ hi)
      simpa [Function.update_of_ne hji] using hu
    · simp only [called]
      split
      · -- a session of the index would need the entry
        refine ⟨fun ⟨sess, hs, hx⟩ => ?_, Nat.le_refl _, fun _ _ => ?_⟩
        · obtain ⟨j, hj, -, hu⟩ := h.used hne hs
          exact hu (idx_inj (hj.symm.trans hx) ▸ hi)
        · simp
      · trivial
  · exact h.keep hne rfl (fun _ hu => hu) trivial

theorem Inv.closed (h : Inv s) (hp : s.place = .idle) (wsi : Wsi) :
    Inv (Step.next s (.closed wsi)) := by
  have hne : ∀ i, s.place ≠ .leaving i := fun i => by simp [hp]
  simp only [Step.next]
  rcases Signaling.closed_cases s.sig wsi with ⟨-, e⟩ | ⟨-, i, -, e⟩ | ⟨-, -, e⟩ <;> rw [e]
  · exact h.keep hne rfl (fun _ hu => hu) trivial
  · refine ⟨h.down, h.callback, h.distinct, fun sess hs => ?_, ?_⟩
    · obtain ⟨j, hj, hm, hu⟩ := h.used hne hs
      -- there is a session, so WebRTC is up and the callback is set
      have hcb : s.sig.gViewerCb = true := by
        by_cases hd : s.rtc.gInitialized = true
        · exact h.callback hd
        · exact (h.no_session (Bool.eq_false_of_not_eq_true hd) hs).elim
      refine ⟨j, hj, hm, ?_⟩
      by_cases hji : j = i
      · exact .inr (by simp [called, hcb, hji])
      · exact .inl (by simpa [Function.update_of_ne hji] using hu)
    · simp only [called]
      split <;> trivial
  · exact h.keep hne rfl (fun _ hu => hu) trivial

theorem Inv.test (h : Inv s) {i : Fin maxViewers} {run : Nat} (hp : s.place = .joining i run) :
    Inv (Step.next s .test) := by
  have hne : ∀ i, s.place ≠ .leaving i := fun i => by simp [hp]
  have hplace := h.place
  rw [PlaceOk, hp] at hplace
  simp only [Step.next, hp]
  refine h.keep hne rfl (fun _ hu => hu) ?_
  by_cases hi : s.rtc.gInitialized = true
  · rw [if_pos hi]
    exact ⟨hplace.alone, hplace.past, hplace.entry⟩
  · rw [if_neg hi]
    trivial

theorem Inv.build (h : Inv s) {i : Fin maxViewers} {run : Nat} (hp : s.place = .building i run) :
    Inv (Step.next s .build) := by
  have hne : ∀ i, s.place ≠ .leaving i := fun i => by simp [hp]
  have hplace := h.place
  rw [PlaceOk, hp] at hplace
  simp only [Step.next, hp]
  refine ⟨h.down, h.callback, h.distinct, fun sess hs => ?_, ?_⟩
  · obtain ⟨j, hj, ⟨p, hpc, ho, hlt⟩, hu⟩ := h.used hne hs
    -- the PeerConnection that is made is a new one
    refine ⟨j, hj, ⟨p, hpc, ?_, ?_⟩, .inl hu⟩
    · exact (Function.update_of_ne (Nat.ne_of_lt hlt) _ _).trans ho
    · simpa [buildSession] using Nat.lt_succ_of_lt hlt
  · refine ⟨⟨hplace.alone, hplace.past, hplace.entry⟩, rfl, s.rtc.pcs.length, rfl, ?_, ?_⟩
    · exact Function.update_self ..
    · simp [buildSession]

theorem Inv.push (h : Inv s) {i : Fin maxViewers} {run : Nat} {sess : WebrtcSession}
    (hp : s.place = .pushing i run sess) (hc : InRun s .push) : Inv (Step.next s .push) := by
  have hne : ∀ i, s.place ≠ .leaving i := fun i => by simp [hp]
  have hplace := h.place
  rw [PlaceOk, hp] at hplace
  obtain ⟨hj, hidx, hmade⟩ := hplace
  obtain ⟨hup, hrun⟩ := hc
  rw [hp] at hrun
  have hrun : run = s.run := Option.some.inj hrun
  simp only [Step.next, hp]
  refine ⟨fun hd => absurd (hup.symm.trans hd) Bool.noConfusion, h.callback, ?_, fun sess' hs => ?_,
    trivial⟩
  · show ((s.rtc.gSessions ++ [sess]).map (·.viewerIdx)).Nodup
    rw [List.map_append, List.nodup_append]
    refine ⟨h.distinct, List.nodup_singleton _, fun a ha b hb => ?_⟩
    obtain ⟨sess', hs', rfl⟩ := List.mem_map.mp ha
    rw [List.mem_singleton.mp hb]
    exact fun e => hj.alone ⟨sess', hs', e.trans hidx⟩
  · rcases List.mem_append.mp hs with hs | hs
    · obtain ⟨k, hk, hm, hu⟩ := h.used hne hs
      exact ⟨k, hk, hm, .inl hu⟩
    · rw [List.mem_singleton.mp hs]
      exact ⟨i, hidx, hrun ▸ hmade, .inl (hj.entry hup hrun)⟩

theorem Inv.leave (h : Inv s) {i : Fin maxViewers} (hp : s.place = .leaving i) :
    Inv (Step.next s .leave) := by
  simp only [Step.next, hp]
  refine ⟨fun hd => ?_, h.callback, Table.nodup_erase_key h.distinct _, fun sess hs => ?_, trivial⟩
  · show s.rtc.gSessions.eraseP _ = []
    rw [h.down hd]
    rfl
  · obtain ⟨hs, hne⟩ := (Table.mem_erase_key h.distinct).mp hs
    obtain ⟨j, hj, hm, hu⟩ := h.owned sess hs
    -- the connection that left had another index
    refine ⟨j, hj, hm, .inl (hu.resolve_right fun e => hne ?_)⟩
    rw [hp] at e
    rw [hj, Place.leaving.inj e]

/-! ### The application thread -/

theorem Inv.webrtcInit (h : Inv s) (hd : s.rtc.gInitialized = false) :
    Inv (Step.next s .webrtcInit) := by
  have hnil : (webrtcUp s.rtc).gSessions = [] := h.down hd
  refine ⟨fun hi => absurd hi Bool.noConfusion, fun _ => rfl, ?_, fun sess hs => ?_, ?_⟩
  · show ((webrtcUp s.rtc).gSessions.map (·.viewerIdx)).Nodup
    rw [hnil]
    exact List.nodup_nil
  · exact (h.no_session hd hs).elim
  · -- a join that is under way is one of an earlier run
    refine h.place.mono rfl (fun i run hj => ⟨hj.alone, Nat.le_succ_of_le hj.past, ?_⟩)
      fun _ _ hm => hm
    rintro - rfl
    exact absurd hj.past (Nat.not_succ_le_self _)

theorem Inv.signalingInit (h : Inv s) (port : Int) (ctx : Option Nat) (thread : Bool) :
    Inv (Step.next s (.signalingInit port ctx thread)) := by
  obtain ⟨wsi, e⟩ := Signaling.signalingInit_eq port ctx thread s.sig
  simp only [Step.next, e]
  exact ⟨h.down, h.callback, h.distinct, h.owned,
    h.place.mono rfl (fun i run hj => ⟨hj.alone, hj.past, hj.entry⟩) fun _ _ hm => hm⟩

theorem Inv.webrtcShutdown (h : Inv s) : Inv (Step.next s .webrtcShutdown) := by
  refine ⟨fun _ => rfl, fun hi => absurd hi Bool.noConfusion, List.nodup_nil,
    fun _ hs => absurd hs List.not_mem_nil, ?_⟩
  refine h.place.mono rfl (fun i run hj => ⟨?_, hj.past, fun hi => absurd hi Bool.noConfusion⟩)
    fun _ _ hm => hm
  rintro ⟨sess, hs, -⟩
  exact absurd hs List.not_mem_nil

theorem Inv.clearTables (h : Inv s) (hd : s.rtc.gInitialized = false) :
    Inv (Step.next s .clearTables) := by
  have hup : s.rtc.gInitialized ≠ true := fun hi => Bool.false_ne_true (hd.symm.trans hi)
  refine ⟨h.down, fun hi => absurd hi hup, h.distinct, fun sess hs => ?_, ?_⟩
  · exact (h.no_session hd hs).elim
  · exact h.place.mono rfl (fun i run hj => ⟨hj.alone, hj.past, fun hi => absurd hi hup⟩)
      fun _ _ hm => hm

/-! ### Runs -/

/-- **A step that meets the condition.** -/
theorem Inv.next (h : Inv s) {e : Step} (he : e.Enabled s) (hc : InRun s e) :
    Inv (Step.next s e) := by
  cases e with
  | established wsi uri stack => exact h.established he wsi uri stack
  | test =>
      obtain ⟨i, run, hp⟩ := he
      exact h.test hp
  | build =>
      obtain ⟨i, run, hp⟩ := he
      exact h.build hp
  | push =>
      obtain ⟨i, run, sess, hp⟩ := he
      exact h.push hp hc
  | closed wsi => exact h.closed he wsi
  | leave =>
      obtain ⟨i, hp⟩ := he
      exact h.leave hp
  | webrtcInit => exact h.webrtcInit he
  | signalingInit port ctx thread => exact h.signalingInit port ctx thread
  | webrtcShutdown => exact h.webrtcShutdown
  | clearTables => exact h.clearTables he

/-- **A step that does not** leaves a session while WebRTC is down, or one of an earlier run where
it is found. -/
theorem Inv.not_swept (h : Inv s) {e : Step} (he : e.Enabled s) (hc : ¬ InRun s e) :
    ¬ Swept (Step.next s e) := by
  cases e with
  | push =>
      obtain ⟨i, run, sess, hp⟩ := he
      have hplace := h.place
      rw [PlaceOk, hp] at hplace
      obtain ⟨hj, hidx, p, hpc, ho, -⟩ := hplace
      simp only [Step.next, hp]
      intro hs
      by_cases hd : s.rtc.gInitialized = false
      · have hnil : s.rtc.gSessions ++ [sess] = [] := hs.down hd
        exact List.cons_ne_nil _ _ (List.append_eq_nil_iff.mp hnil).2
      · -- no other session has the index
        have hother : s.rtc.gSessions.find? (fun sess => decide (sess.viewerIdx = (i.val : Int))) =
            none :=
          List.find?_eq_none.mpr fun sess' hs' hx => hj.alone ⟨sess', hs', of_decide_eq_true hx⟩
        have hfind : sessionForViewer (pushSession s.rtc sess) (i.val : Int) = some sess := by
          show (s.rtc.gSessions ++ [sess]).find? _ = _
          rw [List.find?_append, hother, Option.none_or]
          exact List.find?_cons_of_pos (by simpa using hidx)
        obtain ⟨q, hq, hrun⟩ := hs.current _ _ hfind
        obtain rfl := Option.some.inj (hpc.symm.trans hq)
        refine hc ⟨Bool.eq_true_of_not_eq_false hd, ?_⟩
        rw [hp, ← hrun, ho]
        rfl
  | _ => exact absurd trivial hc

end

/-- **No session is left over**, in any state of a run, just when every session is stored while
WebRTC is up and in the run of WebRTC in which its connection was accepted. -/
theorem swept_iff {is : List Step} (hv : restarts.Valid .boot is) :
    (∀ js, js <+: is → Swept (restarts.final .boot js)) ↔
      ∀ e ∈ restarts.trace .boot is, InRun e.pre e.input :=
  Machine.always_iff inv_boot (fun _ h => h.swept) (fun _ _ h he hc => h.next he hc)
    (fun _ _ h he hc => h.not_swept he hc) hv

/-- A viewer joins; WebRTC goes down and comes up again, and another viewer joins. -/
def rejoining : List Step :=
  [.webrtcInit, .signalingInit 3000 (some 1) true, .established 7 (bytes "/viewer") [], .test,
   .build, .push, .webrtcShutdown, .clearTables, .webrtcInit, .signalingInit 3000 (some 2) true,
   .established 8 (bytes "/viewer") [], .test, .build, .push]

theorem swept_rejoining :
    restarts.Valid .boot rejoining ∧
      ∀ js, js <+: rejoining → Swept (restarts.final .boot js) :=
  ⟨by decide +kernel, (swept_iff (by decide +kernel)).mpr (by decide +kernel)⟩

/-- The same, but the session of the first viewer is stored when WebRTC is down. -/
def overtaken : List Step :=
  [.webrtcInit, .signalingInit 3000 (some 1) true, .established 7 (bytes "/viewer") [], .test,
   .build, .webrtcShutdown, .push, .clearTables, .webrtcInit, .signalingInit 3000 (some 2) true,
   .established 8 (bytes "/viewer") [], .test, .build, .push]

/-- It stays, and in the next run it is the one that is found for the index of another viewer. -/
theorem overtaken_not_swept :
    restarts.Valid .boot overtaken ∧
      (∃ js, js <+: overtaken ∧ (restarts.final .boot js).rtc.gInitialized = false ∧
        (restarts.final .boot js).rtc.gSessions ≠ []) ∧
      ((restarts.final .boot overtaken).rtc.gSessions.map (·.viewerIdx)) = [0, 0] ∧
      ((sessionForViewer (restarts.final .boot overtaken).rtc 0).bind (·.pc)) = some 0 ∧
      (restarts.final .boot overtaken).owner 0 = 1 ∧ (restarts.final .boot overtaken).run = 2 ∧
      ¬ Swept (restarts.final .boot overtaken) := by
  refine ⟨by decide +kernel, ⟨overtaken.take 7, List.take_prefix _ _, ?_, ?_⟩, ?_, ?_, ?_, ?_, ?_⟩
  · decide +kernel
  · decide +kernel
  · decide +kernel
  · decide +kernel
  · decide +kernel
  · decide +kernel
  · exact fun h => absurd h.distinct (by decide +kernel)

/-! ### The calls and callbacks of the SDK -/

/-- The statics are those of the SDK, and the service thread runs no callback. -/
structure Settled (s : Shared) (st : State) : Prop where
  sig : s.sig = st.sig
  rtc : s.rtc = st.rtc
  place : s.place = .idle

theorem takes_step {s : Shared} {e : Step} (he : e.Enabled s) :
    restarts.Takes s (e.next s) [] := Machine.Takes.step he

section
variable {s : Shared} {st : State}

/-- `webrtc_viewer_joined`, from its call to its return. -/
theorem takes_joined {i : Fin maxViewers} {run : Nat} (hp : s.place = .joining i run) :
    ∃ s', restarts.Takes s s' [] ∧ s'.sig = s.sig ∧
      s'.rtc = (webrtcViewerJoined s.rtc (i.val : Int)).2 ∧ s'.place = .idle := by
  have htest : Step.test.Enabled s := ⟨i, run, hp⟩
  by_cases hi : s.rtc.gInitialized = true
  · have hbuild : Step.build.Enabled (Step.test.next s) := ⟨i, run, by simp [Step.next, hp, hi]⟩
    have hpush : Step.push.Enabled (Step.build.next (Step.test.next s)) :=
      ⟨i, run, newSession s.rtc (i.val : Int), by simp [Step.next, hp, hi]⟩
    refine ⟨_, ((takes_step htest).trans (takes_step hbuild)).trans (takes_step hpush), ?_, ?_, ?_⟩
      <;> simp [Step.next, hp, hi, webrtcViewerJoined, createSession]
  · refine ⟨_, takes_step htest, ?_, ?_, ?_⟩ <;> simp [Step.next, hp, hi, webrtcViewerJoined]

/-- `LWS_CALLBACK_ESTABLISHED`. -/
theorem takes_established (h : Settled s st) (wsi : Wsi) (uri stack : Bytes) :
    ∃ s', restarts.Takes s s' [] ∧ Settled s' (callbackEstablished st wsi uri stack) := by
  have he : (Step.established wsi uri stack).Enabled s := h.place
  have ht := takes_step he
  cases hidx : (Signaling.established st.sig wsi (Signaling.lwsHdrCopy uri stack)).2 with
  | none =>
      refine ⟨_, ht, ⟨?_, ?_, ?_⟩⟩ <;>
        simp [Step.next, h.sig, h.rtc, hidx, called, callbackEstablished, callViewerCb]
  | some i =>
      by_cases hcb :
          (Signaling.established st.sig wsi (Signaling.lwsHdrCopy uri stack)).1.gViewerCb = true
      · have hplace : ((Step.established wsi uri stack).next s).place = .joining i s.run := by
          simp [Step.next, h.sig, hidx, called, hcb]
        obtain ⟨s', ht', hsig, hrtc, hidle⟩ := takes_joined hplace
        refine ⟨s', ht.trans ht', ⟨hsig.trans ?_, hrtc.trans ?_, hidle⟩⟩ <;>
          simp [Step.next, h.sig, h.rtc, hidx, callbackEstablished, callViewerCb, hcb,
            onSignalingViewer]
      · refine ⟨_, ht, ⟨?_, ?_, ?_⟩⟩ <;>
          simp [Step.next, h.sig, h.rtc, hidx, called, hcb, callbackEstablished, callViewerCb]

/-- `LWS_CALLBACK_CLOSED`. -/
theorem takes_closed (h : Settled s st) (wsi : Wsi) :
    ∃ s', restarts.Takes s s' [] ∧ Settled s' (callbackClosed st wsi) := by
  have he : (Step.closed wsi).Enabled s := h.place
  have ht := takes_step he
  cases hidx : (Signaling.closed st.sig wsi).2 with
  | none =>
      refine ⟨_, ht, ⟨?_, ?_, ?_⟩⟩ <;>
        simp [Step.next, h.sig, h.rtc, hidx, called, callbackClosed, callViewerCb]
  | some i =>
      by_cases hcb : (Signaling.closed st.sig wsi).1.gViewerCb = true
      · have hplace : ((Step.closed wsi).next s).place = .leaving i := by
          simp [Step.next, h.sig, hidx, called, hcb]
        have hleave : Step.leave.Enabled ((Step.closed wsi).next s) := ⟨i, hplace⟩
        refine ⟨_, ht.trans (takes_step hleave), ⟨?_, ?_, ?_⟩⟩ <;>
          simp [Step.next, h.sig, h.rtc, hidx, called, callbackClosed, callViewerCb, hcb,
            onSignalingViewer]
      · refine ⟨_, ht, ⟨?_, ?_, ?_⟩⟩ <;>
          simp [Step.next, h.sig, h.rtc, hidx, called, hcb, callbackClosed, callViewerCb]

/-- `nearcade_shutdown`. -/
theorem takes_shutdown (h : Settled s st) (w : Capture.Waits) :
    ∃ s', restarts.Takes s s' [] ∧ Settled s' (nearcadeShutdown w st).1 := by
  rw [nearcadeShutdown]
  split
  · exact ⟨s, .refl s, h⟩
  · have hdown : Step.webrtcShutdown.Enabled s := trivial
    have hclear : Step.clearTables.Enabled (Step.webrtcShutdown.next s) := rfl
    refine ⟨_, (takes_step hdown).trans (takes_step hclear), ⟨?_, ?_, h.place⟩⟩ <;>
      simp [Step.next, h.sig, h.rtc, Signaling.signalingShutdown]

/-- `nearcade_init`, while WebRTC is down. -/
theorem takes_init (h : Settled s st) (hd : st.rtc.gInitialized = false)
    (config : Option NearcadeConfig) (e : InitEnv) (w : Capture.Waits) :
    ∃ s', restarts.Takes s s' [] ∧ Settled s' (nearcadeInit config e w st).2.1 := by
  have hinit : Step.webrtcInit.Enabled s := (congrArg _ h.rtc).trans hd
  have hserve : (Step.signalingInit (normaliseConfig config).port e.ctx e.thread).Enabled
      (Step.webrtcInit.next s) := trivial
  have ht := (takes_step hinit).trans (takes_step hserve)
  rcases nearcadeInit_cases config e w st with
    ⟨-, hr⟩ | ⟨-, -, hr⟩ | ⟨-, -, -, hr⟩ | ⟨-, -, -, hr⟩ <;> rw [hr]
  · exact ⟨s, .refl s, ⟨h.sig, h.rtc, h.place⟩⟩
  · exact ⟨s, .refl s, ⟨h.sig, h.rtc, h.place⟩⟩
  · -- `webrtc_shutdown` undoes `webrtc_init`
    have hdown : Step.webrtcShutdown.Enabled ((Step.signalingInit
        (normaliseConfig config).port e.ctx e.thread).next (Step.webrtcInit.next s)) := trivial
    refine ⟨_, ht.trans (takes_step hdown), ⟨?_, ?_, h.place⟩⟩ <;>
      simp [Step.next, h.sig, h.rtc, broughtUp, initSignaling]
  · refine ⟨_, ht, ⟨?_, ?_, h.place⟩⟩ <;>
      simp [Step.next, h.sig, h.rtc, broughtUp, initSignaling]

end

end Nearcade.Restart
