import Nearcade.Source.Locking

/-!
# System — Locking

The SDK on many threads: the application's, the service thread of libwebsockets and those of
libdatachannel, each of which may take any path of the SDK, and start another where the
application's callback, libdatachannel or libwebsockets runs on it.

The application keeps to `Call.MayStart`: from its event callback, where libdatachannel's lock or
`g_lock` may be held, it calls neither `nearcade_send_h264` nor `nearcade_shutdown`
(`sendH264_deadlock` shows why), and it does not use the table of viewers while it shuts down.

* `keeps_path`: every path takes the mutexes in order, uses each table under its mutex, and holds no
  mutex where code outside runs but `g_lock`, which a call of libdatachannel may be made under.
* `sdk_threads`: so in every interleaving of any number of threads there is no deadlock, no table is
  used by two threads at once, code outside runs with none but lent locks held, and no thread holds
  or takes a mutex that `nearcade_shutdown` destroys.
* `sdk_drains`: from whatever state the threads have come to, all calls in progress return, however
  the threads are scheduled.
-/

namespace Nearcade
open Text Runs Locks

/-! ### The paths keep the discipline -/

/-- A lent lock comes before the mutex of every table but the sessions. -/
theorem rank_lent {l l' : Mutex} (h : sdkLocks.Lent l) (h' : ¬ sdkLocks.Lent l') :
    sdkLocks.rank l < sdkLocks.rank l' := by
  have hl : sdkLocks.rank l ≤ 1 := by
    cases l with
    | gLock | callback pc kind => exact Nat.le_of_ble_eq_true rfl
    | viewerLock | slotsLock | inputLock | gWsLock => exact h.elim
  have hl' : 2 ≤ sdkLocks.rank l' := by
    cases l' with
    | gLock | callback pc kind => exact absurd trivial h'
    | viewerLock | slotsLock | inputLock | gWsLock => exact Nat.le_of_ble_eq_true rfl
  exact Nat.lt_of_le_of_lt hl hl'

theorem keeps_nil (held : List Mutex) : sdkLocks.Keeps held [] held := rfl

section
variable {held : List Mutex}

theorem keeps_access {t : LockedTable} (h : ∀ l ∈ sdkLocks.guards (.access t), l ∈ held) :
    sdkLocks.Keeps held (access t) held :=
  ⟨h, fun ho => ho.elim, rfl⟩

/-- A point that needs no mutex. -/
theorem keeps_point {p : LockPoint} (hg : sdkLocks.guards p = [])
    (ho : sdkLocks.Opens p → ∀ l ∈ held, sdkLocks.Lent l) :
    sdkLocks.Keeps held [.point p] held :=
  ⟨fun _ hl => absurd (hg ▸ hl) List.not_mem_nil, ho, rfl⟩

/-- A section that uses the table its mutex is for. -/
theorem keeps_section {l : Mutex} {t : LockedTable} (hg : sdkLocks.guards (.access t) = [l])
    (hr : ∀ h ∈ held, sdkLocks.rank h < sdkLocks.rank l) :
    sdkLocks.Keeps held (critical l (access t)) held := by
  refine .critical hr (keeps_access fun l' hl' => ?_)
  rw [hg] at hl'
  rw [List.mem_singleton.mp hl']
  exact List.mem_cons_self ..

/-- The slot and the device of a viewer go under `viewer_lock`. -/
theorem keeps_slotPath (hr : ∀ h ∈ held, sdkLocks.rank h < sdkLocks.rank .inputLock)
    (slot : UInt8) : sdkLocks.Keeps held (Input.slotPath slot) held := by
  rw [Input.slotPath]
  split
  · exact keeps_nil held
  · exact keeps_section rfl hr

theorem keeps_slotReleasePath (hr : ∀ h ∈ held, sdkLocks.rank h < sdkLocks.rank .slotsLock)
    (slot : Int) : sdkLocks.Keeps held (slotReleasePath slot) held := by
  rw [slotReleasePath]
  split
  · exact keeps_nil held
  · exact keeps_section rfl hr

/-! Where only lent locks are held. -/

section
variable (hl : ∀ l ∈ held, sdkLocks.Lent l)
include hl

/-- Code outside may run. -/
theorem keeps_open {p : LockPoint} (h : sdkLocks.guards p = []) :
    sdkLocks.Keeps held [.point p] held := keeps_point h fun _ => hl

/-- A mutex that is not lent may be taken. -/
theorem rank_held {l : Mutex} (h : ¬ sdkLocks.Lent l) :
    ∀ h ∈ held, sdkLocks.rank h < sdkLocks.rank l := fun l' h' => rank_lent (hl l' h') h

theorem keeps_slotInLockPath (slot : UInt8) :
    sdkLocks.Keeps held (Input.slotInLockPath slot) held := by
  rw [Input.slotInLockPath]
  split
  · exact .critical (rank_held hl not_false) (keeps_nil _)
  · exact keeps_section rfl (rank_held hl not_false)

theorem keeps_sendViaSignalingPath (call : Option (Bytes × Bytes)) :
    sdkLocks.Keeps held (webrtcSendViaSignalingPath call) held := by
  cases call with
  | none => exact keeps_nil held
  | some call => exact keeps_section rfl (rank_held hl not_false)

theorem keeps_relayPath (ov : Int → Int) (st : Signaling.State) (id payload : Option Bytes) :
    sdkLocks.Keeps held (Signaling.relayPath ov st id payload) held := by
  cases payload with
  | none => exact keeps_nil held
  | some payload =>
      have hhost : sdkLocks.Keeps (.gWsLock :: held) (access .hostWs) (.gWsLock :: held) :=
        keeps_access fun _ h => List.mem_singleton.mp h ▸ List.mem_cons_self ..
      have hws : sdkLocks.Keeps (.gWsLock :: held) (access .viewerWs) (.gWsLock :: held) :=
        keeps_access fun _ h => List.mem_singleton.mp h ▸ List.mem_cons_self ..
      refine .critical (rank_held hl not_false) (.ite hhost (hws.append ?_))
      split
      · exact keeps_nil _
      · exact hhost

theorem keeps_setViewerPath (id : Option Bytes) :
    sdkLocks.Keeps held (setViewerPath id) held := by
  cases id with
  | none => exact keeps_nil held
  | some id => exact keeps_section rfl (rank_held hl not_false)

theorem keeps_disconnectPath (s : State) (id : Option Bytes) :
    sdkLocks.Keeps held (nearcadeDisconnectViewerPath s id) held := by
  have hv : sdkLocks.Keeps (.viewerLock :: held) (access .viewers) (.viewerLock :: held) :=
    keeps_access fun _ h => List.mem_singleton.mp h ▸ List.mem_cons_self ..
  -- `viewer_lock` comes before the other two
  have hi : ∀ h ∈ Mutex.viewerLock :: held, sdkLocks.rank h < sdkLocks.rank .inputLock :=
    List.forall_mem_cons.mpr ⟨by decide, rank_held hl not_false⟩
  have hs : ∀ h ∈ Mutex.viewerLock :: held, sdkLocks.rank h < sdkLocks.rank .slotsLock :=
    List.forall_mem_cons.mpr ⟨by decide, rank_held hl not_false⟩
  cases id with
  | none => exact keeps_nil held
  | some id =>
      refine .critical (rank_held hl not_false) ?_
      split
      · exact hv
      · exact ((hv.append (keeps_slotPath hi _)).append (keeps_slotReleasePath hs _)).append hv

end

end

/-! Where no lock is held. -/

/-- Under `g_lock` libdatachannel is called. -/
theorem keeps_gLock {body : LockPath} (hb : sdkLocks.Keeps [.gLock] body [.gLock]) :
    sdkLocks.Keeps [] (critical .gLock (access .sessions ++ body)) [] :=
  .critical (List.forall_mem_nil _) ((keeps_access fun _ h => h).append hb)

theorem lent_gLock : ∀ l ∈ [Mutex.gLock], sdkLocks.Lent l := fun _ h =>
  List.mem_singleton.mp h ▸ trivial

theorem keeps_rtcPath : sdkLocks.Keeps [.gLock] Webrtc.rtcPath [.gLock] := keeps_open lent_gLock rfl

/-- The destructor takes the locks of the callbacks one by one. -/
theorem keeps_destroyPath (sess : Webrtc.WebrtcSession) :
    sdkLocks.Keeps [.gLock] (Webrtc.destroyPath sess) [.gLock] := by
  rw [Webrtc.destroyPath]
  split
  · exact keeps_nil _
  · refine keeps_rtcPath.append (.flatMap (fun kind => .critical (fun l h => ?_) (keeps_nil _)) _)
    rw [List.mem_singleton.mp h]
    exact Nat.zero_lt_one

theorem keeps_viewerLeftPath (st : Webrtc.State) (idx : Int) :
    sdkLocks.Keeps [] (Webrtc.viewerLeftPath st idx) [] := by
  refine keeps_gLock ?_
  split
  · exact keeps_nil _
  · exact keeps_destroyPath _

theorem keeps_viewerJoinedPath (st : Webrtc.State) :
    sdkLocks.Keeps [] (Webrtc.viewerJoinedPath st) [] := by
  refine .ite ?_ (keeps_nil [])
  exact (keeps_open (List.forall_mem_nil _) rfl).append (keeps_section rfl (List.forall_mem_nil _))

theorem keeps_handleSignalingPath (ov : Int → Int) (id : Bytes) :
    sdkLocks.Keeps [] (Webrtc.handleSignalingPath ov id) [] := by
  rw [Webrtc.handleSignalingPath]
  split
  · exact keeps_nil []
  · exact .ite (keeps_nil []) (keeps_gLock keeps_rtcPath)

theorem keeps_sendH264Path (data : Option Bytes) :
    sdkLocks.Keeps [] (Webrtc.sendH264Path data) [] := by
  cases data with
  | none => exact keeps_nil []
  | some frame => exact .ite (keeps_nil []) (keeps_gLock keeps_rtcPath)

theorem keeps_viewerCbPath (s : State) (idx : Option (Fin maxViewers)) (joined : Bool) :
    sdkLocks.Keeps [] (Signaling.viewerCbPath s idx joined) [] := by
  cases idx with
  | none => exact keeps_nil []
  | some i =>
      exact .ite (.ite (keeps_viewerJoinedPath s.rtc) (keeps_viewerLeftPath s.rtc _))
        (keeps_nil [])

/-- A section of the signaling module. -/
theorem keeps_gWsLock {body : LockPath} (hb : sdkLocks.Keeps [.gWsLock] body [.gWsLock]) :
    sdkLocks.Keeps [] (critical .gWsLock body) [] := .critical (List.forall_mem_nil _) hb

theorem keeps_hostWs : sdkLocks.Keeps [.gWsLock] (access .hostWs) [.gWsLock] :=
  keeps_access fun _ h => h

theorem keeps_viewerWs : sdkLocks.Keeps [.gWsLock] (access .viewerWs) [.gWsLock] :=
  keeps_access fun _ h => h

theorem keeps_lookupPath (st : Signaling.State) (wsi : Wsi) :
    sdkLocks.Keeps [] (Signaling.lookupPath st wsi) [] :=
  keeps_gWsLock (keeps_hostWs.append (.ite (keeps_nil _) keeps_viewerWs))

theorem keeps_peekHost : sdkLocks.Keeps [] [.point .peekHost] [] := keeps_point rfl False.elim

theorem keeps_msgCbPath (ov : Int → Int) (st : Signaling.State) (id : Bytes) (host : Bool) :
    sdkLocks.Keeps [] (Signaling.msgCbPath ov st id host) [] :=
  .ite (keeps_peekHost.append (.ite (keeps_nil []) (keeps_handleSignalingPath ov id)))
    (keeps_nil [])

theorem keeps_receivePath (ov : Int → Int) (s : State) (wsi : Wsi) :
    sdkLocks.Keeps [] (Signaling.receivePath ov s wsi) [] := by
  have hfire : sdkLocks.Keeps [] firePath [] := keeps_open (List.forall_mem_nil _) rfl
  refine keeps_peekHost.append ((keeps_lookupPath s.sig wsi).append ?_)
  split
  · exact (keeps_msgCbPath ov s.sig _ true).append hfire
  · exact (keeps_msgCbPath ov s.sig _ false).append hfire
  · exact keeps_nil []

/-- The mutexes are destroyed where none is held. -/
theorem keeps_shutdownPath (s : State) : sdkLocks.Keeps [] (nearcadeShutdownPath s) [] := by
  refine .ite (keeps_nil []) ?_
  have hrtc : sdkLocks.Keeps [] (Webrtc.shutdownPath s.rtc) [] :=
    keeps_gLock (.flatMap keeps_destroyPath _)
  have hinp : sdkLocks.Keeps [] Input.devicePath [] := keeps_section rfl (List.forall_mem_nil _)
  have hsig : sdkLocks.Keeps [] (Signaling.shutdownPath s.sig) [] := by
    refine (keeps_gWsLock (keeps_hostWs.append keeps_viewerWs)).append ?_
    split
    · exact keeps_nil []
    · exact keeps_open (List.forall_mem_nil _) rfl
  have hlocks : sdkLocks.Keeps []
      [.point (.destroy .viewerLock), .point (.destroy .slotsLock)] [] :=
    (keeps_point rfl False.elim).append (keeps_point rfl False.elim)
  exact ((hrtc.append hinp).append hsig).append hlocks

/-- **The path of a call.** -/
theorem keeps_call (ov : Int → Int) (s : State) {closes : Bool} {held : List Mutex} {c : Call}
    (hl : ∀ l ∈ held, sdkLocks.Lent l) (h : c.MayStart closes held) :
    sdkLocks.Keeps held (c.lockPath ov s) held := by
  cases c with
  | init => exact h.elim
  | startStreaming => exact keeps_open hl rfl
  | shutdown w =>
      obtain ⟨-, rfl⟩ := h
      exact keeps_shutdownPath s
  | sendH264 data ts =>
      obtain rfl : held = [] := h
      exact keeps_sendH264Path data
  | submitGamepad pkt =>
      cases pkt with
      | none => exact keeps_nil held
      | some pkt => exact keeps_slotInLockPath hl pkt.slot
  | submitKbm id ev key dx dy =>
      cases id with
      | none => exact keeps_nil held
      | some id =>
          cases ev with
          | none => exact keeps_nil held
          | some ev => exact keeps_section rfl (rank_held hl not_false)
  | flushSlot slot => exact keeps_slotInLockPath hl slot
  | disconnectViewer id => exact keeps_disconnectPath hl s id
  | setViewerInputMode id mode | setControllerType id ctrl => exact keeps_setViewerPath hl id
  | sendAnswer id sdp io => exact keeps_relayPath hl ov s.sig id sdp
  | sendIceCandidate id cand io => exact keeps_relayPath hl ov s.sig id cand
  | stopStreaming | pollEvents | sendFrame | startCapture | stopCapture | setEventCallback
  | getSignalingUrl | getLanIp | getPin | regeneratePin | sendOffer => exact keeps_nil held

/-- A callback of libdatachannel, which `g_lock` may be held for. -/
theorem keeps_callback {held : List Mutex} {pc : PcId} {kind : CallbackKind} {body : LockPath}
    (h : ∀ l ∈ held, l = .gLock)
    (hb : (∀ l ∈ .callback pc kind :: held, sdkLocks.Lent l) →
      sdkLocks.Keeps (.callback pc kind :: held) body (.callback pc kind :: held)) :
    sdkLocks.Keeps held (critical (.callback pc kind) body) held :=
  .critical (fun l hl => h l hl ▸ Nat.zero_lt_one)
    (hb (List.forall_mem_cons.mpr ⟨trivial, fun l hl => h l hl ▸ trivial⟩))

/-- **The path of a callback.** -/
theorem keeps_net (ov : Int → Int) (s : State) {held : List Mutex} {n : Net}
    (h : n.MayStart held) : sdkLocks.Keeps held (n.lockPath ov s) held := by
  cases n with
  | established wsi uri stack =>
      obtain rfl : held = [] := h
      exact (keeps_gWsLock (.ite keeps_hostWs keeps_viewerWs)).append
        (keeps_viewerCbPath s _ true)
  | closed wsi =>
      obtain rfl : held = [] := h
      exact (keeps_lookupPath s.sig wsi).append (keeps_viewerCbPath s _ false)
  | receive wsi input throws =>
      obtain rfl : held = [] := h
      exact keeps_receivePath ov s wsi
  | stateChange pc state =>
      refine keeps_callback h fun hl => ?_
      split
      · exact keeps_open hl rfl
      · exact keeps_nil _
  | localDescription pc type sdp io | localCandidate pc cand io =>
      exact keeps_callback h fun hl => keeps_sendViaSignalingPath hl _
  | message pc msg =>
      refine keeps_callback h fun hl => ?_
      split
      · exact (keeps_slotInLockPath hl _).append (keeps_open hl rfl)
      · exact keeps_nil _

/-- **Every path keeps the discipline.** -/
theorem keeps_path {ov : Int → Int} {closes : Bool} : sdkLocks.KeptBy (SdkPath ov closes) := by
  intro held path hl h
  cases h with
  | call s hc => exact keeps_call ov s hl hc
  | net s hn => exact keeps_net ov s hn
  | thread => exact keeps_gWsLock (keeps_nil _)
  | slotClaim id =>
      cases id with
      | none => exact keeps_nil held
      | some id => exact keeps_section rfl (rank_held hl not_false)
  | slotRelease slot => exact keeps_slotReleasePath (rank_held hl not_false) slot
  | deviceSlot slot => exact keeps_slotPath (rank_held hl not_false) slot

/-! ### What is on the paths -/

/-- A property of the actions that most paths are made of: all but the taking of `viewer_lock` and
`slots.lock`, the call of the application's callback, and the destruction of a mutex. -/
structure Usual (Q : Locks.Act Mutex LockPoint → Prop) : Prop where
  acquire : ∀ l, l ≠ .viewerLock → l ≠ .slotsLock → Q (.acquire l)
  release : ∀ l, Q (.release l)
  point : ∀ p, p ≠ .fireEvent → (∀ m, p ≠ .destroy m) → Q (.point p)

section
variable {Q : Locks.Act Mutex LockPoint → Prop} (hQ : Usual Q)
include hQ

theorem over_access (t : LockedTable) : Over Q (access t) :=
  over_singleton (hQ.point _ LockPoint.noConfusion fun _ => LockPoint.noConfusion)

theorem over_section {l : Mutex} {body : LockPath} (hv : l ≠ .viewerLock) (hs : l ≠ .slotsLock)
    (hb : Over Q body) : Over Q (critical l body) :=
  .critical (hQ.acquire l hv hs) (hQ.release l) hb

theorem over_slotPath (slot : UInt8) : Over Q (Input.slotPath slot) := by
  rw [Input.slotPath]
  split
  · exact over_nil
  · exact over_section hQ Mutex.noConfusion Mutex.noConfusion (over_access hQ _)

theorem over_slotReleasePath (ha : Q (.acquire .slotsLock)) (slot : Int) :
    Over Q (slotReleasePath slot) := by
  rw [slotReleasePath]
  split
  · exact over_nil
  · exact .critical ha (hQ.release _) (over_access hQ _)

theorem over_slotInLockPath (slot : UInt8) : Over Q (Input.slotInLockPath slot) := by
  refine over_section hQ Mutex.noConfusion Mutex.noConfusion ?_
  split
  · exact over_nil
  · exact over_access hQ _

theorem over_devicePath : Over Q Input.devicePath :=
  over_section hQ Mutex.noConfusion Mutex.noConfusion (over_access hQ _)

theorem over_rtcPath : Over Q Webrtc.rtcPath :=
  over_singleton (hQ.point _ LockPoint.noConfusion fun _ => LockPoint.noConfusion)

theorem over_gLock {body : LockPath} (hb : Over Q body) :
    Over Q (critical .gLock (access .sessions ++ body)) :=
  over_section hQ Mutex.noConfusion Mutex.noConfusion ((over_access hQ _).append hb)

theorem over_destroyPath (sess : Webrtc.WebrtcSession) : Over Q (Webrtc.destroyPath sess) := by
  rw [Webrtc.destroyPath]
  split
  · exact over_nil
  · refine (over_rtcPath hQ).append (.flatMap (fun kind => ?_) _)
    exact over_section hQ Mutex.noConfusion Mutex.noConfusion over_nil

theorem over_viewerCbPath (s : State) (idx : Option (Fin maxViewers)) (joined : Bool) :
    Over Q (Signaling.viewerCbPath s idx joined) := by
  cases idx with
  | none => exact over_nil
  | some i =>
      refine over_ite (over_ite (over_ite ?_ over_nil) (over_gLock hQ ?_)) over_nil
      · exact (over_rtcPath hQ).append
          (over_section hQ Mutex.noConfusion Mutex.noConfusion (over_access hQ _))
      · split
        · exact over_nil
        · exact over_destroyPath hQ _

theorem over_handleSignalingPath (ov : Int → Int) (id : Bytes) :
    Over Q (Webrtc.handleSignalingPath ov id) := by
  rw [Webrtc.handleSignalingPath]
  split
  · exact over_nil
  · exact over_ite over_nil (over_gLock hQ (over_rtcPath hQ))

theorem over_sendH264Path (data : Option Bytes) : Over Q (Webrtc.sendH264Path data) := by
  cases data with
  | none => exact over_nil
  | some frame => exact over_ite over_nil (over_gLock hQ (over_rtcPath hQ))

theorem over_gWsLock {body : LockPath} (hb : Over Q body) : Over Q (critical .gWsLock body) :=
  over_section hQ Mutex.noConfusion Mutex.noConfusion hb

theorem over_relayPath (ov : Int → Int) (st : Signaling.State) (id payload : Option Bytes) :
    Over Q (Signaling.relayPath ov st id payload) := by
  cases payload with
  | none => exact over_nil
  | some payload =>
      refine over_gWsLock hQ (over_ite (over_access hQ _) ((over_access hQ _).append ?_))
      split
      · exact over_nil
      · exact over_access hQ _

theorem over_sendViaSignalingPath (call : Option (Bytes × Bytes)) :
    Over Q (webrtcSendViaSignalingPath call) := by
  cases call with
  | none => exact over_nil
  | some call => exact over_gWsLock hQ (over_access hQ _)

theorem over_lookupPath (st : Signaling.State) (wsi : Wsi) :
    Over Q (Signaling.lookupPath st wsi) :=
  over_gWsLock hQ ((over_access hQ _).append (over_ite over_nil (over_access hQ _)))

theorem over_peekHost : Over Q [.point .peekHost] :=
  over_singleton (hQ.point _ LockPoint.noConfusion fun _ => LockPoint.noConfusion)

theorem over_msgCbPath (ov : Int → Int) (st : Signaling.State) (id : Bytes) (host : Bool) :
    Over Q (Signaling.msgCbPath ov st id host) :=
  over_ite ((over_peekHost hQ).append (over_ite over_nil (over_handleSignalingPath hQ ov id)))
    over_nil

/-- `nearcade_shutdown` before it destroys the mutexes. -/
theorem over_shutdownPath (s : State) :
    Over Q (Webrtc.shutdownPath s.rtc ++ Input.devicePath ++ Signaling.shutdownPath s.sig) := by
  refine ((over_gLock hQ (.flatMap (over_destroyPath hQ) _)).append (over_devicePath hQ)).append
    ((over_gWsLock hQ ((over_access hQ _).append (over_access hQ _))).append ?_)
  split
  · exact over_nil
  · exact over_singleton (hQ.point _ LockPoint.noConfusion fun _ => LockPoint.noConfusion)

theorem over_disconnectPath (hv : Q (.acquire .viewerLock)) (hs : Q (.acquire .slotsLock))
    (s : State) (id : Option Bytes) : Over Q (nearcadeDisconnectViewerPath s id) := by
  cases id with
  | none => exact over_nil
  | some id =>
      refine .critical hv (hQ.release _) ?_
      split
      · exact over_access hQ _
      · exact (((over_access hQ _).append (over_slotPath hQ _)).append
          (over_slotReleasePath hQ hs _)).append (over_access hQ _)

theorem over_setViewerPath (hv : Q (.acquire .viewerLock)) (id : Option Bytes) :
    Over Q (setViewerPath id) := by
  cases id with
  | none => exact over_nil
  | some id => exact .critical hv (hQ.release _) (over_access hQ _)

/-- **The path of a call** takes `viewer_lock` and `slots.lock` where the application does not shut
down, and destroys them where it does. -/
theorem over_call (ov : Int → Int) (s : State) {closes : Bool} {held : List Mutex} {c : Call}
    (hf : Q (.point .fireEvent)) (hd : closes = true →
      Q (.point (.destroy .viewerLock)) ∧ Q (.point (.destroy .slotsLock)))
    (ha : closes = false → Q (.acquire .viewerLock) ∧ Q (.acquire .slotsLock))
    (h : c.MayStart closes held) : Over Q (c.lockPath ov s) := by
  cases c with
  | init => exact h.elim
  | startStreaming => exact over_singleton hf
  | shutdown w =>
      obtain ⟨hv, hs⟩ := hd h.1
      exact over_ite over_nil ((over_shutdownPath hQ s).append
        (List.forall_mem_cons.mpr ⟨hv, over_singleton hs⟩))
  | sendH264 data ts => exact over_sendH264Path hQ data
  | submitGamepad pkt =>
      cases pkt with
      | none => exact over_nil
      | some pkt => exact over_slotInLockPath hQ pkt.slot
  | submitKbm id ev key dx dy =>
      cases id with
      | none => exact over_nil
      | some id =>
          cases ev with
          | none => exact over_nil
          | some ev => exact over_devicePath hQ
  | flushSlot slot => exact over_slotInLockPath hQ slot
  | disconnectViewer id =>
      obtain ⟨hv, hs⟩ := ha h
      exact over_disconnectPath hQ hv hs s id
  | setViewerInputMode id mode | setControllerType id ctrl =>
      exact over_setViewerPath hQ (ha h).1 id
  | sendAnswer id sdp io => exact over_relayPath hQ ov s.sig id sdp
  | sendIceCandidate id cand io => exact over_relayPath hQ ov s.sig id cand
  | stopStreaming | pollEvents | sendFrame | startCapture | stopCapture | setEventCallback
  | getSignalingUrl | getLanIp | getPin | regeneratePin | sendOffer => exact over_nil

/-- **The path of a callback** takes neither. -/
theorem over_net (ov : Int → Int) (s : State) (n : Net) (hf : Q (.point .fireEvent)) :
    Over Q (n.lockPath ov s) := by
  have hfire : Over Q firePath := over_singleton hf
  cases n with
  | established wsi uri stack =>
      exact (over_gWsLock hQ (over_ite (over_access hQ _) (over_access hQ _))).append
        (over_viewerCbPath hQ s _ true)
  | closed wsi => exact (over_lookupPath hQ s.sig wsi).append (over_viewerCbPath hQ s _ false)
  | receive wsi input throws =>
      refine (over_peekHost hQ).append ((over_lookupPath hQ s.sig wsi).append ?_)
      split
      · exact (over_msgCbPath hQ ov s.sig _ true).append hfire
      · exact (over_msgCbPath hQ ov s.sig _ false).append hfire
      · exact over_nil
  | stateChange pc state =>
      refine over_section hQ Mutex.noConfusion Mutex.noConfusion ?_
      split
      · exact hfire
      · exact over_nil
  | localDescription pc type sdp io | localCandidate pc cand io =>
      exact over_section hQ Mutex.noConfusion Mutex.noConfusion (over_sendViaSignalingPath hQ _)
  | message pc msg =>
      refine over_section hQ Mutex.noConfusion Mutex.noConfusion ?_
      split
      · exact (over_slotInLockPath hQ _).append hfire
      · exact over_nil

/-- **So it is for every path.** -/
theorem over_path {ov : Int → Int} {closes : Bool} {held : List Mutex} {path : LockPath}
    (hf : Q (.point .fireEvent)) (hd : closes = true →
      Q (.point (.destroy .viewerLock)) ∧ Q (.point (.destroy .slotsLock)))
    (ha : closes = false → Q (.acquire .viewerLock) ∧ Q (.acquire .slotsLock))
    (h : SdkPath ov closes held path) : Over Q path := by
  cases h with
  | call s hc => exact over_call hQ ov s hf hd ha hc
  | net s _ => exact over_net hQ ov s _ hf
  | thread => exact over_gWsLock hQ over_nil
  | slotClaim id hc =>
      cases id with
      | none => exact over_nil
      | some id => exact .critical (ha hc).2 (hQ.release _) (over_access hQ _)
  | slotRelease slot hc => exact over_slotReleasePath hQ (ha hc).2 slot
  | deviceSlot slot => exact over_slotPath hQ slot

end

/-! ### The threads -/

/-- The SDK on the threads `I`. -/
def sdkThreads (ov : Int → Int) (closes : Bool) (I : Type) [DecidableEq I] :
    Machine (I → Thread Mutex LockPoint) (Move I Mutex LockPoint) (Locks.Act Mutex LockPoint) :=
  threads sdkLocks (SdkPath ov closes) I

theorem sdkLocks_rank_lt (l : Mutex) : sdkLocks.rank l < 4 := by
  cases l <;> exact Nat.le_of_ble_eq_true rfl

/-- Where the application may shut down nobody takes `viewer_lock` or `slots.lock`, and elsewhere no
mutex is destroyed. -/
def Allowed (closes : Bool) : Locks.Act Mutex LockPoint → Prop
  | .acquire .viewerLock | .acquire .slotsLock => closes = false
  | .point (.destroy m) => closes = true ∧ (m = .viewerLock ∨ m = .slotsLock)
  | _ => True

theorem usual_allowed {closes : Bool} : Usual (Allowed closes) where
  acquire l hv hs := by
    cases l with
    | viewerLock => exact absurd rfl hv
    | slotsLock => exact absurd rfl hs
    | inputLock | gLock | gWsLock | callback pc kind => trivial
  release _ := trivial
  point p _ hd := by
    cases p with
    | destroy m => exact absurd rfl (hd m)
    | access t | peekHost | fireEvent | rtc | lwsContextDestroy => trivial

section
variable {ov : Int → Int} {closes : Bool} {I : Type} [DecidableEq I]
variable {c : I → Thread Mutex LockPoint}

/-- Only `nearcade_shutdown` destroys mutexes, `viewer_lock` and `slots.lock`, and where it may be
called nobody takes them. -/
theorem destroyed_free (h : (sdkThreads ov closes I).Reachable (fun _ => Thread.idle) c) {i : I}
    {m : Mutex} (hm : .point (.destroy m) ∈ (c i).rest) (j : I) :
    m ∉ (c j).held ∧ .acquire m ∉ (c j).rest := by
  have hQ : ∀ i, (c i).Within (Allowed closes) :=
    within_of_reachable (fun _ _ hp => over_path usual_allowed trivial
      (fun hc => ⟨⟨hc, .inl rfl⟩, hc, .inr rfl⟩) (fun hc => ⟨hc, hc⟩) hp) h
  obtain ⟨hc, hm⟩ : closes = true ∧ (m = .viewerLock ∨ m = .slotsLock) := (hQ i).rest _ hm
  have hnot : ¬ Allowed closes (.acquire m) := fun ha => by
    rcases hm with rfl | rfl <;> exact Bool.noConfusion (hc.symm.trans ha)
  exact ⟨fun hh => hnot ((hQ j).held m hh), fun hr => hnot ((hQ j).rest _ hr)⟩

/-- **The SDK on many threads.**  In every interleaving: while any thread is in a call, some thread
can go on; two threads are never at a use of the same table; where the application's callback,
libdatachannel or libwebsockets runs, the thread holds no mutex but `g_lock`, and the locks of
libdatachannel's callbacks; and while `nearcade_shutdown` has still to destroy a mutex, no thread
holds it or has still to take it. -/
theorem sdk_threads (ov : Int → Int) (closes : Bool) {I : Type} [DecidableEq I]
    {c : I → Thread Mutex LockPoint}
    (h : (sdkThreads ov closes I).Reachable (fun _ => Thread.idle) c) :
    (∀ i, (c i).rest ≠ [] → ∃ j, CanRun c j) ∧
      (∀ t i j as bs, (c i).rest = .point (.access t) :: as →
        (c j).rest = .point (.access t) :: bs → i = j) ∧
      (∀ i p as, (c i).rest = .point p :: as → sdkLocks.Opens p →
        ∀ l ∈ (c i).held, sdkLocks.Lent l) ∧
      ∀ i m, .point (.destroy m) ∈ (c i).rest →
        ∀ j, m ∉ (c j).held ∧ .acquire m ∉ (c j).rest := by
  have hsafe : Safe sdkLocks c := safe_of_reachable keeps_path h
  refine ⟨fun i hi => hsafe.exists_run sdkLocks_rank_lt hi, fun t i j as bs hi hj => ?_,
    fun i p as hi hp => hsafe.lent_of_opens hi hp, fun i m hm => destroyed_free h hm⟩
  -- each table has one mutex
  obtain ⟨l, hl⟩ : ∃ l, l ∈ sdkLocks.guards (.access t) := by
    cases t with
    | _ => exact ⟨_, List.mem_singleton.mpr rfl⟩
  exact hsafe.excludes hi hj hl hl

/-- **All calls in progress return.**  From every state that finitely many threads come to they can
go on, without new calls, until no thread is in a call or holds a mutex; and however they go on,
they do so no more often than there are actions left on their paths, and where no thread can go on
none is in a call or holds a mutex. -/
theorem sdk_drains (ov : Int → Int) (closes : Bool) {I : Type} [DecidableEq I] [Fintype I]
    {c : I → Thread Mutex LockPoint}
    (h : (sdkThreads ov closes I).Reachable (fun _ => Thread.idle) c) :
    (∃ js : List I, (sdkThreads ov closes I).Valid c (js.map .run) ∧
      ∀ i, (sdkThreads ov closes I).final c (js.map .run) i = Thread.idle) ∧
      ∀ js : List I, (sdkThreads ov closes I).Valid c (js.map .run) → js.length ≤ work c ∧
        ((∀ i, ¬ CanRun ((sdkThreads ov closes I).final c (js.map .run)) i) →
          ∀ i, (sdkThreads ov closes I).final c (js.map .run) i = Thread.idle) := by
  have hsafe : Safe sdkLocks c := safe_of_reachable keeps_path h
  exact ⟨exists_drain hsafe keeps_path sdkLocks_rank_lt,
    fun js hv => drains hsafe keeps_path sdkLocks_rank_lt hv⟩

end

/-! ### Two threads -/

/-- libdatachannel reports that viewer 0 has connected, and in its event callback the application
makes a call; meanwhile the service thread closes the viewer's connection, has taken `g_lock`, and
waits for the callback to return. -/
def besideClose (call : Call) : List (Move Bool Mutex LockPoint) :=
  [.start true (Net.lockPath id World.oneViewer.sdk (.stateChange 0 .connected)), .run true,
   .start true (call.lockPath id World.oneViewer.sdk),
   .start false (Net.lockPath id World.oneViewer.sdk (.closed 7))] ++
    List.replicate 7 (.run false)

/-- The application disconnects the viewer, and has just taken `viewer_lock`. -/
def twoThreads : List (Move Bool Mutex LockPoint) :=
  besideClose (.disconnectViewer (some (bytes "viewer_0"))) ++ [.run true]

/-- The threads after these moves. -/
def atTwoThreads : Bool → Thread Mutex LockPoint :=
  (sdkThreads id false Bool).final (fun _ => Thread.idle) twoThreads

/-- The path of the callback. -/
theorem lockPath_connected : Net.lockPath id World.oneViewer.sdk (.stateChange 0 .connected) =
    critical (.callback 0 .onStateChange) firePath := by
  decide +kernel

/-- The path on which the service thread deletes the viewer's PeerConnection. -/
theorem lockPath_closed : Net.lockPath id World.oneViewer.sdk (.closed 7) =
    critical .gWsLock (access .hostWs ++ access .viewerWs) ++
      critical .gLock (access .sessions ++ (Webrtc.rtcPath ++
        Webrtc.callbackKinds.flatMap fun kind => critical (.callback 0 kind) [])) := by
  decide +kernel

theorem free_of_two {c : Bool → Thread Mutex LockPoint} {l : Mutex} (ht : l ∉ (c true).held)
    (hf : l ∉ (c false).held) : ∀ j, l ∉ (c j).held := fun j => by
  cases j
  · exact hf
  · exact ht

/-- Both come to where they are, where the call may be made. -/
theorem valid_besideClose {paths : List Mutex → LockPath → Prop} {call : Call}
    (hn : ∀ n : Net, n.MayStart [] → paths [] (n.lockPath id World.oneViewer.sdk))
    (hc : paths [.callback 0 .onStateChange] (call.lockPath id World.oneViewer.sdk)) :
    (threads sdkLocks paths Bool).Valid (fun _ => Thread.idle) (besideClose call) := by
  have hconnected := hn (.stateChange 0 .connected) (List.forall_mem_nil _)
  have hclosed := hn (.closed 7) rfl
  rw [besideClose, lockPath_connected, lockPath_closed]
  rw [lockPath_connected] at hconnected
  rw [lockPath_closed] at hclosed
  have hws : Mutex.gWsLock ∉ [Mutex.callback 0 .onStateChange] := by decide
  have hg : Mutex.gLock ∉ [Mutex.callback 0 .onStateChange] := by decide
  exact ⟨⟨hconnected, .inl rfl⟩, free_of_two List.not_mem_nil List.not_mem_nil,
    ⟨hc, .inr ⟨.fireEvent, _, rfl, trivial⟩⟩, ⟨hclosed, .inl rfl⟩,
    free_of_two hws List.not_mem_nil, trivial, trivial, trivial,
    free_of_two hg List.not_mem_nil, trivial, trivial, trivial⟩

theorem reachable_twoThreads :
    (sdkThreads id false Bool).Reachable (fun _ => Thread.idle) atTwoThreads := by
  refine ⟨twoThreads, Machine.valid_append.mpr ⟨valid_besideClose (fun n h => .net _ h)
    (.call _ rfl), ?_, trivial⟩, rfl⟩
  have ht : Mutex.viewerLock ∉ [Mutex.callback 0 .onStateChange] := by decide
  have hf : Mutex.viewerLock ∉ [Mutex.gLock] := by decide
  rw [besideClose, lockPath_connected, lockPath_closed]
  exact free_of_two ht hf

theorem sdk_threads_two :
    (∀ i, (atTwoThreads i).rest ≠ [] → ∃ j, CanRun atTwoThreads j) ∧
      (∀ t i j as bs, (atTwoThreads i).rest = .point (.access t) :: as →
        (atTwoThreads j).rest = .point (.access t) :: bs → i = j) ∧
      (∀ i p as, (atTwoThreads i).rest = .point p :: as → sdkLocks.Opens p →
        ∀ l ∈ (atTwoThreads i).held, sdkLocks.Lent l) ∧
      ∀ i m, .point (.destroy m) ∈ (atTwoThreads i).rest →
        ∀ j, m ∉ (atTwoThreads j).held ∧ .acquire m ∉ (atTwoThreads j).rest :=
  sdk_threads id false reachable_twoThreads

theorem sdk_drains_two :
    (∃ js : List Bool, (sdkThreads id false Bool).Valid atTwoThreads (js.map .run) ∧
      ∀ i, (sdkThreads id false Bool).final atTwoThreads (js.map .run) i = Thread.idle) ∧
      ∀ js : List Bool, (sdkThreads id false Bool).Valid atTwoThreads (js.map .run) →
        js.length ≤ work atTwoThreads ∧
          ((∀ i, ¬ CanRun ((sdkThreads id false Bool).final atTwoThreads (js.map .run)) i) →
            ∀ i, (sdkThreads id false Bool).final atTwoThreads (js.map .run) i = Thread.idle) :=
  sdk_drains id false reachable_twoThreads

/-- **Why the application may not send from its event callback.**  If it may call
`nearcade_send_h264` there as anywhere, the threads can come to where none can go on: the callback
waits for `g_lock`, and the service thread, which has it, for the callback. -/
theorem sendH264_deadlock : ∃ c, (threads sdkLocks
      (fun _ path => ∃ held, SdkPath id false held path) Bool).Reachable (fun _ => Thread.idle) c ∧
    (∀ i, (c i).rest ≠ []) ∧ ∀ i, ¬ CanRun c i := by
  have hv : (threads sdkLocks (fun _ path => ∃ held, SdkPath id false held path) Bool).Valid
      (fun _ => Thread.idle) (besideClose (.sendH264 (some [0]) 0)) :=
    valid_besideClose (fun n h => ⟨[], .net _ h⟩) ⟨[], .call _ rfl⟩
  refine ⟨_, ⟨_, hv, rfl⟩, ?_, ?_⟩
  all_goals rw [besideClose, lockPath_connected, lockPath_closed]
  · intro i
    cases i <;> exact List.cons_ne_nil _ _
  · intro i hi
    cases i with
    | false => exact hi true (List.mem_cons_self ..)
    | true => exact hi false (List.mem_cons_self ..)

end Nearcade
