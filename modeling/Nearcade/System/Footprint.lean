import Nearcade.System.Locking
import Nearcade.System.Events

/-!
# System — Footprint

The paths of `Source/Locking.lean` are those of the functions of the SDK.  `CoveredBy` says what a
path has to do with a step: a table that is not used on the path is neither read nor written by the
step, which does the same whatever is in it, and leaves it (`Blind`); an effect on a device comes
where the devices are used; and the path calls the application's callback once for each event.

* `covers_call`, `covers_net`: so it is for every call but `nearcade_init`, and every callback.
* `covers_step`: and the path keeps the discipline of the mutexes, so whatever the step reads or
  writes of a table it does under the table's mutex.
-/

namespace Nearcade
open Text Runs Locks

/-! ### What a step uses -/

/-- A state with the contents of a table taken from another. -/
def State.put (s s' : State) : LockedTable → State
  | .viewers => { s with g := { s.g with viewers := s'.g.viewers, numViewers := s'.g.numViewers } }
  | .slots => { s with g := { s.g with slots := s'.g.slots } }
  | .devices => { s with inp := s'.inp }
  | .sessions => { s with rtc := { s.rtc with gSessions := s'.rtc.gSessions } }
  | .hostWs => { s with sig := { s.sig with gHostWs := s'.sig.gHostWs } }
  | .viewerWs =>
      { s with sig := { s.sig with
          gViewerWs := s'.sig.gViewerWs, gNumViewers := s'.sig.gNumViewers } }

/-- A step neither reads nor writes a table: whatever the table holds, it does the same, and leaves
the table as it is. -/
def Blind (t : LockedTable) (s : State) (step : State → State × List Effect) : Prop :=
  ∀ s', step (s.put s' t) = ((step s).1.put s' t, (step s).2)

/-- An effect on a device. -/
def Effect.OnDevice (e : Effect) : Prop := e.kind = .injection ∨ e.kind = .device

/-- A table is used on a path. -/
def Uses (path : LockPath) (t : LockedTable) : Prop := .point (.access t) ∈ path

/-- A path is that of a step: it uses each table the step reads or writes, and that of the devices
where the step does anything to one, and calls the application's callback once for each event. -/
structure CoveredBy (path : LockPath) (s : State) (step : State → State × List Effect) : Prop where
  tables : ∀ t, ¬ Uses path t → Blind t s step
  devices : ∀ e ∈ (step s).2, e.OnDevice → Uses path .devices
  events : path.count (.point .fireEvent) = (fired (step s).2).length

section
variable {path path' : LockPath} {t : LockedTable}

theorem uses_access (t : LockedTable) : Uses (access t) t := List.mem_singleton.mpr rfl

theorem Uses.left (h : Uses path t) : Uses (path ++ path') t := List.mem_append_left _ h

theorem Uses.right (h : Uses path' t) : Uses (path ++ path') t := List.mem_append_right _ h

theorem Uses.critical (h : Uses path t) (l : Mutex) : Uses (critical l path) t :=
  List.mem_cons_of_mem _ h.left

theorem uses_section (l : Mutex) (t : LockedTable) : Uses (critical l (access t)) t :=
  (uses_access t).critical l

/-- What a step is blind to it leaves. -/
theorem Blind.unchanged {s : State} {step : State → State × List Effect} (h : Blind t s step) :
    (step s).1.put s t = (step s).1 := by
  have hs : s.put s t = s := by cases t <;> rfl
  have h := h s
  rw [hs] at h
  exact (congrArg Prod.fst h).symm

end

/-! ### Paths on which the application's callback is not called -/

/-- The application's callback is not called. -/
def Silent (path : LockPath) : Prop := Over (· ≠ .point .fireEvent) path

theorem usual_silent : Usual fun a : Locks.Act Mutex LockPoint => a ≠ .point .fireEvent where
  acquire _ _ _ := by simp
  release _ := by simp
  point _ hp _ := by simp [hp]

section
variable {path : LockPath}

theorem Silent.count (h : Silent path) : path.count (.point .fireEvent) = 0 :=
  List.count_eq_zero.mpr fun hm => h _ hm rfl

/-- A step that fires nothing, on a path that calls nothing. -/
theorem Silent.events (h : Silent path) {fx : List Effect} {ks : List Kind} (hw : Within ks fx)
    (hk : .application ∉ ks) : path.count (.point .fireEvent) = (fired fx).length := by
  rw [hw.fired hk]
  exact h.count

/-- A path that calls it at its end. -/
theorem Silent.count_fire (h : Silent path) :
    (path ++ firePath).count (.point .fireEvent) = 1 := by
  rw [List.count_append, h.count]
  rfl

theorem count_critical (l : Mutex) (p : LockPoint) (body : LockPath) :
    (critical l body).count (.point p) = body.count (.point p) := by
  have hr : List.count (.point p) [(.release l : Locks.Act Mutex LockPoint)] = 0 :=
    List.count_eq_zero.mpr (by simp)
  rw [critical, List.count_cons_of_ne (by simp), List.count_append, hr, Nat.add_zero]

end

theorem Within.not_onDevice {ks : List Kind} {fx : List Effect} (h : Within ks fx)
    (hi : .injection ∉ ks) (hd : .device ∉ ks) : ∀ e ∈ fx, ¬ e.OnDevice := fun e he ho =>
  ho.elim (fun hk => hi (hk ▸ h e he)) fun hk => hd (hk ▸ h e he)

/-- A step that does nothing to a device. -/
theorem CoveredBy.of_hidden {path : LockPath} {s : State} {step : State → State × List Effect}
    {ks : List Kind} (hb : ∀ t, ¬ Uses path t → Blind t s step) (hw : Within ks (step s).2)
    (hi : .injection ∉ ks) (hd : .device ∉ ks)
    (he : path.count (.point .fireEvent) = (fired (step s).2).length) : CoveredBy path s step :=
  ⟨hb, fun e hm ho => absurd ho (hw.not_onDevice hi hd e hm), he⟩

/-- A step that does nothing outside. -/
theorem CoveredBy.of_still {path : LockPath} {s : State} {step : State → State × List Effect}
    (hb : ∀ t, ¬ Uses path t → Blind t s step) (hn : (step s).2 = []) (hp : Silent path) :
    CoveredBy path s step := by
  refine ⟨hb, fun e he => ?_, ?_⟩
  · rw [hn] at he
    exact absurd he List.not_mem_nil
  · rw [hn]
    exact hp.count

/-! ### Calls -/

section
variable (s s' : State) {t : LockedTable}

/-- Without a slot of its number the devices are not looked at. -/
theorem slotInLockPath_cases (slot : UInt8) :
    Input.slotOfByte slot = none ∨ Uses (Input.slotInLockPath slot) .devices := by
  cases hk : Input.slotOfByte slot with
  | none => exact .inl rfl
  | some k =>
      simp only [Input.slotInLockPath, hk]
      exact .inr (uses_section _ _)

theorem submitGamepad_put {pkt : NearcadeGamepadPacket}
    (h : ¬ Uses (Input.slotInLockPath pkt.slot) t) :
    (Input.inputSubmitGamepad (s.put s' t).inp (some pkt)).2 =
      (Input.inputSubmitGamepad s.inp (some pkt)).2 := by
  cases t with
  | devices =>
      have hk := (slotInLockPath_cases pkt.slot).resolve_right h
      simp only [Input.inputSubmitGamepad, hk]
  | viewers | slots | sessions | hostWs | viewerWs => rfl

/-- The events of a gamepad go to the devices, or there are none. -/
theorem devices_submitGamepad (pkt : NearcadeGamepadPacket) :
    ∀ e ∈ (Input.inputSubmitGamepad s.inp (some pkt)).2,
      Uses (Input.slotInLockPath pkt.slot) .devices := by
  intro e he
  refine (slotInLockPath_cases pkt.slot).resolve_left fun hk => ?_
  simp only [Input.inputSubmitGamepad, hk] at he
  exact absurd he List.not_mem_nil

theorem flushSlot_put {slot : UInt8} (h : ¬ Uses (Input.slotInLockPath slot) t) :
    (Input.inputFlushSlot (s.put s' t).inp slot).2 = (Input.inputFlushSlot s.inp slot).2 := by
  cases t with
  | devices =>
      have hk := (slotInLockPath_cases slot).resolve_right h
      simp only [Input.inputFlushSlot, hk]
  | viewers | slots | sessions | hostWs | viewerWs => rfl

theorem devices_flushSlot (slot : UInt8) :
    ∀ e ∈ (Input.inputFlushSlot s.inp slot).2, Uses (Input.slotInLockPath slot) .devices := by
  intro e he
  refine (slotInLockPath_cases slot).resolve_left fun hk => ?_
  simp only [Input.inputFlushSlot, hk] at he
  exact absurd he List.not_mem_nil

end

/-- A slot of that number is freed under the lock, or nothing is. -/
theorem freeSlot_cases (slot : UInt8) : (∀ st, (Input.inputFreeSlot slot st).2 = (st, [])) ∨
    Uses (Input.slotPath slot) .devices := by
  cases hk : Input.slotOfByte slot with
  | none => exact .inl fun st => by simp only [Input.inputFreeSlot, hk]
  | some k =>
      simp only [Input.slotPath, hk]
      exact .inr (uses_section _ _)

theorem slotRelease_cases (slot : Int) : (∀ sm, slotRelease sm slot = sm) ∨
    Uses (slotReleasePath slot) .slots := by
  cases hk : slotOfInt slot with
  | none => exact .inl fun sm => by simp only [slotRelease, hk]
  | some k =>
      simp only [slotReleasePath, hk]
      exact .inr (uses_section _ _)

/-- The path of `nearcade_disconnect_viewer`. -/
theorem covered_disconnect (s : State) (id : Option Bytes) :
    CoveredBy (nearcadeDisconnectViewerPath s id) s fun s => (nearcadeDisconnectViewer s id).2 := by
  cases id with
  | none => exact .of_still (fun t _ s' => by cases t <;> rfl) rfl over_nil
  | some id =>
      have hput : ∀ s' t, t ≠ .viewers → findViewer (s.put s' t).g id = findViewer s.g id :=
        fun s' t ht => by
          cases t with
          | viewers => exact absurd rfl ht
          | slots | devices | sessions | hostWs | viewerWs => rfl
      cases hf : findViewer s.g id with
      | none =>
          have hp : nearcadeDisconnectViewerPath s (some id) =
              critical .viewerLock (access .viewers) := by
            simp only [nearcadeDisconnectViewerPath, hf]
          have hr : (nearcadeDisconnectViewer s (some id)).2 = (s, []) := by
            simp only [nearcadeDisconnectViewer, hf]
          have hsil : Silent (nearcadeDisconnectViewerPath s (some id)) :=
            over_disconnectPath usual_silent (by simp) (by simp) s _
          refine .of_still (fun t ht s' => ?_) (congrArg Prod.snd hr) hsil
          rw [hp] at ht
          have hv : t ≠ .viewers := fun hv => ht (hv ▸ uses_section _ _)
          simp only [nearcadeDisconnectViewer, hput s' t hv, hf]
      | some i =>
          have hp : nearcadeDisconnectViewerPath s (some id) = critical .viewerLock
              (access .viewers ++ Input.slotPath (UInt8.ofInt (s.g.viewers i).slot) ++
                slotReleasePath (s.g.viewers i).slot ++ access .viewers) := by
            simp only [nearcadeDisconnectViewerPath, hf]
          have hfree := freeSlot_cases (UInt8.ofInt (s.g.viewers i).slot)
          have hrel := slotRelease_cases (s.g.viewers i).slot
          rw [hp]
          refine ⟨fun t ht s' => ?_, fun e he _ => ?_, ?_⟩
          · have hv : t ≠ .viewers := fun hv => ht (hv ▸ (uses_access _).right.critical _)
            simp only [nearcadeDisconnectViewer, hput s' t hv, hf]
            cases t with
            | viewers => exact absurd rfl hv
            | slots =>
                have hrel := hrel.resolve_right fun h => ht (h.right.left.critical _)
                simp only [State.put, hrel]
            | devices =>
                have hfree := hfree.resolve_right fun h => ht (h.right.left.left.critical _)
                simp only [State.put, hfree]
            | sessions | hostWs | viewerWs => rfl
          · simp only [nearcadeDisconnectViewer, hf] at he
            refine (hfree.resolve_left fun h => ?_).right.left.left.critical _
            rw [congrArg Prod.snd (h s.inp)] at he
            exact absurd he List.not_mem_nil
          · have hsil : Silent (nearcadeDisconnectViewerPath s (some id)) :=
              over_disconnectPath usual_silent (by simp) (by simp) s _
            have hw : Within [.device] (nearcadeDisconnectViewer s (some id)).2.2 := by
              simp only [nearcadeDisconnectViewer, hf]
              exact Input.within_freeSlot
            rw [← hp]
            exact hsil.events hw (by simp)

/-- The path of `nearcade_shutdown`. -/
theorem covered_shutdown (s : State) (w : Capture.Waits) :
    CoveredBy (nearcadeShutdownPath s) s (nearcadeShutdown w) := by
  have hput : ∀ s' t, (s.put s' t).g.running = s.g.running := fun s' t => by cases t <;> rfl
  by_cases hrun : s.g.running = false
  · rw [nearcadeShutdownPath, if_pos hrun]
    have hr : nearcadeShutdown w s = (s, []) := if_pos hrun
    refine .of_still (fun t _ s' => ?_) (congrArg Prod.snd hr) over_nil
    rw [hr]
    exact if_pos ((hput s' t).trans hrun)
  · have hp : nearcadeShutdownPath s = Webrtc.shutdownPath s.rtc ++ Input.devicePath ++
        Signaling.shutdownPath s.sig ++
          [.point (.destroy .viewerLock), .point (.destroy .slotsLock)] := if_neg hrun
    have hdev : Uses (nearcadeShutdownPath s) .devices := by
      rw [hp]
      exact (uses_section _ _).right.left.left
    refine ⟨fun t ht s' => ?_, fun _ _ _ => hdev, ?_⟩
    · rw [hp] at ht hdev
      have hrun' : ¬ (s.put s' t).g.running = false := fun h => hrun ((hput s' t).symm.trans h)
      cases t with
      | viewers | slots => rw [nearcadeShutdown, nearcadeShutdown, if_neg hrun', if_neg hrun]; rfl
      | devices => exact absurd hdev ht
      | sessions => exact absurd ((uses_access _).left.critical _).left.left.left ht
      | hostWs => exact absurd (((uses_access _).left.critical _).left.right).left ht
      | viewerWs => exact absurd (((uses_access _).right.critical _).left.right).left ht
    · have hsil : Silent (nearcadeShutdownPath s) := by
        refine over_ite over_nil ((over_shutdownPath usual_silent s).append ?_)
        exact List.forall_mem_cons.mpr ⟨by simp, over_singleton (by simp)⟩
      exact hsil.events within_nearcadeShutdown (by simp)

/-- Whom a message goes to is looked for in the tables on its path. -/
theorem relayTarget_put (ov : Int → Int) (s s' : State) (id : Option Bytes) (payload : Bytes)
    {t : LockedTable} (h : ¬ Uses (Signaling.relayPath ov s.sig id (some payload)) t) :
    Signaling.relayTarget ov (s.put s' t).sig id = Signaling.relayTarget ov s.sig id := by
  by_cases hid : id = some (bytes "host")
  · have hhost : Uses (Signaling.relayPath ov s.sig id (some payload)) .hostWs := by
      simp only [Signaling.relayPath, if_pos hid]
      exact uses_section _ _
    simp only [Signaling.relayTarget, if_pos hid]
    cases t with
    | hostWs => exact absurd hhost h
    | viewers | slots | devices | sessions | viewerWs => rfl
  · have hws : Uses (Signaling.relayPath ov s.sig id (some payload)) .viewerWs := by
      simp only [Signaling.relayPath, if_neg hid]
      exact (uses_access _).left.critical _
    have hput : Signaling.viewerWsById ov (s.put s' t).sig id =
        Signaling.viewerWsById ov s.sig id := by
      cases t with
      | viewerWs => exact absurd hws h
      | viewers | slots | devices | sessions | hostWs => rfl
    simp only [Signaling.relayTarget, if_neg hid, hput]
    cases hw : Signaling.viewerWsById ov s.sig id with
    | some w => rfl
    | none =>
        -- it goes to the host
        have hhost : Uses (Signaling.relayPath ov s.sig id (some payload)) .hostWs := by
          simp only [Signaling.relayPath, if_neg hid, hw]
          exact (uses_access _).right.critical _
        cases t with
        | hostWs => exact absurd hhost h
        | viewers | slots | devices | sessions | viewerWs => rfl

/-- The path of `nearcade_set_viewer_input_mode` and `nearcade_set_controller_type`. -/
theorem covered_setViewer (s : State) (id : Option Bytes) (f : ViewerInfo → ViewerInfo) :
    CoveredBy (setViewerPath id) s fun s => ({ s with g := (setViewer s.g id f).2 }, []) := by
  refine .of_still (fun t ht s' => ?_) rfl (over_setViewerPath usual_silent (by simp) id)
  cases id with
  | none => cases t <;> rfl
  | some id =>
      cases t with
      | viewers => exact absurd (uses_section _ _) ht
      | devices | sessions | hostWs | viewerWs => rfl
      | slots =>
          have hf : findViewer (s.put s' .slots).g id = findViewer s.g id := rfl
          simp only [setViewer, hf]
          cases findViewer s.g id <;> rfl

/-- No table is asked whether a capture runs. -/
theorem capture_put (s s' : State) (t : LockedTable) :
    (s.put s' t).g.capturing = s.g.capturing ∧ (s.put s' t).cap = s.cap := by
  cases t <;> exact ⟨rfl, rfl⟩

theorem blind_startCapture (pid : Int) (s : State) (t : LockedTable) :
    Blind t s fun s => (nearcadeStartCapture pid s).2 := by
  intro s'
  obtain ⟨hput, hcap⟩ := capture_put s s' t
  by_cases hc : s.g.capturing = true
  · simp only [nearcadeStartCapture, hput, hc, if_true]
  · by_cases hok : (Capture.captureStart pid s.cap).1 = .ok
    · simp only [nearcadeStartCapture, hput, hcap, if_neg hc, if_pos hok]
      cases t <;> rfl
    · simp only [nearcadeStartCapture, hput, hcap, if_neg hc, if_neg hok]
      cases t <;> rfl

theorem blind_stopCapture (w : Capture.Waits) (s : State) (t : LockedTable) :
    Blind t s fun s => (nearcadeStopCapture w s).2 := by
  intro s'
  obtain ⟨hput, hcap⟩ := capture_put s s' t
  by_cases hc : s.g.capturing = false
  · simp only [nearcadeStopCapture, hput, hc, if_true]
  · simp only [nearcadeStopCapture, hput, hcap, if_neg hc]
    cases t <;> rfl

/-- The sessions are looked at where there is a frame. -/
theorem blind_sendH264 (s : State) (data : Option Bytes) (t : LockedTable)
    (h : ¬ Uses (Webrtc.sendH264Path data) t) :
    Blind t s fun s => (s, (nearcadeSendH264 s data).2) := by
  intro s'
  cases data with
  | none => rfl
  | some frame =>
      cases t with
      | sessions =>
          by_cases hl : frame.length = 0
          · simp only [nearcadeSendH264, Webrtc.webrtcSendH264, if_pos hl]
          · simp only [Webrtc.sendH264Path, if_neg hl] at h
            exact absurd ((uses_access _).left.critical _) h
      | viewers | slots | devices | hostWs | viewerWs => rfl

section
variable {ov : Int → Int}

/-- **The path of a call is that of its function**, `nearcade_init` apart. -/
theorem covers_call (s : State) {c : Call} (hc : c.Locked) :
    CoveredBy (c.lockPath ov s) s fun s => c.run ov s := by
  cases c with
  | init config e w => exact hc.elim
  | shutdown w => exact covered_shutdown s w
  | disconnectViewer id => exact covered_disconnect s id
  | setViewerInputMode id mode | setControllerType id ctrl => exact covered_setViewer s id _
  | startStreaming =>
      exact .of_hidden (fun t _ s' => by cases t <;> rfl) within_fireEvent (by simp) (by simp) rfl
  | startCapture pid =>
      have hw := Call.within ov s (.startCapture pid)
      exact .of_hidden (fun t _ => blind_startCapture pid s t) hw (by simp [Call.kinds])
        (by simp [Call.kinds]) (Silent.events over_nil hw (by simp [Call.kinds]))
  | stopCapture w =>
      have hw := Call.within ov s (.stopCapture w)
      exact .of_hidden (fun t _ => blind_stopCapture w s t) hw (by simp [Call.kinds])
        (by simp [Call.kinds]) (Silent.events over_nil hw (by simp [Call.kinds]))
  | sendH264 data ts =>
      have hw : Within [.track] (nearcadeSendH264 s data).2 := Webrtc.within_sendH264
      exact .of_hidden (blind_sendH264 s data) hw (by simp) (by simp)
        (Silent.events (over_sendH264Path usual_silent data) hw (by simp))
  | submitGamepad pkt =>
      cases pkt with
      | none => exact .of_still (fun t _ s' => rfl) rfl over_nil
      | some pkt =>
          exact ⟨fun t ht s' => Prod.ext rfl (submitGamepad_put s s' ht),
            fun e he _ => devices_submitGamepad s pkt e he,
            Silent.events (over_slotInLockPath usual_silent _) Input.within_submitGamepad (by simp)⟩
  | submitKbm id ev key dx dy =>
      cases id with
      | none => exact .of_still (fun t _ s' => rfl) rfl over_nil
      | some id =>
          cases ev with
          | none => exact .of_still (fun t _ s' => rfl) rfl over_nil
          | some ev =>
              refine ⟨fun t ht s' => ?_, fun _ _ _ => uses_section _ _,
                Silent.events (over_devicePath usual_silent) Input.within_submitKbm (by simp)⟩
              cases t with
              | devices => exact absurd (uses_section _ _) ht
              | viewers | slots | sessions | hostWs | viewerWs => rfl
  | flushSlot slot =>
      exact ⟨fun t ht s' => Prod.ext rfl (flushSlot_put s s' ht),
        fun e he _ => devices_flushSlot s slot e he,
        Silent.events (over_slotInLockPath usual_silent _) Input.within_flushSlot (by simp)⟩
  | sendAnswer id sdp io =>
      have hw : Within [.socket] (nearcadeSendAnswer ov io s id sdp).2 :=
        Signaling.within_sendAnswer
      refine .of_hidden (fun t ht s' => ?_) hw (by simp) (by simp)
        (Silent.events (over_relayPath usual_silent ov s.sig id sdp) hw (by simp))
      cases sdp with
      | none => rfl
      | some sdp =>
          simp only [Call.run, nearcadeSendAnswer, Signaling.signalingSendAnswer,
            relayTarget_put ov s s' id sdp ht]
  | sendIceCandidate id cand io =>
      have hw : Within [.socket] (nearcadeSendIceCandidate ov io s id cand).2 :=
        Signaling.within_sendIce
      refine .of_hidden (fun t ht s' => ?_) hw (by simp) (by simp)
        (Silent.events (over_relayPath usual_silent ov s.sig id cand) hw (by simp))
      cases cand with
      | none => rfl
      | some cand =>
          simp only [Call.run, nearcadeSendIceCandidate, Signaling.signalingSendIce,
            relayTarget_put ov s s' id cand ht]
  | stopStreaming | pollEvents | sendFrame | setEventCallback | getSignalingUrl | getLanIp | getPin
  | regeneratePin | sendOffer =>
      exact .of_still (fun t _ s' => by cases t <;> rfl) rfl over_nil

end

/-! ### Callbacks -/

/-- The call of `g_viewer_cb` uses the sessions alone, and only where they are on its path. -/
theorem callViewerCb_put (s s' : State) {t : LockedTable} (idx : Option (Fin maxViewers))
    (joined : Bool) (h : ¬ Uses (Signaling.viewerCbPath s idx joined) t) :
    callViewerCb (s.put s' t) idx joined = (callViewerCb s idx joined).put s' t := by
  cases idx with
  | none => rfl
  | some i =>
      have hput : (s.put s' t).sig.gViewerCb = s.sig.gViewerCb := by cases t <;> rfl
      simp only [Signaling.viewerCbPath] at h
      simp only [callViewerCb, hput]
      by_cases hcb : s.sig.gViewerCb = true
      · rw [if_pos hcb] at h
        rw [if_pos hcb, if_pos hcb]
        cases t with
        | sessions =>
            cases joined with
            | true =>
                by_cases hup : s.rtc.gInitialized = true
                · simp only [if_true, Webrtc.viewerJoinedPath, if_pos hup] at h
                  exact absurd (uses_section _ _).right h
                · have hup' : ¬ (s.put s' .sessions).rtc.gInitialized = true := hup
                  simp only [onSignalingViewer, if_true, Webrtc.webrtcViewerJoined, if_neg hup,
                    if_neg hup']
            | false => exact absurd ((uses_access _).left.critical _) h
        | viewers | slots | devices | hostWs | viewerWs => cases joined <;> rfl
      · simp only [if_neg hcb]

/-- A section of the signaling module that is blind to a table, and the call of `g_viewer_cb`. -/
theorem blind_section {s : State} {t : LockedTable} {joined : Bool}
    {body : State → Signaling.State × Option (Fin maxViewers)}
    (hs : ∀ s', body (s.put s' t) =
      (({ s with sig := (body s).1 }.put s' t).sig, (body s).2))
    (hcb : (body s).1.gViewerCb = s.sig.gViewerCb)
    (h : ¬ Uses (Signaling.viewerCbPath s (body s).2 joined) t) :
    Blind t s fun s => (callViewerCb { s with sig := (body s).1 } (body s).2 joined, []) := by
  intro s'
  have hput : { s.put s' t with sig := ({ s with sig := (body s).1 }.put s' t).sig } =
      { s with sig := (body s).1 }.put s' t := by cases t <;> rfl
  have hpath : Signaling.viewerCbPath { s with sig := (body s).1 } (body s).2 joined =
      Signaling.viewerCbPath s (body s).2 joined := by
    cases (body s).2 with
    | none => rfl
    | some i => simp only [Signaling.viewerCbPath, hcb]
  rw [← hpath] at h
  simp only [hs s', hput, callViewerCb_put _ s' _ joined h]

theorem storeViewer_put (s s' : State) (wsi : Wsi) {t : LockedTable} (h : t ≠ .viewerWs) :
    Signaling.storeViewer (s.put s' t).sig wsi =
      (({ s with sig := (Signaling.storeViewer s.sig wsi).1 }.put s' t).sig,
        (Signaling.storeViewer s.sig wsi).2) := by
  cases t with
  | viewerWs => exact absurd rfl h
  | hostWs =>
      simp only [State.put, Signaling.storeViewer]
      cases firstIdx fun i => (s.sig.gViewerWs i).isNone <;> rfl
  | viewers | slots | devices | sessions => rfl

theorem established_put (s s' : State) (wsi : Wsi) (uri : Bytes) {t : LockedTable}
    (h : ¬ Uses (critical .gWsLock
      (if (strstr uri (bytes "/host")).isSome then access .hostWs else access .viewerWs)) t) :
    Signaling.established (s.put s' t).sig wsi uri =
      (({ s with sig := (Signaling.established s.sig wsi uri).1 }.put s' t).sig,
        (Signaling.established s.sig wsi uri).2) := by
  by_cases hh : (strstr uri (bytes "/host")).isSome = true
  · rw [if_pos hh] at h
    simp only [Signaling.established, if_pos hh]
    cases t with
    | hostWs => exact absurd (uses_section _ _) h
    | viewers | slots | devices | sessions | viewerWs => rfl
  · rw [if_neg hh] at h
    have hws : t ≠ .viewerWs := fun ht => h (ht ▸ uses_section _ _)
    simp only [Signaling.established, if_neg hh, ite_self]
    exact storeViewer_put s s' wsi hws

/-- A connection is looked for in `g_host_ws`, and among the viewers where it is not the host's. -/
theorem lookup_tables {st : Signaling.State} {wsi : Wsi} {t : LockedTable}
    (h : ¬ Uses (Signaling.lookupPath st wsi) t) :
    t ≠ .hostWs ∧ (st.gHostWs = some wsi ∨ t ≠ .viewerWs) := by
  refine ⟨fun ht => h (ht ▸ (uses_access _).left.critical _), ?_⟩
  by_cases hh : st.gHostWs = some wsi
  · exact .inl hh
  · refine .inr fun ht => h (ht ▸ ?_)
    simp only [Signaling.lookupPath, if_neg hh]
    exact (uses_access _).right.critical _

theorem gHostWs_put (s s' : State) {t : LockedTable} (h : t ≠ .hostWs) :
    (s.put s' t).sig.gHostWs = s.sig.gHostWs := by
  cases t with
  | hostWs => exact absurd rfl h
  | viewers | slots | devices | sessions | viewerWs => rfl

theorem entryOf_put (s s' : State) (wsi : Wsi) {t : LockedTable} (h : t ≠ .viewerWs) :
    Signaling.entryOf (s.put s' t).sig wsi = Signaling.entryOf s.sig wsi := by
  cases t with
  | viewerWs => exact absurd rfl h
  | viewers | slots | devices | sessions | hostWs => rfl

theorem closed_put (s s' : State) (wsi : Wsi) {t : LockedTable}
    (h : ¬ Uses (Signaling.lookupPath s.sig wsi) t) :
    Signaling.closed (s.put s' t).sig wsi =
      (({ s with sig := (Signaling.closed s.sig wsi).1 }.put s' t).sig,
        (Signaling.closed s.sig wsi).2) := by
  obtain ⟨hhost, hws⟩ := lookup_tables h
  simp only [Signaling.closed, gHostWs_put s s' hhost]
  by_cases hh : s.sig.gHostWs = some wsi
  · simp only [if_pos hh]
    cases t with
    | hostWs => exact absurd rfl hhost
    | viewers | slots | devices | sessions | viewerWs => rfl
  · have hws := hws.resolve_left hh
    simp only [if_neg hh, entryOf_put s s' wsi hws]
    cases t with
    | hostWs => exact absurd rfl hhost
    | viewerWs => exact absurd rfl hws
    | viewers | slots | devices | sessions => cases Signaling.entryOf s.sig wsi <;> rfl

theorem senderOf_put (s s' : State) (wsi : Wsi) {t : LockedTable}
    (h : ¬ Uses (Signaling.lookupPath s.sig wsi) t) :
    Signaling.senderOf (s.put s' t).sig wsi = Signaling.senderOf s.sig wsi := by
  obtain ⟨hhost, hws⟩ := lookup_tables h
  simp only [Signaling.senderOf, gHostWs_put s s' hhost]
  by_cases hh : s.sig.gHostWs = some wsi
  · simp only [if_pos hh]
  · simp only [if_neg hh, entryOf_put s s' wsi (hws.resolve_left hh)]

/-- The sessions are looked at where the id is read. -/
theorem handleSignaling_put (ov : Int → Int) (throws : RtcCall → Bool) (s s' : State)
    (vid data : Bytes) {t : LockedTable} (h : ¬ Uses (Webrtc.handleSignalingPath ov vid) t) :
    onSignalingMsg ov throws (s.put s' t) vid data = onSignalingMsg ov throws s vid data := by
  cases t with
  | sessions =>
      simp only [onSignalingMsg, Webrtc.webrtcHandleSignaling]
      rw [Webrtc.handleSignalingPath] at h
      cases hid : sscanf ov (bytes "viewer_") vid with
      | none => rfl
      | some viewerIdx =>
          rw [hid] at h
          by_cases hneg : viewerIdx < 0
          · simp only [if_pos hneg]
          · simp only [if_neg hneg] at h
            exact absurd ((uses_access _).left.critical _) h
  | viewers | slots | devices | hostWs | viewerWs => rfl

theorem fireEvent_put (s s' : State) (t : LockedTable) (ev : NearcadeEvent) :
    fireEvent (s.put s' t).g ev = fireEvent s.g ev := by
  cases t <;> rfl

/-- The path of `LWS_CALLBACK_RECEIVE`. -/
theorem covered_receive (ov : Int → Int) (throws : RtcCall → Bool) (s : State) (wsi : Wsi)
    (input : Bytes) :
    CoveredBy (Signaling.receivePath ov s wsi) s fun s =>
      (s, callbackReceive ov throws s wsi input) := by
  have hw : Within [.rtc, .application] (callbackReceive ov throws s wsi input) :=
    Net.within ov s (.receive wsi input throws)
  have hpre : Silent (.point .peekHost :: Signaling.lookupPath s.sig wsi) :=
    (over_peekHost usual_silent).append (over_lookupPath usual_silent s.sig wsi)
  have hmsg : ∀ id host, Silent (Signaling.msgCbPath ov s.sig id host) :=
    over_msgCbPath usual_silent ov s.sig
  refine .of_hidden (fun t ht s' => Prod.ext rfl ?_) hw (by simp) (by simp) ?_
  · have hsender := senderOf_put s s' wsi fun h => ht (List.mem_cons_of_mem _ h.left)
    have hcb : (s.put s' t).sig.gMsgCb = s.sig.gMsgCb := by cases t <;> rfl
    rw [Signaling.receivePath] at ht
    simp only [callbackReceive, hsender]
    cases hs : Signaling.senderOf s.sig wsi with
    | host => exact fireEvent_put s s' t _
    | unknown => rfl
    | viewer i =>
        simp only [hs, Signaling.msgCbPath] at ht
        simp only [handleViewerMessage, hcb, fireEvent_put]
        by_cases hm : s.sig.gMsgCb = true
        · simp only [if_pos hm] at ht ⊢
          rw [handleSignaling_put]
          exact fun h => ht (List.mem_cons_of_mem _ (Uses.left (List.mem_cons_of_mem _ h)).right)
        · simp only [if_neg hm]
  · rw [Signaling.receivePath, List.count_append, hpre.count, Nat.zero_add]
    simp only [callbackReceive]
    cases hs : Signaling.senderOf s.sig wsi with
    | host => exact (hmsg _ true).count_fire
    | unknown => rfl
    | viewer i =>
        have hsig : fired (if s.sig.gMsgCb = true then
            onSignalingMsg ov throws s (viewerId (i.val : Int)) (Signaling.rxBuf input) else []) =
              [] := by
          split
          · exact Webrtc.within_handleSignaling.fired (by simp)
          · rfl
        simp only [handleViewerMessage, fired_append, hsig]
        exact (hmsg _ false).count_fire

/-- A message that a callback sends to a viewer. -/
theorem sendViaSignaling_put (ov : Int → Int) (io : Signaling.Io) (s s' : State)
    (vid data : Bytes) {t : LockedTable} (h : t ≠ .viewerWs) :
    webrtcSendViaSignaling ov io (s.put s' t) (some (vid, data)) =
      webrtcSendViaSignaling ov io s (some (vid, data)) := by
  cases t with
  | viewerWs => exact absurd rfl h
  | viewers | slots | devices | sessions | hostWs => rfl

/-- The path of a callback of libdatachannel that may send a message: `call` is what it makes of the
state. -/
theorem covered_send (ov : Int → Int) (io : Signaling.Io) (s : State)
    (call : State → Option (Bytes × Bytes)) (hcall : ∀ s' t, call (s.put s' t) = call s)
    (l : Mutex) (hl : l ≠ .viewerLock) (hl' : l ≠ .slotsLock) :
    CoveredBy (critical l (webrtcSendViaSignalingPath (call s))) s fun s =>
      (s, webrtcSendViaSignaling ov io s (call s)) := by
  have hsil : Silent (critical l (webrtcSendViaSignalingPath (call s))) :=
    over_section usual_silent hl hl' (over_sendViaSignalingPath usual_silent _)
  cases hc : call s with
  | none =>
      refine .of_still (fun t _ s' => ?_) ?_ (hc ▸ hsil)
      · simp only [hcall, hc, webrtcSendViaSignaling]
      · simp only [hc, webrtcSendViaSignaling]
  | some msg =>
      have hw : Within [.socket] (webrtcSendViaSignaling ov io s (some msg)) :=
        Signaling.within_sendToViewer
      rw [hc] at hsil
      refine .of_hidden (fun t ht s' => ?_) (hc.symm ▸ hw) (by simp) (by simp)
        (hsil.events (hc.symm ▸ hw) (by simp))
      have hws : t ≠ .viewerWs := fun h => ht (h ▸ (uses_section _ _).critical _)
      simp only [hcall, hc, sendViaSignaling_put ov io s s' msg.1 msg.2 hws]

/-- **The path of a callback is that of its function.** -/
theorem covers_net (ov : Int → Int) (s : State) (n : Net) :
    CoveredBy (n.lockPath ov s) s fun s => n.run ov s := by
  cases n with
  | established wsi uri stack =>
      have hcb : (Signaling.established s.sig wsi (Signaling.lwsHdrCopy uri stack)).1.gViewerCb =
          s.sig.gViewerCb := by
        obtain ⟨host, ws, k, e⟩ :=
          Signaling.established_tables s.sig wsi (Signaling.lwsHdrCopy uri stack)
        rw [e]
      refine .of_still (fun t ht => ?_) rfl ?_
      · exact blind_section (fun s' => established_put s s' wsi _ fun h => ht h.left) hcb
          fun h => ht h.right
      · exact (over_gWsLock usual_silent (over_ite (over_access usual_silent _)
          (over_access usual_silent _))).append (over_viewerCbPath usual_silent s _ true)
  | closed wsi =>
      have hcb : (Signaling.closed s.sig wsi).1.gViewerCb = s.sig.gViewerCb := by
        obtain ⟨host, ws, k, e⟩ := Signaling.closed_tables s.sig wsi
        rw [e]
      refine .of_still (fun t ht => ?_) rfl ?_
      · exact blind_section (fun s' => closed_put s s' wsi fun h => ht h.left) hcb
          fun h => ht h.right
      · exact (over_lookupPath usual_silent s.sig wsi).append
          (over_viewerCbPath usual_silent s _ false)
  | receive wsi input throws => exact covered_receive ov throws s wsi input
  | stateChange pc state =>
      have hw := Net.within ov s (.stateChange pc state)
      refine .of_hidden (fun t _ s' => ?_) hw (by simp [Net.kinds]) (by simp [Net.kinds]) ?_
      · cases t <;> rfl
      · simp only [Net.lockPath, Net.run, count_critical]
        cases (Webrtc.onStateChange s.rtc pc state).2 with
        | none => rfl
        | some call => rfl
  | localDescription pc type sdp io =>
      exact covered_send ov io s (fun s => Webrtc.onLocalDescription s.rtc pc type sdp)
        (fun s' t => by cases t <;> rfl) _ Mutex.noConfusion Mutex.noConfusion
  | localCandidate pc cand io =>
      exact covered_send ov io s (fun s => Webrtc.onLocalCandidate s.rtc pc cand)
        (fun s' t => by cases t <;> rfl) _ Mutex.noConfusion Mutex.noConfusion
  | message pc msg =>
      have hput : ∀ s' t, Webrtc.onMessage (s.put s' t).rtc msg = Webrtc.onMessage s.rtc msg :=
        fun s' t => by cases t <;> rfl
      cases hm : Webrtc.onMessage s.rtc msg with
      | none =>
          have hp : Net.lockPath ov s (.message pc msg) =
              critical (.callback pc .onMessage) [] := by
            simp only [Net.lockPath, hm]
          rw [hp]
          refine .of_still (fun t _ s' => ?_) ?_
            (over_section usual_silent Mutex.noConfusion Mutex.noConfusion over_nil)
          · simp only [Net.run, hput, hm]
          · simp only [Net.run, hm]
      | some pkt =>
          have hp : Net.lockPath ov s (.message pc msg) =
              critical (.callback pc .onMessage) (Input.slotInLockPath pkt.slot ++ firePath) := by
            simp only [Net.lockPath, hm]
          have hr : (Net.run ov s (.message pc msg)).2 = webrtcReceivedInput s pkt := by
            simp only [Net.run, hm]
          rw [hp]
          refine ⟨fun t ht s' => ?_, fun e he ho => ?_, ?_⟩
          · simp only [Net.run, hput, hm, webrtcReceivedInput, fireEvent_put,
              submitGamepad_put s s' fun h => ht (h.left.critical _)]
          · rw [hr] at he
            rcases List.mem_append.mp he with he | he
            · exact (devices_submitGamepad s pkt e he).left.critical _
            · exact absurd ho (within_fireEvent.not_onDevice (by simp) (by simp) e he)
          · have hpad : fired (Input.inputSubmitGamepad s.inp (some pkt)).2 = [] :=
              Input.within_submitGamepad.fired (by simp)
            rw [hr, webrtcReceivedInput, fired_append, hpad, count_critical,
              Silent.count_fire (over_slotInLockPath usual_silent _)]
            rfl

/-! ### Steps -/

/-- The path of a step. -/
def Input.lockPath (ov : Int → Int) (s : Nearcade.State) : Input → LockPath
  | .call c => c.lockPath ov s
  | .net n => n.lockPath ov s

/-- What a step makes of the SDK. -/
def Input.run (ov : Int → Int) (s : Nearcade.State) : Input → Nearcade.State × List Effect
  | .call c => c.run ov s
  | .net n => n.run ov s

/-- A step that has a path. -/
def Input.Locked : Input → Prop
  | .call c => c.Locked
  | .net _ => True

/-- A call may be made where no lock is held. -/
theorem Call.Locked.mayStart {c : Call} (hc : c.Locked) : ∃ closes, c.MayStart closes [] := by
  cases c with
  | init => exact hc.elim
  | shutdown w => exact ⟨true, rfl, rfl⟩
  | sendH264 | disconnectViewer | setViewerInputMode | setControllerType => exact ⟨false, rfl⟩
  | _ => exact ⟨false, trivial⟩

/-- So may a callback. -/
theorem Net.mayStart_nil (n : Net) : n.MayStart [] := by
  cases n with
  | established | closed | receive => rfl
  | stateChange | localDescription | localCandidate | message => exact List.forall_mem_nil _

/-- **The paths are those of the functions.**  In every state, the path of a step is one the threads
may take; on it every table is used under its mutex.  A table that is not used on the path the step
neither reads nor writes, and where it does anything to a device the devices are; and the path calls
the application's callback once for each event. -/
theorem covers_step (ov : Int → Int) (s : State) {i : Input} (hi : i.Locked) :
    (∃ closes, SdkPath ov closes [] (i.lockPath ov s)) ∧
      sdkLocks.Keeps [] (i.lockPath ov s) [] ∧
      CoveredBy (i.lockPath ov s) s fun s => i.run ov s := by
  have hpath : ∃ closes, SdkPath ov closes [] (i.lockPath ov s) := by
    cases i with
    | call c =>
        obtain ⟨closes, hc⟩ := Call.Locked.mayStart hi
        exact ⟨closes, .call s hc⟩
    | net n => exact ⟨false, .net s n.mayStart_nil⟩
  obtain ⟨closes, hp⟩ := hpath
  refine ⟨⟨closes, hp⟩, keeps_path [] _ (List.forall_mem_nil _) hp, ?_⟩
  cases i with
  | call c => exact covers_call s hi
  | net n => exact covers_net ov s n

theorem covers_step_kbm :
    let press : Input :=
      .call (.submitKbm (some []) (some (bytes "keydown")) (some (bytes "A")) 0 0)
    (∃ closes, SdkPath id closes [] (press.lockPath id World.first.sdk)) ∧
      sdkLocks.Keeps [] (press.lockPath id World.first.sdk) [] ∧
      CoveredBy (press.lockPath id World.first.sdk) World.first.sdk fun s => press.run id s :=
  covers_step id World.first.sdk trivial

end Nearcade
