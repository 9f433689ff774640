import Nearcade.Lifecycle.Reinit

/-!
# Viewers — Disabled

What `nearcade_set_viewer_input_mode` does to the inputs that come after it.  The mode of an entry
is stored and never read: `State.erase` forgets the modes, and every step commutes with it
(`erase_next`), so two worlds that differ in the modes take the same inputs and put out the same
(`agree_final`).

* `cannotInject_iff`: a disabled viewer writes to no device just when none of its packets names a
  slot with a device, and no keyboard or mouse event with its name is one the backend knows.
-/

namespace Nearcade
open Text Runs

/-! ### The state without the modes -/

/-- An entry without its mode. -/
def ViewerInfo.erase (v : ViewerInfo) : ViewerInfo := { v with mode := .gamepad }

/-- The entries without their modes. -/
def eraseModes (viewers : Fin maxViewers → ViewerInfo) : Fin maxViewers → ViewerInfo :=
  fun i => (viewers i).erase

def State.erase (s : State) : State :=
  { s with g := { s.g with viewers := eraseModes s.g.viewers } }

def World.erase (w : World) : World := { w with sdk := w.sdk.erase }

theorem eraseModes_update (viewers : Fin maxViewers → ViewerInfo) (i : Fin maxViewers)
    (v : ViewerInfo) :
    eraseModes (Function.update viewers i v) =
      Function.update (eraseModes viewers) i v.erase := by
  funext j
  by_cases e : j = i
  · subst e
    rw [eraseModes, Function.update_self, Function.update_self]
  · rw [eraseModes, Function.update_of_ne e, Function.update_of_ne e]
    rfl

/-- The loops over `viewers` read no mode. -/
theorem findViewer_erase (s : State) (id : Bytes) :
    findViewer s.erase.g id = findViewer s.g id := rfl

section
variable {ov : Int → Int}

/-- What is stored in an entry is stored in the one without its mode. -/
theorem setViewer_erase (s : State) (id : Option Bytes) {f : ViewerInfo → ViewerInfo}
    (hf : ∀ v : ViewerInfo, (f v.erase).erase = (f v).erase) :
    State.erase { s.erase with g := (setViewer s.erase.g id f).2 } =
      State.erase { s with g := (setViewer s.g id f).2 } := by
  cases id with
  | none => rfl
  | some id =>
      simp only [setViewer, findViewer_erase]
      split
      · rfl
      · simp only [State.erase, eraseModes_update]
        congr 3
        exact hf _

/-- **A call reads no mode.** -/
theorem Call.run_erase (ov : Int → Int) (s : State) (c : Call) :
    (c.run ov s.erase).1.erase = (c.run ov s).1.erase ∧
      (c.run ov s.erase).2 = (c.run ov s).2 := by
  cases c with
  | init config e w =>
      have h : nearcadeInit config e w s.erase = nearcadeInit config e w s := rfl
      rw [Call.run, h]
      exact ⟨rfl, rfl⟩
  | shutdown w =>
      simp only [Call.run, nearcadeShutdown]
      by_cases hr : s.g.running = false
      · rw [if_pos hr, if_pos (show s.erase.g.running = false from hr)]
        exact ⟨rfl, rfl⟩
      · rw [if_neg hr, if_neg (show ¬ s.erase.g.running = false from hr)]
        exact ⟨rfl, rfl⟩
  | startCapture pid =>
      simp only [Call.run, nearcadeStartCapture]
      by_cases hc : s.g.capturing = true
      · rw [if_pos hc, if_pos (show s.erase.g.capturing = true from hc)]
        exact ⟨rfl, rfl⟩
      · rw [if_neg hc, if_neg (show ¬ s.erase.g.capturing = true from hc)]
        by_cases hs : (Capture.captureStart pid s.cap).1 = .ok
        · rw [if_pos hs, if_pos (show (Capture.captureStart pid s.erase.cap).1 = .ok from hs)]
          exact ⟨rfl, rfl⟩
        · rw [if_neg hs, if_neg (show ¬ (Capture.captureStart pid s.erase.cap).1 = .ok from hs)]
          exact ⟨rfl, rfl⟩
  | stopCapture w =>
      simp only [Call.run, nearcadeStopCapture]
      by_cases hc : s.g.capturing = false
      · rw [if_pos hc, if_pos (show s.erase.g.capturing = false from hc)]
        exact ⟨rfl, rfl⟩
      · rw [if_neg hc, if_neg (show ¬ s.erase.g.capturing = false from hc)]
        exact ⟨rfl, rfl⟩
  | disconnectViewer id =>
      cases id with
      | none => exact ⟨rfl, rfl⟩
      | some id =>
          simp only [Call.run, nearcadeDisconnectViewer, findViewer_erase]
          split
          · exact ⟨rfl, rfl⟩
          · refine ⟨?_, rfl⟩
            simp only [State.erase, eraseModes_update]
            rfl
  | setViewerInputMode id mode => exact ⟨setViewer_erase s id fun _ => rfl, rfl⟩
  | setControllerType id ctrl => exact ⟨setViewer_erase s id fun _ => rfl, rfl⟩
  | startStreaming | stopStreaming | setEventCallback _ _ | regeneratePin _ | pollEvents _
  | sendH264 _ _ | sendFrame _ _ _ _ | submitGamepad _ | submitKbm _ _ _ _ _ | flushSlot _
  | getSignalingUrl _ | getLanIp _ | getPin _ | sendOffer _ _ | sendAnswer _ _ _
  | sendIceCandidate _ _ _ => exact ⟨rfl, rfl⟩

/-- **A callback reads no mode.** -/
theorem Net.run_erase (ov : Int → Int) (s : State) (n : Net) :
    (n.run ov s.erase).1.erase = (n.run ov s).1.erase ∧
      (n.run ov s.erase).2 = (n.run ov s).2 := by
  have hcb : ∀ (sig : Signaling.State) (idx : Option (Fin maxViewers)) (joined : Bool),
      (callViewerCb { s.erase with sig := sig } idx joined).erase =
        (callViewerCb { s with sig := sig } idx joined).erase := by
    intro sig idx joined
    cases idx with
    | none => rfl
    | some i =>
        simp only [callViewerCb]
        split
        · cases joined <;> rfl
        · rfl
  cases n with
  | established wsi uri stack | closed wsi => exact ⟨hcb _ _ _, rfl⟩
  | stateChange _ _ | receive _ _ _ | localDescription _ _ _ _ | localCandidate _ _ _
  | message _ _ => exact ⟨rfl, rfl⟩

theorem next_erase (ov : Int → Int) (w : World) (i : PlayStep) :
    ((playing ov).next w.erase i).erase = ((playing ov).next w i).erase := by
  cases i with
  | table t => cases t <;> rfl
  | sdk i =>
      cases i with
      | call c => exact congrArg (World.mk · w.live) (Call.run_erase ov w.sdk c).1
      | net n => exact congrArg (World.mk · (n.live w.live)) (Net.run_erase ov w.sdk n).1

theorem out_erase (ov : Int → Int) (w : World) (i : PlayStep) :
    (playing ov).out w.erase i = (playing ov).out w i := by
  cases i with
  | table t => rfl
  | sdk i =>
      cases i with
      | call c => exact (Call.run_erase ov w.sdk c).2
      | net n => exact (Net.run_erase ov w.sdk n).2

theorem enabled_erase (ov : Int → Int) (w : World) (i : PlayStep) :
    (playing ov).enabled w.erase i ↔ (playing ov).enabled w i := by
  cases i with
  | table t => rfl
  | sdk i =>
      cases i with
      | call c => cases c <;> rfl
      | net n => cases n <;> rfl

end

/-! ### A disabled viewer -/

/-- The world after `nearcade_set_viewer_input_mode(id, NEARCADE_INPUT_DISABLED)`. -/
def World.disable (w : World) (id : Bytes) : World :=
  { w with sdk := { w.sdk with
      g := (nearcadeSetViewerInputMode w.sdk.g (some id) .disabled).2 } }

theorem disable_erase (w : World) (id : Bytes) : (w.disable id).erase = w.erase :=
  congrArg (World.mk · w.live) (by
    rw [State.erase, State.erase]
    simp only [World.disable, nearcadeSetViewerInputMode, setViewer]
    split
    · rfl
    · rw [eraseModes_update]
      congr 2
      exact Function.update_eq_self _ _)

/-- An input of a viewer: a message on a data channel made for its index, or a keyboard and mouse
event with its name. -/
def FromViewer (id : Bytes) (w : World) : PlayStep → Prop
  | .sdk (.net (.message pc _)) => (w.sdk.rtc.captured pc).map viewerId = some id
  | .sdk (.call (.submitKbm vid _ _ _ _)) => vid = some id
  | _ => False

/-- The input is one that is written nowhere, whoever sends it: a message that holds no packet, or
one for a slot without a device; an event the backend does not know, or has no device for. -/
def Idles (s : State) : PlayStep → Prop
  | .sdk (.net (.message _ msg)) => ∀ bin pkt, msg = .binary bin → s.rtc.gInputCb = true →
      NearcadeGamepadPacket.ofBytes bin = some pkt →
        ∀ k, Input.slotOfByte pkt.slot = some k → s.inp.gpFds k < 0
  | .sdk (.call (.submitKbm (some _) (some ev) key _ _)) =>
      Input.KbmMapped ev key → s.inp.kbmFd < 0
  | _ => True

/-- From its disabling on the inputs of a viewer are written to no device, and the others do what
they would have done without it. -/
structure CannotInject (ov : Int → Int) (w : World) (id : Bytes) (is : List PlayStep) : Prop where
  own : ∀ e ∈ (playing ov).trace (w.disable id) is, FromViewer id e.pre e.input →
    writes e.out = []
  others : (playing ov).Valid w is ∧ ∀ js i, js ++ [i] <+: is →
    ¬ FromViewer id ((playing ov).final (w.disable id) js) i →
      (playing ov).out ((playing ov).final (w.disable id) js) i =
        (playing ov).out ((playing ov).final w js) i

section
variable {ov : Int → Int} {w : World} {id : Bytes} {is : List PlayStep}

/-- The runs from before and from after the disabling go through the same states, but for the
modes. -/
theorem agree_final (ov : Int → Int) (w : World) (id : Bytes) (js : List PlayStep) :
    ((playing ov).final (w.disable id) js).erase = ((playing ov).final w js).erase :=
  Machine.final_erase (next_erase ov) (disable_erase w id) js

/-- A message is written nowhere just when it idles. -/
theorem writes_message_iff (ov : Int → Int) (s : State) (pc : PcId) (msg : Webrtc.ChanMsg) :
    writes (Net.run ov s (.message pc msg)).2 = [] ↔ Idles s (.sdk (.net (.message pc msg))) := by
  rw [List.eq_nil_iff_forall_not_mem]
  constructor
  · rintro h bin pkt rfl hcb hpkt k hk
    by_contra hneg
    refine h (s.inp.gpFds k) ((Net.mem_writes ov).mpr ⟨pkt, ?_, k, hk, Int.not_lt.mp hneg, rfl⟩)
    rw [Webrtc.onMessage, if_pos hcb, hpkt]
  · intro h fd hm
    obtain ⟨pkt, hon, k, hk, h0, rfl⟩ := (Net.mem_writes ov).mp hm
    cases msg with
    | string str => cases hon
    | binary bin =>
        rw [Webrtc.onMessage] at hon
        split at hon
        · rename_i hcb
          exact absurd (h bin pkt rfl hcb hon k hk) (Int.not_lt.mpr h0)
        · cases hon

/-- So is an event of the keyboard and mouse. -/
theorem writes_submitKbm_iff (ov : Int → Int) (s : State) (vid ev key : Option Bytes)
    (dx dy : Int) :
    writes (Call.run ov s (.submitKbm vid ev key dx dy)).2 = [] ↔
      Idles s (.sdk (.call (.submitKbm vid ev key dx dy))) := by
  rcases vid with _ | vid
  · exact iff_of_true rfl trivial
  · rcases ev with _ | ev
    · exact iff_of_true rfl trivial
    · rw [List.eq_nil_iff_forall_not_mem]
      constructor
      · intro h hk
        by_contra hneg
        exact h s.inp.kbmFd ((Call.mem_writes ov).mpr ⟨hk, Int.not_lt.mp hneg, rfl⟩)
      · intro h fd hm
        obtain ⟨hk, h0, -⟩ := (Call.mem_writes ov).mp hm
        exact absurd (h hk) (Int.not_lt.mpr h0)

/-- An input of a viewer is written nowhere just when it idles. -/
theorem writes_eq_nil_iff {i : PlayStep} (h : FromViewer id w i) :
    writes ((playing ov).out w i) = [] ↔ Idles w.sdk i := by
  cases i with
  | table t => exact h.elim
  | sdk i =>
      cases i with
      | call c =>
          cases c with
          | submitKbm vid ev key dx dy => exact writes_submitKbm_iff ov w.sdk vid ev key dx dy
          | _ => exact h.elim
      | net n =>
          cases n with
          | message pc msg => exact writes_message_iff ov w.sdk pc msg
          | _ => exact h.elim

/-- **A disabled viewer injects what it would inject anyway.**  This holds of any modes that are set
later, too. -/
theorem cannotInject_iff (hv : (playing ov).Valid (w.disable id) is) :
    CannotInject ov w id is ↔ ∀ e ∈ (playing ov).trace (w.disable id) is,
      FromViewer id e.pre e.input → Idles e.pre.sdk e.input := by
  have hout : ∀ e ∈ (playing ov).trace (w.disable id) is,
      e.out = (playing ov).out e.pre e.input := fun e he =>
    (Machine.invariant_trace (I := fun _ => True) trivial (fun _ _ _ _ => trivial) hv he).2.2
  constructor
  · intro h e he hf
    exact (writes_eq_nil_iff hf).mp (hout e he ▸ h.own e he hf)
  · intro h
    refine ⟨fun e he hf => ?_, ?_, fun js i _ _ => ?_⟩
    · rw [hout e he]
      exact (writes_eq_nil_iff hf).mpr (h e he hf)
    · exact Machine.valid_erase (next_erase ov) (enabled_erase ov) (disable_erase w id) hv
    · rw [← out_erase, agree_final ov w id js, out_erase]

end

/-- The world in which one viewer has connected, with an active entry for it. -/
def World.registered : World :=
  { oneViewer with sdk := { oneViewer.sdk with g := { oneViewer.sdk.g with
      viewers := Function.update oneViewer.sdk.g.viewers 0
        { ViewerInfo.zero with id := viewerId 0, active := true } } } }

/-- It is disabled; then it sends a packet for a slot without a device and an unknown key. -/
theorem cannotInject_iff_idle :
    let w := World.registered
    let run : List PlayStep := [.sdk (.net (.message 0 (.binary (List.replicate 16 0)))),
      .sdk (.call (.submitKbm (some (viewerId 0)) (some (bytes "keydown")) (some (bytes "F13"))
        0 0))]
    (nearcadeSetViewerInputMode w.sdk.g (some (viewerId 0)) .disabled).1 = .ok ∧
      CannotInject id w (viewerId 0) run := by
  intro w run
  have hv : (playing id).Valid (w.disable (viewerId 0)) run := by decide +kernel
  have hidle : ∀ e ∈ (playing id).trace (w.disable (viewerId 0)) run,
      FromViewer (viewerId 0) e.pre e.input → Idles e.pre.sdk e.input := by
    intro e he _
    rcases List.mem_cons.mp he with rfl | he
    · rintro bin pkt hbin - hpkt k -
      exact (by decide +kernel : ∀ k, w.sdk.inp.gpFds k < 0) k
    · obtain rfl := List.mem_singleton.mp he
      exact fun hm => absurd hm (by decide +kernel)
  exact ⟨by decide +kernel, (cannotInject_iff hv).mpr hidle⟩

/-- It is disabled; then it moves the mouse. -/
theorem not_cannotInject_mouse :
    let w := World.registered
    let run : List PlayStep :=
      [.sdk (.call (.submitKbm (some (viewerId 0)) (some (bytes "mousemove")) none 5 0))]
    (nearcadeSetViewerInputMode w.sdk.g (some (viewerId 0)) .disabled).1 = .ok ∧
      (playing id).Valid (w.disable (viewerId 0)) run ∧ ¬ CannotInject id w (viewerId 0) run := by
  intro w run
  refine ⟨by decide +kernel, by decide +kernel, fun h => ?_⟩
  have hw := h.own _ (List.mem_singleton_self _) rfl
  exact absurd hw (by decide +kernel)

end Nearcade
