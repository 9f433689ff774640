import Nearcade.System.Effects
import Nearcade.System.Invariants
import Mathlib.Data.Finset.Card

/-!
# Lifecycle — Flags

`running`, `streaming` and `capturing`, and the FFmpeg child, under the six lifecycle calls in any
order, where `nearcade_init` is called only while the SDK is not running.

`host` runs them next to the children of the process: `fork` adds one, and a `waitpid` that returns
its pid takes it away (`reap`).  `kill` and `waitpid` work, so a child that was sent SIGKILL is
there to be waited for.

`gated_iff`: the flags are gated by `running` and the child by `capturing`, all the way, just when
streaming and captures are started only while the SDK runs.
-/

namespace Nearcade
open Text Runs

/-! ### Children -/

/-- What effects do to the children, where the `WNOHANG` looks return the results of a list: the pid
of a child that is reaped, 0 for one that still runs. -/
def reap : List Int → Finset Int → List Effect → Finset Int
  | res, ch, .fork pid :: fx => reap res (insert pid ch) fx
  | r :: res, ch, .waitpid pid true :: fx => reap res (if r = pid then ch.erase pid else ch) fx
  | res, ch, .waitpid pid false :: fx => reap res (ch.erase pid) fx
  | res, ch, _ :: fx => reap res ch fx
  | _, ch, [] => ch

/-- What does not reach the child. -/
theorem reap_foreign {ks : List Kind} (hk : .child ∉ ks) :
    ∀ {fx : List Effect}, Within ks fx → ∀ (res : List Int) (ch : Finset Int), reap res ch fx = ch
  | [], _, res, ch => by cases res <;> rfl
  | e :: fx, h, res, ch => by
      have hrest := reap_foreign hk (fun e' he' => h e' (List.mem_cons_of_mem _ he'))
      have he : e.kind ∈ ks := h e (List.mem_cons_self ..)
      cases e with
      | fork _ | kill _ _ | waitpid _ _ => exact absurd he hk
      | _ => cases res <;> exact hrest _ ch

/-- `kill` and `waitpid` work on a child: a look reaps it or finds it running. -/
def Capture.Waits.Work (w : Capture.Waits) (pid : Int) : Prop :=
  (w.first = 0 ∨ w.first = pid) ∧ (w.second = 0 ∨ w.second = pid)

instance (w : Capture.Waits) (pid : Int) : Decidable (w.Work pid) :=
  inferInstanceAs (Decidable (_ ∧ _))

/-- `capture_stop` reaps the child, at one of the two looks or after SIGKILL. -/
theorem reap_reapChild {w : Capture.Waits} {pid : Int} (hw : w.Work pid) (h0 : 0 < pid)
    {ks : List Kind} {fx : List Effect} (hfx : Within ks fx) (hk : .child ∉ ks) (ch : Finset Int) :
    reap [w.first, w.second] ch (Capture.reapChild w pid ++ fx) = ch.erase pid := by
  have hne : (0 : Int) ≠ pid := Int.ne_of_lt h0
  rw [Capture.reapChild]
  rcases hw.1 with h₁ | h₁
  · rcases hw.2 with h₂ | h₂
    · simp [h₁, h₂, reap, hne, reap_foreign hk hfx]
    · simp [h₁, h₂, reap, hne, hne.symm, reap_foreign hk hfx]
  · simp [h₁, reap, hne.symm, reap_foreign hk hfx]

/-! ### The host -/

/-- The SDK, and the FFmpeg processes forked and not reaped. -/
structure Host where
  sdk : State
  children : Finset Int

def Host.boot : Host := ⟨.boot, ∅⟩

/-- The lifecycle calls. -/
def Call.Lifecycle : Call → Prop
  | .init .. | .shutdown _ | .startStreaming | .stopStreaming | .startCapture _
  | .stopCapture _ => True
  | _ => False

/-- What the looks of a call return. -/
def Call.looks : Call → List Int
  | .init _ _ w | .shutdown w | .stopCapture w => [w.first, w.second]
  | _ => []

/-- `nearcade_init` only while not running; a fork that succeeds returns a new pid. -/
def Call.Offered (h : Host) : Call → Prop
  | .init .. => h.sdk.g.running = false
  | .startCapture pid => pid < 0 ∨ 0 < pid ∧ pid ∉ h.children
  | .shutdown w | .stopCapture w => w.Work h.sdk.cap.pid
  | _ => True

/-- **The lifecycle calls, with the children.** -/
def host (ov : Int → Int) : Machine Host Call Effect where
  enabled h c := c.Lifecycle ∧ c.Enabled h.sdk ∧ c.Offered h
  next h c := ⟨(c.run ov h.sdk).1, reap c.looks h.children (c.run ov h.sdk).2⟩
  out h c := (c.run ov h.sdk).2

instance (c : Call) : Decidable c.Lifecycle := by
  cases c <;> first | exact isTrue trivial | exact isFalse id

instance (h : Host) : ∀ c : Call, Decidable (c.Offered h)
  | .init .. => inferInstanceAs (Decidable (h.sdk.g.running = false))
  | .startCapture pid => inferInstanceAs (Decidable (pid < 0 ∨ 0 < pid ∧ pid ∉ h.children))
  | .shutdown w | .stopCapture w => inferInstanceAs (Decidable (w.Work h.sdk.cap.pid))
  | .startStreaming | .stopStreaming | .pollEvents _ | .sendH264 .. | .sendFrame ..
  | .submitGamepad _ | .submitKbm .. | .flushSlot _ | .disconnectViewer _
  | .setViewerInputMode .. | .setControllerType .. | .setEventCallback .. | .getSignalingUrl _
  | .getLanIp _ | .getPin _ | .regeneratePin _ | .sendOffer .. | .sendAnswer ..
  | .sendIceCandidate .. => isTrue trivial

instance (ov : Int → Int) (h : Host) (c : Call) : Decidable ((host ov).enabled h c) :=
  inferInstanceAs (Decidable (_ ∧ _ ∧ _))

/-! ### The law -/

/-- Streaming and capturing only while running; a child just while capturing, and one at most; and
`nearcade_shutdown` would leave neither flag nor child, so that calling it again changes nothing. -/
structure Gated (ov : Int → Int) (h : Host) : Prop where
  flags : h.sdk.g.streaming = true ∨ h.sdk.g.capturing = true → h.sdk.g.running = true
  child : h.children.Nonempty ↔ h.sdk.g.capturing = true
  one : h.children.card ≤ 1
  off : ∀ w : Capture.Waits, w.Work h.sdk.cap.pid →
    let h' := (host ov).next h (.shutdown w)
    h'.sdk.g.streaming = false ∧ h'.sdk.g.capturing = false ∧ h'.children = ∅ ∧
      ∀ w', (host ov).next h' (.shutdown w') = h' ∧ (host ov).out h' (.shutdown w') = []

/-- A step that starts nothing while the SDK is not running. -/
def StartsRunning (h : Host) : Call → Prop
  | .startStreaming => h.sdk.g.running = true
  | .startCapture pid => 0 < pid → h.sdk.g.running = true
  | _ => True

instance (h : Host) : ∀ c : Call, Decidable (StartsRunning h c)
  | .startStreaming => inferInstanceAs (Decidable (h.sdk.g.running = true))
  | .startCapture pid => inferInstanceAs (Decidable (0 < pid → h.sdk.g.running = true))
  | .init .. | .shutdown _ | .stopStreaming | .pollEvents _ | .sendH264 .. | .sendFrame ..
  | .stopCapture _ | .submitGamepad _ | .submitKbm .. | .flushSlot _ | .disconnectViewer _
  | .setViewerInputMode .. | .setControllerType .. | .setEventCallback .. | .getSignalingUrl _
  | .getLanIp _ | .getPin _ | .regeneratePin _ | .sendOffer .. | .sendAnswer ..
  | .sendIceCandidate .. => isTrue trivial

/-- The capture module and its flag agree, on a child of this process or on none. -/
def CaptureAgrees (h : Host) : Prop :=
  (h.sdk.g.capturing = true ∧ h.sdk.cap.active = true ∧ 0 < h.sdk.cap.pid ∧
      h.children = {h.sdk.cap.pid}) ∨
    (h.sdk.g.capturing = false ∧ h.sdk.cap.active = false ∧ h.children = ∅)

/-- The invariant of the runs that meet the condition. -/
structure Orderly (h : Host) : Prop where
  flags : h.sdk.g.streaming = true ∨ h.sdk.g.capturing = true → h.sdk.g.running = true
  capture : CaptureAgrees h

theorem orderly_boot : Orderly .boot := ⟨fun h => h.elim nofun nofun, .inr ⟨rfl, rfl, rfl⟩⟩

section
variable {ov : Int → Int} {h : Host}

theorem Orderly.idle (ho : Orderly h) (hr : h.sdk.g.running = false) :
    h.sdk.g.capturing = false ∧ h.sdk.cap.active = false ∧ h.children = ∅ := by
  rcases ho.capture with ⟨hc, -⟩ | hc
  · exact absurd (hr.symm.trans (ho.flags (.inr hc))) Bool.false_ne_true
  · exact hc

/-- `capture_stop`, and what the rest of a shutdown does to the children. -/
theorem CaptureAgrees.stop (hc : CaptureAgrees h) {w : Capture.Waits}
    (hw : w.Work h.sdk.cap.pid) {ks : List Kind} {fx : List Effect} (hfx : Within ks fx)
    (hk : .child ∉ ks) :
    (Capture.captureStop w h.sdk.cap).1.active = false ∧
      reap [w.first, w.second] h.children ((Capture.captureStop w h.sdk.cap).2 ++ fx) = ∅ := by
  rcases hc with ⟨-, ha, hp, hch⟩ | ⟨-, ha, hch⟩
  · rw [Capture.captureStop, if_pos ⟨ha, hp⟩]
    refine ⟨rfl, (reap_reapChild hw hp hfx hk _).trans ?_⟩
    rw [hch, Finset.erase_singleton]
  · rw [Capture.captureStop, if_neg fun hn => Bool.false_ne_true (ha.symm.trans hn.1)]
    exact ⟨ha, (reap_foreign hk hfx _ _).trans hch⟩

/-- What `nearcade_init` leaves of the flags and the child, where there was none. -/
theorem nearcadeInit_quiet (config : Option NearcadeConfig) (e : InitEnv) (w : Capture.Waits)
    {s : State} (ha : s.cap.active = false) :
    (nearcadeInit config e w s).2.1.g.streaming = false ∧
      (nearcadeInit config e w s).2.1.g.capturing = false ∧
      (nearcadeInit config e w s).2.1.cap.active = false := by
  rcases nearcadeInit_cases config e w s with
    ⟨-, h⟩ | ⟨-, -, h⟩ | ⟨-, -, -, h⟩ | ⟨-, -, -, h⟩ <;> rw [h]
  · exact ⟨rfl, rfl, ha⟩
  · exact ⟨rfl, rfl, ha⟩
  · exact ⟨rfl, rfl, rfl⟩
  · exact ⟨rfl, rfl, rfl⟩

/-- `nearcade_shutdown` where the SDK is not running. -/
theorem shutdown_idle (hr : h.sdk.g.running = false) (w : Capture.Waits) :
    (host ov).next h (.shutdown w) = h ∧ (host ov).out h (.shutdown w) = [] := by
  have hs : nearcadeShutdown w h.sdk = (h.sdk, []) := if_pos hr
  constructor
  · show (⟨(nearcadeShutdown w h.sdk).1, reap _ h.children (nearcadeShutdown w h.sdk).2⟩ : Host) = h
    rw [hs]
    rfl
  · show (nearcadeShutdown w h.sdk).2 = []
    rw [hs]

/-- `nearcade_shutdown` leaves neither flag nor child. -/
theorem Orderly.shutdown (ov : Int → Int) (ho : Orderly h) {w : Capture.Waits}
    (hw : w.Work h.sdk.cap.pid) :
    let h' := (host ov).next h (.shutdown w)
    h'.sdk.g.running = false ∧ h'.sdk.g.streaming = false ∧ h'.sdk.g.capturing = false ∧
      h'.sdk.cap.active = false ∧ h'.children = ∅ := by
  intro h'
  by_cases hr : h.sdk.g.running = false
  · have hh : h' = h := (shutdown_idle hr w).1
    rw [hh]
    obtain ⟨hc, ha, hch⟩ := ho.idle hr
    have hs : h.sdk.g.streaming = false := by
      by_contra hs
      exact Bool.false_ne_true (hr.symm.trans (ho.flags (.inl (Bool.eq_true_of_not_eq_false hs))))
    exact ⟨hr, hs, hc, ha, hch⟩
  · have hrest : Within [.device, .context] ((Input.inputShutdown h.sdk.inp).2 ++
        (Signaling.signalingShutdown h.sdk.sig).2) :=
      (Input.within_shutdown.mono (by simp)).append (Signaling.within_shutdown.mono (by simp))
    obtain ⟨ha, hch⟩ := ho.capture.stop hw hrest (by simp)
    have hs : nearcadeShutdown w h.sdk =
        ({ g := { h.sdk.g with running := false, capturing := false, streaming := false }
           rtc := Webrtc.webrtcShutdown h.sdk.rtc
           cap := (Capture.captureShutdown w h.sdk.cap).1
           inp := (Input.inputShutdown h.sdk.inp).1
           sig := (Signaling.signalingShutdown h.sdk.sig).1 },
          (Capture.captureShutdown w h.sdk.cap).2 ++ (Input.inputShutdown h.sdk.inp).2 ++
            (Signaling.signalingShutdown h.sdk.sig).2) := if_neg hr
    have hh : h' = ⟨(nearcadeShutdown w h.sdk).1,
        reap [w.first, w.second] h.children (nearcadeShutdown w h.sdk).2⟩ := rfl
    rw [hh, hs]
    refine ⟨rfl, rfl, rfl, ha, ?_⟩
    rw [List.append_assoc]
    exact hch

theorem Orderly.gated (ho : Orderly h) : Gated ov h where
  flags := ho.flags
  child := by
    rcases ho.capture with ⟨hc, -, -, hch⟩ | ⟨hc, -, hch⟩ <;> simp [hc, hch]
  one := by
    rcases ho.capture with ⟨-, -, -, hch⟩ | ⟨-, -, hch⟩ <;> simp [hch]
  off w hw := by
    obtain ⟨hr, hs, hc, -, hch⟩ := ho.shutdown ov hw
    exact ⟨hs, hc, hch, shutdown_idle hr⟩

/-- `nearcade_start_capture` where a child runs, or `fork` fails. -/
theorem CaptureAgrees.start_nothing (hc : CaptureAgrees h) {pid : Int}
    (hp : h.sdk.g.capturing = true ∨ pid < 0) :
    (nearcadeStartCapture pid h.sdk).2 = (h.sdk, []) := by
  rw [nearcadeStartCapture]
  split
  · rfl
  · rename_i hn
    have ha : ¬ h.sdk.cap.active = true := by
      rcases hc with ⟨hc, -⟩ | ⟨-, ha, -⟩
      · exact absurd hc hn
      · rw [ha]
        exact Bool.false_ne_true
    simp only [Capture.captureStart, if_neg ha, if_pos (hp.resolve_left hn)]
    rfl

/-- `nearcade_start_capture` where none runs. -/
theorem CaptureAgrees.start_child (hc : CaptureAgrees h) (hn : h.sdk.g.capturing = false)
    {pid : Int} (hp : 0 < pid) :
    h.children = ∅ ∧ (nearcadeStartCapture pid h.sdk).2 =
      ({ h.sdk with cap := ⟨pid, true⟩, g := { h.sdk.g with capturing := true } },
        [.fork pid]) := by
  rcases hc with ⟨hc, -⟩ | ⟨-, ha, hch⟩
  · exact absurd (hn.symm.trans hc) Bool.false_ne_true
  · refine ⟨hch, ?_⟩
    simp [nearcadeStartCapture, Capture.captureStart, hn, ha, Int.not_lt.mpr (Int.le_of_lt hp)]

/-- **A step that meets the condition.** -/
theorem Orderly.next (ho : Orderly h) {c : Call} (he : (host ov).enabled h c)
    (hc : StartsRunning h c) : Orderly ((host ov).next h c) := by
  obtain ⟨hl, -, hoff⟩ := he
  cases c with
  | init config e w =>
      obtain ⟨-, ha, hch⟩ := ho.idle hoff
      obtain ⟨hs, hc, ha'⟩ := nearcadeInit_quiet config e w ha
      refine ⟨fun hf => ?_, .inr ⟨hc, ha', ?_⟩⟩
      · exact absurd hf (by simp [host, Call.run, hs, hc])
      · exact (reap_foreign (by simp) within_nearcadeInit _ _).trans hch
  | shutdown w =>
      obtain ⟨-, hs, hc, ha, hch⟩ := ho.shutdown ov hoff
      exact ⟨fun hf => absurd hf (by rw [hs, hc]; simp), .inr ⟨hc, ha, hch⟩⟩
  | startStreaming => exact ⟨fun _ => hc, ho.capture⟩
  | stopStreaming =>
      exact ⟨fun hf => ho.flags (hf.elim (absurd · Bool.false_ne_true) .inr), ho.capture⟩
  | startCapture pid =>
      show Orderly ⟨(nearcadeStartCapture pid h.sdk).2.1,
        reap [] h.children (nearcadeStartCapture pid h.sdk).2.2⟩
      by_cases hp : h.sdk.g.capturing = true ∨ pid < 0
      · rw [ho.capture.start_nothing hp]
        exact ho
      · obtain ⟨hn, hp⟩ := not_or.mp hp
        have h0 : 0 < pid := hoff.elim (fun h => absurd h hp) And.left
        obtain ⟨hch, e⟩ := ho.capture.start_child (Bool.eq_false_of_not_eq_true hn) h0
        rw [e, hch]
        exact ⟨fun _ => hc h0, .inl ⟨rfl, rfl, h0, rfl⟩⟩
  | stopCapture w =>
      show Orderly ⟨(nearcadeStopCapture w h.sdk).2.1,
        reap _ h.children (nearcadeStopCapture w h.sdk).2.2⟩
      by_cases hn : h.sdk.g.capturing = false
      · rw [nearcadeStopCapture, if_pos hn]
        exact ho
      · obtain ⟨ha, hch⟩ := ho.capture.stop hoff (Within.nil : Within [] []) (by simp)
        rw [List.append_nil] at hch
        rw [nearcadeStopCapture, if_neg hn]
        exact ⟨fun hf => ho.flags (hf.elim .inl (absurd · Bool.false_ne_true)), .inr ⟨rfl, ha, hch⟩⟩
  | pollEvents _ | sendH264 _ _ | sendFrame _ _ _ _ | submitGamepad _ | submitKbm _ _ _ _ _
  | flushSlot _ | disconnectViewer _ | setViewerInputMode _ _ | setControllerType _ _
  | setEventCallback _ _ | getSignalingUrl _ | getLanIp _ | getPin _ | regeneratePin _
  | sendOffer _ _ | sendAnswer _ _ _ | sendIceCandidate _ _ _ => exact hl.elim

/-- A step that does not meet it sets a flag while the SDK is not running. -/
theorem Orderly.not_gated (ho : Orderly h) {c : Call} (he : (host ov).enabled h c)
    (hc : ¬ StartsRunning h c) : ¬ Gated ov ((host ov).next h c) := by
  intro hg
  cases c with
  | startStreaming => exact hc (hg.flags (.inl rfl))
  | startCapture pid =>
      obtain ⟨h0, hr⟩ := not_forall.mp hc
      have hn : h.sdk.g.capturing = false := (ho.idle (Bool.eq_false_of_not_eq_true hr)).1
      obtain ⟨-, e⟩ := ho.capture.start_child hn h0
      have hf := hg.flags
      simp only [host, Call.run, e] at hf
      exact hr (hf (.inr trivial))
  | _ => exact hc trivial

/-- **The flags are gated just when nothing is started while the SDK is not running.** -/
theorem gated_iff {cs : List Call} (hv : (host ov).Valid .boot cs) :
    (∀ cs', cs' <+: cs → Gated ov ((host ov).final .boot cs')) ↔
      ∀ e ∈ (host ov).trace .boot cs, StartsRunning e.pre e.input :=
  Machine.always_iff orderly_boot (fun _ ho => ho.gated) (fun _ _ ho he hc => ho.next he hc)
    (fun _ _ ho he hc => ho.not_gated he hc) hv

end

/-- A capture that is stopped by `nearcade_shutdown`, its child ignoring SIGTERM. -/
def captured : List Call :=
  [.init none .good ⟨0, 0⟩, .startStreaming, .startCapture 42, .shutdown ⟨0, 0⟩, .shutdown ⟨0, 0⟩]

theorem gated_iff_captured :
    (host id).Valid .boot captured ∧
      ∀ cs', cs' <+: captured → Gated id ((host id).final .boot cs') := by
  have hv : (host id).Valid .boot captured := by decide +kernel
  exact ⟨hv, (gated_iff hv).mpr (by decide +kernel)⟩

/-- A capture started before `nearcade_init` outlives `nearcade_shutdown`. -/
theorem capture_before_init :
    (host id).Valid .boot [.startCapture 42, .shutdown ⟨0, 0⟩] ∧
      ((host id).final .boot [.startCapture 42, .shutdown ⟨0, 0⟩]).children = {42} ∧
      ¬ Gated id ((host id).final .boot [.startCapture 42, .shutdown ⟨0, 0⟩]) := by
  refine ⟨by decide +kernel, by decide +kernel, fun h => ?_⟩
  exact absurd (h.flags (by decide +kernel)) (by decide +kernel)

end Nearcade
