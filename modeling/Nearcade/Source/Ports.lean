import Nearcade.Source.Builds
import Nearcade.System.Machine

/-!
# Source — Ports

The SDK on macOS and on Windows, with signaling and WebRTC.  There `src/input_mac.c` and
`src/input_win.c` stand for the input backend: each of their functions logs that it was called and
returns `NEARCADE_OK`.  `capture_start` is not implemented on either.

`Port.system` is the SDK of a port in its world, as `system` is that of Linux.  An input of it says
as well what `WSAStartup` answers, which `nearcade_init` calls on Windows.
-/

namespace Nearcade
open Text Runs

/-- The ports without an input backend. -/
inductive Port where
  | apple | windows
  deriving DecidableEq

/-- An input of the SDK of a port; `wsa` says whether `WSAStartup` succeeds in it. -/
structure PortInput where
  input : Input
  wsa : Bool

namespace Port

/-! ### The stubs -/

/-- `input_submit_gamepad`. -/
def inputSubmitGamepad (_pkt : Option NearcadeGamepadPacket) : NearcadeError := .ok

/-- `input_submit_kbm`. -/
def inputSubmitKbm (_viewerId _eventType : Bytes) (_key : Option Bytes) (_dx _dy : Int) :
    NearcadeError := .ok

/-- `input_flush_slot`. -/
def inputFlushSlot (_slot : UInt8) : NearcadeError := .ok

/-- `capture_init`. -/
def captureInit (p : Port) (st : Capture.State) : NearcadeError × Capture.State :=
  match p with
  | .apple => Capture.captureInit
  | .windows => (.ok, st)

/-- `capture_start`. -/
def captureStart : NearcadeError := .errCapture

/-- `capture_stop`. -/
def captureStop (p : Port) (w : Capture.Waits) (st : Capture.State) :
    Capture.State × List Effect :=
  match p with
  | .apple => Capture.captureStop w st
  | .windows => (st, [])

/-- `capture_shutdown`. -/
def captureShutdown (p : Port) (w : Capture.Waits) (st : Capture.State) :
    Capture.State × List Effect :=
  match p with
  | .apple => p.captureStop w st
  | .windows => (st, [])

/-- `nearcade_mutex_init`: whether it succeeds. -/
def mutexInit (p : Port) (ok : Bool) : Bool :=
  match p with
  | .apple => ok
  | .windows => true

/-! ### Lifecycle -/

/-- `nearcade_init` after the two mutexes.  `input_init`, `capture_init` and `webrtc_init` cannot
fail. -/
def initModules (p : Port) (e : InitEnv) (w : Capture.Waits) (s : State) :
    NearcadeError × State × List Effect :=
  let s₁ := { s with
    cap := (p.captureInit s.cap).2
    rtc := Webrtc.setCallbacks (Webrtc.webrtcInit s.rtc).2
    sig := Signaling.setInternalCallbacks s.sig }
  let (rc, sig, fx₁) := Signaling.signalingInit s.g.config.port e.ctx e.thread s₁.sig
  if rc ≠ .ok then
    let (cap, fx₂) := p.captureShutdown w s₁.cap
    (.errInit, { s₁ with sig := sig, rtc := Webrtc.webrtcShutdown s₁.rtc, cap := cap }, fx₁ ++ fx₂)
  else (.ok, { s₁ with sig := sig, g := { s₁.g with running := true } }, fx₁)

/-- `nearcade_init`. -/
def nearcadeInit (p : Port) (config : Option NearcadeConfig) (e : BuildEnv) (w : Capture.Waits)
    (s : State) : NearcadeError × State × List Effect :=
  if p = .windows ∧ e.wsa = false then (.errNetwork, s, [])
  else
    let g := { NearcadeState.zero with config := normaliseConfig config }
    if p.mutexInit e.viewerLock = false ∨ p.mutexInit e.slotsLock = false then
      (.errInit, { s with g := g }, [])
    else
      p.initModules e.toInitEnv w
        { s with g := { g with lanIp := e.lanIp, pin := generatePin e.rand } }

/-- `nearcade_start_capture`. -/
def nearcadeStartCapture (s : State) : NearcadeError × State :=
  if s.g.capturing then (.ok, s)
  else if captureStart = .ok then (captureStart, { s with g := { s.g with capturing := true } })
  else (captureStart, s)

/-- `nearcade_stop_capture`. -/
def nearcadeStopCapture (p : Port) (w : Capture.Waits) (s : State) :
    NearcadeError × State × List Effect :=
  if s.g.capturing = false then (.ok, s, [])
  else
    let (cap, fx) := p.captureStop w s.cap
    (.ok, { s with cap := cap, g := { s.g with capturing := false } }, fx)

/-- `nearcade_shutdown`. -/
def nearcadeShutdown (p : Port) (w : Capture.Waits) (s : State) : State × List Effect :=
  if s.g.running = false then (s, [])
  else
    let (cap, fx₁) := p.captureShutdown w s.cap
    let (sig, fx₂) := Signaling.signalingShutdown s.sig
    ({ s with
        g := { s.g with running := false, capturing := false, streaming := false }
        rtc := Webrtc.webrtcShutdown s.rtc
        cap := cap
        sig := sig }, fx₁ ++ fx₂)

/-! ### Input and viewers -/

/-- `webrtc_received_input`. -/
def webrtcReceivedInput (s : State) (pkt : NearcadeGamepadPacket) : List Effect :=
  fireEvent s.g (.inputPacket pkt [])

/-- `nearcade_submit_gamepad`. -/
def nearcadeSubmitGamepad (pkt : Option NearcadeGamepadPacket) : NearcadeError :=
  match pkt with
  | none => .errInvalidArg
  | some pkt => inputSubmitGamepad (some pkt)

/-- `nearcade_submit_kbm`. -/
def nearcadeSubmitKbm (viewerId eventType key : Option Bytes) (dx dy : Int) : NearcadeError :=
  match viewerId, eventType with
  | some vid, some ev => inputSubmitKbm vid ev key dx dy
  | _, _ => .errInvalidArg

/-- `nearcade_flush_slot`. -/
def nearcadeFlushSlot (slot : UInt8) : NearcadeError := inputFlushSlot slot

/-- `nearcade_disconnect_viewer`; its `input_free_slot` does nothing. -/
def nearcadeDisconnectViewer (g : NearcadeState) (id : Option Bytes) :
    NearcadeError × NearcadeState :=
  match id with
  | none => (.errInvalidArg, g)
  | some id =>
      match findViewer g id with
      | none => (.ok, g)
      | some i =>
          (.ok, { g with
            slots := slotRelease g.slots (g.viewers i).slot
            viewers := Function.update g.viewers i { g.viewers i with active := false }
            numViewers := g.numViewers - 1 })

/-! ### The SDK of a port -/

/-- A call of the public API. -/
def run (p : Port) (ov : Int → Int) (wsa : Bool) (s : State) (c : Call) : State × List Effect :=
  match c with
  | .init config env waits => (p.nearcadeInit config ⟨env, wsa⟩ waits s).2
  | .shutdown waits => p.nearcadeShutdown waits s
  | .startCapture _ => ((nearcadeStartCapture s).2, [])
  | .stopCapture waits => (p.nearcadeStopCapture waits s).2
  | .submitGamepad _ | .submitKbm .. | .flushSlot _ => (s, [])
  | .disconnectViewer id => ({ s with g := (nearcadeDisconnectViewer s.g id).2 }, [])
  | c => c.run ov s

/-- A callback, in the SDK. -/
def react (ov : Int → Int) (s : State) (n : Net) : State × List Effect :=
  match n with
  | .message _ msg =>
      (s,
        match Webrtc.onMessage s.rtc msg with
        | some pkt => webrtcReceivedInput s pkt
        | none => [])
  | n => n.run ov s

/-- **The SDK of a port in its world.** -/
def system (p : Port) (ov : Int → Int) : Machine World PortInput Effect where
  enabled w
    | ⟨.call _, _⟩ => True
    | ⟨.net n, _⟩ => n.Enabled w
  next w
    | ⟨.call c, wsa⟩ => { w with sdk := (p.run ov wsa w.sdk c).1 }
    | ⟨.net n, _⟩ => ⟨(react ov w.sdk n).1, n.live w.live⟩
  out w
    | ⟨.call c, wsa⟩ => (p.run ov wsa w.sdk c).2
    | ⟨.net n, _⟩ => (react ov w.sdk n).2

/-! ### The `_WIN32` build of `Source/Builds.lean` -/

theorem windows_initModules (e : InitEnv) (w : Capture.Waits) (s : State) {done : List Act}
    (hd : effectsOf done = []) :
    let r := Build.initModules ⟨true, true⟩ e w s done
    Port.windows.initModules e w s = (r.1, r.2.1, effectsOf r.2.2) := by
  intro r
  have hl : effectsOf Build.destroyLocks = [] := rfl
  have hu : effectsOf [.webrtcInit] = [] := rfl
  have hw : effectsOf [.webrtcShutdown] = [] := rfl
  simp only [r, Build.initModules, Build.inputInit, Build.captureInit, Build.initWebrtc,
    Build.captureShutdown, Build.inputShutdown, Port.initModules, captureInit, captureShutdown,
    Webrtc.webrtcInit, if_true, Bool.true_eq_false, if_false, ne_eq, not_true_eq_false]
  split
  · refine Prod.ext rfl (Prod.ext rfl ?_)
    simp only [effectsOf_append, effectsOf_acts, hd, hl, hu, hw, List.nil_append, List.append_nil]
  · refine Prod.ext rfl (Prod.ext rfl ?_)
    simp only [effectsOf_append, effectsOf_acts, hd, hu, List.nil_append]

/-- **The Windows port** is the build with `_WIN32` and signaling. -/
theorem windows_nearcadeInit (config : Option NearcadeConfig) (e : BuildEnv) (w : Capture.Waits)
    (s : State) :
    let r := Build.nearcadeInit ⟨true, true⟩ config e w s
    Port.windows.nearcadeInit config e w s = (r.1, r.2.1, effectsOf r.2.2) := by
  intro r
  by_cases hw : e.wsa = false
  · have hp : Port.windows.nearcadeInit config e w s = (.errNetwork, s, []) := if_pos ⟨rfl, hw⟩
    have hr : r = (.errNetwork, s, []) := if_pos hw
    rw [hp, hr]
    rfl
  · have hp : Port.windows.nearcadeInit config e w s = Port.windows.initModules e.toInitEnv w
        { s with g := initState config e.toInitEnv } := if_neg (fun h => hw h.2)
    have hr : r = Build.initLocks ⟨true, true⟩ config e.toInitEnv w s [.wsaStartup] := if_neg hw
    rw [hp, hr]
    exact windows_initModules _ w _ rfl

theorem windows_nearcadeShutdown (w : Capture.Waits) (s : State) :
    let r := Build.nearcadeShutdown ⟨true, true⟩ w s
    Port.windows.nearcadeShutdown w s = (r.1, effectsOf r.2) := by
  intro r
  have hl : effectsOf [.mutexDestroy .viewerLock, .mutexDestroy .slotsLock] = [] := rfl
  have hw : effectsOf [.webrtcShutdown] = [] := rfl
  have hc : effectsOf [.wsaCleanup] = [] := rfl
  simp only [r, Build.nearcadeShutdown, Port.nearcadeShutdown]
  split
  · rfl
  · refine Prod.ext rfl ?_
    simp only [effectsOf_append, effectsOf_acts, hl, hw, hc, Build.captureShutdown,
      Build.inputShutdown, captureShutdown, if_true, List.nil_append, List.append_nil]

end Port

end Nearcade
