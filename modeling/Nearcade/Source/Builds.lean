import Nearcade.Source.Orchestrator

/-!
# Source — Builds

`nearcade_init`, `nearcade_shutdown` and `nearcade_get_signaling_url` in every build: with and
without `_WIN32`, with and without `NEARCADE_HAS_SIGNALING`.  Under `_WIN32` the input backend and
the capture module are the stubs of `src/input_win.c` and `src/capture.c`, and the mutexes of
`src/thread_compat.h` cannot fail.

Next to the effects the results hold what `Source/Orchestrator.lean` leaves out: `WSAStartup` and
`WSACleanup`, the two mutexes, and when WebRTC is initialised and shut down.
-/

namespace Nearcade
open Text

/-- The options of a build. -/
structure Build where
  win32 : Bool
  signaling : Bool
  deriving DecidableEq

/-- The build of `Source/Orchestrator.lean`. -/
def Build.linux : Build := ⟨false, true⟩

/-- The mutexes `nearcade_init` makes. -/
inductive Lock where
  | viewerLock | slotsLock
  deriving DecidableEq

/-- What `nearcade_init` and `nearcade_shutdown` do, in order. -/
inductive Act where
  | wsaStartup
  | wsaCleanup
  | mutexInit (lock : Lock)
  | mutexDestroy (lock : Lock)
  | webrtcInit
  | webrtcShutdown
  | effect (e : Effect)
  deriving DecidableEq

/-- The effects of a module, as acts. -/
def acts (fx : List Effect) : List Act := fx.map .effect

/-- What `nearcade_init` meets: also whether `WSAStartup` succeeds. -/
structure BuildEnv extends InitEnv where
  wsa : Bool

namespace Build

/-- `nearcade_mutex_init`: whether it succeeds. -/
def mutexInit (b : Build) (ok : Bool) : Bool := b.win32 || ok

/-- `input_init`. -/
def inputInit (b : Build) (u : Input.Uinput) (st : Input.State) :
    NearcadeError × Input.State × List Effect :=
  if b.win32 then (.ok, st, []) else Input.inputInit u st

/-- `input_shutdown`. -/
def inputShutdown (b : Build) (st : Input.State) : Input.State × List Effect :=
  if b.win32 then (st, []) else Input.inputShutdown st

/-- `capture_init`. -/
def captureInit (b : Build) (st : Capture.State) : NearcadeError × Capture.State :=
  if b.win32 then (.ok, st) else Capture.captureInit

/-- `capture_shutdown`. -/
def captureShutdown (b : Build) (w : Capture.Waits) (st : Capture.State) :
    Capture.State × List Effect :=
  if b.win32 then (st, []) else Capture.captureShutdown w st

/-- The end of every exit of `nearcade_init` after both mutexes are made. -/
def destroyLocks : List Act := [.mutexDestroy .slotsLock, .mutexDestroy .viewerLock]

/-- `nearcade_init` from `webrtc_init` on, with what was done before. -/
def initWebrtc (b : Build) (e : InitEnv) (w : Capture.Waits) (s : State) (done : List Act) :
    NearcadeError × State × List Act :=
  let (rc, rtc) := Webrtc.webrtcInit s.rtc
  if rc ≠ .ok then
    let (cap, fx₁) := b.captureShutdown w s.cap
    let (inp, fx₂) := b.inputShutdown s.inp
    (.errInit, { s with cap := cap, inp := inp }, done ++ acts fx₁ ++ acts fx₂ ++ destroyLocks)
  else
    let s₁ := { s with rtc := Webrtc.setCallbacks rtc }
    let done₁ := done ++ [.webrtcInit]
    if b.signaling = false then (.ok, { s₁ with g := { s₁.g with running := true } }, done₁)
    else
      let (rc, sig, fx) := Signaling.signalingInit s.g.config.port e.ctx e.thread
        (Signaling.setInternalCallbacks s.sig)
      if rc ≠ .ok then
        let (cap, fx₁) := b.captureShutdown w s₁.cap
        let (inp, fx₂) := b.inputShutdown s₁.inp
        (.errInit,
          { s₁ with sig := sig, rtc := Webrtc.webrtcShutdown s₁.rtc, cap := cap, inp := inp },
          done₁ ++ acts fx ++ [.webrtcShutdown] ++ acts fx₁ ++ acts fx₂ ++ destroyLocks)
      else
        (.ok, { s₁ with sig := sig, g := { s₁.g with running := true } }, done₁ ++ acts fx)

/-- `nearcade_init` from `input_init` on. -/
def initModules (b : Build) (e : InitEnv) (w : Capture.Waits) (s : State) (done : List Act) :
    NearcadeError × State × List Act :=
  let (rc, inp, fx) := b.inputInit e.kbm s.inp
  if rc ≠ .ok then (.errInit, { s with inp := inp }, done ++ acts fx ++ destroyLocks)
  else
    let (rc, cap) := b.captureInit s.cap
    if rc ≠ .ok then
      let (inp, fx₁) := b.inputShutdown inp
      (.errInit, { s with inp := inp, cap := cap }, done ++ acts fx ++ acts fx₁ ++ destroyLocks)
    else b.initWebrtc e w { s with inp := inp, cap := cap } (done ++ acts fx)

/-- `nearcade_init` after `WSAStartup`. -/
def initLocks (b : Build) (config : Option NearcadeConfig) (e : InitEnv) (w : Capture.Waits)
    (s : State) (done : List Act) : NearcadeError × State × List Act :=
  let g := { NearcadeState.zero with config := normaliseConfig config }
  if b.mutexInit e.viewerLock = false then (.errInit, { s with g := g }, done)
  else if b.mutexInit e.slotsLock = false then
    (.errInit, { s with g := g },
      done ++ [.mutexInit .viewerLock, .mutexDestroy .viewerLock])
  else
    b.initModules e w { s with g := { g with lanIp := e.lanIp, pin := generatePin e.rand } }
      (done ++ [.mutexInit .viewerLock, .mutexInit .slotsLock])

/-- `nearcade_init`. -/
def nearcadeInit (b : Build) (config : Option NearcadeConfig) (e : BuildEnv) (w : Capture.Waits)
    (s : State) : NearcadeError × State × List Act :=
  if b.win32 then
    if e.wsa = false then (.errNetwork, s, [])
    else b.initLocks config e.toInitEnv w s [.wsaStartup]
  else b.initLocks config e.toInitEnv w s []

/-- `nearcade_shutdown`. -/
def nearcadeShutdown (b : Build) (w : Capture.Waits) (s : State) : State × List Act :=
  if s.g.running = false then (s, [])
  else
    let (cap, fx₁) := b.captureShutdown w s.cap
    let (inp, fx₂) := b.inputShutdown s.inp
    let (sig, fx₃) := if b.signaling then Signaling.signalingShutdown s.sig else (s.sig, [])
    ({ g := { s.g with running := false, capturing := false, streaming := false }
       rtc := Webrtc.webrtcShutdown s.rtc
       cap := cap
       inp := inp
       sig := sig },
      [.webrtcShutdown] ++ acts fx₁ ++ acts fx₂ ++ acts fx₃ ++
        [.mutexDestroy .viewerLock, .mutexDestroy .slotsLock] ++
        if b.win32 then [.wsaCleanup] else [])

/-- `nearcade_get_signaling_url`: without the signaling module it prints the port of the
configuration. -/
def nearcadeGetSignalingUrl (b : Build) (s : State) (buf : Option Bytes) : NearcadeError × Bytes :=
  if b.signaling then Nearcade.nearcadeGetSignalingUrl s buf
  else
    match buf with
    | none => (.errInvalidArg, [])
    | some buf =>
        if buf.length = 0 then (.errInvalidArg, buf)
        else
          let text := snprintf buf.length
            (bytes "ws://" ++ s.g.lanIp ++ bytes ":" ++ decimalInt s.g.config.port)
          (.ok, text ++ 0 :: buf.drop (text.length + 1))

end Build

/-! ### The build of `Source/Orchestrator.lean` -/

/-- The effect of an act. -/
def Act.toEffect : Act → Option Effect
  | .effect e => some e
  | _ => none

/-- The effects among the acts. -/
def effectsOf (as : List Act) : List Effect := as.filterMap Act.toEffect

@[simp] theorem effectsOf_append (as as' : List Act) :
    effectsOf (as ++ as') = effectsOf as ++ effectsOf as' := List.filterMap_append

@[simp] theorem effectsOf_acts (fx : List Effect) : effectsOf (acts fx) = fx := by
  rw [effectsOf, acts, List.filterMap_map]
  exact List.filterMap_some

namespace Build

theorem linux_initModules (e : InitEnv) (w : Capture.Waits) (s : State) {done : List Act}
    (hd : effectsOf done = []) :
    (linux.initModules e w s done).1 = (Nearcade.initModules e w s).1 ∧
      (linux.initModules e w s done).2.1 = (Nearcade.initModules e w s).2.1 ∧
      effectsOf (linux.initModules e w s done).2.2 = (Nearcade.initModules e w s).2.2 := by
  have hl : effectsOf destroyLocks = [] := rfl
  have hu : effectsOf [.webrtcInit] = [] := rfl
  have hw : effectsOf [.webrtcShutdown] = [] := rfl
  have hi : linux.inputInit e.kbm s.inp = Input.inputInit e.kbm s.inp := rfl
  simp only [initModules, Nearcade.initModules, hi]
  split
  · exact ⟨rfl, rfl, by simp [hd, hl]⟩
  · -- `capture_init` and `webrtc_init` return `NEARCADE_OK`
    have hc : linux.captureInit s.cap = Capture.captureInit := rfl
    have hr : ¬ Capture.captureInit.1 ≠ .ok := not_not.mpr rfl
    have hv : ¬ (Webrtc.webrtcInit s.rtc).1 ≠ .ok := not_not.mpr rfl
    have hs : ¬ linux.signaling = false := Bool.noConfusion
    simp only [hc, if_neg hr, initWebrtc, if_neg hv, if_neg hs]
    split
    · refine ⟨rfl, rfl, ?_⟩
      simp only [effectsOf_append, effectsOf_acts, hd, hl, hu, hw, captureShutdown, inputShutdown,
        linux, List.append_nil, List.nil_append, Bool.false_eq_true, if_false]
    · refine ⟨rfl, rfl, ?_⟩
      simp only [effectsOf_append, effectsOf_acts, hd, hu, List.append_nil, List.nil_append]

/-- **The Linux build with signaling** is the one of `Source/Orchestrator.lean`. -/
theorem linux_nearcadeInit (config : Option NearcadeConfig) (e : BuildEnv) (w : Capture.Waits)
    (s : State) :
    (linux.nearcadeInit config e w s).1 = (Nearcade.nearcadeInit config e.toInitEnv w s).1 ∧
      (linux.nearcadeInit config e w s).2.1 =
        (Nearcade.nearcadeInit config e.toInitEnv w s).2.1 ∧
      effectsOf (linux.nearcadeInit config e w s).2.2 =
        (Nearcade.nearcadeInit config e.toInitEnv w s).2.2 := by
  have hb : linux.nearcadeInit config e w s = linux.initLocks config e.toInitEnv w s [] := rfl
  rw [hb, initLocks, Nearcade.nearcadeInit]
  simp only [mutexInit, linux, Bool.false_or]
  by_cases hv : e.viewerLock = false
  · rw [if_pos hv, if_pos (.inl hv)]
    exact ⟨rfl, rfl, rfl⟩
  · by_cases hs : e.slotsLock = false
    · rw [if_neg hv, if_pos hs, if_pos (.inr hs)]
      exact ⟨rfl, rfl, rfl⟩
    · rw [if_neg hv, if_neg hs, if_neg (not_or.mpr ⟨hv, hs⟩)]
      exact linux_initModules e.toInitEnv w _ rfl

theorem linux_nearcadeShutdown (w : Capture.Waits) (s : State) :
    (linux.nearcadeShutdown w s).1 = (Nearcade.nearcadeShutdown w s).1 ∧
      effectsOf (linux.nearcadeShutdown w s).2 = (Nearcade.nearcadeShutdown w s).2 := by
  have hw : effectsOf [.webrtcShutdown] = [] := rfl
  have hl : effectsOf [.mutexDestroy .viewerLock, .mutexDestroy .slotsLock] = [] := rfl
  simp only [nearcadeShutdown, Nearcade.nearcadeShutdown]
  split
  · exact ⟨rfl, rfl⟩
  · refine ⟨rfl, ?_⟩
    simp only [effectsOf_append, effectsOf_acts, hl, hw, captureShutdown, inputShutdown, linux,
      List.append_nil, List.nil_append, Bool.false_eq_true, if_false, if_true]

end Build

end Nearcade
