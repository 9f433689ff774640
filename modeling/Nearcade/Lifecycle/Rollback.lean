import Nearcade.Source.Builds
import Nearcade.Lifecycle.Reinit

/-!
# Lifecycle — Rollback

What `nearcade_init` acquires in every build, and what it gives back where it fails.  `attempts` are
the histories of one process: attempts to start, whatever a running instance does (`Activity`), and
shutdowns.

* `Build.nearcadeInit_attempt`: a successful call holds what the running instance records; a failed
  one leaves nothing behind but the reference `WSAStartup` took.
* `rolledBack_iff`: the failed calls of a history are all undone just when none of them fails after
  a successful `WSAStartup`.
-/

namespace Nearcade
open Text Runs Resources

/-! ### Resources -/

/-- What `nearcade_init` acquires. -/
inductive Resource where
  | wsa
  | lock (lock : Lock)
  | device (fd : Int)
  | webrtc
  | context (ctx : Nat)
  deriving DecidableEq

/-- What an act does to a resource. -/
def Act.use : Act → Option (Use Resource)
  | .wsaStartup => some (.acquire .wsa)
  | .wsaCleanup => some (.release .wsa)
  | .mutexInit l => some (.acquire (.lock l))
  | .mutexDestroy l => some (.release (.lock l))
  | .webrtcInit => some (.acquire .webrtc)
  | .webrtcShutdown => some (.release .webrtc)
  | .effect (.uinputOpen fd) => some (.acquire (.device fd))
  | .effect (.close fd) => some (.release (.device fd))
  | .effect (.lwsCreateContext ctx) => some (.acquire (.context ctx))
  | .effect (.lwsContextDestroy ctx) => some (.release (.context ctx))
  | .effect _ => none

/-- The resources acquired and released, in order. -/
def usesOf (as : List Act) : List (Use Resource) := as.filterMap Act.use

@[simp] theorem usesOf_nil : usesOf [] = [] := rfl

@[simp] theorem usesOf_append (as as' : List Act) : usesOf (as ++ as') = usesOf as ++ usesOf as' :=
  List.filterMap_append

/-- Effects that reach no context open and close descriptors. -/
theorem usesOf_acts {ks : List Kind} {fx : List Effect} (h : Within ks fx) (hk : .context ∉ ks) :
    usesOf (acts fx) = (Input.uses fx).map (.map .device) := by
  rw [usesOf, acts, List.filterMap_map, Input.uses, List.map_filterMap]
  refine List.filterMap_congr fun e he => ?_
  have he := h e he
  cases e with
  | lwsCreateContext ctx | lwsContextDestroy ctx => exact absurd he hk
  | _ => rfl

/-- Effects that reach neither a device nor a context. -/
theorem usesOf_foreign {ks : List Kind} {fx : List Effect} (h : Within ks fx) (hk : .context ∉ ks)
    (hd : .device ∉ ks) : usesOf (acts fx) = [] := by
  rw [usesOf_acts h hk, Input.uses_foreign h hd, List.map_nil]

/-- The open descriptors. -/
def devices (inp : Input.State) : Finset Resource := inp.opened.image .device

theorem device_injective : Function.Injective Resource.device := fun _ _ => Resource.device.inj

/-- What the backend does to the descriptors, next to other resources. -/
theorem replay_devices {inp : Input.State} {r : Input.State × List Effect}
    (h : Input.Follows inp r) {ks : List Kind} (hw : Within ks r.2) (hk : .context ∉ ks)
    {F : Finset Resource} (hF : ∀ fd, .device fd ∉ F) :
    replay (F ∪ devices inp) (usesOf (acts r.2)) = some (F ∪ devices r.1) := by
  rw [usesOf_acts hw hk]
  refine replay_frame (fun u hu => ?_) (replay_map device_injective h.replayed)
  obtain ⟨v, -, rfl⟩ := List.mem_map.mp hu
  cases v with
  | acquire fd | release fd => exact hF fd

/-- What is done to other resources, next to the descriptors. -/
theorem replay_others {F F' : Finset Resource} {us : List (Use Resource)}
    (h : replay F us = some F') (hu : ∀ u ∈ us, ∀ fd, u.of ≠ .device fd) (inp : Input.State) :
    replay (F ∪ devices inp) us = some (F' ∪ devices inp) := by
  rw [Finset.union_comm F, Finset.union_comm F']
  refine replay_frame (fun u hm hmem => ?_) h
  obtain ⟨fd, -, e⟩ := Finset.mem_image.mp hmem
  exact hu u hm fd e.symm

/-! ### What is held -/

/-- The context of `g_wsi`. -/
def contexts : Option Nat → Finset Resource
  | none => ∅
  | some ctx => {.context ctx}

namespace Build

/-- The reference that `WSAStartup` takes, under `_WIN32`. -/
def network (b : Build) : Finset Resource := if b.win32 then {.wsa} else ∅

/-- What `nearcade_init` holds before the modules come up. -/
def base (b : Build) : Finset Resource := b.network ∪ {.lock .viewerLock, .lock .slotsLock}

/-- What a running instance holds apart from the devices. -/
def frame (b : Build) (ctx : Option Nat) : Finset Resource := insert .webrtc b.base ∪ contexts ctx

/-- What is held between two calls. -/
def held (b : Build) (s : State) : Finset Resource :=
  if s.g.running then b.frame s.sig.gWsi ∪ devices s.inp else ∅

/-- The backend of a running instance: the stubs under `_WIN32` open nothing. -/
def Managed (b : Build) (inp : Input.State) : Prop :=
  if b.win32 then inp.opened = ∅ else Input.Accounted inp

end Build

/-- The SDK is not running, and nothing is left of an earlier instance. -/
structure Clean (s : State) : Prop where
  running : s.g.running = false
  opened : s.inp.opened = ∅
  webrtc : s.rtc.gInitialized = false
  sessions : s.rtc.gSessions = []
  context : s.sig.gWsi = none

/-- The SDK is running. -/
structure Live (b : Build) (s : State) : Prop where
  running : s.g.running = true
  managed : b.Managed s.inp
  context : b.signaling = false → s.sig.gWsi = none

theorem clean_boot : Clean .boot := ⟨rfl, rfl, rfl, rfl, rfl⟩

theorem Clean.held {b : Build} {s : State} (h : Clean s) : b.held s = ∅ := by
  rw [Build.held, if_neg (by simp [h.running])]

theorem Live.held {b : Build} {s : State} (h : Live b s) :
    b.held s = b.frame s.sig.gWsi ∪ devices s.inp := by
  rw [Build.held, if_pos h.running]

/-! ### The modules -/

namespace Build
variable {b : Build}

theorem device_notMem_base (fd : Int) : .device fd ∉ b.base := by
  rw [base, network]
  split <;> simp

theorem device_notMem_frame (fd : Int) (ctx : Option Nat) : .device fd ∉ b.frame ctx := by
  have hb := device_notMem_base (b := b) fd
  cases ctx <;> simp [frame, contexts, hb]

/-- `input_init` where no descriptor is open. -/
theorem inputInit_attempt {u : Input.Uinput} {inp : Input.State} (h : inp.opened = ∅)
    {F : Finset Resource} (hF : ∀ fd, .device fd ∉ F) :
    b.Managed (b.inputInit u inp).2.1 ∧
      ((b.inputInit u inp).1 ≠ .ok → (b.inputInit u inp).2.1.opened = ∅) ∧
      replay F (usesOf (acts (b.inputInit u inp).2.2)) =
        some (F ∪ devices (b.inputInit u inp).2.1) := by
  have he : F ∪ devices inp = F := by simp [devices, h]
  rw [Managed, inputInit]
  split
  · exact ⟨h, fun _ => h, congrArg some he.symm⟩
  · have hf := Input.follows_inputInit (u := u) fun _ => h ▸ Finset.notMem_empty _
    have hr := replay_devices hf Input.within_init (by simp) hF
    rw [he] at hr
    refine ⟨⟨hf.ledger, Input.recorded_inputInit h u⟩, ?_, hr⟩
    simp only [Input.inputInit, Input.createKbmDevice]
    split
    · exact fun _ => h
    · split
      · exact fun hne => absurd rfl hne
      · exact fun _ => h

/-- `input_shutdown` closes what is open. -/
theorem inputShutdown_closes {inp : Input.State} (h : b.Managed inp) {F : Finset Resource}
    (hF : ∀ fd, .device fd ∉ F) :
    (b.inputShutdown inp).1.opened = ∅ ∧
      replay (F ∪ devices inp) (usesOf (acts (b.inputShutdown inp).2)) = some F := by
  rw [Managed] at h
  rw [inputShutdown]
  split
  · rename_i hw
    rw [if_pos hw] at h
    exact ⟨h, by simp [devices, h, acts]⟩
  · rename_i hw
    rw [if_neg hw] at h
    have ho := h.recorded.shutdown.opened_eq_empty (Input.idle_inputShutdown inp)
    refine ⟨ho, ?_⟩
    rw [replay_devices (Input.follows_shutdown h.toLedger) Input.within_shutdown (by simp) hF,
      devices, ho, Finset.image_empty, Finset.union_empty]

/-- `capture_shutdown` has nothing to do with these resources. -/
theorem usesOf_captureShutdown (w : Capture.Waits) (cap : Capture.State) :
    usesOf (acts (b.captureShutdown w cap).2) = [] := by
  rw [captureShutdown]
  split
  · rfl
  · exact usesOf_foreign Capture.within_stop (by simp) (by simp)

/-- `signaling_init` keeps the context it creates, or destroys it. -/
theorem signalingInit_attempt (port : Int) (ctx : Option Nat) (thread : Bool)
    (sig : Signaling.State) {F : Finset Resource} (hF : ∀ c, .context c ∉ F) :
    let r := Signaling.signalingInit port ctx thread sig
    (r.1 = .ok ↔ ctx.isSome = true ∧ thread = true) ∧ (r.1 ≠ .ok → r.2.1.gWsi = none) ∧
      replay F (usesOf (acts r.2.2)) = some (F ∪ contexts r.2.1.gWsi) := by
  cases ctx with
  | none =>
      refine ⟨by simp [Signaling.signalingInit], fun _ => rfl, ?_⟩
      exact congrArg some (Finset.union_empty F).symm
  | some c =>
      cases thread with
      | true =>
          refine ⟨by simp [Signaling.signalingInit], fun h => absurd rfl h, ?_⟩
          show replay F [.acquire (.context c)] = some (F ∪ {.context c})
          rw [replay_acquire (hF c), Finset.insert_eq, Finset.union_comm]
      | false =>
          refine ⟨by simp [Signaling.signalingInit], fun _ => rfl, ?_⟩
          show replay F [.acquire (.context c), .release (.context c)] = some (F ∪ ∅)
          rw [replay_acquire_release (hF c), Finset.union_empty]

/-! ### `nearcade_init` -/

/-- A call of `nearcade_init` that failed leaves a clean state and `left`; one that succeeded leaves
a running instance. -/
structure Attempted (b : Build) (left : Finset Resource) (r : NearcadeError × State × List Act) :
    Prop where
  failed : r.1 ≠ .ok → replay ∅ (usesOf r.2.2) = some left ∧ Clean r.2.1
  started : r.1 = .ok → replay ∅ (usesOf r.2.2) = some (b.held r.2.1) ∧ Live b r.2.1

theorem Attempted.fail {left : Finset Resource} {rc : NearcadeError} {s : State} {as : List Act}
    (hrc : rc ≠ .ok) (hr : replay ∅ (usesOf as) = some left) (hs : Clean s) :
    Attempted b left (rc, s, as) :=
  ⟨fun _ => ⟨hr, hs⟩, fun h => absurd h hrc⟩

theorem Attempted.start {left : Finset Resource} {s : State} {as : List Act} (hs : Live b s)
    (hr : replay ∅ (usesOf as) = some (b.frame s.sig.gWsi ∪ devices s.inp)) :
    Attempted b left (.ok, s, as) :=
  ⟨fun h => absurd rfl h, fun _ => ⟨hr.trans (congrArg some hs.held.symm), hs⟩⟩

theorem replay_destroyLocks (b : Build) :
    replay b.base (usesOf destroyLocks) = some b.network := by
  rw [base, network]
  split <;> decide

theorem webrtc_notMem_base : .webrtc ∉ b.base := by
  rw [base, network]
  split <;> simp

theorem context_notMem (c : Nat) (inp : Input.State) :
    .context c ∉ insert .webrtc b.base ∪ devices inp := by
  rw [base, network]
  split <;> simp [devices]

/-- The end of `nearcade_init` where `input_shutdown` undoes what the devices need, and the mutexes
go. -/
theorem replay_unwind {inp : Input.State} (h : b.Managed inp) :
    replay (b.base ∪ devices inp) (usesOf (acts (b.inputShutdown inp).2 ++ destroyLocks)) =
      some b.network := by
  rw [usesOf_append]
  exact replay_trans (inputShutdown_closes h device_notMem_base).2 (replay_destroyLocks b)

theorem initWebrtc_attempt {e : InitEnv} {w : Capture.Waits} {s : State} {done : List Act}
    (hm : b.Managed s.inp) (hs : s.g.running = false) (hc : s.sig.gWsi = none)
    (hd : replay ∅ (usesOf done) = some (b.base ∪ devices s.inp)) :
    Attempted b b.network (b.initWebrtc e w s done) := by
  have hv : ¬ (Webrtc.webrtcInit s.rtc).1 ≠ .ok := not_not.mpr rfl
  have hdev : ∀ ctx : Use Resource, ctx = .acquire .webrtc ∨ ctx = .release .webrtc →
      ∀ fd, ctx.of ≠ .device fd := by
    rintro ctx (rfl | rfl) fd <;> exact Resource.noConfusion
  have h₁ : replay ∅ (usesOf (done ++ [.webrtcInit])) =
      some (insert .webrtc b.base ∪ devices s.inp) := by
    rw [usesOf_append]
    refine replay_trans hd (replay_others (replay_acquire webrtc_notMem_base) ?_ _)
    exact fun u hu => hdev u (.inl (List.mem_singleton.mp hu))
  simp only [initWebrtc, if_neg hv]
  split
  · rename_i hsig
    refine .start ⟨rfl, hm, fun _ => hc⟩ ?_
    show _ = some (b.frame s.sig.gWsi ∪ devices s.inp)
    rw [h₁, hc, frame, contexts, Finset.union_empty]
  · rename_i hsig
    obtain ⟨-, hnone, hctx⟩ := signalingInit_attempt s.g.config.port e.ctx e.thread
      (Signaling.setInternalCallbacks s.sig) (context_notMem (b := b) · s.inp)
    have h₂ := replay_trans h₁ hctx
    rw [← usesOf_append] at h₂
    split
    · rename_i hrc
      obtain ⟨ho, -⟩ := inputShutdown_closes hm (device_notMem_base (b := b))
      refine .fail (by decide) ?_ ⟨hs, ho, rfl, rfl, hnone hrc⟩
      -- WebRTC goes down, then the devices and the mutexes
      rw [hnone hrc, contexts, Finset.union_empty] at h₂
      have h₃ : replay (insert .webrtc b.base ∪ devices s.inp) (usesOf [.webrtcShutdown]) =
          some (b.base ∪ devices s.inp) := by
        have hrel := replay_release (Finset.mem_insert_self Resource.webrtc b.base)
        rw [Finset.erase_insert webrtc_notMem_base] at hrel
        exact replay_others hrel (fun u hu => hdev u (.inr (List.mem_singleton.mp hu))) _
      have h₄ := replay_trans (replay_trans h₂ h₃) (replay_unwind hm)
      simpa only [usesOf_append, usesOf_captureShutdown, List.append_assoc, List.nil_append]
        using h₄
    · rename_i hrc
      refine .start ⟨rfl, hm, fun h => absurd h hsig⟩ (h₂.trans (congrArg some ?_))
      exact Finset.union_right_comm _ _ _

theorem initModules_attempt {e : InitEnv} {w : Capture.Waits} {s : State} {done : List Act}
    (hs : Clean s) (hd : replay ∅ (usesOf done) = some b.base) :
    Attempted b b.network (b.initModules e w s done) := by
  obtain ⟨hm, hfail, hr⟩ := inputInit_attempt (b := b) (u := e.kbm) hs.opened
    (device_notMem_base (b := b))
  have h₁ := replay_trans hd hr
  rw [← usesOf_append] at h₁
  have hcap : ∀ cap, ¬ (b.captureInit cap).1 ≠ .ok := fun cap => by
    rw [captureInit]
    split <;> exact not_not.mpr rfl
  simp only [initModules, if_neg (hcap _)]
  split
  · rename_i hrc
    have he : b.base ∪ devices (b.inputInit e.kbm s.inp).2.1 = b.base := by
      simp [devices, hfail hrc]
    refine .fail (by decide) ?_ ⟨hs.running, hfail hrc, hs.webrtc, hs.sessions, hs.context⟩
    rw [usesOf_append]
    exact replay_trans (h₁.trans (congrArg some he)) (replay_destroyLocks b)
  · exact initWebrtc_attempt hm hs.running hs.context h₁

theorem initLocks_attempt {config : Option NearcadeConfig} {e : InitEnv} {w : Capture.Waits}
    {s : State} {done : List Act} (hs : Clean s) (hd : replay ∅ (usesOf done) = some b.network) :
    Attempted b b.network (b.initLocks config e w s done) := by
  have hs' : ∀ g : NearcadeState, g.running = false → Clean { s with g := g } := fun g hg =>
    ⟨hg, hs.opened, hs.webrtc, hs.sessions, hs.context⟩
  rw [initLocks]
  split
  · exact .fail (by decide) hd (hs' _ rfl)
  · split
    · refine .fail (by decide) ?_ (hs' _ rfl)
      rw [usesOf_append]
      refine replay_trans hd (replay_acquire_release ?_)
      rw [network]
      split <;> simp
    · refine initModules_attempt (hs' _ rfl) ?_
      rw [usesOf_append]
      refine replay_trans hd ?_
      rw [base, network]
      split <;> decide

/-- **What a call of `nearcade_init` leaves.**  Where `WSAStartup` failed nothing was acquired;
after that nothing but its reference is left behind. -/
theorem nearcadeInit_attempt (b : Build) (config : Option NearcadeConfig) (e : BuildEnv)
    (w : Capture.Waits) {s : State} (hs : Clean s) :
    Attempted b (if e.wsa then b.network else ∅) (b.nearcadeInit config e w s) := by
  rw [nearcadeInit]
  by_cases hb : b.win32 = true
  · rw [if_pos hb]
    by_cases he : e.wsa = false
    · rw [if_pos he, if_neg (by simp [he])]
      exact .fail (by decide) rfl hs
    · rw [if_neg he, if_pos (Bool.eq_true_of_not_eq_false he)]
      refine initLocks_attempt hs ?_
      rw [network, if_pos hb]
      rfl
  · have hn : b.network = ∅ := if_neg hb
    rw [if_neg hb, hn, ite_self, ← hn]
    exact initLocks_attempt hs (congrArg some hn.symm)

/-- The signaling server, where the build has one, comes up. -/
def Serves (b : Build) (e : InitEnv) : Prop :=
  b.signaling = true → e.ctx.isSome = true ∧ e.thread = true

/-- Not a call that fails after `WSAStartup` succeeded. -/
def Refunds (b : Build) (e : BuildEnv) : Prop :=
  b.win32 = true → e.wsa = true → b.Serves e.toInitEnv

instance (b : Build) (e : InitEnv) : Decidable (b.Serves e) := inferInstanceAs (Decidable (_ → _))

instance (b : Build) (e : BuildEnv) : Decidable (b.Refunds e) :=
  inferInstanceAs (Decidable (_ → _ → _))

/-- Under `_WIN32` the signaling server alone can fail after `WSAStartup`. -/
theorem nearcadeInit_win32 (hb : b.win32 = true) {e : BuildEnv} (he : e.wsa = true)
    (config : Option NearcadeConfig) (w : Capture.Waits) (s : State) :
    (b.nearcadeInit config e w s).1 = .ok ↔ b.Serves e.toInitEnv := by
  have hm : ∀ ok, ¬ b.mutexInit ok = false := fun ok => by simp [mutexInit, hb]
  have hi : ∀ u inp, ¬ (b.inputInit u inp).1 ≠ .ok := fun u inp => by simp [inputInit, hb]
  have hc : ∀ cap, ¬ (b.captureInit cap).1 ≠ .ok := fun cap => by simp [captureInit, hb]
  have hw : ∀ rtc, ¬ (Webrtc.webrtcInit rtc).1 ≠ .ok := fun rtc => not_not.mpr rfl
  simp only [nearcadeInit, if_pos hb, if_neg (Bool.eq_false_iff.not_left.mpr he), initLocks,
    if_neg (hm _), initModules, if_neg (hi _ _), if_neg (hc _), initWebrtc, if_neg (hw _)]
  split
  · rename_i hsig
    exact iff_of_true rfl fun h => absurd (hsig.symm.trans h) Bool.false_ne_true
  · rename_i hsig
    obtain ⟨hok, -⟩ := signalingInit_attempt (normaliseConfig config).port e.ctx e.thread
      (Signaling.setInternalCallbacks s.sig) (F := ∅) fun _ => Finset.notMem_empty _
    split
    · rename_i hrc
      have hne : NearcadeError.errInit ≠ .ok := by decide
      refine iff_of_false hne fun h => hrc (hok.mpr (h ?_))
      exact Bool.eq_true_of_not_eq_false hsig
    · rename_i hrc
      exact iff_of_true rfl fun _ => hok.mp (not_not.mp hrc)

/-! ### `nearcade_shutdown` -/

theorem device_notMem_contexts (fd : Int) (wsi : Option Nat) :
    .device fd ∉ b.base ∪ contexts wsi := by
  have hb := device_notMem_base (b := b) fd
  cases wsi <;> simp [contexts, hb]

theorem webrtc_notMem_contexts (wsi : Option Nat) : .webrtc ∉ b.base ∪ contexts wsi := by
  have hb := webrtc_notMem_base (b := b)
  cases wsi <;> simp [contexts, hb]

/-- WebRTC goes first. -/
theorem webrtcShutdown_releases (s : State) :
    replay (b.frame s.sig.gWsi ∪ devices s.inp) (usesOf [.webrtcShutdown]) =
      some (b.base ∪ contexts s.sig.gWsi ∪ devices s.inp) := by
  have hrel := replay_release (Finset.mem_insert_self Resource.webrtc
    (b.base ∪ contexts s.sig.gWsi))
  rw [Finset.erase_insert (webrtc_notMem_contexts _), ← Finset.insert_union] at hrel
  refine replay_others hrel (fun u hu fd => ?_) _
  rw [List.mem_singleton.mp hu]
  exact Resource.noConfusion

/-- The context, in a build that has one. -/
theorem signalingShutdown_releases {s : State} (hs : Live b s) :
    ((if b.signaling then Signaling.signalingShutdown s.sig else (s.sig, [])).1.gWsi = none) ∧
      replay (b.base ∪ contexts s.sig.gWsi) (usesOf (acts
        (if b.signaling then Signaling.signalingShutdown s.sig else (s.sig, [])).2)) =
        some b.base := by
  split
  · refine ⟨rfl, ?_⟩
    cases hw : s.sig.gWsi with
    | none => simp [Signaling.signalingShutdown, hw, contexts, acts]
    | some c =>
        have hc : .context c ∉ b.base := by
          rw [base, network]
          split <;> simp
        have hrel := replay_release (Finset.mem_insert_self (Resource.context c) b.base)
        rw [Finset.erase_insert hc, Finset.insert_eq, Finset.union_comm] at hrel
        simpa [Signaling.signalingShutdown, hw, contexts, acts, usesOf, Act.use] using hrel
  · rename_i hn
    have hg := hs.context (Bool.eq_false_of_not_eq_true hn)
    exact ⟨hg, by simp [hg, contexts, acts]⟩

/-- The mutexes and the network go last. -/
theorem base_releases :
    replay b.base (usesOf ([.mutexDestroy .viewerLock, .mutexDestroy .slotsLock] ++
      if b.win32 then [.wsaCleanup] else [])) = some ∅ := by
  rw [base, network]
  split <;> decide

/-- **What `nearcade_shutdown` leaves** of a running instance. -/
theorem nearcadeShutdown_releases {s : State} (hs : Live b s) (w : Capture.Waits) :
    Clean (b.nearcadeShutdown w s).1 ∧
      replay (b.held s) (usesOf (b.nearcadeShutdown w s).2) = some ∅ := by
  obtain ⟨ho, hinp⟩ := inputShutdown_closes hs.managed fun fd =>
    device_notMem_contexts (b := b) fd s.sig.gWsi
  obtain ⟨hwsi, hsig⟩ := signalingShutdown_releases hs
  rw [nearcadeShutdown, if_neg (by simp [hs.running]), hs.held]
  refine ⟨⟨rfl, ho, rfl, rfl, hwsi⟩, ?_⟩
  have h := replay_trans (replay_trans (replay_trans (webrtcShutdown_releases s) hinp) hsig)
    base_releases
  simpa only [usesOf_append, usesOf_captureShutdown, List.append_assoc, List.nil_append] using h

end Build

/-! ### Histories -/

/-- Whatever a running instance does: it goes on running, keeps its context, and what it uses of the
resources is what becomes of those it holds. -/
structure Activity (b : Build) (s s' : State) (as : List Act) : Prop where
  before : s.g.running = true
  after : s'.g.running = true
  managed : b.Managed s'.inp
  context : s'.sig.gWsi = s.sig.gWsi
  replayed : replay (b.held s) (usesOf as) = some (b.held s')

/-! Under Linux every step of a running instance is one. -/

/-- What reaches no context, and whose descriptors are what becomes of those that are open. -/
theorem Activity.of_follows {s s' : State} {fx : List Effect} (hr : s.g.running = true)
    (hr' : s'.g.running = true) (hg : s'.sig.gWsi = s.sig.gWsi)
    (hf : Input.Follows s.inp (s'.inp, fx)) (hrec : Input.Recorded s'.inp) {ks : List Kind}
    (hw : Within ks fx) (hk : .context ∉ ks) : Activity .linux s s' (acts fx) := by
  refine ⟨hr, hr', ⟨hf.ledger, hrec⟩, hg, ?_⟩
  rw [Build.held, if_pos hr, Build.held, if_pos hr', hg]
  exact replay_devices hf hw hk fun fd => Build.device_notMem_frame fd _

/-- A step other than `nearcade_init` and `nearcade_shutdown`. -/
def PlayStep.Operates : PlayStep → Prop
  | .sdk (.call c) => c.Operates
  | _ => True

theorem Activity.of_playing {ov : Int → Int} {w : World} (hr : w.sdk.g.running = true)
    (ha : Input.Accounted w.sdk.inp) {i : PlayStep} (he : (playing ov).enabled w i)
    (ho : i.Operates) :
    Activity .linux w.sdk ((playing ov).next w i).sdk (acts ((playing ov).out w i)) := by
  cases i with
  | sdk i =>
      cases i with
      | call c =>
          obtain ⟨hrun, -, hsig, -⟩ := Call.Operates.frame ov w.sdk ho
          have hrec : Input.Recorded (c.run ov w.sdk).1.inp := by
            rcases Call.Operates.inp ov w.sdk ho with e | ⟨slot, e⟩ <;> rw [e]
            · exact ha.recorded
            · exact ha.recorded.freeSlot slot
          have hk : .context ∉ c.kinds := by
            cases c with
            | init config e waits | shutdown waits => exact ho.elim
            | _ => simp [Call.kinds]
          exact .of_follows hr (hrun.trans hr) (congrArg _ hsig)
            (Input.follows_call ov ha.toLedger he) hrec (Call.within ov w.sdk c) hk
      | net n =>
          have hg : (n.run ov w.sdk).1.g = w.sdk.g := (Net.frame w.sdk n).1
          have hinp : (n.run ov w.sdk).1.inp = w.sdk.inp := (Net.frame w.sdk n).2
          have hk : .context ∉ n.kinds ∧ .device ∉ n.kinds := by
            cases n <;> simp [Net.kinds]
          refine .of_follows hr ((congrArg _ hg).trans hr) (Net.gWsi ov w.sdk n) ?_
            (hinp ▸ ha.recorded)
            (Net.within ov w.sdk n) hk.1
          rw [show ((playing ov).next w (.sdk (.net n))).sdk.inp = w.sdk.inp from hinp]
          exact .foreign ha.toLedger (Net.within ov w.sdk n) hk.2
  | table t =>
      cases t with
      | claim id | release slot =>
          exact .of_follows hr hr rfl (.refl ha.toLedger) ha.recorded (Within.nil : Within [] [])
            (by simp)
      | alloc u slot v p ver name =>
          exact .of_follows hr hr rfl (Input.follows_allocSlot ha.toLedger he.2 v p ver name)
            (ha.recorded.allocSlot u slot v p ver name) Input.within_allocSlot (by simp)
      | free slot =>
          exact .of_follows hr hr rfl (Input.follows_freeSlot ha.toLedger slot)
            (ha.recorded.freeSlot slot) Input.within_freeSlot (by simp)

/-- An attempt to start, something a running instance does, or a shutdown. -/
inductive Attempt where
  | init (config : Option NearcadeConfig) (env : BuildEnv) (waits : Capture.Waits)
  | act (s' : State) (as : List Act)
  | shutdown (waits : Capture.Waits)

/-- **The histories of a process.** -/
def attempts (b : Build) : Machine State Attempt Act where
  enabled s
    | .init _ env _ => s.g.running = false ∧ env.kbm.Fresh s.inp
    | .act s' as => Activity b s s' as
    | .shutdown _ => True
  next s
    | .init config env w => (b.nearcadeInit config env w s).2.1
    | .act s' _ => s'
    | .shutdown w => (b.nearcadeShutdown w s).1
  out s
    | .init config env w => (b.nearcadeInit config env w s).2.2
    | .act _ as => as
    | .shutdown w => (b.nearcadeShutdown w s).2

/-- The attempts to start do not fail after `WSAStartup`. -/
def Attempt.Refunds (b : Build) : Attempt → Prop
  | .init _ env _ => b.Refunds env
  | _ => True

/-- A call of `nearcade_init` that failed after the steps `t` released what it acquired, once, and
nothing else.  Nothing is held then, and nothing is left of an earlier instance. -/
def RolledBack (b : Build) (t : List (Entry State Attempt Act)) (e : Entry State Attempt Act) :
    Prop :=
  ∀ config env w, e.input = .init config env w → (b.nearcadeInit config env w e.pre).1 ≠ .ok →
    replay ∅ (usesOf e.out) = some ∅ ∧ replay ∅ (usesOf (outputs t ++ e.out)) = some ∅ ∧
      Clean (b.nearcadeInit config env w e.pre).2.1

section
variable {b : Build} {s : State}

/-- The SDK is running, or nothing is left of it. -/
theorem clean_or_live_next (h : Clean s ∨ Live b s) {a : Attempt} (he : (attempts b).enabled s a) :
    Clean ((attempts b).next s a) ∨ Live b ((attempts b).next s a) := by
  cases a with
  | init config e w =>
      have hs : Clean s := h.resolve_right fun hl =>
        Bool.false_ne_true (he.1.symm.trans hl.running)
      have ha := Build.nearcadeInit_attempt b config e w hs
      by_cases hrc : (b.nearcadeInit config e w s).1 = .ok
      · exact .inr (ha.started hrc).2
      · exact .inl (ha.failed hrc).2
  | act s' as =>
      have hs : Live b s := h.resolve_left fun hc =>
        Bool.false_ne_true (hc.running.symm.trans he.before)
      exact .inr ⟨he.after, he.managed, fun hsig => he.context.trans (hs.context hsig)⟩
  | shutdown w =>
      rcases h with hc | hl
      · have hn : b.nearcadeShutdown w s = (s, []) := if_pos hc.running
        show Clean (b.nearcadeShutdown w s).1 ∨ _
        rw [hn]
        exact .inl hc
      · exact .inl (Build.nearcadeShutdown_releases hl w).1

/-- The reference `WSAStartup` took is left behind by nothing but a call that does not refund. -/
theorem Build.left_eq {e : BuildEnv} (hc : b.Refunds e) {config : Option NearcadeConfig}
    {w : Capture.Waits} (hrc : (b.nearcadeInit config e w s).1 ≠ .ok) :
    (if e.wsa then b.network else ∅) = ∅ := by
  split
  · rename_i he
    refine if_neg fun hb => hrc ?_
    exact (Build.nearcadeInit_win32 hb he config w s).mpr (hc hb he)
  · rfl

/-- **What one step does to the resources.** -/
theorem replay_attempt (h : Clean s ∨ Live b s) {a : Attempt} (he : (attempts b).enabled s a)
    (hc : a.Refunds b) :
    replay (b.held s) (usesOf ((attempts b).out s a)) = some (b.held ((attempts b).next s a)) := by
  cases a with
  | init config e w =>
      have hs : Clean s := h.resolve_right fun hl =>
        Bool.false_ne_true (he.1.symm.trans hl.running)
      have ha := Build.nearcadeInit_attempt b config e w hs
      rw [hs.held]
      show replay ∅ (usesOf (b.nearcadeInit config e w s).2.2) = _
      by_cases hrc : (b.nearcadeInit config e w s).1 = .ok
      · exact (ha.started hrc).1
      · rw [(ha.failed hrc).1, Build.left_eq hc hrc]
        exact congrArg some (ha.failed hrc).2.held.symm
  | act s' as => exact he.replayed
  | shutdown w =>
      show replay (b.held s) (usesOf (b.nearcadeShutdown w s).2) =
        some (b.held (b.nearcadeShutdown w s).1)
      rcases h with hcl | hl
      · have hn : b.nearcadeShutdown w s = (s, []) := if_pos hcl.running
        rw [hn]
        rfl
      · obtain ⟨hcl, hr⟩ := Build.nearcadeShutdown_releases hl w
        rw [hr, hcl.held]

/-- What is held before every step of a history, while the attempts refund. -/
theorem held_before {is : List Attempt} (hv : (attempts b).Valid .boot is)
    {t : List (Entry State Attempt Act)} {e : Entry State Attempt Act}
    (hp : t ++ [e] <+: (attempts b).trace .boot is) :
    ((Clean e.pre ∨ Live b e.pre) ∧ ((∀ e' ∈ t, e'.input.Refunds b) →
      replay ∅ (usesOf (outputs t)) = some (b.held e.pre))) ∧
      (attempts b).enabled e.pre e.input ∧ e.out = (attempts b).out e.pre e.input := by
  refine Machine.before_step (P := fun t s => (Clean s ∨ Live b s) ∧
    ((∀ e' ∈ t, e'.input.Refunds b) → replay ∅ (usesOf (outputs t)) = some (b.held s)))
    ⟨.inl clean_boot, fun _ => rfl⟩ ?_ hv hp
  rintro t s a ⟨hs, hr⟩ he
  refine ⟨clean_or_live_next hs he, fun hc => ?_⟩
  have hr := hr fun e' he' => hc e' (List.mem_append_left _ he')
  have hstep := replay_attempt hs he (hc _ (List.mem_append_right _ (List.mem_singleton_self _)))
  have ho : outputs (t ++ [⟨s, a, (attempts b).out s a⟩]) =
      outputs t ++ (attempts b).out s a := by simp [outputs]
  rw [ho, usesOf_append]
  exact replay_trans hr hstep

end

/-- An attempt that does not give the reference back would fail and keep it. -/
theorem refunds_of_rolledBack {b : Build} {is : List Attempt} (hv : (attempts b).Valid .boot is)
    (h : ∀ t e, t ++ [e] <+: (attempts b).trace .boot is → RolledBack b t e) {a : Attempt}
    (ha : a ∈ is) : a.Refunds b := by
  cases a with
  | act s' as | shutdown w => trivial
  | init config e w =>
      intro hb he
      by_contra hn
      -- the call fails, and the reference is left
      obtain ⟨is₁, is₂, rfl⟩ := List.append_of_mem ha
      have hp := (attempts b).prefix_trace .boot is₁ (.init config e w) is₂
      obtain ⟨⟨hs, -⟩, hen, -⟩ := held_before hv hp
      have hs : Clean _ := hs.resolve_right fun hl =>
        Bool.false_ne_true (hen.1.symm.trans hl.running)
      have hrc :=
        mt (Build.nearcadeInit_win32 hb he config w ((attempts b).final .boot is₁)).mp hn
      have hleft := ((Build.nearcadeInit_attempt b config e w hs).failed hrc).1
      have hnone := (h _ _ hp config e w rfl hrc).1
      rw [if_pos he, Build.network, if_pos hb] at hleft
      have habs : ({.wsa} : Finset Resource) = ∅ := Option.some.inj (hleft.symm.trans hnone)
      exact Finset.singleton_ne_empty _ habs

/-- Where all give it back, a failed attempt leaves nothing. -/
theorem rolledBack_of_refunds {b : Build} {is : List Attempt} (hv : (attempts b).Valid .boot is)
    (h : ∀ a ∈ is, a.Refunds b) {t : List (Entry State Attempt Act)} {e : Entry State Attempt Act}
    (hp : t ++ [e] <+: (attempts b).trace .boot is) : RolledBack b t e := by
  intro config env w hi hrc
  have hmem : ∀ e' ∈ t ++ [e], e'.input.Refunds b := fun e' he' =>
    h _ (Machine.map_input_trace (M := attempts b) .boot is ▸
      List.mem_map_of_mem (hp.subset he'))
  obtain ⟨⟨hs, hr⟩, hen, ho⟩ := held_before hv hp
  rw [hi] at hen ho
  have hs : Clean e.pre := hs.resolve_right fun hl =>
    Bool.false_ne_true (hen.1.symm.trans hl.running)
  have hc : b.Refunds env := by
    have hc := hmem e (List.mem_append_right _ (List.mem_singleton_self _))
    rwa [hi] at hc
  obtain ⟨hleft, hclean⟩ := (Build.nearcadeInit_attempt b config env w hs).failed hrc
  rw [Build.left_eq hc hrc] at hleft
  have hout : replay ∅ (usesOf e.out) = some ∅ := by
    rw [ho]
    exact hleft
  refine ⟨hout, ?_, hclean⟩
  have hr := hr fun e' he' => hmem e' (List.mem_append_left _ he')
  rw [usesOf_append]
  exact replay_trans (hr.trans (congrArg some hs.held)) hout

/-- **The failed attempts of a history are all undone** just when none of them fails after a
successful `WSAStartup`. -/
theorem rolledBack_iff {b : Build} {is : List Attempt} (hv : (attempts b).Valid .boot is) :
    (∀ t e, t ++ [e] <+: (attempts b).trace .boot is → RolledBack b t e) ↔
      ∀ a ∈ is, a.Refunds b := by
  constructor
  · intro h a ha
    exact refunds_of_rolledBack hv h ha
  · intro h t e hp
    exact rolledBack_of_refunds hv h hp

/-- `lws_create_context` fails: the port is taken. -/
def InitEnv.taken : InitEnv := { InitEnv.good with ctx := none }

/-- Two attempts fail before one succeeds; after it is shut down another one fails. -/
theorem rolledBack_iff_retries :
    let is : List Attempt := [.init none ⟨.taken, true⟩ ⟨0, 0⟩,
      .init none ⟨{ InitEnv.good with slotsLock := false }, true⟩ ⟨0, 0⟩,
      .init none ⟨.good, true⟩ ⟨0, 0⟩, .shutdown ⟨0, 0⟩, .init none ⟨.taken, true⟩ ⟨0, 0⟩]
    ∀ t e, t ++ [e] <+: (attempts .linux).trace .boot is → RolledBack .linux t e := by
  intro is
  have hv : (attempts .linux).Valid .boot is := by
    refine ⟨⟨?_, ?_⟩, ⟨?_, ?_⟩, ⟨?_, ?_⟩, trivial, ⟨?_, ?_⟩, trivial⟩ <;> decide +kernel
  have hc : ∀ a ∈ is, a.Refunds .linux := by simp [is, Attempt.Refunds, Build.Refunds, Build.linux]
  exact (rolledBack_iff hv).mpr hc

/-- Under `_WIN32` the reference is left where the signaling server does not come up. -/
theorem not_rolledBack_win32 :
    ¬ ∀ t e, t ++ [e] <+:
      (attempts ⟨true, true⟩).trace .boot [.init none ⟨.taken, true⟩ ⟨0, 0⟩] →
        RolledBack ⟨true, true⟩ t e := by
  intro h
  have hr := (h [] _ (List.prefix_refl _) none ⟨.taken, true⟩ ⟨0, 0⟩ rfl (by decide +kernel)).1
  exact absurd hr (by decide +kernel)

end Nearcade
