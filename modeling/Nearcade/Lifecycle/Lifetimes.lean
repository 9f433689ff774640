import Nearcade.Lifecycle.Flags
import Nearcade.Lifecycle.Reinit

/-!
# Lifecycle — Lifetimes

Everything the SDK acts on outside itself has a lifetime: a descriptor from `open` to `close`, a
child from `fork` to the `waitpid` that reaps it, a context from `lws_create_context` to
`lws_context_destroy`, a connection from ESTABLISHED to CLOSED, a PeerConnection as long as a
session holds it.  `Handles.act` carries out one effect and refuses it where what it acts on is not
alive, or what it makes is alive already; `Holder.perform` carries out all effects of one step.
The service thread's `lws_service` is no effect of a step; when it may use the context is the
subject of `Signaling/Context.lean`.

* `Descends`: what the input backend does to the descriptors.
* `Grip.step`: a step of the SDK is carried out, and what the statics record afterwards is alive.
* `no_dangling`: so is every step of every run that begins with a `nearcade_init` past its mutexes.
-/

namespace Nearcade
open Text Runs

/-! ### Handles -/

/-- What is alive, of the handles that the SDK itself makes; and what the next `WNOHANG` looks at a
child return. -/
structure Handles where
  descriptors : Finset Int
  children : Finset Int
  contexts : Finset Nat
  looks : List Int
  deriving DecidableEq

/-- A look at a child. -/
def Handles.look (pid : Int) (h : Handles) : Handles :=
  { h with
    children := if h.looks.head? = some pid then h.children.erase pid else h.children
    looks := h.looks.tail }

/-- The PeerConnections that sessions hold. -/
def Webrtc.State.held (st : Webrtc.State) : List PcId := st.gSessions.filterMap (·.pc)

/-- An effect is carried out, in the world in which the step began. -/
def Handles.act (w : World) (h : Handles) : Effect → Option Handles
  | .uinputOpen fd =>
      if fd ∈ h.descriptors then none else some { h with descriptors := insert fd h.descriptors }
  | .uinputCreate fd _ | .uinputDestroy fd | .inputEvent fd _ _ _ =>
      if fd ∈ h.descriptors then some h else none
  | .close fd =>
      if fd ∈ h.descriptors then some { h with descriptors := h.descriptors.erase fd } else none
  | .fork pid =>
      if pid ∈ h.children then none else some { h with children := insert pid h.children }
  | .kill pid _ => if pid ∈ h.children then some h else none
  | .waitpid pid nohang =>
      if pid ∈ h.children then
        some (if nohang then h.look pid else { h with children := h.children.erase pid })
      else none
  | .lwsCreateContext c =>
      if c ∈ h.contexts then none else some { h with contexts := insert c h.contexts }
  | .lwsContextDestroy c =>
      if c ∈ h.contexts then some { h with contexts := h.contexts.erase c } else none
  | .lwsWrite wsi _ => if wsi ∈ w.live then some h else none
  | .trackSend p _ | .rtc (.setRemoteDescription p _ _) | .rtc (.addRemoteCandidate p _) =>
      if p ∈ w.sdk.rtc.held then some h else none
  | .rtc (.description _ _) | .rtc (.candidate _) | .event _ _ _ => some h

/-- The SDK in its world, and what is alive. -/
structure Holder where
  world : World
  handles : Handles

/-- Before the first call. -/
def Holder.boot : Holder := ⟨.boot, ⟨∅, ∅, ∅, []⟩⟩

/-- What the looks of a step return. -/
def Input.looks : Input → List Int
  | .call c => c.looks
  | .net _ => []

/-- The effects of a step are carried out, one after the other. -/
def Holder.perform (ov : Int → Int) (h : Holder) (i : Input) : Option Handles :=
  ((system ov).out h.world i).foldlM (Handles.act h.world) { h.handles with looks := i.looks }

/-- `fork` and `lws_create_context` return nothing that is alive. -/
def Input.New (h : Handles) : Input → Prop
  | .call (.init _ e _) => ∀ c, e.ctx = some c → c ∉ h.contexts
  | .call (.startCapture pid) => pid ∉ h.children
  | _ => True

/-- **The SDK, with what is alive.** -/
def holding (ov : Int → Int) : Machine Holder Input Effect where
  enabled h i := (system ov).enabled h.world i ∧ i.New h.handles
  next h i := ⟨(system ov).next h.world i, (h.perform ov i).getD h.handles⟩
  out h i := (system ov).out h.world i

instance (h : Handles) : ∀ i : Input, Decidable (i.New h)
  | .call (.init _ e _) =>
      match hc : e.ctx with
      | none => isTrue fun c h => by rw [hc] at h; cases h
      | some c => decidable_of_iff (c ∉ h.contexts) (by simp [Input.New, hc])
  | .call (.startCapture pid) => inferInstanceAs (Decidable (pid ∉ h.children))
  | .call .startStreaming | .call .stopStreaming | .call (.pollEvents _) | .call (.shutdown _)
  | .call (.sendH264 ..) | .call (.sendFrame ..) | .call (.stopCapture _)
  | .call (.submitGamepad _) | .call (.submitKbm ..) | .call (.flushSlot _)
  | .call (.disconnectViewer _) | .call (.setViewerInputMode ..) | .call (.setControllerType ..)
  | .call (.setEventCallback ..) | .call (.getSignalingUrl _) | .call (.getLanIp _)
  | .call (.getPin _) | .call (.regeneratePin _) | .call (.sendOffer ..) | .call (.sendAnswer ..)
  | .call (.sendIceCandidate ..) | .net _ => isTrue trivial

instance (ov : Int → Int) (h : Holder) (i : Input) : Decidable ((holding ov).enabled h i) :=
  inferInstanceAs (Decidable (_ ∧ _))

/-- What the statics record is alive. -/
structure Alive (w : World) (h : Handles) : Prop where
  kbm : 0 ≤ w.sdk.inp.kbmFd → w.sdk.inp.kbmFd ∈ h.descriptors
  gp : ∀ k, 0 ≤ w.sdk.inp.gpFds k → w.sdk.inp.gpFds k ∈ h.descriptors
  child : w.sdk.cap.active = true → w.sdk.cap.pid ∈ h.children
  context : ∀ c, w.sdk.sig.gWsi = some c → c ∈ h.contexts
  host : ∀ wsi, w.sdk.sig.gHostWs = some wsi → wsi ∈ w.live
  viewers : ∀ i wsi, w.sdk.sig.gViewerWs i = some wsi → wsi ∈ w.live
  sessions : ∀ sess ∈ w.sdk.rtc.gSessions, ∃ p, sess.pc = some p ∧ p < w.sdk.rtc.pcs.length

/-! ### Effects that change nothing alive -/

section
variable {w : World} {h : Handles}

/-- An effect that acts on something alive, and leaves it so. -/
def Effect.Fits (w : World) (h : Handles) : Effect → Prop
  | .inputEvent fd _ _ _ => fd ∈ h.descriptors
  | .lwsWrite wsi _ => wsi ∈ w.live
  | .trackSend p _ | .rtc (.setRemoteDescription p _ _) | .rtc (.addRemoteCandidate p _) =>
      p ∈ w.sdk.rtc.held
  | .rtc (.description _ _) | .rtc (.candidate _) | .event _ _ _ => True
  | _ => False

theorem Effect.Fits.act {e : Effect} (he : e.Fits w h) : h.act w e = some h := by
  cases e with
  | inputEvent | lwsWrite | trackSend => exact if_pos he
  | event => rfl
  | rtc call =>
      cases call with
      | setRemoteDescription | addRemoteCandidate => exact if_pos he
      | description | candidate => rfl
  | _ => exact he.elim

theorem act_fits : ∀ {fx : List Effect}, (∀ e ∈ fx, e.Fits w h) →
    fx.foldlM (Handles.act w) h = some h
  | [], _ => rfl
  | e :: fx, hfx => by
      rw [List.foldlM_cons, (hfx e (List.mem_cons_self ..)).act]
      exact act_fits fun e' he' => hfx e' (List.mem_cons_of_mem _ he')

/-- Effects in two parts. -/
theorem act_append {fx fx' : List Effect} {h' h'' : Handles}
    (h₁ : fx.foldlM (Handles.act w) h = some h') (h₂ : fx'.foldlM (Handles.act w) h' = some h'') :
    (fx ++ fx').foldlM (Handles.act w) h = some h'' := by
  rw [List.foldlM_append, h₁]
  exact h₂

theorem fits_fireEvent {g : NearcadeState} {ev : NearcadeEvent} :
    ∀ e ∈ fireEvent g ev, e.Fits w h := by
  intro e he
  rw [List.mem_singleton.mp he]
  trivial

end

/-! ### Descriptors -/

/-- What a function of the backend does is carried out, from what was open to what is. -/
def Descends (w : World) (st : Input.State) (r : Input.State × List Effect) : Prop :=
  ∀ h : Handles, r.2.foldlM (Handles.act w) { h with descriptors := st.opened } =
    some { h with descriptors := r.1.opened }

namespace Descends
variable {w : World} {st st₁ st₂ : Input.State} {fx₁ fx₂ : List Effect}

theorem refl (w : World) (st : Input.State) : Descends w st (st, []) := fun _ => rfl

theorem trans (h₁ : Descends w st (st₁, fx₁)) (h₂ : Descends w st₁ (st₂, fx₂)) :
    Descends w st (st₂, fx₁ ++ fx₂) := fun h => act_append (h₁ h) (h₂ h)

theorem inputInit {u : Input.Uinput} (hu : u.Fresh st) :
    Descends w st (Input.inputInit u st).2 := by
  intro h
  simp only [Input.inputInit, Input.createKbmDevice]
  split
  · rfl
  · rename_i h0
    have hfd := hu (Int.not_lt.mp h0)
    split
    · simp [Handles.act, hfd]
    · simp [Handles.act, hfd]

/-- A device that is destroyed is open, and its descriptor is then closed. -/
theorem destroyed {fd : Int} (hfd : fd ∈ st.opened) :
    Descends w st ({ st with opened := st.opened.erase fd }, [.uinputDestroy fd, .close fd]) := by
  intro h
  simp [Handles.act, hfd]

theorem destroyGp (h : Ledger st) {k : Fin maxSlots} (hk : 0 ≤ st.gpFds k) :
    Descends w st (Input.destroyGp st k) := destroyed (h.gp k hk)

theorem shutdownSlots : ∀ (l : List (Fin maxSlots)) {st : Input.State}, Ledger st →
    Descends w st (Input.shutdownSlots l st)
  | [], st, _ => .refl w st
  | k :: l, st, h => by
      rw [Input.shutdownSlots]
      split
      · rename_i hk
        exact (destroyGp h hk).trans (shutdownSlots l (h.destroyGp hk))
      · exact shutdownSlots l h

theorem inputShutdown (h : Ledger st) : Descends w st (Input.inputShutdown st) := by
  have hl := h.shutdownSlots (List.finRange maxSlots)
  have hs := shutdownSlots (w := w) (List.finRange maxSlots) h
  simp only [Input.inputShutdown]
  split
  · rename_i hk
    exact hs.trans (destroyed (hl.kbm hk))
  · exact hs

theorem inputFreeSlot (h : Ledger st) (slot : UInt8) :
    Descends w st (Input.inputFreeSlot slot st).2 := by
  rw [Input.inputFreeSlot]
  split
  · exact .refl w st
  · split
    · rename_i hk
      exact destroyGp h hk
    · exact .refl w st

end Descends

/-- What is injected goes to descriptors that are open. -/
theorem fits_injection {w : World} {h : Handles} {fx : List Effect} (hk : Within [.injection] fx)
    (hw : ∀ fd ∈ writes fx, fd ∈ h.descriptors) : ∀ e ∈ fx, e.Fits w h := by
  intro e he
  have hkind := hk e he
  cases e with
  | inputEvent fd type code val =>
      exact hw fd (List.mem_filterMap.mpr ⟨_, he, rfl⟩)
  | _ => exact absurd hkind (by simp [Effect.kind])

/-! ### The child and the context -/

section
variable {w : World} {h : Handles}

/-- `capture_start`: the child is alive, if there is one. -/
theorem act_captureStart {pid : Int} (hnew : pid ∉ h.children) {st : Capture.State}
    (hst : st.active = true → st.pid ∈ h.children) : ∃ ch,
    (Capture.captureStart pid st).2.2.foldlM (Handles.act w) h = some { h with children := ch } ∧
      ((Capture.captureStart pid st).2.1.active = true →
        (Capture.captureStart pid st).2.1.pid ∈ ch) := by
  simp only [Capture.captureStart]
  split
  · exact ⟨h.children, rfl, hst⟩
  · split
    · exact ⟨h.children, rfl, hst⟩
    · refine ⟨insert pid h.children, ?_, fun _ => Finset.mem_insert_self _ _⟩
      simp [Handles.act, hnew]

/-- A look that finds the child running leaves it. -/
theorem Handles.look_running {pid r : Int} {rs : List Int} (h0 : r = 0) (hp : 0 < pid)
    (hl : h.looks = r :: rs) : h.look pid = { h with looks := rs } := by
  have hne : ¬ h.looks.head? = some pid := fun e => by
    rw [hl] at e
    exact absurd ((h0.symm.trans (Option.some.inj e)) ▸ hp) (Int.lt_irrefl 0)
  rw [Handles.look, if_neg hne, hl]
  rfl

/-- `capture_stop`: the child is sent its signals and waited for while it is alive. -/
theorem act_reapChild {v : Capture.Waits} {pid : Int} (hp : 0 < pid) (hin : pid ∈ h.children)
    (hl : h.looks = [v.first, v.second]) : ∃ ch looks,
    (Capture.reapChild v pid).foldlM (Handles.act w) h =
      some { h with children := ch, looks := looks } := by
  have hkill : ∀ (sig : Signal) (h : Handles), pid ∈ h.children →
      [Effect.kill pid sig].foldlM (Handles.act w) h = some h := fun _ _ hin => by
    simp [Handles.act, hin]
  have hlook : ∀ h : Handles, pid ∈ h.children →
      [Effect.waitpid pid true].foldlM (Handles.act w) h = some (h.look pid) := fun _ hin => by
    simp [Handles.act, hin]
  have hfirst := act_append (hkill .sigterm h hin) (hlook h hin)
  rw [Capture.reapChild]
  by_cases h₁ : v.first = 0
  · rw [Handles.look_running h₁ hp hl] at hfirst
    have hsecond := act_append hfirst (hlook { h with looks := [v.second] } hin)
    rw [if_pos h₁]
    by_cases h₂ : v.second = 0
    · -- it is still there at both looks
      rw [Handles.look_running h₂ hp rfl] at hsecond
      have hthird := act_append hsecond (hkill .sigkill { h with looks := [] } hin)
      refine ⟨h.children.erase pid, [], ?_⟩
      rw [if_pos h₂]
      have hlast : [Effect.waitpid pid false].foldlM (Handles.act w) { h with looks := [] } =
          some { h with children := h.children.erase pid, looks := [] } := by
        simp [Handles.act, hin]
      have hall := act_append hthird hlast
      exact hall
    · rw [if_neg h₂]
      exact ⟨_, _, hsecond⟩
  · rw [if_neg h₁]
    exact ⟨_, _, hfirst⟩

theorem act_captureStop {v : Capture.Waits} (hl : h.looks = [v.first, v.second])
    {st : Capture.State} (hst : st.active = true → st.pid ∈ h.children) : ∃ ch looks,
    (Capture.captureStop v st).2.foldlM (Handles.act w) h =
        some { h with children := ch, looks := looks } ∧
      ((Capture.captureStop v st).1.active = true → (Capture.captureStop v st).1.pid ∈ ch) := by
  rw [Capture.captureStop]
  split
  · rename_i hc
    obtain ⟨ch, looks, hfx⟩ := act_reapChild (w := w) hc.2 (hst hc.1) hl
    exact ⟨ch, looks, hfx, fun he => absurd he Bool.false_ne_true⟩
  · exact ⟨h.children, h.looks, rfl, hst⟩

/-- `signaling_init`. -/
theorem act_signalingInit (port : Int) {ctx : Option Nat}
    (hnew : ∀ c, ctx = some c → c ∉ h.contexts) (thread : Bool) (st : Signaling.State) : ∃ cs,
    (Signaling.signalingInit port ctx thread st).2.2.foldlM (Handles.act w) h =
        some { h with contexts := cs } ∧
      ∀ c, (Signaling.signalingInit port ctx thread st).2.1.gWsi = some c → c ∈ cs := by
  cases ctx with
  | none => exact ⟨h.contexts, rfl, fun _ hc => by cases hc⟩
  | some c =>
      have hc := hnew c rfl
      cases thread with
      | true =>
          refine ⟨insert c h.contexts, by simp [Signaling.signalingInit, Handles.act, hc], ?_⟩
          intro c' hc'
          obtain rfl := Option.some.inj hc'
          exact Finset.mem_insert_self _ _
      | false =>
          refine ⟨h.contexts, by simp [Signaling.signalingInit, Handles.act, hc], fun _ hc' => ?_⟩
          cases hc'

/-- `signaling_shutdown`. -/
theorem act_signalingShutdown {st : Signaling.State}
    (hst : ∀ c, st.gWsi = some c → c ∈ h.contexts) : ∃ cs,
    (Signaling.signalingShutdown st).2.foldlM (Handles.act w) h =
      some { h with contexts := cs } := by
  simp only [Signaling.signalingShutdown]
  cases hc : st.gWsi with
  | none => exact ⟨h.contexts, rfl⟩
  | some c => exact ⟨h.contexts.erase c, by simp [Handles.act, hst c hc]⟩

end

/-! ### Connections and PeerConnections -/

section
variable {w : World} {h : Handles}

theorem fits_sendToLws {io : Signaling.Io} {target : Option Wsi}
    (ht : ∀ wsi, target = some wsi → wsi ∈ w.live) (data : Bytes) :
    ∀ e ∈ (Signaling.sendToLws io target data).2, e.Fits w h := by
  intro e he
  cases target with
  | none => exact absurd he List.not_mem_nil
  | some wsi =>
      simp only [Signaling.sendToLws] at he
      split at he
      · exact absurd he List.not_mem_nil
      · split at he
        · exact absurd he List.not_mem_nil
        · rw [List.mem_singleton.mp he]
          exact ht wsi rfl

/-- An entry of the table is a connection that is not closed. -/
theorem viewerWsById_live (ht : Signaling.TableInv w.sdk.sig w.live) {ov : Int → Int}
    {id : Option Bytes} {wsi : Wsi} (hw : Signaling.viewerWsById ov w.sdk.sig id = some wsi) :
    wsi ∈ w.live := by
  cases id with
  | none => cases hw
  | some id =>
      simp only [Signaling.viewerWsById] at hw
      split at hw
      · cases hw
      · split at hw
        · exact ht.viewers _ _ hw
        · cases hw

theorem relayTarget_live (ht : Signaling.TableInv w.sdk.sig w.live) {ov : Int → Int}
    {id : Option Bytes} (wsi : Wsi) (hw : Signaling.relayTarget ov w.sdk.sig id = some wsi) :
    wsi ∈ w.live := by
  rw [Signaling.relayTarget] at hw
  split at hw
  · exact (ht.host wsi hw).1
  · cases hv : Signaling.viewerWsById ov w.sdk.sig id with
    | some v =>
        rw [hv] at hw
        exact viewerWsById_live ht (hv.trans hw)
    | none =>
        rw [hv] at hw
        exact (ht.host wsi hw).1

theorem fits_sendToViewer (ht : Signaling.TableInv w.sdk.sig w.live) {ov : Int → Int}
    {io : Signaling.Io} {id data : Bytes} :
    ∀ e ∈ (Signaling.signalingSendToViewer ov io w.sdk.sig id data).2, e.Fits w h := by
  intro e he
  rw [Signaling.signalingSendToViewer] at he
  cases hv : Signaling.viewerWsById ov w.sdk.sig (some id) with
  | some wsi =>
      rw [hv] at he
      refine fits_sendToLws (fun wsi' h' => ?_) data e he
      obtain rfl := Option.some.inj h'
      exact viewerWsById_live ht hv
  | none =>
      rw [hv] at he
      exact absurd he List.not_mem_nil

/-- A session holds its PeerConnection. -/
theorem mem_held {st : Webrtc.State} {sess : Webrtc.WebrtcSession} (hs : sess ∈ st.gSessions)
    {p : PcId} (hp : sess.pc = some p) : p ∈ st.held := List.mem_filterMap.mpr ⟨sess, hs, hp⟩

theorem fits_sendH264 (hw : Sessions.Wf w.sdk.rtc) (data : Option Bytes) :
    ∀ e ∈ (Webrtc.webrtcSendH264 w.sdk.rtc data).2, e.Fits w h := by
  intro e he
  cases data with
  | none => exact absurd he List.not_mem_nil
  | some frame =>
      simp only [Webrtc.webrtcSendH264] at he
      split at he
      · exact absurd he List.not_mem_nil
      · obtain ⟨sess, hs, he⟩ := List.mem_flatMap.mp he
        obtain ⟨p, wf⟩ := hw sess hs
        rw [wf.track] at he
        dsimp only at he
        split at he
        · rw [List.mem_singleton.mp he]
          exact mem_held hs wf.pc
        · exact absurd he List.not_mem_nil

theorem fits_applyPayload {throws : RtcCall → Bool} {value : Option Bytes}
    {calls : Bytes → List RtcCall} (hc : ∀ v, ∀ c ∈ calls v, (Effect.rtc c).Fits w h) :
    ∀ e ∈ (Webrtc.applyPayload throws value calls).2, e.Fits w h := by
  intro e he
  cases value with
  | none => exact absurd he List.not_mem_nil
  | some v =>
      rw [Webrtc.applyPayload_effects] at he
      obtain ⟨c, hm, rfl⟩ := Webrtc.mem_callAll he
      exact hc _ c hm

/-- The calls of libdatachannel for a message are on the PeerConnection of a session. -/
theorem fits_handleSignaling {ov : Int → Int} {throws : RtcCall → Bool} {id data : Bytes} :
    ∀ e ∈ (Webrtc.webrtcHandleSignaling ov throws w.sdk.rtc (some id) (some data)).2,
      e.Fits w h := by
  intro e he
  simp only [Webrtc.webrtcHandleSignaling] at he
  split at he
  · exact absurd he List.not_mem_nil
  · split at he
    · exact absurd he List.not_mem_nil
    · split at he
      · exact absurd he List.not_mem_nil
      · rename_i pc hpc
        have hheld : pc ∈ w.sdk.rtc.held := by
          obtain ⟨sess, hs, hp⟩ := Option.bind_eq_some_iff.mp hpc
          exact mem_held (List.mem_of_find?_eq_some hs) hp
        split at he
        · exact absurd he List.not_mem_nil
        · refine fits_applyPayload (fun v c hc => ?_) e he
          rcases List.mem_pair.mp hc with rfl | rfl
          · trivial
          · exact hheld
        · refine fits_applyPayload (fun v c hc => ?_) e he
          rcases List.mem_pair.mp hc with rfl | rfl
          · trivial
          · exact hheld
        · exact absurd he List.not_mem_nil

theorem fits_receive {ov : Int → Int} {throws : RtcCall → Bool} (wsi : Wsi) (input : Bytes) :
    ∀ e ∈ callbackReceive ov throws w.sdk wsi input, e.Fits w h := by
  intro e he
  rw [callbackReceive] at he
  split at he
  · exact fits_fireEvent e he
  · rcases List.mem_append.mp he with he | he
    · split at he
      · exact fits_handleSignaling e he
      · exact absurd he List.not_mem_nil
    · exact fits_fireEvent e he
  · exact absurd he List.not_mem_nil

end

/-! ### One step -/

/-- What holds from the start: a world the SDK reaches, the descriptors that are open, and a child
and a context that are alive where the statics record one. -/
structure Loose (ov : Int → Int) (w : World) (h : Handles) : Prop where
  reach : (system ov).Reachable .boot w
  descriptors : h.descriptors = w.sdk.inp.opened
  child : w.sdk.cap.active = true → w.sdk.cap.pid ∈ h.children
  context : ∀ c, w.sdk.sig.gWsi = some c → c ∈ h.contexts

/-- What holds once `nearcade_init` has brought up the input backend: the devices too are alive. -/
structure Grip (ov : Int → Int) (w : World) (h : Handles) : Prop extends Loose ov w h where
  ledger : Ledger w.sdk.inp

section
variable {ov : Int → Int} {w : World} {h h' : Handles}

theorem Loose.table (hg : Loose ov w h) : Signaling.TableInv w.sdk.sig w.live :=
  table_of_system hg.reach

theorem Grip.alive (hg : Grip ov w h) : Alive w h where
  kbm h0 := hg.descriptors ▸ hg.ledger.kbm h0
  gp k hk := hg.descriptors ▸ hg.ledger.gp k hk
  child := hg.child
  context := hg.context
  host wsi hw := (hg.table.host wsi hw).1
  viewers := hg.table.viewers
  sessions sess hs := by
    obtain ⟨p, wf⟩ := (inv_of_reachable hg.reach).sessions sess hs
    exact ⟨p, wf.pc, Webrtc.lt_of_captured wf.captured⟩

/-- The handles, as a step meets them. -/
theorem Loose.start (hg : Loose ov w h) (looks : List Int) :
    ({ h with looks := looks } : Handles) =
      { h with looks := looks, descriptors := w.sdk.inp.opened } := by
  rw [← hg.descriptors]

/-- `nearcade_init`, past its mutexes. -/
theorem Loose.init (hg : Loose ov w h) {config : Option NearcadeConfig} {e : InitEnv}
    {v : Capture.Waits} (hf : e.kbm.Fresh w.sdk.inp) (hnew : ∀ c, e.ctx = some c → c ∉ h.contexts)
    (hl : e.viewerLock = true ∧ e.slotsLock = true) (looks : List Int) : ∃ h',
    (nearcadeInit config e v w.sdk).2.2.foldlM (Handles.act w) { h with looks := looks } = some h' ∧
      Grip ov ⟨(nearcadeInit config e v w.sdk).2.1, w.live⟩ h' := by
  have hreach : (system ov).Reachable .boot ⟨(nearcadeInit config e v w.sdk).2.1, w.live⟩ :=
    hg.reach.step (show (system ov).enabled w (.call (.init config e v)) from hf)
  have hled := ledger_inputInit e.kbm w.sdk.inp
  have hup := Descends.inputInit (w := w) hf { h with looks := looks }
  obtain ⟨cs, hsig, hctx⟩ := act_signalingInit (w := w)
    (h := { h with looks := looks, descriptors := (Input.inputInit e.kbm w.sdk.inp).2.1.opened })
    (normaliseConfig config).port hnew e.thread (Signaling.setInternalCallbacks w.sdk.sig)
  have hdown := Descends.inputShutdown (w := w) hled { h with looks := looks, contexts := cs }
  rw [hg.start]
  rcases nearcadeInit_cases config e v w.sdk with
    ⟨hl', -⟩ | ⟨-, -, hr⟩ | ⟨-, -, -, hr⟩ | ⟨-, -, -, hr⟩
  · simp [hl] at hl'
  · rw [hr] at hreach ⊢
    exact ⟨_, hup, ⟨hreach, rfl, hg.child, hg.context⟩, hled⟩
  · rw [hr] at hreach ⊢
    refine ⟨_, act_append (act_append hup hsig) hdown, ⟨hreach, rfl, ?_, hctx⟩, hled.shutdown⟩
    exact fun ha => absurd ha Bool.false_ne_true
  · rw [hr] at hreach ⊢
    refine ⟨_, act_append hup hsig, ⟨hreach, rfl, ?_, hctx⟩, hled⟩
    exact fun ha => absurd ha Bool.false_ne_true

/-- `nearcade_shutdown`: the child, the devices and the context go, each while it is alive. -/
theorem Grip.shutdown (hg : Grip ov w h) (v : Capture.Waits) : ∃ h',
    (nearcadeShutdown v w.sdk).2.foldlM (Handles.act w)
        { h with looks := [v.first, v.second] } = some h' ∧
      Grip ov ⟨(nearcadeShutdown v w.sdk).1, w.live⟩ h' := by
  have hreach : (system ov).Reachable .boot ⟨(nearcadeShutdown v w.sdk).1, w.live⟩ :=
    hg.reach.step (show (system ov).enabled w (.call (.shutdown v)) from trivial)
  obtain ⟨ch, looks, hcap, hchild⟩ := act_captureStop (w := w) (v := v)
    (h := { h with looks := [v.first, v.second], descriptors := w.sdk.inp.opened }) rfl hg.child
  have hdev := Descends.inputShutdown (w := w) hg.ledger { h with children := ch, looks := looks }
  obtain ⟨cs, hsig⟩ := act_signalingShutdown (w := w) (h := { h with
    children := ch, looks := looks, descriptors := (Input.inputShutdown w.sdk.inp).1.opened })
    hg.context
  rw [hg.start]
  by_cases hr : w.sdk.g.running = false
  · rw [nearcadeShutdown, if_pos hr]
    rw [nearcadeShutdown, if_pos hr] at hreach
    exact ⟨_, rfl, ⟨hreach, rfl, hg.child, hg.context⟩, hg.ledger⟩
  · rw [nearcadeShutdown, if_neg hr]
    rw [nearcadeShutdown, if_neg hr] at hreach
    refine ⟨_, act_append (act_append hcap hdev) hsig, ⟨hreach, rfl, hchild, fun _ hc => ?_⟩,
      hg.ledger.shutdown⟩
    cases hc

/-- `nearcade_start_capture`. -/
theorem Grip.startCapture (hg : Grip ov w h) {pid : Int} (h0 : pid ≠ 0) (hnew : pid ∉ h.children)
    (looks : List Int) : ∃ h',
    (nearcadeStartCapture pid w.sdk).2.2.foldlM (Handles.act w) { h with looks := looks } =
        some h' ∧
      Grip ov ⟨(nearcadeStartCapture pid w.sdk).2.1, w.live⟩ h' := by
  have hreach : (system ov).Reachable .boot ⟨(nearcadeStartCapture pid w.sdk).2.1, w.live⟩ :=
    hg.reach.step (show (system ov).enabled w (.call (.startCapture pid)) from h0)
  obtain ⟨ch, hcap, hchild⟩ := act_captureStart (w := w) (h := { h with looks := looks }) hnew
    hg.child
  by_cases hc : w.sdk.g.capturing = true
  · rw [nearcadeStartCapture, if_pos hc]
    rw [nearcadeStartCapture, if_pos hc] at hreach
    exact ⟨_, rfl, ⟨hreach, hg.descriptors, hg.child, hg.context⟩, hg.ledger⟩
  · rw [nearcadeStartCapture, if_neg hc]
    rw [nearcadeStartCapture, if_neg hc] at hreach
    by_cases hok : (Capture.captureStart pid w.sdk.cap).1 = .ok
    · simp only [if_pos hok] at hreach ⊢
      exact ⟨_, hcap, ⟨hreach, hg.descriptors, hchild, hg.context⟩, hg.ledger⟩
    · simp only [if_neg hok] at hreach ⊢
      exact ⟨_, hcap, ⟨hreach, hg.descriptors, hchild, hg.context⟩, hg.ledger⟩

/-- `nearcade_stop_capture`. -/
theorem Grip.stopCapture (hg : Grip ov w h) (v : Capture.Waits) : ∃ h',
    (nearcadeStopCapture v w.sdk).2.2.foldlM (Handles.act w)
        { h with looks := [v.first, v.second] } = some h' ∧
      Grip ov ⟨(nearcadeStopCapture v w.sdk).2.1, w.live⟩ h' := by
  have hreach : (system ov).Reachable .boot ⟨(nearcadeStopCapture v w.sdk).2.1, w.live⟩ :=
    hg.reach.step (show (system ov).enabled w (.call (.stopCapture v)) from trivial)
  obtain ⟨ch, looks, hcap, hchild⟩ := act_captureStop (w := w) (v := v)
    (h := { h with looks := [v.first, v.second] }) rfl hg.child
  by_cases hc : w.sdk.g.capturing = false
  · rw [nearcadeStopCapture, if_pos hc]
    rw [nearcadeStopCapture, if_pos hc] at hreach
    exact ⟨_, rfl, ⟨hreach, hg.descriptors, hg.child, hg.context⟩, hg.ledger⟩
  · rw [nearcadeStopCapture, if_neg hc]
    rw [nearcadeStopCapture, if_neg hc] at hreach
    exact ⟨_, hcap, ⟨hreach, hg.descriptors, hchild, hg.context⟩, hg.ledger⟩

/-- `nearcade_disconnect_viewer`. -/
theorem Grip.disconnectViewer (hg : Grip ov w h) (id : Option Bytes) (looks : List Int) : ∃ h',
    (nearcadeDisconnectViewer w.sdk id).2.2.foldlM (Handles.act w) { h with looks := looks } =
        some h' ∧
      Grip ov ⟨(nearcadeDisconnectViewer w.sdk id).2.1, w.live⟩ h' := by
  have hreach : (system ov).Reachable .boot ⟨(nearcadeDisconnectViewer w.sdk id).2.1, w.live⟩ :=
    hg.reach.step (show (system ov).enabled w (.call (.disconnectViewer id)) from trivial)
  rw [hg.start]
  cases id with
  | none => exact ⟨_, rfl, ⟨hreach, rfl, hg.child, hg.context⟩, hg.ledger⟩
  | some id =>
      cases hf : findViewer w.sdk.g id with
      | none =>
          simp only [nearcadeDisconnectViewer, hf] at hreach ⊢
          exact ⟨_, rfl, ⟨hreach, rfl, hg.child, hg.context⟩, hg.ledger⟩
      | some i =>
          simp only [nearcadeDisconnectViewer, hf] at hreach ⊢
          have hfree := Descends.inputFreeSlot (w := w) hg.ledger
            (UInt8.ofInt (w.sdk.g.viewers i).slot) { h with looks := looks }
          exact ⟨_, hfree, ⟨hreach, rfl, hg.child, hg.context⟩, hg.ledger.free _⟩

theorem Grip.looking (hg : Grip ov w h) (looks : List Int) : Grip ov w { h with looks := looks } :=
  ⟨⟨hg.reach, hg.descriptors, hg.child, hg.context⟩, hg.ledger⟩

/-- The devices that are written to are open. -/
theorem Grip.onSlot (hg : Grip ov w h) {slot : UInt8} {fd : Int}
    (ho : Input.OnSlot w.sdk.inp slot fd) : fd ∈ h.descriptors := by
  obtain ⟨k, -, h0, rfl⟩ := ho
  exact hg.descriptors ▸ hg.ledger.gp k h0

/-- A call that makes and takes nothing leaves the backend, the child and the signaling module as
they are. -/
theorem Call.frame_of_kinds (ov : Int → Int) (s : State) {c : Call} (hd : .device ∉ c.kinds)
    (hc : .child ∉ c.kinds) :
    (c.run ov s).1.inp = s.inp ∧ (c.run ov s).1.cap = s.cap ∧ (c.run ov s).1.sig = s.sig := by
  refine ⟨Call.inp_of_kinds ov s hd, ?_, ((Call.operates_of_kinds hd).frame ov s).2.2.1⟩
  cases c with
  | init | shutdown | startCapture | stopCapture | disconnectViewer =>
      simp [Call.kinds] at hd hc
  | _ => rfl

/-- **A call that makes and takes nothing acts on what is alive.** -/
theorem Grip.fits_call (hg : Grip ov w h) {c : Call} (hd : .device ∉ c.kinds)
    (hc : .child ∉ c.kinds) : ∀ e ∈ (c.run ov w.sdk).2, e.Fits w h := by
  have hin := Call.within ov w.sdk c
  have hkbm : 0 ≤ w.sdk.inp.kbmFd → w.sdk.inp.kbmFd ∈ h.descriptors := hg.alive.kbm
  cases c with
  | init | shutdown | startCapture | stopCapture | disconnectViewer =>
      simp [Call.kinds] at hd hc
  | submitGamepad pkt =>
      refine fits_injection hin fun fd hfd => ?_
      cases pkt with
      | none => exact absurd hfd List.not_mem_nil
      | some pkt => exact hg.onSlot ((Call.mem_writes ov).mp hfd)
  | flushSlot slot => exact fits_injection hin fun fd hfd => hg.onSlot ((Call.mem_writes ov).mp hfd)
  | submitKbm vid ev key dx dy =>
      refine fits_injection hin fun fd hfd => ?_
      have ht := (Call.mem_writes ov).mp hfd
      cases vid with
      | none => exact ht.elim
      | some vid =>
          cases ev with
          | none => exact ht.elim
          | some ev =>
              obtain ⟨-, h0, rfl⟩ := ht
              exact hkbm h0
  | startStreaming => exact fits_fireEvent
  | sendH264 data ts => exact fits_sendH264 (inv_of_reachable hg.reach).sessions data
  | sendAnswer id sdp io =>
      cases sdp with
      | none => exact fun e he => absurd he List.not_mem_nil
      | some sdp => exact fits_sendToLws (relayTarget_live hg.table) _
  | sendIceCandidate id cand io =>
      cases cand with
      | none => exact fun e he => absurd he List.not_mem_nil
      | some cand => exact fits_sendToLws (relayTarget_live hg.table) _
  | _ => exact fun e he => absurd he List.not_mem_nil

/-- **So does a callback.** -/
theorem Grip.fits_net (hg : Grip ov w h) (n : Net) : ∀ e ∈ (n.run ov w.sdk).2, e.Fits w h := by
  have hsend : ∀ io call, ∀ e ∈ webrtcSendViaSignaling ov io w.sdk call, e.Fits w h := by
    intro io call
    cases call with
    | none => exact fun e he => absurd he List.not_mem_nil
    | some p => exact fits_sendToViewer hg.table
  cases n with
  | established | closed => exact fun e he => absurd he List.not_mem_nil
  | receive wsi input throws => exact fits_receive wsi input
  | localDescription pc type sdp io | localCandidate pc cand io => exact hsend io _
  | stateChange pc state =>
      simp only [Net.run]
      split
      · exact fits_fireEvent
      · exact fun e he => absurd he List.not_mem_nil
  | message pc msg =>
      simp only [Net.run]
      split
      · intro e he
        rcases List.mem_append.mp he with he | he
        · exact fits_injection Input.within_submitGamepad
            (fun fd hfd => hg.onSlot (Input.mem_writes_submitGamepad.mp hfd)) e he
        · exact fits_fireEvent e he
      · exact fun e he => absurd he List.not_mem_nil

/-- A callback leaves the child alone. -/
theorem Net.cap (s : State) (n : Net) : (n.run ov s).1.cap = s.cap := by
  have hcb : ∀ (s' : State) (idx : Option (Fin maxViewers)) (joined : Bool),
      (callViewerCb s' idx joined).cap = s'.cap := by
    intro s' idx joined
    obtain ⟨rtc, e⟩ := callViewerCb_eq s' idx joined
    rw [e]
  cases n with
  | established wsi uri stack =>
      exact hcb { s with sig := (Signaling.established s.sig wsi _).1 } _ true
  | closed wsi => exact hcb { s with sig := (Signaling.closed s.sig wsi).1 } _ false
  | stateChange | receive | localDescription | localCandidate | message => rfl

end

/-- **A step.** -/
theorem Grip.step {ov : Int → Int} {h : Holder} (hg : Grip ov h.world h.handles) {i : Input}
    (he : (holding ov).enabled h i) : ∃ h', h.perform ov i = some h' ∧
      Grip ov ((system ov).next h.world i) h' := by
  have hreach := hg.reach.step he.1
  cases i with
  | net n =>
      have hfx := act_fits ((hg.looking []).fits_net n)
      have hinp : ((system ov).next h.world (.net n)).sdk.inp = h.world.sdk.inp :=
        (Net.frame h.world.sdk n).2
      have hcap : ((system ov).next h.world (.net n)).sdk.cap = h.world.sdk.cap :=
        Net.cap h.world.sdk n
      have hctx : ((system ov).next h.world (.net n)).sdk.sig.gWsi = h.world.sdk.sig.gWsi :=
        Net.gWsi ov h.world.sdk n
      exact ⟨_, hfx, ⟨hreach, hinp ▸ hg.descriptors, hcap ▸ hg.child, hctx ▸ hg.context⟩,
        hinp ▸ hg.ledger⟩
  | call c =>
      have plain : .device ∉ c.kinds → .child ∉ c.kinds → ∃ h',
          h.perform ov (.call c) = some h' ∧
            Grip ov ((system ov).next h.world (.call c)) h' := by
        intro hd hc
        obtain ⟨hinp, hcap, hsig⟩ := Call.frame_of_kinds ov h.world.sdk hd hc
        have hinp : ((system ov).next h.world (.call c)).sdk.inp = h.world.sdk.inp := hinp
        have hcap : ((system ov).next h.world (.call c)).sdk.cap = h.world.sdk.cap := hcap
        have hsig : ((system ov).next h.world (.call c)).sdk.sig = h.world.sdk.sig := hsig
        exact ⟨_, act_fits ((hg.looking c.looks).fits_call hd hc),
          ⟨hreach, hinp ▸ hg.descriptors, hcap ▸ hg.child, hsig ▸ hg.context⟩, hinp ▸ hg.ledger⟩
      cases c with
      | init config e v =>
          rcases e.locks with hl | hl
          · -- nothing is done but to `g_state`
            have hn : nearcadeInit config e v h.world.sdk = (.errInit, { h.world.sdk with
                g := { NearcadeState.zero with config := normaliseConfig config } }, []) :=
              if_pos hl
            have hfx : h.perform ov (.call (.init config e v)) =
                some { h.handles with looks := [v.first, v.second] } := by
              simp only [Holder.perform, system, Call.run, hn]
              rfl
            refine ⟨_, hfx, ⟨hreach, ?_, ?_, ?_⟩, ?_⟩ <;> simp only [system, Call.run, hn]
            · exact hg.descriptors
            · exact hg.child
            · exact hg.context
            · exact hg.ledger
          · exact hg.init he.1 he.2 hl _
      | shutdown v => exact hg.shutdown v
      | startCapture pid => exact hg.startCapture he.1 he.2 _
      | stopCapture v => exact hg.stopCapture v
      | disconnectViewer id => exact hg.disconnectViewer id _
      | _ => exact plain (by simp [Call.kinds]) (by simp [Call.kinds])

/-! ### Runs -/

theorem loose_boot (ov : Int → Int) : Loose ov .boot Holder.boot.handles :=
  ⟨Machine.Reachable.refl _, rfl, fun ha => absurd ha Bool.false_ne_true, fun _ hc => by cases hc⟩

/-- **Nothing dangles.**  In every run of the SDK that begins with a `nearcade_init` that gets its
mutexes, whatever becomes of it, and in which the kernel and libwebsockets return nothing that is
alive: every effect of every step acts on a handle that is alive at that moment, closes, reaps or
destroys none twice, and after the step what the statics record is alive.  Of a context this says
when it is created and destroyed, not when it is serviced. -/
theorem no_dangling {ov : Int → Int} {config : Option NearcadeConfig} {e : InitEnv}
    {v : Capture.Waits} (hl : e.viewerLock = true ∧ e.slotsLock = true) {is : List Input}
    (hv : (holding ov).Valid .boot (.call (.init config e v) :: is))
    {en : Entry Holder Input Effect}
    (hen : en ∈ (holding ov).trace .boot (.call (.init config e v) :: is)) : ∃ h',
    en.pre.perform ov en.input = some h' ∧ Alive ((system ov).next en.pre.world en.input) h' := by
  obtain ⟨h₁, hfx, hg⟩ := (loose_boot ov).init hv.1.1 hv.1.2 hl (Call.looks (.init config e v))
  have hnext : (holding ov).next .boot (.call (.init config e v)) =
      ⟨(system ov).next .boot (.call (.init config e v)), h₁⟩ := by
    have hp : Holder.boot.perform ov (.call (.init config e v)) = some h₁ := hfx
    simp only [holding, hp]
    rfl
  rcases List.mem_cons.mp hen with rfl | hen
  · exact ⟨h₁, hfx, hg.alive⟩
  · have hstep : ∀ (h : Holder) (i : Input), Grip ov h.world h.handles → (holding ov).enabled h i →
        Grip ov ((holding ov).next h i).world ((holding ov).next h i).handles := by
      intro h i hg he
      obtain ⟨h', hp, hg'⟩ := hg.step he
      simp only [holding, hp]
      exact hg'
    have hstart : Grip ov ((holding ov).next .boot (.call (.init config e v))).world
        ((holding ov).next .boot (.call (.init config e v))).handles := by
      rw [hnext]
      exact hg
    obtain ⟨hpre, hen', -⟩ := Machine.invariant_trace (I := fun h => Grip ov h.world h.handles)
      hstart hstep hv.2 hen
    obtain ⟨h', hp, hg'⟩ := hpre.step hen'
    exact ⟨h', hp, hg'.alive⟩

/-- A capture runs, a viewer joins and is answered. -/
def busyRun : List Input :=
  [.call (.init none .good ⟨0, 0⟩), .call (.startCapture 9), connect 7,
   .call (.sendAnswer (some (viewerId 0)) (some (bytes "v=0")) ⟨true, 9⟩)]

/-- The SDK shuts down, and the child runs on until SIGKILL. -/
def busyEnd : Input := .call (.shutdown ⟨0, 0⟩)

theorem no_dangling_busy :
    let h := (holding id).final .boot busyRun
    ∃ h', h.perform id busyEnd = some h' ∧ Alive ((system id).next h.world busyEnd) h' :=
  no_dangling ⟨rfl, rfl⟩ (by decide +kernel)
    ((Machine.prefix_trace (holding id) .boot busyRun busyEnd []).subset
      (List.mem_append_right _ (List.mem_singleton_self _)))

end Nearcade
