import Nearcade.Support.Resources
import Nearcade.System.Devices
import Nearcade.System.Effects

/-!
# Input — Descriptors

The input backend on its own: `backend` runs its seven functions in any order, with any arguments,
where `open`, `write` and `UI_DEV_CREATE` may fail at any time.  `input_init` is called again only
when no device is recorded.

`uses` are the descriptors a list of effects opens and closes.  Replayed from none, the uses of a
run go through, so nothing is closed twice and nothing that is not open; and they leave open just
what the tables record (`descriptors_recorded`).  `follows_call` says what a call of the SDK does to
them.
-/

namespace Nearcade.Input
open Runs Resources Text

/-! ### The backend -/

/-- The functions of the backend, with what the kernel answers. -/
inductive BackendCall where
  | init (u : Uinput)
  | allocSlot (u : Uinput) (slot : UInt8) (vendor product version : UInt16) (name : Option Bytes)
  | freeSlot (slot : UInt8)
  | submitGamepad (pkt : Option NearcadeGamepadPacket)
  | submitKbm (viewerId eventType : Bytes) (key : Option Bytes) (dx dy : Int)
  | flushSlot (slot : UInt8)
  | shutdown

def BackendCall.run (st : State) : BackendCall → State × List Effect
  | .init u => (inputInit u st).2
  | .allocSlot u slot v p ver name => (inputAllocSlot u slot v p ver name st).2
  | .freeSlot slot => (inputFreeSlot slot st).2
  | .submitGamepad pkt => (st, (inputSubmitGamepad st pkt).2)
  | .submitKbm vid ev key dx dy => (st, (inputSubmitKbm st vid ev key dx dy).2)
  | .flushSlot slot => (st, (inputFlushSlot st slot).2)
  | .shutdown => inputShutdown st

/-- No device is recorded. -/
def Idle (st : State) : Prop := st.kbmFd < 0 ∧ NoDevice st

instance (st : State) : Decidable (NoDevice st) := inferInstanceAs (Decidable (∀ _, _))

instance (st : State) : Decidable (Idle st) := inferInstanceAs (Decidable (_ ∧ _))

/-- `input_init` only where no device is recorded; the kernel returns no descriptor that is open. -/
def BackendCall.Enabled (st : State) : BackendCall → Prop
  | .init u => Idle st ∧ u.Fresh st
  | .allocSlot u slot .. => AllocEnabled st u slot
  | _ => True

instance (st : State) : ∀ c : BackendCall, Decidable (c.Enabled st)
  | .init u => inferInstanceAs (Decidable (Idle st ∧ u.Fresh st))
  | .allocSlot u slot _ _ _ _ => inferInstanceAs (Decidable (AllocEnabled st u slot))
  | .freeSlot _ | .submitGamepad _ | .submitKbm .. | .flushSlot _ | .shutdown => isTrue trivial

/-- **The input backend.** -/
def backend : Machine State BackendCall Effect where
  enabled st c := c.Enabled st
  next st c := (c.run st).1
  out st c := (c.run st).2

instance (st : State) (c : BackendCall) : Decidable (backend.enabled st c) :=
  inferInstanceAs (Decidable (c.Enabled st))

/-! ### Descriptors opened and closed -/

/-- What an effect does to a descriptor. -/
def useOf : Effect → Option (Use Int)
  | .uinputOpen fd => some (.acquire fd)
  | .close fd => some (.release fd)
  | _ => none

/-- The descriptors opened and closed, in order. -/
def uses (fx : List Effect) : List (Use Int) := fx.filterMap useOf

@[simp] theorem uses_nil : uses [] = [] := rfl

@[simp] theorem uses_append (fx fx' : List Effect) : uses (fx ++ fx') = uses fx ++ uses fx' :=
  List.filterMap_append

/-- What does not reach the devices opens and closes nothing. -/
theorem uses_foreign {ks : List Kind} {fx : List Effect} (h : Within ks fx) (hk : .device ∉ ks) :
    uses fx = [] :=
  h.filterMap fun e he => by
    cases e with
    | uinputOpen fd | close fd => exact absurd he hk
    | _ => rfl

/-! ### The replay -/

/-- A function of the backend keeps the devices on descriptors of their own, and the descriptors it
opens and closes are what becomes of those that are open. -/
structure Follows (st : State) (r : State × List Effect) : Prop where
  ledger : Ledger r.1
  replayed : replay st.opened (uses r.2) = some r.1.opened

namespace Follows
variable {st : State}

theorem refl (h : Ledger st) : Follows st (st, []) := ⟨h, rfl⟩

theorem trans {st₁ st₂ : State} {fx₁ fx₂ : List Effect} (h₁ : Follows st (st₁, fx₁))
    (h₂ : Follows st₁ (st₂, fx₂)) : Follows st (st₂, fx₁ ++ fx₂) :=
  ⟨h₂.ledger, by rw [uses_append]; exact replay_trans h₁.replayed h₂.replayed⟩

/-- What does not reach the devices. -/
theorem foreign (h : Ledger st) {ks : List Kind} {fx : List Effect} (hw : Within ks fx)
    (hk : .device ∉ ks) : Follows st (st, fx) :=
  ⟨h, by rw [uses_foreign hw hk]; rfl⟩

/-- A device that is opened, and not created. -/
theorem opened_closed (h : Ledger st) {fd : Int} (hfd : fd ∉ st.opened) :
    Follows st (st, [.uinputOpen fd, .close fd]) :=
  ⟨h, replay_acquire_release hfd⟩

end Follows

section
variable {st : State}

theorem follows_inputInit {u : Uinput} (hu : u.Fresh st) : Follows st (inputInit u st).2 := by
  refine ⟨ledger_inputInit u st, ?_⟩
  simp only [inputInit, createKbmDevice]
  split
  · rfl
  · rename_i h0
    have hfd := hu (Int.not_lt.mp h0)
    split
    · exact replay_acquire hfd
    · exact replay_acquire_release hfd

theorem follows_destroyGp (h : Ledger st) {k : Fin maxSlots} (hk : 0 ≤ st.gpFds k) :
    Follows st (destroyGp st k) :=
  ⟨h.destroyGp hk, replay_release (h.gp k hk)⟩

theorem follows_evictGp (h : Ledger st) (k : Fin maxSlots) : Follows st (evictGp st k) := by
  rw [evictGp]
  split
  · rename_i hk
    exact follows_destroyGp h hk
  · exact .refl h

theorem follows_allocSlot (h : Ledger st) {u : Uinput} {slot : UInt8} (hu : AllocEnabled st u slot)
    (v p ver : UInt16) (name : Option Bytes) :
    Follows st (inputAllocSlot u slot v p ver name st).2 := by
  refine ⟨h.alloc hu v p ver name, ?_⟩
  rw [inputAllocSlot]
  split
  · rfl
  · rename_i k hk
    -- the descriptor is new among those that are open after the eviction
    have he := follows_evictGp h k
    have hfresh := hu k hk
    simp only
    split
    · exact he.replayed
    · rename_i h0
      have hfd := hfresh (Int.not_lt.mp h0)
      split
      · rw [uses_append]
        exact replay_trans he.replayed (replay_acquire hfd)
      · exact (he.trans (.opened_closed he.ledger hfd)).replayed

theorem follows_freeSlot (h : Ledger st) (slot : UInt8) :
    Follows st (inputFreeSlot slot st).2 := by
  refine ⟨h.free slot, ?_⟩
  rw [inputFreeSlot]
  split
  · rfl
  · split
    · rename_i hk
      exact (follows_destroyGp h hk).replayed
    · rfl

theorem follows_shutdownSlots {st : State} (h : Ledger st) :
    ∀ l, Follows st (shutdownSlots l st)
  | [] => .refl h
  | k :: l => by
      rw [shutdownSlots]
      split
      · rename_i hk
        have hd := follows_destroyGp h hk
        exact hd.trans (follows_shutdownSlots hd.ledger l)
      · exact follows_shutdownSlots h l

theorem follows_shutdown (h : Ledger st) : Follows st (inputShutdown st) := by
  have hs := follows_shutdownSlots h (List.finRange maxSlots)
  simp only [inputShutdown]
  split
  · rename_i hk
    exact hs.trans ⟨hs.ledger.closeKbm, replay_release (hs.ledger.kbm hk)⟩
  · exact hs

/-! ### The account -/

/-- Every open descriptor is recorded. -/
def Recorded (st : State) : Prop :=
  ∀ fd ∈ st.opened, 0 ≤ fd ∧ (fd = st.kbmFd ∨ ∃ k, fd = st.gpFds k)

/-- Where no device is recorded no descriptor is open. -/
theorem Recorded.opened_eq_empty (h : Recorded st) (hi : Idle st) : st.opened = ∅ := by
  refine Finset.eq_empty_of_forall_notMem fun fd hfd => ?_
  obtain ⟨h0, rfl | ⟨k, rfl⟩⟩ := h fd hfd
  · exact absurd hi.1 (Int.not_lt.mpr h0)
  · exact absurd (hi.2 k) (Int.not_lt.mpr h0)

/-- `input_init` where nothing is open. -/
theorem recorded_inputInit (h : st.opened = ∅) (u : Uinput) : Recorded (inputInit u st).2.1 := by
  have hno : ∀ fd ∈ st.opened, False := fun fd hfd => by rw [h] at hfd; exact absurd hfd (by simp)
  simp only [inputInit, createKbmDevice]
  split
  · exact fun fd hfd => (hno fd hfd).elim
  · rename_i hu
    split
    · intro fd hfd
      rcases Finset.mem_insert.mp hfd with rfl | hfd
      · exact ⟨Int.not_lt.mp hu, .inl rfl⟩
      · exact (hno fd hfd).elim
    · exact fun fd hfd => (hno fd hfd).elim

theorem Recorded.destroyGp (h : Recorded st) (k : Fin maxSlots) :
    Recorded (destroyGp st k).1 := by
  intro fd hfd
  obtain ⟨hne, hfd⟩ := Finset.mem_erase.mp hfd
  obtain ⟨h0, e | ⟨j, rfl⟩⟩ := h fd hfd
  · exact ⟨h0, .inl e⟩
  · -- another slot's descriptor stays where it is
    have hj : j ≠ k := fun e => hne (by rw [e])
    exact ⟨h0, .inr ⟨j, (Function.update_of_ne hj _ _).symm⟩⟩

theorem Recorded.evictGp (h : Recorded st) (k : Fin maxSlots) : Recorded (evictGp st k).1 := by
  rw [Input.evictGp]
  split
  · exact h.destroyGp k
  · exact h

/-- After an eviction the slot has no device. -/
theorem gpFds_evictGp (st : State) (k : Fin maxSlots) : (evictGp st k).1.gpFds k < 0 := by
  rw [Input.evictGp]
  split
  · simp [Input.destroyGp]
  · rename_i hk
    exact Int.not_le.mp hk

/-- A new device on a slot without one. -/
theorem Recorded.insert (h : Recorded st) {fd : Int} (h0 : 0 ≤ fd) {k : Fin maxSlots}
    (hk : st.gpFds k < 0) (names : Fin maxSlots → Bytes) :
    Recorded { st with
      gpFds := Function.update st.gpFds k fd
      gpNames := names
      opened := Insert.insert fd st.opened } := by
  intro fd' hfd'
  rcases Finset.mem_insert.mp hfd' with rfl | hfd'
  · exact ⟨h0, .inr ⟨k, (Function.update_self k _ st.gpFds).symm⟩⟩
  · obtain ⟨h0', e | ⟨j, rfl⟩⟩ := h fd' hfd'
    · exact ⟨h0', .inl e⟩
    · have hj : j ≠ k := fun e => absurd hk (Int.not_lt.mpr (e ▸ h0'))
      exact ⟨h0', .inr ⟨j, (Function.update_of_ne hj _ _).symm⟩⟩

theorem Recorded.allocSlot (h : Recorded st) (u : Uinput) (slot : UInt8) (v p ver : UInt16)
    (name : Option Bytes) : Recorded (inputAllocSlot u slot v p ver name st).2.1 := by
  rw [inputAllocSlot]
  split
  · exact h
  · rename_i k hk
    have he := h.evictGp k
    simp only
    split
    · exact he
    · rename_i h0
      split
      · exact he.insert (Int.not_lt.mp h0) (gpFds_evictGp st k) _
      · exact he

theorem Recorded.freeSlot (h : Recorded st) (slot : UInt8) :
    Recorded (inputFreeSlot slot st).2.1 := by
  rw [inputFreeSlot]
  split
  · exact h
  · split
    · exact h.destroyGp _
    · exact h

theorem Recorded.shutdownSlots {st : State} (h : Recorded st) :
    ∀ l, Recorded (shutdownSlots l st).1
  | [] => h
  | k :: l => by
      rw [Input.shutdownSlots]
      split
      · exact (h.destroyGp k).shutdownSlots l
      · exact h.shutdownSlots l

theorem Recorded.shutdown (h : Recorded st) : Recorded (inputShutdown st).1 := by
  have hs := h.shutdownSlots (List.finRange maxSlots)
  simp only [inputShutdown]
  split
  · intro fd hfd
    obtain ⟨hne, hfd⟩ := Finset.mem_erase.mp hfd
    obtain ⟨h0, e | hj⟩ := hs fd hfd
    · exact absurd e hne
    · exact ⟨h0, .inr hj⟩
  · exact hs

/-- Every device has an open descriptor of its own, and every open descriptor is recorded. -/
structure Accounted (st : State) : Prop extends Ledger st where
  recorded : Recorded st

theorem Accounted.mem_opened_iff (h : Accounted st) (fd : Int) :
    fd ∈ st.opened ↔ 0 ≤ fd ∧ (fd = st.kbmFd ∨ ∃ k, fd = st.gpFds k) := by
  refine ⟨h.recorded fd, ?_⟩
  rintro ⟨h0, rfl | ⟨k, rfl⟩⟩
  · exact h.kbm h0
  · exact h.gp k h0

/-! ### `input_shutdown` leaves no device -/

/-- The loop of `input_shutdown` takes the devices of the slots it visits, and no other. -/
theorem gpFds_shutdownSlots : ∀ (l : List (Fin maxSlots)) (st : State) (k : Fin maxSlots),
    k ∈ l ∨ st.gpFds k < 0 → (shutdownSlots l st).1.gpFds k < 0
  | [], _, _, h => h.resolve_left List.not_mem_nil
  | j :: l, st, k, h => by
      rw [Input.shutdownSlots]
      split
      · refine gpFds_shutdownSlots l _ k ?_
        by_cases e : k = j
        · exact .inr (by simp [Input.destroyGp, e])
        · refine h.imp (fun hk => (List.mem_cons.mp hk).resolve_left e) fun hk => ?_
          show Function.update st.gpFds j (-1) k < 0
          rwa [Function.update_of_ne e]
      · rename_i hj
        refine gpFds_shutdownSlots l st k (h.elim (fun hk => ?_) .inr)
        rcases List.mem_cons.mp hk with rfl | hk
        · exact .inr (Int.not_le.mp hj)
        · exact .inl hk

theorem idle_inputShutdown (st : State) : Idle (inputShutdown st).1 := by
  have hs : NoDevice (shutdownSlots (List.finRange maxSlots) st).1 := fun k =>
    gpFds_shutdownSlots _ st k (.inl (List.mem_finRange k))
  simp only [inputShutdown]
  split
  · exact ⟨Int.negSucc_lt_zero 0, hs⟩
  · rename_i hk
    exact ⟨Int.not_le.mp hk, hs⟩

end

/-! ### Runs -/

/-- What one call does to the descriptors. -/
theorem follows_run {st : State} (h : Ledger st) {c : BackendCall} (he : c.Enabled st) :
    Follows st (c.run st) := by
  cases c with
  | init u => exact follows_inputInit he.2
  | allocSlot u slot v p ver name => exact follows_allocSlot h he v p ver name
  | freeSlot slot => exact follows_freeSlot h slot
  | submitGamepad pkt => exact .foreign h within_submitGamepad (by simp)
  | submitKbm vid ev key dx dy => exact .foreign h within_submitKbm (by simp)
  | flushSlot slot => exact .foreign h within_flushSlot (by simp)
  | shutdown => exact follows_shutdown h

/-- What one call does to the account. -/
theorem Recorded.run {st : State} (h : Recorded st) {c : BackendCall} (he : c.Enabled st) :
    Recorded (c.run st).1 := by
  cases c with
  | init u => exact recorded_inputInit (h.opened_eq_empty he.1) u
  | allocSlot u slot v p ver name => exact h.allocSlot u slot v p ver name
  | freeSlot slot => exact h.freeSlot slot
  | shutdown => exact h.shutdown
  | submitGamepad _ | submitKbm _ _ _ _ _ | flushSlot _ => exact h

/-- What a run does to the account. -/
theorem Accounted.run {st : State} (h : Accounted st) {cs : List BackendCall}
    (hv : backend.Valid st cs) :
    Accounted (backend.final st cs) ∧
      replay st.opened (uses (outputs (backend.trace st cs))) =
        some (backend.final st cs).opened := by
  induction cs generalizing st with
  | nil => exact ⟨h, rfl⟩
  | cons c cs ih =>
      have hc := follows_run h.toLedger hv.1
      have hrest := ih ⟨hc.ledger, h.recorded.run hv.1⟩ hv.2
      refine ⟨hrest.1, ?_⟩
      show replay st.opened (uses ((c.run st).2 ++ outputs (backend.trace (c.run st).1 cs))) = _
      rw [uses_append]
      exact replay_trans hc.replayed hrest.2

/-- The tables record the descriptors of a set, each once. -/
structure Records (st : State) (held : Finset Int) : Prop where
  mem_iff : ∀ fd, fd ∈ held ↔ 0 ≤ fd ∧ (fd = st.kbmFd ∨ ∃ k, fd = st.gpFds k)
  apart : ∀ j k, 0 ≤ st.gpFds j → st.gpFds j = st.gpFds k → j = k
  apartKbm : ∀ k, 0 ≤ st.gpFds k → st.gpFds k ≠ st.kbmFd

/-- **The descriptors that are open are the ones recorded.**  From a call of `input_init` with no
descriptor open, every run closes only what is open, and leaves open what the tables record;
`input_shutdown` would close it all. -/
theorem descriptors_recorded {st : State} (h : st.opened = ∅) (u : Uinput)
    {cs : List BackendCall} (hv : backend.Valid (inputInit u st).2.1 cs) :
    let s := backend.final (inputInit u st).2.1 cs
    ∃ held : Finset Int,
      replay ∅ (uses ((inputInit u st).2.2 ++ outputs (backend.trace (inputInit u st).2.1 cs))) =
        some held ∧
      Records s held ∧ replay held (uses (inputShutdown s).2) = some ∅ := by
  intro s
  have hi : Accounted (inputInit u st).2.1 := ⟨ledger_inputInit u st, recorded_inputInit h u⟩
  have hf : Follows st (inputInit u st).2 := follows_inputInit fun _ => by simp [h]
  obtain ⟨ha, hr⟩ := hi.run hv
  refine ⟨s.opened, ?_, ⟨ha.mem_opened_iff, ha.apart, ha.apartKbm⟩, ?_⟩
  · rw [uses_append, ← h]
    exact replay_trans hf.replayed hr
  · rw [(follows_shutdown ha.toLedger).replayed,
      ha.recorded.shutdown.opened_eq_empty (idle_inputShutdown s)]

/-- A gamepad is plugged in, replaced, lost when its second replacement fails, and the backend is
restarted. -/
def replugging : List BackendCall :=
  [.allocSlot ⟨4, true, true⟩ 0 0x045e 0x028e 1 none,
   .allocSlot ⟨4, true, true⟩ 0 0x054c 0x09cc 1 none, .submitKbm [] (bytes "mousemove") none 1 1,
   .allocSlot ⟨4, true, false⟩ 0 0x045e 0x028e 1 none, .freeSlot 0, .shutdown,
   .init ⟨3, true, true⟩, .allocSlot ⟨5, true, true⟩ 7 0x045e 0x028e 1 none]

theorem descriptors_recorded_replugging :
    let s := backend.final (inputInit ⟨3, true, true⟩ .boot).2.1 replugging
    ∃ held : Finset Int,
      replay ∅ (uses ((inputInit ⟨3, true, true⟩ .boot).2.2 ++
        outputs (backend.trace (inputInit ⟨3, true, true⟩ .boot).2.1 replugging))) = some held ∧
      Records s held ∧ replay held (uses (inputShutdown s).2) = some ∅ :=
  descriptors_recorded rfl _ (by decide +kernel)

example : (backend.final (inputInit ⟨3, true, true⟩ .boot).2.1 replugging).opened = {3, 5} := by
  decide +kernel

/-! ### In the SDK -/

/-- A `nearcade_init` that gets past the two mutexes, whatever was in the tables before. -/
theorem follows_nearcadeInit {config : Option NearcadeConfig} {e : InitEnv} {w : Capture.Waits}
    {s : Nearcade.State} (he : e.kbm.Fresh s.inp) (hl : e.viewerLock = true ∧ e.slotsLock = true) :
    Follows s.inp ((nearcadeInit config e w s).2.1.inp, (nearcadeInit config e w s).2.2) := by
  have hi := follows_inputInit he
  -- the signaling module reaches no device
  have hs : Follows s.inp ((inputInit e.kbm s.inp).2.1,
      (inputInit e.kbm s.inp).2.2 ++ (initSignaling config e s).2.2) :=
    hi.trans (.foreign hi.ledger Signaling.within_init (by simp))
  rcases nearcadeInit_cases config e w s with
    ⟨hl', -⟩ | ⟨-, -, h⟩ | ⟨-, -, -, h⟩ | ⟨-, -, -, h⟩
  · simp [hl] at hl'
  · rw [h]
    exact hi
  · rw [h]
    exact hs.trans (follows_shutdown hi.ledger)
  · rw [h]
    exact hs

/-- What a call of the SDK does to the descriptors. -/
theorem follows_call (ov : Int → Int) {s : Nearcade.State} (h : Ledger s.inp) {c : Call}
    (he : c.Enabled s) : Follows s.inp ((c.run ov s).1.inp, (c.run ov s).2) := by
  by_cases hk : .device ∈ c.kinds
  · cases c with
    | init config e w =>
        rcases e.locks with hl | hl
        · rw [Call.run, nearcadeInit, if_pos hl]
          exact .refl h
        · exact follows_nearcadeInit he hl
    | shutdown w =>
        simp only [Call.run, nearcadeShutdown]
        split
        · exact .refl h
        · have hc : Follows s.inp (s.inp, (Capture.captureShutdown w s.cap).2) :=
            .foreign h Capture.within_stop (by simp)
          have hs := hc.trans (follows_shutdown h)
          exact hs.trans (.foreign hs.ledger Signaling.within_shutdown (by simp))
    | disconnectViewer id =>
        cases id with
        | none => exact .refl h
        | some id =>
            simp only [Call.run, nearcadeDisconnectViewer]
            split
            · exact .refl h
            · exact follows_freeSlot h _
    | _ => exact absurd hk (by simp [Call.kinds])
  · rw [Call.inp_of_kinds ov s hk]
    exact .foreign h (Call.within ov s c) hk

end Nearcade.Input
