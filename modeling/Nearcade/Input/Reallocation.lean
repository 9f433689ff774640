import Nearcade.Input.Descriptors

/-!
# Input — Reallocation

`input_alloc_slot` destroys the device already on the slot before it asks the kernel for another.
Where the kernel refuses, the slot is left without a device, and with the name of the one that was
there; `input_shutdown` too takes the devices and leaves the names.

* `allocSlot_cases`: the outcomes of an allocation.
* `failsCleanly_iff`: when one that fails leaves the tables and the devices as they were.
* `NamesAgree.run`: what a call does to the agreement of names and devices.
* `reallocation_iff`: both, over all runs.
-/

namespace Nearcade.Input
open Text Runs

/-! ### One allocation -/

/-- The kernel makes the device. -/
def Uinput.Works (u : Uinput) : Prop := 0 ≤ u.fd ∧ u.wrote = true ∧ u.created = true

instance (u : Uinput) : Decidable u.Works := inferInstanceAs (Decidable (_ ∧ _))

/-- The tables and the devices that were there are left as they were. -/
structure Unharmed (st st' : State) : Prop where
  fds : st'.gpFds = st.gpFds
  names : st'.gpNames = st.gpNames
  devices : st.opened ⊆ st'.opened

theorem Unharmed.refl (st : State) : Unharmed st st := ⟨rfl, rfl, Finset.Subset.refl _⟩

/-- Whenever an allocation returns an error, it leaves everything as it was. -/
def FailsCleanly (u : Uinput) (slot : UInt8) (v p ver : UInt16) (name : Option Bytes)
    (st : State) : Prop :=
  (inputAllocSlot u slot v p ver name st).1 ≠ .ok →
    Unharmed st (inputAllocSlot u slot v p ver name st).2.1

/-- The slot of an allocation is none, or has no device, or the kernel makes the new one. -/
def CarefulAlloc (u : Uinput) (slot : UInt8) (st : State) : Prop :=
  ∀ k, slotOfByte slot = some k → 0 ≤ st.gpFds k → u.Works

/-- **The outcomes of an allocation.** -/
theorem allocSlot_cases (u : Uinput) (slot : UInt8) (v p ver : UInt16) (name : Option Bytes)
    (st : State) :
    (slotOfByte slot = none ∧ (inputAllocSlot u slot v p ver name st).1 ≠ .ok ∧
      (inputAllocSlot u slot v p ver name st).2.1 = st) ∨
    ∃ k, slotOfByte slot = some k ∧
      ((¬u.Works ∧ (inputAllocSlot u slot v p ver name st).1 ≠ .ok ∧
          (inputAllocSlot u slot v p ver name st).2.1 = (evictGp st k).1) ∨
        (u.Works ∧ (inputAllocSlot u slot v p ver name st).1 = .ok ∧
          (inputAllocSlot u slot v p ver name st).2.1 =
            { (evictGp st k).1 with
              gpFds := Function.update (evictGp st k).1.gpFds k u.fd
              gpNames := Function.update (evictGp st k).1.gpNames k
                (strncpy ((evictGp st k).1.gpNames k) (gamepadName name) (deviceNameLen - 1))
              opened := insert u.fd (evictGp st k).1.opened })) := by
  simp only [inputAllocSlot]
  split
  · rename_i hk
    exact .inl ⟨hk, by simp, rfl⟩
  · rename_i k hk
    refine .inr ⟨k, hk, ?_⟩
    split
    · rename_i h0
      exact .inl ⟨fun hw => absurd h0 (Int.not_lt.mpr hw.1), by simp, rfl⟩
    · rename_i h0
      split
      · rename_i hw
        rw [Bool.and_eq_true] at hw
        exact .inr ⟨⟨Int.not_lt.mp h0, hw⟩, rfl, rfl⟩
      · rename_i hw
        rw [Bool.and_eq_true] at hw
        exact .inl ⟨fun hw' => hw hw'.2, by simp, rfl⟩

/-- An eviction takes a device, if there is one. -/
theorem unharmed_evictGp_iff (st : State) (k : Fin maxSlots) :
    Unharmed st (evictGp st k).1 ↔ st.gpFds k < 0 := by
  constructor
  · intro h
    have hev := gpFds_evictGp st k
    rwa [h.fds] at hev
  · intro h0
    rw [evictGp, if_neg (Int.not_le.mpr h0)]
    exact .refl st

/-- **When a failed allocation leaves everything as it was.**  For every state of the tables: just
when the slot is none, or has no device, or the allocation does not fail. -/
theorem failsCleanly_iff (u : Uinput) (slot : UInt8) (v p ver : UInt16) (name : Option Bytes)
    (st : State) : FailsCleanly u slot v p ver name st ↔ CarefulAlloc u slot st := by
  rcases allocSlot_cases u slot v p ver name st with ⟨hk, -, hst⟩ | ⟨k, hk, h | h⟩
  · refine iff_of_true (fun _ => by rw [hst]; exact .refl st) fun k hk' => ?_
    rw [hk] at hk'
    cases hk'
  · obtain ⟨hw, hrc, hst⟩ := h
    have hcareful : CarefulAlloc u slot st ↔ st.gpFds k < 0 := by
      constructor
      · exact fun hc => Int.not_le.mp fun h0 => hw (hc k hk h0)
      · intro h0 j hj hj0
        obtain rfl := Option.some.inj (hk.symm.trans hj)
        exact absurd h0 (Int.not_lt.mpr hj0)
    rw [FailsCleanly, hst, forall_prop_of_true hrc, hcareful, unharmed_evictGp_iff]
  · obtain ⟨hw, hrc, -⟩ := h
    exact iff_of_true (fun hne => absurd hrc hne) fun _ _ _ => hw

/-! ### Names -/

/-- A slot has a name only if it has a device. -/
def NamesAgree (st : State) : Prop := ∀ k, cstr (st.gpNames k) ≠ [] → 0 ≤ st.gpFds k

section
variable {st : State}

theorem gpNames_evictGp (st : State) (k : Fin maxSlots) :
    (evictGp st k).1.gpNames = st.gpNames := by
  rw [evictGp]
  split <;> rfl

theorem gpFds_evictGp_of_ne {j k : Fin maxSlots} (h : j ≠ k) :
    (evictGp st k).1.gpFds j = st.gpFds j := by
  rw [evictGp]
  split
  · exact Function.update_of_ne h _ _
  · rfl

theorem NamesAgree.alloc (h : NamesAgree st) {u : Uinput} {slot : UInt8}
    (hc : CarefulAlloc u slot st) (v p ver : UInt16) (name : Option Bytes) :
    NamesAgree (inputAllocSlot u slot v p ver name st).2.1 := by
  rcases allocSlot_cases u slot v p ver name st with ⟨-, -, hst⟩ | ⟨k, hk, hf | ⟨hw, -, hst⟩⟩
  · rw [hst]
    exact h
  · -- an allocation that fails finds no device to evict
    obtain ⟨hw, -, hst⟩ := hf
    rw [hst, evictGp, if_neg fun h0 => hw (hc k hk h0)]
    exact h
  · rw [hst]
    intro j hj
    simp only [gpNames_evictGp] at hj ⊢
    by_cases e : j = k
    · rw [e, Function.update_self]
      exact hw.1
    · rw [Function.update_of_ne e] at hj ⊢
      rw [gpFds_evictGp_of_ne e]
      exact h j hj

theorem cstr_zeros (n : Nat) : cstr (List.replicate n 0) = [] := by
  cases n <;> rfl

theorem NamesAgree.free (h : NamesAgree st) (slot : UInt8) :
    NamesAgree (inputFreeSlot slot st).2.1 := by
  simp only [inputFreeSlot]
  split
  · exact h
  · rename_i k hk
    split
    · intro j hj
      simp only [destroyGp] at hj ⊢
      by_cases e : j = k
      · rw [e, Function.update_self, cstr_zeros] at hj
        exact absurd rfl hj
      · rw [Function.update_of_ne e] at hj ⊢
        exact h j hj
    · exact h

theorem gpNames_shutdownSlots : ∀ (l : List (Fin maxSlots)) (st : State),
    (shutdownSlots l st).1.gpNames = st.gpNames
  | [], _ => rfl
  | k :: l, st => by
      rw [shutdownSlots]
      split
      · exact gpNames_shutdownSlots l _
      · exact gpNames_shutdownSlots l st

theorem gpNames_shutdown (st : State) : (inputShutdown st).1.gpNames = st.gpNames := by
  simp only [inputShutdown]
  split <;> exact gpNames_shutdownSlots _ st

/-- After `input_shutdown` only empty names agree. -/
theorem namesAgree_shutdown_iff (st : State) :
    NamesAgree (inputShutdown st).1 ↔ ∀ k, cstr (st.gpNames k) = [] := by
  have hidle := (idle_inputShutdown st).2
  rw [NamesAgree, gpNames_shutdown]
  refine forall_congr' fun k => ⟨fun h => ?_, fun h hne => absurd h hne⟩
  by_contra hne
  exact absurd (hidle k) (Int.not_lt.mpr (h hne))

theorem namesAgree_init (u : Uinput) (st : State) : NamesAgree (inputInit u st).2.1 := by
  have hnames : (inputInit u st).2.1.gpNames = fun _ => List.replicate deviceNameLen 0 := by
    simp only [inputInit, createKbmDevice]
    split
    · rfl
    · split <;> rfl
  intro k hk
  rw [hnames, cstr_zeros] at hk
  exact absurd rfl hk

end

/-! ### Runs -/

/-- A call fails cleanly, if it is an allocation. -/
def BackendCall.FailsCleanly (st : State) : BackendCall → Prop
  | .allocSlot u slot v p ver name => Input.FailsCleanly u slot v p ver name st
  | _ => True

/-- An allocation that fails is for a slot without a device; and `input_shutdown` comes when the
devices on the slots have empty names. -/
def BackendCall.Careful (st : State) : BackendCall → Prop
  | .allocSlot u slot .. => CarefulAlloc u slot st
  | .shutdown => ∀ k, 0 ≤ st.gpFds k → cstr (st.gpNames k) = []
  | _ => True

/-- **One call.** -/
theorem NamesAgree.run {st : State} (h : NamesAgree st) {c : BackendCall} (hc : c.Careful st) :
    NamesAgree (c.run st).1 := by
  cases c with
  | init u => exact namesAgree_init u st
  | allocSlot u slot v p ver name => exact h.alloc hc v p ver name
  | freeSlot slot => exact h.free slot
  | shutdown =>
      refine (namesAgree_shutdown_iff st).mpr fun k => ?_
      by_contra hne
      exact hne (hc k (h k hne))
  | submitGamepad _ | submitKbm _ _ _ _ _ | flushSlot _ => exact h

/-- A careful call is one that fails cleanly, and after which names and devices agree. -/
theorem careful_iff {st : State} (h : NamesAgree st) (c : BackendCall) :
    c.Careful st ↔ c.FailsCleanly st ∧ NamesAgree (c.run st).1 := by
  refine ⟨fun hc => ⟨?_, h.run hc⟩, fun hc => ?_⟩
  · cases c with
    | allocSlot u slot v p ver name => exact (failsCleanly_iff ..).mpr hc
    | _ => trivial
  · cases c with
    | allocSlot u slot v p ver name => exact (failsCleanly_iff ..).mp hc.1
    | shutdown => exact fun k _ => (namesAgree_shutdown_iff st).mp hc.2 k
    | _ => trivial

theorem careful_run_iff {st : State} (h : NamesAgree st) (cs : List BackendCall) :
    (∀ e ∈ backend.trace st cs, e.input.FailsCleanly e.pre ∧
        NamesAgree (backend.next e.pre e.input)) ↔
      ∀ e ∈ backend.trace st cs, e.input.Careful e.pre := by
  induction cs generalizing st with
  | nil =>
      exact iff_of_true (fun _ he => absurd he List.not_mem_nil)
        fun _ he => absurd he List.not_mem_nil
  | cons c cs ih =>
      simp only [Machine.trace, List.forall_mem_cons]
      rw [careful_iff h c]
      exact and_congr_right fun hc => ih hc.2

/-- **When failed allocations change nothing, and names and devices agree.**  For every state of the
tables and every allocation: it fails cleanly just when it does not fail or its slot has no device.
And in every run after `input_init`: every allocation fails cleanly and in every state reached a
slot has a name only if it has a device, just when every allocation is such, and `input_shutdown`
finds no device with a name on a slot. -/
theorem reallocation_iff (u : Uinput) (st : State) (cs : List BackendCall) :
    (∀ (u' : Uinput) (slot : UInt8) (v p ver : UInt16) (name : Option Bytes) (st' : State),
      FailsCleanly u' slot v p ver name st' ↔ CarefulAlloc u' slot st') ∧
    (NamesAgree (inputInit u st).2.1 ∧
      (∀ e ∈ backend.trace (inputInit u st).2.1 cs, e.input.FailsCleanly e.pre ∧
        NamesAgree (backend.next e.pre e.input)) ↔
      ∀ e ∈ backend.trace (inputInit u st).2.1 cs, e.input.Careful e.pre) := by
  have hinit := namesAgree_init u st
  refine ⟨failsCleanly_iff, ?_⟩
  rw [and_iff_right hinit]
  exact careful_run_iff hinit cs

/-- A gamepad is plugged in on slot 0. -/
def plugged : State :=
  backend.final (inputInit ⟨3, true, true⟩ .boot).2.1 [.allocSlot ⟨4, true, true⟩ 0 1 1 1 none]

/-- It is to be replaced, and `open` fails. -/
theorem replacement_lost :
    ¬∀ (st : State), backend.Reachable (inputInit ⟨3, true, true⟩ .boot).2.1 st →
      ∀ (u : Uinput) (slot : UInt8) (v p ver : UInt16) (name : Option Bytes),
        FailsCleanly u slot v p ver name st := by
  intro h
  have hreach : backend.Reachable (inputInit ⟨3, true, true⟩ .boot).2.1 plugged :=
    ⟨_, by decide +kernel, rfl⟩
  have hf := h plugged hreach ⟨-1, false, false⟩ 0 1 1 1 none
  have hw := (failsCleanly_iff ..).mp hf 0 rfl (by decide +kernel)
  exact absurd hw.1 (by decide)

end Nearcade.Input
