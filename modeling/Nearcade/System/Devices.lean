import Nearcade.System.Invariants

/-!
# System — Devices

The slot table and the device table under the functions that fill and empty them: `slot_claim`,
`slot_release`, `input_alloc_slot` and `input_free_slot`, in any order and with any arguments.  The
SDK itself calls two of them, and only where `nearcade_disconnect_viewer` finds a viewer.

* `Ledger`: no two devices share a descriptor, and the descriptor of a device is open.  It holds in
  every run of the tables (`ledger_of_reached`), and every call of the SDK keeps it (`Ledger.call`).
-/

namespace Nearcade
open Text Runs

/-! ### The tables -/

/-- `slots`, and the statics of the input backend. -/
structure Tables where
  slots : SlotManager
  inp : Input.State

/-- The functions that change the tables. -/
inductive TableStep where
  | claim (viewerId : Option Bytes)
  | release (slot : Int)
  | alloc (u : Input.Uinput) (slot : UInt8) (vendor product version : UInt16)
      (name : Option Bytes)
  | free (slot : UInt8)

/-- The kernel opens no descriptor that is open when `input_alloc_slot` asks for one, which is
after it closed the one on the slot. -/
def AllocEnabled (inp : Input.State) (u : Input.Uinput) (slot : UInt8) : Prop :=
  ∀ k, Input.slotOfByte slot = some k → u.Fresh (Input.evictGp inp k).1

instance (inp : Input.State) (u : Input.Uinput) (slot : UInt8) :
    Decidable (AllocEnabled inp u slot) :=
  inferInstanceAs (Decidable (∀ k, Input.slotOfByte slot = some k → _))

/-- **The tables.** -/
def tables : Machine Tables TableStep Effect where
  enabled t
    | .alloc u slot .. => AllocEnabled t.inp u slot
    | _ => True
  next t
    | .claim id => { t with slots := (slotClaim t.slots id).2 }
    | .release slot => { t with slots := slotRelease t.slots slot }
    | .alloc u slot v p ver name =>
        { t with inp := (Input.inputAllocSlot u slot v p ver name t.inp).2.1 }
    | .free slot => { t with inp := (Input.inputFreeSlot slot t.inp).2.1 }
  out t
    | .alloc u slot v p ver name => (Input.inputAllocSlot u slot v p ver name t.inp).2.2
    | .free slot => (Input.inputFreeSlot slot t.inp).2.2
    | _ => []

instance (t : Tables) : ∀ i : TableStep, Decidable (tables.enabled t i)
  | .alloc u slot _ _ _ _ => inferInstanceAs (Decidable (AllocEnabled t.inp u slot))
  | .claim _ | .release _ | .free _ => isTrue trivial

/-- The tables that runs reach from those `nearcade_init` leaves. -/
def TablesReached (t : Tables) : Prop :=
  ∃ (u : Input.Uinput) (inp : Input.State),
    tables.Reachable ⟨.zero, (Input.inputInit u inp).2.1⟩ t

/-! ### Descriptors -/

/-- Every device has an open descriptor of its own. -/
structure Ledger (inp : Input.State) : Prop where
  gp : ∀ k, 0 ≤ inp.gpFds k → inp.gpFds k ∈ inp.opened
  kbm : 0 ≤ inp.kbmFd → inp.kbmFd ∈ inp.opened
  apart : ∀ j k, 0 ≤ inp.gpFds j → inp.gpFds j = inp.gpFds k → j = k
  apartKbm : ∀ k, 0 ≤ inp.gpFds k → inp.gpFds k ≠ inp.kbmFd

theorem ledger_inputInit (u : Input.Uinput) (inp : Input.State) :
    Ledger (Input.inputInit u inp).2.1 := by
  have hno : ∀ k, ¬ 0 ≤ (Input.inputInit u inp).2.1.gpFds k := fun k =>
    Int.not_le.mpr (noDevice_inputInit u inp k)
  refine ⟨fun k h => absurd h (hno k), ?_, fun j _ h => absurd h (hno j),
    fun k h => absurd h (hno k)⟩
  simp only [Input.inputInit, Input.createKbmDevice]
  split
  · rename_i hu
    exact fun h => absurd h (Int.not_le.mpr hu)
  · split
    · exact fun _ => Finset.mem_insert_self _ _
    · exact fun h => absurd h (Int.not_le.mpr (Int.negSucc_lt_zero 0))

/-- A device that goes takes its descriptor with it. -/
theorem Ledger.destroyGp {inp : Input.State} (h : Ledger inp) {k : Fin maxSlots}
    (hk : 0 ≤ inp.gpFds k) : Ledger (Input.destroyGp inp k).1 := by
  -- the slots that still have a device are the others
  have hne : ∀ j, 0 ≤ Function.update inp.gpFds k (-1) j →
      j ≠ k ∧ Function.update inp.gpFds k (-1) j = inp.gpFds j := fun j hj => by
    by_cases e : j = k
    · subst e
      rw [Function.update_self] at hj
      exact absurd hj (Int.not_le.mpr (Int.negSucc_lt_zero 0))
    · exact ⟨e, Function.update_of_ne e _ _⟩
  refine ⟨fun j hj => ?_, fun hj => ?_, fun i j hi hij => ?_, fun j hj => ?_⟩
  · obtain ⟨e, he⟩ := hne j hj
    simp only [Input.destroyGp, he] at hj ⊢
    exact Finset.mem_erase.mpr ⟨fun hjk => e (h.apart j k hj hjk), h.gp j hj⟩
  · exact Finset.mem_erase.mpr ⟨(h.apartKbm k hk).symm, h.kbm hj⟩
  · obtain ⟨-, hi'⟩ := hne i hi
    obtain ⟨-, hj'⟩ := hne j (hi.trans_eq hij)
    simp only [Input.destroyGp, hi', hj'] at hi hij
    exact h.apart i j hi hij
  · obtain ⟨-, hj'⟩ := hne j hj
    simp only [Input.destroyGp, hj'] at hj ⊢
    exact h.apartKbm j hj

theorem Ledger.evictGp {inp : Input.State} (h : Ledger inp) (k : Fin maxSlots) :
    Ledger (Input.evictGp inp k).1 := by
  rw [Input.evictGp]
  split
  · rename_i hk
    exact h.destroyGp hk
  · exact h

theorem Ledger.free {inp : Input.State} (h : Ledger inp) (slot : UInt8) :
    Ledger (Input.inputFreeSlot slot inp).2.1 := by
  rw [Input.inputFreeSlot]
  split
  · exact h
  · split
    · rename_i hk
      have hd := h.destroyGp hk
      exact ⟨hd.gp, hd.kbm, hd.apart, hd.apartKbm⟩
    · exact h

/-- A new device has a descriptor no other has, since those are open. -/
theorem Ledger.insert {inp : Input.State} (h : Ledger inp) {fd : Int} (h0 : 0 ≤ fd)
    (hfd : fd ∉ inp.opened) (k : Fin maxSlots) (names : Fin maxSlots → Bytes) :
    Ledger { inp with
      gpFds := Function.update inp.gpFds k fd
      gpNames := names
      opened := Insert.insert fd inp.opened } := by
  have hold : ∀ j, j ≠ k → Function.update inp.gpFds k fd j = inp.gpFds j := fun j e =>
    Function.update_of_ne e _ _
  have hnew : ∀ j, 0 ≤ inp.gpFds j → inp.gpFds j ≠ fd := fun j hj e => hfd (e ▸ h.gp j hj)
  refine ⟨fun j hj => ?_, fun hj => Finset.mem_insert_of_mem (h.kbm hj), fun i j hi hij => ?_,
    fun j hj => ?_⟩
  · dsimp only at hj ⊢
    by_cases e : j = k
    · subst e
      rw [Function.update_self]
      exact Finset.mem_insert_self _ _
    · rw [hold j e] at hj ⊢
      exact Finset.mem_insert_of_mem (h.gp j hj)
  · dsimp only at hi hij
    by_cases ei : i = k <;> by_cases ej : j = k
    · rw [ei, ej]
    · subst ei
      rw [Function.update_self, hold j ej] at hij
      exact absurd hij.symm (hnew j (hij ▸ h0))
    · subst ej
      rw [hold i ei] at hi
      rw [Function.update_self, hold i ei] at hij
      exact absurd hij (hnew i hi)
    · rw [hold i ei] at hi
      rw [hold i ei, hold j ej] at hij
      exact h.apart i j hi hij
  · dsimp only at hj ⊢
    by_cases e : j = k
    · subst e
      rw [Function.update_self]
      exact fun hk => hfd (hk ▸ h.kbm (hk ▸ h0))
    · rw [hold j e] at hj ⊢
      exact h.apartKbm j hj

theorem Ledger.alloc {inp : Input.State} (h : Ledger inp) {u : Input.Uinput} {slot : UInt8}
    (hu : AllocEnabled inp u slot) (v p ver : UInt16) (name : Option Bytes) :
    Ledger (Input.inputAllocSlot u slot v p ver name inp).2.1 := by
  rw [Input.inputAllocSlot]
  split
  · exact h
  · rename_i k hk
    -- the descriptor is new among those that are open after the eviction
    have he := h.evictGp k
    have hfresh := hu k hk
    simp only
    split
    · exact he
    · rename_i h0
      have h0 := Int.not_lt.mp h0
      split
      · exact he.insert h0 (hfresh h0) k _
      · exact he

theorem Ledger.shutdownSlots {inp : Input.State} (h : Ledger inp) :
    ∀ l, Ledger (Input.shutdownSlots l inp).1
  | [] => h
  | k :: l => by
      rw [Input.shutdownSlots]
      split
      · rename_i hk
        exact (h.destroyGp hk).shutdownSlots l
      · exact h.shutdownSlots l

/-- The keyboard and mouse device goes. -/
theorem Ledger.closeKbm {inp : Input.State} (h : Ledger inp) :
    Ledger { inp with kbmFd := -1, opened := inp.opened.erase inp.kbmFd } := by
  have hneg : ¬ (0 : Int) ≤ -1 := Int.not_le.mpr (Int.negSucc_lt_zero 0)
  refine ⟨fun j hj => ?_, fun hj => absurd hj hneg, h.apart, fun j hj e => ?_⟩
  · exact Finset.mem_erase.mpr ⟨h.apartKbm j hj, h.gp j hj⟩
  · exact hneg (hj.trans_eq e)

theorem Ledger.shutdown {inp : Input.State} (h : Ledger inp) :
    Ledger (Input.inputShutdown inp).1 := by
  have hs := h.shutdownSlots (List.finRange maxSlots)
  simp only [Input.inputShutdown]
  split
  · exact hs.closeKbm
  · exact hs

/-! ### Runs -/

/-- Every run of the tables keeps the descriptors apart. -/
theorem ledger_of_reached {t : Tables} (h : TablesReached t) : Ledger t.inp := by
  obtain ⟨u, inp, hr⟩ := h
  refine hr.of_invariant (I := fun t => Ledger t.inp) (ledger_inputInit u inp) ?_
  intro t i ht he
  cases i with
  | claim id | release slot => exact ht
  | alloc u slot v p ver name => exact ht.alloc he v p ver name
  | free slot => exact ht.free slot

theorem Ledger.call {ov : Int → Int} {s : State} (h : Ledger s.inp) {c : Call}
    (he : c.Enabled s) : Ledger (c.run ov s).1.inp := by
  rcases Call.inp_cases ov he with e | ⟨u, -, e | e⟩ | e | ⟨slot, e⟩ <;> rw [e]
  · exact h
  · exact ledger_inputInit u _
  · exact (ledger_inputInit u _).shutdown
  · exact h.shutdown
  · exact h.free slot

/-- A step of the SDK keeps the descriptors apart. -/
theorem Ledger.next {ov : Int → Int} {w : World} (h : Ledger w.sdk.inp) {i : Input}
    (he : (system ov).enabled w i) : Ledger ((system ov).next w i).sdk.inp := by
  cases i with
  | call c => exact h.call he
  | net n =>
      show Ledger (n.run ov w.sdk).1.inp
      rw [(Net.frame w.sdk n).2]
      exact h

end Nearcade
