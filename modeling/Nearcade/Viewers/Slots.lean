import Nearcade.Support.Allocation
import Nearcade.Source.Internal

/-!
# Viewers — Slots

The slot manager by itself: `slotTable` is the machine whose steps are `slot_claim` and
`slot_release`, with any arguments.  Its purpose is that of an allocator of the slots
(`Support/Allocation.lean`): each slot is free or has an owner.

* `Represents`: a free slot is all zeros, a held one has its owner's text, padded with NULs.
* `slot_manager_refines`: every run of the two functions is a run of the allocator.
-/

namespace Nearcade
open Text Runs Allocation

/-- The part of an id that `slot_claim` records. -/
def ownerOf (id : Bytes) : Bytes := id.take (viewerIdLen - 1)

/-- The buffer of an owner. -/
def ownerBuf (owner : Bytes) : Bytes := owner ++ List.replicate (viewerIdLen - owner.length) 0

/-- The calls. -/
inductive SlotCall where
  | claim (viewerId : Option Bytes)
  | release (slot : Int)

/-- What a call did: the slot `slot_claim` returned, or the one `slot_release` freed. -/
def SlotCall.outcome (sm : SlotManager) : SlotCall → Outcome maxSlots
  | .claim id =>
      match (slotClaim sm id).1 with
      | some k => .handed k
      | none => .refused
  | .release slot =>
      match slotOfInt slot with
      | some k => if sm.slotMap k = 0 then .kept else .freed k
      | none => .kept

/-- **The slot manager.**  An id is a C string. -/
def slotTable : Machine SlotManager SlotCall (Outcome maxSlots) where
  enabled _
    | .claim id => ∀ s ∈ id, 0 ∉ s
    | .release _ => True
  next sm
    | .claim id => (slotClaim sm id).2
    | .release slot => slotRelease sm slot
  out sm c := [c.outcome sm]

/-- The request a call makes of the allocator. -/
def SlotCall.request : SlotCall → Request maxSlots Bytes
  | .claim id => .claim (id.map ownerOf)
  | .release slot => .release (slotOfInt slot)

/-! ### The representation -/

/-- The slots and their owners, as the slot manager holds them. -/
structure Represents (sm : SlotManager) (t : Fin maxSlots → Option Bytes) : Prop where
  free : ∀ k, t k = none → sm.slotMap k = 0 ∧ sm.slotViewers k = List.replicate viewerIdLen 0
  held : ∀ k owner, t k = some owner →
    sm.slotMap k = 1 ∧ sm.slotViewers k = ownerBuf owner ∧ owner.length < viewerIdLen ∧ 0 ∉ owner

theorem represents_zero : Represents .zero nothing := ⟨fun _ _ => ⟨rfl, rfl⟩, nofun⟩

section
variable {sm : SlotManager} {t : Fin maxSlots → Option Bytes} (h : Represents sm t)
include h

theorem Represents.map_eq_zero_iff (k : Fin maxSlots) : sm.slotMap k = 0 ↔ t k = none := by
  cases hk : t k with
  | none => simp [(h.free k hk).1]
  | some owner => simp [(h.held k owner hk).1]

theorem Represents.map_eq_one_iff (k : Fin maxSlots) : sm.slotMap k = 1 ↔ t k ≠ none := by
  cases hk : t k with
  | none => simp [(h.free k hk).1]
  | some owner => simp [(h.held k owner hk).1]

/-- The loop of `slot_claim` stops at the least free slot. -/
theorem Represents.firstIdx_eq :
    firstIdx (fun i => decide (sm.slotMap i = 0)) = least t := by
  cases hl : least t with
  | some k =>
      obtain ⟨hk, hlt⟩ := least_eq_some_iff.mp hl
      refine firstIdx_eq_some_iff.mpr ⟨by simpa [h.map_eq_zero_iff] using hk, fun j hj => ?_⟩
      simpa [h.map_eq_zero_iff] using hlt j hj
  | none =>
      refine firstIdx_eq_none_iff.mpr fun k => ?_
      simpa [h.map_eq_zero_iff] using least_eq_none_iff.mp hl k

/-- The buffer of a free slot takes an owner, whatever follows in the id. -/
theorem Represents.strncpy_free {k : Fin maxSlots} (hk : t k = none) (id : Bytes) :
    strncpy (sm.slotViewers k) id (viewerIdLen - 1) = ownerBuf (ownerOf id) := by
  rw [(h.free k hk).2]
  exact strncpy_zeros (Nat.sub_le ..) id

/-- **What `slot_claim` does.** -/
theorem Represents.slotClaim_eq (id : Bytes) :
    slotClaim sm (some id) =
      match least t with
      | some k =>
          (some k,
            { slotMap := Function.update sm.slotMap k 1
              slotViewers := Function.update sm.slotViewers k (ownerBuf (ownerOf id)) })
      | none => (none, sm) := by
  simp only [slotClaim, h.firstIdx_eq]
  cases hl : least t with
  | none => rfl
  | some k => simp only [h.strncpy_free (least_eq_some_iff.mp hl).1]

/-- **What `slot_release` does.** -/
theorem Represents.slotRelease_eq (slot : Int) :
    slotRelease sm slot =
      match slotOfInt slot with
      | some k =>
          if t k = none then sm
          else
            { slotMap := Function.update sm.slotMap k 0
              slotViewers := Function.update sm.slotViewers k (List.replicate viewerIdLen 0) }
      | none => sm := by
  rw [slotRelease]
  cases slotOfInt slot with
  | none => rfl
  | some k => simp only [h.map_eq_zero_iff]

/-- Giving a free slot an owner. -/
theorem Represents.store {k : Fin maxSlots} {owner : Bytes} (hlen : owner.length < viewerIdLen)
    (hnul : 0 ∉ owner) :
    Represents
      { slotMap := Function.update sm.slotMap k 1
        slotViewers := Function.update sm.slotViewers k (ownerBuf owner) }
      (Function.update t k (some owner)) := by
  constructor
  · intro j hj
    by_cases hjk : j = k
    · rw [hjk, Function.update_self] at hj
      cases hj
    · rw [Function.update_of_ne hjk] at hj
      simpa only [Function.update_of_ne hjk] using h.free j hj
  · intro j o hj
    by_cases hjk : j = k
    · subst hjk
      rw [Function.update_self] at hj
      obtain rfl := Option.some.inj hj
      simpa only [Function.update_self] using ⟨trivial, trivial, hlen, hnul⟩
    · rw [Function.update_of_ne hjk] at hj
      simpa only [Function.update_of_ne hjk] using h.held j o hj

/-- Taking the owner of a slot away. -/
theorem Represents.clear (k : Fin maxSlots) :
    Represents
      { slotMap := Function.update sm.slotMap k 0
        slotViewers := Function.update sm.slotViewers k (List.replicate viewerIdLen 0) }
      (Function.update t k none) := by
  constructor
  · intro j hj
    by_cases hjk : j = k
    · simp only [hjk, Function.update_self, and_self]
    · rw [Function.update_of_ne hjk] at hj
      simpa only [Function.update_of_ne hjk] using h.free j hj
  · intro j o hj
    have hjk : j ≠ k := by
      rintro rfl
      rw [Function.update_self] at hj
      cases hj
    rw [Function.update_of_ne hjk] at hj
    simpa only [Function.update_of_ne hjk] using h.held j o hj

/-- **A call is a request of the allocator.** -/
theorem Represents.step {c : SlotCall} (hc : slotTable.enabled sm c) :
    c.outcome sm = outcome t c.request ∧ Represents (slotTable.next sm c) (answer t c.request) := by
  match c with
  | .claim none => exact ⟨rfl, h⟩
  | .claim (some id) =>
      have hid : 0 ∉ id := hc id rfl
      have hlen : (ownerOf id).length < viewerIdLen :=
        Nat.lt_of_le_of_lt (List.length_take_le ..) (by decide)
      have hnul : 0 ∉ ownerOf id := fun hm => hid (List.mem_of_mem_take hm)
      simp only [SlotCall.outcome, SlotCall.request, slotTable, h.slotClaim_eq, Option.map_some,
        outcome, answer]
      cases hl : least t with
      | none => exact ⟨rfl, h⟩
      | some k => exact ⟨rfl, h.store hlen hnul⟩
  | .release slot =>
      simp only [SlotCall.outcome, SlotCall.request, slotTable, h.slotRelease_eq]
      cases slotOfInt slot with
      | none => exact ⟨rfl, h⟩
      | some k =>
          simp only [h.map_eq_zero_iff, outcome, answer]
          cases hk : t k with
          | none =>
              have e : Function.update t k none = t := by
                rw [← hk, Function.update_eq_self]
              exact ⟨rfl, by rw [e]; exact h⟩
          | some owner => exact ⟨rfl, h.clear k⟩

end

/-! ### The slot manager -/

/-- What the two functions do in a state. -/
structure SlotSpec (sm : SlotManager) : Prop where
  /-- The least free slot gets the first 63 bytes of the id, and a NUL; or all are held. -/
  claim : ∀ id, 0 ∉ id →
    (∃ k, sm.slotMap k = 0 ∧ (∀ j < k, sm.slotMap j = 1) ∧
      slotClaim sm (some id) =
        (some k,
          { slotMap := Function.update sm.slotMap k 1
            slotViewers := Function.update sm.slotViewers k (ownerBuf (ownerOf id)) }) ∧
      cstr (ownerBuf (ownerOf id)) = id.take 63) ∨
    ((∀ k, sm.slotMap k = 1) ∧ slotClaim sm (some id) = (none, sm))
  claimNull : slotClaim sm none = (none, sm)
  /-- A held slot is freed, and no other number does anything. -/
  release : ∀ slot : Int,
    (∃ k : Fin maxSlots, slot = (k.val : Int) ∧ sm.slotMap k = 1 ∧
      slotRelease sm slot =
        { slotMap := Function.update sm.slotMap k 0
          slotViewers := Function.update sm.slotViewers k (List.replicate viewerIdLen 0) }) ∨
    ((∀ k : Fin maxSlots, slot = (k.val : Int) → sm.slotMap k = 0) ∧ slotRelease sm slot = sm)

/-- What came of the calls says which slots are held. -/
structure SlotAccount (os : List (Outcome maxSlots)) (sm : SlotManager) : Prop where
  bits : ∀ k, sm.slotMap k = 0 ∨ sm.slotMap k = 1
  holds : ∀ k, sm.slotMap k = 1 ↔ Holds os k
  freedBetween : FreedBetween os
  count : ((Finset.univ.filter fun k => sm.slotMap k = 1).card : Int) =
    (handedCount os : Int) - (freedCount os : Int)

theorem Represents.spec {sm : SlotManager} {t : Fin maxSlots → Option Bytes}
    (h : Represents sm t) : SlotSpec sm := by
  refine ⟨fun id hid => ?_, rfl, fun slot => ?_⟩
  · rw [h.slotClaim_eq]
    cases hl : least t with
    | some k =>
        obtain ⟨hk, hlt⟩ := least_eq_some_iff.mp hl
        refine .inl ⟨k, (h.map_eq_zero_iff k).mpr hk, fun j hj => ?_, rfl, ?_⟩
        · exact (h.map_eq_one_iff j).mpr (hlt j hj)
        · exact cstr_padded (fun hm => hid (List.mem_of_mem_take hm)) _
    | none =>
        exact .inr ⟨fun k => (h.map_eq_one_iff k).mpr (least_eq_none_iff.mp hl k), rfl⟩
  · rw [h.slotRelease_eq]
    cases hs : slotOfInt slot with
    | none =>
        refine .inr ⟨fun k hk => ?_, rfl⟩
        rw [slotOfInt_eq_some.mpr hk] at hs
        cases hs
    | some k =>
        have hk := slotOfInt_eq_some.mp hs
        by_cases ht : t k = none
        · refine .inr ⟨fun j hj => ?_, if_pos ht⟩
          have hjk : j = k := Fin.ext (Int.ofNat_inj.mp (hj.symm.trans hk))
          rw [hjk, h.map_eq_zero_iff]
          exact ht
        · exact .inl ⟨k, hk, (h.map_eq_one_iff k).mpr ht, if_neg ht⟩

theorem Represents.account {sm : SlotManager} {t : Fin maxSlots → Option Bytes}
    (h : Represents sm t) {os : List (Outcome maxSlots)} (ha : Tallied os t) :
    SlotAccount os sm := by
  have hheld : (Finset.univ.filter fun k => sm.slotMap k = 1) = Table.used t := by
    ext k
    rw [Finset.mem_filter, Table.mem_used, h.map_eq_one_iff, Option.isSome_iff_ne_none]
    exact and_iff_right (Finset.mem_univ k)
  refine ⟨fun k => ?_, fun k => (h.map_eq_one_iff k).trans (ha.holds k).symm, ha.freedBetween, ?_⟩
  · rw [h.map_eq_zero_iff, h.map_eq_one_iff]
    exact em _
  · have := ha.count
    rw [hheld]
    omega

/-- **The slot manager is an allocator of the slots.**  A run of `slot_claim` and `slot_release`
does what the allocator does on the same requests. -/
theorem slot_manager_refines {cs : List SlotCall} (hv : slotTable.Valid .zero cs) :
    let rs := cs.map SlotCall.request
    outputs (slotTable.trace .zero cs) = outputs ((allocator maxSlots Bytes).trace nothing rs) ∧
      Represents (slotTable.final .zero cs) ((allocator maxSlots Bytes).final nothing rs) ∧
      SlotSpec (slotTable.final .zero cs) ∧
      SlotAccount (outputs (slotTable.trace .zero cs)) (slotTable.final .zero cs) := by
  intro rs
  obtain ⟨-, hout, hrep⟩ := Machine.simulate_map (M := allocator maxSlots Bytes)
    (R := Represents) (f := SlotCall.request) (fun sm t c h hc => by
      obtain ⟨ha, hr⟩ := h.step hc
      exact ⟨trivial, congrArg (fun a => [a]) ha, hr⟩) represents_zero hv
  exact ⟨hout, hrep, hrep.spec, hrep.account (hout ▸ tallied_run rs)⟩

/-- A slot is claimed under a long id, released and claimed again. -/
theorem slot_manager_refines_reuse :
    let cs : List SlotCall :=
      [.claim (some (List.replicate 100 65)), .release 0, .claim (some (bytes "b")), .claim none]
    SlotAccount (outputs (slotTable.trace .zero cs)) (slotTable.final .zero cs) :=
  (slot_manager_refines (by simp [Machine.Valid, slotTable, bytes, byteOf])).2.2.2

end Nearcade
