import Nearcade.System.Invariants
import Mathlib.Data.Fintype.Card

/-!
# Viewers — Disconnect

`nearcade_disconnect_viewer` on any table of viewers that agrees with the slot manager
(`ViewersInv`).

* `Disconnected`: what goes with a viewer, and that nothing else does.
* `marked_of_reachable`: a slot without a device is marked by -1.
* `disconnect_viewer_frame`: the first active entry of the id goes, or nothing changes; the
  invariant stays, so it holds along every list of disconnects.
-/

namespace Nearcade
open Text Runs

/-! ### The tables -/

/-- The active entries of `viewers`. -/
def activeViewers (g : NearcadeState) : Finset (Fin maxViewers) :=
  Finset.univ.filter fun i => (g.viewers i).active

theorem mem_activeViewers {g : NearcadeState} {i : Fin maxViewers} :
    i ∈ activeViewers g ↔ (g.viewers i).active = true := by
  simp [activeViewers]

/-- The counter counts the active entries, and each of those has no slot or one of its own. -/
structure ViewersInv (g : NearcadeState) : Prop where
  count : g.numViewers = (activeViewers g).card
  backed : ∀ i, (g.viewers i).active = true → (g.viewers i).slot = -1 ∨
    ∃ k : Fin maxSlots, (g.viewers i).slot = (k.val : Int) ∧ g.slots.slotMap k = 1
  apart : ∀ i j, (g.viewers i).active = true → (g.viewers j).active = true →
    0 ≤ (g.viewers i).slot → (g.viewers i).slot = (g.viewers j).slot → i = j

/-- An active entry with the id. -/
def IsViewer (g : NearcadeState) (id : Bytes) (i : Fin maxViewers) : Prop :=
  (g.viewers i).active = true ∧ cstr (g.viewers i).id = id

theorem findViewer_eq_some_iff {g : NearcadeState} {id : Bytes} {i : Fin maxViewers} :
    findViewer g id = some i ↔ IsViewer g id i ∧ ∀ j < i, ¬ IsViewer g id j := by
  simp [findViewer, firstIdx_eq_some_iff, IsViewer]

theorem findViewer_eq_none_iff {g : NearcadeState} {id : Bytes} :
    findViewer g id = none ↔ ∀ i, ¬ IsViewer g id i := by
  simp [findViewer, firstIdx_eq_none_iff, IsViewer]

/-- A slot is freed, and its device goes. -/
structure SlotFreed (s s' : State) (fx : List Effect) (k : Fin maxSlots) : Prop where
  slots : s'.g.slots =
    { slotMap := Function.update s.g.slots.slotMap k 0
      slotViewers := Function.update s.g.slots.slotViewers k (List.replicate viewerIdLen 0) }
  fds : -1 ≤ s.inp.gpFds k → s'.inp.gpFds = Function.update s.inp.gpFds k (-1)
  destroyed : 0 ≤ s.inp.gpFds k →
    fx = [.uinputDestroy (s.inp.gpFds k), .close (s.inp.gpFds k)] ∧
      s'.inp = { s.inp with
        gpFds := Function.update s.inp.gpFds k (-1)
        gpNames := Function.update s.inp.gpNames k (List.replicate deviceNameLen 0)
        opened := s.inp.opened.erase (s.inp.gpFds k) }
  idle : s.inp.gpFds k < 0 → fx = [] ∧ s'.inp = s.inp

/-- The entry `i` goes, with its slot if it has one, and nothing else changes. -/
structure Disconnected (s s' : State) (fx : List Effect) (i : Fin maxViewers) : Prop where
  viewers : s'.g.viewers = Function.update s.g.viewers i { s.g.viewers i with active := false }
  count : s'.g.numViewers = s.g.numViewers - 1
  slotless : (s.g.viewers i).slot = -1 → s'.g.slots = s.g.slots ∧ s'.inp = s.inp ∧ fx = []
  slotted : ∀ k : Fin maxSlots, (s.g.viewers i).slot = (k.val : Int) → SlotFreed s s' fx k
  rest : s' = { s with
    inp := s'.inp
    g := { s.g with
      slots := s'.g.slots
      viewers := s'.g.viewers
      numViewers := s'.g.numViewers } }

/-! ### The slot of a viewer -/

/-- `(uint8_t)slot` is the slot; of -1 it is 255, which is none. -/
theorem slotOfByte_ofInt : (∀ k : Fin maxSlots,
    Input.slotOfByte (UInt8.ofInt (k.val : Int)) = some k) ∧
      Input.slotOfByte (UInt8.ofInt (-1)) = none := by
  decide

theorem slotRelease_neg (sm : SlotManager) : slotRelease sm (-1) = sm := rfl

/-- Releasing one slot leaves the others. -/
theorem slotRelease_map_of_ne {sm : SlotManager} {slot : Int} {k : Fin maxSlots}
    (h : slot ≠ (k.val : Int)) : (slotRelease sm slot).slotMap k = sm.slotMap k := by
  rw [slotRelease]
  cases hs : slotOfInt slot with
  | none => rfl
  | some j =>
      have hkj : k ≠ j := fun e => h (e ▸ slotOfInt_eq_some.mp hs)
      simp only
      split
      · rfl
      · exact Function.update_of_ne hkj _ _

theorem slotRelease_held {sm : SlotManager} {k : Fin maxSlots} (h : sm.slotMap k = 1) :
    slotRelease sm (k.val : Int) =
      { slotMap := Function.update sm.slotMap k 0
        slotViewers := Function.update sm.slotViewers k (List.replicate viewerIdLen 0) } := by
  rw [slotRelease, slotOfInt_eq_some.mpr rfl]
  exact if_neg (by rw [h]; decide)

/-- `input_free_slot` on a slot. -/
theorem inputFreeSlot_of {slot : UInt8} {k : Fin maxSlots} (hk : Input.slotOfByte slot = some k)
    (st : Input.State) :
    (Input.inputFreeSlot slot st).2 =
      if 0 ≤ st.gpFds k then
        ({ st with
            gpFds := Function.update st.gpFds k (-1)
            gpNames := Function.update st.gpNames k (List.replicate deviceNameLen 0)
            opened := st.opened.erase (st.gpFds k) },
          [.uinputDestroy (st.gpFds k), .close (st.gpFds k)])
      else (st, []) := by
  simp only [Input.inputFreeSlot, hk]
  split <;> rfl

/-! ### One disconnect -/

/-- What is left of `g_state` when the entry `i` is gone. -/
def withoutViewer (g : NearcadeState) (i : Fin maxViewers) : NearcadeState :=
  { g with
    slots := slotRelease g.slots (g.viewers i).slot
    viewers := Function.update g.viewers i { g.viewers i with active := false }
    numViewers := g.numViewers - 1 }

theorem disconnectViewer_some {s : State} {id : Bytes} {i : Fin maxViewers}
    (h : findViewer s.g id = some i) :
    (nearcadeDisconnectViewer s (some id)).2 =
      ({ s with
          inp := (Input.inputFreeSlot (UInt8.ofInt (s.g.viewers i).slot) s.inp).2.1
          g := withoutViewer s.g i },
        (Input.inputFreeSlot (UInt8.ofInt (s.g.viewers i).slot) s.inp).2.2) := by
  rw [nearcadeDisconnectViewer, h]
  rfl

theorem disconnectViewer_none {s : State} {id : Bytes} (h : findViewer s.g id = none) :
    (nearcadeDisconnectViewer s (some id)).2 = (s, []) := by
  rw [nearcadeDisconnectViewer, h]

theorem activeViewers_without (g : NearcadeState) (i : Fin maxViewers) :
    activeViewers (withoutViewer g i) = (activeViewers g).erase i := by
  ext j
  rw [Finset.mem_erase, mem_activeViewers, mem_activeViewers]
  by_cases hj : j = i
  · simp [withoutViewer, hj]
  · simp [withoutViewer, hj]

theorem active_without {g : NearcadeState} {i j : Fin maxViewers}
    (h : ((withoutViewer g i).viewers j).active = true) :
    j ≠ i ∧ (withoutViewer g i).viewers j = g.viewers j := by
  have hj : j ≠ i := by
    rintro rfl
    simp [withoutViewer] at h
  exact ⟨hj, Function.update_of_ne hj _ _⟩

/-- Without one active entry, the tables still agree. -/
theorem ViewersInv.without {g : NearcadeState} (h : ViewersInv g) {i : Fin maxViewers}
    (hi : (g.viewers i).active = true) : ViewersInv (withoutViewer g i) := by
  refine ⟨?_, fun j hj => ?_, fun j l hj hl h0 he => ?_⟩
  · have hcard := Finset.card_erase_add_one (mem_activeViewers.mpr hi)
    have hcount := h.count
    rw [activeViewers_without]
    show g.numViewers - 1 = _
    omega
  · obtain ⟨hne, e⟩ := active_without hj
    rw [e] at hj ⊢
    refine (h.backed j hj).imp_right fun ⟨k, hk, hmap⟩ => ⟨k, hk, ?_⟩
    -- the slot that was released is not this one, since no two share one
    have hslot : (g.viewers i).slot ≠ (k.val : Int) := fun e' =>
      hne (h.apart j i hj hi (hk ▸ Int.natCast_nonneg _) (hk.trans e'.symm))
    exact (slotRelease_map_of_ne hslot).trans hmap
  · obtain ⟨-, ej⟩ := active_without hj
    obtain ⟨-, el⟩ := active_without hl
    rw [ej] at hj h0 he
    rw [el] at hl he
    exact h.apart j l hj hl h0 he

/-- **One disconnect.** -/
theorem ViewersInv.disconnected {s : State} (h : ViewersInv s.g) {id : Bytes} {i : Fin maxViewers}
    (hi : findViewer s.g id = some i) :
    Disconnected s (nearcadeDisconnectViewer s (some id)).2.1
      (nearcadeDisconnectViewer s (some id)).2.2 i := by
  have hactive := (findViewer_eq_some_iff.mp hi).1.1
  rw [disconnectViewer_some hi]
  refine ⟨rfl, rfl, fun hs => ?_, fun k hk => ?_, rfl⟩
  · have hfree : (Input.inputFreeSlot (UInt8.ofInt (-1)) s.inp).2 = (s.inp, []) := by
      rw [Input.inputFreeSlot, slotOfByte_ofInt.2]
    simp only [withoutViewer, hs, hfree, slotRelease_neg, and_self]
  · -- the viewer's slot is held
    have hmap : s.g.slots.slotMap k = 1 := by
      rcases h.backed i hactive with e | ⟨j, e, hj⟩
      · rw [hk] at e
        omega
      · rw [hk] at e
        exact Fin.ext (Int.ofNat_inj.mp e) ▸ hj
    have hfree := inputFreeSlot_of (slotOfByte_ofInt.1 k) s.inp
    refine ⟨?_, fun hfd => ?_, fun h0 => ?_, fun h0 => ?_⟩ <;> simp only [withoutViewer, hk]
    · exact slotRelease_held hmap
    · rw [hfree]
      split
      · rfl
      · have e : s.inp.gpFds k = -1 := by omega
        rw [← e, Function.update_eq_self]
    · rw [hfree, if_pos h0]
      exact ⟨rfl, rfl⟩
    · rw [hfree, if_neg (Int.not_le.mpr h0)]
      exact ⟨rfl, rfl⟩

theorem ViewersInv.disconnect {s : State} (h : ViewersInv s.g) (id : Option Bytes) :
    ViewersInv (nearcadeDisconnectViewer s id).2.1.g := by
  cases id with
  | none => exact h
  | some id =>
      cases hi : findViewer s.g id with
      | none => rw [disconnectViewer_none hi]; exact h
      | some i =>
          rw [disconnectViewer_some hi]
          exact h.without (findViewer_eq_some_iff.mp hi).1.1

/-- A list of disconnects. -/
def disconnectAll (s : State) (ids : List (Option Bytes)) : State :=
  ids.foldl (fun s id => (nearcadeDisconnectViewer s id).2.1) s

theorem ViewersInv.disconnectAll {s : State} (h : ViewersInv s.g) (ids : List (Option Bytes)) :
    ViewersInv (Nearcade.disconnectAll s ids).g := by
  induction ids generalizing s with
  | nil => exact h
  | cons id ids ih => exact ih (h.disconnect id)

/-! ### Slots without a device -/

/-- A slot without a device is marked by -1. -/
def Marked (inp : Input.State) : Prop := ∀ k, -1 ≤ inp.gpFds k

theorem Marked.destroyGp {inp : Input.State} (h : Marked inp) (k : Fin maxSlots) :
    Marked (Input.destroyGp inp k).1 := by
  intro j
  simp only [Input.destroyGp]
  by_cases hj : j = k
  · rw [hj, Function.update_self]
  · rw [Function.update_of_ne hj]
    exact h j

theorem Marked.free {inp : Input.State} (h : Marked inp) (slot : UInt8) :
    Marked (Input.inputFreeSlot slot inp).2.1 := by
  rw [Input.inputFreeSlot]
  split
  · exact h
  · rename_i k _
    split
    · exact h.destroyGp k
    · exact h

theorem Marked.shutdownSlots {inp : Input.State} (h : Marked inp) :
    ∀ l, Marked (Input.shutdownSlots l inp).1
  | [] => h
  | k :: l => by
      rw [Input.shutdownSlots]
      split
      · exact (h.destroyGp k).shutdownSlots l
      · exact h.shutdownSlots l

theorem Marked.shutdown {inp : Input.State} (h : Marked inp) :
    Marked (Input.inputShutdown inp).1 := by
  have hs := h.shutdownSlots (List.finRange maxSlots)
  simp only [Input.inputShutdown]
  split
  · exact hs
  · exact hs

theorem marked_inputInit (u : Input.Uinput) (inp : Input.State) :
    Marked (Input.inputInit u inp).2.1 := by
  intro k
  simp only [Input.inputInit, Input.createKbmDevice]
  split
  · exact Int.le_refl _
  · split <;> exact Int.le_refl _

theorem marked_of_reachable {ov : Int → Int} {w : World} (h : (system ov).Reachable .boot w) :
    Marked w.sdk.inp := by
  have hboot : Marked World.boot.sdk.inp := fun _ => show (-1 : Int) ≤ 0 by decide
  refine h.of_invariant (I := fun w => Marked w.sdk.inp) hboot fun w i hw he => ?_
  cases i with
  | call c =>
      show Marked (c.run ov w.sdk).1.inp
      rcases Call.inp_cases ov he with e | ⟨u, -, e | e⟩ | e | ⟨slot, e⟩ <;> rw [e]
      · exact hw
      · exact marked_inputInit u _
      · exact (marked_inputInit u _).shutdown
      · exact hw.shutdown
      · exact hw.free slot
  | net n =>
      show Marked (n.run ov w.sdk).1.inp
      rw [(Net.frame w.sdk n).2]
      exact hw

/-! ### The result -/

/-- **What `nearcade_disconnect_viewer` touches.**  The last part: the slots of `gp_fds` are never
below -1, so that the entry of a freed slot is -1 (`SlotFreed.fds`). -/
theorem disconnect_viewer_frame {s : State} (h : ViewersInv s.g) :
    (∀ id, let r := nearcadeDisconnectViewer s (some id)
      (∃ i, IsViewer s.g id i ∧ (∀ j < i, ¬ IsViewer s.g id j) ∧ Disconnected s r.2.1 r.2.2 i) ∨
        ((∀ i, ¬ IsViewer s.g id i) ∧ r.2 = (s, []))) ∧
    (∀ ids, ViewersInv (disconnectAll s ids).g) ∧
    ∀ ov w, (system ov).Reachable .boot w → Marked w.sdk.inp := by
  refine ⟨fun id => ?_, h.disconnectAll, fun ov w hw => marked_of_reachable hw⟩
  cases hi : findViewer s.g id with
  | some i =>
      obtain ⟨hv, hlt⟩ := findViewer_eq_some_iff.mp hi
      exact .inl ⟨i, hv, hlt, h.disconnected hi⟩
  | none => exact .inr ⟨findViewer_eq_none_iff.mp hi, disconnectViewer_none hi⟩

/-- Two players, on the slots 0 and 3, of which one has a device. -/
def State.twoPlayers : State :=
  let player (name : String) (slot : Int) : ViewerInfo :=
    { ViewerInfo.zero with
      id := bytes name ++ List.replicate (viewerIdLen - name.length) 0
      slot := slot
      active := true }
  let k : Fin maxSlots := 3
  { State.boot with
    g := { NearcadeState.zero with
      numViewers := 2
      viewers := fun i =>
        if i.val = 0 then player "viewer_0" 0 else if i.val = 5 then player "viewer_5" 3 else .zero
      slots := { SlotManager.zero with slotMap := fun i => if i.val = 0 ∨ i = k then 1 else 0 } }
    inp := { Input.State.boot with gpFds := fun i => if i = k then 9 else -1 } }

theorem disconnect_viewer_frame_twoPlayers :
    (∃ i, IsViewer State.twoPlayers.g (bytes "viewer_5") i ∧
      (∀ j < i, ¬ IsViewer State.twoPlayers.g (bytes "viewer_5") j) ∧
      Disconnected State.twoPlayers
        (nearcadeDisconnectViewer State.twoPlayers (some (bytes "viewer_5"))).2.1
        (nearcadeDisconnectViewer State.twoPlayers (some (bytes "viewer_5"))).2.2 i) := by
  have h : ViewersInv State.twoPlayers.g :=
    ⟨by decide +kernel, by decide +kernel, by decide +kernel⟩
  rcases (disconnect_viewer_frame h).1 (bytes "viewer_5") with hi | ⟨hn, -⟩
  · exact hi
  · exact absurd (show IsViewer State.twoPlayers.g (bytes "viewer_5") 5 by
      unfold IsViewer; decide +kernel) (hn 5)

end Nearcade
