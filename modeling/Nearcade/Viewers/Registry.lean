import Nearcade.System.Events

/-!
# Viewers — Registry

The viewers an application has been told of, and what the SDK keeps of them: an entry of
`g_state.viewers`, and a controller slot with a device behind it.

`Announced` viewers are those whose last event is a VIEWER_JOINED; `Playing` ones are those that
were not disconnected through the API since.  `RegistryAgrees` and `SlotsBacked` say what the
public API and the input lane owe them.

* `registry_agrees_iff`, `slots_backed_iff`: nothing ever enters either table, so both hold just
  while there is nobody to keep.
-/

namespace Nearcade
open Text Runs

/-! ### The registry -/

/-- The viewers announced by VIEWER_JOINED and not yet by VIEWER_LEFT. -/
def Announced (t : Trace) (id : Bytes) : Prop := (joinLeft t id).getLast? = some true

/-- The ids of the active entries of `g_state.viewers`. -/
def activeIds (g : NearcadeState) : List Bytes :=
  ((List.finRange maxViewers).filter fun i => (g.viewers i).active).map fun i =>
    cstr (g.viewers i).id

/-- What the public API says of the viewers, when they are those of a list. -/
structure Registers (g : NearcadeState) (present : List Bytes) : Prop where
  entries : (activeIds g).Perm present
  count : g.numViewers = (present.length : Int)
  inputMode : ∀ id mode,
    (nearcadeSetViewerInputMode g (some id) mode).1 = .ok ↔ id ∈ present
  controllerType : ∀ id ctrl,
    (nearcadeSetControllerType g (some id) ctrl).1 = .ok ↔ id ∈ present
  streaming : fired (nearcadeStartStreaming g).2.2 = [.streaming (present.length : Int)]

/-- The public API speaks of the announced viewers, each once. -/
def RegistryAgrees (t : Trace) (g : NearcadeState) : Prop :=
  ∃ present : List Bytes, present.Nodup ∧ (∀ id, id ∈ present ↔ Announced t id) ∧
    Registers g present

/-- The empty registry is that of no viewers. -/
theorem Registry.Empty.registers {g : NearcadeState} (h : Registry.Empty g)
    {present : List Bytes} : Registers g present ↔ present = [] := by
  have hset : ∀ id f, (Nearcade.setViewer g (some id) f).1 ≠ .ok := fun id f => by
    rw [h.setViewer]
    exact nofun
  constructor
  · intro hr
    refine List.eq_nil_iff_forall_not_mem.mpr fun id hid => ?_
    exact hset id _ ((hr.inputMode id .gamepad).mpr hid)
  · rintro rfl
    have hnil : activeIds g = [] := by
      rw [activeIds, List.map_eq_nil_iff, List.filter_eq_nil_iff]
      intro i _
      rw [h.inactive i]
      exact Bool.false_ne_true
    refine ⟨hnil ▸ .refl _, h.count, ?_, ?_, rfl⟩
    · exact fun id mode => iff_of_false (hset id _) List.not_mem_nil
    · exact fun id ctrl => iff_of_false (hset id _) List.not_mem_nil

section
variable {ov : Int → Int} {w : World} {is : List Input}

/-- Only an index of the viewer table is announced. -/
theorem announced_iff (h : Started ov w) (hv : (system ov).Valid w is) (id : Bytes) :
    Announced ((system ov).trace w is) id ↔ ∃ i : Fin maxViewers, id = viewerId (i.val : Int) ∧
      (reports ((system ov).trace w is) (i.val : Int)).getLast? = some true := by
  constructor
  · intro ha
    rw [Announced] at ha
    obtain ⟨i, hid, e⟩ | e := joinLeft_cases h hv id <;> rw [e] at ha
    · exact ⟨i, hid, ha⟩
    · cases ha
  · rintro ⟨i, rfl, hr⟩
    rw [Announced, joinLeft_eq h hv i]
    exact hr

/-- **The registry agrees just while nobody was reported connected last.** -/
theorem registry_agrees_iff (h : Started ov w) (hv : (system ov).Valid w is) :
    RegistryAgrees ((system ov).trace w is) ((system ov).final w is).sdk.g ↔
      ∀ i : Fin maxViewers,
        (reports ((system ov).trace w is) (i.val : Int)).getLast? ≠ some true := by
  have hempty := (h.inv_final hv).registry
  constructor
  · -- the registry is that of no viewers, so nobody may be announced
    rintro ⟨present, -, hp, hr⟩ i hi
    obtain rfl := hempty.registers.mp hr
    exact List.not_mem_nil ((hp _).mpr ((announced_iff h hv _).mpr ⟨i, rfl, hi⟩))
  · intro hn
    refine ⟨[], List.nodup_nil, fun id => iff_of_false List.not_mem_nil ?_,
      hempty.registers.mpr rfl⟩
    rw [announced_iff h hv]
    rintro ⟨i, -, hi⟩
    exact hn i hi

end

/-- Before anybody has connected, the registry agrees. -/
theorem registry_agrees_connecting :
    RegistryAgrees ((system id).trace .first (reporting [.new, .connecting]))
      ((system id).final .first (reporting [.new, .connecting])).sdk.g := by
  refine (registry_agrees_iff (started_first id) (by decide +kernel)).mpr fun i => ?_
  have hr : ((system id).trace .first (reporting [.new, .connecting])).filterMap reportOf = [] := by
    decide +kernel
  rw [reports_eq_filterMap, hr]
  exact nofun

/-- The connected viewer is announced, and not registered. -/
theorem connected_not_registered :
    let run := reporting [.connecting, .connected]
    (system id).Valid .first run ∧
      ¬ RegistryAgrees ((system id).trace .first run) ((system id).final .first run).sdk.g := by
  refine ⟨by decide +kernel, ?_⟩
  rintro ⟨present, -, hp, hr⟩
  have ha : viewerId 0 ∈ present := (hp _).mpr (by unfold Announced; decide +kernel)
  have hset := (hr.inputMode (viewerId 0) .kbm).mpr ha
  revert hset
  decide +kernel

/-! ### The slots -/

/-- What a call of `nearcade_disconnect_viewer` says of a viewer: that it has gone. -/
def disconnectMark (id : Bytes) : Input → Option Bool
  | .call (.disconnectViewer (some id')) => if id' = id then some false else none
  | _ => none

/-- What a run has said of a viewer: the events about it, and the calls that disconnected it. -/
def presence (t : Trace) (id : Bytes) : List Bool :=
  t.flatMap fun e => (fired e.out).filterMap (viewerMark id) ++ (disconnectMark id e.input).toList

/-- The viewers announced by VIEWER_JOINED, not yet by VIEWER_LEFT, and not disconnected. -/
def Playing (t : Trace) (id : Bytes) : Prop := (presence t id).getLast? = some true

/-- The reports for an index, and the calls that disconnected its viewer. -/
def stays (t : Trace) (i : Int) : List Bool :=
  t.flatMap fun e => (reportFor i e).toList ++ (disconnectMark (viewerId i) e.input).toList

/-- A slot has an open device. -/
def HasDevice (inp : Input.State) (k : Fin maxSlots) : Prop :=
  0 ≤ inp.gpFds k ∧ inp.gpFds k ∈ inp.opened

/-- Each viewer that plays owns one slot, with a device that takes its packets; no two own the same,
and a slot that nobody owns has no device. -/
structure SlotsBacked (s : State) (playing : Bytes → Prop) : Prop where
  owns : ∀ id, playing id → ∃ k, s.g.slots.Owns k id ∧ (∀ k', s.g.slots.Owns k' id → k' = k) ∧
    HasDevice s.inp k ∧ ∀ pkt : NearcadeGamepadPacket, pkt.slot.toNat = k.val →
      (Input.inputSubmitGamepad s.inp (some pkt)).1 = .ok
  distinct : ∀ id id' k, playing id → playing id' → s.g.slots.Owns k id → s.g.slots.Owns k id' →
    id = id'
  idle : ∀ k, (∀ id, ¬ s.g.slots.Owns k id) → s.inp.gpFds k < 0

/-- Where no slot is claimed and none has a device, nobody's slot is backed. -/
theorem StartedInv.slotsBacked {w : World} (h : StartedInv w) {playing : Bytes → Prop} :
    SlotsBacked w.sdk playing ↔ ∀ id, ¬ playing id := by
  have hfree : ∀ k id, ¬ w.sdk.g.slots.Owns k id := fun k id ho =>
    absurd (ho.1.symm.trans (h.registry.free k)) (by decide)
  constructor
  · -- who plays would own a slot, and all are free
    intro hs id hp
    obtain ⟨k, ho, -⟩ := hs.owns id hp
    exact hfree k id ho
  · intro hn
    refine ⟨fun id hp => absurd hp (hn id), fun id _ _ hp => absurd hp (hn id), fun k _ => ?_⟩
    exact h.devices k

section
variable {ov : Int → Int} {w : World} {is : List Input}

theorem presence_eq (h : Started ov w) (hv : (system ov).Valid w is) (i : Fin maxViewers) :
    presence ((system ov).trace w is) (viewerId (i.val : Int)) =
      stays ((system ov).trace w is) (i.val : Int) := by
  refine List.flatMap_congr fun e he => ?_
  obtain ⟨hI, hen, ho⟩ := h.inv_trace hv he
  rw [fired_entry hI ho, (tells_entry hen).viewer_idx hI i]

/-- A disconnected viewer that is no index's does not play. -/
theorem not_playing_nobody (h : Started ov w) (hv : (system ov).Valid w is) {id : Bytes}
    (hid : ∀ i : Fin maxViewers, id ≠ viewerId (i.val : Int)) :
    ¬ Playing ((system ov).trace w is) id := by
  intro hp
  obtain ⟨e, he, hm⟩ := List.mem_flatMap.mp (List.mem_of_getLast? hp)
  obtain ⟨hI, hen, ho⟩ := h.inv_trace hv he
  rw [fired_entry hI ho, (tells_entry hen).nobody hI hid, List.nil_append, Option.mem_toList] at hm
  simp only [disconnectMark] at hm
  split at hm
  · split at hm <;> cases hm
  · cases hm

/-- **The slots are backed just while nobody plays**: the last thing reported or done about each
index is not that it is connected. -/
theorem slots_backed_iff (h : Started ov w) (hv : (system ov).Valid w is) :
    SlotsBacked ((system ov).final w is).sdk (Playing ((system ov).trace w is)) ↔
      ∀ i : Fin maxViewers,
        (stays ((system ov).trace w is) (i.val : Int)).getLast? ≠ some true := by
  rw [(h.inv_final hv).slotsBacked]
  constructor
  · intro hn i hi
    exact hn (viewerId (i.val : Int)) (by rw [Playing, presence_eq h hv]; exact hi)
  · intro hn id hp
    by_cases hid : ∃ i : Fin maxViewers, id = viewerId (i.val : Int)
    · obtain ⟨i, rfl⟩ := hid
      rw [Playing, presence_eq h hv] at hp
      exact hn i hp
    · exact not_playing_nobody h hv (fun i e => hid ⟨i, e⟩) hp

end

/-- A viewer that was disconnected needs no slot. -/
theorem slots_backed_disconnected :
    let run := reporting [.connecting, .connected] ++
      [.call (.disconnectViewer (some (viewerId 0)))]
    SlotsBacked ((system id).final .first run).sdk (Playing ((system id).trace .first run)) :=
  (slots_backed_iff (started_first id) (by decide +kernel)).mpr (by decide +kernel)

/-- The connected viewer plays, and owns no slot. -/
theorem connected_not_backed :
    let run := reporting [.connecting, .connected]
    (system id).Valid .first run ∧
      ¬ SlotsBacked ((system id).final .first run).sdk
        (Playing ((system id).trace .first run)) := by
  refine ⟨by decide +kernel, fun h => ?_⟩
  obtain ⟨k, ho, -⟩ := h.owns (viewerId 0) (by unfold Playing; decide +kernel)
  revert k
  decide +kernel

end Nearcade
