import Nearcade.Support.Table
import Nearcade.System.Invariants

/-!
# Signaling — Table

The signaling module by itself: `server` is the machine whose steps are the critical sections of
the libwebsockets callbacks, `signaling_shutdown` and the functions that bring the module up
again.  A connection is established once, and closed at most once, after that; the module may be
shut down and come up at any time in between.

* `established_cases`, `closed_cases`: what the two critical sections can do.
* `TableInv`: the invariant of the table.
* `table_representation`: it holds in every reachable state, a new viewer gets the lowest free
  entry, and a closing connection leaves the table, and nothing else does.
* `table_of_system`: so it holds of the table in every world the whole SDK can reach.
-/

namespace Nearcade.Signaling
open Text Runs

/-! ### The critical sections -/

/-- A request for the host's end point. -/
def IsHost (uri : Bytes) : Prop := (strstr uri (bytes "/host")).isSome = true

instance (uri : Bytes) : Decidable (IsHost uri) := inferInstanceAs (Decidable (_ = _))

/-- The branch for `/viewer` and the last one store the connection alike. -/
theorem established_eq (st : State) (wsi : Wsi) (uri : Bytes) :
    established st wsi uri =
      if IsHost uri then ({ st with gHostWs := some wsi }, none) else storeViewer st wsi := by
  simp only [established, ite_self]
  rfl

/-- **What `LWS_CALLBACK_ESTABLISHED` can do**: the connection is the host's, it gets the lowest
free entry, or the table is full. -/
theorem established_cases (st : State) (wsi : Wsi) (uri : Bytes) :
    (IsHost uri ∧ established st wsi uri = ({ st with gHostWs := some wsi }, none)) ∨
    (¬ IsHost uri ∧ ∃ i, st.gViewerWs i = none ∧ (∀ j < i, st.gViewerWs j ≠ none) ∧
      established st wsi uri =
        ({ st with gViewerWs := Function.update st.gViewerWs i (some wsi)
                   gNumViewers := st.gNumViewers + 1 }, some i)) ∨
    (¬ IsHost uri ∧ (∀ i, st.gViewerWs i ≠ none) ∧ established st wsi uri = (st, none)) := by
  rw [established_eq]
  by_cases h : IsHost uri
  · exact .inl ⟨h, if_pos h⟩
  · rw [if_neg h, storeViewer]
    cases hf : firstIdx fun i => (st.gViewerWs i).isNone with
    | some i =>
        obtain ⟨hi, hlt⟩ := firstIdx_eq_some_iff.mp hf
        refine .inr (.inl ⟨h, i, Option.isNone_iff_eq_none.mp hi, fun j hj he => ?_, rfl⟩)
        have := hlt j hj
        simp [he] at this
    | none =>
        refine .inr (.inr ⟨h, fun i he => ?_, rfl⟩)
        have := firstIdx_eq_none_iff.mp hf i
        simp [he] at this

theorem entryOf_eq_some {st : State} {wsi : Wsi} {i : Fin maxViewers}
    (h : entryOf st wsi = some i) : st.gViewerWs i = some wsi := by
  simpa using (firstIdx_eq_some_iff.mp h).1

theorem entryOf_eq_none {st : State} {wsi : Wsi} (h : entryOf st wsi = none) (i : Fin maxViewers) :
    st.gViewerWs i ≠ some wsi := by
  simpa using firstIdx_eq_none_iff.mp h i

/-- **What `LWS_CALLBACK_CLOSED` can do**: the connection is the host's, it leaves its entry, or
it stands nowhere. -/
theorem closed_cases (st : State) (wsi : Wsi) :
    (st.gHostWs = some wsi ∧ closed st wsi = ({ st with gHostWs := none }, none)) ∨
    (st.gHostWs ≠ some wsi ∧ ∃ i, st.gViewerWs i = some wsi ∧
      closed st wsi =
        ({ st with gViewerWs := Function.update st.gViewerWs i none
                   gNumViewers := st.gNumViewers - 1 }, some i)) ∨
    (st.gHostWs ≠ some wsi ∧ (∀ i, st.gViewerWs i ≠ some wsi) ∧ closed st wsi = (st, none)) := by
  by_cases h : st.gHostWs = some wsi
  · exact .inl ⟨h, if_pos h⟩
  · rw [closed, if_neg h]
    cases he : entryOf st wsi with
    | some i => exact .inr (.inl ⟨h, i, entryOf_eq_some he, rfl⟩)
    | none => exact .inr (.inr ⟨h, entryOf_eq_none he, rfl⟩)

/-! ### The invariant -/

/-- The representation invariant of the table, where `live` are the connections that are
established and not closed. -/
structure TableInv (st : State) (live : Finset Wsi) : Prop where
  count : st.gNumViewers = (Table.used st.gViewerWs).card
  once : Table.Distinct st.gViewerWs
  viewers : ∀ i w, st.gViewerWs i = some w → w ∈ live
  host : ∀ w, st.gHostWs = some w → w ∈ live ∧ ∀ i, st.gViewerWs i ≠ some w

theorem tableInv_clear (st : State) (live : Finset Wsi) : TableInv (clearTables st) live :=
  ⟨by simp [clearTables, Table.card_used_empty], Table.distinct_empty, nofun, nofun⟩

theorem tableInv_boot : TableInv .boot ∅ := tableInv_clear .boot ∅

/-- A connection that is not live stands nowhere in the table. -/
theorem TableInv.not_stored {st : State} {live : Finset Wsi} (h : TableInv st live) {wsi : Wsi}
    (hw : wsi ∉ live) (i : Fin maxViewers) : st.gViewerWs i ≠ some wsi := fun e =>
  hw (h.viewers i wsi e)

theorem TableInv.established {st : State} {live : Finset Wsi} (h : TableInv st live) {wsi : Wsi}
    (hw : wsi ∉ live) (uri : Bytes) :
    TableInv (Signaling.established st wsi uri).1 (insert wsi live) := by
  have hmem : ∀ i w, st.gViewerWs i = some w → w ∈ insert wsi live := fun i w e =>
    Finset.mem_insert_of_mem (h.viewers i w e)
  have hhost : ∀ w, st.gHostWs = some w → w ∈ insert wsi live ∧ w ≠ wsi := fun w e =>
    ⟨Finset.mem_insert_of_mem (h.host w e).1, fun he => hw (he ▸ (h.host w e).1)⟩
  rcases established_cases st wsi uri with ⟨-, e⟩ | ⟨-, i, hi, -, e⟩ | ⟨-, -, e⟩ <;>
    simp only [e]
  · refine ⟨h.count, h.once, hmem, fun w hw' => ?_⟩
    obtain rfl := Option.some.inj hw'
    exact ⟨Finset.mem_insert_self .., h.not_stored hw⟩
  · refine ⟨?_, h.once.store (h.not_stored hw), fun j w hj => ?_, fun w hw' => ?_⟩
    · rw [Table.card_used_store hi, h.count]
      rfl
    · rcases Table.store_cases hj with ⟨-, rfl⟩ | ⟨-, hj⟩
      · exact Finset.mem_insert_self ..
      · exact hmem j w hj
    · refine ⟨(hhost w hw').1, fun j hj => ?_⟩
      rcases Table.store_cases hj with ⟨-, e⟩ | ⟨-, hj⟩
      · exact (hhost w hw').2 e
      · exact (h.host w hw').2 j hj
  · exact ⟨h.count, h.once, hmem, fun w hw' => ⟨(hhost w hw').1, (h.host w hw').2⟩⟩

theorem TableInv.closed {st : State} {live : Finset Wsi} (h : TableInv st live) (wsi : Wsi) :
    TableInv (Signaling.closed st wsi).1 (live.erase wsi) := by
  rcases closed_cases st wsi with ⟨hh, e⟩ | ⟨hh, i, hi, e⟩ | ⟨hh, hn, e⟩ <;> simp only [e]
  · refine ⟨h.count, h.once, fun j w hj => Finset.mem_erase.mpr ⟨?_, h.viewers j w hj⟩, nofun⟩
    rintro rfl
    exact (h.host w hh).2 j hj
  · refine ⟨?_, h.once.clear i, fun j w hj => ?_, fun w hw => ?_⟩
    · have := Table.card_used_clear hi
      have := h.count
      show st.gNumViewers - 1 = (Table.used (Function.update st.gViewerWs i none)).card
      omega
    · have hj' := Table.eq_of_update_none hj
      refine Finset.mem_erase.mpr ⟨?_, h.viewers j w hj'⟩
      rintro rfl
      exact absurd hj (by simp [h.once j i w hj' hi])
    · refine ⟨Finset.mem_erase.mpr ⟨fun e => hh (e ▸ hw), (h.host w hw).1⟩, fun j hj => ?_⟩
      exact (h.host w hw).2 j (Table.eq_of_update_none hj)
  · refine ⟨h.count, h.once, fun j w hj => Finset.mem_erase.mpr ⟨?_, h.viewers j w hj⟩,
      fun w hw => ⟨Finset.mem_erase.mpr ⟨fun e => hh (e ▸ hw), (h.host w hw).1⟩,
        (h.host w hw).2⟩⟩
    rintro rfl
    exact hn j hj

/-! ### The machine -/

/-- The module, and the connections that are established and not closed. -/
structure Server where
  st : State
  live : Finset Wsi

/-- Before the first call. -/
def Server.boot : Server := ⟨.boot, ∅⟩

/-- The critical sections, and the functions that bring the module up. -/
inductive Event where
  | established (wsi : Wsi) (uri stack : Bytes)
  | receive (wsi : Wsi) (input : Bytes)
  | closed (wsi : Wsi)
  | shutdown
  | setCallbacks
  | init (port : Int) (ctx : Option Nat) (thread : Bool)

/-- **The signaling module.** -/
def server : Machine Server Event Effect where
  enabled w
    | .established wsi .. => wsi ∉ w.live
    | .receive wsi _ | .closed wsi => wsi ∈ w.live
    | .shutdown | .setCallbacks | .init .. => True
  next w
    | .established wsi uri stack =>
        ⟨(established w.st wsi (lwsHdrCopy uri stack)).1, insert wsi w.live⟩
    | .receive .. => w
    | .closed wsi => ⟨(closed w.st wsi).1, w.live.erase wsi⟩
    | .shutdown => { w with st := (signalingShutdown w.st).1 }
    | .setCallbacks => { w with st := setInternalCallbacks w.st }
    | .init port ctx thread => { w with st := (signalingInit port ctx thread w.st).2.1 }
  out w
    | .shutdown => (signalingShutdown w.st).2
    | .init port ctx thread => (signalingInit port ctx thread w.st).2.2
    | .established .. | .receive .. | .closed _ | .setCallbacks => []

instance (w : Server) : ∀ e : Event, Decidable (server.enabled w e)
  | .established wsi .. => inferInstanceAs (Decidable (wsi ∉ w.live))
  | .receive wsi _ | .closed wsi => inferInstanceAs (Decidable (wsi ∈ w.live))
  | .shutdown | .setCallbacks | .init .. => isTrue trivial

theorem TableInv.next {w : Server} (h : TableInv w.st w.live) {e : Event}
    (he : server.enabled w e) : TableInv (server.next w e).st (server.next w e).live := by
  cases e with
  | established wsi uri stack => exact h.established he _
  | closed wsi => exact h.closed wsi
  | shutdown => exact tableInv_clear _ _
  | receive _ _ => exact h
  | setCallbacks => exact ⟨h.count, h.once, h.viewers, h.host⟩
  | init port ctx thread =>
      obtain ⟨wsi, e⟩ := signalingInit_eq port ctx thread w.st
      show TableInv (signalingInit port ctx thread w.st).2.1 w.live
      rw [e]
      exact ⟨h.count, h.once, h.viewers, h.host⟩

theorem tableInv_of_reachable {w : Server} (h : server.Reachable .boot w) :
    TableInv w.st w.live :=
  h.of_invariant (I := fun w => TableInv w.st w.live) tableInv_boot fun _ _ hw he => hw.next he

/-- What the table is for, and how a step changes it. -/
structure Representation (w : Server) : Prop where
  /-- The counter is the number of entries in use. -/
  count : w.st.gNumViewers = (Table.used w.st.gViewerWs).card
  range : 0 ≤ w.st.gNumViewers ∧ w.st.gNumViewers ≤ maxViewers
  once : ∀ i j wsi, w.st.gViewerWs i = some wsi → w.st.gViewerWs j = some wsi → i = j
  host : ∀ wsi, w.st.gHostWs = some wsi → ∀ i, w.st.gViewerWs i ≠ some wsi
  live : ∀ wsi, (w.st.gHostWs = some wsi ∨ ∃ i, w.st.gViewerWs i = some wsi) → wsi ∈ w.live
  /-- A new viewer gets the lowest free entry, if there is one. -/
  lowest : ∀ wsi uri stack, server.enabled w (.established wsi uri stack) →
    ¬ IsHost (lwsHdrCopy uri stack) →
    let w' := server.next w (.established wsi uri stack)
    (∃ i, w.st.gViewerWs i = none ∧ (∀ j < i, w.st.gViewerWs j ≠ none) ∧
      w'.st.gViewerWs = Function.update w.st.gViewerWs i (some wsi) ∧
      w'.st.gHostWs = w.st.gHostWs) ∨
    ((∀ i, w.st.gViewerWs i ≠ none) ∧ w'.st = w.st)
  /-- A closing connection leaves the table, and nothing else does. -/
  removes : ∀ wsi, server.enabled w (.closed wsi) →
    let w' := server.next w (.closed wsi)
    (∀ i, w'.st.gViewerWs i =
      if w.st.gViewerWs i = some wsi then none else w.st.gViewerWs i) ∧
    w'.st.gHostWs = if w.st.gHostWs = some wsi then none else w.st.gHostWs

/-- **The table of connections**, in every reachable state. -/
theorem table_representation {w : Server} (h : server.Reachable .boot w) : Representation w := by
  have hI := tableInv_of_reachable h
  have hle := Table.card_used_le w.st.gViewerWs
  refine ⟨hI.count, ⟨?_, ?_⟩, hI.once, fun wsi e => (hI.host wsi e).2, ?_, ?_, ?_⟩
  · rw [hI.count]; exact Int.natCast_nonneg _
  · rw [hI.count]; exact Int.ofNat_le.mpr hle
  · rintro wsi (e | ⟨i, e⟩)
    · exact (hI.host wsi e).1
    · exact hI.viewers i wsi e
  · intro wsi uri stack _ hu
    rcases established_cases w.st wsi (lwsHdrCopy uri stack) with
      ⟨hu', -⟩ | ⟨-, i, hi, hlt, e⟩ | ⟨-, hn, e⟩
    · exact absurd hu' hu
    · refine .inl ⟨i, hi, hlt, ?_, ?_⟩ <;> simp only [server, e]
    · refine .inr ⟨hn, ?_⟩
      simp only [server, e]
  · intro wsi _
    rcases closed_cases w.st wsi with ⟨hh, e⟩ | ⟨hh, i, hi, e⟩ | ⟨hh, hn, e⟩ <;>
      simp only [server, e]
    · exact ⟨fun i => (if_neg ((hI.host wsi hh).2 i)).symm, (if_pos hh).symm⟩
    · exact ⟨hI.once.clear_apply hi, (if_neg hh).symm⟩
    · exact ⟨fun i => (if_neg (hn i)).symm, (if_neg hh).symm⟩

/-- The host is replaced, the first viewer goes while the second stays, and a third takes the free
entry. -/
def replaced : List Event :=
  [.established 1 (bytes "/host") [], .established 7 (bytes "/viewer") [],
   .established 2 (bytes "/host") [], .established 8 (bytes "/viewer") [], .closed 7,
   .established 9 (bytes "/viewer") []]

theorem table_representation_replaced :
    let w := server.final .boot replaced
    Representation w ∧ w.st.gHostWs = some 2 ∧ w.st.gViewerWs 0 = some 9 ∧
      w.st.gViewerWs 1 = some 8 ∧ w.st.gNumViewers = 2 ∧ 7 ∉ w.live :=
  ⟨table_representation ⟨replaced, by decide +kernel, rfl⟩, by decide +kernel, by decide +kernel,
    by decide +kernel, by decide +kernel, by decide +kernel⟩

end Nearcade.Signaling

namespace Nearcade
open Text Runs

/-! ### The module in the SDK -/

/-- **What a call can do to the signaling module.** -/
theorem Call.sig_cases (ov : Int → Int) (s : State) (c : Call) :
    (c.run ov s).1.sig = s.sig ∨
    (∃ port ctx thread, (c.run ov s).1.sig =
      (Signaling.signalingInit port ctx thread (Signaling.setInternalCallbacks s.sig)).2.1) ∨
    (c.run ov s).1.sig = (Signaling.signalingShutdown s.sig).1 := by
  by_cases ho : c.Operates
  · exact .inl (ho.frame ov s).2.2.1
  · cases c with
    | init config e w =>
        rw [Call.run]
        rcases nearcadeInit_cases config e w s with
          ⟨-, h⟩ | ⟨-, -, h⟩ | ⟨-, -, -, h⟩ | ⟨-, -, -, h⟩ <;> rw [h]
        · exact .inl rfl
        · exact .inl rfl
        · exact .inr (.inl ⟨_, _, _, rfl⟩)
        · exact .inr (.inl ⟨_, _, _, rfl⟩)
    | shutdown w =>
        simp only [Call.run, nearcadeShutdown]
        split
        · exact .inl rfl
        · exact .inr (.inr rfl)
    | _ => exact absurd trivial ho

theorem callViewerCb_sig (s : State) (idx : Option (Fin maxViewers)) (joined : Bool) :
    (callViewerCb s idx joined).sig = s.sig := by
  obtain ⟨rtc, e⟩ := callViewerCb_eq s idx joined
  rw [e]

/-- A step of the SDK is a run of the signaling module. -/
theorem table_step {ov : Int → Int} {w : World} {i : Input} (he : (system ov).enabled w i)
    (h : Signaling.server.Reachable .boot ⟨w.sdk.sig, w.live⟩) :
    Signaling.server.Reachable .boot
      ⟨((system ov).next w i).sdk.sig, ((system ov).next w i).live⟩ := by
  cases i with
  | call c =>
      show Signaling.server.Reachable .boot ⟨(c.run ov w.sdk).1.sig, w.live⟩
      rcases Call.sig_cases ov w.sdk c with e | ⟨port, ctx, thread, e⟩ | e <;> rw [e]
      · exact h
      · have h := h.step (show Signaling.server.enabled _ .setCallbacks from trivial)
        exact h.step (show Signaling.server.enabled _ (.init port ctx thread) from trivial)
      · exact h.step (show Signaling.server.enabled _ .shutdown from trivial)
  | net n =>
      cases n with
      | established wsi uri stack =>
          have := h.step (show Signaling.server.enabled _ (.established wsi uri stack) from he)
          exact (callViewerCb_sig _ _ _).symm ▸ this
      | closed wsi =>
          have := h.step (show Signaling.server.enabled _ (.closed wsi) from he)
          exact (callViewerCb_sig _ _ _).symm ▸ this
      | receive _ _ _ | stateChange _ _ | localDescription _ _ _ _ | localCandidate _ _ _
      | message _ _ => exact h

/-- **The table in the SDK.** -/
theorem table_of_system {ov : Int → Int} {w : World} (h : (system ov).Reachable .boot w) :
    Signaling.TableInv w.sdk.sig w.live :=
  Signaling.tableInv_of_reachable (h.of_invariant
    (I := fun w => Signaling.server.Reachable .boot ⟨w.sdk.sig, w.live⟩)
    (Machine.Reachable.refl _) fun _ _ hw he => table_step he hw)

end Nearcade
