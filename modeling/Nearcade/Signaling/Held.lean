import Nearcade.Signaling.Table

/-!
# Signaling — Held

A connection that libwebsockets holds open for the SDK should stand in its table: as `g_host_ws`,
or in an entry of `g_viewer_ws`.  One that does not can neither be written to nor be told apart
when it sends, and libwebsockets closes it only where the callback returns something other than 0.

* `not_refused`: it never does, so nothing is rejected.
* `connections_held_iff`: no connection is left out just while each finds its place free when it
  comes: a host where there is no host, a viewer where an entry is free.
-/

namespace Nearcade.Signaling
open Text Runs

/-- What `callback_signaling` returns to libwebsockets, and for which connection. -/
def Event.returned : Event → Option (Wsi × Int)
  -- a full table is logged; the unknown sender's early return is 0 as well
  | .established wsi .. | .receive wsi _ | .closed wsi => some (wsi, 0)
  | .shutdown | .setCallbacks | .init .. => none

/-- The SDK has told libwebsockets to close the connection. -/
def Refused (t : List (Entry Server Event Effect)) (wsi : Wsi) : Prop :=
  ∃ e ∈ t, ∃ ret, e.input.returned = some (wsi, ret) ∧ ret ≠ 0

/-- The connection is the host's, or stands in exactly one entry. -/
def Held (st : State) (wsi : Wsi) : Prop :=
  st.gHostWs = some wsi ∨ ∃! i, st.gViewerWs i = some wsi

/-- Every connection that is open and was not refused is held. -/
def AllHeld (t : List (Entry Server Event Effect)) (w : Server) : Prop :=
  ∀ wsi ∈ w.live, ¬ Refused t wsi → Held w.st wsi

/-- The place of a new connection is free; and `signaling_shutdown`, which clears the table, comes
when none is open. -/
def Room (w : Server) : Event → Prop
  | .established _ uri stack =>
      if IsHost (lwsHdrCopy uri stack) then w.st.gHostWs = none else ∃ i, w.st.gViewerWs i = none
  | .shutdown => w.live = ∅
  | .receive .. | .closed _ | .setCallbacks | .init .. => True

/-- No connection is ever refused. -/
theorem not_refused (t : List (Entry Server Event Effect)) (wsi : Wsi) : ¬ Refused t wsi := by
  rintro ⟨e, -, ret, hret, hne⟩
  cases hi : e.input <;> rw [hi] at hret <;> simp only [Event.returned] at hret
  case established | receive | closed => exact hne (congrArg Prod.snd (Option.some.inj hret)).symm
  case shutdown | setCallbacks | init => cases hret

/-- Every open connection stands in the table. -/
def Placed (w : Server) : Prop :=
  ∀ wsi ∈ w.live, w.st.gHostWs = some wsi ∨ ∃ i, w.st.gViewerWs i = some wsi

/-- The table has no connection twice, so a place is the only one. -/
theorem allHeld_iff {w : Server} (h : TableInv w.st w.live)
    (t : List (Entry Server Event Effect)) : AllHeld t w ↔ Placed w := by
  refine forall₂_congr fun wsi _ => ?_
  constructor
  · intro hw
    exact (hw (not_refused t wsi)).imp_right fun ⟨i, hi, _⟩ => ⟨i, hi⟩
  · intro hw _
    exact hw.imp_right fun ⟨i, hi⟩ => ⟨i, hi, fun j hj => h.once j i wsi hj hi⟩

/-- A connection that finds its place free leaves the others where they stand. -/
theorem Placed.established {w : Server} (h : Placed w) {wsi : Wsi} {uri stack : Bytes}
    (hr : Room w (.established wsi uri stack)) :
    Placed (server.next w (.established wsi uri stack)) := by
  intro v hv
  simp only [Room] at hr
  simp only [server, Finset.mem_insert] at hv ⊢
  rcases established_cases w.st wsi (lwsHdrCopy uri stack) with
    ⟨hu, e⟩ | ⟨hu, i, hi, -, e⟩ | ⟨hu, hn, -⟩
  · rw [if_pos hu] at hr
    rw [e]
    rcases hv with rfl | hv
    · exact .inl rfl
    · rcases h v hv with hh | hi
      · rw [hr] at hh
        cases hh
      · exact .inr hi
  · rw [e]
    rcases hv with rfl | hv
    · exact .inr ⟨i, Function.update_self ..⟩
    · rcases h v hv with hh | ⟨j, hj⟩
      · exact .inl hh
      · have hji : j ≠ i := by
          rintro rfl
          rw [hi] at hj
          cases hj
        exact .inr ⟨j, (Function.update_of_ne hji _ _).trans hj⟩
  · rw [if_neg hu] at hr
    obtain ⟨i, hi⟩ := hr
    exact absurd hi (hn i)

/-- A closing connection leaves the others where they stand. -/
theorem Placed.closed {w : Server} (h : Placed w) (wsi : Wsi) :
    Placed (server.next w (.closed wsi)) := by
  intro v hv
  simp only [server, Finset.mem_erase] at hv ⊢
  obtain ⟨hne, hv⟩ := hv
  rcases closed_cases w.st wsi with ⟨hh, e⟩ | ⟨hh, i, hi, e⟩ | ⟨hh, hn, e⟩ <;> rw [e]
  · refine (h v hv).imp_left fun hv' => ?_
    exact absurd (Option.some.inj (hv'.symm.trans hh)) hne
  · rcases h v hv with hv' | ⟨j, hj⟩
    · exact .inl hv'
    · have hji : j ≠ i := by
        rintro rfl
        exact hne (Option.some.inj (hj.symm.trans hi))
      exact .inr ⟨j, (Function.update_of_ne hji _ _).trans hj⟩
  · exact h v hv

/-- A step with room keeps every open connection in the table. -/
theorem Placed.next {w : Server} (h : Placed w) {e : Event} (hr : Room w e) :
    Placed (server.next w e) := by
  cases e with
  | established wsi uri stack => exact h.established hr
  | closed wsi => exact h.closed wsi
  | shutdown =>
      intro v hv
      have hlive : w.live = ∅ := hr
      simp only [server, hlive] at hv
      exact absurd hv (Finset.notMem_empty v)
  | receive _ _ => exact h
  | setCallbacks => exact h
  | init port ctx thread =>
      obtain ⟨wsi, e⟩ := signalingInit_eq port ctx thread w.st
      intro v hv
      simp only [server, e]
      exact h v hv

/-- A step without room leaves a connection out: the host that was replaced, the viewer that found
the table full, or one that was open at the shutdown. -/
theorem not_placed_next {w : Server} (h : TableInv w.st w.live) {e : Event}
    (he : server.enabled w e) (hr : ¬ Room w e) : ¬ Placed (server.next w e) := by
  intro hp
  cases e with
  | established wsi uri stack =>
      have hnew : wsi ∉ w.live := he
      simp only [Room] at hr
      rcases established_cases w.st wsi (lwsHdrCopy uri stack) with
        ⟨hu, e⟩ | ⟨hu, i, hi, -, e⟩ | ⟨hu, hn, e⟩
      · rw [if_pos hu] at hr
        obtain ⟨old, hold⟩ := Option.ne_none_iff_exists'.mp hr
        obtain ⟨hlive, hout⟩ := h.host old hold
        have := hp old (Finset.mem_insert_of_mem hlive)
        simp only [server, e] at this
        rcases this with hh | ⟨i, hi⟩
        · exact hnew (Option.some.inj hh ▸ hlive)
        · exact hout i hi
      · rw [if_neg hu] at hr
        exact hr ⟨i, hi⟩
      · have := hp wsi (Finset.mem_insert_self ..)
        simp only [server, e] at this
        rcases this with hh | ⟨i, hi⟩
        · exact hnew (h.host wsi hh).1
        · exact h.not_stored hnew i hi
  | shutdown =>
      obtain ⟨v, hv⟩ := Finset.nonempty_iff_ne_empty.mpr hr
      rcases hp v hv with hh | ⟨i, hi⟩
      · cases hh
      · cases hi
  | receive _ _ | closed _ | setCallbacks | init _ _ _ => exact hr trivial

/-- **When no connection is left out.**  In every run of the module, all open connections are held
in every state just when each step finds room. -/
theorem connections_held_iff {es : List Event} (hv : server.Valid .boot es) :
    (∀ ds, ds <+: es → AllHeld (server.trace .boot ds) (server.final .boot ds)) ↔
      ∀ e ∈ server.trace .boot es, Room e.pre e.input := by
  have hboot : TableInv Server.boot.st Server.boot.live ∧ Placed .boot :=
    ⟨tableInv_boot, fun v hv => absurd hv (Finset.notMem_empty v)⟩
  have hiff := Machine.always_iff (M := server) (C := Room)
    (I := fun w => TableInv w.st w.live ∧ Placed w) (P := Placed) hboot (fun _ h => h.2)
    (fun _ _ h he hr => ⟨h.1.next he, h.2.next hr⟩)
    (fun _ _ h he hr => not_placed_next h.1 he hr) hv
  rw [← hiff]
  refine forall₂_congr fun ds hds => allHeld_iff (tableInv_of_reachable ⟨ds, ?_, rfl⟩) _
  obtain ⟨rest, rfl⟩ := hds
  exact (Machine.valid_append.mp hv).1

/-- A viewer and a host, each with a place. -/
theorem connections_held_iff_pair :
    let es : List Event := [.established 1 (bytes "/viewer") [], .established 2 (bytes "/host") []]
    (∀ ds, ds <+: es → AllHeld (server.trace .boot ds) (server.final .boot ds)) ↔
      ∀ e ∈ server.trace .boot es, Room e.pre e.input :=
  connections_held_iff (by simp [Machine.Valid, server, Server.boot])

/-- The host that is replaced stays open, and stands nowhere. -/
theorem replaced_host_not_held :
    let es : List Event := [.established 1 (bytes "/host") [], .established 2 (bytes "/host") []]
    server.Valid .boot es ∧ Event.shutdown ∉ es ∧
      ¬ AllHeld (server.trace .boot es) (server.final .boot es) := by
  refine ⟨by simp [Machine.Valid, server, Server.boot], by simp, fun h => ?_⟩
  have hlive : 1 ∈ (server.final .boot [.established 1 (bytes "/host") [],
      .established 2 (bytes "/host") []]).live := by decide +kernel
  rcases h 1 hlive (not_refused _ _) with hh | ⟨i, hi, -⟩
  · revert hh
    decide +kernel
  · revert i
    decide +kernel

end Nearcade.Signaling
