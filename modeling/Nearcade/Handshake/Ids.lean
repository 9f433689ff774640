import Nearcade.Handshake.Applied

/-!
# Handshake — Ids

A viewer's id is printed with `viewer_%d` and read back with `sscanf`, in `viewer_ws_by_id` and in
`webrtc_handle_signaling`.  `%d` skips white space, takes a sign and leading zeros, and stops at the
first byte that is no digit; nothing asks what follows.

* `selectsEntry_iff`, `selectsSession_iff`: what an id selects is what `sscanf` reads from it.
* `ids_exact_iff`: which ids select nothing but what they name.
-/

namespace Nearcade.Handshake
open Text
open Signaling (viewerWsById)

/-! ### What an id selects -/

/-- `viewer_ws_by_id` gives the connection of entry `i`, whatever the table holds. -/
def SelectsEntry (ov : Int → Int) (id : Bytes) (i : Fin maxViewers) : Prop :=
  ∀ st : Signaling.State, viewerWsById ov st (some id) = st.gViewerWs i

/-- `webrtc_handle_signaling` takes the session of the index `i`, whatever sessions there are. -/
def SelectsSession (ov : Int → Int) (id : Bytes) (i : Int) : Prop :=
  ∀ st : Webrtc.State, addressed ov st id = (Webrtc.sessionForViewer st i).bind (·.pc)

/-- The id selects only what it is the canonical text of. -/
structure IdExact (ov : Int → Int) (id : Bytes) : Prop where
  entry : ∀ i, SelectsEntry ov id i → id = viewerId (i.val : Int)
  session : ∀ i, SelectsSession ov id i → id = viewerId i

/-- If a number that is not negative is read from the text after `viewer_`, that text is nothing but
its digits, and they fit `int`. -/
def PlainId (ov : Int → Int) (id : Bytes) : Prop :=
  ∀ rest z, id = bytes "viewer_" ++ rest → scanInt ov rest = some z → 0 ≤ z →
    Canonical rest ∧ InInt (digitsValue rest)

theorem selectsEntry_iff {ov : Int → Int} {id : Bytes} {i : Fin maxViewers} :
    SelectsEntry ov id i ↔ sscanf ov (bytes "viewer_") id = some (i.val : Int) := by
  have hi : (0 : Int) ≤ (i.val : Int) ∧ (i.val : Int) < maxViewers :=
    ⟨Int.natCast_nonneg _, Int.ofNat_lt.mpr i.isLt⟩
  constructor
  · intro h
    -- a table that holds a connection in this entry only
    have ht := h { Signaling.State.boot with gViewerWs := fun j => if j = i then some 0 else none }
    simp only [viewerWsById, if_true] at ht
    cases hs : sscanf ov (bytes "viewer_") id with
    | none =>
        rw [hs] at ht
        cases ht
    | some idx =>
        simp only [hs] at ht
        split at ht
        · rename_i hr
          split at ht
          · rename_i he
            have hval : idx.toNat = i.val := congrArg Fin.val he
            exact congrArg some (by omega)
          · cases ht
        · cases ht
  · intro h st
    simp only [viewerWsById, h, dif_pos hi, Int.toNat_natCast]

theorem selectsSession_iff {ov : Int → Int} {id : Bytes} {i : Int} :
    SelectsSession ov id i ↔ sscanf ov (bytes "viewer_") id = some i ∧ 0 ≤ i := by
  constructor
  · intro h
    -- a table with a session of this index only
    have ht := h { Webrtc.State.boot with
      gSessions := [{ Webrtc.WebrtcSession.init with viewerIdx := i, pc := some 0 }] }
    simp only [addressed, Webrtc.sessionForViewer, List.find?_cons, List.find?_nil, decide_true,
      Option.bind_some] at ht
    cases hs : sscanf ov (bytes "viewer_") id with
    | none =>
        rw [hs] at ht
        cases ht
    | some idx =>
        simp only [hs] at ht
        split at ht
        · cases ht
        · by_cases he : i = idx
          · subst he
            exact ⟨rfl, by omega⟩
          · simp [he] at ht
  · rintro ⟨h, h0⟩ st
    simp only [addressed, h]
    rw [if_neg (by omega)]

/-! ### What `sscanf` reads -/

theorem sscanf_eq_some {ov : Int → Int} {lit s : Bytes} {z : Int} :
    sscanf ov lit s = some z ↔ ∃ rest, s = lit ++ rest ∧ scanInt ov rest = some z := by
  rw [sscanf]
  constructor
  · intro h
    split at h
    · rename_i hp
      obtain ⟨rest, rfl⟩ := hp
      rw [List.drop_left] at h
      exact ⟨rest, rfl, h⟩
    · cases h
  · rintro ⟨rest, rfl, h⟩
    rw [if_pos (List.prefix_append _ _), List.drop_left, h]

section
variable {ov : Int → Int} (hov : ∀ z, InInt (ov z))
include hov

theorem inInt_scanDigits {sign : Int} {s : Bytes} {z : Int}
    (h : scanDigits ov sign s = some z) : InInt z := by
  simp only [scanDigits] at h
  split at h
  · cases h
  · obtain rfl := Option.some.inj h
    split
    · assumption
    · exact hov _

/-- What is read is an `int`. -/
theorem inInt_scanInt {s : Bytes} {z : Int} (h : scanInt ov s = some z) : InInt z := by
  rw [scanInt] at h
  split at h <;> exact inInt_scanDigits hov h

/-- **Only its canonical text is read back as printed.** -/
theorem plain_iff {rest : Bytes} {z : Int} (hz : scanInt ov rest = some z) (h0 : 0 ≤ z) :
    rest = decimalInt z ↔ Canonical rest ∧ InInt (digitsValue rest) := by
  have hint := inInt_scanInt hov hz
  obtain ⟨n, rfl⟩ := Int.eq_ofNat_of_zero_le h0
  constructor
  · intro h
    have hrest : rest = decimal n := h
    rw [hrest, digitsValue_decimal]
    exact ⟨canonical_decimal n, hint⟩
  · rintro ⟨hc, hin⟩
    -- the digits are read as their value
    have hread := scanInt_decimalInt ov hin noDigit_nil
    have htext : decimalInt (digitsValue rest : Int) = rest := hc.decimal_digitsValue
    rw [List.append_nil, htext, hz] at hread
    rw [Option.some.inj hread, htext]

/-- **Which ids select only what they name.**  A printed id selects its entry and its session.  And
an id selects nothing else just when, read with `%d`, it gives no number, a negative one, or one
whose digits are all that follows `viewer_`. -/
theorem ids_exact_iff :
    (∀ i : Fin maxViewers, SelectsEntry ov (viewerId (i.val : Int)) i ∧
      SelectsSession ov (viewerId (i.val : Int)) (i.val : Int)) ∧
    ∀ id, IdExact ov id ↔ PlainId ov id := by
  constructor
  · intro i
    have hread := sscanf_append_decimalInt ov (bytes "viewer_") (inInt_idx i)
    exact ⟨selectsEntry_iff.mpr hread, selectsSession_iff.mpr ⟨hread, Int.natCast_nonneg _⟩⟩
  · intro id
    constructor
    · rintro h rest z rfl hz h0
      have hid := h.session z (selectsSession_iff.mpr ⟨sscanf_eq_some.mpr ⟨rest, rfl, hz⟩, h0⟩)
      exact (plain_iff hov hz h0).mp (List.append_cancel_left hid)
    · intro h
      have hplain : ∀ i : Int, 0 ≤ i → sscanf ov (bytes "viewer_") id = some i →
          id = viewerId i := by
        intro i h0 hs
        obtain ⟨rest, rfl, hz⟩ := sscanf_eq_some.mp hs
        rw [viewerId, (plain_iff hov hz h0).mpr (h rest i rfl hz h0)]
      refine ⟨fun i hi => ?_, fun i hi => ?_⟩
      · exact hplain _ (Int.natCast_nonneg _) (selectsEntry_iff.mp hi)
      · obtain ⟨hs, h0⟩ := selectsSession_iff.mp hi
        exact hplain i h0 hs

end

/-- With an overflow that reads as the largest `int`. -/
theorem ids_exact_iff_max :
    (∀ i : Fin maxViewers, SelectsEntry (fun _ => 2147483647) (viewerId (i.val : Int)) i ∧
      SelectsSession (fun _ => 2147483647) (viewerId (i.val : Int)) (i.val : Int)) ∧
    ∀ id, IdExact (fun _ => 2147483647) id ↔ PlainId (fun _ => 2147483647) id :=
  ids_exact_iff fun _ => by decide

/-- An id with a leading zero and text after its number selects entry 7 and its session. -/
theorem garbled_id_selects :
    let id := bytes "viewer_07, or so"
    id ≠ viewerId 7 ∧ SelectsEntry (fun _ => 0) id 7 ∧ SelectsSession (fun _ => 0) id 7 ∧
      ¬ IdExact (fun _ => 0) id := by
  intro id
  have hread : sscanf (fun _ => 0) (bytes "viewer_") id = some 7 := by decide +kernel
  have hne : id ≠ viewerId 7 := by decide +kernel
  have hs : SelectsSession (fun _ => 0) id 7 := selectsSession_iff.mpr ⟨hread, by decide⟩
  exact ⟨hne, selectsEntry_iff.mpr hread, hs, fun h => hne (h.session 7 hs)⟩

end Nearcade.Handshake
