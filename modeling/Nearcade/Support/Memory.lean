import Nearcade.Support.Text

/-!
# Support — Memory

Programs on buffers, one access at a time.  An access outside the buffer has no result, and neither
has a program that makes one; so a program that has a result makes none.

A C string is the list of its bytes, and a pointer into it may read them and the NUL behind them.

* `readAt_append`: what is read at a position is the first byte from there on, or the NUL.
* `writeBytes_append`: bytes written behind what a buffer holds so far, where they fit.
* `strstrAt_append`: the search makes no other access, and finds what `strstr` finds.
-/

namespace Memory
open Text

/-! ### Reading a string -/

/-- The byte at a position of a C string. -/
def readAt (s : Bytes) (i : Nat) : Option UInt8 := (s ++ [0])[i]?

theorem le_of_readAt {s : Bytes} {i : Nat} {c : UInt8} (h : readAt s i = some c) :
    i ≤ s.length := by
  obtain ⟨hi, -⟩ := List.getElem?_eq_some_iff.mp h
  rw [List.length_append, List.length_singleton] at hi
  exact Nat.le_of_lt_succ hi

/-- The byte at a position of a text that is known from there on. -/
theorem readAt_append (p q : Bytes) : readAt (p ++ q) p.length = some (q.headD 0) := by
  rw [readAt, List.append_assoc, List.getElem?_append_right (Nat.le_refl _), Nat.sub_self]
  cases q <;> rfl

/-! ### Writing a buffer -/

/-- `buf[i] = b`. -/
def writeAt (buf : Bytes) (i : Nat) (b : UInt8) : Option Bytes :=
  if i < buf.length then some (buf.set i b) else none

/-- Bytes, one after the other, from a position on. -/
def writeBytes (buf : Bytes) (i : Nat) : Bytes → Option Bytes
  | [] => some buf
  | b :: bs => (writeAt buf i b).bind fun buf => writeBytes buf (i + 1) bs

theorem writeAt_append (out : Bytes) (c b : UInt8) (tail : Bytes) :
    writeAt (out ++ c :: tail) out.length b = some (out ++ b :: tail) := by
  rw [writeAt, if_pos (by simp), List.set_append_right _ _ (Nat.le_refl _), Nat.sub_self,
    List.set_cons_zero]

/-- **Bytes behind what the buffer holds so far.** -/
theorem writeBytes_append {bs tail : Bytes} (out : Bytes) (h : bs.length ≤ tail.length) :
    writeBytes (out ++ tail) out.length bs = some (out ++ bs ++ tail.drop bs.length) := by
  induction bs generalizing out tail with
  | nil => simp [writeBytes]
  | cons b bs ih =>
      cases tail with
      | nil => simp at h
      | cons c tail =>
          have hnext := ih (out ++ [b]) (show bs.length ≤ tail.length by simpa using h)
          rw [writeBytes, writeAt_append, Option.bind_some]
          simpa using hnext

/-! ### Searching a string -/

/-- The comparison of a text with what stands at a position, up to the first difference. -/
def matchAt (s : Bytes) (i : Nat) : Bytes → Option Bool
  | [] => some true
  | b :: needle =>
      (readAt s i).bind fun c => if c = b then matchAt s (i + 1) needle else some false

/-- `strstr`, from a position on: where it finds the needle. -/
def strstrAt (s needle : Bytes) (i : Nat) : Option (Option Nat) :=
  (matchAt s i needle).bind fun found =>
    if found then some (some i)
    else
      match h : readAt s i with
      | none => none
      | some c => if c = 0 then some none else strstrAt s needle (i + 1)
termination_by s.length + 1 - i
decreasing_by
  have := le_of_readAt h
  omega

/-- A comparison with a text without NULs ends at the NUL at the latest. -/
theorem matchAt_append {needle : Bytes} (hn : 0 ∉ needle) (p q : Bytes) :
    matchAt (p ++ q) p.length needle = some (decide (needle <+: q)) := by
  induction needle generalizing p q with
  | nil => simp [matchAt]
  | cons b needle ih =>
      obtain ⟨hb, hn⟩ := not_or.mp (List.mem_cons.not.mp hn)
      rw [matchAt, readAt_append, Option.bind_some]
      cases q with
      | nil => simp [hb]
      | cons c q =>
          by_cases hc : c = b
          · have hnext := ih hn (p ++ [c]) q
            rw [List.append_assoc, List.singleton_append, List.length_append,
              List.length_singleton] at hnext
            simp only [List.headD_cons, hc, if_true] at hnext ⊢
            rw [hnext]
            simp [List.cons_prefix_cons]
          · simp [hc, Ne.symm hc, List.cons_prefix_cons]

/-- The search at one position. -/
theorem strstrAt_step {needle : Bytes} (hn : 0 ∉ needle) (p q : Bytes) :
    strstrAt (p ++ q) needle p.length =
      if needle <+: q then some (some p.length)
      else if q.headD 0 = 0 then some none else strstrAt (p ++ q) needle (p.length + 1) := by
  rw [strstrAt, matchAt_append hn, Option.bind_some]
  by_cases hm : needle <+: q
  · simp only [hm, decide_true, if_true]
  · simp only [hm, decide_false, Bool.false_eq_true, if_false]
    split
    · rename_i h
      rw [readAt_append] at h
      cases h
    · rename_i c h
      rw [readAt_append, Option.some.injEq] at h
      rw [h]

/-- **The search** makes no access outside the string, and finds the first occurrence. -/
theorem strstrAt_append {needle : Bytes} (hn : 0 ∉ needle) (p : Bytes) {q : Bytes} (hq : 0 ∉ q) :
    ∃ found, strstrAt (p ++ q) needle p.length = some found ∧
      found.map ((p ++ q).drop ·) = strstr q needle := by
  induction q generalizing p with
  | nil =>
      rw [strstrAt_step hn, strstr]
      by_cases hm : needle = []
      · exact ⟨some p.length, by simp [hm], by simp [hm]⟩
      · exact ⟨none, by simp [hm], by simp [hm]⟩
  | cons c q ih =>
      obtain ⟨hc, hq⟩ := not_or.mp (List.mem_cons.not.mp hq)
      obtain ⟨found, h, hfound⟩ := ih (p ++ [c]) hq
      rw [List.append_assoc, List.singleton_append] at h hfound
      rw [List.length_append, List.length_singleton] at h
      rw [strstrAt_step hn, strstr]
      by_cases hm : needle <+: c :: q
      · exact ⟨some p.length, by simp [hm], by simp [hm]⟩
      · exact ⟨found, by simpa [hm, Ne.symm hc] using h, by simpa [hm] using hfound⟩

end Memory
