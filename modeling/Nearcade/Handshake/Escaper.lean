import Nearcade.Handshake.Relay

/-!
# Handshake — Escaper

`json_escape` writes a text into a buffer, escaped.  It stops where the buffer is full; but where
one byte is left besides the NUL, and the next character needs two, it leaves that character out
and goes on with the next.

* `jsonEscapeLoopAt_append`: on the buffers, it makes no access outside, and leaves the text that
  `jsonEscape` says.
* `escapes_within`: it is terminated, splits no escape, and is undone to a subsequence of the input.
* `undone_prefix_iff`: when it is undone to a prefix.
-/

namespace Nearcade.Handshake
open Text Memory
open Signaling (escapeByte jsonEscape jsonEscapeLoop jsonEscapeAt jsonEscapeLoopAt)

/-! ### Undoing the escapes -/

/-- The character an escape stands for: of the five that `json_escape` makes, by the second
byte. -/
def escapedBy (x : UInt8) : Option UInt8 :=
  ([(34, 34), (92, 92), (110, 10), (114, 13), (116, 9)] : List (UInt8 × UInt8)).lookup x

/-- The text with the escapes undone.  A backslash that begins none of the five has no result, and
neither has a quote, LF, CR or TAB by itself. -/
def undoEscapes : Bytes → Option Bytes
  | [] => some []
  | c :: rest =>
      if c = 92 then
        match rest with
        | [] => none
        | x :: rest => (escapedBy x).bind fun c => (undoEscapes rest).map (c :: ·)
      else if c = 34 ∨ c = 10 ∨ c = 13 ∨ c = 9 then none
      else (undoEscapes rest).map (c :: ·)

theorem undoEscapes_escapeByte (c : UInt8) (t : Bytes) :
    undoEscapes (escapeByte c ++ t) = (undoEscapes t).map (c :: ·) := by
  rw [escapeByte]
  split_ifs with h₁ h₂ h₃ h₄ h₅
  · exact h₁ ▸ rfl
  · exact h₂ ▸ rfl
  · exact h₃ ▸ rfl
  · exact h₄ ▸ rfl
  · exact h₅ ▸ rfl
  · rw [List.singleton_append, undoEscapes.eq_def]
    simp only [h₁, h₂, h₃, h₄, h₅, or_false, if_false]

/-- **Undoing what was escaped.** -/
theorem undoEscapes_escape (t : Bytes) : undoEscapes (escape t) = some t := by
  induction t with
  | nil => rfl
  | cons c t ih => rw [escape_cons, undoEscapes_escapeByte, ih, Option.map_some]

/-- No LF, CR, TAB or NUL. -/
def Clean (d : UInt8) : Prop := d ≠ 10 ∧ d ≠ 13 ∧ d ≠ 9 ∧ d ≠ 0

theorem clean_pair {x d : UInt8} (hx : Clean x) (hd : d ∈ [92, x]) : Clean d := by
  rcases List.mem_pair.mp hd with rfl | rfl
  · exact ⟨by decide, by decide, by decide, by decide⟩
  · exact hx

/-- What a byte becomes is clean, unless it is a NUL. -/
theorem clean_escapeByte {c d : UInt8} (hc : c ≠ 0) (hd : d ∈ escapeByte c) : Clean d := by
  rw [escapeByte] at hd
  split_ifs at hd with h₁ h₂ h₃ h₄ h₅
  · exact clean_pair (x := 34) ⟨by decide, by decide, by decide, by decide⟩ hd
  · exact clean_pair (x := 92) ⟨by decide, by decide, by decide, by decide⟩ hd
  · exact clean_pair (x := 110) ⟨by decide, by decide, by decide, by decide⟩ hd
  · exact clean_pair (x := 114) ⟨by decide, by decide, by decide, by decide⟩ hd
  · exact clean_pair (x := 116) ⟨by decide, by decide, by decide, by decide⟩ hd
  · obtain rfl := List.mem_singleton.mp hd
    exact ⟨h₃, h₄, h₅, hc⟩

theorem clean_escape {t : Bytes} (ht : 0 ∉ t) {d : UInt8} (hd : d ∈ escape t) : Clean d := by
  obtain ⟨c, hc, hd⟩ := List.mem_flatMap.mp hd
  refine clean_escapeByte ?_ hd
  rintro rfl
  exact ht hc

/-! ### The loop on the buffers -/

/-- One turn of the loop, or its end. -/
theorem jsonEscapeLoopAt_step (n j : Nat) (p q out : Bytes) :
    jsonEscapeLoopAt (p ++ q) n p.length j out =
      if q.headD 0 ≠ 0 ∧ j < n - 1 then
        if (escapeByte (q.headD 0)).length = 1 ∨ j + 2 < n then
          (writeBytes out j (escapeByte (q.headD 0))).bind fun out =>
            jsonEscapeLoopAt (p ++ q) n (p.length + 1) (j + (escapeByte (q.headD 0)).length) out
        else jsonEscapeLoopAt (p ++ q) n (p.length + 1) j out
      else writeAt out j 0 := by
  rw [jsonEscapeLoopAt]
  split
  · rename_i h
    rw [readAt_append] at h
    cases h
  · rename_i c h
    rw [readAt_append, Option.some.injEq] at h
    rw [h]

/-- The NUL behind what is written. -/
theorem writeAt_end {n : Nat} {out tail : Bytes} (hlen : out.length + tail.length = n)
    (htail : 0 < tail.length) :
    ∃ rest, writeAt (out ++ tail) out.length 0 = some (out ++ 0 :: rest) ∧
      out.length + 1 + rest.length = n := by
  obtain ⟨b, tail, rfl⟩ := List.exists_cons_of_length_pos htail
  refine ⟨tail, writeAt_append out b 0 tail, ?_⟩
  rw [List.length_cons] at hlen
  omega

/-- **The loop on the buffers**, with `out` written so far and room for the NUL behind it: every
access is inside, and it leaves what the loop on texts does, and a NUL. -/
theorem jsonEscapeLoopAt_append {n : Nat} {q : Bytes} (hq : 0 ∉ q) (p : Bytes) {out tail : Bytes}
    (hlen : out.length + tail.length = n) (htail : 0 < tail.length) :
    ∃ rest, jsonEscapeLoopAt (p ++ q) n p.length out.length (out ++ tail) =
        some (jsonEscapeLoop n q out ++ 0 :: rest) ∧
      (jsonEscapeLoop n q out).length + 1 + rest.length = n := by
  induction q generalizing p out tail with
  | nil =>
      rw [jsonEscapeLoopAt_step, jsonEscapeLoop]
      exact writeAt_end hlen htail
  | cons c q ih =>
      obtain ⟨hc, hq⟩ := not_or.mp (List.mem_cons.not.mp hq)
      have hp : p ++ c :: q = (p ++ [c]) ++ q := by simp
      have hplen : p.length + 1 = (p ++ [c]).length := by simp
      rw [jsonEscapeLoopAt_step, jsonEscapeLoop, List.headD_cons]
      by_cases hroom : out.length < n - 1
      · rw [if_pos ⟨Ne.symm hc, hroom⟩, if_pos hroom]
        by_cases hfit : (escapeByte c).length = 1 ∨ out.length + 2 < n
        · have hone := escapeByte_length_cases c
          rw [if_pos hfit, if_pos hfit, writeBytes_append out (by omega), Option.bind_some, hp,
            hplen, ← List.length_append]
          refine ih hq (p ++ [c]) ?_ ?_
          all_goals
            simp only [List.length_append, List.length_drop]
            omega
        · rw [if_neg hfit, if_neg hfit, hp, hplen]
          exact ih hq (p ++ [c]) hlen htail
      · rw [if_neg fun h => hroom h.2, if_neg hroom]
        exact writeAt_end hlen htail

/-- **`json_escape` on the buffers.** -/
theorem jsonEscapeAt_eq {s buf : Bytes} (hs : 0 ∉ s) (hbuf : 0 < buf.length) :
    ∃ rest, jsonEscapeAt s buf.length buf = some (jsonEscape s buf.length ++ 0 :: rest) ∧
      (jsonEscape s buf.length).length + 1 + rest.length = buf.length :=
  @jsonEscapeLoopAt_append _ _ hs [] [] _ (Nat.zero_add _) hbuf

/-! ### In bounds, whole and exact -/

/-- A text escaped, of an input, with room for so many bytes. -/
structure WellEscaped (s : Bytes) (room : Nat) (out : Bytes) : Prop where
  /-- Every quote ends an escape. -/
  quotes : ∀ a b, out = a ++ 34 :: b → ∃ a', a = a' ++ [92] ∧ (undoEscapes a').isSome
  breaks : 10 ∉ out ∧ 13 ∉ out ∧ 9 ∉ out
  undone : ∃ u, undoEscapes out = some u ∧ u.Sublist s
  /-- The full escape, undone, is the input. -/
  full : undoEscapes (escape s) = some s
  whole : (escape s).length ≤ room → out = escape s

/-- **`json_escape` is in bounds, splits no escape, and is exact where there is room.**  For every
input and every buffer, which it is given the size of, no access is outside, and the buffer then
holds a well escaped text, terminated. -/
theorem escapes_within {s buf : Bytes} (hs : 0 ∉ s) (hbuf : 1 ≤ buf.length) :
    ∃ out rest, jsonEscapeAt s buf.length buf = some (out ++ 0 :: rest) ∧
      out.length + 1 + rest.length = buf.length ∧ 0 ∉ out ∧
      WellEscaped s (buf.length - 1) out := by
  obtain ⟨rest, h, hlen⟩ := jsonEscapeAt_eq hs hbuf
  obtain ⟨t, ht, hsub⟩ := jsonEscape_kept s buf.length
  have ht0 : 0 ∉ t := fun h0 => hs (hsub.subset h0)
  refine ⟨jsonEscape s buf.length, rest, h, hlen, ?_, ?_, ?_, ?_, undoEscapes_escape s, ?_⟩
  · rw [ht]
    exact fun h0 => (clean_escape ht0 h0).2.2.2 rfl
  · intro a b hab
    rw [ht] at hab
    obtain ⟨t₁, t₂, -, rfl⟩ := quote_escaped hab
    exact ⟨escape t₁, rfl, by rw [undoEscapes_escape]; rfl⟩
  · rw [ht]
    exact ⟨fun h0 => (clean_escape ht0 h0).1 rfl, fun h0 => (clean_escape ht0 h0).2.1 rfl,
      fun h0 => (clean_escape ht0 h0).2.2.1 rfl⟩
  · exact ⟨t, by rw [ht, undoEscapes_escape], hsub⟩
  · intro hroom
    refine jsonEscape_eq ?_
    rw [← escape]
    omega

/-- With no room at all but the NUL's, and with plenty. -/
theorem escapes_within_a_quote :
    (∃ out rest, jsonEscapeAt (bytes "a\"b") 1 [255] = some (out ++ 0 :: rest) ∧
      out.length + 1 + rest.length = 1 ∧ 0 ∉ out ∧ WellEscaped (bytes "a\"b") 0 out) ∧
    ∃ out rest, jsonEscapeAt (bytes "a\"b") 8 (List.replicate 8 255) =
        some (out ++ 0 :: rest) ∧
      out.length + 1 + rest.length = 8 ∧ 0 ∉ out ∧ WellEscaped (bytes "a\"b") 7 out :=
  ⟨@escapes_within _ [255] (by decide) (by decide),
    @escapes_within _ (List.replicate 8 255) (by decide) (by decide)⟩

/-! ### What is lost from the middle -/

/-- A character that needs an escape comes where one byte is left besides the NUL. -/
structure Cut (s : Bytes) (n : Nat) (p : Bytes) (c : UInt8) (q : Bytes) : Prop where
  eq : s = p ++ c :: q
  room : (escape p).length + 2 = n
  long : (escapeByte c).length = 2

theorem jsonEscapeLoop_full {n : Nat} (q : Bytes) {out : Bytes} (h : n ≤ out.length + 1) :
    jsonEscapeLoop n q out = out := by
  cases q with
  | nil => rfl
  | cons c q => rw [jsonEscapeLoop, if_neg (by omega)]

/-- **Behind the cut**, the first character that needs no escape takes the last byte. -/
theorem jsonEscapeLoop_last {n : Nat} {t : Bytes} (q : Bytes) (h : (escape t).length + 2 = n) :
    jsonEscapeLoop n q (escape t) =
      escape (t ++ (q.find? fun d => (escapeByte d).length = 1).toList) := by
  induction q with
  | nil => rw [List.find?_nil, Option.toList_none, List.append_nil]; rfl
  | cons c q ih =>
      rw [jsonEscapeLoop, if_pos (by omega)]
      by_cases hc : (escapeByte c).length = 1
      · rw [if_pos (.inl hc), List.find?_cons_of_pos (by simpa using hc), Option.toList_some,
          escape_append, escape_singleton]
        refine jsonEscapeLoop_full q ?_
        rw [List.length_append]
        omega
      · rw [if_neg (by omega), List.find?_cons_of_neg (by simpa using hc)]
        exact ih

theorem Cut.jsonEscape_eq {s p q : Bytes} {n : Nat} {c : UInt8} (h : Cut s n p c q) :
    jsonEscape s n = escape (p ++ (q.find? fun d => (escapeByte d).length = 1).toList) := by
  have hroom := h.room
  have hfits : jsonEscapeLoop n (p ++ c :: q) [] = jsonEscapeLoop n (c :: q) (escape p) :=
    @jsonEscapeLoop_append _ _ [] _ (show (escape p).length < n by omega)
  rw [jsonEscape, h.eq, hfits, jsonEscapeLoop_last _ hroom,
    List.find?_cons_of_neg (by simp [h.long])]

/-- Without a cut, what is kept is a prefix. -/
theorem jsonEscapeLoop_uncut {s : Bytes} {n : Nat} (h : ∀ p c q, ¬Cut s n p c q) {q t : Bytes}
    (hs : s = t ++ q) : ∃ u, jsonEscapeLoop n q (escape t) = escape u ∧ u <+: s := by
  induction q generalizing t with
  | nil => exact ⟨t, rfl, hs ▸ List.prefix_append ..⟩
  | cons c q ih =>
      rw [jsonEscapeLoop]
      split_ifs with hroom hfit
      · have hnext := ih (t := t ++ [c]) (by rw [hs]; simp)
        rwa [escape_append, escape_singleton] at hnext
      · have hlen := escapeByte_length_cases c
        exact absurd ⟨hs, by omega, by omega⟩ (h t c q)
      · exact ⟨t, rfl, hs ▸ List.prefix_append ..⟩

/-- **When what is kept is a prefix.**  For every input and every size of the buffer, what
`json_escape` leaves is undone to a prefix of the input just when only characters that need an
escape too stand behind one that comes where a single byte is left besides the NUL. -/
theorem undone_prefix_iff (s : Bytes) (n : Nat) :
    (∃ u, undoEscapes (jsonEscape s n) = some u ∧ u <+: s) ↔
      ∀ p c q, Cut s n p c q → ∀ d ∈ q, (escapeByte d).length = 2 := by
  constructor
  · rintro ⟨u, hu, hpre⟩ p c q hcut d hd
    rw [hcut.jsonEscape_eq, undoEscapes_escape, Option.some.injEq] at hu
    have hlen := escapeByte_length_cases d
    by_contra hne
    -- the character that takes the last byte is not the one that was cut
    have hsome : (q.find? fun d => (escapeByte d).length = 1).isSome = true :=
      List.find?_isSome.mpr ⟨d, hd, by simpa using hlen.resolve_right hne⟩
    obtain ⟨e, he⟩ := Option.isSome_iff_exists.mp hsome
    rw [← hu, he, hcut.eq, Option.toList_some, List.prefix_append_right_inj] at hpre
    have hone : (escapeByte e).length = 1 := by simpa using List.find?_some he
    obtain ⟨rfl, -⟩ := List.cons_prefix_cons.mp hpre
    rw [hcut.long] at hone
    cases hone
  · intro h
    by_cases hcut : ∃ p c q, Cut s n p c q
    · obtain ⟨p, c, q, hcut⟩ := hcut
      have hnone : q.find? (fun d => (escapeByte d).length = 1) = none := by
        refine List.find?_eq_none.mpr fun d hd => ?_
        simp [h p c q hcut d hd]
      refine ⟨p, ?_, hcut.eq ▸ List.prefix_append ..⟩
      rw [hcut.jsonEscape_eq, hnone, Option.toList_none, List.append_nil, undoEscapes_escape]
    · simp only [not_exists] at hcut
      obtain ⟨u, hu, hpre⟩ := jsonEscapeLoop_uncut hcut (t := []) rfl
      exact ⟨u, by rw [← undoEscapes_escape u, ← hu]; rfl, hpre⟩

/-- A quote that does not fit 4096 bytes is left out of the middle of the text. -/
theorem undone_prefix_fails : ¬∀ (s : Bytes) (n : Nat), 0 ∉ s → 1 ≤ n →
    ∃ u, undoEscapes (jsonEscape s n) = some u ∧ u <+: s := by
  intro h
  have hp : (escape (List.replicate 4094 97)).length = 4094 := by
    rw [escape, flatMap_escapeByte_length, List.length_replicate, List.count_replicate,
      List.countP_replicate]
    rfl
  have hcut : Cut (List.replicate 4094 97 ++ [34, 98]) 4096 (List.replicate 4094 97) 34 [98] :=
    ⟨rfl, by rw [hp], rfl⟩
  have hs : (0 : UInt8) ∉ List.replicate 4094 97 ++ [34, 98] := by
    intro h0
    rcases List.mem_append.mp h0 with h0 | h0
    · exact absurd (List.eq_of_mem_replicate h0) (by decide)
    · exact absurd h0 (by decide)
  obtain ⟨u, hu, hpre⟩ := h _ 4096 hs (by decide)
  rw [hcut.jsonEscape_eq, undoEscapes_escape, Option.some.injEq] at hu
  rw [← hu, List.prefix_append_right_inj] at hpre
  exact absurd hpre (by decide)

end Nearcade.Handshake
