import Nearcade.Handshake.Applied

/-!
# Handshake — Extraction

`webrtc_handle_signaling` searches a message for its type and for two keys, and reads the text of a
member from behind its key.  It looks one byte ahead behind a backslash, and never further.

* `strstrAt_whole`: the searches, on the string's bytes.
* `unescape_scanned`: the text read is that up to the quote that ends it, with `\"` undone.
* `unescapeAt_append`: the loops read it without an access outside.
* `extraction`: all that the function reads of a message.
-/

namespace Nearcade.Handshake
open Text Memory
open Webrtc (messageType valueAfter unescape MsgType messageTypeAt valueAt unescapeAt textAt
  extractAt sdpKey candidateKey)

/-! ### The rule -/

/-- The text with each `\"` made a quote, and every other byte kept. -/
def undoQuotes : Bytes → Bytes
  | [] => []
  | [c] => [c]
  | c :: d :: p => if c = 92 ∧ d = 34 then 34 :: undoQuotes p else c :: undoQuotes (d :: p)

/-- A value in two: what stands before the first quote that does not come right behind a backslash
of the value, or before the end, and what stands from there on. -/
structure Scanned (body rest : Bytes) : Prop where
  quotes : ∀ a b, body = a ++ 34 :: b → ∃ a', a = a' ++ [92]
  stop : rest = [] ∨ (∃ r, rest = 34 :: r) ∧ ∀ b, body ≠ b ++ [92]

theorem Scanned.nil {rest : Bytes} (h : rest = [] ∨ ∃ r, rest = 34 :: r) : Scanned [] rest :=
  ⟨fun a b h => by simp at h, h.imp_right fun h => ⟨h, fun b h => by simp at h⟩⟩

/-- A byte before the value that is no quote, and no backslash before a quote. -/
theorem Scanned.cons {c : UInt8} {body rest : Bytes} (h : Scanned body rest) (hc : c ≠ 34)
    (hpair : c = 92 → ∀ p, body ++ rest ≠ 34 :: p) : Scanned (c :: body) rest := by
  refine ⟨?_, h.stop.imp_right fun hs => ⟨hs.1, ?_⟩⟩
  · rintro (_ | ⟨x, a⟩) b hab
    · exact absurd (List.cons.inj hab).1 hc
    · obtain ⟨rfl, hbody⟩ := List.cons.inj (List.cons_append ▸ hab)
      obtain ⟨a', rfl⟩ := h.quotes a b hbody
      exact ⟨c :: a', rfl⟩
  · rintro (_ | ⟨x, b⟩) hb
    · -- a backslash right before the quote that ends the value
      obtain ⟨hx, rfl⟩ := List.cons.inj hb
      obtain ⟨r, rfl⟩ := hs.1
      exact hpair hx r rfl
    · exact hs.2 b (List.cons.inj (List.cons_append ▸ hb)).2

/-- An escaped quote before the value. -/
theorem Scanned.pair {body rest : Bytes} (h : Scanned body rest) :
    Scanned (92 :: 34 :: body) rest := by
  refine ⟨?_, h.stop.imp_right fun hs => ⟨hs.1, ?_⟩⟩
  · rintro (_ | ⟨x, _ | ⟨y, a⟩⟩) b hab
    · exact absurd (List.cons.inj hab).1 (by decide)
    · exact ⟨[], congrArg (· :: []) (List.cons.inj hab).1.symm⟩
    · simp only [List.cons_append, List.cons.injEq] at hab
      obtain ⟨rfl, rfl, hbody⟩ := hab
      obtain ⟨a', rfl⟩ := h.quotes a b hbody
      exact ⟨92 :: 34 :: a', rfl⟩
  · rintro (_ | ⟨x, _ | ⟨y, b⟩⟩) hb
    · cases (List.cons.inj hb).2
    · exact absurd (List.cons.inj (List.cons.inj hb).2).1 (by decide)
    · simp only [List.cons_append, List.cons.injEq] at hb
      exact hs.2 b hb.2.2

theorem undoQuotes_cons {c : UInt8} {body : Bytes} (h : c = 92 → ∀ b, body ≠ 34 :: b) :
    undoQuotes (c :: body) = c :: undoQuotes body := by
  cases body with
  | nil => rfl
  | cons d p =>
      rw [undoQuotes, if_neg]
      rintro ⟨hc, rfl⟩
      exact h hc p rfl

/-- **The loop keeps to the rule**, on every value. -/
theorem unescape_scanned (v : Bytes) :
    ∃ body rest, v = body ++ rest ∧ Scanned body rest ∧ unescape v = (undoQuotes body, rest) := by
  induction v using Webrtc.unescape.induct with
  | case1 => exact ⟨[], [], rfl, .nil (.inl rfl), rfl⟩
  | case2 => exact ⟨[], [34], rfl, .nil (.inr ⟨[], rfl⟩), rfl⟩
  | case3 c h =>
      refine ⟨[c], [], rfl, (Scanned.nil (.inl rfl)).cons h (by simp), ?_⟩
      rw [unescape, if_neg h]
      rfl
  | case4 d p => exact ⟨[], 34 :: d :: p, rfl, .nil (.inr ⟨d :: p, rfl⟩), rfl⟩
  | case5 c d p h₁ h₂ ih =>
      obtain ⟨rfl, rfl⟩ := h₂
      obtain ⟨body, rest, rfl, hs, h⟩ := ih
      exact ⟨92 :: 34 :: body, rest, rfl, hs.pair, by rw [unescape_quote, h]; rfl⟩
  | case6 c d p h₁ h₂ ih =>
      obtain ⟨body, rest, hv, hs, h⟩ := ih
      -- no backslash before a quote
      have hpair : c = 92 → ∀ q, body ++ rest ≠ 34 :: q := by
        rintro hc q hq
        rw [← hv] at hq
        exact h₂ ⟨hc, (List.cons.inj hq).1⟩
      refine ⟨c :: body, rest, by rw [hv]; rfl, hs.cons h₁ hpair, ?_⟩
      rw [unescape, if_neg h₁, if_neg h₂, h, undoQuotes_cons fun hc b hb => ?_]
      exact hpair hc (b ++ rest) (by rw [hb]; rfl)

/-! ### The loops on the string's bytes -/

/-- One turn of the loops, or their end. -/
theorem unescapeAt_step (p q str : Bytes) :
    unescapeAt (p ++ q) p.length str =
      if q.headD 0 = 0 ∨ q.headD 0 = 34 then some (str, p.length)
      else if q.headD 0 = 92 then
        (readAt (p ++ q) (p.length + 1)).bind fun d =>
          if d = 34 then unescapeAt (p ++ q) (p.length + 2) (str ++ [34])
          else unescapeAt (p ++ q) (p.length + 1) (str ++ [q.headD 0])
      else unescapeAt (p ++ q) (p.length + 1) (str ++ [q.headD 0]) := by
  rw [unescapeAt]
  split
  · rename_i h
    rw [readAt_append] at h
    cases h
  · rename_i c h
    rw [readAt_append, Option.some.injEq] at h
    rw [h]

theorem readAt_next (p : Bytes) (c : UInt8) (q : Bytes) :
    readAt (p ++ c :: q) (p.length + 1) = some (q.headD 0) := by
  have h := readAt_append (p ++ [c]) q
  rwa [List.append_assoc, List.singleton_append, List.length_append,
    List.length_singleton] at h

/-- A byte that is kept. -/
theorem unescapeAt_plain {c : UInt8} {q : Bytes} (h0 : c ≠ 0) (hc : c ≠ 34)
    (hpair : ¬(c = 92 ∧ q.headD 0 = 34)) (p str : Bytes) :
    unescapeAt (p ++ c :: q) p.length str =
      unescapeAt (p ++ [c] ++ q) (p ++ [c]).length (str ++ [c]) := by
  rw [unescapeAt_step, List.headD_cons, if_neg (not_or.mpr ⟨h0, hc⟩), readAt_next,
    Option.bind_some, List.append_assoc, List.singleton_append, List.length_append,
    List.length_singleton]
  by_cases h : c = 92
  · rw [if_pos h, if_neg fun hd => hpair ⟨h, hd⟩]
  · rw [if_neg h]

/-- A quote behind a backslash. -/
theorem unescapeAt_quote (p q str : Bytes) :
    unescapeAt (p ++ 92 :: 34 :: q) p.length str =
      unescapeAt (p ++ [92, 34] ++ q) (p ++ [92, 34]).length (str ++ [34]) := by
  rw [unescapeAt_step, List.headD_cons, if_neg (by decide), if_pos rfl, readAt_next,
    Option.bind_some, List.headD_cons, if_pos rfl, List.append_assoc, List.length_append]
  rfl

/-- **The loops**, with `str` extracted so far: every access is inside, and they read what the loop
on texts does. -/
theorem unescapeAt_append {q : Bytes} (hq : 0 ∉ q) (p str : Bytes) :
    unescapeAt (p ++ q) p.length str =
      some (str ++ (unescape q).1, (p ++ q).length - (unescape q).2.length) := by
  induction q using Webrtc.unescape.induct generalizing p str with
  | case1 =>
      rw [unescapeAt_step, List.headD_nil, if_pos (.inl rfl)]
      simp [unescape]
  | case2 =>
      rw [unescapeAt_step, List.headD_cons, if_pos (.inr rfl)]
      simp [unescape]
  | case3 c h =>
      have hc : c ≠ 0 := fun hc => hq (by simp [hc])
      rw [unescapeAt_plain hc h (by simp), unescapeAt_step, List.headD_nil, if_pos (.inl rfl)]
      simp [unescape, h]
  | case4 d p' =>
      rw [unescapeAt_step, List.headD_cons, if_pos (.inr rfl)]
      simp [unescape]
  | case5 c d p' h₁ h₂ ih =>
      obtain ⟨rfl, rfl⟩ := h₂
      have hp' : 0 ∉ p' := fun h => hq (List.mem_cons_of_mem _ (List.mem_cons_of_mem _ h))
      rw [unescapeAt_quote, ih hp', unescape_quote]
      simp
  | case6 c d p' h₁ h₂ ih =>
      obtain ⟨hc, hq⟩ := not_or.mp (List.mem_cons.not.mp hq)
      rw [unescapeAt_plain (q := d :: p') (Ne.symm hc) h₁ h₂, ih hq, unescape, if_neg h₁, if_neg h₂]
      simp

/-! ### The searches -/

/-- **A search of the whole message.** -/
theorem strstrAt_whole {needle data : Bytes} (hn : 0 ∉ needle) (hd : 0 ∉ data) :
    ∃ found, strstrAt data needle 0 = some found ∧
      found.map (data.drop ·) = strstr data needle :=
  strstrAt_append hn [] hd

theorem strstrAt_isSome {needle data : Bytes} (hn : 0 ∉ needle) (hd : 0 ∉ data) :
    ∃ found, strstrAt data needle 0 = some found ∧
      found.isSome = (strstr data needle).isSome := by
  obtain ⟨found, h, hfound⟩ := strstrAt_whole hn hd
  exact ⟨found, h, by rw [← hfound, Option.isSome_map]⟩

/-- The type, on the string's bytes. -/
theorem messageTypeAt_eq {data : Bytes} (hd : 0 ∉ data) :
    messageTypeAt data = some (messageType data) := by
  obtain ⟨answer, ha, ea⟩ := @strstrAt_isSome (bytes "\"answer\"") _ (by decide) hd
  obtain ⟨offer, ho, eo⟩ := @strstrAt_isSome (bytes "\"offer\"") _ (by decide) hd
  obtain ⟨ice, hi, ei⟩ := @strstrAt_isSome (bytes "\"ice\"") _ (by decide) hd
  rw [messageTypeAt, messageType, ha, ho, hi, ← ea, ← eo, ← ei]
  simp only [Option.bind_some, Option.map_some]
  split_ifs <;> rfl

theorem Payload.key_no_nul (k : Payload) : 0 ∉ k.key := by
  cases k <;> decide

/-- The position behind a key, on the string's bytes. -/
theorem valueAt_eq (k : Payload) {data : Bytes} (hd : 0 ∉ data) :
    ∃ found, valueAt k.key data = some found ∧
      found.map (data.drop ·) = valueAfter k.key data ∧ ∀ i ∈ found, i ≤ data.length := by
  obtain ⟨found, h, hfound⟩ := strstrAt_whole k.key_no_nul hd
  refine ⟨found.map (· + k.key.length), by rw [valueAt, h, Option.map_some], ?_, ?_⟩
  · rw [valueAfter, ← hfound]
    cases found with
    | none => rfl
    | some i => simp [List.drop_drop]
  · intro i hi
    obtain ⟨j, rfl, rfl⟩ := Option.map_eq_some_iff.mp hi
    -- the key stands at the position, in the string
    obtain ⟨pre, -, hkey, -⟩ := strstr_eq_some hfound.symm
    have hlen := hkey.length_le
    have hpos : 0 < k.key.length := by cases k <;> decide
    rw [List.length_drop] at hlen
    omega

/-- What stands behind the first occurrence of a key. -/
structure Behind (key data pre v : Bytes) : Prop where
  split : data = pre ++ key ++ v
  first : ∀ a b, data = a ++ key ++ b → pre.length ≤ a.length

/-- **The position found** is that behind the key's first occurrence. -/
theorem valueAt_behind {k : Payload} {data v : Bytes} (h : valueAfter k.key data = some v) :
    ∃ pre, Behind k.key data pre v := by
  obtain ⟨w, hw, rfl⟩ := Option.map_eq_some_iff.mp h
  obtain ⟨pre, rfl, ⟨t, rfl⟩, hfirst⟩ := strstr_eq_some hw
  exact ⟨pre, by rw [List.drop_left, List.append_assoc], hfirst⟩

/-! ### A message -/

/-- The text of the member that the type needs, if its key was found. -/
def memberText (data : Bytes) : MsgType → Option Bytes
  | .answer => (valueAfter sdpKey data).map fun v => (unescape v).1
  | .ice => (valueAfter candidateKey data).map fun v => (unescape v).1
  | .offer => none

/-- What a search for a key found, and what the loops read there: the value, up to the quote that
ends it. -/
def Extracted (key data : Bytes) : Option Nat → Prop
  | none => ¬key <:+: data
  | some i => ∃ pre body rest, Behind key data pre (body ++ rest) ∧ i = (pre ++ key).length ∧
      Scanned body rest ∧ unescapeAt data i [] = some (undoQuotes body, i + body.length)

/-- What the loops read from a position on. -/
theorem unescapeAt_drop {data : Bytes} (hd : 0 ∉ data) {i : Nat} (hi : i ≤ data.length) :
    unescapeAt data i [] =
      some ((unescape (data.drop i)).1, data.length - (unescape (data.drop i)).2.length) := by
  have hq : 0 ∉ data.drop i := fun h => hd (List.mem_of_mem_drop h)
  have h := unescapeAt_append hq (data.take i) []
  rwa [List.take_append_drop, List.length_take, Nat.min_eq_left hi, List.nil_append] at h

/-- **A member** is where its key was found, and its text is that of the value. -/
theorem extracted (k : Payload) {data : Bytes} (hd : 0 ∉ data) :
    ∃ found, valueAt k.key data = some found ∧ Extracted k.key data found := by
  obtain ⟨found, h, hfound, hle⟩ := valueAt_eq k hd
  refine ⟨found, h, ?_⟩
  cases found with
  | none =>
      intro hk
      obtain ⟨w, hw⟩ := Option.isSome_iff_exists.mp (strstr_isSome_iff.mpr hk)
      rw [valueAfter, hw] at hfound
      cases hfound
  | some i =>
      have hi : i ≤ data.length := hle i rfl
      obtain ⟨pre, hpre⟩ := valueAt_behind hfound.symm
      obtain ⟨body, rest, hv, hs, hun⟩ := unescape_scanned (data.drop i)
      have hlen := congrArg List.length hpre.split
      have hvlen := congrArg List.length hv
      simp only [List.length_append, List.length_drop] at hlen hvlen
      refine ⟨pre, body, rest, hv ▸ hpre, ?_, hs, ?_⟩
      · rw [List.length_append]
        omega
      · rw [unescapeAt_drop hd hi, hun]
        simp only [Option.some.injEq, Prod.mk.injEq, true_and]
        omega

/-- The text of a member, on the string's bytes. -/
theorem textAt_eq (k : Payload) {data : Bytes} (hd : 0 ∉ data) :
    ∃ found, valueAt k.key data = some found ∧
      textAt data found = some ((valueAfter k.key data).map fun v => (unescape v).1) := by
  obtain ⟨found, h, hfound, hle⟩ := valueAt_eq k hd
  refine ⟨found, h, ?_⟩
  rw [← hfound]
  cases found with
  | none => rfl
  | some i => rw [textAt, unescapeAt_drop hd (hle i rfl)]; rfl

theorem extractAt_eq {data : Bytes} (hd : 0 ∉ data) :
    extractAt data = some ((messageType data).map fun T => (T, memberText data T)) := by
  rw [extractAt, messageTypeAt_eq hd, Option.bind_some]
  cases messageType data with
  | none => rfl
  | some T =>
      obtain ⟨sdpVal, (hs : valueAt sdpKey data = _), hsdp⟩ := textAt_eq .answer hd
      obtain ⟨candVal, (hc : valueAt candidateKey data = _), hcand⟩ := textAt_eq .ice hd
      simp only [hs, hc, Option.bind_some]
      cases T with
      | answer => rw [hsdp]; rfl
      | offer => rfl
      | ice => rw [hcand]; rfl

/-- **What `webrtc_handle_signaling` reads of a message.**  For every message, its searches and its
loops end, and make no access outside the string and its NUL.  It reads the message's type, and the
text of the member that the type needs; and each key's member is read from right behind the key up
to the first quote with no backslash of the value right before it. -/
theorem extraction {data : Bytes} (hd : 0 ∉ data) :
    extractAt data = some ((messageType data).map fun T => (T, memberText data T)) ∧
      ∀ k : Payload, ∃ found, valueAt k.key data = some found ∧ Extracted k.key data found :=
  ⟨extractAt_eq hd, fun k => extracted k hd⟩

/-- An answer with an escaped quote, cut behind a backslash. -/
def cutAnswer : Bytes := bytes "\x7b\"type\":\"answer\",\"sdp\":\"a\\\"b\\"

theorem extraction_cutAnswer :
    extractAt cutAnswer =
        some ((messageType cutAnswer).map fun T => (T, memberText cutAnswer T)) ∧
      ∀ k : Payload, ∃ found, valueAt k.key cutAnswer = some found ∧
        Extracted k.key cutAnswer found :=
  extraction (by decide)

end Nearcade.Handshake
