import Nearcade.Handshake.Incoming

/-!
# Handshake — Dispatch

`webrtc_handle_signaling` looks for `"answer"`, `"offer"` and `"ice"`, in this order and anywhere in
the message, so the payload can speak for the type.

* `quote_escaped`: a quote in an escaped text has a backslash before it.  So a quoted word that
  reaches into the payload ends at the quote that closes it.
* `contains_iff`: it does just when the payload, behind its opening quote, ends in the word behind a
  quote.
* `dispatched_iff`: when a message is taken for what it is.
-/

namespace Nearcade.Handshake
open Text
open Webrtc (MsgType messageType valueAfter sdpKey candidateKey)

/-! ### The format -/

/-- The value of the member `type`. -/
def word : MsgType → Bytes
  | .answer => bytes "answer"
  | .offer => bytes "offer"
  | .ice => bytes "ice"

/-- The message up to its payload's opening quote. -/
def head : MsgType → Bytes
  | .answer => bytes "\x7b\"type\":\"answer\",\"sdp\":"
  | .offer => bytes "\x7b\"type\":\"offer\",\"sdp\":"
  | .ice => bytes "\x7b\"type\":\"ice\",\"candidate\":"

/-- A message in the SDK's own format. -/
def ownMessage (T : MsgType) (s : Bytes) : Bytes :=
  head T ++ [34] ++ (fullEscape s ++ bytes "\"\x7d")

theorem opening_eq (k : Payload) : k.opening = head k.branch ++ [34] := by
  cases k <;> decide +kernel

/-- The messages whose payload is extracted are those of `Payload`. -/
theorem ownMessage_branch (k : Payload) (s : Bytes) : ownMessage k.branch s = message k s := by
  rw [message, opening_eq, ownMessage]

/-- The message is taken for one of its type, and its payload is read from the member's value. -/
def Dispatched (T : MsgType) (s : Bytes) : Prop :=
  messageType (ownMessage T s) = some T ∧
    (T = .answer → valueAfter sdpKey (ownMessage T s) = some (fullEscape s ++ bytes "\"\x7d")) ∧
    (T = .ice → valueAfter candidateKey (ownMessage T s) = some (fullEscape s ++ bytes "\"\x7d"))

/-- The types that are looked for before one. -/
def before : MsgType → List MsgType
  | .answer => []
  | .offer => [.answer]
  | .ice => [.answer, .offer]

/-- The word in its quotes. -/
def quoted (K : MsgType) : Bytes := 34 :: word K ++ [34]

/-- The type found is the first whose quoted word occurs. -/
theorem messageType_eq_some {data : Bytes} {T : MsgType} :
    messageType data = some T ↔ quoted T <:+: data ∧ ∀ K ∈ before T, ¬ quoted K <:+: data := by
  have h₁ : bytes "\"answer\"" = quoted .answer := by decide
  have h₂ : bytes "\"offer\"" = quoted .offer := by decide
  have h₃ : bytes "\"ice\"" = quoted .ice := by decide
  simp only [messageType, h₁, h₂, h₃, strstr_isSome_iff]
  by_cases ha : quoted .answer <:+: data
  · rw [if_pos ha]
    cases T <;> simp [before, ha]
  · rw [if_neg ha]
    by_cases ho : quoted .offer <:+: data
    · rw [if_pos ho]
      cases T <;> simp [before, ha, ho]
    · rw [if_neg ho]
      by_cases hi : quoted .ice <:+: data <;> cases T <;> simp [before, ha, ho, hi]

/-! ### Quotes in an escaped text -/

/-- **What `json_escape` makes of a byte**: of a quote its escape, another escape, or the byte. -/
theorem escapeByte_cases (c : UInt8) :
    (c = 34 ∧ Signaling.escapeByte c = [92, 34]) ∨
    (c ≠ 34 ∧ ∃ y, y ≠ 34 ∧ Signaling.escapeByte c = [92, y]) ∨
    (c ≠ 34 ∧ c ≠ 92 ∧ Signaling.escapeByte c = [c]) := by
  simp only [Signaling.escapeByte]
  split_ifs with h₁ h₂ h₃ h₄ h₅
  · exact .inl ⟨h₁, by decide⟩
  · exact .inr (.inl ⟨h₁, 92, by decide, by decide⟩)
  · exact .inr (.inl ⟨h₁, 110, by decide, by decide⟩)
  · exact .inr (.inl ⟨h₁, 114, by decide, by decide⟩)
  · exact .inr (.inl ⟨h₁, 116, by decide, by decide⟩)
  · exact .inr (.inr ⟨h₁, h₂, rfl⟩)

/-- A quote in what one byte becomes is the second of two. -/
theorem quote_of_escapeByte {c : UInt8} {a b : Bytes}
    (h : Signaling.escapeByte c = a ++ 34 :: b) : c = 34 ∧ a = [92] ∧ b = [] := by
  rcases escapeByte_cases c with ⟨rfl, e⟩ | ⟨-, y, hy, e⟩ | ⟨hc, -, e⟩ <;> rw [e] at h
  · rcases a with _ | ⟨x, _ | ⟨z, a⟩⟩ <;> simp_all
  · rcases a with _ | ⟨x, _ | ⟨z, a⟩⟩ <;> simp_all
  · rcases a with _ | ⟨x, a⟩ <;> simp_all

/-- **A quote in an escaped text has a backslash before it**: it is the second byte of an escape. -/
theorem quote_escaped {s a b : Bytes} (h : s.flatMap Signaling.escapeByte = a ++ 34 :: b) :
    ∃ s₁ s₂, s = s₁ ++ 34 :: s₂ ∧ a = s₁.flatMap Signaling.escapeByte ++ [92] := by
  induction s generalizing a with
  | nil => simp at h
  | cons c s ih =>
      rw [List.flatMap_cons] at h
      rcases List.append_eq_append_iff.mp h with ⟨m, rfl, hm⟩ | ⟨m, hc, hm⟩
      · obtain ⟨s₁, s₂, rfl, rfl⟩ := ih hm
        exact ⟨c :: s₁, s₂, rfl, by rw [List.flatMap_cons, List.append_assoc]⟩
      · rcases m with _ | ⟨x, m⟩
        · -- the rest does not begin with a quote
          obtain ⟨s₁, s₂, -, ha⟩ := ih (a := []) hm.symm
          simp at ha
        · obtain ⟨rfl, -⟩ := List.cons.inj hm
          obtain ⟨rfl, rfl, -⟩ := quote_of_escapeByte hc
          exact ⟨[], s, rfl, rfl⟩

/-- A quote with neither a quote nor a backslash before it: in the head `P`, or the one that closes
the payload. -/
theorem closing_quote {P s b post : Bytes} (hb : ∀ (a : Bytes) (x : UInt8), x = 34 ∨ x = 92 →
      b ≠ a ++ [x])
    (h : b ++ 34 :: post = (P ++ [34]) ++ (s.flatMap Signaling.escapeByte ++ [34, 125])) :
    b ++ [34] <+: P ++ [34] ∨ b = P ++ [34] ++ s.flatMap Signaling.escapeByte := by
  rcases List.append_eq_append_iff.mp h with ⟨m, hm, hpost⟩ | ⟨m, rfl, hrest⟩
  · rcases m with _ | ⟨x, m⟩
    · rw [List.append_nil] at hm
      exact absurd hm.symm (hb P 34 (.inl rfl))
    · obtain ⟨rfl, -⟩ := List.cons.inj hpost
      exact .inl ⟨m, by rw [hm]; simp⟩
  · refine .inr (congrArg _ ?_)
    rcases List.append_eq_append_iff.mp hrest with ⟨m₂, rfl, hm₂⟩ | ⟨m₂, hs, hm₂⟩
    · rcases m₂ with _ | ⟨x, _ | ⟨y, m₂⟩⟩
      · exact List.append_nil _
      · simp at hm₂
      · simp at hm₂
    · rcases m₂ with _ | ⟨x, m₂⟩
      · rw [hs, List.append_nil]
      · -- inside the payload a backslash comes first
        obtain ⟨rfl, -⟩ := List.cons.inj hm₂
        obtain ⟨s₁, -, -, rfl⟩ := quote_escaped hs
        exact absurd (List.append_assoc ..).symm
          (hb (P ++ [34] ++ s₁.flatMap Signaling.escapeByte) 92 (.inr rfl))

/-- Where escaping leaves no backslash, it changed nothing. -/
theorem escape_eq_self {s : Bytes} (h : 92 ∉ s.flatMap Signaling.escapeByte) :
    s.flatMap Signaling.escapeByte = s := by
  induction s with
  | nil => rfl
  | cons c s ih =>
      rw [List.flatMap_cons, List.mem_append, not_or] at h
      rw [List.flatMap_cons, ih h.2]
      rcases escapeByte_cases c with ⟨-, e⟩ | ⟨-, y, -, e⟩ | ⟨-, -, e⟩
      · exact absurd (by simp [e]) h.1
      · exact absurd (by simp [e]) h.1
      · rw [e, List.singleton_append]

/-- A word that `json_escape` leaves as it is. -/
structure PlainWord (kw : Bytes) : Prop where
  ne_nil : kw ≠ []
  quote : 34 ∉ kw
  backslash : 92 ∉ kw
  escape : kw.flatMap Signaling.escapeByte = kw

theorem plainWord (K : MsgType) : PlainWord (word K) := by
  cases K <;> exact ⟨by decide, by decide, by decide, by decide⟩

section
variable {kw : Bytes} (hkw : PlainWord kw)
include hkw

theorem PlainWord.escape_eq_iff (s : Bytes) : s.flatMap Signaling.escapeByte = kw ↔ s = kw := by
  constructor
  · intro h
    rw [← escape_eq_self (s := s) (h ▸ hkw.backslash), h]
  · rintro rfl
    exact hkw.escape

/-- The word is not empty, and its last byte is neither a quote nor a backslash. -/
theorem PlainWord.not_concat {pre a : Bytes} {x : UInt8} (hx : x = 34 ∨ x = 92) :
    pre ++ 34 :: kw ≠ a ++ [x] := by
  intro h
  obtain ⟨kw', z, rfl⟩ := List.eq_nil_or_concat kw |>.resolve_left hkw.ne_nil
  rw [List.concat_eq_append, ← List.cons_append, ← List.append_assoc] at h
  obtain ⟨-, hz⟩ := List.append_inj' h rfl
  obtain rfl := List.singleton_inj.mp hz
  rcases hx with rfl | rfl
  · exact hkw.quote (by simp)
  · exact hkw.backslash (by simp)

/-- An escaped text ends in a quote and the word just when the text does. -/
theorem PlainWord.suffix_escape_iff (s : Bytes) :
    34 :: kw <:+ s.flatMap Signaling.escapeByte ↔ 34 :: kw <:+ s := by
  constructor
  · intro h
    induction s with
    | nil => simp at h
    | cons c s ih =>
        obtain ⟨a, ha⟩ := h
        rw [List.flatMap_cons] at ha
        rcases List.append_eq_append_iff.mp ha.symm with ⟨m, -, hm⟩ | ⟨m, hc, hm⟩
        · exact (ih ⟨m, hm.symm⟩).trans (List.suffix_cons c s)
        · rcases m with _ | ⟨x, m⟩
          · exact (ih ⟨[], hm⟩).trans (List.suffix_cons c s)
          · -- the quote is that of `c`, and the word is the rest
            obtain ⟨rfl, hw⟩ := List.cons.inj hm
            obtain ⟨rfl, -, rfl⟩ := quote_of_escapeByte hc
            rw [(hkw.escape_eq_iff s).mp hw.symm]
  · rintro ⟨a, rfl⟩
    refine ⟨a.flatMap Signaling.escapeByte ++ [92], ?_⟩
    rw [List.flatMap_append, List.flatMap_cons, hkw.escape, List.append_assoc]
    rfl

/-- So it is behind a quote. -/
theorem PlainWord.suffix_quote_iff (s : Bytes) :
    34 :: kw <:+ 34 :: s.flatMap Signaling.escapeByte ↔ 34 :: kw <:+ 34 :: s := by
  rw [List.suffix_cons_iff, List.suffix_cons_iff, hkw.suffix_escape_iff, List.cons_inj_right,
    List.cons_inj_right, eq_comm, hkw.escape_eq_iff, eq_comm]

/-- **Where a quoted word can stand**, in a text that has it not in its head `P`: behind a quote, at
the end of the payload. -/
theorem PlainWord.infix_iff {P : Bytes} (hP : ¬ 34 :: kw ++ [34] <:+: P ++ [34]) (s : Bytes) :
    34 :: kw ++ [34] <:+: P ++ [34] ++ (s.flatMap Signaling.escapeByte ++ [34, 125]) ↔
      34 :: kw <:+ 34 :: s := by
  rw [← hkw.suffix_quote_iff]
  constructor
  · rintro ⟨pre, post, h⟩
    have h' : (pre ++ 34 :: kw) ++ 34 :: post =
        (P ++ [34]) ++ (s.flatMap Signaling.escapeByte ++ [34, 125]) := by
      rw [← h]
      simp
    rcases closing_quote (fun a x hx => hkw.not_concat hx) h' with hhead | hm
    · obtain ⟨m, hm⟩ := hhead
      exact absurd ⟨pre, m, by rw [← hm]; simp⟩ hP
    · rw [List.append_assoc, List.singleton_append] at hm
      rcases List.append_eq_append_iff.mp hm with ⟨m, -, hq⟩ | ⟨m, -, hq⟩
      · rcases m with _ | ⟨x, m⟩
        · exact hq ▸ List.suffix_refl _
        · obtain ⟨-, hq⟩ := List.cons.inj hq
          exact absurd (hq ▸ List.mem_append_right m (List.mem_cons_self ..)) hkw.quote
      · exact ⟨m, hq.symm⟩
  · rintro ⟨a, ha⟩
    refine ⟨P ++ a, [125], ?_⟩
    have hP' : P ++ [34] ++ (s.flatMap Signaling.escapeByte ++ [34, 125]) =
        P ++ (34 :: s.flatMap Signaling.escapeByte) ++ [34, 125] := by simp
    rw [hP', ← ha]
    simp

end

/-! ### The search for the type -/

/-- A quoted word that the head has not. -/
theorem contains_iff {T K : MsgType} (h : ¬ quoted K <:+: head T ++ [34]) (s : Bytes) :
    quoted K <:+: ownMessage T s ↔ 34 :: word K <:+ 34 :: s := by
  rw [ownMessage, fullEscape_eq]
  exact (plainWord K).infix_iff h s

/-- The head has the quoted word of the type, and none looked for before. -/
theorem infix_head (T : MsgType) :
    quoted T <:+: head T ++ [34] ∧ ∀ K ∈ before T, ¬ quoted K <:+: head T ++ [34] := by
  cases T <;> decide +kernel

/-- **When a message is dispatched by its own type.**  Whatever its payload is, an answer always
is; an offer and a candidate are just when the payload, with its opening quote before it, does not
end in a quote and a word that is looked for first. -/
theorem dispatched_iff (T : MsgType) (s : Bytes) :
    Dispatched T s ↔ ∀ K ∈ before T, ¬ 34 :: word K <:+ 34 :: s := by
  have htype : messageType (ownMessage T s) = some T ↔
      ∀ K ∈ before T, ¬ 34 :: word K <:+ 34 :: s := by
    obtain ⟨hown, hothers⟩ := infix_head T
    have hfound : quoted T <:+: ownMessage T s := hown.trans (List.prefix_append ..).isInfix
    rw [messageType_eq_some, and_iff_right hfound]
    exact forall₂_congr fun K hK => not_congr (contains_iff (hothers K hK) s)
  rw [Dispatched, htype, and_iff_left]
  constructor
  · rintro rfl
    rw [← valueAfter_message .answer s, ← ownMessage_branch]
    rfl
  · rintro rfl
    rw [← valueAfter_message .ice s, ← ownMessage_branch]
    rfl

/-- The candidate `answer` makes its message an answer. -/
theorem ice_taken_for_answer :
    ownMessage .ice (bytes "answer") = bytes "\x7b\"type\":\"ice\",\"candidate\":\"answer\"\x7d" ∧
      messageType (ownMessage .ice (bytes "answer")) = some .answer ∧
      ¬ Dispatched .ice (bytes "answer") := by
  have h : messageType (ownMessage .ice (bytes "answer")) = some .answer := by decide
  refine ⟨by decide, h, fun hd => ?_⟩
  rw [hd.1] at h
  cases h

end Nearcade.Handshake
