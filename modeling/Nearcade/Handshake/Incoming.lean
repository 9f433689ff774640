import Nearcade.System.Machine

/-!
# Handshake — Incoming

A viewer's answer or candidate comes as the text between two quotes, escaped the way
`json_escape` escapes.  `webrtc_handle_signaling` takes it apart with a loop that stops at the
first quote it does not skip, and undoes one escape, the one of the quote.

* `jsonEscape_eq`: what `json_escape` leaves where the buffer is large enough.
* `unescape_length`: the loop drops one byte for each quote it reads.
* `incoming_decodes_iff`: libdatachannel gets the text that was escaped exactly when that has
  none of the other bytes `json_escape` escapes.
-/

namespace Nearcade.Handshake
open Text

/-- The messages whose payload the SDK extracts. -/
inductive Payload where
  | answer
  | ice

/-- The message up to its payload. -/
def Payload.opening : Payload → Bytes
  | .answer => bytes "\x7b\"type\":\"answer\",\"sdp\":\""
  | .ice => bytes "\x7b\"type\":\"ice\",\"candidate\":\""

/-- The key the SDK looks for. -/
def Payload.key : Payload → Bytes
  | .answer => Webrtc.sdpKey
  | .ice => Webrtc.candidateKey

/-- The branch the message belongs to. -/
def Payload.branch : Payload → Webrtc.MsgType
  | .answer => .answer
  | .ice => .ice

theorem Payload.branch_injective {k k' : Payload} (h : k.branch = k'.branch) : k = k' := by
  cases k <;> cases k' <;> first | rfl | cases h

/-- The call of libdatachannel that gets the payload. -/
def Payload.call (s : Bytes) : Payload → RtcCall
  | .answer => .description s (bytes "answer")
  | .ice => .candidate s

/-- The call that applies a payload. -/
def Payload.apply (pc : PcId) (s : Bytes) : Payload → RtcCall
  | .answer => .setRemoteDescription pc s (bytes "answer")
  | .ice => .addRemoteCandidate pc s

/-- `json_escape` with room for every escape. -/
def fullEscape (s : Bytes) : Bytes := Signaling.jsonEscape s (2 * s.length + 1)

/-- A viewer's message, in the SDK's own format. -/
def message (k : Payload) (s : Bytes) : Bytes := k.opening ++ (fullEscape s ++ bytes "\"\x7d")

/-- The SDK passes exactly `s` to libdatachannel, and the extraction stops at the quote that
closes the payload. -/
def Decodes (ov : Int → Int) (throws : RtcCall → Bool) (st : Webrtc.State) (i : Fin maxViewers)
    (k : Payload) (s : Bytes) : Prop :=
  (∃ fx, (Webrtc.webrtcHandleSignaling ov throws st (some (viewerId (i.val : Int)))
      (some (message k s))).2 = .rtc (k.call s) :: fx) ∧
    ∃ value, Webrtc.valueAfter k.key (message k s) = some value ∧
      (Webrtc.unescape value).2 = bytes "\"\x7d"

/-! ### The encoder -/

theorem escapeByte_length_cases (c : UInt8) :
    (Signaling.escapeByte c).length = 1 ∨ (Signaling.escapeByte c).length = 2 := by
  simp only [Signaling.escapeByte]
  split_ifs <;> simp [bytes]

/-- The loop of `json_escape` cuts nothing of what fits. -/
theorem jsonEscapeLoop_append {n : Nat} {p out : Bytes} (q : Bytes)
    (h : (out ++ p.flatMap Signaling.escapeByte).length < n) :
    Signaling.jsonEscapeLoop n (p ++ q) out =
      Signaling.jsonEscapeLoop n q (out ++ p.flatMap Signaling.escapeByte) := by
  induction p generalizing out with
  | nil => rw [List.nil_append, List.flatMap_nil, List.append_nil]
  | cons c p ih =>
      rw [List.flatMap_cons, ← List.append_assoc] at h ⊢
      have hlen := h
      simp only [List.length_append] at hlen
      have hone := escapeByte_length_cases c
      rw [List.cons_append, Signaling.jsonEscapeLoop, if_pos (by omega), if_pos (by omega)]
      exact ih h

theorem escapeByte_length (c : UInt8) : (Signaling.escapeByte c).length =
    1 + (if c = 34 then 1 else 0) + if c = 92 ∨ c = 10 ∨ c = 13 ∨ c = 9 then 1 else 0 := by
  simp only [Signaling.escapeByte]
  split_ifs <;> simp_all [bytes]

/-- The bytes other than the quote that `json_escape` escapes. -/
def escaped (c : UInt8) : Bool := c = 92 || c = 10 || c = 13 || c = 9

/-- What escaping adds: one byte for each quote and for each other escape. -/
theorem flatMap_escapeByte_length (s : Bytes) : (s.flatMap Signaling.escapeByte).length =
    s.length + s.count 34 + s.countP escaped := by
  induction s with
  | nil => rfl
  | cons c s ih =>
      rw [List.flatMap_cons, List.length_append, ih, escapeByte_length, List.length_cons,
        List.count_cons, List.countP_cons]
      simp only [escaped, beq_iff_eq, Bool.or_eq_true, decide_eq_true_eq, or_assoc]
      omega

theorem jsonEscape_eq {s : Bytes} {n : Nat} (h : (s.flatMap Signaling.escapeByte).length < n) :
    Signaling.jsonEscape s n = s.flatMap Signaling.escapeByte := by
  have hall := @jsonEscapeLoop_append n s [] [] h
  rw [List.append_nil, List.nil_append] at hall
  exact hall

theorem flatMap_escapeByte_length_le (s : Bytes) :
    (s.flatMap Signaling.escapeByte).length ≤ 2 * s.length := by
  induction s with
  | nil => exact Nat.le_refl _
  | cons c s ih =>
      have hc := escapeByte_length_cases c
      rw [List.flatMap_cons, List.length_append, List.length_cons]
      omega

theorem fullEscape_eq (s : Bytes) : fullEscape s = s.flatMap Signaling.escapeByte :=
  jsonEscape_eq (Nat.lt_succ_of_le (flatMap_escapeByte_length_le s))

/-! ### The decoder -/

theorem unescape_plain {c : UInt8} (h₁ : c ≠ 34) (h₂ : c ≠ 92) (t : Bytes) :
    Webrtc.unescape (c :: t) = (c :: (Webrtc.unescape t).1, (Webrtc.unescape t).2) := by
  cases t with
  | nil => simp [Webrtc.unescape, h₁]
  | cons d t => rw [Webrtc.unescape, if_neg h₁, if_neg (fun h => h₂ h.1)]

theorem unescape_quote (t : Bytes) :
    Webrtc.unescape (92 :: 34 :: t) =
      (34 :: (Webrtc.unescape t).1, (Webrtc.unescape t).2) := by
  rw [Webrtc.unescape, if_neg (by decide), if_pos ⟨rfl, rfl⟩]

theorem unescape_end (t : Bytes) : Webrtc.unescape (34 :: t) = ([], 34 :: t) := by
  cases t <;> rfl

/-- **What the loop reads.**  The text it extracts is shorter than what it passes over by one for
each quote extracted: a quote is extracted only from its escape. -/
theorem unescape_length (t : Bytes) :
    (Webrtc.unescape t).1.length + (Webrtc.unescape t).1.count 34 +
      (Webrtc.unescape t).2.length = t.length := by
  induction t using Webrtc.unescape.induct with
  | case1 => rfl
  | case2 => rfl
  | case3 c h => simp [Webrtc.unescape, h]
  | case4 d p => simp [Webrtc.unescape]
  | case5 c d p h₁ h₂ ih =>
      obtain ⟨rfl, rfl⟩ := h₂
      rw [unescape_quote]
      simp only [List.length_cons, List.count_cons_self] at ih ⊢
      omega
  | case6 c d p h₁ h₂ ih =>
      rw [Webrtc.unescape, if_neg h₁, if_neg h₂]
      simp only [List.length_cons, List.count_cons_of_ne h₁] at ih ⊢
      omega

/-- A text whose only escapes are those of quotes is read back, up to the closing quote. -/
theorem unescape_flatMap (r : Bytes) : ∀ {s : Bytes}, (∀ c ∈ s, escaped c = false) →
    Webrtc.unescape (s.flatMap Signaling.escapeByte ++ 34 :: r) = (s, 34 :: r)
  | [], _ => unescape_end r
  | c :: s, h => by
      have ih := unescape_flatMap r (s := s) fun d hd => h d (List.mem_cons_of_mem _ hd)
      have hc := h c (List.mem_cons_self ..)
      simp only [escaped, Bool.or_eq_false_iff, decide_eq_false_iff_not] at hc
      obtain ⟨⟨⟨h₁, h₂⟩, h₃⟩, h₄⟩ := hc
      rw [List.flatMap_cons, List.append_assoc]
      by_cases hq : c = 34
      · subst hq
        rw [show Signaling.escapeByte 34 = [92, 34] by decide, List.cons_append,
          List.singleton_append, unescape_quote, ih]
      · have he : Signaling.escapeByte c = [c] := by
          simp [Signaling.escapeByte, hq, h₁, h₂, h₃, h₄]
        rw [he, List.singleton_append, unescape_plain hq h₁, ih]

/-- **When the loop undoes the escaping**: no byte is escaped but quotes. -/
theorem unescape_flatMap_iff (s r : Bytes) :
    Webrtc.unescape (s.flatMap Signaling.escapeByte ++ 34 :: r) = (s, 34 :: r) ↔
      ∀ c ∈ s, escaped c = false := by
  refine ⟨fun h => ?_, unescape_flatMap r⟩
  have hlen := unescape_length (s.flatMap Signaling.escapeByte ++ 34 :: r)
  rw [h, List.length_append, flatMap_escapeByte_length] at hlen
  have hcount : s.countP escaped = 0 := by
    simp only [List.length_cons] at hlen
    omega
  simpa using List.countP_eq_zero.mp hcount

/-! ### The message -/

theorem valueAfter_message (k : Payload) (s : Bytes) :
    Webrtc.valueAfter k.key (message k s) = some (fullEscape s ++ bytes "\"\x7d") := by
  cases k <;> rfl

/-- Whatever throws, the first call is made. -/
theorem callAll_head (throws : RtcCall → Bool) (c : RtcCall) (cs : List RtcCall) :
    ∃ fx, (Webrtc.callAll throws (c :: cs)).2 = .rtc c :: fx := by
  rw [Webrtc.callAll]
  split
  · exact ⟨[], rfl⟩
  · exact ⟨_, rfl⟩

/-- The extracted text is what libdatachannel gets first. -/
theorem handle_message (ov : Int → Int) (throws : RtcCall → Bool) {st : Webrtc.State}
    {i : Fin maxViewers} {pc : PcId}
    (hpc : (Webrtc.sessionForViewer st (i.val : Int)).bind (·.pc) = some pc) {k : Payload}
    {s : Bytes} (hk : Webrtc.messageType (message k s) = some k.branch) :
    ∃ fx, (Webrtc.webrtcHandleSignaling ov throws st (some (viewerId (i.val : Int)))
        (some (message k s))).2 =
      .rtc (k.call (Webrtc.unescape (fullEscape s ++ bytes "\"\x7d")).1) :: fx := by
  have hv := valueAfter_message k s
  simp only [Webrtc.webrtcHandleSignaling_viewerId, hpc, hk]
  cases k with
  | answer =>
      simp only [Payload.branch]
      rw [show Webrtc.sdpKey = Payload.key .answer from rfl, hv, Webrtc.applyPayload_effects]
      exact callAll_head _ _ _
  | ice =>
      simp only [Payload.branch]
      rw [show Webrtc.candidateKey = Payload.key .ice from rfl, hv, Webrtc.applyPayload_effects]
      exact callAll_head _ _ _

theorem Payload.call_inj {k : Payload} {s t : Bytes} (h : k.call s = k.call t) : s = t := by
  cases k <;> simpa [Payload.call] using h

/-- **When a payload comes through.**  For a session of the index, and a message that the SDK
takes for what it is. -/
theorem incoming_decodes_iff (ov : Int → Int) (throws : RtcCall → Bool) {st : Webrtc.State}
    {i : Fin maxViewers} {pc : PcId}
    (hpc : (Webrtc.sessionForViewer st (i.val : Int)).bind (·.pc) = some pc) {k : Payload}
    {s : Bytes} (hk : Webrtc.messageType (message k s) = some k.branch) :
    Decodes ov throws st i k s ↔ ∀ c ∈ s, c ≠ 92 ∧ c ≠ 10 ∧ c ≠ 13 ∧ c ≠ 9 := by
  obtain ⟨fx, hfx⟩ := handle_message ov throws hpc hk
  have hiff := unescape_flatMap_iff s (bytes "\x7d")
  rw [← fullEscape_eq, show (34 : UInt8) :: bytes "\x7d" = bytes "\"\x7d" by decide] at hiff
  have hdec : Decodes ov throws st i k s ↔
      Webrtc.unescape (fullEscape s ++ bytes "\"\x7d") = (s, bytes "\"\x7d") := by
    rw [Decodes, hfx, valueAfter_message]
    constructor
    · rintro ⟨⟨fx', h⟩, v, hv, hrest⟩
      obtain rfl := Option.some.inj hv
      have := Payload.call_inj (Effect.rtc.inj (List.cons.inj h).1)
      exact Prod.ext this hrest
    · intro h
      rw [h]
      exact ⟨⟨fx, rfl⟩, _, rfl, by rw [h]⟩
  rw [hdec, hiff]
  refine forall₂_congr fun c _ => ?_
  simp only [escaped, Bool.or_eq_false_iff, decide_eq_false_iff_not, and_assoc, ne_eq]

theorem sessionForViewer_oneViewer :
    (Webrtc.sessionForViewer World.oneViewer.sdk.rtc ((0 : Fin maxViewers).val : Int)).bind
      (·.pc) = some 0 := by decide +kernel

theorem incoming_decodes_iff_oneViewer :
    Decodes id (fun _ => false) World.oneViewer.sdk.rtc 0 .answer (bytes "a=\"mid\"") ↔
      ∀ c ∈ bytes "a=\"mid\"", c ≠ 92 ∧ c ≠ 10 ∧ c ≠ 13 ∧ c ≠ 9 :=
  incoming_decodes_iff id (fun _ => false) sessionForViewer_oneViewer (by decide)

/-- A line end comes through as the four characters that escape it. -/
theorem crlf_not_decoded :
    ¬ Decodes id (fun _ => false) World.oneViewer.sdk.rtc 0 .answer (bytes "v=0\r\n") ∧
      ¬ Decodes id (fun _ => false) World.oneViewer.sdk.rtc 0 .ice (bytes "v=0\r\n") := by
  have hread : (Webrtc.unescape (fullEscape (bytes "v=0\r\n") ++ bytes "\"\x7d")).1 =
      bytes "v=0\\r\\n" := by decide
  constructor
  · rintro ⟨⟨fx, h⟩, -⟩
    obtain ⟨fx', h'⟩ := handle_message id (fun _ => false) sessionForViewer_oneViewer (k := .answer)
      (s := bytes "v=0\r\n") (by decide)
    rw [h', hread] at h
    exact absurd (Payload.call_inj (Effect.rtc.inj (List.cons.inj h).1)) (by decide)
  · rintro ⟨⟨fx, h⟩, -⟩
    obtain ⟨fx', h'⟩ := handle_message id (fun _ => false) sessionForViewer_oneViewer (k := .ice)
      (s := bytes "v=0\r\n") (by decide)
    rw [h', hread] at h
    exact absurd (Payload.call_inj (Effect.rtc.inj (List.cons.inj h).1)) (by decide)

end Nearcade.Handshake
