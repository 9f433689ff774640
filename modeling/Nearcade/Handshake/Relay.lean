import Nearcade.Support.Json
import Nearcade.Handshake.Dispatch

/-!
# Handshake — Relay

`signaling_send_offer`, `signaling_send_answer` and `signaling_send_ice` escape a payload into 4096
bytes and print the message into 4096 more.  The escaper leaves out what does not fit, the printer
cuts, and what is left is sent.

A text is read byte by byte here: the grammar's own characters are ASCII, and a byte from 128 on, a
part of a UTF-8 sequence, stands for itself.

* `jsonEscape_kept`: what the escaper leaves is some of the payload's characters, escaped.
* `literal_escape`: a literal that ends where an escaped text does is that text's, and the text has
  no control character but the three that `json_escape` escapes.
* `whole_relayMessage_iff`: so the message is whole just when nothing was left out or cut.
* `relayed_iff`: when a payload is relayed or refused.
-/

namespace Nearcade.Handshake
open Text
open Webrtc (MsgType)
open Signaling (escapeByte)

/-! ### The three functions -/

/-- The function that sends a message of the type. -/
def relay (ov : Int → Int) (io : Signaling.Io) (st : Signaling.State) (viewerId : Option Bytes)
    (s : Bytes) : MsgType → Int × List Effect
  | .offer => Signaling.signalingSendOffer io st (some s)
  | .answer => Signaling.signalingSendAnswer ov io st viewerId (some s)
  | .ice => Signaling.signalingSendIce ov io st viewerId (some s)

/-- The connection it writes to. -/
def receiver (ov : Int → Int) (st : Signaling.State) (viewerId : Option Bytes) :
    MsgType → Option Wsi
  | .offer => st.gHostWs
  | .answer | .ice => Signaling.relayTarget ov st viewerId

theorem relay_eq (ov : Int → Int) (io : Signaling.Io) (st : Signaling.State)
    (viewerId : Option Bytes) (s : Bytes) (T : MsgType) :
    relay ov io st viewerId s T = Signaling.sendToLws io (receiver ov st viewerId T)
      (Signaling.relayMessage (head T ++ [34]) s) := by
  have hoffer : bytes "\x7b\"type\":\"offer\",\"sdp\":\"" = head .offer ++ [34] := by decide +kernel
  cases T with
  | offer => rw [relay, Signaling.signalingSendOffer, hoffer, receiver]
  | answer =>
      exact congrArg (fun b => Signaling.sendToLws io _ (Signaling.relayMessage b s))
        (opening_eq .answer)
  | ice =>
      exact congrArg (fun b => Signaling.sendToLws io _ (Signaling.relayMessage b s))
        (opening_eq .ice)

/-- What `lws_write` writes: the whole frame, or nothing where it fails. -/
def written (io : Signaling.Io) (fx : List Effect) : List Effect :=
  if io.wrote < 0 then [] else fx

/-! ### The format -/

/-- The bytes of a text, as code points. -/
def octets (t : Bytes) : Json.Points := t.map UInt8.toNat

@[simp] theorem octets_append (t u : Bytes) : octets (t ++ u) = octets t ++ octets u :=
  List.map_append

theorem octets_injective {t u : Bytes} (h : octets t = octets u) : t = u :=
  List.map_injective_iff.mpr (fun _ _ => UInt8.toNat_inj.mp) h

/-- The name of the member that holds the payload. -/
def key : MsgType → Json.Points
  | .answer | .offer => Json.points "sdp"
  | .ice => Json.points "candidate"

/-- The frame is a message of the type, as a JSON text, and its payload is `s`. -/
def Whole (T : MsgType) (s frame : Bytes) : Prop :=
  Json.Element (octets frame) (.object [(Json.points "type", .string (octets (word T))),
    (key T, .string (octets s))])

/-- One whole message is written, or none and the caller is told. -/
def Relayed (io : Signaling.Io) (T : MsgType) (s : Bytes) (r : Int × List Effect) : Prop :=
  (r.1 = 0 ∧ ∃ w frame, written io r.2 = [.lwsWrite w frame] ∧ Whole T s frame) ∨
    (r.1 ≠ 0 ∧ written io r.2 = [])

/-! ### Escaping -/

/-- A character that a JSON text may hold, or that `json_escape` escapes. -/
def Printable (c : UInt8) : Prop := 32 ≤ c ∨ c = 9 ∨ c = 10 ∨ c = 13

instance (c : UInt8) : Decidable (Printable c) := inferInstanceAs (Decidable (_ ∨ _))

/-- The text escaped. -/
def escape (s : Bytes) : Bytes := s.flatMap escapeByte

theorem escape_cons (c : UInt8) (s : Bytes) : escape (c :: s) = escapeByte c ++ escape s :=
  List.flatMap_cons

theorem escape_append (s t : Bytes) : escape (s ++ t) = escape s ++ escape t :=
  List.flatMap_append ..

theorem escape_singleton (c : UInt8) : escape [c] = escapeByte c := by
  rw [escape_cons]
  exact List.append_nil _

/-- What `json_escape` emits is JSON's escape of the byte, or the byte itself. -/
theorem escapeByte_octets (c : UInt8) :
    (∃ y, (y, c.toNat) ∈ Json.escapes ∧ octets (escapeByte c) = [92, y] ∧ Printable c) ∨
    (octets (escapeByte c) = [c.toNat] ∧ c.toNat ≠ 34 ∧ c.toNat ≠ 92 ∧
      (Printable c ↔ 32 ≤ c.toNat)) := by
  simp only [escapeByte]
  split_ifs with h₁ h₂ h₃ h₄ h₅
  · exact .inl ⟨34, by subst h₁; decide⟩
  · exact .inl ⟨92, by subst h₂; decide⟩
  · exact .inl ⟨110, by subst h₃; decide⟩
  · exact .inl ⟨114, by subst h₄; decide⟩
  · exact .inl ⟨116, by subst h₅; decide⟩
  · refine .inr ⟨rfl, fun e => h₁ (UInt8.toNat_inj.mp e), fun e => h₂ (UInt8.toNat_inj.mp e), ?_⟩
    rw [Printable, or_iff_left (by simp [h₃, h₄, h₅]), UInt8.le_iff_toNat_le]
    rfl

/-- The escaped byte before a literal. -/
theorem chars_escapeByte {c : UInt8} (hc : Printable c) {b u : List Nat} (h : Json.Chars b u) :
    Json.Chars (octets (escapeByte c) ++ b) (c.toNat :: u) := by
  have hlt := c.toNat_lt
  rcases escapeByte_octets c with ⟨y, hy, e, -⟩ | ⟨e, h₁, h₂, h₃⟩
  · rw [e]
    exact .escape hy h
  · have hu := Json.Chars.unescaped (c := c.toNat) ⟨h₃.mp hc, h₁, h₂, by omega⟩ h
    rw [Json.units, if_pos (by omega)] at hu
    rw [e]
    exact hu

theorem chars_escape : ∀ {s : Bytes}, (∀ c ∈ s, Printable c) →
    Json.Chars (octets (escape s)) (octets s)
  | [], _ => .nil
  | c :: s, h => by
      rw [escape_cons, octets_append]
      exact chars_escapeByte (h c (List.mem_cons_self ..))
        (chars_escape fun d hd => h d (List.mem_cons_of_mem _ hd))

/-- A literal in a text that begins with an escaped byte begins with that byte. -/
theorem literal_escapeByte {c : UInt8} {b u x r : List Nat} (h : Json.Chars b u)
    (e : b ++ 34 :: r = octets (escapeByte c) ++ x) :
    Printable c ∧ ∃ b' u', b = octets (escapeByte c) ++ b' ∧ u = c.toNat :: u' ∧
      Json.Chars b' u' ∧ b' ++ 34 :: r = x := by
  have hlt := c.toNat_lt
  rcases escapeByte_octets c with ⟨y, hy, hc, hp⟩ | ⟨hc, h₁, h₂, hp⟩ <;> rw [hc] at e ⊢
  · cases h with
    | nil => cases (List.cons.inj e).1
    | unescaped hu => exact absurd (List.cons.inj e).1 hu.2.2.1
    | escape hu t =>
        obtain ⟨rfl, e'⟩ := List.cons.inj (List.cons.inj e).2
        obtain rfl := Json.escapes_functional hu hy
        exact ⟨hp, _, _, rfl, rfl, t, e'⟩
    | hex =>
        obtain ⟨rfl, -⟩ := List.cons.inj (List.cons.inj e).2
        exact absurd hy (Json.not_mem_escapes_u _)
  · cases h with
    | nil => exact absurd (List.cons.inj e).1.symm h₁
    | unescaped hu t =>
        obtain ⟨rfl, e'⟩ := List.cons.inj e
        rw [Json.units, if_pos (by omega)]
        exact ⟨hp.mpr hu.1, _, _, rfl, rfl, t, e'⟩
    | escape | hex => exact absurd (List.cons.inj e).1.symm h₂

/-- **A literal in a text that begins with an escaped text and a quote is that text's.** -/
theorem literal_escape {t : Bytes} {b u r r' : List Nat} (h : Json.Chars b u)
    (e : b ++ 34 :: r = octets (escape t) ++ 34 :: r') :
    u = octets t ∧ r = r' ∧ ∀ c ∈ t, Printable c := by
  induction t generalizing b u with
  | nil =>
      obtain ⟨-, rfl, rfl⟩ := h.unique .nil e
      exact ⟨rfl, rfl, by simp⟩
  | cons c t ih =>
      rw [escape_cons, octets_append, List.append_assoc] at e
      obtain ⟨hc, b', u', rfl, rfl, h', e'⟩ := literal_escapeByte h e
      obtain ⟨rfl, rfl, ht⟩ := ih h' e'
      exact ⟨rfl, rfl, List.forall_mem_cons.mpr ⟨hc, ht⟩⟩

/-- **The characters kept** are some of the input's, in their order. -/
theorem jsonEscapeLoop_kept (n : Nat) (q t : Bytes) :
    ∃ t', Signaling.jsonEscapeLoop n q (escape t) = escape (t ++ t') ∧ t'.Sublist q := by
  induction q generalizing t with
  | nil => exact ⟨[], by rw [List.append_nil]; rfl, .refl _⟩
  | cons c q ih =>
      rw [Signaling.jsonEscapeLoop]
      split_ifs
      · obtain ⟨t', h, hsub⟩ := ih (t ++ [c])
        rw [escape_append, escape_singleton] at h
        exact ⟨c :: t', by rw [h, List.append_assoc, List.singleton_append], hsub.cons_cons c⟩
      · obtain ⟨t', h, hsub⟩ := ih t
        exact ⟨t', h, hsub.cons c⟩
      · exact ⟨[], by rw [List.append_nil], List.nil_sublist _⟩

theorem jsonEscape_kept (s : Bytes) (n : Nat) :
    ∃ t, Signaling.jsonEscape s n = escape t ∧ t.Sublist s :=
  jsonEscapeLoop_kept n s []

/-! ### The message -/

/-- The text of a message up to the payload's opening quote. -/
theorem octets_head (T : MsgType) (x : Bytes) : octets (head T ++ [34] ++ x) =
    123 :: 34 :: (Json.points "type" ++ 34 :: 58 :: 34 :: (octets (word T) ++ 34 :: 44 :: 34 ::
      (key T ++ 34 :: 58 :: 34 :: octets x))) := by
  cases T <;> rfl

theorem plain_type : Json.Plain (Json.points "type") := by decide

theorem plain_word (T : MsgType) : Json.Plain (octets (word T)) := by
  cases T <;> decide

theorem plain_key (T : MsgType) : Json.Plain (key T) := by
  cases T <;> decide

/-- The length of the message before it is cut. -/
def fullLength (T : MsgType) (s : Bytes) : Nat := (head T).length + 1 + (escape s).length + 2

theorem head_length (T : MsgType) : (head T ++ [34]).length ≤ 4095 := by
  cases T <;> decide

/-- Only what comes behind the head can be cut. -/
theorem relayMessage_eq (T : MsgType) (s : Bytes) :
    Signaling.relayMessage (head T ++ [34]) s = head T ++ [34] ++
      (Signaling.jsonEscape s 4096 ++ [34, 125]).take (4095 - (head T ++ [34]).length) := by
  have hend : bytes "\"\x7d" = [34, 125] := by decide
  rw [Signaling.relayMessage, snprintf, hend, List.append_assoc, List.take_append,
    List.take_of_length_le (head_length T)]

/-- **When the message is whole**: it fits, and `json_escape` escapes every control character. -/
theorem whole_relayMessage_iff (T : MsgType) (s : Bytes) :
    Whole T s (Signaling.relayMessage (head T ++ [34]) s) ↔
      fullLength T s ≤ 4095 ∧ ∀ c ∈ s, Printable c := by
  have hhead := head_length T
  rw [Whole, relayMessage_eq, octets_head]
  constructor
  · intro h
    obtain ⟨b, w, a, ms, c, hb, -, hps, hx⟩ := h.object_two (Json.chars_of_plain plain_type)
      (Json.chars_of_plain (plain_word T)) (Json.chars_of_plain (plain_key T))
    obtain ⟨hw, hms⟩ := List.cons.inj (List.cons.inj hps).2
    obtain rfl : ms = [] := by simpa using hms.symm
    obtain rfl : octets s = w := by simpa using hw
    obtain ⟨t, ht, -⟩ := jsonEscape_kept s 4096
    rw [ht] at hx
    -- the literal, and what follows it, with the part that was cut put back
    have hsplit := congrArg octets (List.take_append_drop (4095 - (head T ++ [34]).length)
      (escape t ++ [34, 125]))
    rw [octets_append, hx, octets_append, List.append_assoc, List.cons_append] at hsplit
    obtain ⟨hu, hr, hp⟩ := literal_escape hb hsplit
    obtain rfl := octets_injective hu
    refine ⟨?_, hp⟩
    have hlen := congrArg List.length hr
    simp only [Json.tailText, octets, List.length_append, List.length_cons, List.length_map,
      List.length_drop, List.length_nil] at hlen hhead ⊢
    rw [fullLength]
    omega
  · rintro ⟨hl, hp⟩
    rw [fullLength] at hl
    have hesc : Signaling.jsonEscape s 4096 = escape s := jsonEscape_eq (by rw [← escape]; omega)
    rw [hesc, List.take_of_length_le (by
      simp only [List.length_append, List.length_cons, List.length_nil]; omega), octets_append]
    exact Json.element_pair plain_type (plain_word T) (plain_key T) (chars_escape hp)

theorem relayMessage_ne_nil (T : MsgType) (s : Bytes) :
    (Signaling.relayMessage (head T ++ [34]) s).length ≠ 0 := by
  cases T <;> exact Nat.succ_ne_zero _

/-! ### Relaying -/

/-- **When a payload is relayed or refused.**  For every table of connections, it is refused where
there is no receiver, no memory or no success in writing; and where it is written, it is whole just
when the message, escaped, fits 4095 bytes and the payload has no control character other than tab,
line feed and carriage return. -/
theorem relayed_iff (ov : Int → Int) (io : Signaling.Io) (st : Signaling.State)
    (viewerId : Option Bytes) (T : MsgType) (s : Bytes) :
    Relayed io T s (relay ov io st viewerId s T) ↔
      receiver ov st viewerId T = none ∨ io.malloc = false ∨ io.wrote < 0 ∨
        (fullLength T s ≤ 4095 ∧ ∀ c ∈ s, Printable c) := by
  rw [relay_eq, ← whole_relayMessage_iff]
  have hlen := relayMessage_ne_nil T s
  generalize Signaling.relayMessage (head T ++ [34]) s = frame at hlen ⊢
  cases receiver ov st viewerId T with
  | none => simp [Relayed, Signaling.sendToLws, written]
  | some w =>
      simp only [Signaling.sendToLws, if_neg hlen]
      by_cases hm : io.malloc = false
      · simp [Relayed, written, hm]
      · by_cases hw : io.wrote < 0
        · simp [Relayed, written, hm, hw]
        · simp [Relayed, written, hm, hw]

/-- A long offer goes out cut, and the caller is told that it went. -/
theorem long_offer_cut :
    let st : Signaling.State := { Signaling.State.boot with gHostWs := some 1 }
    let s := List.replicate 5000 97
    (relay id ⟨true, 0⟩ st none s .offer).1 = 0 ∧
      ¬ Relayed ⟨true, 0⟩ .offer s (relay id ⟨true, 0⟩ st none s .offer) := by
  intro st s
  have hs : 5000 ≤ (escape s).length := by
    rw [escape, flatMap_escapeByte_length, List.length_replicate]
    omega
  have hrelay : relay id ⟨true, 0⟩ st none s .offer =
      (0, [.lwsWrite 1 (Signaling.relayMessage (head .offer ++ [34]) s)]) := by
    simp only [relay_eq, receiver, st, Signaling.sendToLws, if_neg (relayMessage_ne_nil .offer s)]
    rfl
  rw [hrelay]
  refine ⟨rfl, ?_⟩
  rintro (⟨-, w, frame, hw, h⟩ | ⟨h, -⟩)
  · obtain ⟨-, rfl⟩ := Effect.lwsWrite.inj (List.cons.inj hw).1
    have := ((whole_relayMessage_iff .offer s).mp h).1
    rw [fullLength] at this
    omega
  · exact h rfl

end Nearcade.Handshake
