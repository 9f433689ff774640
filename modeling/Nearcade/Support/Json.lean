import Mathlib.Data.List.Basic
import Mathlib.Tactic.Common

/-!
# Support — Json

The grammar of JSON texts, and what a text stands for.  A text is the sequence of its code
points; a string stands for the sequence of its UTF-16 code units.  White space belongs to the
value it surrounds, so an `Element` is a value with the white space around it, and a whole JSON
text is an element.

A grammar of texts leaves open where a string ends.  `Chars.unique` closes it: the characters
before the closing quote are determined, whatever follows.  With it a text whose beginning is
known is read member by member (`Element.object_cons`, `Member.read`).

* `Chars.unique`: where a string literal ends, and what it stands for.
* `Chars.length_le`, `Chars.plain`: below U+10000 a literal is no shorter than its string, and
  one that is no longer has no escape.
* `Element.of_quote`: a value that begins with a quote is a string.
* `pairText_iff`: an object of two strings written without escapes reads back as its second
  string exactly where that needs none.
-/

namespace Json

/-- A text, as the sequence of its code points. -/
abbrev Points := List Nat

/-- The code points of a string. -/
def points (s : String) : Points := s.toList.map Char.toNat

/-! ### Strings -/

/-- A character that stands for itself in a string literal. -/
def Unescaped (c : Nat) : Prop := 32 ≤ c ∧ c ≠ 34 ∧ c ≠ 92 ∧ c ≤ 0x10FFFF

instance (c : Nat) : Decidable (Unescaped c) := inferInstanceAs (Decidable (_ ∧ _))

/-- The UTF-16 code units of a code point. -/
def units (c : Nat) : List Nat :=
  if c < 0x10000 then [c]
  else [0xD800 + (c - 0x10000) / 0x400, 0xDC00 + (c - 0x10000) % 0x400]

/-- The two-character escapes: what follows the backslash, and what both stand for. -/
def escapes : List (Nat × Nat) :=
  [(34, 34), (92, 92), (47, 47), (98, 8), (102, 12), (110, 10), (114, 13), (116, 9)]

/-- The value of a hexadecimal digit. -/
def hexDigit (c : Nat) : Option Nat :=
  if 48 ≤ c ∧ c ≤ 57 then some (c - 48)
  else if 65 ≤ c ∧ c ≤ 70 then some (c - 55)
  else if 97 ≤ c ∧ c ≤ 102 then some (c - 87)
  else none

/-- The text between the quotes of a string literal, and the string it stands for. -/
inductive Chars : Points → List Nat → Prop where
  | nil : Chars [] []
  | unescaped {c : Nat} {b u : List Nat} (h : Unescaped c) (t : Chars b u) :
      Chars (c :: b) (units c ++ u)
  | escape {c n : Nat} {b u : List Nat} (h : (c, n) ∈ escapes) (t : Chars b u) :
      Chars (92 :: c :: b) (n :: u)
  | hex {c₃ c₂ c₁ c₀ d₃ d₂ d₁ d₀ : Nat} {b u : List Nat} (h₃ : hexDigit c₃ = some d₃)
      (h₂ : hexDigit c₂ = some d₂) (h₁ : hexDigit c₁ = some d₁) (h₀ : hexDigit c₀ = some d₀)
      (t : Chars b u) :
      Chars (92 :: 117 :: c₃ :: c₂ :: c₁ :: c₀ :: b)
        ((((d₃ * 16 + d₂) * 16 + d₁) * 16 + d₀) :: u)

/-- Code points that are code units too, and stand for themselves. -/
def Plain (t : Points) : Prop := ∀ c ∈ t, Unescaped c ∧ c < 0x10000

instance (t : Points) : Decidable (Plain t) := inferInstanceAs (Decidable (∀ c ∈ t, _))

theorem chars_of_plain : ∀ {t : Points}, Plain t → Chars t t
  | [], _ => .nil
  | c :: t, h => by
      have hc := h c (List.mem_cons_self ..)
      have := Chars.unescaped hc.1 (chars_of_plain fun d hd => h d (List.mem_cons_of_mem _ hd))
      rwa [units, if_pos hc.2] at this

theorem escapes_functional {c n m : Nat} (h : (c, n) ∈ escapes) (h' : (c, m) ∈ escapes) :
    n = m := by
  simp only [escapes, List.mem_cons, Prod.mk.injEq, List.not_mem_nil, or_false] at h h'
  omega

theorem not_mem_escapes_u (n : Nat) : (117, n) ∉ escapes := by
  simp [escapes]

/-- **Where a string literal ends.** -/
theorem Chars.unique {b u : List Nat} (h : Chars b u) :
    ∀ {b' u' r r' : List Nat}, Chars b' u' → b ++ 34 :: r = b' ++ 34 :: r' →
      b = b' ∧ u = u' ∧ r = r' := by
  induction h with
  | nil =>
      intro b' u' r r' h' e
      cases h' with
      | nil => exact ⟨rfl, rfl, (List.cons.inj e).2⟩
      | unescaped h => exact absurd (List.cons.inj e).1.symm h.2.1
      | escape | hex => cases (List.cons.inj e).1
  | @unescaped c b u h _ ih =>
      intro b' u' r r' h' e
      cases h' with
      | nil => exact absurd (List.cons.inj e).1 h.2.1
      | unescaped h' t' =>
          obtain ⟨rfl, e'⟩ := List.cons.inj e
          obtain ⟨rfl, rfl, rfl⟩ := ih t' e'
          exact ⟨rfl, rfl, rfl⟩
      | escape | hex => exact absurd (List.cons.inj e).1 h.2.2.1
  | @escape c n b u h _ ih =>
      intro b' u' r r' h' e
      cases h' with
      | nil => cases (List.cons.inj e).1
      | unescaped h' => exact absurd (List.cons.inj e).1.symm h'.2.2.1
      | escape h' t' =>
          obtain ⟨rfl, e'⟩ := List.cons.inj (List.cons.inj e).2
          obtain ⟨rfl, rfl, rfl⟩ := ih t' e'
          exact ⟨rfl, by rw [escapes_functional h h'], rfl⟩
      | hex =>
          obtain ⟨rfl, -⟩ := List.cons.inj (List.cons.inj e).2
          exact absurd h (not_mem_escapes_u n)
  | hex h₃ h₂ h₁ h₀ _ ih =>
      intro b' u' r r' h' e
      cases h' with
      | nil => cases (List.cons.inj e).1
      | unescaped h' => exact absurd (List.cons.inj e).1.symm h'.2.2.1
      | escape h' =>
          obtain ⟨rfl, -⟩ := List.cons.inj (List.cons.inj e).2
          exact absurd h' (not_mem_escapes_u _)
      | hex h₃' h₂' h₁' h₀' t' =>
          simp only [List.cons_append, List.cons.injEq, true_and] at e
          obtain ⟨rfl, rfl, rfl, rfl, e⟩ := e
          obtain ⟨rfl, rfl, rfl⟩ := ih t' e
          rw [h₃] at h₃'; rw [h₂] at h₂'; rw [h₁] at h₁'; rw [h₀] at h₀'
          cases h₃'; cases h₂'; cases h₁'; cases h₀'
          exact ⟨rfl, rfl, rfl⟩

/-- A literal is no shorter than its string. -/
theorem Chars.length_le {b u : List Nat} (h : Chars b u) (hb : ∀ c ∈ b, c < 0x10000) :
    u.length ≤ b.length := by
  induction h with
  | nil => exact Nat.le_refl _
  | unescaped h _ ih =>
      have := ih fun d hd => hb d (List.mem_cons_of_mem _ hd)
      rw [units, if_pos (hb _ (List.mem_cons_self ..))]
      simp only [List.cons_append, List.nil_append, List.length_cons]
      omega
  | escape h _ ih =>
      have := ih fun d hd => hb d (List.mem_cons_of_mem _ (List.mem_cons_of_mem _ hd))
      simp only [List.length_cons]
      omega
  | hex _ _ _ _ _ ih =>
      have := ih fun d hd => hb d (by simp [hd])
      simp only [List.length_cons]
      omega

/-- A literal that is no longer than its string has no escape. -/
theorem Chars.plain {b u : List Nat} (h : Chars b u) (hb : ∀ c ∈ b, c < 0x10000)
    (hl : b.length ≤ u.length) : Plain b := by
  induction h with
  | nil => exact fun c hc => absurd hc List.not_mem_nil
  | @unescaped c b u h _ ih =>
      have hc := hb c (List.mem_cons_self ..)
      have hb' := fun d hd => hb d (List.mem_cons_of_mem _ hd)
      rw [units, if_pos hc] at hl
      have := ih hb' (by simpa using hl)
      intro d hd
      rcases List.mem_cons.mp hd with rfl | hd
      · exact ⟨h, hc⟩
      · exact this d hd
  | escape _ t =>
      have := t.length_le fun d hd => hb d (List.mem_cons_of_mem _ (List.mem_cons_of_mem _ hd))
      simp only [List.length_cons] at hl
      omega
  | hex _ _ _ _ t =>
      have := t.length_le fun d hd => hb d (by simp [hd])
      simp only [List.length_cons] at hl
      omega

/-! ### Values -/

/-- What a JSON text stands for.  A number is kept as it is written. -/
inductive Value where
  | null
  | bool (b : Bool)
  | number (text : Points)
  | string (units : List Nat)
  | array (elements : List Value)
  | object (members : List (List Nat × Value))

/-- The member of a name: the last one, where a name occurs twice. -/
def Value.member : Value → List Nat → Option Value
  | .object ms, name => ms.reverse.lookup name
  | _, _ => none

/-- White space. -/
def Ws (t : Points) : Prop := ∀ c ∈ t, c = 32 ∨ c = 9 ∨ c = 10 ∨ c = 13

theorem ws_nil : Ws [] := fun _ h => absurd h List.not_mem_nil

/-- White space before a character that is none is empty. -/
theorem Ws.eq_nil {a x y : Points} {c : Nat} (h : Ws a) (e : a ++ x = c :: y)
    (hc : c ≠ 32 ∧ c ≠ 9 ∧ c ≠ 10 ∧ c ≠ 13) : a = [] := by
  cases a with
  | nil => rfl
  | cons d a =>
      have hd := h d (List.mem_cons_self ..)
      rw [(List.cons.inj e).1] at hd
      omega

/-- A run of digits. -/
def Digits (t : Points) : Prop := t ≠ [] ∧ ∀ c ∈ t, 48 ≤ c ∧ c ≤ 57

/-- A number: an optional minus, an integer part without leading zeros, an optional fraction and
an optional exponent. -/
def Number (t : Points) : Prop :=
  ∃ minus int frac exp, t = minus ++ (int ++ (frac ++ exp)) ∧ (minus = [] ∨ minus = [45]) ∧
    (int = [48] ∨ Digits int ∧ int.head? ≠ some 48) ∧
    (frac = [] ∨ ∃ ds, frac = 46 :: ds ∧ Digits ds) ∧
    (exp = [] ∨ ∃ e sign ds, (e = 101 ∨ e = 69) ∧ (sign = [] ∨ sign = [43] ∨ sign = [45]) ∧
      exp = e :: (sign ++ ds) ∧ Digits ds)

/-- One member of an object as it is written: the name between quotes, with white space on both
sides, a colon, and the element. -/
structure Member where
  before : Points
  name : Points
  units : List Nat
  after : Points
  element : Points
  value : Value

/-- The text of a member. -/
def Member.text (m : Member) : Points :=
  m.before ++ 34 :: (m.name ++ 34 :: (m.after ++ 58 :: m.element))

/-- The white space and the name of a member are as they must be. -/
def Member.NameOk (m : Member) : Prop := Ws m.before ∧ Chars m.name m.units ∧ Ws m.after

/-- A value with the white space around it. -/
inductive Element : Points → Value → Prop where
  | null {a c : Points} (ha : Ws a) (hc : Ws c) : Element (a ++ (points "null" ++ c)) .null
  | true {a c : Points} (ha : Ws a) (hc : Ws c) :
      Element (a ++ (points "true" ++ c)) (.bool true)
  | false {a c : Points} (ha : Ws a) (hc : Ws c) :
      Element (a ++ (points "false" ++ c)) (.bool false)
  | number {a t c : Points} (ha : Ws a) (ht : Number t) (hc : Ws c) :
      Element (a ++ (t ++ c)) (.number t)
  | string {a b c : Points} {u : List Nat} (ha : Ws a) (hb : Chars b u) (hc : Ws c) :
      Element (a ++ 34 :: (b ++ 34 :: c)) (.string u)
  | emptyArray {a b c : Points} (ha : Ws a) (hb : Ws b) (hc : Ws c) :
      Element (a ++ 91 :: (b ++ 93 :: c)) (.array [])
  | array {a c : Points} {es : List (Points × Value)} (ha : Ws a) (hne : es ≠ [])
      (hes : ∀ e ∈ es, Element e.1 e.2) (hc : Ws c) :
      Element (a ++ 91 :: ([44].intercalate (es.map Prod.fst) ++ 93 :: c))
        (.array (es.map Prod.snd))
  | emptyObject {a b c : Points} (ha : Ws a) (hb : Ws b) (hc : Ws c) :
      Element (a ++ 123 :: (b ++ 125 :: c)) (.object [])
  | object {a c : Points} {ms : List Member} (ha : Ws a) (hne : ms ≠ [])
      (hns : ∀ m ∈ ms, m.NameOk) (hms : ∀ m ∈ ms, Element m.element m.value) (hc : Ws c) :
      Element (a ++ 123 :: ([44].intercalate (ms.map Member.text) ++ 125 :: c))
        (.object (ms.map fun m => (m.units, m.value)))

/-! ### Reading a text -/

theorem Number.head {t : Points} (h : Number t) :
    ∃ c t', t = c :: t' ∧ (c = 45 ∨ 48 ≤ c ∧ c ≤ 57) := by
  obtain ⟨minus, int, frac, exp, rfl, hm, hi, -, -⟩ := h
  rcases hm with rfl | rfl
  · rcases hi with rfl | ⟨⟨hne, hd⟩, -⟩
    · exact ⟨48, frac ++ exp, rfl, .inr (by omega)⟩
    · obtain ⟨c, t', rfl⟩ := List.exists_cons_of_ne_nil hne
      exact ⟨c, _, rfl, .inr (hd c (List.mem_cons_self ..))⟩
  · exact ⟨45, _, rfl, .inl rfl⟩

/-- White space and then a character is a quote only where the character is. -/
theorem Ws.head_quote {a x y : Points} {c : Nat} (h : Ws a) (e : a ++ c :: x = 34 :: y) :
    c = 34 := by
  have ha := h.eq_nil e (by decide)
  rw [ha] at e
  exact (List.cons.inj e).1

/-- **A value that begins with a quote is a string.** -/
theorem Element.of_quote {t r x : Points} {v : Value} (h : Element t v)
    (e : t ++ r = 34 :: x) :
    ∃ b u c, Ws c ∧ Chars b u ∧ v = .string u ∧ t = 34 :: (b ++ 34 :: c) ∧
      x = b ++ 34 :: (c ++ r) := by
  cases h with
  | string ha hb hc =>
      rw [List.append_assoc] at e
      obtain rfl := ha.eq_nil e (by decide)
      refine ⟨_, _, _, hc, hb, rfl, rfl, ?_⟩
      simpa using (List.cons.inj e).2.symm
  | number ha ht =>
      obtain ⟨c, t', rfl, hd⟩ := ht.head
      simp only [List.append_assoc, List.cons_append] at e
      have := ha.head_quote e
      omega
  | null ha | true ha | false ha | emptyArray ha | array ha | emptyObject ha | object ha =>
      simp only [List.append_assoc, List.cons_append] at e
      exact absurd (ha.head_quote e) (by decide)

/-- What follows a member of an object: the other members, if any, and the end. -/
def tailText (ms : List Member) (c : Points) : Points :=
  match ms with
  | [] => 125 :: c
  | _ :: _ => 44 :: ([44].intercalate (ms.map Member.text) ++ 125 :: c)

theorem intercalate_text (m : Member) (ms : List Member) (c : Points) :
    [44].intercalate ((m :: ms).map Member.text) ++ 125 :: c = m.text ++ tailText ms c := by
  cases ms with
  | nil => simp [tailText]
  | cons m' ms => simp [tailText, List.intercalate]

/-- An object whose text begins with a brace and a quote has a first member, which begins with
the quote. -/
theorem Element.object_cons {x : Points} {ps : List (List Nat × Value)}
    (h : Element (123 :: 34 :: x) (.object ps)) :
    ∃ m ms c, (∀ k ∈ m :: ms, k.NameOk) ∧ (∀ k ∈ m :: ms, Element k.element k.value) ∧
      ps = (m :: ms).map (fun k => (k.units, k.value)) ∧
      34 :: x = m.text ++ tailText ms c := by
  generalize ht : (123 :: 34 :: x : Points) = t at h
  cases h with
  | emptyObject ha hb =>
      obtain rfl := ha.eq_nil ht.symm (by decide)
      exact absurd (hb.head_quote (List.cons.inj ht).2.symm) (by decide)
  | @object a c ms ha hne hns hms hc =>
      obtain rfl := ha.eq_nil ht.symm (by decide)
      obtain ⟨m, ms, rfl⟩ := List.exists_cons_of_ne_nil hne
      refine ⟨m, ms, c, hns, hms, rfl, ?_⟩
      rw [← intercalate_text]
      exact (List.cons.inj ht).2

/-- **Reading a member** whose name is known and whose value begins with a quote. -/
theorem Member.read {m : Member} (hn : m.NameOk) (he : Element m.element m.value)
    {name u rest x : Points} (hname : Chars name u)
    (e : m.text ++ rest = 34 :: (name ++ 34 :: 58 :: 34 :: x)) :
    m.units = u ∧ ∃ b v c, Ws c ∧ Chars b v ∧ m.value = .string v ∧
      x = b ++ 34 :: (c ++ rest) := by
  obtain ⟨hb, hu, ha⟩ := hn
  simp only [Member.text, List.append_assoc, List.cons_append] at e
  have hb₀ := hb.eq_nil e (by decide)
  rw [hb₀, List.nil_append] at e
  obtain ⟨-, hu', e⟩ := hu.unique hname (List.cons.inj e).2
  have ha₀ := ha.eq_nil e (by decide)
  rw [ha₀, List.nil_append] at e
  obtain ⟨b, v, c, hc, hb, hv, -, hx⟩ := he.of_quote (List.cons.inj e).2
  exact ⟨hu', b, v, c, hc, hb, hv, hx⟩

/-- A string is shorter than the member that holds it. -/
theorem Member.length_string {m : Member} {u : List Nat} (h : Element m.element (.string u))
    (hp : ∀ c ∈ m.text, c < 0x10000) : u.length + 2 < m.text.length := by
  generalize ht : m.element = t at h
  cases h with
  | string ha hb hc =>
      have := hb.length_le fun c hc => hp c (by simp [Member.text, ht, hc])
      simp only [Member.text, ht, List.length_append, List.length_cons]
      omega

theorem infix_intercalate {sep t : Points} :
    ∀ {ts : List Points}, t ∈ ts → t <:+: sep.intercalate ts
  | [_], h => by
      obtain rfl := List.mem_singleton.mp h
      simp [List.intercalate]
  | s :: s' :: ts, h => by
      have e : sep.intercalate (s :: s' :: ts) = s ++ (sep ++ sep.intercalate (s' :: ts)) := by
        simp [List.intercalate]
      rw [e]
      rcases List.mem_cons.mp h with rfl | h
      · exact List.infix_append [] _ _
      · exact (infix_intercalate h).trans
          ((List.suffix_append _ _).isInfix.trans (List.suffix_append _ _).isInfix)

/-- A later member is a part of what follows the first. -/
theorem Member.infix_tailText {m : Member} {ms : List Member} (h : m ∈ ms) (c : Points) :
    m.text <:+: tailText ms c ∧ m.text.length + 2 ≤ (tailText ms c).length := by
  obtain ⟨k, ms, rfl⟩ := List.exists_cons_of_ne_nil (List.ne_nil_of_mem h)
  have hi : m.text <:+: [44].intercalate ((k :: ms).map Member.text) :=
    infix_intercalate (List.mem_map_of_mem h)
  refine ⟨hi.trans ⟨[44], 125 :: c, by simp [tailText]⟩, ?_⟩
  have := hi.length_le
  simp only [tailText, List.length_cons, List.length_append]
  omega

/-- The text that follows a member is not empty. -/
theorem tailText_length_pos (ms : List Member) (c : Points) : 0 < (tailText ms c).length := by
  cases ms <;> simp [tailText]

/-! ### An object of two strings -/

/-- `{"n₁":"v₁","n₂":"v₂"}`, with the four texts as they are. -/
def pairText (n₁ v₁ n₂ v₂ : Points) : Points :=
  123 :: 34 :: (n₁ ++ 34 :: 58 :: 34 :: (v₁ ++ 34 :: 44 :: 34 ::
    (n₂ ++ 34 :: 58 :: 34 :: (v₂ ++ [34, 125]))))

/-- An object whose text begins with a member that is a string, and with the name and the quote of a
second one: what its two first members are, and what follows. -/
theorem Element.object_two {n₁ u₁ v₁ w₁ n₂ u₂ x : Points} (hn₁ : Chars n₁ u₁) (hv₁ : Chars v₁ w₁)
    (hn₂ : Chars n₂ u₂) {ps : List (List Nat × Value)}
    (h : Element (123 :: 34 :: (n₁ ++ 34 :: 58 :: 34 :: (v₁ ++ 34 :: 44 :: 34 ::
      (n₂ ++ 34 :: 58 :: 34 :: x)))) (.object ps)) :
    ∃ b w a ms c, Chars b w ∧ (∀ k ∈ ms, Element k.element k.value) ∧
      ps = (u₁, .string w₁) :: (u₂, .string w) :: ms.map (fun k => (k.units, k.value)) ∧
      x = b ++ 34 :: (a ++ tailText ms c) := by
  obtain ⟨m, ms, c, hns, hes, rfl, e⟩ := h.object_cons
  have hmem : m ∈ m :: ms := List.mem_cons_self ..
  -- the first member is the first string, and a second follows
  obtain ⟨hu₁, b, v, c₁, hc₁, hb, hv, e⟩ := Member.read (hns m hmem) (hes m hmem) hn₁ e.symm
  obtain ⟨-, rfl, e⟩ := hv₁.unique hb e
  obtain rfl := hc₁.eq_nil e.symm (by decide)
  cases ms with
  | nil => cases (List.cons.inj e).1
  | cons m₂ ms =>
      have e : _ = [44].intercalate ((m₂ :: ms).map Member.text) ++ 125 :: c :=
        (List.cons.inj e).2
      rw [intercalate_text] at e
      have hmem₂ : m₂ ∈ m :: m₂ :: ms := by simp
      obtain ⟨hu₂, b₂, w, c₂, -, hb₂, hw, e⟩ :=
        Member.read (hns m₂ hmem₂) (hes m₂ hmem₂) hn₂ e.symm
      refine ⟨b₂, w, c₂, ms, c, hb₂, fun k hk => hes k (by simp [hk]), ?_, e⟩
      rw [List.map_cons, List.map_cons, hu₁, hv, hu₂, hw]

/-- The second string may be written with escapes. -/
theorem element_pair {n₁ v₁ n₂ b : Points} {u : List Nat} (hn₁ : Plain n₁) (hv₁ : Plain v₁)
    (hn₂ : Plain n₂) (hb : Chars b u) :
    Element (pairText n₁ v₁ n₂ b) (.object [(n₁, .string v₁), (n₂, .string u)]) := by
  have str {v w : Points} (hv : Chars v w) : Element (34 :: (v ++ [34])) (.string w) :=
    .string (a := []) (c := []) ws_nil hv ws_nil
  let ms : List Member := [⟨[], n₁, n₁, [], 34 :: (v₁ ++ [34]), .string v₁⟩,
    ⟨[], n₂, n₂, [], 34 :: (b ++ [34]), .string u⟩]
  have hns : ∀ m ∈ ms, m.NameOk := by
    simp [ms, Member.NameOk, ws_nil, chars_of_plain, hn₁, hn₂]
  have hms : ∀ m ∈ ms, Element m.element m.value := by
    simp [ms, str (chars_of_plain hv₁), str hb]
  have h := Element.object (a := []) (c := []) ws_nil (List.cons_ne_nil _ _) hns hms ws_nil
  simpa [ms, pairText, Member.text, List.intercalate] using h

/-- The second string reads back only where it needs no escape. -/
theorem plain_of_pairText {n₁ v₁ n₂ v₂ : Points} (hn₁ : Plain n₁) (hv₁ : Plain v₁)
    (hn₂ : Plain n₂) (hv₂ : ∀ c ∈ v₂, c < 0x10000) {V : Value}
    (h : Element (pairText n₁ v₁ n₂ v₂) V) (hm : V.member n₂ = some (.string v₂)) :
    Plain v₂ := by
  cases V with
  | object ps =>
      obtain ⟨b₂, w, c₂, ms, c, hb₂, hes, rfl, e⟩ :=
        h.object_two (chars_of_plain hn₁) (chars_of_plain hv₁) (chars_of_plain hn₂)
      have hlen := congrArg List.length e
      simp only [List.length_append, List.length_cons, List.length_nil] at hlen
      have hsmall : ∀ d ∈ b₂ ++ 34 :: (c₂ ++ tailText ms c), d < 0x10000 := by
        rw [← e]
        intro d hd
        rcases List.mem_append.mp hd with hd | hd
        · exact hv₂ d hd
        · simp only [List.mem_cons, List.not_mem_nil, or_false] at hd; omega
      have hpos := tailText_length_pos ms c
      have hv : w = v₂ := by
        rw [Value.member, List.reverse_cons, List.reverse_cons, List.append_assoc,
          List.lookup_append] at hm
        cases hl : List.lookup n₂ ((ms.map fun k => (k.units, k.value)).reverse) with
        | none =>
            rw [hl] at hm
            simpa using hm
        | some x =>
            rw [hl] at hm
            obtain rfl : x = .string v₂ := by simpa using hm
            obtain ⟨l₁, l₂, hl, -⟩ := List.lookup_eq_some_iff.mp hl
            obtain ⟨k, hk, he⟩ := List.mem_map.mp (List.mem_reverse.mp
              (hl ▸ List.mem_append_right l₁ (List.mem_cons_self ..)))
            -- no later member is long enough to hold the string
            obtain ⟨hin, hle⟩ := Member.infix_tailText hk c
            have := Member.length_string (m := k) (u := v₂)
              (by rw [← (Prod.mk.inj he).2]; exact hes k hk)
              fun d hd => hsmall d (by simp [hin.subset hd])
            omega
      have hb₂' := fun d hd => hsmall d (List.mem_append_left _ hd)
      have hle := hb₂.length_le hb₂'
      rw [hv] at hb₂ hle
      have hbv : b₂.length = v₂.length := by omega
      rw [(List.append_inj e hbv.symm).1]
      exact hb₂.plain hb₂' (Nat.le_of_eq hbv)
  | _ => cases hm

/-- **When the second string reads back.**  An object of two strings, written without escapes, is
one whose second member is the text between its quotes exactly when that text needs none. -/
theorem pairText_iff {n₁ v₁ n₂ v₂ : Points} (hn₁ : Plain n₁) (hv₁ : Plain v₁) (hn₂ : Plain n₂)
    (hv₂ : ∀ c ∈ v₂, c < 0x10000) :
    (∃ V, Element (pairText n₁ v₁ n₂ v₂) V ∧ V.member n₂ = some (.string v₂)) ↔ Plain v₂ := by
  constructor
  · rintro ⟨V, h, hm⟩
    exact plain_of_pairText hn₁ hv₁ hn₂ hv₂ h hm
  · intro h
    exact ⟨_, element_pair hn₁ hv₁ hn₂ (chars_of_plain h), by simp [Value.member]⟩

end Json
