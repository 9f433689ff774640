import Mathlib.Algebra.Group.Int.Defs
import Mathlib.Algebra.Group.Nat.Defs
import Mathlib.Data.List.Induction
import Mathlib.Data.List.TakeDrop
import Mathlib.Tactic.Common

/-!
# Support — Text

C strings and the library functions on them.  A C string is the list of its bytes before the
terminating NUL, so `*p == 0` is `p = []`, and a pointer into a string is the list of the bytes
from it on.  A buffer is the list of all its bytes; `cstr` reads the string in it.

* `scanInt_decimalInt`: `%d` reads back what `%d` printed, whatever follows it.  So the printed
  text determines the number (`decimalInt_injective`).
-/

namespace Text

/-- Bytes. -/
abbrev Bytes := List UInt8

/-- The byte of an ASCII character. -/
def byteOf (c : Char) : UInt8 := UInt8.ofNat c.toNat

/-- The character of a byte. -/
def charOf (b : UInt8) : Char := Char.ofNat b.toNat

/-- The bytes of an ASCII string. -/
def bytes (s : String) : Bytes := s.toList.map byteOf

/-- The string a buffer holds: its bytes before the first NUL. -/
def cstr (buf : Bytes) : Bytes := buf.takeWhile (· ≠ 0)

/-- `strstr(hay, needle)`: the text from the first occurrence on. -/
def strstr : Bytes → Bytes → Option Bytes
  | [], needle => if needle = [] then some [] else none
  | c :: hay, needle => if needle <+: c :: hay then some (c :: hay) else strstr hay needle

/-- `strncpy(dst, src, n)`: `src` cut at `n` bytes or filled with NULs up to `n`, over the
beginning of `dst`. -/
def strncpy (dst src : Bytes) (n : Nat) : Bytes :=
  (src ++ List.replicate n 0).take n ++ dst.drop n

/-- The text `snprintf` leaves in a buffer of `size` bytes. -/
def snprintf (size : Nat) (text : Bytes) : Bytes := text.take (size - 1)

/-- What `snprintf` returns: the length of the whole text, or an error where `int` cannot hold
it. -/
def snprintfRet (text : Bytes) : Int :=
  if text.length ≤ 2147483647 then text.length else -1

/-- `isdigit`. -/
def isDigit (b : UInt8) : Bool := 48 ≤ b && b ≤ 57

/-- `isspace`. -/
def isSpace (b : UInt8) : Bool := b = 32 || (9 ≤ b && b ≤ 13)

/-- A natural number in decimal. -/
def decimal (n : Nat) : Bytes := (Nat.toDigits 10 n).map byteOf

/-- `%d`, printed. -/
def decimalInt : Int → Bytes
  | .ofNat n => decimal n
  | .negSucc n => bytes "-" ++ decimal (n + 1)

/-- The value of a run of digits. -/
def digitsValue (ds : Bytes) : Nat := Nat.ofDigitChars 10 (ds.map charOf) 0

/-- The values of `int`. -/
def InInt (z : Int) : Prop := -2147483648 ≤ z ∧ z ≤ 2147483647

instance (z : Int) : Decidable (InInt z) := inferInstanceAs (Decidable (_ ∧ _))

/-- The digits `%d` reads after the sign.  No digit is a matching failure; a value outside `int`
becomes whatever `overflow` says. -/
def scanDigits (overflow : Int → Int) (sign : Int) (s : Bytes) : Option Int :=
  let ds := s.takeWhile isDigit
  if ds = [] then none
  else
    let z := sign * digitsValue ds
    some (if InInt z then z else overflow z)

/-- `%d`, read: white space, a sign, digits; what follows is left unread. -/
def scanInt (overflow : Int → Int) (s : Bytes) : Option Int :=
  match s.dropWhile isSpace with
  | 45 :: r => scanDigits overflow (-1) r
  | 43 :: r => scanDigits overflow 1 r
  | r => scanDigits overflow 1 r

/-- `sscanf(s, lit ++ "%d", &x)`, for a literal without white space or `%`. -/
def sscanf (overflow : Int → Int) (lit s : Bytes) : Option Int :=
  if lit <+: s then scanInt overflow (s.drop lit.length) else none

/-- `strstr` finds what occurs. -/
theorem strstr_isSome_iff {hay needle : Bytes} :
    (strstr hay needle).isSome = true ↔ needle <:+: hay := by
  induction hay with
  | nil =>
      rw [strstr, List.infix_nil]
      split <;> simp_all
  | cons c hay ih =>
      rw [strstr, List.infix_cons_iff]
      split
      · rename_i h
        exact iff_of_true rfl (.inl h)
      · rename_i h
        rw [ih, or_iff_right h]

/-- **What `strstr` finds**: the text from the first occurrence on. -/
theorem strstr_eq_some {hay needle v : Bytes} (h : strstr hay needle = some v) :
    ∃ pre, hay = pre ++ v ∧ needle <+: v ∧
      ∀ a b, hay = a ++ needle ++ b → pre.length ≤ a.length := by
  induction hay with
  | nil =>
      rw [strstr, Option.ite_none_right_eq_some] at h
      obtain ⟨rfl, h⟩ := h
      exact ⟨[], Option.some.inj h, List.nil_prefix, fun a b _ => Nat.zero_le _⟩
  | cons c hay ih =>
      rw [strstr] at h
      split at h
      · rename_i hpre
        obtain rfl := Option.some.inj h
        exact ⟨[], rfl, hpre, fun a b _ => Nat.zero_le _⟩
      · rename_i hpre
        obtain ⟨pre, rfl, hv, hfirst⟩ := ih h
        refine ⟨c :: pre, rfl, hv, ?_⟩
        rintro (_ | ⟨x, a⟩) b hab
        · exact absurd (hab ▸ List.prefix_append ..) hpre
        · exact Nat.succ_le_succ (hfirst a b (List.cons.inj hab).2)

/-- Copying over NULs: what is not copied is NUL. -/
theorem strncpy_zeros {m n : Nat} (h : n ≤ m) (s : Bytes) :
    strncpy (List.replicate m 0) s n =
      s.take n ++ List.replicate (m - (s.take n).length) 0 := by
  rw [strncpy, List.take_append, List.drop_replicate, List.take_replicate, List.append_assoc,
    List.replicate_append_replicate, List.length_take]
  congr 2
  omega

/-- The string in a buffer that holds one, padded with NULs. -/
theorem cstr_padded {s : Bytes} (h : 0 ∉ s) (n : Nat) : cstr (s ++ List.replicate n 0) = s := by
  have hs : ∀ b ∈ s, decide (b ≠ 0) = true := fun b hb => decide_eq_true fun e => h (e ▸ hb)
  rw [cstr, List.takeWhile_append_of_pos hs]
  cases n with
  | zero => simp
  | succ n => simp [List.replicate_succ]

/-- The string in a buffer that holds one, terminated. -/
theorem cstr_terminated {s : Bytes} (h : 0 ∉ s) (rest : Bytes) : cstr (s ++ 0 :: rest) = s := by
  have hs : ∀ b ∈ s, decide (b ≠ 0) = true := fun b hb => decide_eq_true fun e => h (e ▸ hb)
  rw [cstr, List.takeWhile_append_of_pos hs]
  simp

/-! ### Decimal text -/

theorem charOf_byteOf_of_isDigit {c : Char} (h : c.isDigit = true) : charOf (byteOf c) = c := by
  have hc : c.toNat ≤ 57 := by
    simp only [Char.isDigit, Bool.and_eq_true, decide_eq_true_eq] at h
    exact h.2
  have : (UInt8.ofNat c.toNat).toNat = c.toNat := by
    rw [UInt8.toNat_ofNat']; omega
  rw [charOf, byteOf, this, Char.ofNat_toNat]

theorem isDigit_byteOf {c : Char} (h : c.isDigit = true) : isDigit (byteOf c) = true := by
  simp only [Char.isDigit, Bool.and_eq_true, decide_eq_true_eq] at h
  have h₁ : 48 ≤ c.toNat := h.1
  have h₂ : c.toNat ≤ 57 := h.2
  have : (UInt8.ofNat c.toNat).toNat = c.toNat := by
    rw [UInt8.toNat_ofNat']; omega
  simp only [isDigit, byteOf, Bool.and_eq_true, decide_eq_true_eq, UInt8.le_iff_toNat_le, this]
  exact ⟨h₁, h₂⟩

theorem isDigit_of_mem_decimal {n : Nat} {b : UInt8} (h : b ∈ decimal n) : isDigit b = true := by
  obtain ⟨c, hc, rfl⟩ := List.mem_map.mp h
  exact isDigit_byteOf (Nat.isDigit_of_mem_toDigits (by decide) (by decide) hc)

theorem decimal_length_le_iff {n k : Nat} (hk : 0 < k) :
    (decimal n).length ≤ k ↔ n < 10 ^ k := by
  rw [decimal, List.length_map, Nat.length_toDigits_le_iff (by decide) hk]

/-- A text is printed whole just when it fits. -/
theorem snprintf_eq_iff {size : Nat} {text : Bytes} :
    snprintf size text = text ↔ text.length ≤ size - 1 := by
  rw [snprintf, List.take_eq_self_iff]

/-- The length of `%d`, for a number that is not negative. -/
theorem decimalInt_length_le_iff {z : Int} (hz : 0 ≤ z) {k : Nat} (hk : 0 < k) :
    (decimalInt z).length ≤ k ↔ z < 10 ^ k := by
  obtain ⟨n, rfl⟩ := Int.eq_ofNat_of_zero_le hz
  have hpow : ((10 ^ k : Nat) : Int) = 10 ^ k := Int.natCast_pow 10 k
  rw [← hpow, Int.ofNat_lt]
  exact decimal_length_le_iff hk

theorem nul_notMem_decimalInt (z : Int) : 0 ∉ decimalInt z := by
  have hd : ∀ n, 0 ∉ decimal n := fun n h => absurd (isDigit_of_mem_decimal h) (by decide)
  cases z with
  | ofNat n => exact hd n
  | negSucc n =>
      intro h
      rcases List.mem_append.mp h with h | h
      · exact absurd h (by decide)
      · exact hd (n + 1) h

theorem decimal_ne_nil (n : Nat) : decimal n ≠ [] := by
  simp [decimal, Nat.toDigits_ne_nil]

theorem digitsValue_decimal (n : Nat) : digitsValue (decimal n) = n := by
  have h : ((Nat.toDigits 10 n).map byteOf).map charOf = Nat.toDigits 10 n := by
    rw [List.map_map]
    refine (List.map_congr_left fun c hc => ?_).trans (List.map_id _)
    exact charOf_byteOf_of_isDigit (Nat.isDigit_of_mem_toDigits (by decide) (by decide) hc)
  rw [digitsValue, decimal, h, Nat.ofDigitChars_ten_toDigits]

/-! ### Canonical numerals -/

/-- Digits, without a leading zero. -/
structure Canonical (ds : Bytes) : Prop where
  ne_nil : ds ≠ []
  digits : ∀ b ∈ ds, isDigit b = true
  head : ds.head? = some 48 → ds = [48]

theorem decimal_append {n d : Nat} (hn : 0 < n) (hd : d < 10) :
    decimal (10 * n + d) = decimal n ++ decimal d := by
  rw [decimal, ← Nat.toDigits_append_toDigits (by decide) hn hd, List.map_append]
  rfl

/-- A digit is the numeral of its value. -/
theorem decimal_digit {b : UInt8} (h : isDigit b = true) : decimal (b.toNat - 48) = [b] := by
  simp only [isDigit, Bool.and_eq_true, decide_eq_true_eq, UInt8.le_iff_toNat_le] at h
  have h₁ : 48 ≤ b.toNat := h.1
  have h₂ : b.toNat ≤ 57 := h.2
  have hall : ∀ d : Fin 10, decimal d.val = [UInt8.ofNat (48 + d.val)] := by decide
  have hd := hall ⟨b.toNat - 48, by omega⟩
  have hb : 48 + (b.toNat - 48) = b.toNat := by omega
  rwa [hb, UInt8.ofNat_toNat] at hd

theorem digitsValue_concat (ds : Bytes) {b : UInt8} (h : isDigit b = true) :
    digitsValue (ds ++ [b]) = 10 * digitsValue ds + (b.toNat - 48) := by
  have hb := digitsValue_decimal (b.toNat - 48)
  rw [decimal_digit h] at hb
  rw [digitsValue, List.map_append, Nat.ofDigitChars_append, Nat.ofDigitChars_eq_ofDigitChars_zero]
  simp only [digitsValue] at hb ⊢
  rw [hb]
  simp

/-- **A canonical numeral is the one of its value.** -/
theorem Canonical.decimal_digitsValue {ds : Bytes} (h : Canonical ds) :
    decimal (digitsValue ds) = ds := by
  induction ds using List.reverseRecOn with
  | nil => exact absurd rfl h.ne_nil
  | append_singleton ds b ih =>
      have hb := h.digits b (by simp)
      rcases ds with _ | ⟨c, ds⟩
      · rw [digitsValue_concat [] hb]
        simpa [digitsValue] using decimal_digit hb
      · -- a longer numeral has no zero at its head, nor has what comes before its last digit
        have hhead : c ≠ 48 := by
          rintro rfl
          simpa using h.head rfl
        have hc : Canonical (c :: ds) := by
          refine ⟨by simp, fun d hd => h.digits d (List.mem_append_left _ hd), fun e => ?_⟩
          exact absurd (Option.some.inj e) hhead
        have ih := ih hc
        have hpos : 0 < digitsValue (c :: ds) := by
          refine Nat.pos_of_ne_zero fun e => hhead ?_
          rw [e] at ih
          exact (List.cons.inj ih).1.symm
        have hlt : b.toNat - 48 < 10 := by
          simp only [isDigit, Bool.and_eq_true, decide_eq_true_eq, UInt8.le_iff_toNat_le] at hb
          have h₂ : b.toNat ≤ 57 := hb.2
          omega
        rw [digitsValue_concat _ hb, decimal_append hpos hlt, ih, decimal_digit hb]

/-- **What `%d` prints of a number that is not negative is canonical.** -/
theorem canonical_decimal (n : Nat) : Canonical (decimal n) := by
  refine ⟨decimal_ne_nil n, fun b => isDigit_of_mem_decimal, fun h => ?_⟩
  induction n using Nat.strongRecOn with
  | _ n ih =>
      by_cases hn : n < 10
      · rw [decimal, Nat.toDigits_of_lt_base hn] at h ⊢
        rw [List.map_cons, List.map_nil, List.head?_cons] at h
        rw [List.map_cons, List.map_nil, Option.some.inj h]
      · -- the numeral of the other digits comes first
        have hsplit := decimal_append (n := n / 10) (d := n % 10) (by omega) (by omega)
        rw [Nat.div_add_mod] at hsplit
        have hhead : (decimal (n / 10)).head? = some 48 := by
          obtain ⟨b, ds, hd⟩ := List.exists_cons_of_ne_nil (decimal_ne_nil (n / 10))
          rw [hsplit, hd, List.cons_append, List.head?_cons] at h
          rw [hd, List.head?_cons, h]
        have hzero := congrArg digitsValue (ih (n / 10) (by omega) hhead)
        rw [digitsValue_decimal, show digitsValue [48] = 0 from rfl] at hzero
        omega

/-- A text that does not begin with a digit. -/
def NoDigit (s : Bytes) : Prop := ∀ b, s.head? = some b → isDigit b = false

theorem takeWhile_decimal (n : Nat) {r : Bytes} (hr : NoDigit r) :
    (decimal n ++ r).takeWhile isDigit = decimal n := by
  rw [List.takeWhile_append_of_pos fun _ => isDigit_of_mem_decimal]
  cases r with
  | nil => simp
  | cons b r => rw [List.takeWhile_cons_of_neg (by simp [hr b rfl]), List.append_nil]

theorem scanDigits_decimal (ov : Int → Int) (sign : Int) {n : Nat} {r : Bytes}
    (hn : InInt (sign * n)) (hr : NoDigit r) :
    scanDigits ov sign (decimal n ++ r) = some (sign * n) := by
  simp only [scanDigits, takeWhile_decimal n hr, digitsValue_decimal]
  rw [if_neg (decimal_ne_nil n), if_pos hn]

theorem not_isSpace_of_isDigit {b : UInt8} (h : isDigit b = true) : isSpace b = false := by
  simp only [isDigit, Bool.and_eq_true, decide_eq_true_eq, UInt8.le_iff_toNat_le] at h
  have h₁ : 48 ≤ b.toNat := h.1
  have e : b ≠ 32 := fun e => by subst e; exact absurd h₁ (by decide)
  have l : ¬ b ≤ 13 := fun l => by
    have : b.toNat ≤ 13 := UInt8.le_iff_toNat_le.mp l
    omega
  simp [isSpace, e, l]

/-- **`%d` reads back what `%d` printed.** -/
theorem scanInt_decimalInt (ov : Int → Int) {z : Int} (hz : InInt z) {r : Bytes}
    (hr : NoDigit r) : scanInt ov (decimalInt z ++ r) = some z := by
  cases z with
  | ofNat n =>
      obtain ⟨b, ds, hd⟩ := List.exists_cons_of_ne_nil (decimal_ne_nil n)
      have hb : isDigit b = true := isDigit_of_mem_decimal (by rw [hd]; simp)
      have h := scanDigits_decimal ov 1 (n := n) (r := r) (by simpa using hz) hr
      simp only [decimalInt, scanInt]
      rw [hd, List.cons_append, List.dropWhile_cons_of_neg (by simp [not_isSpace_of_isDigit hb])]
      rw [hd, List.cons_append] at h
      -- a digit is neither sign
      split
      · rename_i e; cases e; exact absurd hb (by decide)
      · rename_i e; cases e; exact absurd hb (by decide)
      · simpa using h
  | negSucc n =>
      have h := scanDigits_decimal ov (-1) (n := n + 1) (r := r)
        (by simpa [Int.negSucc_eq] using hz) hr
      have hd : (bytes "-" ++ decimal (n + 1) ++ r).dropWhile isSpace =
          45 :: (decimal (n + 1) ++ r) := rfl
      simp only [decimalInt, scanInt, hd, h]
      simp [Int.negSucc_eq]

theorem noDigit_nil : NoDigit [] := by simp [NoDigit]

theorem decimalInt_injective {x y : Int} (hx : InInt x) (hy : InInt y)
    (h : decimalInt x = decimalInt y) : x = y := by
  have hx' := scanInt_decimalInt id hx noDigit_nil
  have hy' := scanInt_decimalInt id hy noDigit_nil
  rw [h, hy'] at hx'
  exact (Option.some.inj hx').symm

/-- **Reading back a printed number behind a literal.** -/
theorem sscanf_append_decimalInt (ov : Int → Int) (lit : Bytes) {z : Int} (hz : InInt z) :
    sscanf ov lit (lit ++ decimalInt z) = some z := by
  have h := scanInt_decimalInt ov hz noDigit_nil
  rw [List.append_nil] at h
  rw [sscanf, if_pos (List.prefix_append _ _), List.drop_left, h]

end Text
