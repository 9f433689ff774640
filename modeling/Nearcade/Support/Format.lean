import Nearcade.Support.Text

/-!
# Support — Format

Formats of literals and `%d`, printed and read back.  A format is its first literal and the
literals that follow its numbers, one for each.

* `scan_print`: where the literals separate the numbers, reading back what was printed gives the
  numbers.
* `length_decimalInt_le`: `%d` of an `int` takes eleven bytes at most.
-/

namespace Text

/-- A format, as the literal before its numbers and those after each. -/
structure Format where
  first : Bytes
  seps : List Bytes

/-- The part from the first number on, printed. -/
def printTail : List Bytes → List Int → Bytes
  | s :: ss, z :: zs => decimalInt z ++ (s ++ printTail ss zs)
  | _, _ => []

/-- `snprintf(…, format, z₁, z₂, …)`, the whole text. -/
def Format.print (f : Format) (zs : List Int) : Bytes := f.first ++ printTail f.seps zs

/-- What `%d` leaves unread. -/
def afterInt (s : Bytes) : Bytes :=
  match s.dropWhile isSpace with
  | 45 :: r => r.dropWhile isDigit
  | 43 :: r => r.dropWhile isDigit
  | r => r.dropWhile isDigit

/-- The part from the first number on, read: each number, and its literal. -/
def scanTail (overflow : Int → Int) : List Bytes → Bytes → Option (List Int)
  | [], _ => some []
  | s :: ss, text =>
      (scanInt overflow text).bind fun z =>
        if s <+: afterInt text then
          (scanTail overflow ss ((afterInt text).drop s.length)).map (z :: ·)
        else none

/-- A text, read by a format. -/
def Format.scan (overflow : Int → Int) (f : Format) (text : Bytes) : Option (List Int) :=
  if f.first <+: text then scanTail overflow f.seps (text.drop f.first.length) else none

/-- The literals end the numbers before them. -/
def Separated : List Bytes → Prop
  | [] => True
  | [s] => NoDigit s
  | s :: s' :: ss => (s ≠ [] ∧ NoDigit s) ∧ Separated (s' :: ss)

theorem noDigit_of_head {b : UInt8} {s : Bytes} (h : isDigit b = false) : NoDigit (b :: s) :=
  fun _ hb => Option.some.inj hb ▸ h

theorem Separated.tail {s : Bytes} {ss : List Bytes} (h : Separated (s :: ss)) : Separated ss := by
  cases ss with
  | nil => trivial
  | cons s' ss => exact h.2

/-- What is printed after a number does not begin with a digit. -/
theorem Separated.noDigit {s : Bytes} {ss : List Bytes} (h : Separated (s :: ss)) {zs : List Int}
    (hlen : zs.length = ss.length) : NoDigit (s ++ printTail ss zs) := by
  cases ss with
  | nil =>
      rw [List.length_eq_zero_iff.mp hlen]
      exact (List.append_nil s).symm ▸ h
  | cons s' ss =>
      obtain ⟨b, r, rfl⟩ := List.exists_cons_of_ne_nil h.1.1
      exact fun c hc => h.1.2 c hc

/-! ### What `%d` leaves -/

theorem dropWhile_decimal (n : Nat) {r : Bytes} (hr : NoDigit r) :
    (decimal n ++ r).dropWhile isDigit = r := by
  rw [List.dropWhile_append_of_pos fun _ => isDigit_of_mem_decimal]
  cases r with
  | nil => rfl
  | cons b r => exact List.dropWhile_cons_of_neg (by simp [hr b rfl])

/-- **What `%d` leaves of a printed number** is what follows it. -/
theorem afterInt_decimalInt (z : Int) {r : Bytes} (hr : NoDigit r) :
    afterInt (decimalInt z ++ r) = r := by
  cases z with
  | ofNat n =>
      obtain ⟨b, ds, hd⟩ := List.exists_cons_of_ne_nil (decimal_ne_nil n)
      have hb : isDigit b = true := isDigit_of_mem_decimal (by rw [hd]; simp)
      have hdrop := dropWhile_decimal n hr
      simp only [decimalInt, afterInt]
      rw [hd, List.cons_append] at hdrop ⊢
      rw [List.dropWhile_cons_of_neg (by simp [not_isSpace_of_isDigit hb])]
      -- a digit is neither sign
      split
      · rename_i e; cases e; exact absurd hb (by decide)
      · rename_i e; cases e; exact absurd hb (by decide)
      · exact hdrop
  | negSucc n =>
      have hd : (bytes "-" ++ decimal (n + 1) ++ r).dropWhile isSpace =
          45 :: (decimal (n + 1) ++ r) := rfl
      simp only [decimalInt, afterInt, hd]
      exact dropWhile_decimal (n + 1) hr

/-! ### Reading back -/

section
variable {ss : List Bytes} {zs : List Int}

theorem scanTail_printTail (ov : Int → Int) (hs : Separated ss) (hlen : zs.length = ss.length)
    (hz : ∀ z ∈ zs, InInt z) : scanTail ov ss (printTail ss zs) = some zs := by
  induction ss generalizing zs with
  | nil => rw [List.length_eq_zero_iff.mp hlen, scanTail]
  | cons s ss ih =>
      obtain ⟨z, zs, rfl⟩ := List.exists_cons_of_length_eq_add_one hlen
      have hlen : zs.length = ss.length := Nat.succ.inj hlen
      have hrest := hs.noDigit hlen
      have hrec := ih hs.tail hlen fun z hz' => hz z (List.mem_cons_of_mem _ hz')
      rw [printTail, scanTail, scanInt_decimalInt ov (hz z (List.mem_cons_self ..)) hrest,
        Option.bind_some, afterInt_decimalInt z hrest, if_pos (List.prefix_append ..),
        List.drop_left, hrec]
      rfl

/-- **Reading back what was printed gives the numbers.** -/
theorem Format.scan_print (ov : Int → Int) {f : Format} (hs : Separated f.seps)
    (hlen : zs.length = f.seps.length) (hz : ∀ z ∈ zs, InInt z) :
    f.scan ov (f.print zs) = some zs := by
  rw [Format.scan, Format.print, if_pos (List.prefix_append ..), List.drop_left]
  exact scanTail_printTail ov hs hlen hz

end

/-! ### Lengths -/

/-- `%d` of an `int` takes eleven bytes at most. -/
theorem length_decimalInt_le {z : Int} (hz : InInt z) : (decimalInt z).length ≤ 11 := by
  have hd : ∀ n : Nat, n ≤ 2147483648 → (decimal n).length ≤ 10 := fun n hn =>
    (decimal_length_le_iff (by decide)).mpr (by omega)
  obtain ⟨hlow, hhigh⟩ := hz
  cases z with
  | ofNat n =>
      have hn : n ≤ 2147483648 := by
        have : (n : Int) ≤ 2147483647 := hhigh
        omega
      exact Nat.le_succ_of_le (hd n hn)
  | negSucc n =>
      have hn : n + 1 ≤ 2147483648 := by
        have : -2147483648 ≤ Int.negSucc n := hlow
        omega
      rw [decimalInt, List.length_append]
      have hone : (bytes "-").length = 1 := rfl
      have := hd (n + 1) hn
      omega

theorem nul_notMem_printTail {ss : List Bytes} (hs : ∀ s ∈ ss, 0 ∉ s) (zs : List Int) :
    0 ∉ printTail ss zs := by
  induction ss generalizing zs with
  | nil => exact List.not_mem_nil
  | cons s ss ih =>
      cases zs with
      | nil => exact List.not_mem_nil
      | cons z zs =>
          have hrest := ih (fun s hs' => hs s (List.mem_cons_of_mem _ hs')) zs
          simp only [printTail, List.mem_append, not_or]
          exact ⟨nul_notMem_decimalInt z, hs s (List.mem_cons_self ..), hrest⟩

end Text
