import Nearcade.Source.Builds
import Nearcade.System.Machine

/-!
# System — Getters

`nearcade_get_signaling_url`, `nearcade_get_lan_ip` and `nearcade_get_pin` put a text into the
caller's buffer.  The first prints it, and `snprintf` ends with a NUL; the others copy it with
`strncpy`, which ends with one only where the text is shorter than what it may copy.

* `strncpy_terminated_iff`: when the copy ends with a NUL.
* `getters_iff`: when the caller gets a terminated prefix.
-/

namespace Nearcade
open Text

/-- The three getters. -/
inductive Getter where
  | signalingUrl | lanIp | pin
  deriving DecidableEq

/-- The text a getter is for. -/
def Getter.value (b : Build) (s : State) : Getter → Bytes
  | .signalingUrl =>
      bytes "ws://" ++ s.g.lanIp ++ bytes ":" ++
        decimalInt (if b.signaling then s.sig.gPort else s.g.config.port)
  | .lanIp => s.g.lanIp
  | .pin => s.g.pin

/-- The call, with the caller's buffer, and what is in it afterwards. -/
def Getter.run (b : Build) (s : State) (buf : Option Bytes) : Getter → NearcadeError × Bytes
  | .signalingUrl => b.nearcadeGetSignalingUrl s buf
  | .lanIp => nearcadeGetLanIp s.g buf
  | .pin => nearcadeGetPin s.g buf

/-- A buffer of `n` bytes holds, terminated, as much of a text as fits. -/
structure HoldsPrefix (value : Bytes) (n : Nat) (buf : Bytes) : Prop where
  terminated : 0 ∈ buf
  eq : cstr buf = value.take (n - 1)

/-- What a getter promises: with `NEARCADE_OK` the buffer holds a terminated prefix. -/
def Getter.Terminates (b : Build) (s : State) (buf : Option Bytes) (g : Getter) : Prop :=
  (g.run b s buf).1 = .ok →
    ∃ dst, buf = some dst ∧ HoldsPrefix (g.value b s) dst.length (g.run b s buf).2

/-! ### The two ways to copy -/

/-- A text, a NUL, and what was there. -/
theorem holdsPrefix_of_terminated {s : Bytes} (h : 0 ∉ s) {value rest : Bytes} {n : Nat}
    (hs : s = value.take (n - 1)) : HoldsPrefix value n (s ++ 0 :: rest) :=
  ⟨by simp, by rw [cstr_terminated h, hs]⟩

/-- `snprintf` always ends with a NUL. -/
theorem holdsPrefix_snprintf {value : Bytes} (h : 0 ∉ value) (n : Nat) (rest : Bytes) :
    HoldsPrefix value n (snprintf n value ++ 0 :: rest) :=
  holdsPrefix_of_terminated (fun h0 => h (List.mem_of_mem_take h0)) rfl

/-- **When `strncpy` ends with a NUL**: where the text is shorter than what may be copied, or a NUL
stood at the end of the buffer. -/
theorem strncpy_terminated_iff {value dst : Bytes} (hv : 0 ∉ value) (hd : dst ≠ []) :
    HoldsPrefix value dst.length (strncpy dst value (dst.length - 1)) ↔
      value.length < dst.length - 1 ∨ dst.getLast? = some 0 := by
  obtain ⟨init, last, rfl⟩ : ∃ init last, dst = init ++ [last] :=
    ⟨_, _, (List.dropLast_append_getLast hd).symm⟩
  have hlen : (init ++ [last]).length - 1 = init.length := by simp
  have hlast : (init ++ [last]).getLast? = some last := by simp
  rw [hlast, Option.some.injEq, strncpy, hlen, List.drop_left]
  by_cases hfit : value.length < init.length
  · refine iff_of_true ?_ (.inl hfit)
    obtain ⟨m, hm⟩ := Nat.exists_eq_add_of_lt hfit
    -- zeros fill what the text leaves
    have hfill : (value ++ List.replicate init.length 0).take init.length =
        value ++ 0 :: List.replicate m 0 := by
      have hrest : value.length + m + 1 - value.length = m + 1 := by omega
      rw [hm, List.take_append, List.take_of_length_le (by omega), hrest, List.take_replicate,
        Nat.min_eq_left (by omega), List.replicate_succ]
    rw [hfill, List.append_assoc, List.cons_append]
    exact holdsPrefix_of_terminated hv (by rw [hlen, List.take_of_length_le (Nat.le_of_lt hfit)])
  · rw [or_iff_right hfit, List.take_append_of_le_length (Nat.not_lt.mp hfit)]
    have hcut : 0 ∉ value.take init.length := fun h0 => hv (List.mem_of_mem_take h0)
    constructor
    · intro h
      rcases List.mem_append.mp h.terminated with h0 | h0
      · exact absurd h0 hcut
      · exact (List.mem_singleton.mp h0).symm
    · rintro rfl
      exact holdsPrefix_of_terminated hcut (by rw [hlen])

/-! ### The getters -/

section
variable {b : Build} {s : State}

theorem Getter.nul_notMem_value (hip : 0 ∉ s.g.lanIp) (hpin : 0 ∉ s.g.pin) (g : Getter) :
    0 ∉ g.value b s := by
  cases g with
  | signalingUrl =>
      simp only [Getter.value, List.mem_append, not_or]
      exact ⟨⟨⟨by decide, hip⟩, by decide⟩, nul_notMem_decimalInt _⟩
  | lanIp => exact hip
  | pin => exact hpin

/-- The URL, in every build. -/
theorem Getter.run_signalingUrl (dst : Bytes) (hd : dst ≠ []) :
    ∃ rest, Getter.run b s (some dst) .signalingUrl =
      (.ok, snprintf dst.length (Getter.value b s .signalingUrl) ++ 0 :: rest) := by
  have hlen : dst.length ≠ 0 := fun h => hd (List.length_eq_zero_iff.mp h)
  simp only [Getter.run, Build.nearcadeGetSignalingUrl, Getter.value]
  cases b.signaling with
  | true =>
      simp only [nearcadeGetSignalingUrl, Signaling.signalingGetUrl, if_neg hlen, if_true]
      exact ⟨_, rfl⟩
  | false =>
      simp only [if_neg hlen, Bool.false_eq_true, if_false]
      exact ⟨_, rfl⟩

theorem copyOut_eq (value dst : Bytes) (hd : dst ≠ []) :
    copyOut value (some dst) = (.ok, strncpy dst value (dst.length - 1)) :=
  if_neg fun h => hd (List.length_eq_zero_iff.mp h)

/-- Without a buffer, or with one of no bytes, nothing is promised. -/
theorem Getter.terminates_of_empty (g : Getter) :
    g.Terminates b s none ∧ g.Terminates b s (some []) := by
  cases g with
  | signalingUrl =>
      simp only [Getter.Terminates, Getter.run, Build.nearcadeGetSignalingUrl]
      cases b.signaling <;> exact ⟨nofun, nofun⟩
  | lanIp | pin => exact ⟨nofun, nofun⟩

/-- A buffer in which `strncpy` leaves a terminated text. -/
def Room (value : Bytes) (buf : Option Bytes) : Prop :=
  ∀ dst, buf = some dst → dst = [] ∨ value.length < dst.length - 1 ∨ dst.getLast? = some 0

/-- The getters that copy. -/
theorem Getter.terminates_copy_iff {g : Getter} {dst : Bytes} (hv : 0 ∉ g.value b s)
    (hd : dst ≠ []) (hrun : g.run b s (some dst) = copyOut (g.value b s) (some dst)) :
    g.Terminates b s (some dst) ↔ Room (g.value b s) (some dst) := by
  rw [Getter.Terminates, hrun, copyOut_eq _ _ hd]
  simp only [Room, Option.some.injEq, exists_eq_left', forall_eq', hd, false_or, true_implies]
  exact strncpy_terminated_iff hv hd

/-- **When a getter leaves a terminated prefix.**  For every build, every address, PIN and port and
every buffer with any contents: the URL always comes terminated; the address and the PIN do just
when they are shorter than the buffer by two bytes at least, or its last byte was a NUL. -/
theorem getters_iff (hip : 0 ∉ s.g.lanIp) (hpin : 0 ∉ s.g.pin) (g : Getter)
    (buf : Option Bytes) :
    g.Terminates b s buf ↔ g = .signalingUrl ∨ Room (g.value b s) buf := by
  have hv := g.nul_notMem_value hip hpin (b := b)
  cases buf with
  | none => exact iff_of_true g.terminates_of_empty.1 (.inr nofun)
  | some dst =>
      by_cases hd : dst = []
      · subst hd
        refine iff_of_true g.terminates_of_empty.2 (.inr ?_)
        rintro dst' h
        exact .inl (Option.some.inj h).symm
      · cases g with
        | signalingUrl =>
            refine iff_of_true (fun _ => ⟨dst, rfl, ?_⟩) (.inl rfl)
            obtain ⟨rest, hrun⟩ := Getter.run_signalingUrl (b := b) (s := s) dst hd
            rw [hrun]
            exact holdsPrefix_snprintf hv dst.length rest
        | lanIp => exact (Getter.terminates_copy_iff hv hd rfl).trans (by simp)
        | pin => exact (Getter.terminates_copy_iff hv hd rfl).trans (by simp)

end

/-- A PIN of four digits, and a buffer of five bytes that held something else. -/
theorem pin_not_terminated : ¬∀ (b : Build) (s : State) (buf : Option Bytes) (g : Getter),
    0 ∉ s.g.lanIp → 0 ∉ s.g.pin → g.Terminates b s buf := by
  intro h
  obtain ⟨dst, hdst, hholds⟩ := h .linux World.first.sdk (some (List.replicate 5 255)) .pin
    (by decide +kernel) (by decide +kernel) (by decide +kernel)
  exact absurd hholds.terminated (by decide +kernel)

theorem getters_iff_first :
    Getter.Terminates .linux World.first.sdk (some (List.replicate 8 255)) .pin ↔
      Getter.pin = .signalingUrl ∨
        Room (Getter.value .linux World.first.sdk .pin) (some (List.replicate 8 255)) :=
  getters_iff (by decide +kernel) (by decide +kernel) .pin _

end Nearcade
