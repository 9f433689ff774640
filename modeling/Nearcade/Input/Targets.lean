import Nearcade.Input.Descriptors
import Nearcade.System.Events

/-!
# Input — Targets

Where input events are written, in every run of the SDK from its start.

`gp_fds` is zero until `input_init` fills it, so a slot seems to have a device on descriptor 0 that
no one opened.  A `nearcade_init` that makes its two mutexes gets as far as `input_init`
(`Primes`); it need not succeed.  Before the first of those the backend is as it was at the start
(`Unprimed`), and after it no slot has a device (`Primed`).

`written_to_own_iff`: every input event goes to a descriptor that was opened as a uinput device and
not yet closed, just when no call names a slot before `input_init` has run.
-/

namespace Nearcade
open Text Runs Resources

/-- A `nearcade_init` that runs `input_init`. -/
def Input.Primes : Input → Prop
  | .call (.init _ env _) => env.viewerLock = true ∧ env.slotsLock = true
  | _ => False

/-- A call that writes to the device of a slot. -/
def Input.NamesSlot : Input → Prop
  | .call (.submitGamepad (some pkt)) => pkt.slot.toNat < maxSlots
  | .call (.flushSlot slot) => slot.toNat < maxSlots
  | _ => False

/-- Before `input_init` first runs. -/
structure Unprimed (w : World) : Prop where
  inp : w.sdk.inp = .boot
  running : w.sdk.g.running = false
  down : w.sdk.rtc.gInitialized = false
  pcs : w.sdk.rtc.pcs = []

/-- After it. -/
structure Primed (w : World) : Prop where
  devices : NoDevice w.sdk.inp
  ledger : Ledger w.sdk.inp

section
variable {ov : Int → Int} {w : World}

/-! ### One step -/

theorem Primed.next (h : Primed w) {i : Input} (he : (system ov).enabled w i) :
    Primed ((system ov).next w i) ∧
      replay w.sdk.inp.opened (Input.uses ((system ov).out w i)) =
        some ((system ov).next w i).sdk.inp.opened := by
  cases i with
  | call c =>
      have hf := Input.follows_call ov h.ledger he
      exact ⟨⟨h.devices.call he, hf.ledger⟩, hf.replayed⟩
  | net n =>
      have hi : (n.run ov w.sdk).1.inp = w.sdk.inp := (Net.frame w.sdk n).2
      refine ⟨⟨?_, ?_⟩, ?_⟩
      · show NoDevice (n.run ov w.sdk).1.inp
        rw [hi]
        exact h.devices
      · show Ledger (n.run ov w.sdk).1.inp
        rw [hi]
        exact h.ledger
      · show replay _ (Input.uses (n.run ov w.sdk).2) = some (n.run ov w.sdk).1.inp.opened
        rw [hi, Input.uses_foreign (Net.within ov w.sdk n) (by cases n <;> simp [Net.kinds])]
        rfl

theorem noDevice_nearcadeInit {config : Option NearcadeConfig} {e : InitEnv} {waits : Capture.Waits}
    {s : State} (hl : e.viewerLock = true ∧ e.slotsLock = true) :
    NoDevice (nearcadeInit config e waits s).2.1.inp := by
  have hi := noDevice_inputInit e.kbm s.inp
  rcases nearcadeInit_cases config e waits s with
    ⟨hl', -⟩ | ⟨-, -, h⟩ | ⟨-, -, -, h⟩ | ⟨-, -, -, h⟩
  · simp [hl] at hl'
  · rw [h]
    exact hi
  · rw [h]
    exact hi.shutdown
  · rw [h]
    exact hi

/-- `input_init` runs, whatever was there before. -/
theorem primed_of_primes {i : Input} (hi : i.Primes) (he : (system ov).enabled w i) :
    Primed ((system ov).next w i) ∧
      replay w.sdk.inp.opened (Input.uses ((system ov).out w i)) =
        some ((system ov).next w i).sdk.inp.opened := by
  cases i with
  | net n => exact hi.elim
  | call c =>
      cases c with
      | init config e waits =>
          have hf : Input.Follows w.sdk.inp ((nearcadeInit config e waits w.sdk).2.1.inp,
              (nearcadeInit config e waits w.sdk).2.2) := Input.follows_nearcadeInit he hi
          exact ⟨⟨noDevice_nearcadeInit hi, hf.ledger⟩, hf.replayed⟩
      | _ => exact hi.elim

/-- A call that does not run `input_init` leaves a module alone that no one has started. -/
theorem Unprimed.call (h : Unprimed w) (hw : Inv w) {c : Call} (hi : ¬ (Input.call c).Primes) :
    Unprimed ⟨(c.run ov w.sdk).1, w.live⟩ ∧ Input.uses (c.run ov w.sdk).2 = [] := by
  by_cases hk : .device ∈ c.kinds
  · cases c with
    | init config e waits =>
        have hl : e.viewerLock = false ∨ e.slotsLock = false := e.locks.resolve_right hi
        rw [Call.run, nearcadeInit, if_pos hl]
        exact ⟨⟨h.inp, rfl, h.down, h.pcs⟩, rfl⟩
    | shutdown waits =>
        rw [Call.run, nearcadeShutdown, if_pos h.running]
        exact ⟨h, rfl⟩
    | disconnectViewer id =>
        rw [Call.run, hw.registry.disconnect]
        exact ⟨h, rfl⟩
    | _ => exact absurd hk (by simp [Call.kinds])
  · obtain ⟨hrun, hrtc, -⟩ := (Call.operates_of_kinds hk).frame ov w.sdk
    refine ⟨⟨(Call.inp_of_kinds ov w.sdk hk).trans h.inp, hrun.trans h.running, ?_, ?_⟩,
      Input.uses_foreign (Call.within ov w.sdk c) hk⟩
    · exact (congrArg Webrtc.State.gInitialized hrtc).trans h.down
    · exact (congrArg Webrtc.State.pcs hrtc).trans h.pcs

/-- No session is made before `webrtc_init`. -/
theorem Unprimed.net (h : Unprimed w) (n : Net) :
    Unprimed ⟨(n.run ov w.sdk).1, n.live w.live⟩ ∧ Input.uses (n.run ov w.sdk).2 = [] := by
  refine ⟨⟨?_, ?_, ?_, ?_⟩,
    Input.uses_foreign (Net.within ov w.sdk n) (by cases n <;> simp [Net.kinds])⟩
  · exact (Net.frame w.sdk n).2.trans h.inp
  · exact (congrArg NearcadeState.running (Net.frame w.sdk n).1).trans h.running
  · show (n.run ov w.sdk).1.rtc.gInitialized = false
    rcases Net.rtc_cases ov w.sdk n with e | ⟨i, -, e⟩ | ⟨i, e⟩ | ⟨p, st, -, e⟩ <;> rw [e] <;>
      exact h.down
  · show (n.run ov w.sdk).1.rtc.pcs = []
    rcases Net.rtc_cases ov w.sdk n with e | ⟨i, hi, -⟩ | ⟨i, e⟩ | ⟨p, st, -, e⟩
    · rw [e]
      exact h.pcs
    · exact absurd (h.down.symm.trans hi) Bool.false_ne_true
    · rw [e]
      exact h.pcs
    · rw [e, Webrtc.onStateChange, h.pcs]
      exact List.modify_nil ..

theorem Unprimed.next (ov : Int → Int) (h : Unprimed w) (hw : Inv w) {i : Input} (hi : ¬ i.Primes) :
    Unprimed ((system ov).next w i) ∧ Input.uses ((system ov).out w i) = [] := by
  cases i with
  | call c => exact h.call hw hi
  | net n => exact h.net n

/-! ### Where a step writes -/

theorem Input.slotOfByte_isSome_iff {slot : UInt8} :
    (∃ k, slotOfByte slot = some k) ↔ slot.toNat < maxSlots := by
  rw [slotOfByte]
  split
  · rename_i h
    exact iff_of_true ⟨_, rfl⟩ h
  · rename_i h
    exact iff_of_false (fun ⟨_, e⟩ => nomatch e) h

/-- Before `input_init` every slot of the table seems to have a device on descriptor 0. -/
theorem Input.onSlot_boot {slot : UInt8} {fd : Int} :
    OnSlot .boot slot fd ↔ slot.toNat < maxSlots ∧ fd = 0 := by
  rw [← slotOfByte_isSome_iff]
  exact ⟨fun ⟨k, hk, _, e⟩ => ⟨⟨k, hk⟩, e⟩, fun ⟨⟨k, hk⟩, e⟩ => ⟨k, hk, Int.le_refl 0, e⟩⟩

theorem NoDevice.not_onSlot {st : Input.State} (h : NoDevice st) {slot : UInt8} {fd : Int} :
    ¬ Input.OnSlot st slot fd := fun ⟨k, _, h0, _⟩ => absurd (h k) (Int.not_lt.mpr h0)

/-- After `input_init` only the keyboard and mouse device is written to, and it is open. -/
theorem Primed.writes (h : Primed w) (i : Input) :
    ∀ fd ∈ Nearcade.writes ((system ov).out w i), fd ∈ w.sdk.inp.opened := by
  intro fd hfd
  cases i with
  | call c =>
      have ht := (Call.mem_writes ov).mp hfd
      cases c with
      | submitGamepad pkt =>
          cases pkt with
          | none => exact ht.elim
          | some pkt => exact absurd ht h.devices.not_onSlot
      | flushSlot slot => exact absurd ht h.devices.not_onSlot
      | submitKbm vid ev key dx dy =>
          rcases vid with _ | vid
          · exact ht.elim
          · rcases ev with _ | ev
            · exact ht.elim
            · obtain ⟨-, h0, rfl⟩ := ht
              exact h.ledger.kbm h0
      | _ => exact ht.elim
  | net n =>
      have ht := (Net.mem_writes ov).mp hfd
      cases n with
      | message pc msg =>
          obtain ⟨pkt, -, hs⟩ := ht
          exact absurd hs h.devices.not_onSlot
      | _ => exact ht.elim

/-- A step that writes nothing. -/
theorem Unprimed.no_writes {i : Input} (hw : ∀ fd, fd ∉ Nearcade.writes ((system ov).out w i))
    (hn : ¬ i.NamesSlot) :
    (∀ fd ∈ Nearcade.writes ((system ov).out w i), fd ∈ w.sdk.inp.opened) ↔ ¬ i.NamesSlot :=
  iff_of_true (fun fd hfd => absurd hfd (hw fd)) hn

/-- A call that names a slot, by the byte it names it with. -/
theorem Unprimed.slot_writes (h : Unprimed w) {c : Call} {slot : UInt8}
    (ht : ∀ fd, c.Targets w.sdk fd ↔ Input.OnSlot w.sdk.inp slot fd)
    (hn : (Input.call c).NamesSlot ↔ slot.toNat < maxSlots) :
    (∀ fd ∈ Nearcade.writes (c.run ov w.sdk).2, fd ∈ w.sdk.inp.opened) ↔
      ¬ (Input.call c).NamesSlot := by
  have hno : (0 : Int) ∉ w.sdk.inp.opened := by rw [h.inp]; simp [Input.State.boot]
  have hm : ∀ fd, fd ∈ Nearcade.writes (c.run ov w.sdk).2 ↔ slot.toNat < maxSlots ∧ fd = 0 :=
    fun fd => by rw [Call.mem_writes, ht, h.inp, Input.onSlot_boot]
  rw [hn]
  constructor
  · intro hw hs
    exact hno (hw 0 ((hm 0).mpr ⟨hs, rfl⟩))
  · intro hs fd hfd
    exact absurd ((hm fd).mp hfd).1 hs

/-- Before it a step writes to descriptor 0 just when it names a slot. -/
theorem Unprimed.writes (h : Unprimed w) {i : Input} (he : (system ov).enabled w i) :
    (∀ fd ∈ Nearcade.writes ((system ov).out w i), fd ∈ w.sdk.inp.opened) ↔ ¬ i.NamesSlot := by
  cases i with
  | call c =>
      cases c with
      | submitGamepad pkt =>
          cases pkt with
          | none => exact Unprimed.no_writes (fun fd hfd => (Call.mem_writes ov).mp hfd) id
          | some pkt => exact h.slot_writes (fun _ => Iff.rfl) Iff.rfl
      | flushSlot slot => exact h.slot_writes (fun _ => Iff.rfl) Iff.rfl
      | submitKbm vid ev key dx dy =>
          refine Unprimed.no_writes (fun fd hfd => ?_) id
          have ht := (Call.mem_writes ov).mp hfd
          rcases vid with _ | vid
          · exact ht.elim
          · rcases ev with _ | ev
            · exact ht.elim
            · have h0 := ht.2.1
              rw [h.inp] at h0
              exact absurd h0 (by decide)
      | _ => exact Unprimed.no_writes (fun fd hfd => (Call.mem_writes ov).mp hfd) id
  | net n =>
      -- no PeerConnection is there to bring a message
      have hpc : ∀ pc, ¬ pc < w.sdk.rtc.pcs.length := fun pc => by
        rw [h.pcs]
        exact Nat.not_lt_zero pc
      cases n with
      | message pc msg => exact absurd he (hpc pc)
      | _ => exact Unprimed.no_writes (fun fd hfd => (Net.mem_writes ov).mp hfd) id

/-! ### Runs -/

/-- What holds after a run from the start: the descriptors that its effects leave open are the ones
`opened` says, and the backend is primed just when the run has primed it. -/
structure Stage (t : Trace) (w : World) : Prop where
  inv : Inv w
  replayed : replay ∅ (Input.uses (outputs t)) = some w.sdk.inp.opened
  primed : (∃ e ∈ t, e.input.Primes) → Primed w
  unprimed : (¬ ∃ e ∈ t, e.input.Primes) → Unprimed w

theorem stage_boot : Stage [] .boot :=
  ⟨inv_boot, rfl, fun ⟨_, h, _⟩ => absurd h List.not_mem_nil, fun _ => ⟨rfl, rfl, rfl, rfl⟩⟩

theorem Stage.next {t : Trace} (h : Stage t w) {i : Input} (he : (system ov).enabled w i) :
    Stage (t ++ [⟨w, i, (system ov).out w i⟩]) ((system ov).next w i) := by
  have hex : (∃ e ∈ t ++ [⟨w, i, (system ov).out w i⟩], e.input.Primes) ↔
      (∃ e ∈ t, e.input.Primes) ∨ i.Primes := by
    simp only [List.mem_append, List.mem_singleton, or_and_right, exists_or, exists_eq_left]
  have hout : Input.uses (outputs (t ++ [⟨w, i, (system ov).out w i⟩])) =
      Input.uses (outputs t) ++ Input.uses ((system ov).out w i) := by
    rw [← Input.uses_append]
    simp [outputs]
  have hinv : Inv ((system ov).next w i) := h.inv.next i
  -- the backend is primed already, is primed by this step, or stays as it is
  by_cases ht : ∃ e ∈ t, e.input.Primes
  · obtain ⟨hp, hr⟩ := (h.primed ht).next he
    refine ⟨hinv, ?_, fun _ => hp, fun hn => absurd (hex.mpr (.inl ht)) hn⟩
    rw [hout]
    exact replay_trans h.replayed hr
  · by_cases hi : i.Primes
    · obtain ⟨hp, hr⟩ := primed_of_primes hi he
      refine ⟨hinv, ?_, fun _ => hp, fun hn => absurd (hex.mpr (.inr hi)) hn⟩
      rw [hout]
      exact replay_trans h.replayed hr
    · have hu := h.unprimed ht
      obtain ⟨hn, hr⟩ := hu.next ov h.inv hi
      refine ⟨hinv, ?_, fun hm => absurd (hex.mp hm) (not_or.mpr ⟨ht, hi⟩), fun _ => hn⟩
      rw [hout, hr, List.append_nil, h.replayed, hu.inp, hn.inp]

/-- **Where events are written.**  In a run from the start every input event goes to a descriptor
opened as a uinput device and not yet closed, just when a call that names a slot comes after
`input_init` has run. -/
theorem written_to_own_iff {is : List Input} (hv : (system ov).Valid .boot is) :
    (∀ t e, t ++ [e] <+: (system ov).trace .boot is →
      ∃ held, replay ∅ (Input.uses (outputs t)) = some held ∧
        ∀ fd ∈ Nearcade.writes e.out, fd ∈ held) ↔
    ∀ t e, t ++ [e] <+: (system ov).trace .boot is →
      e.input.NamesSlot → ∃ e' ∈ t, e'.input.Primes := by
  refine forall_congr' fun t => forall_congr' fun e => imp_congr_right fun hp => ?_
  obtain ⟨h, he, ho⟩ := Machine.before_step stage_boot (fun _ _ _ h he => h.next he) hv hp
  rw [h.replayed, ho]
  simp only [Option.some.injEq, exists_eq_left']
  by_cases ht : ∃ e' ∈ t, e'.input.Primes
  · exact iff_of_true ((h.primed ht).writes e.input) fun _ => ht
  · rw [(h.unprimed ht).writes he]
    exact ⟨fun hn hs => absurd hs hn, fun hn hs => ht (hn hs)⟩

end

/-- An application that starts the SDK, moves the mouse, stops the SDK and flushes a slot. -/
def startedFirst : List Input :=
  [.call (.init none .good ⟨0, 0⟩),
   .call (.submitKbm (some []) (some (bytes "mousemove")) none 1 1), .call (.shutdown ⟨0, 0⟩),
   .call (.flushSlot 0)]

theorem written_to_own_iff_startedFirst :
    (system id).Valid .boot startedFirst ∧
      ∀ t e, t ++ [e] <+: (system id).trace .boot startedFirst →
        ∃ held, replay ∅ (Input.uses (outputs t)) = some held ∧
          ∀ fd ∈ writes e.out, fd ∈ held := by
  have hv : (system id).Valid .boot startedFirst := by decide +kernel
  refine ⟨hv, (written_to_own_iff hv).mpr fun t e hp hs => ?_⟩
  cases t with
  | nil =>
      obtain ⟨rfl, -⟩ := List.cons_prefix_cons.mp hp
      exact hs.elim
  | cons e₀ t =>
      obtain ⟨rfl, -⟩ := List.cons_prefix_cons.mp hp
      exact ⟨_, List.mem_cons_self .., rfl, rfl⟩

/-- A flush before the first `nearcade_init` is written to descriptor 0. -/
theorem flush_before_init :
    (system id).Valid .boot [.call (.flushSlot 0)] ∧
      ¬ ∀ t e, t ++ [e] <+: (system id).trace .boot [.call (.flushSlot 0)] →
        ∃ held, replay ∅ (Input.uses (outputs t)) = some held ∧
          ∀ fd ∈ writes e.out, fd ∈ held := by
  refine ⟨⟨trivial, trivial⟩, fun h => ?_⟩
  obtain ⟨held, hr, hw⟩ := h [] _ List.prefix_rfl
  -- nothing has been opened
  obtain rfl := Option.some.inj hr
  have h0 : (0 : Int) ∈ writes ((system id).out .boot (.call (.flushSlot 0))) := by decide
  exact absurd (hw 0 h0) (Finset.notMem_empty 0)

end Nearcade
