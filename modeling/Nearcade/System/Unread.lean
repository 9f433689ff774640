import Nearcade.System.Machine

/-!
# System — Unread

The PIN.  `generate_pin` draws it, `nearcade_init` logs it, and `nearcade_get_pin` copies it out;
nothing compares anything with it.  `State.vary` is a state with another PIN and with other open
descriptors, which is the kernel's account and which the SDK does not see either; every call and
every callback does there what it does in the state itself (`Call.run_vary`, `Net.run_vary`).

* `pin_unchecked`: runs that differ in the random numbers drawn put out the same, and end in states
  that differ in the PIN, apart from the kernel's account.
-/

namespace Nearcade
open Text Runs

/-! ### The input backend -/

namespace Input

/-- The backend, with other open descriptors. -/
def State.holding (opened : Finset Int) (st : State) : State := { st with opened := opened }

/-- `input_init` does the same from every state. -/
theorem inputInit_any (u : Uinput) (st st' : State) : ∃ o,
    inputInit u st' =
      ((inputInit u st).1, (inputInit u st).2.1.holding o, (inputInit u st).2.2) := by
  simp only [inputInit, createKbmDevice]
  split
  · exact ⟨st'.opened, rfl⟩
  · split
    · exact ⟨insert u.fd st'.opened, rfl⟩
    · exact ⟨st'.opened, rfl⟩

theorem shutdownSlots_holding (l : List (Fin maxSlots)) (o : Finset Int) (st : State) : ∃ o',
    shutdownSlots l (st.holding o) =
      ((shutdownSlots l st).1.holding o', (shutdownSlots l st).2) := by
  induction l generalizing o st with
  | nil => exact ⟨o, rfl⟩
  | cons k l ih =>
      by_cases h0 : 0 ≤ st.gpFds k
      · obtain ⟨o', h⟩ := ih (o.erase (st.gpFds k)) (destroyGp st k).1
        have hd : destroyGp (st.holding o) k =
            ((destroyGp st k).1.holding (o.erase (st.gpFds k)), (destroyGp st k).2) := rfl
        refine ⟨o', ?_⟩
        have h0' : 0 ≤ (st.holding o).gpFds k := h0
        simp only [shutdownSlots, if_pos h0, if_pos h0', hd, h]
      · obtain ⟨o', h⟩ := ih o st
        refine ⟨o', ?_⟩
        simp only [shutdownSlots, if_neg h0, if_neg (show ¬ 0 ≤ (st.holding o).gpFds k from h0), h]

theorem inputShutdown_holding (o : Finset Int) (st : State) : ∃ o',
    inputShutdown (st.holding o) =
      ((inputShutdown st).1.holding o', (inputShutdown st).2) := by
  obtain ⟨o', h⟩ := shutdownSlots_holding (List.finRange maxSlots) o st
  simp only [inputShutdown, h]
  by_cases h0 : 0 ≤ (shutdownSlots (List.finRange maxSlots) st).1.kbmFd
  · rw [if_pos h0, if_pos (show 0 ≤ ((shutdownSlots _ st).1.holding o').kbmFd from h0)]
    exact ⟨_, rfl⟩
  · rw [if_neg h0, if_neg (show ¬ 0 ≤ ((shutdownSlots _ st).1.holding o').kbmFd from h0)]
    exact ⟨_, rfl⟩

theorem inputFreeSlot_holding (slot : UInt8) (o : Finset Int) (st : State) : ∃ o',
    inputFreeSlot slot (st.holding o) =
      ((inputFreeSlot slot st).1, (inputFreeSlot slot st).2.1.holding o',
        (inputFreeSlot slot st).2.2) := by
  simp only [inputFreeSlot]
  split
  · exact ⟨o, rfl⟩
  · rename_i k hk
    by_cases h0 : 0 ≤ st.gpFds k
    · rw [if_pos h0, if_pos (show 0 ≤ (st.holding o).gpFds k from h0)]
      exact ⟨_, rfl⟩
    · rw [if_neg h0, if_neg (show ¬ 0 ≤ (st.holding o).gpFds k from h0)]
      exact ⟨o, rfl⟩

end Input

/-! ### The SDK -/

/-- The state with another PIN, and with other open descriptors. -/
def State.vary (pin : Bytes) (opened : Finset Int) (s : State) : State :=
  { s with g := { s.g with pin := pin }, inp := s.inp.holding opened }

/-- The call where `rand` returns another number. -/
def Call.withRand (rand : Nat) : Call → Call
  | .init config env waits => .init config { env with rand := rand } waits
  | .regeneratePin _ => .regeneratePin rand
  | c => c

/-- Two inputs that are the same but for what `rand` returns. -/
def Input.Redrawn : Input → Input → Prop
  | .call c, i => ∃ rand, i = .call (c.withRand rand)
  | .net n, i => i = .net n

theorem nearcadeInit_vary (config : Option NearcadeConfig) (e : InitEnv) (w : Capture.Waits)
    (s : State) (pin : Bytes) (o : Finset Int) (rand : Nat) : ∃ pin' o',
    nearcadeInit config { e with rand := rand } w (s.vary pin o) =
      ((nearcadeInit config e w s).1, (nearcadeInit config e w s).2.1.vary pin' o',
        (nearcadeInit config e w s).2.2) := by
  obtain ⟨o₁, hi⟩ := Input.inputInit_any e.kbm s.inp (s.vary pin o).inp
  obtain ⟨o₂, h₂⟩ := Input.inputShutdown_holding o₁ (Input.inputInit e.kbm s.inp).2.1
  have hsig : (s.vary pin o).sig = s.sig := rfl
  simp only [nearcadeInit]
  split
  · exact ⟨[], o, rfl⟩
  · simp only [initModules, hi, hsig]
    split
    · exact ⟨generatePin rand, o₁, rfl⟩
    · -- `signaling_init` meets the same state
      split
      · rw [h₂]
        exact ⟨generatePin rand, o₂, rfl⟩
      · exact ⟨generatePin rand, o₁, rfl⟩

section
variable {ov : Int → Int}

/-- **A call sees neither the PIN nor the open descriptors.** -/
theorem Call.run_vary (ov : Int → Int) (s : State) (c : Call) (pin : Bytes) (o : Finset Int)
    (rand : Nat) : ∃ pin' o',
    (c.withRand rand).run ov (s.vary pin o) = ((c.run ov s).1.vary pin' o', (c.run ov s).2) := by
  cases c with
  | init config e w =>
      obtain ⟨pin', o', h⟩ := nearcadeInit_vary config e w s pin o rand
      refine ⟨pin', o', ?_⟩
      simp only [Call.withRand, Call.run, h]
  | shutdown w =>
      simp only [Call.withRand, Call.run, nearcadeShutdown]
      obtain ⟨o', h⟩ := Input.inputShutdown_holding o s.inp
      have h : Input.inputShutdown (s.vary pin o).inp = _ := h
      by_cases hr : s.g.running = false
      · rw [if_pos hr, if_pos (show (s.vary pin o).g.running = false from hr)]
        exact ⟨pin, o, rfl⟩
      · rw [if_neg hr, if_neg (show ¬ (s.vary pin o).g.running = false from hr), h]
        exact ⟨pin, o', rfl⟩
  | startCapture pid =>
      simp only [Call.withRand, Call.run, nearcadeStartCapture]
      refine ⟨pin, o, ?_⟩
      by_cases hc : s.g.capturing = true
      · rw [if_pos hc, if_pos (show (s.vary pin o).g.capturing = true from hc)]
      · rw [if_neg hc, if_neg (show ¬ (s.vary pin o).g.capturing = true from hc)]
        by_cases hs : (Capture.captureStart pid s.cap).1 = .ok
        · rw [if_pos hs,
            if_pos (show (Capture.captureStart pid (s.vary pin o).cap).1 = .ok from hs)]
          rfl
        · rw [if_neg hs,
            if_neg (show ¬ (Capture.captureStart pid (s.vary pin o).cap).1 = .ok from hs)]
          rfl
  | stopCapture w =>
      simp only [Call.withRand, Call.run, nearcadeStopCapture]
      refine ⟨pin, o, ?_⟩
      by_cases hc : s.g.capturing = false
      · rw [if_pos hc, if_pos (show (s.vary pin o).g.capturing = false from hc)]
      · rw [if_neg hc, if_neg (show ¬ (s.vary pin o).g.capturing = false from hc)]
        rfl
  | disconnectViewer id =>
      cases id with
      | none => exact ⟨pin, o, rfl⟩
      | some id =>
          have hf : findViewer (s.vary pin o).g id = findViewer s.g id := rfl
          cases hv : findViewer s.g id with
          | none =>
              simp only [Call.withRand, Call.run, nearcadeDisconnectViewer, hf, hv]
              exact ⟨pin, o, rfl⟩
          | some i =>
              obtain ⟨o', h⟩ :=
                Input.inputFreeSlot_holding (UInt8.ofInt (s.g.viewers i).slot) o s.inp
              have h : Input.inputFreeSlot (UInt8.ofInt ((s.vary pin o).g.viewers i).slot)
                  (s.vary pin o).inp = _ := h
              simp only [Call.withRand, Call.run, nearcadeDisconnectViewer, hf, hv, h]
              exact ⟨pin, o', rfl⟩
  | setViewerInputMode id mode | setControllerType id ctrl =>
      cases id with
      | none => exact ⟨pin, o, rfl⟩
      | some id =>
          have hf : findViewer (s.vary pin o).g id = findViewer s.g id := rfl
          simp only [Call.withRand, Call.run, nearcadeSetViewerInputMode,
            nearcadeSetControllerType, setViewer, hf]
          cases findViewer s.g id <;> exact ⟨pin, o, rfl⟩
  | regeneratePin r => exact ⟨generatePin rand, o, rfl⟩
  | startStreaming | stopStreaming | setEventCallback _ _ | pollEvents _
  | sendH264 _ _ | sendFrame _ _ _ _ | submitGamepad _ | submitKbm _ _ _ _ _ | flushSlot _
  | getSignalingUrl _ | getLanIp _ | getPin _ | sendOffer _ _ | sendAnswer _ _ _
  | sendIceCandidate _ _ _ => exact ⟨pin, o, rfl⟩

/-- **So does a callback.** -/
theorem Net.run_vary (ov : Int → Int) (s : State) (n : Net) (pin : Bytes) (o : Finset Int) :
    n.run ov (s.vary pin o) = ((n.run ov s).1.vary pin o, (n.run ov s).2) := by
  have hcb : ∀ (sig : Signaling.State) (idx : Option (Fin maxViewers)) (joined : Bool),
      callViewerCb { s.vary pin o with sig := sig } idx joined =
        (callViewerCb { s with sig := sig } idx joined).vary pin o := by
    intro sig idx joined
    cases idx with
    | none => rfl
    | some i =>
        simp only [callViewerCb]
        split
        · cases joined <;> rfl
        · rfl
  cases n with
  | established wsi uri stack | closed wsi => exact congrArg (·, []) (hcb _ _ _)
  | stateChange _ _ | receive _ _ _ | localDescription _ _ _ _ | localCandidate _ _ _
  | message _ _ => rfl

/-! ### Runs -/

/-- Two worlds whose SDKs differ in the PIN and in the open descriptors. -/
def World.Like (w w' : World) : Prop := ∃ pin o, w'.sdk = w.sdk.vary pin o

theorem World.Like.next {w w' : World} (h : w.Like w') {i i' : Input} (hi : i.Redrawn i') :
    ((system ov).next w i).Like ((system ov).next w' i') ∧
      (system ov).out w' i' = (system ov).out w i := by
  obtain ⟨sdk, live⟩ := w
  obtain ⟨sdk', live'⟩ := w'
  obtain ⟨pin, o, hs⟩ := h
  obtain rfl : sdk' = sdk.vary pin o := hs
  cases i with
  | call c =>
      obtain ⟨rand, rfl⟩ := hi
      obtain ⟨pin', o', h⟩ := Call.run_vary ov sdk c pin o rand
      have ho : ((c.withRand rand).run ov (sdk.vary pin o)).2 = (c.run ov sdk).2 := by rw [h]
      exact ⟨⟨pin', o', congrArg Prod.fst h⟩, ho⟩
  | net n =>
      obtain rfl : i' = .net n := hi
      have h := Net.run_vary ov sdk n pin o
      have ho : (n.run ov (sdk.vary pin o)).2 = (n.run ov sdk).2 := by rw [h]
      exact ⟨⟨pin, o, congrArg Prod.fst h⟩, ho⟩

end

/-- **The PIN protects nothing.**  Two runs of the SDK with the same calls and callbacks, in which
`rand` may return what it likes, put out the same and end in states that differ in the PIN at most,
apart from the kernel's account. -/
theorem pin_unchecked (ov : Int → Int) {is is' : List Input}
    (h : List.Forall₂ Input.Redrawn is is') :
    outputs ((system ov).trace .boot is') = outputs ((system ov).trace .boot is) ∧
      ∃ pin o, ((system ov).final .boot is').sdk =
        ((system ov).final .boot is).sdk.vary pin o := by
  have hboot : World.boot.Like .boot := ⟨[], ∅, rfl⟩
  obtain ⟨hs, ho⟩ := Machine.run_relate (M := system ov) (N := system ov) (F := id)
    (fun _ _ => rfl) (fun _ _ _ _ hw hi => hw.next hi) h hboot
  exact ⟨ho, hs⟩

/-- The SDK starts and draws a PIN, and a viewer joins. -/
def joinRun (rand : Nat) : List Input :=
  [.call (.init none { InitEnv.good with rand := rand } ⟨0, 0⟩), connect 7,
   .net (.stateChange 0 .connected)]

theorem pin_unchecked_join :
    outputs ((system id).trace .boot (joinRun 41)) = outputs ((system id).trace .boot (joinRun 0)) ∧
      ∃ pin o, ((system id).final .boot (joinRun 41)).sdk =
        ((system id).final .boot (joinRun 0)).sdk.vary pin o :=
  pin_unchecked id (.cons ⟨41, rfl⟩ (.cons rfl (.cons rfl .nil)))

end Nearcade
