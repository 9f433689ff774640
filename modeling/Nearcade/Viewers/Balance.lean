import Nearcade.System.Events

/-!
# Viewers — Balance

An application counts its players by VIEWER_JOINED and VIEWER_LEFT.  The count is right when the
events about each id alternate, a join first (`Balanced`).

* `balanced_iff`: they do just when the PeerConnections report in turn: `Connected` for an index
  that was not reported `Connected` last, and `Disconnected`, `Failed` or `Closed` for one that
  was.  The SDK itself remembers no report, so one that is out of turn makes an event all the same.
-/

namespace Nearcade
open Text Runs

/-! ### Alternation -/

/-- The list alternates, and begins with `b`. -/
def Alternates : Bool → List Bool → Prop
  | _, [] => True
  | b, x :: l => x = b ∧ Alternates (!b) l

instance : ∀ b l, Decidable (Alternates b l)
  | _, [] => isTrue trivial
  | b, x :: l =>
      have := instDecidableAlternates (!b) l
      inferInstanceAs (Decidable (x = b ∧ Alternates (!b) l))

/-- Joins and leaves alternate, so that there is at most one join more. -/
def Balanced (l : List Bool) : Prop :=
  Alternates true l ∧ (l.count true = l.count false ∨ l.count true = l.count false + 1)

instance (l : List Bool) : Decidable (Balanced l) := inferInstanceAs (Decidable (_ ∧ _))

/-- An alternating list has as many of each, or one more of the first. -/
theorem Alternates.count {b : Bool} {l : List Bool} (h : Alternates b l) :
    l.count b = l.count (!b) ∨ l.count b = l.count (!b) + 1 := by
  induction l generalizing b with
  | nil => exact .inl rfl
  | cons x l ih =>
      obtain ⟨rfl, h⟩ := h
      rw [List.count_cons_self, List.count_cons_of_ne (by simp)]
      -- the rest alternates from the other one
      rcases ih h with e | e <;> rw [Bool.not_not] at e
      · exact .inr (by rw [e])
      · exact .inl e.symm

theorem balanced_iff_alternates {l : List Bool} : Balanced l ↔ Alternates true l :=
  ⟨And.left, fun h => ⟨h, h.count⟩⟩

/-- One more element keeps the alternation if it differs from the last. -/
theorem alternates_concat {b x : Bool} {l : List Bool} :
    Alternates b (l ++ [x]) ↔ Alternates b l ∧ x = (l.getLast?.map (!·)).getD b := by
  induction l generalizing b with
  | nil => simp [Alternates]
  | cons y l ih =>
      rw [List.cons_append, Alternates, ih, Alternates, and_assoc]
      refine and_congr_right fun e => and_congr_right fun _ => ?_
      subst e
      cases l with
      | nil => rfl
      | cons z l => rw [List.getLast?_cons_cons, List.getLast?_cons]; rfl

/-! ### Reports in turn -/

/-- After the steps of `t`, a step reports for an index what it may: that the viewer has gone if it
was reported there last, that it is there if not. -/
def InTurn (t : Trace) (e : Entry World Input Effect) : Prop :=
  ∀ i joined, reportOf e = some (i, joined) → (joined = false ↔ (reports t i).getLast? = some true)

theorem reports_concat (t : Trace) (e : Entry World Input Effect) (i : Int) :
    reports (t ++ [e]) i = reports t i ++ (reportFor i e).toList := by
  cases h : reportFor i e <;> simp [reports, h]

/-- What may come after the last report of a list that alternates. -/
theorem inTurn_iff {last : Option Bool} {joined : Bool} :
    joined = (last.map (!·)).getD true ↔ (joined = false ↔ last = some true) := by
  rcases last with _ | _ | _ <;> cases joined <;> decide

/-- One step keeps every index alternating just when it is in turn. -/
theorem alternates_concat_iff (t : Trace) (e : Entry World Input Effect) :
    (∀ i, Alternates true (reports (t ++ [e]) i)) ↔
      (∀ i, Alternates true (reports t i)) ∧ InTurn t e := by
  simp only [reports_concat, reportFor, InTurn]
  cases reportOf e with
  | none => simp
  | some r =>
      obtain ⟨j, joined⟩ := r
      -- only the list of `j` grows
      constructor
      · intro h
        have hj := h j
        rw [Option.bind_some, if_pos rfl] at hj
        refine ⟨fun i => ?_, ?_⟩
        · by_cases hi : j = i
          · exact hi ▸ (alternates_concat.mp hj).1
          · have hi' := h i
            rwa [Option.bind_some, if_neg hi, Option.toList_none, List.append_nil] at hi'
        · rintro i joined' ⟨rfl, rfl⟩
          exact inTurn_iff.mp (alternates_concat.mp hj).2
      · rintro ⟨h, ht⟩ i
        rw [Option.bind_some]
        by_cases hi : j = i
        · subst hi
          rw [if_pos rfl]
          exact alternates_concat.mpr ⟨h j, inTurn_iff.mpr (ht j joined rfl)⟩
        · rw [if_neg hi, Option.toList_none, List.append_nil]
          exact h i

/-- The reports for every index alternate just when every step of the trace is in turn. -/
theorem alternates_iff_inTurn (tr : Trace) :
    (∀ i, Alternates true (reports tr i)) ↔ ∀ t e, t ++ [e] <+: tr → InTurn t e := by
  induction tr using List.reverseRecOn with
  | nil => simp [reports, Alternates]
  | append_singleton tr e ih =>
      rw [alternates_concat_iff, ih]
      simp only [List.prefix_concat_iff]
      constructor
      -- a prefix that ends in a step is the whole trace, or one of the shorter one
      · rintro ⟨h, he⟩ t e' (heq | hp)
        · obtain ⟨rfl, hee⟩ := List.append_inj' heq rfl
          rwa [List.singleton_inj.mp hee]
        · exact h t e' hp
      · exact fun h => ⟨fun t e' hp => h t e' (.inr hp), h tr e (.inl rfl)⟩

/-! ### The events -/

section
variable {ov : Int → Int} {w : World} {is : List Input}

/-- **The events are balanced just when the reports come in turn.** -/
theorem balanced_iff (h : Started ov w) (hv : (system ov).Valid w is) :
    (∀ id, Balanced (joinLeft ((system ov).trace w is) id)) ↔
      ∀ t e, t ++ [e] <+: (system ov).trace w is → InTurn t e := by
  rw [← alternates_iff_inTurn]
  simp only [balanced_iff_alternates]
  constructor
  · intro hb i
    by_cases hi : ∃ j : Fin maxViewers, i = (j.val : Int)
    · obtain ⟨j, rfl⟩ := hi
      exact joinLeft_eq h hv j ▸ hb _
    · rw [reports_eq_nil h hv fun j e => hi ⟨j, e⟩]
      trivial
  · intro hr id
    obtain ⟨i, -, e⟩ | e := joinLeft_cases h hv id <;> rw [e]
    · exact hr _
    · trivial

end

/-- A viewer that connects, disconnects and connects again is counted right. -/
theorem balanced_iff_reconnect :
    Balanced (joinLeft ((system id).trace .first
      (reporting [.connecting, .connected, .disconnected, .connected])) (viewerId 0)) := by
  refine (balanced_iff (started_first id) (by decide +kernel)).mpr
    ((alternates_iff_inTurn _).mp fun i => ?_) _
  have hr : ((system id).trace .first
      (reporting [.connecting, .connected, .disconnected, .connected])).filterMap reportOf =
      [(0, true), (0, false), (0, true)] := by decide +kernel
  rw [reports_eq_filterMap, hr]
  by_cases h : (0 : Int) = i <;> simp [h, Alternates]

/-- A viewer that disconnects and is then closed leaves twice. -/
theorem disconnected_closed_not_balanced :
    (system id).Valid .first (reporting [.connecting, .connected, .disconnected, .closed]) ∧
      ¬ Balanced (joinLeft ((system id).trace .first
        (reporting [.connecting, .connected, .disconnected, .closed])) (viewerId 0)) := by
  decide +kernel

end Nearcade
