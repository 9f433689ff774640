import Nearcade.Support.Runs

/-!
# Support — Queue

A queue of bounded length between a producer that does not wait and a consumer that takes what is
there: `bounded cap` drops what is offered while `cap` elements wait.

* `length_final_le`: no more than `cap` ever wait.
* `taken_sublist`: what is taken, and then what still waits, is what was offered, in order, with
  nothing twice and nothing else.
* `lossless_iff`: it is all of what was offered just when nothing was offered to a full queue.
* `lossless_of_length_le`: nothing is where no more is offered than there is room for.
-/

namespace Queue
open Runs

universe u

/-- An element is offered, or one is taken. -/
inductive Op (α : Type u) where
  | offer (x : α)
  | take

section
variable {α : Type u}

/-- What an operation offers. -/
def Op.offered : Op α → Option α
  | .offer x => some x
  | .take => none

/-- **The queue.** -/
def bounded (α : Type u) (cap : Nat) : Machine (List α) (Op α) α where
  enabled _ _ := True
  next q
    | .offer x => if q.length < cap then q ++ [x] else q
    | .take => q.tail
  out q
    | .offer _ => []
    | .take => q.head?.toList

variable {cap : Nat}

theorem valid_bounded (q : List α) (ops : List (Op α)) : (bounded α cap).Valid q ops := by
  induction ops generalizing q with
  | nil => trivial
  | cons op ops ih => exact ⟨trivial, ih _⟩

theorem length_tail_le (q : List α) : q.tail.length ≤ q.length := by
  rw [List.length_tail]
  exact Nat.sub_le _ _

theorem length_final_le {q : List α} (h : q.length ≤ cap) (ops : List (Op α)) :
    ((bounded α cap).final q ops).length ≤ cap := by
  refine Machine.invariant (I := fun q => q.length ≤ cap) h (fun q op hq _ => ?_)
    (valid_bounded q ops)
  cases op with
  | offer x =>
      simp only [bounded]
      split
      · rename_i hlt
        rw [List.length_append]
        exact hlt
      · exact hq
  | take => exact Nat.le_trans (length_tail_le q) hq

/-- What is taken, and what still waits. -/
def accounted (cap : Nat) (q : List α) (ops : List (Op α)) : List α :=
  outputs ((bounded α cap).trace q ops) ++ (bounded α cap).final q ops

theorem accounted_offer {q : List α} (h : q.length < cap) (x : α) (ops : List (Op α)) :
    accounted cap q (.offer x :: ops) = accounted cap (q ++ [x]) ops := by
  have hn : (bounded α cap).next q (.offer x) = q ++ [x] := if_pos h
  rw [accounted, Machine.trace, Machine.final, hn]
  rfl

theorem accounted_full {q : List α} (h : ¬ q.length < cap) (x : α) (ops : List (Op α)) :
    accounted cap q (.offer x :: ops) = accounted cap q ops := by
  have hn : (bounded α cap).next q (.offer x) = q := if_neg h
  rw [accounted, Machine.trace, Machine.final, hn]
  rfl

theorem accounted_take (q : List α) (ops : List (Op α)) :
    accounted cap q (.take :: ops) = q.head?.toList ++ accounted cap q.tail ops :=
  List.append_assoc ..

theorem head_append_tail (q l : List α) : q.head?.toList ++ (q.tail ++ l) = q ++ l := by
  cases q <;> rfl

/-- **Nothing is taken twice, or out of order.** -/
theorem taken_sublist (q : List α) (ops : List (Op α)) :
    (accounted cap q ops).Sublist (q ++ ops.filterMap Op.offered) := by
  induction ops generalizing q with
  | nil => exact (List.append_nil q).symm ▸ List.Sublist.refl _
  | cons op ops ih =>
      cases op with
      | offer x =>
          by_cases h : q.length < cap
          · have hx := ih (q ++ [x])
            rw [List.append_assoc] at hx
            rw [accounted_offer h]
            exact hx
          · rw [accounted_full h]
            exact (ih q).trans ((List.sublist_cons_self x _).append_left q)
      | take =>
          rw [accounted_take, List.filterMap_cons_none rfl, ← head_append_tail q]
          exact (ih q.tail).append_left _

/-- An operation meets no full queue. -/
def HasRoom (cap : Nat) (q : List α) (op : Op α) : Prop := op.offered.isSome → q.length < cap

/-- **When nothing is lost.** -/
theorem lossless_iff (q : List α) (ops : List (Op α)) :
    accounted cap q ops = q ++ ops.filterMap Op.offered ↔
      ∀ e ∈ (bounded α cap).trace q ops, HasRoom cap e.pre e.input := by
  induction ops generalizing q with
  | nil =>
      refine iff_of_true ?_ fun _ he => absurd he List.not_mem_nil
      exact (List.append_nil q).symm
  | cons op ops ih =>
      rw [Machine.trace, List.forall_mem_cons]
      cases op with
      | offer x =>
          by_cases h : q.length < cap
          · have hn : (bounded α cap).next q (.offer x) = q ++ [x] := if_pos h
            have hx := ih (q ++ [x])
            rw [List.append_assoc] at hx
            rw [accounted_offer h, hn]
            exact hx.trans (and_iff_right fun _ => h).symm
          · -- what is offered is dropped, so the account is too short
            refine iff_of_false (fun heq => ?_) fun hroom => h (hroom.1 rfl)
            rw [accounted_full h] at heq
            have hlen : ((Op.offer x :: ops).filterMap Op.offered).length =
                (ops.filterMap Op.offered).length + 1 := rfl
            have hle : (accounted cap q ops).length ≤ _ := (taken_sublist q ops).length_le
            rw [heq, List.length_append, List.length_append, hlen] at hle
            omega
      | take =>
          rw [accounted_take, List.filterMap_cons_none rfl, ← head_append_tail q,
            List.append_cancel_left_eq]
          exact (ih q.tail).trans (and_iff_right fun hx => absurd hx Bool.false_ne_true).symm

/-- Where no more is offered than there is room for, nothing is lost. -/
theorem lossless_of_length_le {q : List α} {ops : List (Op α)}
    (h : q.length + (ops.filterMap Op.offered).length ≤ cap) :
    accounted cap q ops = q ++ ops.filterMap Op.offered := by
  induction ops generalizing q with
  | nil => exact (List.append_nil q).symm
  | cons op ops ih =>
      cases op with
      | offer x =>
          have hlen : ((Op.offer x :: ops).filterMap Op.offered).length =
              (ops.filterMap Op.offered).length + 1 := rfl
          have hx : (q ++ [x]).length + (ops.filterMap Op.offered).length ≤ cap := by
            rw [List.length_append, List.length_singleton]
            omega
          rw [accounted_offer (by omega), ih hx, List.append_assoc]
          rfl
      | take =>
          have ht : q.tail.length + (ops.filterMap Op.offered).length ≤ cap :=
            Nat.le_trans (Nat.add_le_add_right (length_tail_le q) _) h
          rw [accounted_take, ih ht, head_append_tail]
          rfl

end

end Queue
