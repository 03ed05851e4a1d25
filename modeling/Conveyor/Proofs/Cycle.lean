import Conveyor.Plan
import Mathlib.Data.Set.Finite.List
import Mathlib.Logic.Relation

namespace Conveyor
open Relation

/-- Where everything comes from something of the same finite lot, something comes from itself. -/
theorem exists_cycle {r : Nat → Nat → Prop} (lot : List Nat) (nonempty : lot ≠ [])
    (closed : ∀ v ∈ lot, ∃ u ∈ lot, r u v) : ∃ v, TransGen r v v := by
  by_contra acyclic
  have : Finite {v // v ∈ lot} := (List.finite_toSet lot).to_subtype
  have : IsTrans {v // v ∈ lot} (fun a b => TransGen r a.1 b.1) :=
    ⟨fun _ _ _ hab hbc => hab.trans hbc⟩
  have : Std.Irrefl (fun a b : {v // v ∈ lot} => TransGen r a.1 b.1) :=
    ⟨fun a ha => acyclic ⟨a.1, ha⟩⟩
  have wf := Finite.wellFounded_of_trans_of_irrefl
    (fun a b : {v // v ∈ lot} => TransGen r a.1 b.1)
  obtain ⟨v, hv⟩ := List.exists_mem_of_ne_nil lot nonempty
  obtain ⟨⟨m, hm⟩, _, least⟩ := wf.has_min Set.univ ⟨⟨v, hv⟩, trivial⟩
  obtain ⟨u, hu, hr⟩ := closed m hm
  exact least ⟨u, hu⟩ trivial (.single hr)

namespace Plan

/-- An edge leads from one position to the other. -/
def Leads (plan : Plan) (u v : Nat) : Prop := (u, v) ∈ plan.edges

/-- Every edge connects positions of the plan. -/
def Inside (plan : Plan) : Prop := ∀ u v, plan.Leads u v → u < plan.size ∧ v < plan.size

/-- A position that something leads back to. -/
def Cyclic (plan : Plan) : Prop := ∃ v, TransGen plan.Leads v v

theorem mem_successors {plan : Plan} {u v : Nat} : v ∈ plan.successors u ↔ plan.Leads u v := by
  simp [successors, Leads]

theorem inDegree_pos_iff {plan : Plan} {v : Nat} : 0 < plan.inDegree v ↔ ∃ u, plan.Leads u v := by
  simp only [inDegree, List.countP_pos_iff, decide_eq_true_eq, Prod.exists, exists_eq_right, Leads]

theorem mem_shed_of_cycle {plan : Plan} {v : Nat} (cycle : TransGen plan.Leads v v)
    (rounds : Nat) {left : List Nat} (hl : ∀ u, TransGen plan.Leads u u → u ∈ left) :
    v ∈ plan.shed rounds left := by
  induction rounds generalizing left with
  | zero => exact hl v cycle
  | succ rounds ih =>
    apply ih
    intro u hu
    obtain ⟨next, hn, back⟩ := TransGen.head'_iff.mp hu
    refine List.mem_filter.mpr ⟨hl u hu, List.any_eq_true.mpr ⟨next, mem_successors.mpr hn, ?_⟩⟩
    exact decide_eq_true (hl next (.tail' back hn))

theorem mem_of_mem_shed {plan : Plan} {v rounds : Nat} {left : List Nat}
    (h : v ∈ plan.shed rounds left) : v ∈ left := by
  induction rounds generalizing left with
  | zero => exact h
  | succ rounds ih => exact (List.mem_filter.mp (ih h)).1

/-- With a round for each position, what is left keeps leading to itself. -/
theorem shed_closed {plan : Plan} {rounds : Nat} {left : List Nat} (enough : left.length ≤ rounds)
    (hs : plan.shed rounds left ≠ []) :
    ∃ lot : List Nat, lot ≠ [] ∧ ∀ v ∈ lot, ∃ u ∈ lot, plan.Leads v u := by
  induction rounds generalizing left with
  | zero => exact absurd (List.length_eq_zero_iff.mp (Nat.le_zero.mp enough)) hs
  | succ rounds ih =>
    obtain ⟨some, hsome⟩ := List.exists_mem_of_ne_nil _ hs
    rw [shed] at hs
    by_cases hlt : (left.filter fun v => (plan.successors v).any (· ∈ left)).length < left.length
    · exact ih (by omega) hs
    -- A round that drops nothing has reached the lot that is looked for.
    · have all := List.length_filter_eq_length_iff.mp
        (Nat.le_antisymm (List.length_filter_le _ left) (Nat.le_of_not_lt hlt))
      refine ⟨left, List.ne_nil_of_mem (mem_of_mem_shed hsome), fun v hv => ?_⟩
      obtain ⟨u, hu, hm⟩ := List.any_eq_true.mp (all v hv)
      exact ⟨u, of_decide_eq_true hm, mem_successors.mp hu⟩

/-- The check for cycles finds exactly those there are. -/
theorem isCyclic_iff {plan : Plan} (inside : plan.Inside) : plan.isCyclic = true ↔ plan.Cyclic := by
  constructor
  · intro h
    have hs : plan.shed plan.size (List.range plan.size) ≠ [] := by simpa [isCyclic] using h
    obtain ⟨lot, hne, closed⟩ := shed_closed (by simp) hs
    obtain ⟨v, hv⟩ := exists_cycle (r := Function.swap plan.Leads) lot hne closed
    exact ⟨v, transGen_swap.mp hv⟩
  · intro h
    obtain ⟨v, hv⟩ := h
    have hm : v ∈ plan.shed plan.size (List.range plan.size) := by
      apply mem_shed_of_cycle hv
      intro u hu
      obtain ⟨next, hn, _⟩ := TransGen.head'_iff.mp hu
      exact List.mem_range.mpr (inside u next hn).1
    simp only [isCyclic, Bool.not_eq_true', List.isEmpty_eq_false_iff]
    exact List.ne_nil_of_mem hm

end Plan

end Conveyor
