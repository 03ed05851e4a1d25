import Conveyor.Proofs.Cycle
import Mathlib.Data.List.Nodup

namespace Conveyor

namespace Plan

variable {plan : Plan} {processed : List Nat} {u v : Nat}

/-- How many edges lead to a position from sources that are not processed. -/
def pending (plan : Plan) (processed : List Nat) (v : Nat) : Nat :=
  plan.edges.countP fun e => e.2 = v ∧ e.1 ∉ processed

theorem pending_nil (plan : Plan) (v : Nat) : plan.pending [] v = plan.inDegree v := by
  simp [pending, inDegree]

theorem pending_eq_zero_iff :
    plan.pending processed v = 0 ↔ ∀ u, plan.Leads u v → u ∈ processed := by
  rw [pending, List.countP_eq_zero]
  constructor
  · intro h u hu
    by_contra hn
    exact h (u, v) hu (by simp [hn])
  · rintro h ⟨a, b⟩ he hp
    obtain ⟨rfl, hn⟩ : b = v ∧ a ∉ processed := by simpa using hp
    exact hn (h a he)

/-- Processing a position serves the edges that lead from it, and no others. -/
theorem pending_append (hu : u ∉ processed) (v : Nat) :
    plan.pending processed v = plan.pending (processed ++ [u]) v + (plan.successors u).count v := by
  unfold pending successors
  induction plan.edges with
  | nil => rfl
  | cons e edges ih =>
    obtain ⟨a, b⟩ := e
    simp only [List.countP_cons, ih, List.filter_cons, decide_eq_true_eq, List.mem_append,
      List.mem_singleton, not_or]
    by_cases ha : a = u
    · subst a
      by_cases hb : b = v <;> simp [hu, hb]
      omega
    · by_cases hp : b = v ∧ a ∉ processed <;> simp [ha, hp]
      omega

end Plan

namespace Agenda

theorem getD_serve (waiting : List Nat) (position v : Nat) :
    (serve waiting position).1.getD v 0 =
      if v = position then waiting.getD v 0 - 1 else waiting.getD v 0 := by
  simp only [serve, List.getD_eq_getElem?_getD, List.getElem?_set]
  by_cases hv : v = position
  · subst v
    by_cases hl : position < waiting.length <;> simp [hl]
  · simp [hv, Ne.symm hv]

theorem length_serve (waiting : List Nat) (position : Nat) :
    (serve waiting position).1.length = waiting.length := List.length_set

theorem mem_serve {waiting : List Nat} {position v : Nat} :
    v ∈ (serve waiting position).2 ↔ v = position ∧ waiting.getD position 0 ≤ 1 := by
  unfold serve
  dsimp only
  split
  next h => rw [List.mem_singleton, and_iff_left (by omega)]
  next h => simp only [List.not_mem_nil, false_iff, not_and]; omega

theorem nodup_serve (waiting : List Nat) (position : Nat) :
    (serve waiting position).2.Nodup := by
  unfold serve
  dsimp only
  split <;> simp

theorem serveAll_cons (waiting : List Nat) (position : Nat) (rest : List Nat) :
    serveAll waiting (position :: rest) =
      ((serveAll (serve waiting position).1 rest).1,
        (serve waiting position).2 ++ (serveAll (serve waiting position).1 rest).2) := rfl

theorem count_le_serve {waiting rest : List Nat} {position : Nat}
    (enough : ∀ v, (position :: rest).count v ≤ waiting.getD v 0) (v : Nat) :
    rest.count v ≤ (serve waiting position).1.getD v 0 := by
  have h := enough v
  rw [getD_serve]
  by_cases hv : v = position
  · subst v
    rw [List.count_cons_self] at h
    rw [if_pos rfl]
    omega
  · rw [List.count_cons_of_ne (Ne.symm hv)] at h
    rwa [if_neg hv]

/-- Serving edges takes a counter down by as many as lead to it. What comes to nothing has
become ready, and is named once, however many edges lead to it. -/
theorem serveAll_spec {waiting targets : List Nat}
    (enough : ∀ v, targets.count v ≤ waiting.getD v 0) :
    (serveAll waiting targets).1.length = waiting.length ∧
    (∀ v, (serveAll waiting targets).1.getD v 0 = waiting.getD v 0 - targets.count v) ∧
    (serveAll waiting targets).2.Nodup ∧
    ∀ v, v ∈ (serveAll waiting targets).2 ↔ v ∈ targets ∧ waiting.getD v 0 = targets.count v := by
  induction targets generalizing waiting with
  | nil => simp [serveAll]
  | cons position rest ih =>
    have hw := getD_serve waiting position
    have hc (v : Nat) :
        (position :: rest).count v = rest.count v + if v = position then 1 else 0 := by
      by_cases hv : v = position
      · simp [hv]
      · simp [hv, Ne.symm hv]
    have here := enough position
    rw [hc, if_pos rfl] at here
    obtain ⟨hlen, hget, hnodup, hmem⟩ := ih (count_le_serve enough)
    rw [serveAll_cons]
    refine ⟨hlen.trans (length_serve _ _), fun v => ?_, ?_, fun v => ?_⟩
    · rw [hget, hw, hc]
      split <;> omega
    · refine List.nodup_append.mpr ⟨nodup_serve _ _, hnodup, ?_⟩
      rintro v hv _ hl rfl
      obtain ⟨rfl, hle⟩ := mem_serve.mp hv
      have := List.count_pos_iff.mpr ((hmem v).mp hl).1
      omega
    · rw [List.mem_append, mem_serve, hmem, hw, hc, List.mem_cons]
      by_cases hv : v = position
      · subst v
        simp only [true_and, true_or, if_true]
        constructor
        · intro h
          rcases h with hle | ⟨_, he⟩ <;> omega
        · intro he
          by_cases hm : position ∈ rest
          · exact .inr ⟨hm, by omega⟩
          · have := List.count_eq_zero.mpr hm
            exact .inl (by omega)
      · simp [hv]

/-- What holds wherever a run of the agenda stands: the counters are right, and the queue holds,
once each, the positions that wait for nothing and have not been processed. -/
structure Consistent (plan : Plan) (agenda : Agenda) : Prop where
  length : agenda.waiting.length = plan.size
  waiting : ∀ v, agenda.waiting.getD v 0 = plan.pending agenda.processed v
  ready : ∀ v, v ∈ agenda.ready ↔
    v < plan.size ∧ v ∉ agenda.processed ∧ plan.pending agenda.processed v = 0
  unique : (agenda.processed ++ agenda.ready).Nodup
  settled : ∀ v ∈ agenda.processed, v < plan.size ∧ plan.pending agenda.processed v = 0

theorem next?_eq_some_iff {plan : Plan} {agenda after : Agenda} {u : Nat} :
    agenda.next? plan = some (u, after) ↔ ∃ ready, agenda.ready = u :: ready ∧
      after =
        { waiting := (serveAll agenda.waiting (plan.successors u)).1
          ready := ready ++ ascending (serveAll agenda.waiting (plan.successors u)).2
          processed := agenda.processed ++ [u] } := by
  unfold next?
  split
  next h => simp [h]
  next position ready h =>
    simp only [Option.some.injEq, Prod.mk.injEq, h, List.cons.injEq]
    constructor
    · intro h
      obtain ⟨rfl, rfl⟩ := h
      exact ⟨ready, ⟨rfl, rfl⟩, rfl⟩
    · intro h
      obtain ⟨_, ⟨rfl, rfl⟩, rfl⟩ := h
      exact ⟨rfl, rfl⟩

theorem pending_le_of_append (plan : Plan) {processed : List Nat} {u : Nat} (hu : u ∉ processed)
    (v : Nat) : plan.pending (processed ++ [u]) v ≤ plan.pending processed v := by
  rw [plan.pending_append hu v]
  omega

namespace Consistent

variable {plan : Plan} {agenda after : Agenda} {u v : Nat}

theorem start (inside : plan.Inside) : Consistent plan (Agenda.start plan) where
  length := by simp [Agenda.start, Plan.inDegrees]
  waiting v := by
    rw [Agenda.start, Plan.pending_nil]
    by_cases hv : v < plan.size
    · simp [Plan.inDegrees, hv]
    · have hz : ¬0 < plan.inDegree v := by
        intro hp
        obtain ⟨u, hu⟩ := Plan.inDegree_pos_iff.mp hp
        exact hv (inside u v hu).2
      simp [Plan.inDegrees, hv]
      omega
  ready v := by
    simp [Agenda.start, Plan.startNodes, Plan.isStart, Plan.pending_nil]
  unique := by
    simpa [Agenda.start, Plan.startNodes] using List.nodup_range.filter _
  settled := by simp [Agenda.start]

/-- What is taken from the queue has not been processed, and all it depends on has. -/
theorem of_next (h : Consistent plan agenda) (hn : agenda.next? plan = some (u, after)) :
    u < plan.size ∧ u ∉ agenda.processed ∧ ∀ s, plan.Leads s u → s ∈ agenda.processed := by
  obtain ⟨ready, hr, -⟩ := next?_eq_some_iff.mp hn
  obtain ⟨hs, hp, hz⟩ := (h.ready u).mp (by simp [hr])
  exact ⟨hs, hp, Plan.pending_eq_zero_iff.mp hz⟩

/-- The counter of a position covers the edges that lead to it from one place. -/
theorem enough (h : Consistent plan agenda) (hu : u ∉ agenda.processed) (v : Nat) :
    (plan.successors u).count v ≤ agenda.waiting.getD v 0 := by
  rw [h.waiting, plan.pending_append hu v]
  omega

/-- What becomes ready with a position is what led from it and waits for nothing more. -/
theorem mem_newly (h : Consistent plan agenda) (hu : u ∉ agenda.processed) (v : Nat) :
    v ∈ (serveAll agenda.waiting (plan.successors u)).2 ↔
      plan.Leads u v ∧ plan.pending (agenda.processed ++ [u]) v = 0 := by
  obtain ⟨_, _, _, hmem⟩ := serveAll_spec (h.enough hu)
  rw [hmem, Plan.mem_successors, h.waiting, plan.pending_append hu v]
  exact and_congr_right fun _ => by omega

/-- A position that becomes ready was neither processed nor in the queue. -/
theorem newly_fresh (h : Consistent plan agenda) (hu : u ∉ agenda.processed)
    (hl : plan.Leads u v) : v ∉ agenda.processed ∧ v ∉ agenda.ready := by
  have hp : plan.pending agenda.processed v ≠ 0 := fun hz =>
    hu (Plan.pending_eq_zero_iff.mp hz u hl)
  exact ⟨fun hm => hp (h.settled v hm).2, fun hm => hp ((h.ready v).mp hm).2.2⟩

theorem ready_of_next (inside : plan.Inside) (h : Consistent plan agenda)
    (hn : agenda.next? plan = some (u, after)) (v : Nat) :
    v ∈ after.ready ↔
      v < plan.size ∧ v ∉ after.processed ∧ plan.pending after.processed v = 0 := by
  obtain ⟨_, hu, hsources⟩ := h.of_next hn
  obtain ⟨ready, hr, rfl⟩ := next?_eq_some_iff.mp hn
  have hself : ¬plan.Leads u u := fun hl => hu (hsources u hl)
  have hfirst : u ∉ ready := by
    have hunique := h.unique
    rw [hr, List.nodup_append, List.nodup_cons] at hunique
    exact hunique.2.1.1
  simp only [List.mem_append, ascending, List.mem_mergeSort, h.mem_newly hu, List.mem_singleton,
    not_or]
  constructor
  · intro hv
    rcases hv with hm | ⟨hl, hz⟩
    · obtain ⟨hvs, hvp, hvz⟩ := (h.ready v).mp (by simp [hr, hm])
      have := pending_le_of_append plan hu v
      exact ⟨hvs, ⟨hvp, fun he => hfirst (he ▸ hm)⟩, by omega⟩
    · exact ⟨(inside u v hl).2, ⟨(h.newly_fresh hu hl).1, fun he => hself (he ▸ hl)⟩, hz⟩
  · intro hv
    obtain ⟨hvs, ⟨hvp, hvu⟩, hz⟩ := hv
    by_cases hl : plan.Leads u v
    · exact .inr ⟨hl, hz⟩
    · have hc : (plan.successors u).count v = 0 :=
        List.count_eq_zero.mpr (fun hm => hl (Plan.mem_successors.mp hm))
      have hm := (h.ready v).mpr ⟨hvs, hvp, by rw [plan.pending_append hu v, hz, hc]⟩
      rw [hr] at hm
      exact .inl ((List.mem_cons.mp hm).resolve_left hvu)

/-- No position is queued twice, nor again once it has been processed. -/
theorem unique_of_next (h : Consistent plan agenda) (hn : agenda.next? plan = some (u, after)) :
    (after.processed ++ after.ready).Nodup := by
  obtain ⟨_, hu, _⟩ := h.of_next hn
  obtain ⟨ready, hr, rfl⟩ := next?_eq_some_iff.mp hn
  obtain ⟨_, _, hnodup, _⟩ := serveAll_spec (h.enough hu)
  have hold : (agenda.processed ++ [u] ++ ready).Nodup := by
    have := h.unique
    rw [hr] at this
    simpa using this
  rw [← List.append_assoc, List.nodup_append]
  refine ⟨hold, (List.mergeSort_perm _ _).nodup_iff.mpr hnodup, ?_⟩
  intro v hv v' hm he
  subst he
  have hl := ((h.mem_newly hu v).mp (List.mem_mergeSort.mp hm)).1
  obtain ⟨hvp, hvr⟩ := h.newly_fresh hu hl
  rw [hr] at hvr
  simp only [List.mem_append, List.mem_cons, not_or] at hv hvr
  tauto

theorem next (inside : plan.Inside) (h : Consistent plan agenda)
    (hn : agenda.next? plan = some (u, after)) : Consistent plan after := by
  obtain ⟨hs, hu, hsources⟩ := h.of_next hn
  have hready := h.ready_of_next inside hn
  have hunique := h.unique_of_next hn
  obtain ⟨ready, hr, rfl⟩ := next?_eq_some_iff.mp hn
  obtain ⟨hlen, hget, _, _⟩ := serveAll_spec (h.enough hu)
  refine ⟨hlen.trans h.length, fun v => ?_, hready, hunique, ?_⟩
  · rw [hget, h.waiting, plan.pending_append hu v, Nat.add_sub_cancel]
  · intro v hv
    have hle := pending_le_of_append plan hu v
    rcases List.mem_append.mp hv with hm | hm
    · obtain ⟨hvs, hz⟩ := h.settled v hm
      exact ⟨hvs, Nat.le_zero.mp (hle.trans_eq hz)⟩
    · obtain rfl := List.mem_singleton.mp hm
      have hz := Plan.pending_eq_zero_iff.mpr hsources
      exact ⟨hs, Nat.le_zero.mp (hle.trans_eq hz)⟩

end Consistent

/-- What every step keeps holds wherever a run of the agenda stands. -/
theorem follow_of_next {plan : Plan} {P : Agenda → Prop}
    (step : ∀ agenda u after, P agenda → agenda.next? plan = some (u, after) → P after)
    (steps : Nat) {agenda : Agenda} (h : P agenda) : P (follow plan steps agenda) := by
  induction steps generalizing agenda with
  | zero => exact h
  | succ steps ih =>
    unfold follow
    split
    · exact h
    next u after hn => exact ih (step agenda u after h hn)

theorem follow_consistent {plan : Plan} (inside : plan.Inside) (steps : Nat) :
    Consistent plan ((start plan).follow plan steps) :=
  follow_of_next (fun _ _ _ h hn => h.next inside hn) steps (Consistent.start inside)

/-- A run of the agenda processes a position at each step until its queue is empty. -/
theorem follow_progress (plan : Plan) (steps : Nat) (agenda : Agenda) :
    (follow plan steps agenda).ready = [] ∨
      (follow plan steps agenda).processed.length = agenda.processed.length + steps := by
  induction steps generalizing agenda with
  | zero => exact .inr rfl
  | succ steps ih =>
    unfold follow
    split
    next hn =>
      left
      cases hr : agenda.ready with
      | nil => rfl
      | cons u ready => simp [next?, hr] at hn
    next u after hn =>
      obtain ⟨ready, _, rfl⟩ := next?_eq_some_iff.mp hn
      refine (ih _).imp_right fun h => ?_
      rw [h, List.length_append, List.length_singleton]
      omega

/-- Without cycles, nothing is left when the queue is empty. -/
theorem Consistent.complete {plan : Plan} {agenda : Agenda} (h : Consistent plan agenda)
    (inside : plan.Inside) (acyclic : ¬plan.Cyclic) (empty : agenda.ready = []) {v : Nat}
    (hv : v < plan.size) : v ∈ agenda.processed := by
  by_contra hn
  apply acyclic
  let stuck := (List.range plan.size).filter (· ∉ agenda.processed)
  have hm : v ∈ stuck := List.mem_filter.mpr ⟨List.mem_range.mpr hv, decide_eq_true hn⟩
  apply exists_cycle stuck (List.ne_nil_of_mem hm)
  -- What is stuck waits for something that is stuck as well.
  intro u hu
  obtain ⟨hs, hp⟩ := List.mem_filter.mp hu
  have hz : plan.pending agenda.processed u ≠ 0 := by
    intro hz
    have hr := (h.ready u).mpr ⟨List.mem_range.mp hs, of_decide_eq_true hp, hz⟩
    simp [empty] at hr
  rw [ne_eq, Plan.pending_eq_zero_iff] at hz
  push Not at hz
  obtain ⟨s, hl, hsp⟩ := hz
  exact ⟨s, List.mem_filter.mpr ⟨List.mem_range.mpr (inside s u hl).1, decide_eq_true hsp⟩, hl⟩

end Agenda

namespace Plan

/-- Without cycles, every position is processed, and once. -/
theorem schedule_perm {plan : Plan} (inside : plan.Inside) (acyclic : ¬plan.Cyclic) :
    plan.schedule.Perm (List.range plan.size) := by
  have h := Agenda.follow_consistent inside plan.size
  have hnodup : plan.schedule.Nodup := (List.nodup_append.mp h.unique).1
  have hsub : plan.schedule ⊆ List.range plan.size := fun v hv =>
    List.mem_range.mpr (h.settled v hv).1
  rcases Agenda.follow_progress plan plan.size (Agenda.start plan) with empty | full
  · refine (List.perm_ext_iff_of_nodup hnodup List.nodup_range).mpr fun v => ⟨@hsub v, fun hv => ?_⟩
    exact h.complete inside acyclic empty (List.mem_range.mp hv)
  · refine (List.subperm_of_subset hnodup hsub).perm_of_length_le ?_
    rw [List.length_range, schedule, full]
    exact Nat.le_add_left _ _

end Plan

end Conveyor
