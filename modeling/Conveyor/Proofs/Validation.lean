import Conveyor.Proofs.Cycle
import Mathlib.Data.List.Nodup

namespace Conveyor
open Relation

namespace Workflow

def ids (workflow : Workflow) : List String := workflow.nodes.map Placed.id

/-- The id of the first node whose id an earlier node has too. -/
def Repeats (workflow : Workflow) (id : String) : Prop :=
  ∃ before after, workflow.ids = before ++ id :: after ∧ before.Nodup ∧ id ∈ before

/-- An edge leads from one node to the other. -/
def Leads (workflow : Workflow) (source destination : String) : Prop :=
  ∃ edge ∈ workflow.edges, edge.source = source ∧ edge.destination = destination

/-- A node that depends on itself, by one edge or by a chain of them. -/
def Cyclic (workflow : Workflow) : Prop := ∃ id, TransGen workflow.Leads id id

end Workflow

/-- Both ends of an edge are declared. -/
def Edge.Joins (ids : List String) (edge : Edge) : Prop :=
  edge.source ∈ ids ∧ edge.destination ∈ ids

/-- The end of an edge that is not declared; of two the source. -/
def Edge.Misses (ids : List String) (edge : Edge) (role id : String) : Prop :=
  (role = "source" ∧ id = edge.source ∧ edge.source ∉ ids) ∨
    (role = "destination" ∧ id = edge.destination ∧ edge.source ∈ ids ∧ edge.destination ∉ ids)

/-- The first edge, counted from 0, that has an undeclared end, and that end. -/
def Workflow.Dangles (workflow : Workflow) (index : Nat) (role id : String) : Prop :=
  ∃ before edge after, workflow.edges = before ++ edge :: after ∧ before.length = index ∧
    (∀ e ∈ before, e.Joins workflow.ids) ∧ edge.Misses workflow.ids role id

namespace Plan

theorem duplicate?_eq_some_iff {seen ids : List String} {id : String} (unique : seen.Nodup) :
    duplicate? seen ids = some id ↔ ∃ before after, ids = before ++ id :: after ∧
      (seen ++ before).Nodup ∧ id ∈ seen ++ before := by
  induction ids generalizing seen with
  | nil => simp [duplicate?]
  | cons first rest ih =>
    unfold duplicate?
    split
    next hm =>
      constructor
      · intro h
        obtain rfl := Option.some.inj h
        exact ⟨[], rest, rfl, by simpa using unique, by simpa using hm⟩
      · intro h
        obtain ⟨before, after, he, hn, -⟩ := h
        cases before with
        | nil => simp_all
        | cons head before =>
          obtain rfl := (List.cons.inj he).1
          exact absurd rfl ((List.nodup_append.mp hn).2.2 first hm first (by simp))
    next hm =>
      have hn : (seen ++ [first]).Nodup := by
        simpa [List.nodup_append] using ⟨unique, fun a ha he => hm (he ▸ ha)⟩
      rw [ih hn]
      constructor
      · intro h
        obtain ⟨before, after, rfl, hb, hi⟩ := h
        exact ⟨first :: before, after, rfl, by simpa using hb, by simpa using hi⟩
      · intro h
        obtain ⟨before, after, he, hb, hi⟩ := h
        cases before with
        | nil =>
          obtain rfl := (List.cons.inj he).1
          exact absurd (by simpa using hi) hm
        | cons head before =>
          obtain ⟨rfl, rfl⟩ := List.cons.inj he
          exact ⟨before, after, rfl, by simpa using hb, by simpa using hi⟩

theorem duplicate?_eq_none_iff {seen ids : List String} (unique : seen.Nodup) :
    duplicate? seen ids = none ↔ (seen ++ ids).Nodup := by
  induction ids generalizing seen with
  | nil => simpa [duplicate?] using unique
  | cons first rest ih =>
    unfold duplicate?
    split
    next hm =>
      refine ⟨nofun, fun hn => ?_⟩
      exact absurd rfl ((List.nodup_append.mp hn).2.2 first hm first (by simp))
    next hm =>
      have hn : (seen ++ [first]).Nodup := by
        simpa [List.nodup_append] using ⟨unique, fun a ha he => hm (he ▸ ha)⟩
      rw [ih hn, List.append_assoc, List.singleton_append]

/-- What is wrong with an edge, as messages put it. -/
def unknownEnd (index : Nat) (role id : String) : Fault :=
  .invalidConnection s!"edge {index} references unknown {role} '{id}'"

theorem endpoint_eq (ids : List String) (index : Nat) (role id : String) :
    endpoint ids index role id =
      if id ∈ ids then .ok (ids.idxOf id) else .error (unknownEnd index role id) := by
  cases hp : ids.idxOf? id with
  | none =>
    have hn : id ∉ ids := List.idxOf?_eq_none_iff.mp hp
    simp only [endpoint, hp, hn, ↓reduceIte]
    rfl
  | some position =>
    have hm : id ∈ ids := List.isSome_idxOf?.mp (by simp [hp])
    simp [endpoint, hp, hm, List.idxOf_eq_getD_idxOf?]

/-- Where an edge leads, by position. -/
def place (ids : List String) (edge : Edge) : Nat × Nat :=
  (ids.idxOf edge.source, ids.idxOf edge.destination)

theorem resolveEdges_cons_of_joins {ids : List String} {edge : Edge} (h : edge.Joins ids)
    (index : Nat) (rest : List Edge) :
    resolveEdges ids index (edge :: rest) =
      (resolveEdges ids (index + 1) rest).map (place ids edge :: ·) := by
  simp only [resolveEdges, endpoint_eq, if_pos h.1, if_pos h.2]
  cases resolveEdges ids (index + 1) rest <;> rfl

theorem resolveEdges_cons_of_misses {ids : List String} {edge : Edge} {role id : String}
    (h : edge.Misses ids role id) (index : Nat) (rest : List Edge) :
    resolveEdges ids index (edge :: rest) = .error (unknownEnd index role id) := by
  obtain ⟨rfl, rfl, hs⟩ | ⟨rfl, rfl, hs, hd⟩ := h
  · simp only [resolveEdges, endpoint_eq, if_neg hs]
    rfl
  · simp only [resolveEdges, endpoint_eq, if_pos hs, if_neg hd]
    rfl

theorem joins_or_misses (ids : List String) (edge : Edge) :
    edge.Joins ids ∨ ∃ role id, edge.Misses ids role id := by
  by_cases hs : edge.source ∈ ids
  · by_cases hd : edge.destination ∈ ids
    · exact .inl ⟨hs, hd⟩
    · exact .inr ⟨_, _, .inr ⟨rfl, rfl, hs, hd⟩⟩
  · exact .inr ⟨_, _, .inl ⟨rfl, rfl, hs⟩⟩

theorem resolveEdges_of_joins {ids : List String} {edges : List Edge}
    (h : ∀ e ∈ edges, e.Joins ids) (index : Nat) :
    resolveEdges ids index edges = .ok (edges.map (place ids)) := by
  induction edges generalizing index with
  | nil => rfl
  | cons edge rest ih =>
    rw [resolveEdges_cons_of_joins (h edge (by simp)), ih fun e he => h e (by simp [he])]
    rfl

/-- The first edge with an undeclared end is the one complained of. -/
theorem resolveEdges_of_misses {ids : List String} {before after : List Edge} {edge : Edge}
    {role id : String} (hb : ∀ e ∈ before, e.Joins ids) (h : edge.Misses ids role id)
    (index : Nat) : resolveEdges ids index (before ++ edge :: after) =
      .error (unknownEnd (index + before.length) role id) := by
  induction before generalizing index with
  | nil => exact resolveEdges_cons_of_misses h index after
  | cons first rest ih =>
    rw [List.cons_append, resolveEdges_cons_of_joins (hb first (by simp)),
      ih fun e he => hb e (by simp [he]), List.length_cons]
    simp only [Except.map, Nat.add_comm 1, Nat.add_assoc]

theorem joins_or_first_misses (ids : List String) (edges : List Edge) :
    (∀ e ∈ edges, e.Joins ids) ∨ ∃ before edge after, edges = before ++ edge :: after ∧
      (∀ e ∈ before, e.Joins ids) ∧ ∃ role id, edge.Misses ids role id := by
  induction edges with
  | nil => exact .inl (by simp)
  | cons first rest ih =>
    obtain hj | hm := joins_or_misses ids first
    · obtain hr | ⟨before, edge, after, rfl, hb, he⟩ := ih
      · exact .inl (by simpa using ⟨hj, hr⟩)
      · exact .inr ⟨first :: before, edge, after, rfl, by simpa using ⟨hj, hb⟩, he⟩
    · exact .inr ⟨[], first, rest, rfl, by simp, hm⟩

/-- Where nothing can be run first, something depends on itself. -/
theorem cyclic_of_no_start {plan : Plan} (inside : plan.Inside) (hs : plan.size ≠ 0)
    (none : plan.startNodes = []) : plan.Cyclic := by
  apply exists_cycle (List.range plan.size) (by simpa using hs)
  intro v hv
  have hd : 0 < plan.inDegree v := by
    have hn : v ∉ plan.startNodes := by simp [none]
    simp only [startNodes, List.mem_filter, hv, true_and, isStart, List.mem_range.mp hv,
      decide_true, Bool.true_and, decide_eq_true_eq] at hn
    omega
  obtain ⟨u, hu⟩ := inDegree_pos_iff.mp hd
  exact ⟨u, List.mem_range.mpr (inside u v hu).1, hu⟩

end Plan

namespace Workflow

/-- The graph of a workflow, its nodes numbered in declared order. -/
def graph (workflow : Workflow) : Plan :=
  { size := workflow.ids.length, edges := workflow.edges.map (Plan.place workflow.ids) }

/-- What makes a workflow fit to be run. -/
structure Sound (workflow : Workflow) : Prop where
  unique : workflow.ids.Nodup
  joined : ∀ e ∈ workflow.edges, e.Joins workflow.ids
  acyclic : ¬workflow.Cyclic

variable {workflow : Workflow}

theorem getD_idxOf {id : String} (h : id ∈ workflow.ids) :
    workflow.ids.getD (workflow.ids.idxOf id) "" = id := by
  simp [List.getD_eq_getElem?_getD, List.getElem?_idxOf h]

theorem graph_leads_iff {u v : Nat} : workflow.graph.Leads u v ↔ ∃ e ∈ workflow.edges,
    workflow.ids.idxOf e.source = u ∧ workflow.ids.idxOf e.destination = v := by
  simp [graph, Plan.Leads, Plan.place]

theorem graph_inside (joined : ∀ e ∈ workflow.edges, e.Joins workflow.ids) :
    workflow.graph.Inside := by
  intro u v h
  obtain ⟨e, he, rfl, rfl⟩ := graph_leads_iff.mp h
  exact ⟨List.idxOf_lt_length_of_mem (joined e he).1, List.idxOf_lt_length_of_mem (joined e he).2⟩

theorem graph_cyclic_iff (joined : ∀ e ∈ workflow.edges, e.Joins workflow.ids) :
    workflow.graph.Cyclic ↔ workflow.Cyclic := by
  constructor
  · intro h
    obtain ⟨v, hv⟩ := h
    refine ⟨_, TransGen.lift (workflow.ids.getD · "") ?_ _ _ hv⟩
    intro u v h
    obtain ⟨e, he, rfl, rfl⟩ := graph_leads_iff.mp h
    exact ⟨e, he, (getD_idxOf (joined e he).1).symm, (getD_idxOf (joined e he).2).symm⟩
  · intro h
    obtain ⟨id, hid⟩ := h
    refine ⟨_, TransGen.lift workflow.ids.idxOf ?_ _ _ hid⟩
    rintro _ _ ⟨e, he, rfl, rfl⟩
    exact graph_leads_iff.mpr ⟨e, he, rfl, rfl⟩

end Workflow

namespace Plan

variable {workflow : Workflow}

theorem build_of_repeats {id : String} (h : workflow.Repeats id) :
    build workflow = .error (.duplicateNode id) := by
  obtain ⟨before, after, he, hn, hi⟩ := h
  have hd : duplicate? [] (workflow.nodes.map Placed.id) = some id :=
    (duplicate?_eq_some_iff List.nodup_nil).mpr
      ⟨before, after, he, by simpa using hn, by simpa using hi⟩
  simp only [build, hd]
  rfl

/-- With ids that are unique, all depends on the edges. -/
theorem build_of_unique (unique : workflow.ids.Nodup) :
    build workflow = (resolveEdges workflow.ids 0 workflow.edges).bind fun edges =>
      let plan : Plan := { size := workflow.ids.length, edges }
      if plan.isCyclic then .error .cyclicWorkflow
      else if plan.size ≠ 0 ∧ plan.startNodes = [] then .error .noStartNode
      else .ok plan := by
  have hd : duplicate? [] (workflow.nodes.map Placed.id) = none :=
    (duplicate?_eq_none_iff List.nodup_nil).mpr unique
  simp only [build, hd]
  rfl

theorem build_of_dangles (unique : workflow.ids.Nodup) {index : Nat} {role id : String}
    (h : workflow.Dangles index role id) : build workflow = .error (unknownEnd index role id) := by
  obtain ⟨before, edge, after, he, rfl, hb, hm⟩ := h
  rw [build_of_unique unique, he, resolveEdges_of_misses hb hm, Nat.zero_add]
  rfl

theorem build_of_joined (unique : workflow.ids.Nodup)
    (joined : ∀ e ∈ workflow.edges, e.Joins workflow.ids) :
    build workflow =
      if workflow.graph.isCyclic then .error .cyclicWorkflow else .ok workflow.graph := by
  rw [build_of_unique unique, resolveEdges_of_joins joined]
  change (if workflow.graph.isCyclic then _ else
    if workflow.graph.size ≠ 0 ∧ workflow.graph.startNodes = [] then _ else _) = _
  have inside := Workflow.graph_inside joined
  split
  · rfl
  next hc =>
    have hs : ¬(workflow.graph.size ≠ 0 ∧ workflow.graph.startNodes = []) := by
      intro h
      obtain ⟨hs, hn⟩ := h
      exact hc ((isCyclic_iff inside).mpr (cyclic_of_no_start inside hs hn))
    exact if_neg hs

theorem build_of_cyclic (unique : workflow.ids.Nodup)
    (joined : ∀ e ∈ workflow.edges, e.Joins workflow.ids) (cyclic : workflow.Cyclic) :
    build workflow = .error .cyclicWorkflow := by
  rw [build_of_joined unique joined, if_pos]
  exact (isCyclic_iff (Workflow.graph_inside joined)).mpr
    ((Workflow.graph_cyclic_iff joined).mpr cyclic)

theorem build_of_sound (sound : workflow.Sound) : build workflow = .ok workflow.graph := by
  rw [build_of_joined sound.unique sound.joined, if_neg]
  intro hc
  exact sound.acyclic ((Workflow.graph_cyclic_iff sound.joined).mp
    ((isCyclic_iff (Workflow.graph_inside sound.joined)).mp hc))

theorem repeats_or_unique (workflow : Workflow) :
    (∃ id, workflow.Repeats id) ∨ workflow.ids.Nodup := by
  cases hd : duplicate? [] workflow.ids with
  | none => exact .inr (by simpa using (duplicate?_eq_none_iff List.nodup_nil).mp hd)
  | some id =>
    obtain ⟨before, after, he, hn, hi⟩ := (duplicate?_eq_some_iff List.nodup_nil).mp hd
    exact .inl ⟨id, before, after, he, by simpa using hn, by simpa using hi⟩

theorem dangles_or_joined (workflow : Workflow) :
    (∃ index role id, workflow.Dangles index role id) ∨
      ∀ e ∈ workflow.edges, e.Joins workflow.ids := by
  obtain hj | ⟨before, edge, after, he, hb, role, id, hm⟩ :=
    joins_or_first_misses workflow.ids workflow.edges
  · exact .inr hj
  · exact .inl ⟨before.length, role, id, before, edge, after, he, rfl, hb, hm⟩

/-- What is checked first decides: ids, then the ends of the edges, then cycles. -/
theorem build_cases (workflow : Workflow) :
    (∃ id, workflow.Repeats id ∧ build workflow = .error (.duplicateNode id)) ∨
    (workflow.ids.Nodup ∧ ∃ index role id, workflow.Dangles index role id ∧
      build workflow = .error (unknownEnd index role id)) ∨
    (workflow.ids.Nodup ∧ (∀ e ∈ workflow.edges, e.Joins workflow.ids) ∧ workflow.Cyclic ∧
      build workflow = .error .cyclicWorkflow) ∨
    (workflow.Sound ∧ build workflow = .ok workflow.graph) := by
  obtain ⟨id, hr⟩ | unique := repeats_or_unique workflow
  · exact .inl ⟨id, hr, build_of_repeats hr⟩
  obtain ⟨index, role, id, hd⟩ | joined := dangles_or_joined workflow
  · exact .inr (.inl ⟨unique, index, role, id, hd, build_of_dangles unique hd⟩)
  by_cases cyclic : workflow.Cyclic
  · exact .inr (.inr (.inl ⟨unique, joined, cyclic, build_of_cyclic unique joined cyclic⟩))
  · have sound : workflow.Sound := ⟨unique, joined, cyclic⟩
    exact .inr (.inr (.inr ⟨sound, build_of_sound sound⟩))

theorem build_eq_ok_iff {plan : Plan} :
    build workflow = .ok plan ↔ workflow.Sound ∧ plan = workflow.graph := by
  constructor
  · intro h
    obtain ⟨_, _, hb⟩ | ⟨_, _, _, _, _, hb⟩ | ⟨_, _, _, hb⟩ | ⟨sound, hb⟩ := build_cases workflow
    all_goals rw [hb] at h
    · cases h
    · cases h
    · cases h
    · exact ⟨sound, (Except.ok.inj h).symm⟩
  · intro h
    obtain ⟨sound, rfl⟩ := h
    exact build_of_sound sound

theorem not_nodup_of_repeats {id : String} (h : workflow.Repeats id) : ¬workflow.ids.Nodup := by
  obtain ⟨before, after, he, _, hi⟩ := h
  rw [he]
  intro hn
  exact (List.nodup_append.mp hn).2.2 id hi id (by simp) rfl

theorem not_joined_of_dangles {index : Nat} {role id : String}
    (h : workflow.Dangles index role id) : ¬∀ e ∈ workflow.edges, e.Joins workflow.ids := by
  obtain ⟨before, edge, after, he, _, _, hm⟩ := h
  intro joined
  have hj := joined edge (by simp [he])
  obtain ⟨_, _, hs⟩ | ⟨_, _, _, hd⟩ := hm
  · exact hs hj.1
  · exact hd hj.2

theorem repeats_of_build {id : String} (h : build workflow = .error (.duplicateNode id)) :
    workflow.Repeats id := by
  obtain ⟨_, hr, hb⟩ | ⟨_, _, _, _, _, hb⟩ | ⟨_, _, _, hb⟩ | ⟨_, hb⟩ := build_cases workflow
  all_goals rw [hb] at h
  · cases h
    exact hr
  all_goals cases h

theorem dangles_of_build {reason : String}
    (h : build workflow = .error (.invalidConnection reason)) :
    workflow.ids.Nodup ∧ ∃ index role id, workflow.Dangles index role id ∧
      .invalidConnection reason = unknownEnd index role id := by
  obtain ⟨_, _, hb⟩ | ⟨unique, index, role, id, hd, hb⟩ | ⟨_, _, _, hb⟩ | ⟨_, hb⟩ :=
    build_cases workflow
  all_goals rw [hb] at h
  · cases h
  · exact ⟨unique, index, role, id, hd, (Except.error.inj h).symm⟩
  all_goals cases h

theorem cyclic_of_build (h : build workflow = .error .cyclicWorkflow) :
    workflow.ids.Nodup ∧ (∀ e ∈ workflow.edges, e.Joins workflow.ids) ∧ workflow.Cyclic := by
  obtain ⟨_, _, hb⟩ | ⟨_, _, _, _, _, hb⟩ | ⟨unique, joined, cyclic, _⟩ | ⟨_, hb⟩ :=
    build_cases workflow
  · cases hb.symm.trans h
  · cases hb.symm.trans h
  · exact ⟨unique, joined, cyclic⟩
  · cases hb.symm.trans h

theorem build_ne_noStartNode : build workflow ≠ .error .noStartNode := by
  intro h
  obtain ⟨_, _, hb⟩ | ⟨_, _, _, _, _, hb⟩ | ⟨_, _, _, hb⟩ | ⟨_, hb⟩ := build_cases workflow
  all_goals cases hb.symm.trans h

/-- Building a plan says exactly what is wrong with a workflow, and the first thing of several:
a repeated id, an edge with an undeclared end, a cycle. A workflow without these has a plan;
that nothing in it can be run first never comes up. -/
theorem build_decides (workflow : Workflow) :
    (∀ id, build workflow = .error (.duplicateNode id) ↔ workflow.Repeats id) ∧
    ((∃ id, workflow.Repeats id) ↔ ¬workflow.ids.Nodup) ∧
    (∀ reason, build workflow = .error (.invalidConnection reason) ↔
      workflow.ids.Nodup ∧ ∃ index role id, workflow.Dangles index role id ∧
        reason = s!"edge {index} references unknown {role} '{id}'") ∧
    ((∃ index role id, workflow.Dangles index role id) ↔
      ¬∀ e ∈ workflow.edges, e.Joins workflow.ids) ∧
    (build workflow = .error .cyclicWorkflow ↔
      workflow.ids.Nodup ∧ (∀ e ∈ workflow.edges, e.Joins workflow.ids) ∧ workflow.Cyclic) ∧
    ((∃ plan, build workflow = .ok plan) ↔
      workflow.ids.Nodup ∧ (∀ e ∈ workflow.edges, e.Joins workflow.ids) ∧ ¬workflow.Cyclic) ∧
    build workflow ≠ .error .noStartNode := by
  refine ⟨fun id => ⟨repeats_of_build, build_of_repeats⟩, ⟨?_, ?_⟩, fun reason => ⟨fun h => ?_, ?_⟩,
    ⟨?_, ?_⟩, ⟨cyclic_of_build, ?_⟩, ⟨?_, ?_⟩, build_ne_noStartNode⟩
  · intro h
    obtain ⟨id, hr⟩ := h
    exact not_nodup_of_repeats hr
  · exact (repeats_or_unique workflow).resolve_right
  · obtain ⟨unique, index, role, id, hd, he⟩ := dangles_of_build h
    exact ⟨unique, index, role, id, hd, Fault.invalidConnection.inj he⟩
  · intro h
    obtain ⟨unique, index, role, id, hd, rfl⟩ := h
    exact build_of_dangles unique hd
  · intro h
    obtain ⟨index, role, id, hd⟩ := h
    exact not_joined_of_dangles hd
  · exact (dangles_or_joined workflow).resolve_right
  · intro h
    obtain ⟨unique, joined, cyclic⟩ := h
    exact build_of_cyclic unique joined cyclic
  · intro h
    obtain ⟨plan, h⟩ := h
    obtain ⟨sound, _⟩ := build_eq_ok_iff.mp h
    exact ⟨sound.unique, sound.joined, sound.acyclic⟩
  · intro h
    obtain ⟨unique, joined, acyclic⟩ := h
    exact ⟨_, build_of_sound ⟨unique, joined, acyclic⟩⟩

end Plan

end Conveyor
