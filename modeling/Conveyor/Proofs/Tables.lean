import Conveyor.Proofs.Validation

namespace Conveyor

/-- A plan by position: how many edges lead to each, and where its own edges lead. -/
structure Tables where
  inDegrees : List Nat
  successors : List (List Nat)

namespace Tables

def empty (size : Nat) : Tables :=
  { inDegrees := List.replicate size 0, successors := List.replicate size [] }

/-- Enters an edge. None where there is no place for it. -/
def addEdge? (tables : Tables) (edge : Nat × Nat) : Option Tables :=
  if edge.1 < tables.successors.length ∧ edge.2 < tables.inDegrees.length then
    some
      { inDegrees := tables.inDegrees.modify edge.2 (· + 1)
        successors := tables.successors.modify edge.1 (· ++ [edge.2]) }
  else none

end Tables

namespace Plan

variable {plan : Plan} {size : Nat} {edges : List (Nat × Nat)} {edge : Nat × Nat} {v : Nat}

/-- The tables of a plan, with one edge entered after the other. -/
def tables? (plan : Plan) : Option Tables :=
  plan.edges.foldlM Tables.addEdge? (Tables.empty plan.size)

def tables (plan : Plan) : Tables :=
  { inDegrees := plan.inDegrees, successors := (List.range plan.size).map plan.successors }

@[simp] theorem length_inDegrees : plan.inDegrees.length = plan.size := by simp [inDegrees]

@[simp] theorem length_tables_successors : plan.tables.successors.length = plan.size := by
  simp [tables]

theorem inDegree_append :
    inDegree ⟨size, edges ++ [edge]⟩ v =
      inDegree ⟨size, edges⟩ v + if edge.2 = v then 1 else 0 := by
  simp [inDegree, List.countP_append, List.countP_singleton]

theorem successors_append :
    successors ⟨size, edges ++ [edge]⟩ v =
      successors ⟨size, edges⟩ v ++ if edge.1 = v then [edge.2] else [] := by
  by_cases hv : edge.1 = v <;> simp [successors, hv]

theorem getElem?_tables_inDegrees (hv : v < plan.size) :
    plan.tables.inDegrees[v]? = some (plan.inDegree v) := by
  simp [tables, inDegrees, hv]

theorem getElem?_tables_successors (hv : v < plan.size) :
    plan.tables.successors[v]? = some (plan.successors v) := by
  simp [tables, hv]

/-- Entering an edge counts it where it leads, and names its end where it comes from. -/
theorem addEdge?_tables (source : edge.1 < size) (destination : edge.2 < size) :
    (tables ⟨size, edges⟩).addEdge? edge = some (tables ⟨size, edges ++ [edge]⟩) := by
  have counted : (tables ⟨size, edges⟩).inDegrees.modify edge.2 (· + 1) =
      (tables ⟨size, edges ++ [edge]⟩).inDegrees := by
    apply List.ext_getElem
    · simp [tables]
    · intro v hv _
      simp only [tables, inDegrees, List.getElem_modify, List.getElem_map, List.getElem_range,
        inDegree_append]
      split <;> rfl
  have named : (tables ⟨size, edges⟩).successors.modify edge.1 (· ++ [edge.2]) =
      (tables ⟨size, edges ++ [edge]⟩).successors := by
    apply List.ext_getElem
    · simp [tables]
    · intro v hv _
      simp only [tables, List.getElem_modify, List.getElem_map, List.getElem_range,
        successors_append]
      split <;> simp
  rw [Tables.addEdge?, if_pos (by simpa [tables] using ⟨source, destination⟩), counted, named]

theorem foldlM_addEdge? (before : List (Nat × Nat))
    (inside : ∀ edge ∈ edges, edge.1 < size ∧ edge.2 < size) :
    edges.foldlM Tables.addEdge? (tables ⟨size, before⟩) =
      some (tables ⟨size, before ++ edges⟩) := by
  induction edges generalizing before with
  | nil => simp
  | cons edge rest ih =>
    obtain ⟨source, destination⟩ := inside edge List.mem_cons_self
    rw [List.foldlM_cons, addEdge?_tables source destination]
    have hrest := ih (before ++ [edge]) fun e he => inside e (List.mem_cons_of_mem _ he)
    rw [List.append_assoc] at hrest
    exact hrest

theorem tables_nil (size : Nat) : tables ⟨size, []⟩ = Tables.empty size := by
  have counted : inDegree ⟨size, []⟩ = fun _ => 0 := rfl
  have named : successors ⟨size, []⟩ = fun _ => [] := rfl
  simp [tables, inDegrees, Tables.empty, counted, named]

/-- Every edge of a plan has a place in its tables. -/
theorem tables?_eq (inside : plan.Inside) : plan.tables? = some plan.tables := by
  rw [tables?, ← tables_nil, foldlM_addEdge? [] fun edge he => inside edge.1 edge.2 he]
  rfl

-- Parallel edges count separately, and are named as often.
example : tables? ⟨2, [(0, 1), (0, 1)]⟩ =
    some { inDegrees := [0, 2], successors := [[1, 1], []] } := rfl

end Plan

namespace Workflow

variable {workflow : Workflow} {position : Nat} {placed : Placed}

/-- Tables that hold the declared edges of a workflow: each counts at its destination, and at its
source it is named behind those that were declared before. -/
structure Tabulates (workflow : Workflow) (tables : Tables) : Prop where
  counters : tables.inDegrees.length = workflow.nodes.length
  lists : tables.successors.length = workflow.nodes.length
  inDegree : ∀ (position : Nat) (placed : Placed), workflow.nodes[position]? = some placed →
    tables.inDegrees[position]? = some (workflow.edges.countP (·.destination = placed.id))
  successors : ∀ (position : Nat) (placed : Placed), workflow.nodes[position]? = some placed →
    ∃ places : List Nat, tables.successors[position]? = some places ∧
      places.map (workflow.ids[·]?) =
        (workflow.edges.filter (·.source = placed.id)).map (some ·.destination)

theorem ids_getElem? (h : workflow.nodes[position]? = some placed) :
    workflow.ids[position]? = some placed.id := by
  simp [ids, h]

theorem lt_size_graph (h : workflow.nodes[position]? = some placed) :
    position < workflow.graph.size := by
  simpa [graph, ids] using (List.getElem?_eq_some_iff.mp h).1

namespace Sound

variable (sound : workflow.Sound)
include sound

/-- Where a node stands. -/
theorem idxOf_eq_iff (h : workflow.nodes[position]? = some placed) {id : String}
    (declared : id ∈ workflow.ids) : workflow.ids.idxOf id = position ↔ id = placed.id := by
  obtain ⟨hlt, hid⟩ := List.getElem?_eq_some_iff.mp (ids_getElem? h)
  constructor
  · rintro rfl
    rw [← hid, List.getElem_idxOf]
  · rintro rfl
    rw [← hid, sound.unique.idxOf_getElem]

theorem tabulates : workflow.Tabulates workflow.graph.tables where
  counters := by simp [Plan.tables, graph, ids]
  lists := by simp [graph, ids]
  inDegree position placed h := by
    rw [Plan.getElem?_tables_inDegrees (lt_size_graph h), Plan.inDegree, graph, List.countP_map]
    congr 1
    apply List.countP_congr
    intro edge he
    simp [Plan.place, sound.idxOf_eq_iff h (sound.joined edge he).2]
  successors position placed h := by
    refine ⟨_, Plan.getElem?_tables_successors (lt_size_graph h), ?_⟩
    rw [Plan.successors, graph, List.filter_map, List.map_map, List.map_map]
    have declared : workflow.edges.filter ((fun e : Nat × Nat => decide (e.1 = position)) ∘
        Plan.place workflow.ids) = workflow.edges.filter (·.source = placed.id) := by
      apply List.filter_congr
      intro edge he
      simp [Plan.place, sound.idxOf_eq_iff h (sound.joined edge he).1]
    rw [declared]
    apply List.map_congr_left
    intro edge he
    obtain ⟨he, -⟩ := List.mem_filter.mp he
    exact List.getElem?_idxOf (sound.joined edge he).2

end Sound

end Workflow

end Conveyor
