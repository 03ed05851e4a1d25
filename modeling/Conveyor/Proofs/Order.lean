import Conveyor.Nodes
import Conveyor.Proofs.Drive
import Conveyor.Proofs.Rank
import Mathlib.Data.List.Permutation

namespace Conveyor
open RunWork

/-- Entries that no other entry shares its image with keep their places under a map. -/
theorem idxOf_map_of_forall {α β : Type} [BEq α] [LawfulBEq α] [BEq β] [LawfulBEq β] {f : α → β}
    {a : α} {entries : List α} (h : ∀ x ∈ entries, f x = f a → x = a) :
    (entries.map f).idxOf (f a) = entries.idxOf a := by
  induction entries with
  | nil => rfl
  | cons x rest ih =>
    rw [List.map_cons, List.idxOf_cons, List.idxOf_cons, ih fun y hy => h y (by simp [hy])]
    have hb : (f x == f a) = (x == a) := by
      rw [Bool.eq_iff_iff, beq_iff_eq, beq_iff_eq]
      exact ⟨h x (by simp), congrArg f⟩
    rw [hb]

namespace Workflow

/-- Where the edges to a node come from, one entry per edge. -/
def sources (workflow : Workflow) (id : String) : List String :=
  (workflow.edges.filter (·.destination = id)).map Edge.source

/-- The place in an order of the last node that an edge leads from to a given one; -1 where none
does. -/
def rank (workflow : Workflow) (order : List String) (id : String) : Int :=
  lastPlace order (workflow.sources id)

/-- The order in which the nodes of a workflow are run: what depends on something comes after it.
A node comes when the last of what it depends on is done; where that is the same, or nothing,
the declared order decides. -/
structure Orders (workflow : Workflow) (order : List String) : Prop where
  perm : order.Perm workflow.ids
  early : ∀ edge ∈ workflow.edges, order.idxOf edge.source < order.idxOf edge.destination
  ranked : ∀ u ∈ workflow.ids, ∀ v ∈ workflow.ids, order.idxOf u < order.idxOf v ↔
    workflow.rank order u < workflow.rank order v ∨
      workflow.rank order u = workflow.rank order v ∧ workflow.ids.idxOf u < workflow.ids.idxOf v

variable {workflow : Workflow}

/-- The ids of the positions as they are scheduled. -/
def schedule (workflow : Workflow) : List String :=
  workflow.graph.schedule.map (workflow.ids.getD · "")

theorem getD_inj (unique : workflow.ids.Nodup) {p q : Nat} (hp : p < workflow.ids.length)
    (hq : q < workflow.ids.length) (h : workflow.ids.getD p "" = workflow.ids.getD q "") :
    p = q := by
  simp only [List.getD_eq_getElem?_getD, List.getElem?_eq_getElem, hp, hq, Option.getD_some] at h
  exact unique.getElem_inj_iff.mp h

namespace Sound

variable (sound : workflow.Sound)
include sound

theorem inside : workflow.graph.Inside := graph_inside sound.joined

theorem graph_schedule_perm : workflow.graph.schedule.Perm (List.range workflow.ids.length) :=
  Plan.schedule_perm sound.inside ((graph_cyclic_iff sound.joined).not.mpr sound.acyclic)

theorem mem_graph_schedule {p : Nat} : p ∈ workflow.graph.schedule ↔ p < workflow.ids.length :=
  sound.graph_schedule_perm.mem_iff.trans List.mem_range

theorem schedule_perm : workflow.schedule.Perm workflow.ids := by
  refine (sound.graph_schedule_perm.map _).trans (.of_eq ?_)
  apply List.ext_getElem
  · simp
  · intro p hp hq
    simp [List.getD_eq_getElem?_getD, hq]

theorem nodup_schedule : workflow.schedule.Nodup := sound.schedule_perm.nodup_iff.mpr sound.unique

theorem length_schedule : workflow.schedule.length = workflow.nodes.length := by
  simpa [Workflow.ids] using sound.schedule_perm.length_eq

/-- A node stands where its position is scheduled. -/
theorem schedule_idxOf {id : String} (h : id ∈ workflow.ids) :
    workflow.schedule.idxOf id = workflow.graph.schedule.idxOf (workflow.ids.idxOf id) := by
  have hplaces : ∀ p ∈ workflow.graph.schedule,
      workflow.ids.getD p "" = workflow.ids.getD (workflow.ids.idxOf id) "" →
        p = workflow.ids.idxOf id := fun p hp he =>
    getD_inj sound.unique (sound.mem_graph_schedule.mp hp) (List.idxOf_lt_length_of_mem h) he
  have hm := idxOf_map_of_forall hplaces
  rwa [getD_idxOf h] at hm

theorem rank_schedule (id : String) :
    workflow.rank workflow.schedule id =
      workflow.graph.rank workflow.graph.schedule (workflow.ids.idxOf id) := by
  have hf : workflow.edges.filter (fun e => decide (e.destination = id)) =
      workflow.edges.filter ((fun e : Nat × Nat => decide (e.2 = workflow.ids.idxOf id)) ∘
        Plan.place workflow.ids) := by
    apply List.filter_congr
    intro e he
    simp [Plan.place, List.idxOf_inj (sound.joined e he).2]
  have hs : workflow.graph.sources (workflow.ids.idxOf id) =
      (workflow.sources id).map workflow.ids.idxOf := by
    unfold Plan.sources sources graph
    rw [List.filter_map, List.map_map, List.map_map, hf]
    rfl
  rw [rank, Plan.rank, hs, lastPlace, lastPlace, List.map_map]
  congr 1
  apply List.map_congr_left
  intro u hu
  obtain ⟨e, he, rfl⟩ := List.mem_map.mp hu
  rw [sound.schedule_idxOf (sound.joined e (List.mem_filter.mp he).1).1]
  rfl

theorem orders_schedule : workflow.Orders workflow.schedule := by
  have hm {id : String} (h : id ∈ workflow.ids) :
      workflow.ids.idxOf id ∈ workflow.graph.schedule :=
    sound.mem_graph_schedule.mpr (List.idxOf_lt_length_of_mem h)
  refine ⟨sound.schedule_perm, fun edge he => ?_, fun u hu v hv => ?_⟩
  · obtain ⟨hs, hd⟩ := sound.joined edge he
    rw [sound.schedule_idxOf hs, sound.schedule_idxOf hd]
    exact Plan.schedule_early sound.inside (graph_leads_iff.mpr ⟨edge, he, rfl, rfl⟩) (hm hd)
  · rw [sound.schedule_idxOf hu, sound.schedule_idxOf hv, sound.rank_schedule u,
      sound.rank_schedule v]
    exact Plan.schedule_idxOf_lt_iff sound.inside (hm hu) (hm hv)

end Sound

theorem mem_sources {u v : String} : u ∈ workflow.sources v ↔ workflow.Leads u v := by
  simp [sources, Leads, and_comm, and_assoc]

namespace Orders

variable {other : Workflow} {order order' : List String}

/-- Which edges there are matters for an order, not which is declared first, nor how often. -/
theorem congr (h : workflow.Orders order) (ids : other.ids = workflow.ids)
    (edges : ∀ u v, other.Leads u v ↔ workflow.Leads u v) : other.Orders order := by
  have hrank (id : String) : other.rank order id = workflow.rank order id :=
    lastPlace_of_mem_iff fun u => by rw [mem_sources, mem_sources, edges]
  refine ⟨ids ▸ h.perm, fun edge he => ?_, fun u hu v hv => ?_⟩
  · obtain ⟨e, he, hs, hd⟩ := (edges _ _).mp ⟨edge, he, rfl, rfl⟩
    exact hs ▸ hd ▸ h.early e he
  · rw [hrank, hrank, ids]
    exact h.ranked u (ids ▸ hu) v (ids ▸ hv)

/-- What a node depends on stands before it. -/
theorem mem_front {s u : String} {front rest : List String}
    (h : workflow.Orders (front ++ u :: rest)) (hu : u ∉ front) (hl : workflow.Leads s u) :
    s ∈ front := by
  obtain ⟨edge, he, rfl, rfl⟩ := hl
  have hlt := h.early edge he
  rw [List.idxOf_append_of_notMem hu, List.idxOf_cons_self] at hlt
  by_contra hn
  rw [List.idxOf_append_of_notMem hn] at hlt
  omega

/-- When it is the turn of a node its rank is settled. -/
theorem rank_append {u : String} {front rest : List String}
    (h : workflow.Orders (front ++ u :: rest)) (hu : u ∉ front) (later : List String) :
    workflow.rank (front ++ later) u = workflow.rank front u := by
  refine lastPlace_of_places_eq fun s hs => ?_
  exact List.idxOf_append_of_mem (h.mem_front hu (mem_sources.mp hs))

/-- The node that comes next precedes, by rank, all that are still to come. -/
theorem next_first {u v : String} {front rest : List String}
    (h : workflow.Orders (front ++ u :: rest)) (hu : u ∉ front) (hv : v ∉ front)
    (hm : v ∈ workflow.ids) (hne : u ≠ v) :
    workflow.rank (front ++ u :: rest) u < workflow.rank (front ++ u :: rest) v ∨
      workflow.rank (front ++ u :: rest) u = workflow.rank (front ++ u :: rest) v ∧
        workflow.ids.idxOf u < workflow.ids.idxOf v := by
  refine (h.ranked u (h.perm.mem_iff.mp (by simp)) v hm).mp ?_
  rw [List.idxOf_append_of_notMem hu, List.idxOf_append_of_notMem hv, List.idxOf_cons_self,
    List.idxOf_cons_ne _ hne]
  omega

/-- Orders that have started alike go on alike. -/
theorem eq_of_front {front a b : List String} (ha : workflow.Orders (front ++ a))
    (hb : workflow.Orders (front ++ b)) (distinct : workflow.ids.Nodup) : a = b := by
  have hlen : a.length = b.length := by
    have := (ha.perm.trans hb.perm.symm).length_eq
    simpa using this
  induction a generalizing front b with
  | nil => simpa [eq_comm] using hlen
  | cons u a ih =>
    cases b with
    | nil => simp at hlen
    | cons v b =>
      have hu : u ∉ front := fun h =>
        (List.nodup_append.mp (ha.perm.nodup_iff.mpr distinct)).2.2 u h u (by simp) rfl
      have hv : v ∉ front := fun h =>
        (List.nodup_append.mp (hb.perm.nodup_iff.mpr distinct)).2.2 v h v (by simp) rfl
      have he : u = v := by
        by_contra hne
        -- Each order puts its own next node first, by ranks that both agree on.
        have hfirst := ha.next_first hu hv (hb.perm.mem_iff.mp (by simp)) hne
        have hsecond := hb.next_first hv hu (ha.perm.mem_iff.mp (by simp)) (Ne.symm hne)
        rw [ha.rank_append hu, hb.rank_append hv] at hfirst hsecond
        omega
      subst he
      have ha' : workflow.Orders ((front ++ [u]) ++ a) := by simpa using ha
      have hb' : workflow.Orders ((front ++ [u]) ++ b) := by simpa using hb
      rw [ih ha' hb' (by simpa using hlen)]

theorem unique {a b : List String} (ha : workflow.Orders a) (hb : workflow.Orders b)
    (distinct : workflow.ids.Nodup) : a = b :=
  eq_of_front (List.nil_append a ▸ ha) hb distinct

end Orders

end Workflow

namespace Executor

variable {executor : Executor} {workflow : Workflow} {id : Uuid} {trigger : Option (List Item)}
  {result : Result} {w w' : World}

/-- A run that completes has run the nodes as they are scheduled. -/
theorem order_eq_schedule
    (h : perform w (executor.execute id workflow trigger) = (.returned (.ok result), w')) :
    workflow.Sound ∧ result.order = workflow.schedule := by
  obtain ⟨sound, cast, ended, ha, hf, _⟩ := execute_returned h
  obtain ⟨_, hn⟩ := follow_finished hf
  refine ⟨sound, ?_⟩
  rw [Result.order, hn, idAt_of_assemble ha]
  rfl

/-- The order in which a completed run has run its nodes is fixed by the declared ids and by
which edges there are: no other run of such nodes and edges has a different one. -/
theorem completed_in_order
    (h : perform w (executor.execute id workflow trigger) = (.returned (.ok result), w')) :
    workflow.Orders result.order ∧
      ∀ (executor' : Executor) (id' : Uuid) (other : Workflow) (trigger' : Option (List Item))
        (v v' : World) (result' : Result), other.ids = workflow.ids →
        (∀ s d, other.Leads s d ↔ workflow.Leads s d) →
        perform v (executor'.execute id' other trigger') = (.returned (.ok result'), v') →
          result'.order = result.order := by
  obtain ⟨sound, ho⟩ := order_eq_schedule h
  rw [ho]
  refine ⟨sound.orders_schedule, ?_⟩
  intro executor' id' other trigger' v v' result' hids hedges h'
  obtain ⟨sound', ho'⟩ := order_eq_schedule h'
  rw [ho']
  have hother := sound'.orders_schedule.congr hids.symm fun s d => (hedges s d).symm
  exact hother.unique sound.orders_schedule sound.unique

end Executor

/-- Four nodes that are declared against the direction of their edges, two of which are parallel. -/
def Workflow.diamond : Workflow where
  id := "diamond"
  nodes := ["bottom", "right", "left", "top"].map fun id => { id, type := "debug.log" }
  edges :=
    [{ source := "left", destination := "bottom" }, { source := "top", destination := "left" },
      { source := "top", destination := "right", destinationPort := 1 },
      { source := "top", destination := "left" }, { source := "right", destination := "bottom" }]

/-- The diamond with every edge twice. -/
def Workflow.doubled : Workflow :=
  { diamond with edges := diamond.edges ++ diamond.edges.reverse }

theorem Workflow.diamond_run :
    ∃ result w',
      perform {} (Executor.execute { registry := Nodes.standard } ⟨0⟩ diamond none) =
        (.returned (.ok result), w') ∧ result.order = ["top", "right", "left", "bottom"] :=
  ⟨_, _, by cbv, by cbv⟩

theorem Executor.completed_in_order_diamond :
    ∃ result w',
      perform {} (Executor.execute { registry := Nodes.standard } ⟨0⟩ .diamond none) =
        (.returned (.ok result), w') ∧
      result.order = ["top", "right", "left", "bottom"] ∧ Workflow.diamond.Orders result.order ∧
      ∀ (executor : Executor) (id : Uuid) (trigger : Option (List Item)) (v v' : World)
        (other : Result),
        perform v (executor.execute id .doubled trigger) = (.returned (.ok other), v') →
          other.order = result.order := by
  obtain ⟨result, w', h, ho⟩ := Workflow.diamond_run
  obtain ⟨orders, same⟩ := completed_in_order h
  refine ⟨result, w', h, ho, orders, fun executor id trigger v v' other hr => ?_⟩
  have hedges (s d : String) : Workflow.doubled.Leads s d ↔ Workflow.diamond.Leads s d := by
    simp [Workflow.Leads, Workflow.doubled]
  exact same executor id .doubled trigger v v' other rfl hedges hr

end Conveyor
