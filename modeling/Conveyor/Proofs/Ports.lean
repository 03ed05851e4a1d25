import Conveyor.Executor

namespace Conveyor

/-- What an edge carries, out of given outputs. An output that is not there carries nothing. -/
def Edge.carried (outputs : Table Ports) (edge : Edge) : List Item :=
  ((outputs.get? edge.source).bind (·[edge.sourcePort]?)).getD []

namespace Ports

variable {ports grown filled merged : Ports} {port p count : Nat} {items : List Item}

theorem eq_map_on (ports : Ports) : ports = (List.range ports.length).map ports.on := by
  apply List.ext_getElem
  · simp
  · intro p hp hq
    simp [on, List.getD_eq_getElem?_getD, hp]

theorem mem_all_iff {item : Item} : item ∈ ports.all ↔ ∃ port, item ∈ ports.on port := by
  constructor
  · intro h
    obtain ⟨items, hm, hi⟩ := List.mem_flatten.mp h
    obtain ⟨port, hp⟩ := List.mem_iff_getElem?.mp hm
    refine ⟨port, ?_⟩
    rw [on, List.getD_eq_getElem?_getD, hp]
    exact hi
  · rintro ⟨port, h⟩
    rw [on, List.getD_eq_getElem?_getD] at h
    cases hp : ports[port]? with
    | none => simp [hp] at h
    | some items =>
      rw [hp] at h
      exact List.mem_flatten.mpr ⟨items, List.mem_of_getElem? hp, h⟩

theorem foldl_max_le_iff {α : Type} {f : α → Nat} {entries : List α} {least bound : Nat} :
    entries.foldl (fun count entry => max count (f entry)) least ≤ bound ↔
      least ≤ bound ∧ ∀ entry ∈ entries, f entry ≤ bound := by
  induction entries generalizing least with
  | nil => simp
  | cons entry rest ih => rw [List.foldl_cons, ih, List.forall_mem_cons, Nat.max_le, and_assoc]

theorem capacity_pos : 0 < capacity := by decide

theorem blank_eq_none_iff : blank count = none ↔ capacity < count := by
  have := capacity_pos
  simp only [blank, ite_eq_right_iff, reduceCtorEq, imp_false]
  omega

theorem eq_of_blank (h : blank count = some ports) : ports = List.replicate (max count 1) [] :=
  (Option.some.inj (Option.ite_none_right_eq_some.mp h).2).symm

theorem length_of_blank (h : blank count = some ports) : ports.length = max count 1 := by
  rw [eq_of_blank h, List.length_replicate]

theorem fits_of_blank (h : blank count = some ports) : ports.length ≤ capacity :=
  length_of_blank h ▸ (Option.ite_none_right_eq_some.mp h).1

theorem on_replicate (count p : Nat) : on p (List.replicate count []) = [] := by
  rw [on, List.getD_eq_getElem?_getD, List.getElem?_replicate]
  split <;> rfl

theorem on_of_blank (h : blank count = some ports) (p : Nat) : ports.on p = [] := by
  rw [eq_of_blank h, on_replicate]

/-- There is no room for a port if there are too many up to it. -/
theorem reach_eq_none_iff (fits : ports.length ≤ capacity) :
    ports.reach port = none ↔ capacity ≤ port := by
  unfold reach resize
  split
  · rw [ite_eq_right_iff]
    simp only [reduceCtorEq, imp_false]
    omega
  · simp only [reduceCtorEq, false_iff]
    omega

theorem reach_eq_some (h : ports.reach port = some grown) :
    grown = ports ++ List.replicate (port + 1 - ports.length) [] := by
  unfold reach at h
  split at h
  · rw [← Option.some.inj (Option.ite_none_right_eq_some.mp h).2, List.take_of_length_le (by omega)]
  · have hz : port + 1 - ports.length = 0 := by omega
    rw [← Option.some.inj h, hz, List.replicate_zero, List.append_nil]

theorem length_of_reach (h : ports.reach port = some grown) :
    grown.length = max ports.length (port + 1) := by
  rw [reach_eq_some h, List.length_append, List.length_replicate]
  omega

/-- The ports that are added have nothing on them. -/
theorem on_of_reach (h : ports.reach port = some grown) (p : Nat) : grown.on p = ports.on p := by
  rw [reach_eq_some h]
  simp only [on, List.getD_eq_getElem?_getD]
  rcases Nat.lt_or_ge p ports.length with hp | hp
  · rw [List.getElem?_append_left hp]
  · rw [List.getElem?_append_right hp, List.getElem?_replicate, List.getElem?_eq_none hp]
    split <;> rfl

theorem put_eq (h : port < ports.length) (items : List Item) :
    ∃ filled, ports.put port items = some filled ∧ filled.length = ports.length ∧
      ∀ p, filled.on p = ports.on p ++ if port = p then items else [] := by
  refine ⟨ports.modify port (· ++ items), if_pos h, by simp, fun p => ?_⟩
  simp only [on, List.getD_eq_getElem?_getD, List.getElem?_modify]
  by_cases hp : port = p
  · subst hp
    simp [h]
  · simp [hp]

/-- Where a port is reached, items can be put there. -/
theorem append_of_reach (h : ports.reach port = some grown) (items : List Item) :
    ∃ filled, ports.append port items = some filled ∧ grown.put port items = some filled ∧
      filled.length = max ports.length (port + 1) ∧
      ∀ p, filled.on p = ports.on p ++ if port = p then items else [] := by
  have hlen := length_of_reach h
  have room : port < grown.length := by omega
  obtain ⟨filled, hf, hl, hon⟩ := put_eq room items
  refine ⟨filled, ?_, hf, hl.trans hlen, fun p => by rw [hon, on_of_reach h]⟩
  rw [append, h, Option.bind_some, hf]

theorem append_eq_none_iff (fits : ports.length ≤ capacity) :
    ports.append port items = none ↔ capacity ≤ port := by
  rw [← reach_eq_none_iff fits]
  cases hr : ports.reach port with
  | none => simp [append, hr]
  | some grown =>
    obtain ⟨filled, hf, -⟩ := append_of_reach hr items
    simp [hf]

/-- Items are added to one port, and none of the ports is lost in making room for it. -/
theorem append_eq_some (h : ports.append port items = some filled) :
    filled.length = max ports.length (port + 1) ∧
      ∀ p, filled.on p = ports.on p ++ if port = p then items else [] := by
  cases hr : ports.reach port with
  | none => simp [append, hr] at h
  | some grown =>
    obtain ⟨_, hf, -, hlen, hon⟩ := append_of_reach hr items
    cases h.symm.trans hf
    exact ⟨hlen, hon⟩

section Merging

variable {outputs : Finished} {edge : Edge} {edges : List Edge}

theorem put_nil (h : port < ports.length) : ports.put port [] = some ports := by
  have same : (· ++ []) = (id : List Item → List Item) := funext List.append_nil
  rw [put, if_pos h, same, List.modify_id]

/-- An edge adds what it carries to the port it leads to. -/
theorem merge_cons (outputs : Finished) (edge : Edge) (edges : List Edge) (ports : Ports) :
    merge outputs (edge :: edges) ports =
      (ports.append edge.destinationPort (edge.carried outputs)).bind (merge outputs edges) := by
  rw [merge, append, Edge.carried]
  cases hr : ports.reach edge.destinationPort with
  | none => rfl
  | some grown =>
    have room : edge.destinationPort < grown.length := by
      have := length_of_reach hr
      omega
    cases (Table.get? edge.source outputs).bind (·[edge.sourcePort]?) with
    | none =>
      simp [put_nil room]
    | some items => rfl

theorem fits_of_append (fits : ports.length ≤ capacity)
    (h : ports.append port items = some filled) : filled.length ≤ capacity := by
  have hne : ports.append port items ≠ none := by simp [h]
  rw [Ne, append_eq_none_iff fits] at hne
  have := (append_eq_some h).1
  omega

/-- Merging breaks down if an edge leads to a port there is no room for, and only then. -/
theorem merge_eq_none_iff (fits : ports.length ≤ capacity) :
    merge outputs edges ports = none ↔ ∃ edge ∈ edges, capacity ≤ edge.destinationPort := by
  induction edges generalizing ports with
  | nil => simp [merge]
  | cons edge rest ih =>
    simp only [merge_cons, List.mem_cons, exists_eq_or_imp]
    cases ha : ports.append edge.destinationPort (edge.carried outputs) with
    | none => simp [(append_eq_none_iff fits).mp ha]
    | some filled =>
      have hne : ports.append edge.destinationPort (edge.carried outputs) ≠ none := by simp [ha]
      rw [Ne, append_eq_none_iff fits] at hne
      rw [Option.bind_some, ih (fits_of_append fits ha)]
      simp [hne]

/-- Merging loses, repeats and reorders nothing: behind what a port held come, in the order of the
edges to it, the items that each of them carries. -/
theorem merge_eq_some (h : merge outputs edges ports = some merged) :
    merged.length =
        edges.foldl (fun count edge => max count (edge.destinationPort + 1)) ports.length ∧
      ∀ p, merged.on p =
        ports.on p ++ (edges.filter (·.destinationPort = p)).flatMap (Edge.carried outputs) := by
  induction edges generalizing ports with
  | nil =>
    cases h
    exact ⟨rfl, by simp⟩
  | cons edge rest ih =>
    rw [merge_cons] at h
    obtain ⟨filled, ha, h⟩ := Option.bind_eq_some_iff.mp h
    obtain ⟨hlen, hon⟩ := append_eq_some ha
    obtain ⟨hlens, hons⟩ := ih h
    refine ⟨by rw [hlens, hlen]; rfl, fun p => ?_⟩
    rw [hons, hon, List.filter_cons]
    by_cases hp : edge.destinationPort = p
    · simp [hp]
    · simp [hp]

end Merging

end Ports

namespace Workflow

/-- The items that edges bring to a port of a node, edge by edge in declared order. -/
def inflow (workflow : Workflow) (outputs : Table Ports) (id : String) (port : Nat) : List Item :=
  (workflow.edges.filter fun edge => edge.destination = id ∧ edge.destinationPort = port).flatMap
    (Edge.carried outputs)

/-- How many input ports a node has: as many as it declares, at least one, and enough for every
edge that leads to it. -/
def portCount (workflow : Workflow) (declared : Nat) (id : String) : Nat :=
  (workflow.edges.filter (·.destination = id)).foldl
    (fun count edge => max count (edge.destinationPort + 1)) (max declared 1)

/-- There is room for all ports of a node if there is for those it declares and for every one that
an edge leads to. -/
theorem portCount_le_capacity_iff {workflow : Workflow} {declared : Nat} {id : String} :
    workflow.portCount declared id ≤ Ports.capacity ↔ declared ≤ Ports.capacity ∧
      ∀ edge ∈ workflow.edges, edge.destination = id → edge.destinationPort < Ports.capacity := by
  have hpos := Ports.capacity_pos
  have hmax : max declared 1 ≤ Ports.capacity ↔ declared ≤ Ports.capacity := by omega
  rw [portCount, Ports.foldl_max_le_iff, hmax]
  simp only [List.mem_filter, decide_eq_true_eq, and_imp, Nat.succ_le_iff]

end Workflow

namespace Ports

variable {workflow : Workflow} {id : String} {declared : Nat} {outputs : Finished} {given : Ports}

/-- What a node is given is, port by port, what the edges to it carry. -/
theorem collect_eq_some (h : collect workflow id declared outputs = some given) :
    given = (List.range (workflow.portCount declared id)).map (workflow.inflow outputs id) := by
  obtain ⟨blanks, hb, hm⟩ := Option.bind_eq_some_iff.mp h
  obtain ⟨hlen, hon⟩ := merge_eq_some hm
  have hall : given.on = workflow.inflow outputs id := by
    funext p
    rw [hon, on_of_blank hb, List.nil_append, List.filter_filter, Workflow.inflow]
    simp only [Bool.decide_and, Bool.and_comm]
  rw [given.eq_map_on, hall, hlen, length_of_blank hb]
  rfl

/-- Merging breaks down where there is no room for all ports of a node. -/
theorem collect_eq_none_iff :
    collect workflow id declared outputs = none ↔ capacity < workflow.portCount declared id := by
  rw [← Nat.not_le, Workflow.portCount_le_capacity_iff, collect]
  cases hb : blank declared with
  | none =>
    have wide := blank_eq_none_iff.mp hb
    exact iff_of_true rfl fun room => Nat.not_lt.mpr room.1 wide
  | some blanks =>
    have room : declared ≤ capacity := by
      refine Nat.le_of_not_lt fun wide => ?_
      cases hb.symm.trans (blank_eq_none_iff.mpr wide)
    rw [Option.bind_some, merge_eq_none_iff (fits_of_blank hb)]
    simp [room, and_assoc]

end Ports

namespace Executor

variable {workflow : Workflow} {plan : Plan} {trigger : List Item} {position : Nat}
  {placed : Placed} {node : Node} {finished : Finished} {given : Ports}

theorem inputs_eq_some
    (h : inputs workflow plan trigger position placed node finished = some given) :
    given = if plan.isStart position then [trigger] else
      (List.range (workflow.portCount node.description.inputs placed.id)).map
        (workflow.inflow finished placed.id) := by
  unfold inputs at h
  split at h
  · rw [if_pos ‹_›]
    exact (Option.some.inj h).symm
  · rw [if_neg ‹_›]
    exact Ports.collect_eq_some h

/-- There is always room for the trigger. -/
theorem inputs_eq_none_iff :
    inputs workflow plan trigger position placed node finished = none ↔
      ¬plan.isStart position ∧
        Ports.capacity < workflow.portCount node.description.inputs placed.id := by
  unfold inputs
  split
  · simp [*]
  · simp [*, Ports.collect_eq_none_iff]

end Executor

end Conveyor
