import Conveyor.Workflow.Document
import Conveyor.Proofs.Reading

namespace Conveyor

/-- A parameter that a document holds as what it is: no literal in it looks like an expression. -/
inductive Parameter.Regular : Parameter → Prop
  | literal {fits : Number → Prop} {value : Json} (regular : value.Regular fits)
      (plain : ∀ text, value = .str text → text.toList.head? ≠ some '=') : Regular (.literal value)
  | expression (source : String) : Regular (.expression source)

structure RetryPolicy.Regular (policy : RetryPolicy) : Prop where
  attempts : policy.maxAttempts < 2 ^ 32
  delay : policy.delayMillis < 2 ^ 64
  multiplier : policy.backoffMultiplier.isFinite = true

structure Placed.Regular (node : Placed) : Prop where
  ascending : Table.Ascending node.parameters
  parameters : ∀ entry ∈ node.parameters, entry.2.Regular
  retries : ∀ policy, node.retryPolicy = some policy → policy.Regular

structure Edge.Regular (edge : Edge) : Prop where
  sourcePort : edge.sourcePort < 2 ^ 64
  destinationPort : edge.destinationPort < 2 ^ 64

structure Workflow.Regular (workflow : Workflow) : Prop where
  nodes : ∀ node ∈ workflow.nodes, node.Regular
  edges : ∀ edge ∈ workflow.edges, edge.Regular

namespace Tree

theorem list?_map {α : Type} {levels inner : Levels} {read : Levels → Tree → Option α}
    {write : α → Json} {entries : List α} {again : α → α} (hinner : enter levels = some inner)
    (h : ∀ entry ∈ entries, read inner (ofJson (write entry)) = some (again entry)) :
    list? levels read (ofJson (.arr (entries.map write))) = some (entries.map again) := by
  have hread : ((entries.map write).map ofJson).mapM (read inner) = some (entries.map again) := by
    rw [List.map_map, List.mapM_map]
    exact mapM_eq_some h
  rw [ofJson, ofItems_eq_map, list?, hinner]
  exact hread

theorem list?_arr {α : Type} {read : Levels → Tree → Option α} {write : α → Json} {entries : List α}
    (h : ∀ entry ∈ entries, read none (ofJson (write entry)) = some entry) :
    list? none read (ofJson (.arr (entries.map write))) = some entries := by
  have hread : list? none read (ofJson (.arr (entries.map write))) = some (entries.map id) :=
    list?_map rfl h
  rwa [List.map_id] at hread

theorem table?_obj {α : Type} {read : Levels → Tree → Option α} {write : α → Json}
    {entries : Table α} (ascending : entries.Ascending)
    (h : ∀ entry ∈ entries, read none (ofJson (write entry.2)) = some entry.2) :
    table? none read (ofJson (.obj (entries.mapValues write))) = some entries := by
  rw [ofJson, table?, ofFields_eq_map, Table.mapValues, List.map_map]
  simp only [enter, Option.bind_eq_bind, Option.bind_some]
  rw [List.mapM_map, mapM_eq_some (g := id), List.map_id, Option.bind_some,
    Table.ofList_of_ascending ascending]
  · rfl
  · intro entry hm
    simp [h entry hm]

end Tree

section Documents

theorem Parameter.Regular.ofTree?_toJson {parameter : Parameter} (h : parameter.Regular) :
    Parameter.ofTree? none (.ofJson parameter.toJson) = some parameter := by
  cases h with
  | @literal fits value regular plain =>
    have hread : (Tree.ofJson value).toJson? none = some value :=
      Tree.toJson?_ofJson regular trivial
    rw [Parameter.ofTree?, Parameter.toJson, hread]
    cases value with
    | str text =>
      have hplain := plain text rfl
      simp only [Option.map_eq_map, Option.map_some, Parameter.ofJson]
      split
      next hstart => simp [hstart] at hplain
      · rfl
    | null | bool | num | arr | obj => rfl
  | expression source =>
    simp [Parameter.ofTree?, Parameter.toJson, Tree.ofJson, Tree.toJson?, Parameter.ofJson]

theorem RetryPolicy.Regular.ofTree?_toJson {policy : RetryPolicy} (h : policy.Regular) :
    RetryPolicy.ofTree? none (.ofJson policy.toJson) = some policy := by
  rw [RetryPolicy.ofTree?, RetryPolicy.toJson, Json.real, if_pos h.multiplier,
    Tree.slots?_ofFields (by simp)]
  simp only [Tree.enter, List.map_cons, List.map_nil, Option.bind_eq_bind, Option.bind_some]
  simp [Table.get?, Json.nat, Tree.ofJson, Tree.unsigned?_int 32 h.attempts,
    Tree.unsigned?_int 64 h.delay, Tree.float?_real]

theorem Placed.Regular.ofTree?_toJson {node : Placed} (h : node.Regular) :
    Placed.ofTree? none (.ofJson node.toJson) = some node := by
  have hparameters := Tree.table?_obj h.ascending fun entry hm =>
    (h.parameters entry hm).ofTree?_toJson
  obtain ⟨id, type, parameters, retryPolicy⟩ := node
  cases retryPolicy with
  | none =>
    rw [Placed.ofTree?, Placed.toJson, Tree.slots?_ofFields (by simp)]
    simp [Tree.enter, Table.get?, hparameters]
  | some policy =>
    have hretries := (h.retries policy rfl).ofTree?_toJson
    have hwritten : (Tree.ofJson policy.toJson).isNull = false := rfl
    rw [Placed.ofTree?, Placed.toJson, Option.map_some]
    generalize policy.toJson = written at hretries hwritten ⊢
    rw [Tree.slots?_ofFields (by simp)]
    simp [Tree.enter, Table.get?, Tree.optional_some hwritten, hparameters, hretries]

theorem Edge.Regular.ofTree?_toJson {edge : Edge} (h : edge.Regular) :
    Edge.ofTree? none (.ofJson edge.toJson) = some edge := by
  rw [Edge.ofTree?, Edge.toJson, Tree.slots?_ofFields (by simp)]
  simp only [Tree.enter, List.map_cons, List.map_nil, Option.bind_eq_bind, Option.bind_some]
  simp [Table.get?, Json.nat, Tree.ofJson, Tree.string?,
    Tree.unsigned?_int 64 h.sourcePort, Tree.unsigned?_int 64 h.destinationPort]

theorem Workflow.Regular.ofJson?_toJson {workflow : Workflow} (h : workflow.Regular) :
    Workflow.ofJson? workflow.toJson = some workflow := by
  have hnodes := Tree.list?_arr fun node hm => (h.nodes node hm).ofTree?_toJson
  have hedges := Tree.list?_arr fun edge hm => (h.edges edge hm).ofTree?_toJson
  obtain ⟨id, name, nodes, edges⟩ := workflow
  cases name with
  | none =>
    rw [Workflow.ofJson?, Workflow.ofTree?, Workflow.toJson, Tree.slots?_ofFields (by simp)]
    simp [Tree.enter, Table.get?, hnodes, hedges]
  | some name =>
    rw [Workflow.ofJson?, Workflow.ofTree?, Workflow.toJson, Tree.slots?_ofFields (by simp)]
    simp [Tree.enter, Table.get?, hnodes, hedges]

end Documents

namespace Tree

variable {α : Type} {read : Tree → Option α} {slot : Option Tree} {value : α} {tree : Tree}
  {fits : Number → Prop} {levels : Levels}

theorem lt_of_unsigned? {width n : Nat} (h : unsigned? width tree = some n) : n < 2 ^ width := by
  unfold unsigned? at h
  split at h
  · split at h
    next hlt =>
      cases h
      rwa [Nat.shiftLeft_eq, Nat.one_mul] at hlt
    · cases h
  · cases h

theorem Holds.float {x : Float} (holds : tree.Holds Number.Finite) (h : float? tree = some x) :
    x.isFinite = true := by
  cases holds with
  | @num n fit =>
    cases n with
    | none => cases h
    | some n =>
      cases h
      exact fit n rfl
  | null | bool | str | arr | obj => cases h

theorem orElse_eq_some {absent : α} (h : orElse read absent slot = some value) :
    value = absent ∨ ∃ tree, slot = some tree ∧ read tree = some value := by
  cases slot with
  | none =>
    cases h
    exact .inl rfl
  | some tree => exact .inr ⟨tree, rfl, h⟩

theorem optional_eq_some (h : optional read slot = some (some value)) :
    ∃ tree, slot = some tree ∧ read tree = some value := by
  unfold optional at h
  split at h
  · cases h
  · cases h
  next tree _ =>
    obtain ⟨found, hfound, h⟩ := Option.map_eq_some_iff.mp h
    cases h
    exact ⟨tree, rfl, hfound⟩

theorem Holds.list {read : Levels → Tree → Option α} {entries : List α} {entry : α}
    (holds : tree.Holds fits) (h : list? levels read tree = some entries) (hm : entry ∈ entries) :
    ∃ inner part, part.Holds fits ∧ read inner part = some entry := by
  cases holds with
  | arr each =>
    obtain ⟨inner, -, h⟩ := Option.bind_eq_some_iff.mp h
    obtain ⟨part, hpart, hentry⟩ := exists_of_mapM h hm
    exact ⟨inner, part, each part hpart, hentry⟩
  | null | bool | num | str | obj => cases h

theorem Holds.table {read : Levels → Tree → Option α} {entries : Table α}
    (holds : tree.Holds fits) (h : table? levels read tree = some entries) :
    entries.Ascending ∧
      ∀ entry ∈ entries, ∃ inner part, part.Holds fits ∧ read inner part = some entry.2 := by
  cases holds with
  | obj each =>
    obtain ⟨inner, -, h⟩ := Option.bind_eq_some_iff.mp h
    obtain ⟨found, hfound, h⟩ := Option.bind_eq_some_iff.mp h
    cases h
    refine ⟨Table.ascending_ofList found, fun entry hm => ?_⟩
    obtain ⟨field, hfield, h⟩ := exists_of_mapM hfound (Table.mem_ofList hm)
    obtain ⟨name, -, h⟩ := Option.bind_eq_some_iff.mp h
    obtain ⟨value, hvalue, h⟩ := Option.bind_eq_some_iff.mp h
    cases h
    exact ⟨inner, field.2, each field hfield, hvalue⟩
  | null | bool | num | str | arr => cases h

end Tree

section Reading

variable {tree : Tree} {levels : Tree.Levels} {text : String}

theorem Json.Regular.ofJson {fits : Number → Prop} {json : Json} (h : json.Regular fits) :
    (Parameter.ofJson json).Regular := by
  unfold Parameter.ofJson
  split
  · split
    · exact .expression _
    next hplain =>
      refine .literal h fun text htext => ?_
      cases htext
      intro hstart
      obtain ⟨source, hsource⟩ := List.head?_eq_some_iff.mp hstart
      exact hplain source hsource
  next hother =>
    exact .literal h fun text htext => absurd htext (hother text)

theorem Parameter.regular_of_ofTree? {parameter : Parameter} (holds : tree.Holds Number.Finite)
    (h : Parameter.ofTree? levels tree = some parameter) : parameter.Regular := by
  obtain ⟨json, hjson, rfl⟩ := Option.map_eq_some_iff.mp h
  exact (holds.regular hjson).ofJson

theorem RetryPolicy.isFinite_one : (1.0 : Float).isFinite = true := by
  rfl

theorem RetryPolicy.regular_of_ofTree? {policy : RetryPolicy} (holds : tree.Holds Number.Finite)
    (h : RetryPolicy.ofTree? levels tree = some policy) : policy.Regular := by
  obtain ⟨inner, -, h⟩ := Option.bind_eq_some_iff.mp h
  obtain ⟨slots, hslots, h⟩ := Option.bind_eq_some_iff.mp h
  split at h
  next hgiven =>
    obtain ⟨attempts, hattempts, h⟩ := Option.bind_eq_some_iff.mp h
    obtain ⟨delay, hdelay, h⟩ := Option.bind_eq_some_iff.mp h
    obtain ⟨multiplier, hmultiplier, h⟩ := Option.bind_eq_some_iff.mp h
    cases h
    obtain ⟨_, -, hattempts⟩ := Option.bind_eq_some_iff.mp hattempts
    obtain ⟨_, -, hdelay⟩ := Option.bind_eq_some_iff.mp hdelay
    refine ⟨Tree.lt_of_unsigned? hattempts, Tree.lt_of_unsigned? hdelay, ?_⟩
    rcases Tree.orElse_eq_some hmultiplier with rfl | ⟨part, rfl, hpart⟩
    · exact isFinite_one
    · exact (holds.slot hslots (by simp [hgiven])).float hpart
  · cases h

theorem Placed.regular_of_ofTree? {node : Placed} (holds : tree.Holds Number.Finite)
    (h : Placed.ofTree? levels tree = some node) : node.Regular := by
  obtain ⟨inner, -, h⟩ := Option.bind_eq_some_iff.mp h
  obtain ⟨slots, hslots, h⟩ := Option.bind_eq_some_iff.mp h
  split at h
  next hgiven =>
    obtain ⟨id, -, h⟩ := Option.bind_eq_some_iff.mp h
    obtain ⟨type, -, h⟩ := Option.bind_eq_some_iff.mp h
    obtain ⟨parameters, hparameters, h⟩ := Option.bind_eq_some_iff.mp h
    obtain ⟨retryPolicy, hretries, h⟩ := Option.bind_eq_some_iff.mp h
    cases h
    have hpart {part : Tree} (hm : some part ∈ slots.given) : part.Holds Number.Finite :=
      holds.slot hslots hm
    rw [hgiven] at hpart
    have htable : parameters.Ascending ∧ ∀ entry ∈ parameters, entry.2.Regular := by
      rcases Tree.orElse_eq_some hparameters with rfl | ⟨part, rfl, hread⟩
      · exact ⟨trivial, nofun⟩
      · obtain ⟨ascending, each⟩ := (hpart (by simp)).table hread
        refine ⟨ascending, fun entry hm => ?_⟩
        obtain ⟨_, _, holds, hentry⟩ := each entry hm
        exact Parameter.regular_of_ofTree? holds hentry
    refine ⟨htable.1, htable.2, fun policy hpolicy => ?_⟩
    cases hpolicy
    obtain ⟨part, rfl, hread⟩ := Tree.optional_eq_some hretries
    exact RetryPolicy.regular_of_ofTree? (hpart (by simp)) hread
  · cases h

theorem Edge.regular_of_ofTree? {edge : Edge} (h : Edge.ofTree? levels tree = some edge) :
    edge.Regular := by
  have port {slot : Option Tree} {n : Nat} (h : Tree.orElse (Tree.unsigned? 64) 0 slot = some n) :
      n < 2 ^ 64 := by
    rcases Tree.orElse_eq_some h with rfl | ⟨part, rfl, hpart⟩
    · exact Nat.two_pow_pos 64
    · exact Tree.lt_of_unsigned? hpart
  obtain ⟨inner, -, h⟩ := Option.bind_eq_some_iff.mp h
  obtain ⟨slots, -, h⟩ := Option.bind_eq_some_iff.mp h
  split at h
  · obtain ⟨source, -, h⟩ := Option.bind_eq_some_iff.mp h
    obtain ⟨sourcePort, hsource, h⟩ := Option.bind_eq_some_iff.mp h
    obtain ⟨destination, -, h⟩ := Option.bind_eq_some_iff.mp h
    obtain ⟨destinationPort, hdestination, h⟩ := Option.bind_eq_some_iff.mp h
    cases h
    exact ⟨port hsource, port hdestination⟩
  · cases h

theorem Workflow.regular_of_ofTree? {workflow : Workflow} (holds : tree.Holds Number.Finite)
    (h : Workflow.ofTree? levels tree = some workflow) : workflow.Regular := by
  obtain ⟨inner, -, h⟩ := Option.bind_eq_some_iff.mp h
  obtain ⟨slots, hslots, h⟩ := Option.bind_eq_some_iff.mp h
  split at h
  next hgiven =>
    obtain ⟨id, -, h⟩ := Option.bind_eq_some_iff.mp h
    obtain ⟨name, -, h⟩ := Option.bind_eq_some_iff.mp h
    obtain ⟨nodes, hnodes, h⟩ := Option.bind_eq_some_iff.mp h
    obtain ⟨edges, hedges, h⟩ := Option.bind_eq_some_iff.mp h
    cases h
    have hpart {part : Tree} (hm : some part ∈ slots.given) : part.Holds Number.Finite :=
      holds.slot hslots hm
    rw [hgiven] at hpart
    refine ⟨fun node hm => ?_, fun edge hm => ?_⟩
    · rcases Tree.orElse_eq_some hnodes with rfl | ⟨part, rfl, hread⟩
      · cases hm
      · obtain ⟨_, _, holds, hnode⟩ := (hpart (by simp)).list hread hm
        exact Placed.regular_of_ofTree? holds hnode
    · rcases Tree.orElse_eq_some hedges with rfl | ⟨part, rfl, hread⟩
      · cases hm
      · obtain ⟨_, _, -, hedge⟩ := (hpart (by simp)).list hread hm
        exact Edge.regular_of_ofTree? hedge
  · cases h

theorem Workflow.regular_of_ofText {workflow : Workflow} (h : Workflow.ofText text = .ok workflow) :
    workflow.Regular := by
  unfold Workflow.ofText at h
  split at h
  next hread =>
    cases h
    obtain ⟨tree, htree, hread⟩ := Option.bind_eq_some_iff.mp hread
    exact regular_of_ofTree? (Tree.ofBytes?_holds htree) hread
  · cases h

end Reading

section Building

/-- A node that is placed by hand. -/
inductive Placed.Built : Placed → Prop
  | new (id type : String) : Built { id, type }
  | withParameter {node : Placed} (built : Built node) (name : String) {value : Parameter}
      (regular : value.Regular) : Built (node.withParameter name value)
  | withRetry {node : Placed} (built : Built node) {maxAttempts delayMillis : Nat}
      (attempts : maxAttempts < 2 ^ 32) (delay : delayMillis < 2 ^ 64) :
      Built (node.withRetry maxAttempts delayMillis)

/-- A workflow that is put together by hand rather than read. -/
inductive Workflow.Built : Workflow → Prop
  | new (id : String) : Built { id }
  | withName {workflow : Workflow} (built : Built workflow) (name : String) :
      Built (workflow.withName name)
  | addNode {workflow : Workflow} (built : Built workflow) {node : Placed} (placed : node.Built) :
      Built (workflow.addNode node)
  | addEdge {workflow : Workflow} (built : Built workflow) {edge : Edge} (ports : edge.Regular) :
      Built (workflow.addEdge edge)

theorem Placed.Built.regular {node : Placed} (h : node.Built) : node.Regular := by
  induction h with
  | new id type => exact ⟨trivial, nofun, nofun⟩
  | withParameter built name regular ih =>
    refine ⟨Table.ascending_insert ih.ascending, fun entry hm => ?_, ih.retries⟩
    rcases Table.mem_insert hm with rfl | hm
    · exact regular
    · exact ih.parameters entry hm
  | withRetry built attempts delay ih =>
    refine ⟨ih.ascending, ih.parameters, fun policy hpolicy => ?_⟩
    cases hpolicy
    exact ⟨attempts, delay, RetryPolicy.isFinite_one⟩

theorem Workflow.Built.regular {workflow : Workflow} (h : workflow.Built) : workflow.Regular := by
  induction h with
  | new id => exact ⟨nofun, nofun⟩
  | withName built name ih => exact ⟨ih.nodes, ih.edges⟩
  | addNode built placed ih =>
    refine ⟨fun node hm => ?_, ih.edges⟩
    rcases List.mem_append.mp hm with hm | hm
    · exact ih.nodes node hm
    · cases List.mem_singleton.mp hm
      exact placed.regular
  | addEdge built ports ih =>
    refine ⟨ih.nodes, fun edge hm => ?_⟩
    rcases List.mem_append.mp hm with hm | hm
    · exact ih.edges edge hm
    · cases List.mem_singleton.mp hm
      exact ports

end Building

/-- Whether it was read from a text or put together by hand, a workflow is the one that its
document describes. -/
theorem Workflow.survives_document {workflow : Workflow}
    (origin : (∃ text, Workflow.ofText text = .ok workflow) ∨ workflow.Built) :
    Workflow.ofJson? workflow.toJson = some workflow := by
  obtain ⟨text, h⟩ | built := origin
  · exact (regular_of_ofText h).ofJson?_toJson
  · exact built.regular.ofJson?_toJson

/-- A document that leaves out what it may, with a literal, and with an expression that itself
starts with an equals sign. -/
def Workflow.sketch : String :=
  "\x7b\"id\":\"w\",\"nodes\":[\x7b\"id\":\"a\",\"type\":\"t\",\"parameters\":" ++
    "\x7b\"y\":\"==1\",\"x\":[1,2.5]\x7d,\"retry_policy\":" ++
    "\x7b\"max_attempts\":3,\"delay_ms\":10,\"backoff_multiplier\":2\x7d\x7d]\x7d"

/-- A workflow of one node that feeds itself, put together by hand. -/
def Workflow.handmade : Workflow :=
  (({ id := "w" } : Workflow).withName "by hand").addNode
      ((Placed.withParameter "x" (.expression "=1") { id := "a", type := "t" }).withRetry 3 10)
    |>.addEdge { source := "a", destination := "a", destinationPort := 1 }

theorem Workflow.handmade_built : Workflow.handmade.Built := by
  refine .addEdge (.addNode (.withName (.new "w") "by hand") ?_) ⟨by decide, by decide⟩
  exact .withRetry (.withParameter (.new "a" "t") "x" (.expression "=1")) (by decide) (by decide)

theorem Workflow.survives_document_sketch :
    (∃ workflow, Workflow.ofText sketch = .ok workflow ∧
        Workflow.ofJson? workflow.toJson = some workflow) ∧
      Workflow.ofJson? handmade.toJson = some handmade := by
  refine ⟨?_, survives_document (.inr handmade_built)⟩
  have hread : (Workflow.ofText sketch).isOk = true := by decide +kernel
  cases h : Workflow.ofText sketch with
  | error e =>
    rw [h] at hread
    cases hread
  | ok workflow => exact ⟨workflow, rfl, survives_document (.inl ⟨sketch, h⟩)⟩

end Conveyor
