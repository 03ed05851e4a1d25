import Conveyor.Proofs.Order
import Conveyor.Proofs.Ports
import Conveyor.Proofs.Table

namespace Conveyor
open RunWork

namespace Workflow

/-- What a node is run on, given the outputs of a whole run: the trigger items, or one empty item
where there is no trigger, if no edge leads to the node; else what its edges carry. -/
def intake (workflow : Workflow) (trigger : Option (List Item)) (outputs : Table Ports)
    (declared : Nat) (id : String) : Ports :=
  if ∀ edge ∈ workflow.edges, edge.destination ≠ id then [trigger.getD [.empty]]
  else (List.range (workflow.portCount declared id)).map (workflow.inflow outputs id)

variable {workflow : Workflow}

/-- Only the outputs of the nodes that edges lead from to a node matter to it. -/
theorem inflow_congr {outputs outputs' : Table Ports} {id : String}
    (h : ∀ edge ∈ workflow.edges, edge.destination = id →
      outputs.get? edge.source = outputs'.get? edge.source) :
    workflow.inflow outputs id = workflow.inflow outputs' id := by
  funext port
  apply List.flatMap_congr
  intro edge he
  obtain ⟨hm, hp⟩ := List.mem_filter.mp he
  rw [Edge.carried, Edge.carried, h edge hm (of_decide_eq_true hp).1]

/-- The start nodes are those that no edge leads to. -/
theorem graph_isStart_iff (joined : ∀ edge ∈ workflow.edges, edge.Joins workflow.ids)
    {id : String} (hid : id ∈ workflow.ids) :
    workflow.graph.isStart (workflow.ids.idxOf id) = true ↔
      ∀ edge ∈ workflow.edges, edge.destination ≠ id := by
  have hp : workflow.ids.idxOf id < workflow.graph.size := List.idxOf_lt_length_of_mem hid
  have hd : workflow.graph.inDegree (workflow.ids.idxOf id) = 0 ↔
      ¬∃ u, workflow.graph.Leads u (workflow.ids.idxOf id) := by
    rw [← Plan.inDegree_pos_iff, Nat.pos_iff_ne_zero, not_not]
  simp only [Plan.isStart, hp, decide_true, Bool.true_and, decide_eq_true_eq, hd, graph_leads_iff]
  constructor
  · intro h edge he hdest
    exact h ⟨_, edge, he, rfl, by rw [hdest]⟩
  · intro h hex
    obtain ⟨_, edge, he, _, hdest⟩ := hex
    exact h edge he ((List.idxOf_inj (joined edge he).2).mp hdest)

end Workflow

namespace Executor

variable {executor : Executor} {workflow : Workflow} {plan : Plan} {cast : List (Placed × Node)}
  {id : Uuid} {trigger : List Item} {finished after final : Finished} {w w' : World}

/-- A call of the node at a position, with what it is given of what is finished. -/
def Given (workflow : Workflow) (plan : Plan) (trigger : List Item) (cast : List (Placed × Node))
    (position : Nat) (finished : Finished) (call : Call) : Prop :=
  ∃ placed node, cast[position]? = some (placed, node) ∧ call.node = placed.id ∧
    inputs workflow plan trigger position placed node finished = some call.inputs

/-- In its turn a node is set up once, and all calls of its code are made with the same inputs. -/
theorem turn_calls {position : Nat}
    (h : perform w (executor.turn id workflow plan trigger cast position finished) =
      (.returned (.ok after), w')) :
    ((w.callsSince w').filter Call.isSetup).map Call.node = [idAt cast position] ∧
      ∀ call ∈ w.callsSince w', Given workflow plan trigger cast position finished call := by
  obtain ⟨placed, node, given, output, between, hm, hg, hr, rfl, _⟩ := turn_returned h
  obtain ⟨attempts, hc, ha⟩ := node_calls hr
  have hcalls : w.callsSince (between.told (.nodeFinished placed.id placed.type output
      !output.anyError)) = .setup placed.id given :: attempts := by
    have hb := later_of_perform hr
    have ht := World.Later.told between
      (.nodeFinished placed.id placed.type output !output.anyError)
    rw [(World.Later.moment w).callsSince_trans (hb.trans ht), hb.callsSince_trans ht,
      (World.Later.moment w).callsSince_eq_nil (World.calls_moment w),
      ht.callsSince_eq_nil (World.calls_told between _), hc]
    simp [context]
  rw [hcalls]
  have hnone : attempts.filter Call.isSetup = [] := by
    rw [List.filter_eq_nil_iff]
    intro call hm
    obtain ⟨index, number, rfl⟩ := ha call hm
    simp [Call.isSetup]
  refine ⟨?_, ?_⟩
  · rw [List.filter_cons_of_pos rfl, hnone, idAt_eq hm]
    rfl
  · intro call hcall
    rcases List.mem_cons.mp hcall with rfl | hcall
    · exact ⟨placed, node, hm, rfl, hg⟩
    · obtain ⟨index, number, rfl⟩ := ha call hcall
      exact ⟨placed, node, hm, rfl, hg⟩

/-- Every call of a run of nodes falls into the turn of a position, with what the positions before
it have put out. -/
theorem follow_calls {positions : List Nat}
    (h : perform w (executor.follow id workflow plan trigger cast positions finished) =
      (.returned (.ok final), w')) :
    ((w.callsSince w').filter Call.isSetup).map Call.node = positions.map (idAt cast) ∧
      ∀ call ∈ w.callsSince w', ∃ front position rest done, positions = front ++ position :: rest ∧
        done <+: final ∧ done.map Prod.fst = finished.map Prod.fst ++ front.map (idAt cast) ∧
        Given workflow plan trigger cast position done call := by
  induction positions generalizing w finished with
  | nil =>
    cases h
    simp
  | cons position rest ih =>
    obtain ⟨after, between, ht, hf⟩ := follow_returned_cons h
    obtain ⟨hsetup, hcalls⟩ := turn_calls ht
    obtain ⟨hsetups, hrest⟩ := ih hf
    obtain ⟨placed, node, _, output, _, hm, _, _, _, hafter⟩ := turn_returned ht
    have hprefix : finished <+: final :=
      (hafter ▸ List.prefix_append _ _).trans (follow_finished hf).1
    rw [(later_of_perform ht).callsSince_trans (later_of_perform hf)]
    refine ⟨by simp [List.filter_append, hsetup, hsetups], ?_⟩
    intro call hcall
    rcases List.mem_append.mp hcall with hcall | hcall
    · exact ⟨[], position, rest, finished, rfl, hprefix, by simp, hcalls call hcall⟩
    · obtain ⟨front, p, back, done, hpos, hdone, hnames, hgiven⟩ := hrest call hcall
      refine ⟨position :: front, p, back, done, by rw [hpos]; rfl, hdone, ?_, hgiven⟩
      rw [hnames, hafter]
      simp [idAt_eq hm]

/-- What is looked up while a run goes on is what is found when it is over. -/
theorem get?_of_prefix {done : Finished} (hp : done <+: final) (unique : (final.map Prod.fst).Nodup)
    {name : String} (hn : name ∈ done.map Prod.fst) :
    Table.get? name done = (Table.ofList final).get? name := by
  obtain ⟨later, rfl⟩ := hp
  rw [Table.get?_ofList unique, Table.get?_append]
  cases hg : Table.get? name done with
  | none => exact absurd hn (Table.get?_eq_none_iff.mp hg)
  | some output => rfl

theorem mem_ids_of_cast (assembled : assemble executor.registry workflow.nodes = .ok cast)
    {position : Nat} {placed : Placed} {node : Node} (hm : cast[position]? = some (placed, node)) :
    placed.id ∈ workflow.ids :=
  List.mem_map_of_mem ((assemble_eq_ok assembled).1 ▸
    List.mem_map_of_mem (List.mem_of_getElem? hm))

/-- The members of a cast stand where their nodes are declared. -/
theorem idxOf_of_cast (sound : workflow.Sound)
    (assembled : assemble executor.registry workflow.nodes = .ok cast) {position : Nat}
    {placed : Placed} {node : Node} (hm : cast[position]? = some (placed, node)) :
    workflow.ids.idxOf placed.id = position := by
  have hlt : position < workflow.ids.length := by
    obtain ⟨hlt, _⟩ := List.getElem?_eq_some_iff.mp hm
    rwa [Workflow.ids, List.length_map, ← (assemble_eq_ok assembled).1, List.length_map]
  have hid := mem_ids_of_cast assembled hm
  apply Workflow.getD_inj sound.unique (List.idxOf_lt_length_of_mem hid) hlt
  rw [Workflow.getD_idxOf hid, ← idAt_eq hm, idAt_of_assemble assembled]

/-- When the turn of a position comes its node is not finished, but all that leads to it is. -/
theorem ready_of_turn (sound : workflow.Sound)
    (assembled : assemble executor.registry workflow.nodes = .ok cast) {front rest : List Nat}
    {position : Nat} {done : Finished} (turn : workflow.graph.schedule = front ++ position :: rest)
    (names : done.map Prod.fst = front.map (idAt cast)) {placed : Placed} {node : Node}
    (hm : cast[position]? = some (placed, node)) :
    workflow.ids.idxOf placed.id = position ∧ placed.id ∉ done.map Prod.fst ∧
      ∀ edge ∈ workflow.edges, edge.destination = placed.id → edge.source ∈ done.map Prod.fst := by
  have hat := idAt_of_assemble assembled
  have horders : workflow.Orders (done.map Prod.fst ++ placed.id :: rest.map (idAt cast)) := by
    have hschedule := sound.orders_schedule
    rw [Workflow.schedule, ← hat, turn, List.map_append, List.map_cons, idAt_eq hm] at hschedule
    rwa [names]
  have hfresh : placed.id ∉ done.map Prod.fst := by
    intro hin
    have hnodup := horders.perm.nodup_iff.mpr sound.unique
    exact (List.nodup_append.mp hnodup).2.2 _ hin placed.id (by simp) rfl
  refine ⟨idxOf_of_cast sound assembled hm, hfresh, fun edge he hdest => ?_⟩
  exact horders.mem_front hfresh ⟨edge, he, rfl, hdest⟩

variable {trigger : Option (List Item)} {result : Result}

/-- All that leads to a node is finished when its turn comes, and stays: what the node is given is
what the outputs at the end of the run say. -/
theorem Given.intake (sound : workflow.Sound)
    (assembled : assemble executor.registry workflow.nodes = .ok cast)
    (unique : (final.map Prod.fst).Nodup) {front rest : List Nat} {position : Nat} {done : Finished}
    (turn : workflow.graph.schedule = front ++ position :: rest) (kept : done <+: final)
    (names : done.map Prod.fst = front.map (idAt cast)) {call : Call}
    (given : Given workflow workflow.graph (trigger.getD [.empty]) cast position done call) :
    ∃ placed ∈ workflow.nodes, ∃ node, executor.registry.create placed = .ok node ∧
      call.node = placed.id ∧
      call.inputs =
        workflow.intake trigger (.ofList final) node.description.inputs placed.id := by
  obtain ⟨placed, node, hm, hnode, hinputs⟩ := given
  obtain ⟨hnodes, hcreate⟩ := assemble_eq_ok assembled
  have hmem : (placed, node) ∈ cast := List.mem_of_getElem? hm
  have hplaced : placed ∈ workflow.nodes := hnodes ▸ List.mem_map_of_mem hmem
  obtain ⟨hplace, _, hready⟩ := ready_of_turn sound assembled turn names hm
  have hsame : workflow.inflow done placed.id = workflow.inflow (.ofList final) placed.id :=
    Workflow.inflow_congr fun edge he hdest => get?_of_prefix kept unique (hready edge he hdest)
  have hstart := Workflow.graph_isStart_iff sound.joined (List.mem_map_of_mem hplaced)
  rw [hplace] at hstart
  refine ⟨placed, hplaced, node, hcreate _ hmem, hnode, ?_⟩
  rw [inputs_eq_some hinputs, hsame, Workflow.intake]
  simp only [hstart]

/-- In a run that completes every node is set up once, in the order of the run, and each call of
its code is made with the items that, by the outputs the run ends with, lead to it. -/
theorem completed_dataflow
    (h : perform w (executor.execute id workflow trigger) = (.returned (.ok result), w')) :
    ((w.callsSince w').filter Call.isSetup).map Call.node = result.order ∧
      ∀ call ∈ w.callsSince w', ∃ placed ∈ workflow.nodes, ∃ node,
        executor.registry.create placed = .ok node ∧ call.node = placed.id ∧
        call.inputs =
          workflow.intake trigger result.outputs node.description.inputs placed.id := by
  obtain ⟨sound, cast, ended, ha, hf, hc⟩ := execute_returned h
  obtain ⟨_, ho⟩ := order_eq_schedule h
  obtain ⟨hsetups, hcalls⟩ := follow_calls hf
  have hunique : result.order.Nodup := (ho ▸ sound.schedule_perm).nodup_iff.mpr sound.unique
  rw [hc]
  constructor
  · rw [hsetups, ho, idAt_of_assemble ha]
    rfl
  · intro call hcall
    obtain ⟨front, position, rest, done, turn, kept, names, given⟩ := hcalls call hcall
    exact given.intake sound ha hunique turn kept names

end Executor

theorem Executor.completed_dataflow_diamond :
    ∃ result w',
      perform {} (Executor.execute { registry := Nodes.standard } ⟨0⟩ .diamond none) =
        (.returned (.ok result), w') ∧
      ((World.callsSince {} w').filter Call.isSetup).map Call.node =
        ["top", "right", "left", "bottom"] ∧
      ∀ call ∈ World.callsSince {} w', ∃ placed ∈ Workflow.diamond.nodes, ∃ node,
        Nodes.standard.create placed = .ok node ∧ call.node = placed.id ∧
        call.inputs = Workflow.diamond.intake none result.outputs node.description.inputs placed.id := by
  obtain ⟨result, w', h, ho⟩ := Workflow.diamond_run
  obtain ⟨setups, calls⟩ := completed_dataflow h
  exact ⟨result, w', h, setups.trans ho, calls⟩

end Conveyor
