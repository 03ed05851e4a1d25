import Conveyor.Proofs.Locality
import Conveyor.Proofs.Settling

namespace Conveyor
open RunWork

variable {α : Type}

/-- The calls of a node's code in a run come to their end. An attempt that has a time limit does so
by itself, else it must not wait for what never comes; it may break down. -/
structure RunWork.Cooperates (w : World) (run : RunWork α) (node : Node) (ctx : Context)
    (limit : Option Nat) : Prop where
  setup : SetsUp w run node ctx
  attempt : ¬RunWork.Waits w run node ctx limit

/-- A node that declares no more ports than there is room for, and whose code names none beyond
them in a run. -/
structure RunWork.Modest (w : World) (run : RunWork α) (node : Node) (ctx : Context)
    (limit : Option Nat) : Prop where
  inputs : node.description.inputs ≤ Ports.capacity
  outputs : node.description.outputs ≤ Ports.capacity
  port : ¬RunWork.Overshoots w run node ctx limit

/-- An output that names a port there can be room for. -/
def Output.Fits (outcome : Except Failure Output) : Prop :=
  ∀ output, outcome = .ok output → output.port < Ports.capacity

theorem Output.Fits.error (e : Failure) : Fits (.error e) := nofun

/-- Node code that asks nothing of its surroundings, and has few ports: it returns or breaks down
at once. -/
structure Node.Plain (node : Node) : Prop where
  inputs : node.description.inputs ≤ Ports.capacity
  outputs : node.description.outputs ≤ Ports.capacity
  setup : ∀ ctx, node.setup ctx = pure ()
  run : ∀ ctx index number, (∃ payload, node.run ctx index number = .panic payload) ∨
    ∃ outcome, node.run ctx index number = .done outcome ∧ Output.Fits outcome

namespace Node.Plain

variable {node : Node} (plain : node.Plain)
include plain

theorem call (w : World) (ctx : Context) (limit : Option Nat) (index number : Nat) :
    ∃ outcome, (perform w (RunWork.call node ctx limit index number)).1 = .returned outcome ∧
      Output.Fits outcome := by
  unfold RunWork.call
  rcases plain.run ctx index number with ⟨payload, hr⟩ | ⟨outcome, hr, fits⟩
  · exact ⟨_, by rw [hr]; rfl, .error _⟩
  · exact ⟨outcome, by rw [hr]; rfl, fits⟩

theorem cooperates (w : World) (run : RunWork α) (ctx : Context) (limit : Option Nat) :
    Cooperates w run node ctx limit := by
  refine ⟨fun w' _ => ?_, ?_⟩
  · unfold prepare
    rw [plain.setup]
    exact ⟨_, _, rfl, trivial⟩
  · rintro ⟨_, before, index, number, _, stuck⟩
    obtain ⟨outcome, ho, _⟩ := plain.call before ctx limit index number
    cases ho.symm.trans stuck

theorem modest (w : World) (run : RunWork α) (ctx : Context) (limit : Option Nat) :
    Modest w run node ctx limit := by
  refine ⟨plain.inputs, plain.outputs, ?_⟩
  rintro ⟨before, index, number, output, after, _, hr, far⟩
  obtain ⟨outcome, ho, fits⟩ := plain.call before ctx limit index number
  rw [hr] at ho
  cases ho
  exact Nat.not_lt.mpr far (fits output rfl)

end Node.Plain

theorem Nodes.Debug.node_plain : Nodes.Debug.node.Plain where
  inputs := by decide
  outputs := by decide
  setup _ := rfl
  run ctx index number := by
    refine .inr ⟨_, rfl, ?_⟩
    intro output ho
    unfold Nodes.Debug.run at ho
    cases ht : ctx.text "label" index with
    | error e => simp [ht] at ho
    | ok label =>
      simp only [ht] at ho
      cases ho
      exact Ports.capacity_pos

/-- All nodes of a workflow can be made, and are plain. -/
def Executor.MakesPlain (executor : Executor) (workflow : Workflow) : Prop :=
  ∀ placed ∈ workflow.nodes, ∃ node, executor.registry.create placed = .ok node ∧ node.Plain

/-- A node that breaks down at every item. -/
def Node.broken : Node where
  description := { displayName := "Broken", name := "broken" }
  run _ _ _ := NodeWork.panic none

theorem Node.broken_plain : broken.Plain :=
  ⟨by decide, by decide, fun _ => rfl, fun _ _ _ => .inl ⟨none, rfl⟩⟩

/-- Makes the built-in node types and one more. -/
def Executor.fragile : Executor where
  registry := Nodes.standard.register "broken" fun _ => .ok Node.broken

/-- A node that breaks down, between two that do not, and an edge past it. -/
def Workflow.cracked : Workflow where
  id := "cracked"
  nodes :=
    [{ id := "last", type := "debug.log" }, { id := "middle", type := "broken" },
      { id := "first", type := "debug.log" }]
  edges :=
    [{ source := "first", destination := "middle" }, { source := "middle", destination := "last" },
      { source := "first", destination := "middle" },
      { source := "first", destination := "last", destinationPort := 1 }]

/-- An edge to a far port, though not to one of the last that 64 bits can count. -/
def Workflow.stretched : Workflow where
  id := "stretched"
  nodes := [{ id := "near", type := "debug.log" }, { id := "far", type := "debug.log" }]
  edges := [{ source := "near", destination := "far", destinationPort := 1 <<< 62 }]

theorem Workflow.cracked_made : Executor.fragile.MakesPlain cracked := by
  intro placed hm
  simp only [cracked, List.mem_cons, List.not_mem_nil, or_false] at hm
  rcases hm with rfl | rfl | rfl
  · exact ⟨_, rfl, Nodes.Debug.node_plain⟩
  · exact ⟨_, rfl, Node.broken_plain⟩
  · exact ⟨_, rfl, Nodes.Debug.node_plain⟩

theorem Workflow.cracked_accepted : Plan.build cracked = .ok cracked.graph := by rfl

theorem Workflow.stretched_accepted : Plan.build stretched = .ok stretched.graph := by rfl

theorem Workflow.stretched_made : Executor.fragile.MakesPlain stretched := by
  intro placed hm
  simp only [stretched, List.mem_cons, List.not_mem_nil, or_false] at hm
  rcases hm with rfl | rfl <;> exact ⟨_, rfl, Nodes.Debug.node_plain⟩

namespace Executor

variable {executor : Executor} {workflow : Workflow} {id : Uuid} {trigger : Option (List Item)}
  {plan : Plan} {w w' : World}

/-- Where all nodes are modest and no edge leads too far, there is room for all ports. -/
theorem not_crowds {run : RunWork α}
    (modest : ∀ placed ∈ workflow.nodes, ∀ node given,
      executor.registry.create placed = .ok node →
        Modest w run node (executor.context id placed node given) executor.itemTimeout)
    (near : ∀ edge ∈ workflow.edges, edge.destinationPort < Ports.capacity) :
    ¬executor.Crowds id workflow w run := by
  rintro (⟨placed, hm, node, hc, wide | ⟨-, wide⟩⟩ | ⟨placed, hm, node, given, hc, far⟩)
  · exact Nat.not_lt.mpr (modest placed hm node [] hc).outputs wide
  · refine Nat.not_lt.mpr ?_ wide
    exact Workflow.portCount_le_capacity_iff.mpr
      ⟨(modest placed hm node [] hc).inputs, fun edge he _ => near edge he⟩
  · exact (modest placed hm node given hc).port far

namespace MakesPlain

variable (h : executor.MakesPlain workflow)
include h

theorem made : ∀ placed ∈ workflow.nodes, ∃ node, executor.registry.create placed = .ok node :=
  fun placed hm => (h placed hm).imp fun _ => And.left

theorem plain : ∀ placed ∈ workflow.nodes, ∀ node,
    executor.registry.create placed = .ok node → node.Plain := by
  intro placed hm node hc
  obtain ⟨other, hother, plain⟩ := h placed hm
  cases hc.symm.trans hother
  exact plain

theorem cooperates (id : Uuid) (w : World) (run : RunWork α) : ∀ placed ∈ workflow.nodes,
    ∀ node given, executor.registry.create placed = .ok node →
      Cooperates w run node (executor.context id placed node given) executor.itemTimeout :=
  fun placed hm node _ hc => (h.plain placed hm node hc).cooperates _ _ _ _

theorem modest (id : Uuid) (w : World) (run : RunWork α) : ∀ placed ∈ workflow.nodes,
    ∀ node given, executor.registry.create placed = .ok node →
      Modest w run node (executor.context id placed node given) executor.itemTimeout :=
  fun placed hm node _ hc => (h.plain placed hm node hc).modest _ _ _ _

theorem not_crowds (near : ∀ edge ∈ workflow.edges, edge.destinationPort < Ports.capacity)
    (id : Uuid) (w : World) (run : RunWork α) : ¬executor.Crowds id workflow w run :=
  Executor.not_crowds (h.modest id w run) near

end MakesPlain

/-- Where an edge leads too far, there is no room for the ports of the node that it leads to. -/
theorem overfull_of_far {edge : Edge} (accepted : Plan.build workflow = .ok plan)
    (made : ∀ placed ∈ workflow.nodes, ∃ node, executor.registry.create placed = .ok node)
    (he : edge ∈ workflow.edges) (far : Ports.capacity ≤ edge.destinationPort) :
    executor.Overfull workflow := by
  obtain ⟨sound, -⟩ := Plan.build_eq_ok_iff.mp accepted
  obtain ⟨placed, hm, hid⟩ := List.mem_map.mp (sound.joined edge he).2
  obtain ⟨node, hc⟩ := made placed hm
  refine ⟨placed, hm, node, hc, .inr ⟨⟨edge, he, hid.symm⟩, ?_⟩⟩
  rw [← Nat.not_le, Workflow.portCount_le_capacity_iff]
  exact fun room => Nat.not_lt.mpr far (room.2 edge he hid.symm)

/-- A run that completes has found room for the ports of all nodes. -/
theorem not_overfull_of_completed {result : Result}
    (h : perform w (executor.execute id workflow trigger) = (.returned (.ok result), w')) :
    ¬executor.Overfull workflow := by
  rintro ⟨placed, hm, node, hc, wide⟩
  obtain ⟨made, given, output, before, between, hc', hg, hr, -⟩ := completed_turn h hm
  cases hc.symm.trans hc'
  rcases wide with wide | ⟨⟨edge, he, hdest⟩, wide⟩
  · obtain ⟨_, _, _, roomy, _⟩ := node_returned hr
    cases roomy.symm.trans (Ports.blank_eq_none_iff.mpr wide)
  · have hstart : ¬∀ edge ∈ workflow.edges, edge.destination ≠ placed.id :=
      fun h => h edge he hdest
    rw [Workflow.supply, if_neg hstart, Ports.collect_eq_none_iff.mpr wide] at hg
    cases hg

section Accepted

variable (accepted : Plan.build workflow = .ok plan)
  (made : ∀ placed ∈ workflow.nodes, ∃ node, executor.registry.create placed = .ok node)
  (cooperates : ∀ placed ∈ workflow.nodes, ∀ node given,
    executor.registry.create placed = .ok node →
      Cooperates w (executor.execute id workflow trigger) node
        (executor.context id placed node given) executor.itemTimeout)
  (calm : (perform w (executor.execute id workflow trigger)).2.cancelled = false)
include accepted made cooperates calm

/-- A run in which the token never fires completes, or there is no room for one of its ports. -/
theorem completes_or_breaks :
    (∃ result w', perform w (executor.execute id workflow trigger) =
        (.returned (.ok result), w')) ∨
      executor.Crowds id workflow w (executor.execute id workflow trigger) ∧
        ∃ w', perform w (executor.execute id workflow trigger) = (.panicked none, w') := by
  have settles : Settles _ _ w (executor.execute id workflow trigger) _ :=
    execute_settles fun placed hm node given hc =>
      (cooperates placed hm node given hc).setup
  rcases settles with ⟨outcome, w', hr, _⟩ | ⟨waits, _⟩ | crowded
  · cases outcome with
    | ok result => exact .inl ⟨result, w', hr⟩
    | error fault =>
      rw [hr, (execute_error accepted made hr).2] at calm
      cases calm
  · obtain ⟨placed, hm, node, given, hc, waits⟩ := waits
    exact ((cooperates placed hm node given hc).attempt waits).elim
  · exact .inr crowded

theorem breaks_of_overfull (overfull : executor.Overfull workflow) :
    ∃ w', perform w (executor.execute id workflow trigger) = (.panicked none, w') := by
  rcases completes_or_breaks accepted made cooperates calm with ⟨result, w', hr⟩ | ⟨_, broken⟩
  · exact absurd overfull (not_overfull_of_completed hr)
  · exact broken

/-- A run of an accepted workflow, whose nodes can all be made and cooperate, completes if the token
never fires and there is room for its ports. Every node has then had exactly one turn and left
one output. Otherwise it breaks down, as it always does where a node has too many ports. -/
theorem completes :
    ((∃ result w', perform w (executor.execute id workflow trigger) =
          (.returned (.ok result), w') ∧
        result.order.Perm workflow.ids ∧ result.order.Nodup ∧
        result.outputs.names.Perm workflow.ids) ∨
      executor.Crowds id workflow w (executor.execute id workflow trigger) ∧
        ∃ w', perform w (executor.execute id workflow trigger) = (.panicked none, w')) ∧
    (executor.Overfull workflow →
      ∃ w', perform w (executor.execute id workflow trigger) = (.panicked none, w')) ∧
    ∀ ids, (perform w (executor.execute id workflow trigger)).1 ≠
      .returned (.error (.unreachable ids)) := by
  refine ⟨?_, breaks_of_overfull accepted made cooperates calm, fun ids hr => ?_⟩
  · refine (completes_or_breaks accepted made cooperates calm).imp_left ?_
    rintro ⟨result, w', hr⟩
    obtain ⟨sound, ho⟩ := order_eq_schedule hr
    have hperm : result.order.Perm workflow.ids := ho ▸ sound.schedule_perm
    have hunique : result.order.Nodup := hperm.nodup_iff.mpr sound.unique
    exact ⟨result, w', hr, hperm, hunique, (Table.names_ofList hunique).trans hperm⟩
  · rcases completes_or_breaks accepted made cooperates calm with ⟨_, _, h⟩ | ⟨_, _, h⟩ <;>
      simp [h] at hr

end Accepted

end Executor

theorem Workflow.stretched_overfull : Executor.fragile.Overfull stretched :=
  Executor.overfull_of_far stretched_accepted stretched_made.made List.mem_cons_self (by decide)

theorem Workflow.stretched_calm :
    (perform {} (Executor.fragile.execute ⟨0⟩ .stretched none)).2.cancelled = false := by
  decide +kernel

theorem Workflow.stretched_breaks :
    ∃ w', perform {} (Executor.fragile.execute ⟨0⟩ .stretched none) = (.panicked none, w') :=
  Executor.breaks_of_overfull stretched_accepted stretched_made.made
    (stretched_made.cooperates _ _ _) stretched_calm stretched_overfull

/-- The token never fires in a run of an accepted workflow, none of its ports is as far as 64 bits
can count, and its nodes return at once. Still it does not complete. -/
theorem Executor.accepted_run_breaks :
    (Plan.build .stretched).isOk = true ∧
    (∀ edge ∈ Workflow.stretched.edges,
      edge.sourcePort + 1 < 1 <<< 64 ∧ edge.destinationPort + 1 < 1 <<< 64) ∧
    (∀ placed ∈ Workflow.stretched.nodes, ∃ node,
      fragile.registry.create placed = .ok node ∧ node.Plain) ∧
    ∃ w', perform {} (fragile.execute ⟨0⟩ .stretched none) = (.panicked none, w') ∧
      w'.cancelled = false := by
  obtain ⟨w', hw⟩ := Workflow.stretched_breaks
  have calm := Workflow.stretched_calm
  rw [hw] at calm
  exact ⟨by rw [Workflow.stretched_accepted]; rfl, by decide, Workflow.stretched_made, w', hw, calm⟩

theorem Executor.completes_cracked :
    (∃ result w', perform {} (Executor.fragile.execute ⟨0⟩ .cracked none) =
        (.returned (.ok result), w') ∧
      result.order.Perm ["last", "middle", "first"]) ∧
    ∃ w', perform {} (fragile.execute ⟨0⟩ .stretched none) = (.panicked none, w') := by
  constructor
  · have calm : (perform {} (fragile.execute ⟨0⟩ .cracked none)).2.cancelled = false := by
      decide +kernel
    obtain ⟨⟨result, w', hr, hperm, _⟩ | ⟨crowded, _⟩, _⟩ :=
      Executor.completes Workflow.cracked_accepted Workflow.cracked_made.made
        (Workflow.cracked_made.cooperates _ _ _) calm
    · exact ⟨result, w', hr, hperm⟩
    · exact absurd crowded (Workflow.cracked_made.not_crowds (by decide) _ _ _)
  · exact (Executor.completes Workflow.stretched_accepted Workflow.stretched_made.made
      (Workflow.stretched_made.cooperates _ _ _) Workflow.stretched_calm).2.1
        Workflow.stretched_overfull

end Conveyor
