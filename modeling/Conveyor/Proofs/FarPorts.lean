import Conveyor.Proofs.Completion
import Conveyor.Workflow.Document

namespace Conveyor
open RunWork

namespace Ports

variable (workflow : Workflow) (id : String) (declared : Nat) (outputs : Finished)

/-- A node is given all that the edges to it carry, port by port, exactly if there is room for the
ports it declares and for every one that an edge leads to. -/
theorem collect_eq_all_iff :
    collect workflow id declared outputs =
        some ((List.range (workflow.portCount declared id)).map (workflow.inflow outputs id)) ↔
      declared ≤ capacity ∧
        ∀ edge ∈ workflow.edges, edge.destination = id → edge.destinationPort < capacity := by
  have broken : collect workflow id declared outputs = none ↔
      capacity < workflow.portCount declared id := collect_eq_none_iff
  rw [← Workflow.portCount_le_capacity_iff, ← Nat.not_lt, ← broken]
  cases hc : collect workflow id declared outputs with
  | none => simp
  | some given => simp [collect_eq_some hc]

end Ports

namespace Executor

variable {workflow : Workflow} {plan : Plan}

section Run

variable {executor : Executor} {id : Uuid} {trigger : Option (List Item)} {w : World}
  (accepted : Plan.build workflow = .ok plan)
  (made : ∀ placed ∈ workflow.nodes, ∃ node, executor.registry.create placed = .ok node)
  (nodes : ∀ placed ∈ workflow.nodes, ∀ node given, executor.registry.create placed = .ok node →
    Cooperates w (executor.execute id workflow trigger) node
        (executor.context id placed node given) executor.itemTimeout ∧
      Modest w (executor.execute id workflow trigger) node
        (executor.context id placed node given) executor.itemTimeout)
  (calm : (perform w (executor.execute id workflow trigger)).2.cancelled = false)
include accepted made nodes calm

/-- An edge that leads too far breaks a run. -/
theorem breaks_of_far {edge : Edge} (he : edge ∈ workflow.edges)
    (far : Ports.capacity ≤ edge.destinationPort) :
    ∃ w', perform w (executor.execute id workflow trigger) = (.panicked none, w') :=
  breaks_of_overfull accepted made
    (fun placed hm node given hc => (nodes placed hm node given hc).1) calm
    (overfull_of_far accepted made he far)

/-- Where no edge leads too far, a run completes. -/
theorem completes_of_near (near : ∀ edge ∈ workflow.edges, edge.destinationPort < Ports.capacity) :
    ∃ result w', perform w (executor.execute id workflow trigger) =
      (.returned (.ok result), w') := by
  rcases completes_or_breaks accepted made
      (fun placed hm node given hc => (nodes placed hm node given hc).1) calm with
    completed | ⟨crowded, _⟩
  · exact completed
  · refine absurd crowded (not_crowds (fun placed hm node given hc => ?_) near)
    exact (nodes placed hm node given hc).2

end Run

/-- What becomes of the edges of an accepted workflow. There is no node that is given a part of what
the edges to it carry: it is given all of that, or, where there is no room for a port that it
declares or that an edge leads to, there is nothing that it could be given. So a run that nothing
else stands in the way of completes if there is room for every port that an edge leads to, and else
it breaks down. -/
theorem collects_all_or_breaks (accepted : Plan.build workflow = .ok plan) :
    (∀ id declared outputs,
      (Ports.collect workflow id declared outputs =
          some ((List.range (workflow.portCount declared id)).map (workflow.inflow outputs id)) ↔
        declared ≤ Ports.capacity ∧
          ∀ edge ∈ workflow.edges, edge.destination = id →
            edge.destinationPort < Ports.capacity) ∧
      (Ports.collect workflow id declared outputs = none ↔
        Ports.capacity < declared ∨
          ∃ edge ∈ workflow.edges, edge.destination = id ∧
            Ports.capacity ≤ edge.destinationPort)) ∧
    ∀ (executor : Executor) (id : Uuid) (trigger : Option (List Item)) (w : World),
      (∀ placed ∈ workflow.nodes, ∃ node, executor.registry.create placed = .ok node) →
      (∀ placed ∈ workflow.nodes, ∀ node given, executor.registry.create placed = .ok node →
        Cooperates w (executor.execute id workflow trigger) node
            (executor.context id placed node given) executor.itemTimeout ∧
          Modest w (executor.execute id workflow trigger) node
            (executor.context id placed node given) executor.itemTimeout) →
      (perform w (executor.execute id workflow trigger)).2.cancelled = false →
        ((∃ result w', perform w (executor.execute id workflow trigger) =
            (.returned (.ok result), w')) ↔
          ∀ edge ∈ workflow.edges, edge.destinationPort < Ports.capacity) ∧
        ((∃ w', perform w (executor.execute id workflow trigger) = (.panicked none, w')) ↔
          ∃ edge ∈ workflow.edges, Ports.capacity ≤ edge.destinationPort) := by
  refine ⟨fun id declared outputs => ⟨Ports.collect_eq_all_iff .., ?_⟩, ?_⟩
  · rw [Ports.collect_eq_none_iff, ← Nat.not_le, Workflow.portCount_le_capacity_iff]
    simp only [not_and_or, not_forall, Nat.not_le, Nat.not_lt, exists_prop]
  · intro executor id trigger w made nodes calm
    refine ⟨⟨?_, completes_of_near accepted made nodes calm⟩, ⟨fun broken => ?_, ?_⟩⟩
    · rintro ⟨result, w', hr⟩ edge he
      refine Nat.lt_of_not_le fun far => ?_
      obtain ⟨_, hb⟩ := breaks_of_far accepted made nodes calm he far
      cases hr.symm.trans hb
    · by_contra near
      push Not at near
      obtain ⟨w', hb⟩ := broken
      obtain ⟨result, _, hr⟩ := completes_of_near accepted made nodes calm near
      cases hr.symm.trans hb
    · rintro ⟨edge, he, far⟩
      exact breaks_of_far accepted made nodes calm he far

end Executor

namespace Workflow

/-- Whether a text is a workflow, and what there is to check of it holds. -/
def reads (text : String) (check : Workflow → Bool) : Bool :=
  match ofText text with
  | .ok workflow => check workflow
  | .error _ => false

theorem exists_of_reads {text : String} {check : Workflow → Bool} (h : reads text check = true) :
    ∃ workflow, ofText text = .ok workflow ∧ check workflow = true := by
  unfold reads at h
  split at h
  next workflow hread => exact ⟨workflow, hread, h⟩
  · cases h

/-- A document of two nodes. Two edges lead from the first to the second, one from its only port
and one from a given port to a given port. -/
def overhang (sourcePort destinationPort : Nat) : String :=
  "\x7b\"id\":\"w\",\"nodes\":[\x7b\"id\":\"a\",\"type\":\"debug.log\"\x7d," ++
    "\x7b\"id\":\"b\",\"type\":\"debug.log\"\x7d],\"edges\":[" ++
    "\x7b\"source\":\"a\",\"destination\":\"b\"\x7d," ++
    "\x7b\"source\":\"a\",\"source_port\":" ++ sourcePort.repr ++
    ",\"destination\":\"b\",\"destination_port\":" ++ destinationPort.repr ++ "\x7d]\x7d"

end Workflow

namespace Executor

/-- All there is to run with are the built-in nodes. -/
def plain : Executor := { registry := Nodes.standard }

/-- Whether a workflow is accepted, and then breaks down. -/
def breaks (workflow : Workflow) : Bool :=
  (Plan.build workflow).isOk && (perform {} (plain.execute ⟨0⟩ workflow none)).1.isBroken

/-- A document whose workflow is accepted, and breaks down when it is run. -/
def BreaksDown (text : String) : Prop :=
  ∃ workflow, Workflow.ofText text = .ok workflow ∧ (Plan.build workflow).isOk = true ∧
    ∃ w', perform {} (plain.execute ⟨0⟩ workflow none) = (.panicked none, w')

theorem breaksDown_of_reads {text : String} (h : Workflow.reads text breaks = true) :
    BreaksDown text := by
  obtain ⟨workflow, read, h⟩ := Workflow.exists_of_reads h
  obtain ⟨accepted, h⟩ := Bool.and_eq_true_iff.mp h
  exact ⟨workflow, read, accepted, broken_of_isBroken h⟩

/-- An edge to the last port that 64 bits can count breaks a run, whether or not there is an output
to bring there, and so does one that leads not nearly as far. -/
theorem far_port_unsafe :
    BreaksDown (Workflow.overhang 0 18446744073709551615) ∧
    BreaksDown (Workflow.overhang 1 18446744073709551615) ∧
    BreaksDown (Workflow.overhang 0 384307168202282325) :=
  ⟨breaksDown_of_reads (by decide +kernel), breaksDown_of_reads (by decide +kernel),
    breaksDown_of_reads (by decide +kernel)⟩

theorem collects_all_or_breaks_cracked :
    Ports.collect .cracked "last" 1 [("middle", [[.empty], []]), ("first", [[.empty]])] =
        some [[.empty], [.empty]] ∧
    (∃ result w', perform {} (fragile.execute ⟨0⟩ .cracked none) = (.returned (.ok result), w')) ∧
    ∃ w', perform {} (fragile.execute ⟨0⟩ .stretched none) = (.panicked none, w') := by
  have calm : (perform {} (fragile.execute ⟨0⟩ .cracked none)).2.cancelled = false := by
    decide +kernel
  have cracked := collects_all_or_breaks Workflow.cracked_accepted
  have stretched := collects_all_or_breaks Workflow.stretched_accepted
  refine ⟨?_, ?_, ?_⟩
  · exact (cracked.1 "last" 1 _).1.mpr (by decide)
  · refine (cracked.2 fragile ⟨0⟩ none {} Workflow.cracked_made.made ?_ calm).1.mpr (by decide)
    exact fun placed hm node given hc =>
      ⟨Workflow.cracked_made.cooperates _ _ _ placed hm node given hc,
        Workflow.cracked_made.modest _ _ _ placed hm node given hc⟩
  · refine (stretched.2 fragile ⟨0⟩ none {} Workflow.stretched_made.made ?_
      Workflow.stretched_calm).2.mpr (by decide)
    exact fun placed hm node given hc =>
      ⟨Workflow.stretched_made.cooperates _ _ _ placed hm node given hc,
        Workflow.stretched_made.modest _ _ _ placed hm node given hc⟩

end Executor

end Conveyor
