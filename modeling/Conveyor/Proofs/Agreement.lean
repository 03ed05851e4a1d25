import Conveyor.Engine
import Conveyor.Proofs.Completion
import Conveyor.Proofs.Heeding
import Conveyor.Proofs.Prefix

namespace Conveyor
open RunWork

namespace Executor

variable {executor : Executor} {id : Uuid} {workflow : Workflow} {trigger : Option (List Item)}
  {plan : Plan} {fault : Fault}

/-- A workflow passes the check if it can be planned and all of its nodes can be made. -/
theorem accepted_of_validate (h : executor.validate workflow = .ok plan) :
    Plan.build workflow = .ok plan ∧
      ∀ placed ∈ workflow.nodes, ∃ node, executor.registry.create placed = .ok node := by
  rw [validate_eq] at h
  split at h
  · cases h
  next plan accepted =>
    split at h
    · cases h
    next cast hc =>
      cases h
      refine ⟨accepted, fun placed hm => ?_⟩
      obtain ⟨hnodes, hmade⟩ := assemble_eq_ok hc
      rw [← hnodes] at hm
      obtain ⟨member, hmember, rfl⟩ := List.mem_map.mp hm
      exact ⟨member.2, hmade member hmember⟩

/-- Where the check fails, a run is over before its first node, with the same fault. -/
theorem undertake_of_invalid (h : executor.validate workflow = .error fault) (id : Uuid)
    (trigger : Option (List Item)) :
    ∃ node, executor.undertake id workflow trigger = pure (.error ⟨node, fault⟩) := by
  rcases undertake_cases executor id workflow trigger with ⟨fatal, hv, hu⟩ | ⟨_, hv, _⟩
  · cases hv.symm.trans h
    exact ⟨fatal.node, hu⟩
  · cases hv.symm.trans h

theorem execute_of_invalid (h : executor.validate workflow = .error fault) (w : World) :
    (perform w (executor.execute id workflow trigger)).1 = .returned (.error fault) ∧
      w.callsSince (perform w (executor.execute id workflow trigger)).2 = [] := by
  obtain ⟨node, hu⟩ := undertake_of_invalid h id trigger
  refine ⟨?_, callsSince_of_begins_none rfl ?_⟩
  · change (perform (started workflow w) (executor.undertake id workflow trigger >>=
      conclude id workflow w.clock)).1 = _
    rw [hu]
    rfl
  · refine Begins.now.bind fun began => Begins.notify.bind fun _ => ?_
    rw [hu]
    exact Asks.bind trivial fun outcome => conclude_begins _ _ began outcome

end Executor

/-- The check of a workflow foresees its run, if the nodes cooperate and the token never fires: the
run fails where the check does and in the same way, and no node code is called then; else it
completes, whatever its nodes make of their items, but that it breaks down if there is no room for
one of its ports, which the check does not look at. -/
theorem Engine.validate_foresees {engine : Engine} {w : World} {id : Uuid} {workflow : Workflow}
    {trigger : Option (List Item)}
    (cooperates : ∀ placed ∈ workflow.nodes, ∀ node given,
      engine.executor.registry.create placed = .ok node →
        Cooperates w (engine.executor.execute id workflow trigger) node
          (engine.executor.context id placed node given) engine.executor.itemTimeout)
    (calm : (engine.execute w id workflow trigger).2.1.cancelled = false) :
    (∀ fault, engine.validate workflow = .error fault ↔
      (engine.execute w id workflow trigger).1 = .returned (.error fault)) ∧
    (∀ fault, engine.validate workflow = .error fault →
      w.callsSince (engine.execute w id workflow trigger).2.1 = []) ∧
    ∀ plan, engine.validate workflow = .ok plan →
      (∃ result, (engine.execute w id workflow trigger).1 = .returned (.ok result) ∧
        result.order.Perm workflow.ids) ∨
      engine.executor.Crowds id workflow w (engine.executor.execute id workflow trigger) ∧
        (engine.execute w id workflow trigger).1 = .panicked none := by
  have hfails (fault : Fault) (h : engine.validate workflow = .error fault) :
      (engine.execute w id workflow trigger).1 = .returned (.error fault) ∧
        w.callsSince (engine.execute w id workflow trigger).2.1 = [] :=
    Executor.execute_of_invalid h w
  have hpasses (plan : Plan) (h : engine.validate workflow = .ok plan) :
      (∃ result, (engine.execute w id workflow trigger).1 = .returned (.ok result) ∧
        result.order.Perm workflow.ids) ∨
      engine.executor.Crowds id workflow w (engine.executor.execute id workflow trigger) ∧
        (engine.execute w id workflow trigger).1 = .panicked none := by
    obtain ⟨accepted, made⟩ := Executor.accepted_of_validate h
    rcases Executor.completes_or_breaks accepted made cooperates calm with
      ⟨result, w', hr⟩ | ⟨crowded, w', hr⟩
    · obtain ⟨sound, ho⟩ := Executor.order_eq_schedule hr
      exact .inl ⟨result, congrArg Prod.fst hr, ho ▸ sound.schedule_perm⟩
    · exact .inr ⟨crowded, congrArg Prod.fst hr⟩
  refine ⟨fun fault => ⟨fun h => (hfails fault h).1, fun h => ?_⟩,
    fun fault h => (hfails fault h).2, hpasses⟩
  cases hv : engine.validate workflow with
  | error other =>
    rw [(hfails other hv).1] at h
    cases h
    rfl
  | ok plan =>
    rcases hpasses plan hv with ⟨result, hr, _⟩ | ⟨_, hr⟩ <;>
    · rw [hr] at h
      cases h

/-- An engine that makes the built-in node types and one more. -/
def Engine.fragile : Engine := { executor := .fragile, bus := .new 10 }

/-- A workflow that the check has nothing against may have a run that breaks down, though its nodes
only return and the token never fires. -/
theorem Engine.checked_run_breaks :
    (Engine.fragile.validate .stretched).isOk = true ∧
    (∀ edge ∈ Workflow.stretched.edges,
      edge.sourcePort + 1 < 1 <<< 64 ∧ edge.destinationPort + 1 < 1 <<< 64) ∧
    (∀ placed ∈ Workflow.stretched.nodes, ∃ node,
      Engine.fragile.executor.registry.create placed = .ok node ∧ node.Plain) ∧
    (Engine.fragile.execute {} ⟨0⟩ .stretched none).2.1.cancelled = false ∧
    (Engine.fragile.execute {} ⟨0⟩ .stretched none).1 = .panicked none := by
  obtain ⟨w', hr⟩ := Workflow.stretched_breaks
  have passes : Engine.fragile.validate .stretched = .ok Workflow.stretched.graph := by rfl
  exact ⟨by rw [passes]; rfl, by decide, Workflow.stretched_made, Workflow.stretched_calm,
    congrArg Prod.fst hr⟩

/-- What a node does to its items is not checked, only that it can be made. -/
theorem Engine.validate_foresees_cracked :
    (∃ result, (Engine.fragile.execute {} ⟨0⟩ .cracked none).1 = .returned (.ok result) ∧
      result.order.Perm ["last", "middle", "first"]) ∧
    ((Engine.new Nodes.standard {} .none).execute {} ⟨0⟩ .cracked none).1 =
      .returned (.error (.unknownNodeType "broken")) := by
  have calm : (Engine.fragile.execute {} ⟨0⟩ .cracked none).2.1.cancelled = false := by
    decide +kernel
  have passes : Engine.fragile.validate .cracked = .ok Workflow.cracked.graph := by rfl
  obtain ⟨_, _, hpasses⟩ := Engine.validate_foresees
    (Workflow.cracked_made.cooperates _ _ _) calm
  -- Among the built-in types alone the node that breaks down is not known.
  have debug : ∀ placed ∈ Workflow.cracked.nodes, ∀ node,
      Nodes.standard.create placed = .ok node → node.Plain := by
    intro placed hm node hc
    simp only [Workflow.cracked, List.mem_cons, List.not_mem_nil, or_false] at hm
    rcases hm with rfl | rfl | rfl
    · cases hc
      exact Nodes.Debug.node_plain
    · cases hc
    · cases hc
      exact Nodes.Debug.node_plain
  have still : ((Engine.new Nodes.standard {} .none).execute {} ⟨0⟩ .cracked
      none).2.1.cancelled = false := by
    decide +kernel
  have refused : (Engine.new Nodes.standard {} .none).validate .cracked =
      .error (.unknownNodeType "broken") := by rfl
  obtain ⟨agrees, _, _⟩ := Engine.validate_foresees
    (fun placed hm node _ hc => (debug placed hm node hc).cooperates _ _ _ _) still
  refine ⟨?_, (agrees _).mp refused⟩
  rcases hpasses _ passes with hr | ⟨crowded, _⟩
  · exact hr
  · exact absurd crowded (Workflow.cracked_made.not_crowds (by decide) _ _ _)

end Conveyor
