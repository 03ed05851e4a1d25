import Conveyor.Proofs.Calls
import Conveyor.Proofs.Ports
import Conveyor.Proofs.Validation

namespace Conveyor
open RunWork

section Node

variable {node : Node} {ctx : Context} {limit : Option Nat}

section Asks

variable {Q : Run.Ask → Prop} (within : ∀ question, Q (.within question))
include within

theorem abandoned_asks (outcome : Except Failure Output) : Asks Q True (abandoned outcome) := by
  unfold abandoned
  split
  · exact .question (within _)
  · trivial

variable (attempts : ∀ index number, Q (.begin (.attempt ctx.nodeId ctx.inputs index number)))
include attempts

theorem attempt_asks (index number : Nat) :
    Asks Q True (attempt node ctx limit index number) := by
  refine (Asks.question (within _)).bind fun _ => .ite trivial ?_
  refine (Asks.question (attempts index number)).bind fun _ => ?_
  exact .guarded (fun question _ => within question) _ _ fun _ => within _

theorem persist_asks (policy : RetryPolicy) (index number more : Nat) :
    Asks Q True (persist node ctx limit policy index number more) := by
  induction more generalizing number with
  | zero => exact attempt_asks within attempts index number
  | succ more ih =>
    refine (attempt_asks within attempts index number).bind fun outcome => ?_
    split
    · trivial
    · trivial
    · exact (Asks.question (within _)).bind fun _ => .ite trivial (ih (number + 1))

theorem item_asks (policy : Option RetryPolicy) (index : Nat) :
    Asks Q True (item node ctx limit policy index) := by
  unfold item
  split
  · exact attempt_asks within attempts index 1
  · exact persist_asks within attempts _ index 1 _

theorem items_asks (policy : Option RetryPolicy) (indices : List Nat) (ports : Ports) :
    Asks Q True (items node ctx limit policy indices ports) := by
  induction indices generalizing ports with
  | nil => trivial
  | cons index rest ih =>
    refine (Asks.question (within _)).bind fun _ => .ite trivial ?_
    refine (item_asks within attempts policy index).bind fun outcome => ?_
    refine (abandoned_asks within outcome).bind fun _ => .ite trivial ?_
    split
    · exact ih _
    · trivial

theorem produce_asks (policy : Option RetryPolicy) (ports : Ports)
    (outcome : Except Failure Unit) : Asks Q True (produce node ctx limit policy ports outcome) := by
  cases outcome with
  | ok => exact items_asks within attempts policy _ _
  | error e => trivial

/-- A node asks what its code asks, within calls of it. -/
theorem node_asks (setup : Q (.begin (.setup ctx.nodeId ctx.inputs)))
    (policy : Option RetryPolicy) : Asks Q True (RunWork.node node ctx limit policy) := by
  unfold RunWork.node
  split
  · trivial
  · refine Asks.bind ?_ fun outcome => produce_asks within attempts policy _ outcome
    exact (Asks.question setup).bind fun _ => .freely within _

end Asks

/-- An attempt of a node at one of the items it was given. -/
def Context.Attempts (ctx : Context) (call : Call) : Prop :=
  ∃ index number, call = .attempt ctx.nodeId ctx.inputs index number

/-- The run of a node breaks down at once if there is no room for the ports that it declares, else
it is a call of its setup and what comes after. -/
theorem node_cases (node : Node) (ctx : Context) (limit : Option Nat)
    (policy : Option RetryPolicy) :
    (Ports.capacity < ctx.description.outputs ∧ RunWork.node node ctx limit policy = .panic none) ∨
      ∃ blanks, Ports.blank ctx.description.outputs = some blanks ∧
        RunWork.node node ctx limit policy =
          prepare node ctx >>= produce node ctx limit policy blanks := by
  unfold RunWork.node
  split
  next wide => exact .inl ⟨Ports.blank_eq_none_iff.mp wide, rfl⟩
  next blanks roomy => exact .inr ⟨blanks, roomy, rfl⟩

theorem node_returned {w w' : World} {policy : Option RetryPolicy} {outcome : Except Fault Ports}
    (h : perform w (RunWork.node node ctx limit policy) = (.returned outcome, w')) :
    ∃ blanks ready prepared, Ports.blank ctx.description.outputs = some blanks ∧
      perform w (prepare node ctx) = (.returned prepared, ready) ∧
      perform ready (produce node ctx limit policy blanks prepared) = (.returned outcome, w') := by
  obtain ⟨-, hn⟩ | ⟨blanks, roomy, hn⟩ := node_cases node ctx limit policy
  · rw [hn] at h
    cases h
  · rw [hn] at h
    obtain ⟨prepared, ready, hp, h⟩ := returned_of_bind h
    exact ⟨blanks, ready, prepared, roomy, hp, h⟩

/-- The run of a node that comes to its end is a call of its setup, then attempts at its items. -/
theorem node_calls {w w' : World} {policy : Option RetryPolicy} {outcome : Except Fault Ports}
    (h : perform w (RunWork.node node ctx limit policy) = (.returned outcome, w')) :
    ∃ attempts, w.callsSince w' = .setup ctx.nodeId ctx.inputs :: attempts ∧
      ∀ call ∈ attempts, ctx.Attempts call := by
  obtain ⟨blanks, _, _, -, hs, hp⟩ := node_returned h
  let begun := w.note (.began (.setup ctx.nodeId ctx.inputs))
  let rest := freely (node.setup ctx) >>= produce node ctx limit policy blanks
  have hr : Begins ctx.Attempts rest :=
    (Begins.freely _).bind fun outcome =>
      produce_asks (fun _ => nofun) (fun index number _ he => ⟨index, number, by cases he; rfl⟩)
        policy blanks outcome
  have hrest : perform begun rest = (.returned outcome, w') := by
    change perform begun (freely (node.setup ctx)) = _ at hs
    rw [perform_bind_of_returned hs, hp]
  have hw : (perform begun rest).2 = w' := by rw [hrest]
  refine ⟨_, ?_, perform_begins hr begun⟩
  rw [hw, (World.Later.note w _).callsSince_trans (hw ▸ perform_later begun rest),
    World.callsSince_began]
  rfl

end Node

namespace Executor

variable {executor : Executor} {workflow : Workflow} {cast : List (Placed × Node)}

/-- The cast of a run are its placed nodes, each with the node that was made for it. -/
theorem assemble_eq_ok {registry : Registry} {nodes : List Placed}
    (h : assemble registry nodes = .ok cast) :
    cast.map Prod.fst = nodes ∧ ∀ member ∈ cast, registry.create member.1 = .ok member.2 := by
  induction nodes generalizing cast with
  | nil =>
    cases h
    simp
  | cons placed rest ih =>
    unfold assemble at h
    split at h
    · cases h
    next node hm =>
      cases hr : assemble registry rest with
      | error fatal =>
        rw [hr] at h
        cases h
      | ok others =>
        rw [hr] at h
        cases h
        obtain ⟨hn, hc⟩ := ih hr
        exact ⟨by simp [hn], by simpa [hm] using hc⟩

/-- What holds of every node that is made for a placed one holds throughout the cast. -/
theorem forall_of_assemble {registry : Registry} {nodes : List Placed} {P : Placed → Node → Prop}
    (h : assemble registry nodes = .ok cast)
    (hp : ∀ placed ∈ nodes, ∀ node, registry.create placed = .ok node → P placed node) :
    ∀ member ∈ cast, P member.1 member.2 := by
  intro member hm
  obtain ⟨hnodes, hcreate⟩ := assemble_eq_ok h
  exact hp member.1 (hnodes ▸ List.mem_map_of_mem hm) member.2 (hcreate member hm)

theorem assemble_of_made {registry : Registry} {nodes : List Placed}
    (h : ∀ placed ∈ nodes, ∃ node, registry.create placed = .ok node) :
    ∃ cast, assemble registry nodes = .ok cast := by
  induction nodes with
  | nil => exact ⟨[], rfl⟩
  | cons placed rest ih =>
    obtain ⟨node, hm⟩ := h placed (by simp)
    obtain ⟨others, hr⟩ := ih fun p hp => h p (by simp [hp])
    exact ⟨(placed, node) :: others, by simp [assemble, hm, hr, Except.map]⟩

/-- A check makes the nodes that a run would, up to the first that cannot be made. -/
theorem mapM_create (registry : Registry) (nodes : List Placed) :
    nodes.mapM registry.create =
      match assemble registry nodes with
      | .ok cast => .ok (cast.map Prod.snd)
      | .error fatal => .error fatal.fault := by
  induction nodes with
  | nil => rfl
  | cons placed rest ih =>
    rw [List.mapM_cons, assemble]
    cases registry.create placed with
    | error fault => rfl
    | ok node =>
      rw [ih]
      cases assemble registry rest <;> rfl

theorem validate_eq (executor : Executor) (workflow : Workflow) :
    executor.validate workflow =
      match Plan.build workflow with
      | .error fault => .error fault
      | .ok plan =>
        match assemble executor.registry workflow.nodes with
        | .error fatal => .error fatal.fault
        | .ok _ => .ok plan := by
  unfold validate
  cases Plan.build workflow with
  | error fault => rfl
  | ok plan =>
    rw [mapM_create]
    cases assemble executor.registry workflow.nodes <;> rfl

variable {id : Uuid} {plan : Plan} {trigger : List Item} {finished after final : Finished}
  {w w' : World}

/-- A turn that comes to its end is a run of the node at its position, on inputs that are fixed
by what was finished before. -/
theorem turn_returned {position : Nat}
    (h : perform w (executor.turn id workflow plan trigger cast position finished) =
      (.returned (.ok after), w')) :
    ∃ placed node given output between, cast[position]? = some (placed, node) ∧
      inputs workflow plan trigger position placed node finished = some given ∧
      perform w.moment (RunWork.node node (executor.context id placed node given)
        executor.itemTimeout placed.retryPolicy) = (.returned (.ok output), between) ∧
      w' = between.told (.nodeFinished placed.id placed.type output !output.anyError) ∧
      after = finished ++ [(placed.id, output)] := by
  unfold turn at h
  rw [perform_bind_of_returned (perform_isCancelled w)] at h
  split at h
  · cases h
  split at h
  · cases h
  next placed node hm =>
    split at h
    · cases h
    next given hg =>
      obtain ⟨outcome, between, hr, h⟩ := returned_of_bind h
      split at h
      · cases h
      next output =>
        cases h
        exact ⟨placed, node, given, output, between, hm, hg, hr, rfl, rfl⟩

section Asks

variable {Q : Run.Ask → Prop} (within : ∀ question, Q (.within question))
  (calls : ∀ call, Q (.begin call)) (tells : ∀ notice, Q (.notify notice))
include within calls tells

/-- The turns of a run ask what its nodes ask, and tell its sink of them. -/
theorem turn_asks (position : Nat) (finished : Finished) :
    Asks Q True (executor.turn id workflow plan trigger cast position finished) := by
  refine (Asks.question (within _)).bind fun _ => .ite trivial ?_
  split
  · trivial
  · split
    · trivial
    · refine (node_asks within (fun _ _ => calls _) (calls _) _).bind fun outcome => ?_
      cases outcome with
      | error fault => trivial
      | ok output => exact (Asks.question (tells _)).bind fun _ => trivial

theorem follow_asks (positions : List Nat) (finished : Finished) :
    Asks Q True (executor.follow id workflow plan trigger cast positions finished) := by
  induction positions generalizing finished with
  | nil => trivial
  | cons position rest ih =>
    refine (turn_asks within calls tells position finished).bind fun outcome => ?_
    cases outcome with
    | error fatal => trivial
    | ok after => exact ih after

end Asks

theorem follow_returned_cons {position : Nat} {rest : List Nat}
    (h : perform w (executor.follow id workflow plan trigger cast (position :: rest) finished) =
      (.returned (.ok final), w')) :
    ∃ after between, perform w (executor.turn id workflow plan trigger cast position finished) =
        (.returned (.ok after), between) ∧
      perform between (executor.follow id workflow plan trigger cast rest after) =
        (.returned (.ok final), w') := by
  obtain ⟨outcome, between, hr, h⟩ := returned_of_bind h
  split at h
  · cases h
  next after => exact ⟨after, between, hr, h⟩

/-- The id of the node at a position. -/
def idAt (cast : List (Placed × Node)) (position : Nat) : String :=
  (cast.map fun member => member.1.id).getD position ""

theorem idAt_of_assemble {registry : Registry}
    (h : assemble registry workflow.nodes = .ok cast) : idAt cast = (workflow.ids.getD · "") := by
  funext position
  rw [idAt, Workflow.ids, ← (assemble_eq_ok h).1, List.map_map]
  rfl

theorem idAt_eq {position : Nat} {placed : Placed} {node : Node}
    (h : cast[position]? = some (placed, node)) : idAt cast position = placed.id := by
  simp [idAt, List.getD_eq_getElem?_getD, h]

/-- A run of nodes adds them to what is finished, in their order. -/
theorem follow_finished {positions : List Nat}
    (h : perform w (executor.follow id workflow plan trigger cast positions finished) =
      (.returned (.ok final), w')) :
    finished <+: final ∧
      final.map Prod.fst = finished.map Prod.fst ++ positions.map (idAt cast) := by
  induction positions generalizing w finished with
  | nil =>
    cases h
    simp
  | cons position rest ih =>
    obtain ⟨after, between, ht, hf⟩ := follow_returned_cons h
    obtain ⟨placed, node, _, output, _, hm, _, _, _, rfl⟩ := turn_returned ht
    obtain ⟨hp, hn⟩ := ih hf
    refine ⟨(List.prefix_append _ _).trans hp, ?_⟩
    rw [hn]
    simp [idAt_eq hm]

theorem conclude_returned {started : Nat} {outcome : Except Fatal Finished} {result : Result}
    (h : perform w (conclude id workflow started outcome) = (.returned (.ok result), w')) :
    outcome = .ok result.finished ∧ w'.calls = w.calls := by
  unfold conclude at h
  rw [perform_bind_of_returned (perform_now w)] at h
  dsimp only at h
  split at h
  next finished =>
    rw [perform_bind_of_returned (perform_notify _ _)] at h
    cases h
    exact ⟨rfl, by simp⟩
  next fatal =>
    rw [perform_bind_of_returned (perform_notify _ _)] at h
    cases h

/-- The surroundings when a run has told its sink that it starts. -/
def started (workflow : Workflow) (w : World) : World :=
  w.moment.told (.started (some workflow.title))

/-- A run that completes has run the nodes of a sound workflow as they are scheduled, and has told
its sink so. -/
theorem execute_ran {trigger : Option (List Item)} {result : Result}
    (h : perform w (executor.execute id workflow trigger) = (.returned (.ok result), w')) :
    workflow.Sound ∧ ∃ cast ended, assemble executor.registry workflow.nodes = .ok cast ∧
      perform (started workflow w) (executor.follow id workflow workflow.graph
        (trigger.getD [.empty]) cast workflow.graph.schedule []) =
          (.returned (.ok result.finished), ended) ∧
      perform ended (conclude id workflow w.clock (.ok result.finished)) =
        (.returned (.ok result), w') := by
  change perform (started workflow w) (executor.undertake id workflow trigger >>=
    conclude id workflow w.clock) = _ at h
  obtain ⟨outcome, ended, hu, hc⟩ := returned_of_bind h
  obtain ⟨rfl, _⟩ := conclude_returned hc
  unfold undertake at hu
  split at hu
  next plan hp =>
    obtain ⟨sound, rfl⟩ := Plan.build_eq_ok_iff.mp hp
    unfold drive at hu
    split at hu
    · cases hu
    next cast ha =>
      obtain ⟨outcome, _, hf, hu⟩ := returned_of_bind hu
      split at hu
      · cases hu
      split at hu
      · cases hu
      cases hu
      exact ⟨sound, cast, ended, ha, hf, hc⟩
  · cases hu

/-- The calls of a run that completes are those of its nodes. -/
theorem execute_returned {trigger : Option (List Item)} {result : Result}
    (h : perform w (executor.execute id workflow trigger) = (.returned (.ok result), w')) :
    workflow.Sound ∧ ∃ cast ended, assemble executor.registry workflow.nodes = .ok cast ∧
      perform (started workflow w) (executor.follow id workflow workflow.graph
        (trigger.getD [.empty]) cast workflow.graph.schedule []) =
          (.returned (.ok result.finished), ended) ∧
      w.callsSince w' = (started workflow w).callsSince ended := by
  obtain ⟨sound, cast, ended, ha, hf, hc⟩ := execute_ran h
  have hb : w.Later (started workflow w) := (World.Later.moment w).trans (.told _ _)
  obtain ⟨_, hcalls⟩ := conclude_returned hc
  refine ⟨sound, cast, ended, ha, hf, ?_⟩
  rw [hb.callsSince_trans ((later_of_perform hf).trans (later_of_perform hc)),
    (later_of_perform hf).callsSince_trans (later_of_perform hc),
    (later_of_perform hc).callsSince_eq_nil hcalls, hb.callsSince_eq_nil (by simp [started])]
  simp

/-- What a run comes to once its nodes have had their turns. -/
def tally (workflow : Workflow) : Except Fatal Finished → Except Fatal Finished
  | .error fatal => .error fatal
  | .ok finished =>
    if finished.length < workflow.nodes.length then
      .error ⟨none, .unreachable (unreached workflow finished)⟩
    else .ok finished

theorem drive_eq {trigger : Option (List Item)}
    (assembled : assemble executor.registry workflow.nodes = .ok cast) :
    executor.drive id workflow trigger plan =
      (executor.follow id workflow plan (trigger.getD [.empty]) cast plan.schedule []) >>=
        fun outcome => pure (tally workflow outcome) := by
  rw [drive, assembled]
  dsimp only
  congr 1
  funext outcome
  cases outcome with
  | error fatal => rfl
  | ok finished =>
    unfold tally
    dsimp only
    split <;> rfl

/-- A run of a workflow that the check refuses is over at once, with the same fault; any other is a
run of its nodes. -/
theorem undertake_cases (executor : Executor) (id : Uuid) (workflow : Workflow)
    (trigger : Option (List Item)) :
    (∃ fatal, executor.validate workflow = .error fatal.fault ∧
      executor.undertake id workflow trigger = pure (.error fatal)) ∨
    ∃ cast, executor.validate workflow = .ok workflow.graph ∧ workflow.Sound ∧
      assemble executor.registry workflow.nodes = .ok cast ∧
      executor.undertake id workflow trigger =
        (executor.follow id workflow workflow.graph (trigger.getD [.empty]) cast
          workflow.graph.schedule []) >>= fun outcome => pure (tally workflow outcome) := by
  rw [validate_eq]
  unfold undertake
  cases hp : Plan.build workflow with
  | error fault => exact .inl ⟨⟨none, fault⟩, rfl, rfl⟩
  | ok plan =>
    obtain ⟨sound, rfl⟩ := Plan.build_eq_ok_iff.mp hp
    cases hc : assemble executor.registry workflow.nodes with
    | error fatal =>
      refine .inl ⟨fatal, rfl, ?_⟩
      dsimp only
      rw [drive, hc]
    | ok cast => exact .inr ⟨cast, rfl, sound, rfl, drive_eq hc⟩

theorem undertake_asks {Q : Run.Ask → Prop} (within : ∀ question, Q (.within question))
    (calls : ∀ call, Q (.begin call)) (tells : ∀ notice, Q (.notify notice))
    (trigger : Option (List Item)) : Asks Q True (executor.undertake id workflow trigger) := by
  rcases undertake_cases executor id workflow trigger with ⟨fatal, -, hu⟩ | ⟨cast, -, -, -, hu⟩
  · rw [hu]
    trivial
  · rw [hu]
    exact (follow_asks within calls tells _ _).bind fun _ => trivial

theorem tally_eq_ok {outcome : Except Fatal Finished} (h : tally workflow outcome = .ok final) :
    outcome = .ok final := by
  cases outcome with
  | error fatal => cases h
  | ok finished =>
    unfold tally at h
    dsimp only at h
    split at h
    · cases h
    · exact h

theorem returned_of_tally {work : RunWork (Except Fatal Finished)}
    (h : perform w (work >>= fun outcome => pure (tally workflow outcome)) =
      (.returned (.ok final), w')) : perform w work = (.returned (.ok final), w') := by
  obtain ⟨outcome, between, hf, h⟩ := returned_of_bind h
  obtain ⟨ht, rfl⟩ : Ending.returned (tally workflow outcome) = .returned (.ok final) ∧
      between = w' := Prod.mk.inj h
  rw [hf, tally_eq_ok (Ending.returned.inj ht)]

/-- Nodes that all come to their end have had their turns. -/
theorem undertake_returned {trigger : Option (List Item)}
    (h : perform w (executor.undertake id workflow trigger) = (.returned (.ok final), w')) :
    ∃ cast, workflow.Sound ∧ assemble executor.registry workflow.nodes = .ok cast ∧
      executor.undertake id workflow trigger =
        (executor.follow id workflow workflow.graph (trigger.getD [.empty]) cast
          workflow.graph.schedule []) >>= (fun outcome => pure (tally workflow outcome)) ∧
      perform w (executor.follow id workflow workflow.graph (trigger.getD [.empty]) cast
        workflow.graph.schedule []) = (.returned (.ok final), w') := by
  rcases undertake_cases executor id workflow trigger with
    ⟨fatal, -, hu⟩ | ⟨cast, -, sound, assembled, hu⟩
  · rw [hu] at h
    cases h
  · rw [hu] at h
    exact ⟨cast, sound, assembled, hu, returned_of_tally h⟩

end Executor

end Conveyor
