import Conveyor.Proofs.Loop

namespace Conveyor
open RunWork

namespace Workflow

variable {workflow : Workflow} {processed : List Nat} {position : Nat} {placed : Placed}
  {id : String}

/-- A workflow in the middle of a run. The counters are those of the declared edges whose source
is not done, and the queue holds the nodes that are not done and wait for nothing, each once. -/
structure Balanced (workflow : Workflow) (agenda : Agenda) (finished : Finished) : Prop where
  counters : agenda.waiting.length = workflow.nodes.length
  waiting : ∀ (position : Nat) (placed : Placed), workflow.nodes[position]? = some placed →
    agenda.waiting[position]? = some (workflow.edges.countP fun edge =>
      edge.destination = placed.id ∧ edge.source ∉ finished.map Prod.fst)
  queue : ∀ position, position ∈ agenda.ready ↔ ∃ placed,
    workflow.nodes[position]? = some placed ∧ placed.id ∉ finished.map Prod.fst ∧
      agenda.waiting[position]? = some 0
  order : finished.map (some ·.1) = agenda.processed.map (workflow.ids[·]?)
  apart : (agenda.processed ++ agenda.ready).Nodup

theorem mem_map_getD_iff (unique : workflow.ids.Nodup)
    (inside : ∀ p ∈ processed, p < workflow.ids.length) (declared : id ∈ workflow.ids) :
    id ∈ processed.map (workflow.ids.getD · "") ↔ workflow.ids.idxOf id ∈ processed := by
  constructor
  · intro h
    obtain ⟨p, hp, hid⟩ := List.mem_map.mp h
    have same := hid.trans (getD_idxOf declared).symm
    rwa [← getD_inj unique (inside p hp) (List.idxOf_lt_length_of_mem declared) same]
  · intro h
    exact List.mem_map.mpr ⟨_, h, getD_idxOf declared⟩

namespace Sound

variable (sound : workflow.Sound)
include sound

/-- The edges that are pending at a position are those that are declared to lead to its node from
nodes that are not done. -/
theorem pending_eq (h : workflow.nodes[position]? = some placed)
    (inside : ∀ p ∈ processed, p < workflow.ids.length) :
    workflow.graph.pending processed position = workflow.edges.countP fun edge =>
      edge.destination = placed.id ∧ edge.source ∉ processed.map (workflow.ids.getD · "") := by
  rw [Plan.pending, graph, List.countP_map]
  apply List.countP_congr
  intro edge he
  obtain ⟨hs, hd⟩ := sound.joined edge he
  simp only [Plan.place, Function.comp_apply, sound.idxOf_eq_iff h hd,
    mem_map_getD_iff sound.unique inside hs]

theorem mem_processed_iff (h : workflow.nodes[position]? = some placed)
    (inside : ∀ p ∈ processed, p < workflow.ids.length) :
    placed.id ∈ processed.map (workflow.ids.getD · "") ↔ position ∈ processed := by
  have declared : placed.id ∈ workflow.ids := List.mem_of_getElem? (ids_getElem? h)
  rw [mem_map_getD_iff sound.unique inside declared, (sound.idxOf_eq_iff h declared).mpr rfl]

/-- What holds of positions holds of the nodes that stand there. -/
theorem balanced {agenda : Agenda} {finished : Finished}
    (h : Agenda.Consistent workflow.graph agenda)
    (names : finished.map Prod.fst = agenda.processed.map (workflow.ids.getD · "")) :
    workflow.Balanced agenda finished := by
  have inside : ∀ p ∈ agenda.processed, p < workflow.ids.length := fun p hp => (h.settled p hp).1
  have size : workflow.graph.size = workflow.nodes.length := List.length_map _
  constructor
  · exact h.length.trans size
  · intro position placed hp
    rw [h.getElem?_waiting (lt_size_graph hp), sound.pending_eq hp inside, names]
  · intro position
    rw [h.ready, names]
    constructor
    · rintro ⟨hlt, fresh, hz⟩
      have hp := List.getElem?_eq_getElem (Nat.lt_of_lt_of_eq hlt size)
      refine ⟨_, hp, ?_, by rw [h.getElem?_waiting hlt, hz]⟩
      rwa [sound.mem_processed_iff hp inside]
    · rintro ⟨placed, hp, fresh, hz⟩
      have hlt := lt_size_graph hp
      rw [h.getElem?_waiting hlt] at hz
      rw [sound.mem_processed_iff hp inside] at fresh
      exact ⟨hlt, fresh, Option.some.inj hz⟩
  · have named : finished.map (some ·.1) = (finished.map Prod.fst).map some := by simp
    rw [named, names, List.map_map]
    apply List.map_congr_left
    intro p hp
    simp [List.getD_eq_getElem?_getD, inside p hp]
  · exact h.unique

end Sound

end Workflow

namespace Executor

/-- Where the loop stands when it looks at its queue: what has become of the surroundings, what is
left to do, and what is done. -/
inductive AtHead (executor : Executor) (id : Uuid) (workflow : Workflow) (plan : Plan)
    (tables : Tables) (trigger : List Item) (cast : List (Placed × Node)) (origin : World) :
    World → Agenda → Finished → Prop
  | start : executor.AtHead id workflow plan tables trigger cast origin origin tables.start []
  | turn {w w' : World} {agenda next : Agenda} {finished after : Finished} {position : Nat}
      {ready : List Nat}
      (head : executor.AtHead id workflow plan tables trigger cast origin w agenda finished)
      (queue : agenda.ready = position :: ready)
      (ran : perform w (executor.turn id workflow plan trigger cast position finished) =
        (.returned (.ok after), w'))
      (advanced : agenda.advance? tables position ready = some next) :
      executor.AtHead id workflow plan tables trigger cast origin w' next after

variable {executor : Executor} {id : Uuid} {workflow : Workflow} {plan : Plan} {tables : Tables}
  {trigger : List Item} {cast : List (Placed × Node)} {agenda : Agenda} {finished final : Finished}
  {origin w w' : World}

namespace AtHead

/-- All that is still to come of a run is what the loop makes of where it stands. -/
theorem perform_eq
    (head : executor.AtHead id workflow plan tables trigger cast origin w agenda finished) :
    perform origin (executor.loop id workflow plan tables trigger cast tables.start []) =
      perform w (executor.loop id workflow plan tables trigger cast agenda finished) := by
  induction head with
  | start => rfl
  | turn head queue ran advanced ih =>
    rw [ih, loop_cons queue, perform_bind_of_returned ran]
    dsimp only
    rw [advanced]

/-- Every turn leaves the agenda consistent, whatever the node does in it. -/
theorem consistent (inside : plan.Inside)
    (head : executor.AtHead id workflow plan plan.tables trigger cast origin w agenda finished) :
    Agenda.Consistent plan agenda ∧
      finished.map Prod.fst = agenda.processed.map (idAt cast) := by
  induction head with
  | start =>
    rw [plan.start_tables]
    exact ⟨.start inside, rfl⟩
  | turn head queue ran advanced ih =>
    obtain ⟨h, names⟩ := ih
    obtain ⟨placed, node, _, output, _, hm, -, -, -, rfl⟩ := turn_returned ran
    obtain ⟨-, _, advanced', hn⟩ := h.advances queue
    cases advanced.symm.trans advanced'
    refine ⟨h.next inside hn, ?_⟩
    obtain ⟨_, _, rfl⟩ := Agenda.next?_eq_some_iff.mp hn
    rw [List.map_append, names, List.map_append, List.map_singleton, List.map_singleton,
      idAt_eq hm]

end AtHead

/-- A run whose nodes all come to their end has its last look at an empty queue. -/
theorem exists_last_head
    (head : executor.AtHead id workflow plan tables trigger cast origin w agenda finished)
    (h : perform w (executor.loop id workflow plan tables trigger cast agenda finished) =
      (.returned (.ok final), w')) :
    ∃ last, executor.AtHead id workflow plan tables trigger cast origin w' last final ∧
      last.ready = [] := by
  induction hleft : agenda.left using Nat.strong_induction_on generalizing w agenda finished with
  | _ left ih =>
    subst hleft
    cases queue : agenda.ready with
    | nil =>
      rw [loop_nil queue] at h
      cases h
      exact ⟨agenda, head, queue⟩
    | cons position ready =>
      rw [loop_cons queue] at h
      obtain ⟨outcome, between, ran, h⟩ := returned_of_bind h
      cases outcome with
      | error fatal => cases h
      | ok after =>
        cases advanced : agenda.advance? tables position ready with
        | none =>
          simp only [advanced] at h
          cases h
        | some next =>
          simp only [advanced] at h
          exact ih _ (Agenda.left_advance? queue advanced) (head.turn queue ran advanced) h rfl

/-- The counters and the queue of a run are right whenever the loop looks at them, for any workflow
that is accepted and whatever its nodes do. So the loop never counts below zero, and never looks
for a position that is not there. -/
theorem balanced_at_every_head (executor : Executor) (id : Uuid) (trigger : Option (List Item))
    (accepted : Plan.build workflow = .ok plan)
    (assembled : assemble executor.registry workflow.nodes = .ok cast) :
    ∃ tables, plan.tables? = some tables ∧ workflow.Tabulates tables ∧
      let run := executor.loop id workflow plan tables (trigger.getD [.empty]) cast
      let AtHead := executor.AtHead id workflow plan tables (trigger.getD [.empty]) cast
      executor.drive id workflow trigger plan =
        run tables.start [] >>= (fun outcome => pure (tally workflow outcome)) ∧
      ∀ origin,
        (∀ w agenda finished, AtHead origin w agenda finished →
          perform origin (run tables.start []) = perform w (run agenda finished) ∧
          workflow.Balanced agenda finished ∧
          ∀ position ready, agenda.ready = position :: ready →
            position < tables.successors.length ∧ position < cast.length ∧
              ∃ next, agenda.advance? tables position ready = some next) ∧
        ∀ final w', perform origin (run tables.start []) = (.returned (.ok final), w') →
          ∃ last, AtHead origin w' last final ∧ last.ready = [] := by
  obtain ⟨sound, rfl⟩ := Plan.build_eq_ok_iff.mp accepted
  refine ⟨_, Plan.tables?_eq sound.inside, sound.tabulates, ?_⟩
  refine ⟨drive_eq_loop sound.inside assembled, fun origin => ?_⟩
  constructor
  · intro w agenda finished head
    obtain ⟨h, names⟩ := head.consistent sound.inside
    rw [idAt_of_assemble assembled] at names
    refine ⟨head.perform_eq, sound.balanced h names, ?_⟩
    intro position ready queue
    obtain ⟨hlt, next, advanced, -⟩ := h.advances queue
    refine ⟨by rwa [Plan.length_tables_successors], ?_, next, advanced⟩
    have members := congrArg List.length (assemble_eq_ok assembled).1
    rw [List.length_map] at members
    exact Nat.lt_of_lt_of_eq hlt ((List.length_map _).trans members.symm)
  · intro final w' h
    exact exists_last_head .start h

theorem diamond_driven :
    ∃ finished w',
      perform {} (Executor.drive { registry := Nodes.standard } ⟨0⟩ .diamond none
        Workflow.diamond.graph) = (.returned (.ok finished), w') ∧
      finished.map Prod.fst = ["top", "right", "left", "bottom"] :=
  ⟨_, _, by cbv, by cbv⟩

theorem balanced_at_every_head_diamond :
    ∃ (tables : Tables) (cast : List (Placed × Node)) (w' : World) (last : Agenda)
      (finished : Finished), Workflow.diamond.graph.tables? = some tables ∧
      tables.inDegrees = [2, 1, 2, 0] ∧ tables.successors = [[], [0], [0], [2, 1, 2]] ∧
      Executor.AtHead { registry := Nodes.standard } ⟨0⟩ .diamond Workflow.diamond.graph tables
        [.empty] cast {} w' last finished ∧
      finished.map Prod.fst = ["top", "right", "left", "bottom"] ∧ last.ready = [] ∧
      Workflow.diamond.Balanced last finished := by
  have accepted : Plan.build .diamond = .ok Workflow.diamond.graph := by rfl
  have assembled : assemble Nodes.standard Workflow.diamond.nodes =
      .ok (Workflow.diamond.nodes.map fun placed => (placed, Nodes.Debug.node)) := by rfl
  have entered : Workflow.diamond.graph.tables? =
      some { inDegrees := [2, 1, 2, 0], successors := [[], [0], [0], [2, 1, 2]] } := by rfl
  obtain ⟨tables, built, -, drives, heads⟩ :=
    balanced_at_every_head { registry := Nodes.standard } ⟨0⟩ none accepted assembled
  cases built.symm.trans entered
  obtain ⟨finished, w', h, order⟩ := diamond_driven
  rw [drives] at h
  obtain ⟨balanced, ends⟩ := heads {}
  obtain ⟨last, head, empty⟩ := ends finished w' (returned_of_tally h)
  exact ⟨_, _, w', last, finished, built, rfl, rfl, head, order, empty,
    (balanced w' last finished head).2.1⟩

end Executor

end Conveyor
