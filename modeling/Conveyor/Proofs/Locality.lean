import Conveyor.Proofs.Outcome
import Conveyor.Proofs.Dataflow

namespace Conveyor
open RunWork

variable {α β : Type}

/-- The same invocation in another run. -/
def Context.inRun (id : Uuid) (ctx : Context) : Context := { ctx with executionId := id }

namespace RunWork

/-- Two computations come to one value, each among the other parties of its own run, if both
return and the token never fires. -/
def Agree (w v : World) (first second : RunWork α) : Prop :=
  ∀ ⦃w₁ v₁ w₂ v₂ : World⦄ ⦃value value' : α⦄, w.SameParties w₁ → v.SameParties v₁ →
    perform w₁ first = (.returned value, w₂) → perform v₁ second = (.returned value', v₂) →
      w₂.cancelled = false → v₂.cancelled = false → value' = value

namespace Agree

variable {w v : World}

theorem pure (value : α) : Agree w v (Pure.pure value : RunWork α) (Pure.pure value) := by
  intro w₁ v₁ w₂ v₂ _ _ _ _ h h' _ _
  cases h
  cases h'
  rfl

theorem panic (payload : Option String) : Agree w v (.panic payload : RunWork α) (.panic payload) := by
  intro w₁ v₁ w₂ v₂ _ _ _ _ h
  cases h

theorem bind {first second : RunWork α} {next next' : α → RunWork β} (h : Agree w v first second)
    (hn : ∀ value, Agree w v (next value) (next' value)) :
    Agree w v (first >>= next) (second >>= next') := by
  intro w₁ v₁ w₂ v₂ _ _ hw hv hr hr' calm calm'
  obtain ⟨value, w₃, hf, hr⟩ := returned_of_bind hr
  obtain ⟨value', v₃, hf', hr'⟩ := returned_of_bind hr'
  have he := h hw hv hf hf' ((later_of_perform hr).calm calm) ((later_of_perform hr').calm calm')
  subst he
  exact hn value' (hw.trans (parties_of_perform hf)) (hv.trans (parties_of_perform hf')) hr hr'
    calm calm'

theorem ite {c : Bool} {yes yes' no no' : RunWork α} (hy : Agree w v yes yes')
    (hn : Agree w v no no') : Agree w v (if c then yes else no) (if c then yes' else no') := by
  split
  · exact hy
  · exact hn

theorem isCancelled : Agree w v isCancelled isCancelled := by
  intro w₁ v₁ w₂ v₂ _ _ _ _ h h' calm calm'
  cases h
  cases h'
  exact calm'.trans calm.symm

theorem awaitCancel (millis : Nat) :
    Agree w v (awaitCancel (some millis)) (awaitCancel (some millis)) := by
  intro w₁ v₁ w₂ v₂ _ _ _ _ h h' calm calm'
  obtain ⟨_, _, hr⟩ := perform_awaitCancel w₁ millis
  obtain ⟨_, _, hr'⟩ := perform_awaitCancel v₁ millis
  rw [hr] at h
  rw [hr'] at h'
  cases h
  cases h'
  exact calm'.trans calm.symm

end Agree

/-- How node code ends, and after how long, does not depend on the run it is in: what it was given,
the item and the number of the attempt fix it, among the other parties of either run. -/
structure Steady (w v : World) (node : Node) (ctx : Context) (id : Uuid) : Prop where
  setup : ∀ w' v' : World, w.SameParties w' → v.SameParties v' →
    w'.cancelled = false → v'.cancelled = false →
      course v' (node.setup (ctx.inRun id)) = course w' (node.setup ctx)
  run : ∀ (w' v' : World) (index number : Nat), w.SameParties w' → v.SameParties v' →
    w'.cancelled = false → v'.cancelled = false →
      course v' (node.run (ctx.inRun id) index number) = course w' (node.run ctx index number)

end RunWork

section Node

variable {w v : World} {node : Node} {ctx : Context} {id : Uuid} {limit : Option Nat}
  {policy : Option RetryPolicy}

theorem abandoned_agree (outcome : Except Failure Output) :
    Agree w v (abandoned outcome) (abandoned outcome) := by
  unfold abandoned
  split
  · exact .isCancelled
  · exact .pure false

variable (steady : Steady w v node ctx id)
include steady

theorem prepare_agree : Agree w v (prepare node ctx) (prepare node (ctx.inRun id)) := by
  intro w₁ v₁ w₂ v₂ _ _ hw hv h h' calm calm'
  have hs := steady.setup (w₁.note (.began (.setup ctx.nodeId ctx.inputs)))
    (v₁.note (.began (.setup ctx.nodeId ctx.inputs))) (hw.trans ⟨rfl, rfl, rfl⟩)
    (hv.trans ⟨rfl, rfl, rfl⟩) ((later_of_perform h).calm calm) ((later_of_perform h').calm calm')
  have he := (prepare_eq_course h' calm').trans (congrArg Prod.fst hs)
  rw [← prepare_eq_course h calm] at he
  cases he
  rfl

theorem call_agree (index number : Nat) :
    Agree w v (call node ctx limit index number) (call node (ctx.inRun id) limit index number) := by
  intro w₁ v₁ w₂ v₂ _ _ hw hv h h' calm calm'
  have hs := steady.run (w₁.note (.began (.attempt ctx.nodeId ctx.inputs index number)))
    (v₁.note (.began (.attempt ctx.nodeId ctx.inputs index number))) index number
    (hw.trans ⟨rfl, rfl, rfl⟩) (hv.trans ⟨rfl, rfl, rfl⟩) ((later_of_perform h).calm calm)
    ((later_of_perform h').calm calm')
  have hc := congrArg (fun alone => curtailed (limit.map Limit.of) alone.1 alone.2) hs
  have he := ((call_eq_curtailed h' calm').trans hc).trans (call_eq_curtailed h calm).symm
  cases he
  rfl

theorem attempt_agree (index number : Nat) :
    Agree w v (attempt node ctx limit index number)
      (attempt node (ctx.inRun id) limit index number) :=
  Agree.isCancelled.bind fun _ => .ite (.pure _) (call_agree steady index number)

theorem persist_agree (policy : RetryPolicy) (index number more : Nat) :
    Agree w v (persist node ctx limit policy index number more)
      (persist node (ctx.inRun id) limit policy index number more) := by
  induction more generalizing number with
  | zero => exact attempt_agree steady index number
  | succ more ih =>
    refine (attempt_agree steady index number).bind fun outcome => ?_
    split
    · exact .pure _
    · exact .pure _
    · exact (Agree.awaitCancel _).bind fun _ => .ite (.pure _) (ih (number + 1))

theorem item_agree (index : Nat) :
    Agree w v (item node ctx limit policy index) (item node (ctx.inRun id) limit policy index) := by
  unfold item
  split
  · exact attempt_agree steady index 1
  · exact persist_agree steady _ index 1 _

theorem items_agree (indices : List Nat) (ports : Ports) :
    Agree w v (items node ctx limit policy indices ports)
      (items node (ctx.inRun id) limit policy indices ports) := by
  induction indices generalizing ports with
  | nil => exact .pure _
  | cons index rest ih =>
    refine Agree.isCancelled.bind fun _ => .ite (.pure _) ?_
    refine (item_agree steady index).bind fun outcome => ?_
    refine (abandoned_agree outcome).bind fun _ => .ite (.pure _) ?_
    have hc : contribute (ctx.inRun id) index outcome ports = contribute ctx index outcome ports :=
      rfl
    rw [hc]
    split
    · exact ih _
    · exact .panic none

/-- A steady node puts out the same in both runs, if it is given the same. -/
theorem node_agree :
    Agree w v (RunWork.node node ctx limit policy)
      (RunWork.node node (ctx.inRun id) limit policy) := by
  have hsame : (ctx.inRun id).description = ctx.description := rfl
  unfold RunWork.node
  rw [hsame]
  split
  · exact .panic none
  · refine (prepare_agree steady).bind fun outcome => ?_
    cases outcome with
    | ok => exact items_agree steady _ _
    | error e => exact .pure _

end Node

/-- What is merged for a node is fixed by the outputs of those that edges lead from to it. -/
theorem Ports.merge_congr {outputs outputs' : Finished} {edges : List Edge}
    (h : ∀ edge ∈ edges, Table.get? edge.source outputs = Table.get? edge.source outputs') :
    merge outputs edges = merge outputs' edges := by
  funext ports
  induction edges generalizing ports with
  | nil => rfl
  | cons edge rest ih =>
    have ih := ih fun e he => h e (by simp [he])
    unfold merge
    simp only [h edge (by simp), ih]

namespace Workflow

/-- What a node is run on, given the outputs of a whole run: the trigger items, or one empty item
where there is no trigger, if no edge leads to the node; else what is merged for it, if there is
room for that. -/
def supply (workflow : Workflow) (trigger : Option (List Item)) (outputs : Table Ports)
    (declared : Nat) (id : String) : Option Ports :=
  if ∀ edge ∈ workflow.edges, edge.destination ≠ id then some [trigger.getD [.empty]]
  else Ports.collect workflow id declared outputs

/-- Only the edges that lead to a node, and the outputs they lead from, matter to it. -/
theorem supply_congr {workflow other : Workflow} {outputs outputs' : Table Ports} {id : String}
    (edges : other.edges.filter (·.destination = id) = workflow.edges.filter (·.destination = id))
    (h : ∀ edge ∈ workflow.edges, edge.destination = id →
      outputs'.get? edge.source = outputs.get? edge.source)
    (trigger : Option (List Item)) (declared : Nat) :
    other.supply trigger outputs' declared id = workflow.supply trigger outputs declared id := by
  have hstart (workflow : Workflow) : (∀ edge ∈ workflow.edges, edge.destination ≠ id) ↔
      workflow.edges.filter (·.destination = id) = [] := by
    simp [List.filter_eq_nil_iff]
  have hmerge : Ports.collect other id declared outputs' =
      Ports.collect workflow id declared outputs := by
    unfold Ports.collect
    rw [edges]
    refine congrArg _ (Ports.merge_congr fun edge he => ?_)
    obtain ⟨he, hdest⟩ := List.mem_filter.mp he
    exact h edge he (of_decide_eq_true hdest)
  unfold supply
  simp only [hstart, edges, hmerge]

end Workflow

namespace Executor

variable {executor : Executor} {workflow : Workflow} {plan : Plan} {cast : List (Placed × Node)}
  {id : Uuid} {w w' : World}

/-- In a run of nodes every position has its turn, in which its node is run on what those before
it have put out. -/
theorem follow_turn {trigger : List Item} {finished final : Finished} {front rest : List Nat}
    {position : Nat}
    (h : perform w (executor.follow id workflow plan trigger cast (front ++ position :: rest)
      finished) = (.returned (.ok final), w')) :
    ∃ placed node done given output before between, cast[position]? = some (placed, node) ∧
      done.map Prod.fst = finished.map Prod.fst ++ front.map (idAt cast) ∧
      inputs workflow plan trigger position placed node done = some given ∧
      perform before (RunWork.node node (executor.context id placed node given)
        executor.itemTimeout placed.retryPolicy) = (.returned (.ok output), between) ∧
      w.SameParties before ∧ between.Later w' ∧ done ++ [(placed.id, output)] <+: final := by
  induction front generalizing w finished with
  | nil =>
    obtain ⟨after, between, ht, hf⟩ := follow_returned_cons h
    obtain ⟨placed, node, given, output, ended, hm, hg, hr, rfl, rfl⟩ := turn_returned ht
    exact ⟨placed, node, finished, given, output, w.moment, ended, hm, by simp, hg, hr, .moment w,
      (World.Later.told _ _).trans (later_of_perform hf), (follow_finished hf).1⟩
  | cons first front ih =>
    obtain ⟨after, between, ht, hf⟩ := follow_returned_cons h
    obtain ⟨_, _, _, _, _, hfirst, _, _, _, rfl⟩ := turn_returned ht
    obtain ⟨placed, node, done, given, output, before, ended, hm, hn, hg, hr, hw, hl, hp⟩ := ih hf
    refine ⟨placed, node, done, given, output, before, ended, hm, ?_, hg, hr,
      (parties_of_perform ht).trans hw, hl, hp⟩
    rw [hn]
    simp [idAt_eq hfirst]

variable {trigger : Option (List Item)} {result : Result}

/-- In a run that completes every node is run once, on what by the outputs at the end of the run
leads to it, and what it puts out is its output. -/
theorem completed_turn
    (h : perform w (executor.execute id workflow trigger) = (.returned (.ok result), w'))
    {placed : Placed} (hp : placed ∈ workflow.nodes) :
    ∃ node given output before between, executor.registry.create placed = .ok node ∧
      workflow.supply trigger result.outputs node.description.inputs placed.id = some given ∧
      perform before (RunWork.node node (executor.context id placed node given)
        executor.itemTimeout placed.retryPolicy) = (.returned (.ok output), between) ∧
      w.SameParties before ∧ between.Later w' ∧ result.output? placed.id = some output := by
  obtain ⟨sound, cast, ended, ha, hf, hc⟩ := execute_ran h
  obtain ⟨hnodes, hcreate⟩ := assemble_eq_ok ha
  obtain ⟨position, hat⟩ := List.getElem?_of_mem hp
  have hplace : position ∈ workflow.graph.schedule := by
    obtain ⟨hlt, _⟩ := List.getElem?_eq_some_iff.mp hat
    exact sound.mem_graph_schedule.mpr (by simpa [Workflow.ids] using hlt)
  obtain ⟨front, rest, turn⟩ := List.append_of_mem hplace
  rw [turn] at hf
  obtain ⟨member, node, done, given, output, before, between, hm, hn, hg, hr, hw, hl, hkept⟩ :=
    follow_turn hf
  have hmember : member = placed := by
    rw [← hnodes, List.getElem?_map, hm] at hat
    exact Option.some.inj hat
  subst hmember
  obtain ⟨hidx, hfresh, hready⟩ := ready_of_turn sound ha turn (by simpa using hn) hm
  have hunique : (result.finished.map Prod.fst).Nodup := by
    obtain ⟨_, ho⟩ := order_eq_schedule h
    exact (ho ▸ sound.schedule_perm).nodup_iff.mpr sound.unique
  refine ⟨node, given, output, before, between, hcreate _ (List.mem_of_getElem? hm), ?_, hr,
    (World.SameParties.trans ((World.SameParties.moment w).trans (.told _ _)) hw),
    hl.trans (later_of_perform hc), ?_⟩
  · have hstart := Workflow.graph_isStart_iff sound.joined (List.mem_map_of_mem hp)
    rw [hidx] at hstart
    have hlooked : ∀ edge ∈ workflow.edges, edge.destination = member.id →
        result.outputs.get? edge.source = Table.get? edge.source done := by
      intro edge he hdest
      have hp := (List.prefix_append _ _).trans hkept
      exact Eq.symm <| get?_of_prefix hp hunique (hready edge he hdest)
    rw [Workflow.supply_congr rfl hlooked, ← hg, inputs, Workflow.supply]
    simp only [hstart]
  · rw [Result.output?, Result.outputs, ← get?_of_prefix hkept hunique (by simp),
      Table.get?_append, Table.get?_eq_none_iff.mpr hfresh]
    simp [Table.get?]

/-- The outputs of a part of a workflow that nothing outside of it leads to do not depend on what
else there is: in any other workflow that has the same nodes and, to each of them, the same
edges in the same order, they come out the same. -/
theorem outputs_local {id' : Uuid} {other : Workflow} {result' : Result} {v v' : World}
    (h : perform w (executor.execute id workflow trigger) = (.returned (.ok result), w'))
    (calm : w'.cancelled = false)
    (h' : perform v (executor.execute id' other trigger) = (.returned (.ok result'), v'))
    (calm' : v'.cancelled = false) {part : String → Prop}
    (shared : ∀ s, part s → ∃ placed, placed ∈ workflow.nodes ∧ placed ∈ other.nodes ∧
      placed.id = s ∧ ∀ node given, executor.registry.create placed = .ok node →
        Steady w v node (executor.context id placed node given) id')
    (closed : ∀ s u, part s → workflow.Leads u s → part u)
    (edges : ∀ s, part s → other.edges.filter (·.destination = s) =
      workflow.edges.filter (·.destination = s)) :
    ∀ s, part s → ∃ output, result.output? s = some output ∧ result'.output? s = some output := by
  obtain ⟨sound, _⟩ := order_eq_schedule h
  intro s
  -- What leads to a node stands before it in the order in which the first run has run them.
  induction hn : workflow.schedule.idxOf s using Nat.strong_induction_on generalizing s with
  | _ n ih =>
    intro hs
    subst hn
    obtain ⟨placed, hp, hp', rfl, steady⟩ := shared s hs
    obtain ⟨node, given, output, before, between, hm, hg, hr, hw, hl, ho⟩ := completed_turn h hp
    obtain ⟨node', given', output', before', between', hm', hg', hr', hv, hl', ho'⟩ :=
      completed_turn h' hp'
    rw [hm] at hm'
    cases hm'
    have hlooked : ∀ edge ∈ workflow.edges, edge.destination = placed.id →
        result'.outputs.get? edge.source = result.outputs.get? edge.source := by
      intro edge he hdest
      have hbefore := sound.orders_schedule.early edge he
      rw [hdest] at hbefore
      obtain ⟨_, hsource, hsource'⟩ :=
        ih _ hbefore edge.source rfl (closed _ _ hs ⟨edge, he, rfl, hdest⟩)
      exact hsource'.trans hsource.symm
    rw [Workflow.supply_congr (edges _ hs) hlooked, hg] at hg'
    cases hg'
    have hsame := node_agree (steady node given hm) hw hv hr hr' (hl.calm calm) (hl'.calm calm')
    cases hsame
    exact ⟨_, ho, ho'⟩

end Executor

/-- A node that takes the longer the later the item comes. -/
def Node.slow : Node where
  description := { displayName := "Slow", name := "slow" }
  run ctx index _ := do
    NodeWork.sleep (30 * (index + 1))
    return { items := [ctx.payload index] }

theorem Node.slow_steady (w v : World) (ctx : Context) (id : Uuid) : Steady w v slow ctx id where
  setup w' v' _ _ _ _ := (course_done v' _).trans (course_done w' _).symm
  run w' v' index number _ _ _ _ := by
    have hr (ctx : Context) : slow.run ctx index number =
        Work.ask (.sleep (Node.nap (30 * (index + 1)))) fun _ =>
          .done (.ok { items := [ctx.payload index] }) := rfl
    rw [hr, hr, course_nap, course_nap]
    rfl

theorem Nodes.Debug.node_steady (w v : World) (ctx : Context) (id : Uuid) :
    Steady w v Nodes.Debug.node ctx id where
  setup w' v' _ _ _ _ := (course_done v' _).trans (course_done w' _).symm
  run w' v' index _ _ _ _ _ :=
    (course_done v' (Nodes.Debug.run ctx index)).trans (course_done w' _).symm

/-- Makes the built-in node types and a slow one, and cuts off attempts. -/
def Executor.hasty : Executor where
  registry := Nodes.standard.register "slow" fun _ => .ok Node.slow
  itemTimeout := some 50

/-- A slow node that leads to another one. -/
def Workflow.line : Workflow where
  id := "line"
  nodes := [{ id := "first", type := "slow" }, { id := "second", type := "debug.log" }]
  edges := [{ source := "first", destination := "second" }]

/-- The line with its nodes declared the other way round, a branch and something after it. -/
def Workflow.branched : Workflow where
  id := "branched"
  nodes :=
    [{ id := "second", type := "debug.log" }, { id := "aside", type := "slow" },
      { id := "first", type := "slow" }, { id := "last", type := "debug.log" }]
  edges :=
    [{ source := "second", destination := "last" }, { source := "aside", destination := "last" },
      { source := "first", destination := "second" }]

theorem Executor.outputs_local_branched :
    ∃ result result' w' v' output,
      perform {} (hasty.execute ⟨0⟩ .line (some [.empty, .empty])) = (.returned (.ok result), w') ∧
      perform {} (hasty.execute ⟨1⟩ .branched (some [.empty, .empty])) =
        (.returned (.ok result'), v') ∧
      result.output? "second" = some output ∧ result'.output? "second" = some output := by
  have hline : (perform {} (hasty.execute ⟨0⟩ .line (some [.empty, .empty]))).1.isOk = true ∧
      (perform {} (hasty.execute ⟨0⟩ .line (some [.empty, .empty]))).2.cancelled = false := by
    decide +kernel
  have hbranched :
      (perform {} (hasty.execute ⟨1⟩ .branched (some [.empty, .empty]))).1.isOk = true ∧
      (perform {} (hasty.execute ⟨1⟩ .branched (some [.empty, .empty]))).2.cancelled = false := by
    decide +kernel
  obtain ⟨result, w', h⟩ := ok_of_isOk hline.1
  obtain ⟨result', v', h'⟩ := ok_of_isOk hbranched.1
  have shared : ∀ s, s = "first" ∨ s = "second" → ∃ placed, placed ∈ Workflow.line.nodes ∧
      placed ∈ Workflow.branched.nodes ∧ placed.id = s ∧
      ∀ node given, hasty.registry.create placed = .ok node →
        Steady {} {} node (hasty.context ⟨0⟩ placed node given) ⟨1⟩ := by
    rintro s (rfl | rfl)
    · refine ⟨{ id := "first", type := "slow" }, by simp [Workflow.line],
        by simp [Workflow.branched], rfl, ?_⟩
      intro node given hm
      cases hm
      exact Node.slow_steady _ _ _ _
    · refine ⟨{ id := "second", type := "debug.log" }, by simp [Workflow.line],
        by simp [Workflow.branched], rfl, ?_⟩
      intro node given hm
      cases hm
      exact Nodes.Debug.node_steady _ _ _ _
  have closed : ∀ s u, s = "first" ∨ s = "second" → Workflow.line.Leads u s →
      u = "first" ∨ u = "second" := by
    rintro s u _ ⟨edge, he, rfl, _⟩
    simp [Workflow.line] at he
    simp [he]
  have edges : ∀ s, s = "first" ∨ s = "second" →
      Workflow.branched.edges.filter (·.destination = s) =
        Workflow.line.edges.filter (·.destination = s) := by
    rintro s (rfl | rfl) <;> decide
  obtain ⟨output, ho, ho'⟩ := outputs_local h (by simpa [h] using hline.2) h'
    (by simpa [h'] using hbranched.2) shared closed edges "second" (.inr rfl)
  exact ⟨result, result', w', v', output, h, h', ho, ho'⟩

end Conveyor
