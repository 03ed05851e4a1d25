import Conveyor.Proofs.Callbacks
import Conveyor.Proofs.Items
import Conveyor.Proofs.Reach

namespace Conveyor
open RunWork

section Setup

variable (ctx : Context) (e : Failure)

theorem setupFailure_ne_nil : setupFailure ctx e ≠ [] := by
  unfold setupFailure
  split
  · simp
  · simpa using ‹¬ctx.itemCount = 0›

theorem kind_of_mem_setupFailure {item : Item} (h : item ∈ setupFailure ctx e) :
    item.error.map ItemError.kind = some e.kind := by
  unfold setupFailure at h
  split at h
  · rw [List.mem_singleton.mp h]
    rfl
  · obtain ⟨index, _, rfl⟩ := List.mem_map.mp h
    rfl

theorem spoiled_anyError : (spoiled ctx e).anyError = true := by
  obtain ⟨item, hm⟩ := List.exists_mem_of_ne_nil _ (setupFailure_ne_nil ctx e)
  have hk := kind_of_mem_setupFailure ctx e hm
  refine List.any_eq_true.mpr ⟨item, ?_, ?_⟩
  · exact Ports.mem_all_iff.mpr ⟨0, by rwa [on_spoiled, if_pos rfl]⟩
  · unfold Item.isError
    cases he : item.error with
    | none => simp [he] at hk
    | some error => rfl

end Setup

namespace Executor

variable {executor : Executor} {workflow : Workflow} {cast : List (Placed × Node)} {id : Uuid}
  {plan : Plan} {w w' : World}

/-- A run of nodes tells its sink of no node but those that are done in the end. -/
theorem follow_names {trigger : List Item} {positions : List Nat} {finished final : Finished}
    (h : perform w (executor.follow id workflow plan trigger cast positions finished) =
      (.returned (.ok final), w')) {name type : String} {output : Ports} {success : Bool}
    (hn : .nodeFinished name type output success ∈ w.noticesSince w') :
    name ∈ final.map Prod.fst := by
  induction positions generalizing w finished with
  | nil =>
    cases h
    simp at hn
  | cons position rest ih =>
    obtain ⟨after, between, ht, hf⟩ := follow_returned_cons h
    rw [(later_of_perform ht).noticesSince_trans (later_of_perform hf)] at hn
    rcases List.mem_append.mp hn with hn | hn
    · obtain ⟨placed, node, _, put, _, hat, _, _, _, rfl⟩ := turn_returned ht
      have hone : Notice.nodeFinished name type output success =
          .nodeFinished placed.id placed.type put !put.anyError := by
        simpa [turn_notices ht, tidings, hat] using hn
      obtain ⟨rfl, _⟩ := Notice.nodeFinished.inj hone
      have hm : placed.id ∈ (finished ++ [(placed.id, put)]).map Prod.fst := by simp
      exact ((follow_finished hf).1.map Prod.fst).subset hm
    · exact ih hf hn

/-- Ids tell placed nodes apart, and each has one node made for it. -/
theorem cast_unique (sound : workflow.Sound)
    (assembled : assemble executor.registry workflow.nodes = .ok cast) {position : Nat}
    {placed other : Placed} {node made : Node} (hat : cast[position]? = some (other, made))
    (hplaced : placed ∈ workflow.nodes) (hmade : executor.registry.create placed = .ok node)
    (hid : placed.id = other.id) : other = placed ∧ made = node := by
  obtain ⟨hnodes, hcreate⟩ := assemble_eq_ok assembled
  have hmem := List.mem_of_getElem? hat
  have hother : other ∈ workflow.nodes := hnodes ▸ List.mem_map_of_mem hmem
  obtain rfl := List.inj_on_of_nodup_map sound.unique hplaced hother hid
  have hsame := (hcreate _ hmem).symm.trans hmade
  exact ⟨rfl, Except.ok.inj hsame⟩

variable {trigger : Option (List Item)} {placed : Placed} {node : Node} {given : Ports}
  {before after : World} {ending : Ending (Except Fault Result)}

/-- Of names that differ nothing follows the last. -/
theorem eq_nil_of_last {front back : List String} {name : String}
    (unique : (front ++ name :: back).Nodup)
    (last : (front ++ name :: back).getLast? = some name) : back = [] := by
  cases back with
  | nil => rfl
  | cons next rest =>
    have hm : name ∈ next :: rest := by
      apply List.mem_of_getLast?
      simpa using last
    exact absurd hm (List.nodup_cons.mp (List.nodup_append.mp unique).2.1).1

theorem perform_afterwards_error (w : World) (began : Nat) (back : List Nat) (fatal : Fatal) :
    perform w (executor.afterwards id workflow trigger cast began back (.error fatal)) =
      (.returned (.error fatal.fault), w.moment.told (.failed fatal.node fatal.fault.message)) :=
  rfl

/-- Once the token has fired, the next turn ends a run. -/
theorem perform_afterwards_fired {w : World} (fired : w.cancelled = true) (began position : Nat)
    (back : List Nat) (finished : Finished) :
    (perform w (executor.afterwards id workflow trigger cast began (position :: back)
      (.ok finished))).1 = .returned (.error .cancelled) := by
  have hm : w.moment.cancelled = true := (World.Later.moment w).cancelled fired
  have hturn : perform w (executor.turn id workflow workflow.graph (trigger.getD [.empty]) cast
      position finished) = (.returned (.error ⟨none, .cancelled⟩), w.moment) := by
    unfold turn
    rw [perform_bind_of_returned (perform_isCancelled w), hm]
    rfl
  have hfollow : perform w (executor.onward id workflow workflow.graph (trigger.getD [.empty]) cast
      (position :: back) (.ok finished)) = (.returned (.error ⟨none, .cancelled⟩), w.moment) :=
    perform_bind_of_returned hturn _
  rw [afterwards, perform_bind_of_returned hfollow]
  rfl

/-- When all nodes are done a run completes, whether or not the token has fired. -/
theorem perform_afterwards_last (w : World) (began : Nat) {finished : Finished}
    (all : finished.length = workflow.nodes.length) :
    ∃ result, (perform w (executor.afterwards id workflow trigger cast began []
      (.ok finished))).1 = .returned (.ok result) ∧ result.finished = finished := by
  have htally : tally workflow (.ok finished) = .ok finished := if_neg (Nat.not_lt.mpr all.ge)
  have hp : perform w (executor.afterwards id workflow trigger cast began [] (.ok finished)) =
      perform w (conclude id workflow began (tally workflow (.ok finished))) := rfl
  rw [hp, htally, perform_conclude]
  exact ⟨_, rfl, rfl⟩

section Within

variable (h : perform w (executor.execute id workflow trigger) = (ending, w'))
  (hplaced : placed ∈ workflow.nodes) (made : executor.registry.create placed = .ok node)
include h hplaced made

/-- An attempt that the token ends fails the run, and nothing is told of its node. -/
theorem abandoned_at_attempt {index number : Nat}
    (within : Performs w (executor.execute id workflow trigger) before
      (call node (executor.context id placed node given) executor.itemTimeout index number))
    (hcall : perform before (call node (executor.context id placed node given)
      executor.itemTimeout index number) = (.returned (.error .cancelled), after))
    (fired : after.cancelled = true) :
    ending = .returned (.error .cancelled) ∧ ∀ type output success,
      .nodeFinished placed.id type output success ∉ w.noticesSince w' := by
  obtain ⟨more, hreach⟩ := Performs.reaches_begin within
  obtain ⟨cast, front, position, back, done, v, left, sound, hc, hs, hf, ht, hrest⟩ :=
    execute_reached hreach
  obtain ⟨other, node', given', hat, ⟨_, _, hsetup, _⟩ | ⟨_, _, next, hattempt, hleft, hnext⟩⟩ :=
    turn_reached ht
  · cases hsetup
  obtain ⟨hid, hgiven, rfl, rfl⟩ := Call.attempt.inj hattempt
  obtain ⟨rfl, rfl⟩ := cast_unique sound hc hat hplaced made hid
  obtain rfl : given = given' := hgiven
  obtain ⟨ended, hended, _⟩ := hnext after fired
  have hturn : perform v (executor.turn id workflow workflow.graph (trigger.getD [.empty]) cast
      position done) = (.returned (.error ⟨some other.id, .cancelled⟩), ended) := by
    rw [ht.perform_eq, hleft]
    exact (perform_bind_of_returned hcall _).trans hended
  rw [hreach.perform_eq, hrest, perform_bind_of_returned (ht.perform_eq.symm.trans hturn),
    perform_afterwards_error] at h
  cases h
  refine ⟨rfl, fun type output success hn => ?_⟩
  have hb : w.Later (started workflow w) := (World.Later.moment w).trans (.told _ _)
  have hl := (later_of_perform hf).trans (later_of_perform hturn)
  have he := (World.Later.moment ended).trans
    (.told _ (.failed (some other.id) Fault.cancelled.message))
  have hstart : w.noticesSince (started workflow w) = [.started (some workflow.title)] :=
    World.noticesSince_moment_told w _
  rw [hb.noticesSince_trans (hl.trans he), hl.noticesSince_trans he,
    (later_of_perform hf).noticesSince_trans (later_of_perform hturn), turn_notices hturn,
    hstart, World.noticesSince_moment_told] at hn
  have hfront : .nodeFinished other.id type output success ∈
      (started workflow w).noticesSince v := by
    simpa [tidings] using hn
  obtain ⟨_, fresh, _⟩ := ready_of_turn sound hc hs (by simpa using (follow_finished hf).2) hat
  exact fresh (follow_names hf hfront)

/-- A setup that fails, be it because the token has fired, fails no run: what is left of it are
errors, and the sink is told of them. The run goes on to the next node, which is not set up if the
token has fired, and completes if there is none. -/
theorem spoiled_at_setup {e : Failure}
    (within : Performs w (executor.execute id workflow trigger) before
      (prepare node (executor.context id placed node given)))
    (hsetup : perform before (prepare node (executor.context id placed node given)) =
      (.returned (.error e), after)) :
    .nodeFinished placed.id placed.type (spoiled (executor.context id placed node given) e) false ∈
        w.noticesSince w' ∧
      (workflow.schedule.getLast? = some placed.id → ∃ result, ending = .returned (.ok result) ∧
        result.output? placed.id = some (spoiled (executor.context id placed node given) e)) ∧
      (workflow.schedule.getLast? ≠ some placed.id → after.cancelled = true →
        ending = .returned (.error .cancelled)) := by
  obtain ⟨more, hreach⟩ := Performs.reaches_begin within
  obtain ⟨cast, front, position, back, done, v, left, sound, hc, hs, hf, ht, hrest⟩ :=
    execute_reached hreach
  obtain ⟨other, node', given', hat, ⟨blanks, roomy, hcall, _, hleft⟩ | ⟨_, _, _, hattempt, _⟩⟩ :=
    turn_reached ht
  swap
  · cases hattempt
  obtain ⟨hid, hgiven⟩ := Call.setup.inj hcall
  obtain ⟨rfl, rfl⟩ := cast_unique sound hc hat hplaced made hid
  obtain rfl : given = given' := hgiven
  let output := spoiled (executor.context id other node' given) e
  let told := after.told (.nodeFinished other.id other.type output !output.anyError)
  have hturn : perform v (executor.turn id workflow workflow.graph (trigger.getD [.empty]) cast
      position done) = (.returned (.ok (done ++ [(other.id, output)])), told) := by
    rw [ht.perform_eq, hleft, perform_bind]
    have hnode : perform (before.note (.began (.setup other.id given)))
        (freely (node'.setup (executor.context id other node' given)) >>=
          produce node' (executor.context id other node' given) executor.itemTimeout
            other.retryPolicy blanks) = (.returned (.ok output), after) := by
      refine (perform_bind_of_returned hsetup _).trans ?_
      rw [produce_error roomy]
      rfl
    rw [hcall, hnode]
    rfl
  rw [hreach.perform_eq, hrest, perform_bind_of_returned (ht.perform_eq.symm.trans hturn)] at h
  have hnames : (done ++ [(other.id, output)]).map Prod.fst = front.map (idAt cast) ++ [other.id] := by
    simp [(follow_finished hf).2]
  have hschedule : workflow.schedule =
      front.map (idAt cast) ++ other.id :: back.map (idAt cast) := by
    rw [Workflow.schedule, ← idAt_of_assemble hc, hs, List.map_append, List.map_cons, idAt_eq hat]
  have hunique : workflow.schedule.Nodup := sound.nodup_schedule
  refine ⟨?_, fun hlast => ?_, fun hlast fired => ?_⟩
  · have hb : w.Later before := hreach.later
    have hl : before.Later after := later_of_perform hsetup
    have hn := World.noticesSince_told after (.nodeFinished other.id other.type output !output.anyError)
    have he : told.Later w' := later_of_perform h
    rw [(hb.trans hl).noticesSince_trans ((World.Later.told after _).trans he),
      (World.Later.told after _).noticesSince_trans he, hn, spoiled_anyError]
    simp [output]
  · obtain rfl : back = [] :=
      List.map_eq_nil_iff.mp (eq_nil_of_last (hschedule ▸ hunique) (hschedule ▸ hlast))
    have hfinal : (done ++ [(other.id, output)]).map Prod.fst = workflow.schedule :=
      hnames.trans hschedule.symm
    have hall : (done ++ [(other.id, output)]).length = workflow.nodes.length := by
      rw [← sound.length_schedule, ← hfinal, List.length_map]
    obtain ⟨result, hr, hfinished⟩ := perform_afterwards_last told w.clock hall
    refine ⟨result, (congrArg Prod.fst h).symm.trans hr, ?_⟩
    have unique : (result.finished.map Prod.fst).Nodup := by
      rwa [hfinished, hfinal]
    have hmem : (other.id, output) ∈ result.finished :=
      hfinished ▸ List.mem_append_right _ (List.mem_singleton_self _)
    exact Table.get?_ofList_of_mem unique hmem
  · cases back with
    | nil => exact absurd (by simp [hschedule]) hlast
    | cons next rest =>
      have hfired : told.cancelled = true := (World.Later.told after _).cancelled fired
      exact (congrArg Prod.fst h).symm.trans (perform_afterwards_fired hfired _ _ _ _)

end Within

/-- What becomes of a call that says it was cancelled. An attempt at an item that says so once the
token has fired fails the run, and nothing is told of its node, whichever node and item it is. A
setup that says so is taken for one that failed: whether or not the token has fired, the sink is
told of its node, with errors for output, and if it was the last one, the run completes. -/
theorem cancelled_call (h : perform w (executor.execute id workflow trigger) = (ending, w'))
    (hplaced : placed ∈ workflow.nodes) (made : executor.registry.create placed = .ok node)
    (given : Ports) :
    (∀ index number before after,
      Performs w (executor.execute id workflow trigger) before
        (call node (executor.context id placed node given) executor.itemTimeout index number) →
      perform before (call node (executor.context id placed node given) executor.itemTimeout index
        number) = (.returned (.error .cancelled), after) →
      after.cancelled = true →
        ending = .returned (.error .cancelled) ∧ ∀ type output success,
          .nodeFinished placed.id type output success ∉ w.noticesSince w') ∧
    ∀ before after,
      Performs w (executor.execute id workflow trigger) before
        (prepare node (executor.context id placed node given)) →
      perform before (prepare node (executor.context id placed node given)) =
        (.returned (.error .cancelled), after) →
      ∃ output, .nodeFinished placed.id placed.type output false ∈ w.noticesSince w' ∧
        output.on 0 = setupFailure (executor.context id placed node given) .cancelled ∧
        output.on 0 ≠ [] ∧
        (∀ item ∈ output.on 0, item.error.map ItemError.kind = some "cancelled") ∧
        (workflow.schedule.getLast? = some placed.id → ∃ result,
          ending = .returned (.ok result) ∧ result.output? placed.id = some output) ∧
        (workflow.schedule.getLast? ≠ some placed.id → after.cancelled = true →
          ending = .returned (.error .cancelled)) := by
  refine ⟨fun index number before after within hcall fired =>
    abandoned_at_attempt h hplaced made within hcall fired, fun before after within hsetup => ?_⟩
  obtain ⟨told, last, next⟩ := spoiled_at_setup h hplaced made within hsetup
  have hon : (spoiled (executor.context id placed node given) .cancelled).on 0 = _ :=
    (on_spoiled _ _ 0).trans (if_pos rfl)
  refine ⟨_, told, hon, ?_, fun item hm => ?_, last, next⟩
  · rw [hon]
    exact setupFailure_ne_nil _ _
  · rw [hon] at hm
    exact kind_of_mem_setupFailure _ _ hm

end Executor

/-- A node that fires the token and says that it was cancelled, while it is set up. -/
def Node.bolter : Node where
  description := { displayName := "Bolter", name := "bolter" }
  setup _ := do
    NodeWork.ask .cancel
    throw .cancelled
  run ctx index _ := return { items := [ctx.payload index] }

/-- A node that does so at its items. -/
def Node.dropper : Node where
  description := { displayName := "Dropper", name := "dropper" }
  run _ _ _ := do
    NodeWork.ask .cancel
    throw .cancelled

def Executor.leaving : Executor where
  registry := (Nodes.standard.register "bolter" fun _ => .ok .bolter).register "dropper"
    fun _ => .ok .dropper

/-- One node alone. -/
def Workflow.single (type : String) : Workflow where
  id := "single"
  nodes := [{ id := "only", type }]
  edges := []

theorem performs_single (type : String) {node : Node} (trigger : List Item)
    (made : Executor.leaving.registry.create { id := "only", type } = .ok node) :
    Performs {} (Executor.leaving.execute ⟨0⟩ (.single type) (some trigger))
      (Executor.started (.single type) {}).moment
      (RunWork.node node (Executor.leaving.context ⟨0⟩ { id := "only", type } node [trigger])
        none none) :=
  Executor.performs_alone rfl rfl made rfl

theorem last_of_single (type : String) :
    (Workflow.single type).schedule.getLast? = some "only" := by
  have hschedule : (Workflow.single "").schedule.getLast? = some "only" := by decide +kernel
  exact hschedule

/-- A node that fires the token in its setup and says that it was cancelled, alone and without
items: the run completes, and the sink is told of an error that says so. -/
theorem Executor.cancelled_call_becomes_data :
    ∃ (given : Ports) (before after w' : World) (result : Result) (output : Ports),
      (leaving.validate (.single "bolter")).isOk = true ∧
      Performs {} (leaving.execute ⟨0⟩ (.single "bolter") (some [])) before
        (prepare .bolter (leaving.context ⟨0⟩ { id := "only", type := "bolter" } .bolter given)) ∧
      perform before
        (prepare .bolter (leaving.context ⟨0⟩ { id := "only", type := "bolter" } .bolter given)) =
          (.returned (.error .cancelled), after) ∧
      after.cancelled = true ∧
      perform {} (leaving.execute ⟨0⟩ (.single "bolter") (some [])) =
        (.returned (.ok result), w') ∧
      .nodeFinished "only" "bolter" output false ∈ World.noticesSince {} w' ∧
      ∃ item ∈ output.on 0, item.error.map ItemError.kind = some "cancelled" := by
  rcases h : perform {} (leaving.execute ⟨0⟩ (.single "bolter") (some [])) with ⟨ending, w'⟩
  have within := (performs_single "bolter" [] rfl).first
  obtain ⟨told, last, _⟩ := spoiled_at_setup h (List.mem_singleton_self _) rfl within rfl
  obtain ⟨result, rfl, _⟩ := last (last_of_single _)
  refine ⟨_, _, _, w', result, _, rfl, within, rfl, rfl, rfl, told, ?_⟩
  rw [on_spoiled, if_pos rfl]
  exact ⟨_, List.mem_singleton_self _, rfl⟩

theorem Executor.cancelled_call_leaving :
    (∃ w', perform {} (leaving.execute ⟨0⟩ (.single "dropper") (some [.empty])) =
      (.returned (.error .cancelled), w')) ∧
    ∃ result w' output,
      perform {} (leaving.execute ⟨0⟩ (.single "bolter") (some [.empty])) =
        (.returned (.ok result), w') ∧ output.on 0 ≠ [] ∧
      .nodeFinished "only" "bolter" output false ∈ World.noticesSince {} w' := by
  constructor
  · rcases h : perform {} (leaving.execute ⟨0⟩ (.single "dropper") (some [.empty])) with
      ⟨ending, w'⟩
    have ready := (performs_single "dropper" [.empty] rfl).rest rfl
    -- The token has not fired when the item is begun, nor when its first attempt is.
    have attempt := (ready.rest (perform_isCancelled _)).first.rest (perform_isCancelled _)
    obtain ⟨rfl, _⟩ := (cancelled_call h (List.mem_singleton_self _) rfl [[.empty]]).1 0 1 _ _
      attempt rfl rfl
    exact ⟨w', rfl⟩
  · rcases h : perform {} (leaving.execute ⟨0⟩ (.single "bolter") (some [.empty])) with
      ⟨ending, w'⟩
    have within := (performs_single "bolter" [.empty] rfl).first
    obtain ⟨output, told, _, items, _, last, _⟩ :=
      (cancelled_call h (List.mem_singleton_self _) rfl [[.empty]]).2 _ _ within rfl
    obtain ⟨result, rfl, _⟩ := last (last_of_single _)
    exact ⟨result, w', output, rfl, items, told⟩

end Conveyor
