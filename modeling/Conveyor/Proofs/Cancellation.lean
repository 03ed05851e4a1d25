import Conveyor.Proofs.Dataflow
import Conveyor.Proofs.Heeding
import Conveyor.Proofs.Items
import Conveyor.Proofs.Settling

namespace Conveyor
open RunWork

/-- The attempts at an item, from one with a given number on, with their outcomes: each but the last
fails, and there is a wait after it. -/
inductive RunWork.Tries (node : Node) (ctx : Context) (limit : Option Nat)
    (policy : Option RetryPolicy) (index : Nat) :
    Nat → World → List (Except Failure Output) → World → Prop
  | last {number : Nat} {w w' : World} {outcome : Except Failure Output}
      (tried : perform w (attempt node ctx limit index number) = (.returned outcome, w')) :
      Tries node ctx limit policy index number w [outcome] w'
  | again {number : Nat} {w failed waited w' : World} {e : Failure} {p : RetryPolicy}
      {others : List (Except Failure Output)}
      (tried : perform w (attempt node ctx limit index number) = (.returned (.error e), failed))
      (patient : policy = some p)
      (pause : perform failed (awaitCancel (some (Node.nap (p.delayFor number)))) =
        (.returned false, waited))
      (more : Tries node ctx limit policy index (number + 1) waited others w') :
      Tries node ctx limit policy index number w (.error e :: others) w'

section Item

variable {node : Node} {ctx : Context} {limit : Option Nat} {policy : Option RetryPolicy}
  {index number : Nat} {w w' : World} {outcome : Except Failure Output}

theorem RunWork.Tries.later {outcomes : List (Except Failure Output)}
    (h : Tries node ctx limit policy index number w outcomes w') : w.Later w' := by
  induction h with
  | last tried => exact later_of_perform tried
  | again tried _ pause _ ih => exact ((later_of_perform tried).trans (later_of_perform pause)).trans ih

/-- Unless the token has fired, an attempt is one call of the node's code. -/
theorem attempt_calls {ending : Ending (Except Failure Output)}
    (h : perform w (attempt node ctx limit index number) = (ending, w'))
    (calm : w'.cancelled = false) :
    w.callsSince w' = [.attempt ctx.nodeId ctx.inputs index number] := by
  unfold attempt at h
  rw [perform_bind_of_returned (perform_isCancelled w)] at h
  have later := later_of_perform h
  rw [if_neg (by simp [later.calm calm])] at h
  have hc : w.moment.callsSince w' = [.attempt ctx.nodeId ctx.inputs index number] :=
    callsSince_of_begin h (.guarded _ _)
  rw [(World.Later.moment w).callsSince_trans later,
    (World.Later.moment w).callsSince_eq_nil (World.calls_moment w), hc]
  rfl

theorem RunWork.Tries.calls {outcomes : List (Except Failure Output)}
    (h : Tries node ctx limit policy index number w outcomes w') (calm : w'.cancelled = false) :
    w.callsSince w' = (List.range' number outcomes.length).map
      (.attempt ctx.nodeId ctx.inputs index ·) := by
  induction h with
  | last tried => exact attempt_calls tried calm
  | again tried _ pause more ih =>
    have hp := later_of_perform pause
    rw [(later_of_perform tried).callsSince_trans (hp.trans more.later),
      attempt_calls tried ((hp.trans more.later).calm calm), hp.callsSince_trans more.later,
      callsSince_of_begins_none pause (.awaitCancel _), ih calm]
    rfl

theorem persist_tries {p : RetryPolicy} {more : Nat}
    (h : perform w (persist node ctx limit p index number more) = (.returned outcome, w'))
    (calm : w'.cancelled = false) :
    ∃ earlier, Tries node ctx limit (some p) index number w (earlier ++ [outcome]) w' ∧
      .error .cancelled ∉ earlier := by
  induction more generalizing w number with
  | zero => exact ⟨[], .last h, by simp⟩
  | succ more ih =>
    obtain ⟨first, failed, tried, ⟨rfl, rfl, -⟩ | ⟨e, waited, rfl, he, pause, h⟩⟩ := persist_cases h
    · exact ⟨[], .last tried, by simp⟩
    · obtain ⟨fired, -, rfl⟩ | ⟨patient, h⟩ := h
      · cases calm.symm.trans fired
      · obtain ⟨earlier, tries, hn⟩ := ih h
        refine ⟨.error e :: earlier, .again tried rfl (patient ▸ pause) tries, ?_⟩
        simpa [hn, eq_comm] using he

/-- An item that comes to its end while the token has not fired has been attempted again and again,
but never after an attempt that said it was cancelled. -/
theorem item_tries
    (h : perform w (item node ctx limit policy index) = (.returned outcome, w'))
    (calm : w'.cancelled = false) :
    ∃ earlier, Tries node ctx limit policy index 1 w (earlier ++ [outcome]) w' ∧
      .error .cancelled ∉ earlier := by
  cases policy with
  | none => exact ⟨[], .last h, by simp⟩
  | some p => exact persist_tries h calm

/-- A node's own word that it was cancelled is an error like another: its run goes on with the other
items, and one error is left of the item. -/
theorem node_goes_on {outcome : Except Fault Ports}
    (h : perform w (RunWork.node node ctx limit policy) = (.returned outcome, w'))
    (calm : w'.cancelled = false) :
    ∃ ports, outcome = .ok ports ∧
      ∀ ready, perform w (prepare node ctx) = (.returned (.ok ()), ready) →
        ∃ outcomes, Outcomes node ctx limit policy ready (List.range ctx.itemCount) outcomes w' ∧
          ∀ i, outcomes[i]? = some (.error .cancelled) → ∀ port,
            (ports.on port).filter (·.pairedItem = some i) =
              if port = 0 then [failureItem ctx .cancelled i] else [] := by
  cases outcome with
  | error fault => simp [(node_error h).2] at calm
  | ok ports =>
    refine ⟨ports, rfl, fun ready hs => ?_⟩
    obtain ⟨blanks, roomy, hi⟩ := items_of_node h hs
    obtain ⟨outcomes, chain, hone⟩ := items_failed roomy hi
    exact ⟨outcomes, chain, fun i ho => hone i _ ho⟩

end Item

namespace Executor

variable {executor : Executor} {workflow : Workflow} {plan : Plan} {id : Uuid}
  {trigger : Option (List Item)} {result : Result} {w w' : World}

/-- A run that completes has set every node up. -/
theorem began_of_completed
    (h : perform w (executor.execute id workflow trigger) = (.returned (.ok result), w'))
    {s : String} (hs : s ∈ workflow.ids) : ∃ inputs, .began (.setup s inputs) ∈ w.since w' := by
  obtain ⟨sound, cast, ended, ha, hf, hc⟩ := execute_returned h
  have hsetups := (follow_calls hf).1
  rw [← hc, idAt_of_assemble ha] at hsetups
  have hm : s ∈ ((w.callsSince w').filter Call.isSetup).map Call.node := by
    rw [hsetups]
    exact sound.schedule_perm.mem_iff.mpr hs
  obtain ⟨call, hcall, rfl⟩ := List.mem_map.mp hm
  obtain ⟨hcall, hsetup⟩ := List.mem_filter.mp hcall
  cases call with
  | setup node inputs => exact ⟨inputs, World.mem_callsSince.mp hcall⟩
  | attempt => cases hsetup

/-- Once the token has fired no call of a node's code begins, and if a node had not been set up by
then, the run is cancelled, unless it breaks down over a port that there is no room for. A run
in which the token never fires is not, not even by a node that says it was cancelled: no attempt
follows on such a one, an error is left of the item, and the run goes on. -/
theorem cancellation_safe (accepted : Plan.build workflow = .ok plan)
    (made : ∀ placed ∈ workflow.nodes, ∃ node, executor.registry.create placed = .ok node)
    (setups : ∀ placed ∈ workflow.nodes, ∀ node given,
      executor.registry.create placed = .ok node →
        SetsUp w (executor.execute id workflow trigger) node
          (executor.context id placed node given))
    {ending : Ending (Except Fault Result)}
    (h : perform w (executor.execute id workflow trigger) = (ending, w')) :
    (∀ before after, w.FiresBetween w' before after →
      (∀ call, .began call ∉ after) ∧
      ∀ s ∈ workflow.ids, (∀ inputs, .began (.setup s inputs) ∉ before) →
        ending = .returned (.error .cancelled) ∨
          executor.Crowds id workflow w (executor.execute id workflow trigger) ∧
            ending = .panicked none) ∧
    (w'.cancelled = false →
      ending ≠ .returned (.error .cancelled) ∧
      (∀ node ctx limit policy index before outcome after,
        Performs w (executor.execute id workflow trigger) before
          (item node ctx limit policy index) →
        perform before (item node ctx limit policy index) = (.returned outcome, after) →
          ∃ earlier, Tries node ctx limit policy index 1 before (earlier ++ [outcome]) after ∧
            .error .cancelled ∉ earlier ∧
            before.callsSince after = (List.range' 1 (earlier.length + 1)).map
              (.attempt ctx.nodeId ctx.inputs index ·)) ∧
      ∀ node ctx limit policy before outcome after,
        Performs w (executor.execute id workflow trigger) before
          (RunWork.node node ctx limit policy) →
        perform before (RunWork.node node ctx limit policy) = (.returned outcome, after) →
          ∃ ports, outcome = .ok ports ∧
            ∀ ready, perform before (prepare node ctx) = (.returned (.ok ()), ready) →
              ∃ outcomes,
                Outcomes node ctx limit policy ready (List.range ctx.itemCount) outcomes after ∧
                ∀ i, outcomes[i]? = some (.error .cancelled) →
                  (failureItem ctx .cancelled i).error.map ItemError.kind = some "cancelled" ∧
                  ∀ port, (ports.on port).filter (·.pairedItem = some i) =
                    if port = 0 then [failureItem ctx .cancelled i] else []) := by
  have hw : (perform w (executor.execute id workflow trigger)).2 = w' := by rw [h]
  constructor
  · intro before after fires
    have hnone := (executor.execute_heeds id workflow trigger w).none_after (hw ▸ fires)
    refine ⟨hnone, fun s hs unstarted => ?_⟩
    have fired := cancelled_of_fires h fires
    rcases execute_settles setups with
      ⟨value, _, hr, _⟩ | ⟨_, _, hr, calm⟩ | ⟨crowded, _, hr⟩
    · rw [h] at hr
      cases hr
      cases value with
      | error fault => exact .inl (by rw [(execute_error accepted made h).1])
      | ok result =>
        obtain ⟨inputs, hm⟩ := began_of_completed h hs
        rcases fires.mem_cases hm with hm | hm
        · exact absurd hm (unstarted inputs)
        · exact absurd hm (hnone _)
    · rw [h] at hr
      cases hr
      simp [fired] at calm
    · rw [h] at hr
      cases hr
      exact .inr ⟨crowded, rfl⟩
  · intro calm
    have hcalm : (perform w (executor.execute id workflow trigger)).2.cancelled = false := by
      rw [hw, calm]
    refine ⟨?_, ?_, ?_⟩
    · rintro rfl
      simp [(execute_error accepted made h).2] at calm
    · intro node ctx limit policy index before outcome after hp hr
      have hafter : after.cancelled = false := by simpa [hr] using hp.calm hcalm
      obtain ⟨earlier, tries, hn⟩ := item_tries hr hafter
      exact ⟨earlier, tries, hn, by simpa using tries.calls hafter⟩
    · intro node ctx limit policy before outcome after hp hr
      have hafter : after.cancelled = false := by simpa [hr] using hp.calm hcalm
      obtain ⟨ports, rfl, hports⟩ := node_goes_on hr hafter
      refine ⟨ports, rfl, fun ready hs => ?_⟩
      obtain ⟨outcomes, chain, hone⟩ := hports ready hs
      exact ⟨outcomes, chain, fun i ho => ⟨rfl, hone i ho⟩⟩

end Executor

/-- A node that says of every item that it was cancelled. -/
def Node.quitter : Node where
  description := { displayName := "Quitter", name := "quitter" }
  run _ _ _ := throw .cancelled

theorem Node.quitter_plain : quitter.Plain :=
  ⟨by decide, by decide, fun _ => rfl, fun _ _ _ => .inr ⟨_, rfl, .error _⟩⟩

def Executor.quitting : Executor where
  registry := Nodes.standard.register "quitter" fun _ => .ok Node.quitter

/-- A node that says it was cancelled, and one after it. -/
def Workflow.quits : Workflow where
  id := "quits"
  nodes :=
    [{ id := "first", type := "quitter", retryPolicy := some .default },
      { id := "second", type := "debug.log" }]
  edges := [{ source := "first", destination := "second" }]

/-- A node that fires the token, and puts its item out on a far port, though not on one of the last
that 64 bits can count. -/
def Node.rash : Node where
  description := { displayName := "Rash", name := "rash" }
  run ctx index _ := do
    NodeWork.ask .cancel
    return { port := 1 <<< 62, items := [ctx.payload index] }

def Executor.rushing : Executor where
  registry := Nodes.standard.register "rash" fun _ => .ok Node.rash

/-- A node that fires the token, and one after it. -/
def Workflow.rush : Workflow where
  id := "rush"
  nodes := [{ id := "first", type := "rash" }, { id := "second", type := "debug.log" }]
  edges := [{ source := "first", destination := "second" }]

/-- The token has fired before a node is set up, if it has fired at all and the node never is. -/
theorem World.exists_fires {w w' : World} {s : String}
    (fired : (w.since w').any Happening.isFired = true)
    (uncalled : s ∉ (w.callsSince w').map Call.node) :
    ∃ before after, w.FiresBetween w' before after ∧
      ∀ inputs, .began (.setup s inputs) ∉ before := by
  obtain ⟨happening, hm, hf⟩ := List.any_eq_true.mp fired
  obtain ⟨before, after, hs⟩ := List.append_of_mem hm
  cases happening <;> try cases hf
  refine ⟨before, after, .inl hs, fun inputs hm => uncalled ?_⟩
  have hc : Call.setup s inputs ∈ w.callsSince w' := World.mem_callsSince.mpr (by simp [hs, hm])
  exact List.mem_map_of_mem (f := Call.node) hc

/-- The token fires in a run of an accepted workflow before its second node is set up. Still the run
is not cancelled. -/
theorem Executor.cancelled_run_breaks :
    (rushing.validate .rush).isOk = true ∧
    (∀ ctx, Node.rash.setup ctx = pure ()) ∧
    ∃ before after w', perform {} (rushing.execute ⟨0⟩ .rush none) = (.panicked none, w') ∧
      World.FiresBetween {} w' before after ∧ "second" ∈ Workflow.rush.ids ∧
      ∀ inputs, .began (.setup "second" inputs) ∉ before := by
  obtain ⟨w', hw⟩ : ∃ w', perform {} (rushing.execute ⟨0⟩ .rush none) = (.panicked none, w') :=
    broken_of_isBroken (by decide +kernel)
  have fired : (World.since {} (perform {} (rushing.execute ⟨0⟩ .rush none)).2).any
      Happening.isFired = true := by decide +kernel
  have uncalled : "second" ∉
      (World.callsSince {} (perform {} (rushing.execute ⟨0⟩ .rush none)).2).map Call.node := by
    decide +kernel
  rw [hw] at fired uncalled
  obtain ⟨before, after, fires, unstarted⟩ := World.exists_fires fired uncalled
  exact ⟨rfl, fun _ => rfl, before, after, w', hw, fires, by decide, unstarted⟩

theorem Executor.cancellation_safe_quits :
    (∃ w', perform { alarm := .callback 1 } (quitting.execute ⟨0⟩ .quits none) =
      (.returned (.error .cancelled), w')) ∧
    (perform {} (quitting.execute ⟨0⟩ .quits none)).1 ≠ .returned (.error .cancelled) := by
  have accepted : Plan.build .quits = .ok Workflow.quits.graph := by rfl
  have makes : quitting.MakesPlain .quits := by
    intro placed hm
    simp only [Workflow.quits, List.mem_cons, List.not_mem_nil, or_false] at hm
    rcases hm with rfl | rfl
    · exact ⟨_, rfl, Node.quitter_plain⟩
    · exact ⟨_, rfl, Nodes.Debug.node_plain⟩
  have setups (w : World) : ∀ placed ∈ Workflow.quits.nodes, ∀ node given,
      quitting.registry.create placed = .ok node →
        SetsUp w (quitting.execute ⟨0⟩ .quits none) node (quitting.context ⟨0⟩ placed node given) :=
    fun placed hm node given hc => (makes.cooperates _ _ _ placed hm node given hc).setup
  constructor
  · obtain ⟨ending, w', h⟩ : ∃ ending w', perform { alarm := .callback 1 }
        (quitting.execute ⟨0⟩ .quits none) = (ending, w') := ⟨_, _, rfl⟩
    have hw : w' = (perform { alarm := .callback 1 } (quitting.execute ⟨0⟩ .quits none)).2 := by
      rw [h]
    -- The token fires while the sink hears of the first node, which is the only one called.
    have fired : (World.since { alarm := .callback 1 } w').any Happening.isFired = true := by
      rw [hw]
      decide +kernel
    have uncalled : "second" ∉ (World.callsSince { alarm := .callback 1 } w').map Call.node := by
      rw [hw]
      decide +kernel
    obtain ⟨before, after, fires, unstarted⟩ := World.exists_fires fired uncalled
    have safe := cancellation_safe accepted makes.made (setups _) h
    rcases (safe.1 before after fires).2 "second" (by decide) unstarted with rfl | ⟨crowded, _⟩
    · exact ⟨w', h⟩
    · exact absurd crowded (makes.not_crowds (by decide) _ _ _)
  · have calm : (perform {} (quitting.execute ⟨0⟩ .quits none)).2.cancelled = false := by
      decide +kernel
    exact ((cancellation_safe accepted makes.made (setups {}) rfl).2 calm).1

end Conveyor
