import Conveyor.Proofs.Echo
import Conveyor.Proofs.Notices
import Conveyor.Proofs.Settling
import Conveyor.Proofs.Steadfast

namespace Conveyor
open RunWork

/-- A notice without the time it has taken. -/
def Notice.untimed : Notice → Notice
  | completed nodes _ => completed nodes none
  | notice => notice

def Notice.OfNode : Notice → Prop
  | nodeFinished .. => True
  | _ => False

def Result.untimed (result : Result) : Result := { result with millis := 0 }

/-- The end of a run without the time it has taken. -/
def Ending.untimed : Ending (Except Fault Result) → Ending (Except Fault Result)
  | returned (.ok result) => returned (.ok result.untimed)
  | ending => ending

theorem World.clock_told (w : World) (notice : Notice) : (w.told notice).clock = w.clock :=
  ((Akin.fireIf _ w.moment).clock).trans (Akin.moment w).clock

namespace Executor

variable {executor : Executor} {id : Uuid} {workflow : Workflow} {plan : Plan}
  {cast : List (Placed × Node)} {w v w' v' : World}

/-- What the sink is told in the end. -/
def closing (millis : Nat) : Except Fatal Finished → Notice
  | .ok finished => .completed finished.length (some millis)
  | .error fatal => .failed fatal.node fatal.fault.message

/-- What a run comes to in the end. -/
def verdict (id : Uuid) (workflow : Workflow) (millis : Nat) :
    Except Fatal Finished → Except Fault Result
  | .ok finished => .ok { executionId := id, workflowId := workflow.id, finished, millis }
  | .error fatal => .error fatal.fault

/-- The last notice, if there is an end to tell of. -/
def farewell (millis : Nat) : Ending (Except Fatal Finished) → List Notice
  | .returned outcome => [closing millis outcome]
  | _ => []

theorem perform_conclude (w : World) (started : Nat) (outcome : Except Fatal Finished) :
    perform w (conclude id workflow started outcome) =
      (.returned (verdict id workflow (w.clock - started) outcome),
        w.moment.told (closing (w.clock - started) outcome)) := by
  cases outcome <;> rfl

/-- A run tells its sink of its start, then of what its nodes do, and then of its end. -/
theorem execute_parts {trigger : Option (List Item)} {ending : Ending (Except Fault Result)}
    (h : perform w (executor.execute id workflow trigger) = (ending, w')) :
    ∃ first between,
      perform (started workflow w) (executor.undertake id workflow trigger) = (first, between) ∧
      ending = first.map (verdict id workflow (between.clock - w.clock)) ∧
      w.noticesSince w' = .started (some workflow.title) ::
        ((started workflow w).noticesSince between ++
          farewell (between.clock - w.clock) first) ∧
      between.Later w' ∧ w'.clock = between.clock := by
  change perform (started workflow w) (executor.undertake id workflow trigger >>=
    conclude id workflow w.clock) = _ at h
  have hs : w.Later (started workflow w) := (World.Later.moment w).trans (.told _ _)
  have hn : w.noticesSince (started workflow w) = [.started (some workflow.title)] :=
    World.noticesSince_moment_told w _
  rw [perform_bind] at h
  rcases hu : perform (started workflow w) (executor.undertake id workflow trigger) with
    ⟨first, between⟩
  rw [hu] at h
  have hl := later_of_perform hu
  refine ⟨first, between, rfl, ?_⟩
  match first, h with
  | .returned outcome, h =>
    have hc := (perform_conclude between w.clock outcome).symm.trans h
    cases hc
    have ht : between.Later (between.moment.told (closing (between.clock - w.clock) outcome)) :=
      (World.Later.moment between).trans (.told _ _)
    refine ⟨rfl, ?_, ht, (World.clock_told _ _).trans (World.Akin.moment between).clock⟩
    rw [hs.noticesSince_trans (hl.trans ht), hl.noticesSince_trans ht, hn,
      World.noticesSince_moment_told]
    rfl
  | .panicked payload, h =>
    cases h
    refine ⟨rfl, ?_, .refl _, rfl⟩
    rw [hs.noticesSince_trans hl, hn]
    simp [farewell]
  | .stuck, h =>
    cases h
    refine ⟨rfl, ?_, .refl _, rfl⟩
    rw [hs.noticesSince_trans hl, hn]
    simp [farewell]

theorem length_tidings_le (cast : List (Placed × Node)) (position : Nat)
    (ending : Ending (Except Fatal Finished)) : (tidings cast position ending).length ≤ 1 := by
  unfold tidings
  split
  · split <;> simp
  · simp

theorem ofNode_of_tidings {position : Nat} {ending : Ending (Except Fatal Finished)}
    {notice : Notice} (h : notice ∈ tidings cast position ending) : notice.OfNode := by
  unfold tidings at h
  split at h
  · split at h
    · rw [List.mem_singleton.mp h]
      trivial
    · cases h
  · cases h

section Follow

variable {trigger : List Item} {ending ending' : Ending (Except Fatal Finished)}
  {finished : Finished} {positions : List Nat}

/-- Nothing but outputs is told of in a run of nodes. -/
theorem follow_notices
    (h : perform w (executor.follow id workflow plan trigger cast positions finished) =
      (ending, w')) : ∀ notice ∈ w.noticesSince w', notice.OfNode := by
  induction positions generalizing w finished with
  | nil =>
    cases h
    simp
  | cons position rest ih =>
    intro notice hm
    unfold follow at h
    rw [perform_bind] at h
    rcases ht : perform w (executor.turn id workflow plan trigger cast position finished) with
      ⟨first, between⟩
    rw [ht] at h
    have hturn : ∀ notice ∈ w.noticesSince between, notice.OfNode := by
      rw [turn_notices ht]
      exact fun notice => ofNode_of_tidings
    cases first with
    | returned outcome =>
      cases outcome with
      | ok after =>
        rw [(later_of_perform ht).noticesSince_trans (later_of_perform h)] at hm
        rcases List.mem_append.mp hm with hm | hm
        · exact hturn notice hm
        · exact ih h notice hm
      | error fatal =>
        cases h
        exact hturn notice hm
    | panicked | stuck =>
      cases h
      exact hturn notice hm

/-- A run of steadfast nodes in which the token may fire tells the sink what one does in which it
does not, or else it is cancelled after the first few of the outputs. -/
theorem follow_prefix
    (steadfast : ∀ member ∈ cast, ∀ given,
      Steadfast member.2 (executor.context id member.1 member.2 given) executor.itemTimeout)
    (trails : w.Trails v)
    (hw : perform w (executor.follow id workflow plan trigger cast positions finished) =
      (ending, w')) (calm : w'.cancelled = false) (ends : ending ≠ .stuck)
    (hv : perform v (executor.follow id workflow plan trigger cast positions finished) =
      (ending', v')) :
    ending' = ending ∧ v.noticesSince v' = w.noticesSince w' ∨
      (∃ node, ending' = .returned (.error ⟨node, .cancelled⟩)) ∧
        v.noticesSince v' <+: w.noticesSince w' ∧
        (v.noticesSince v').length < positions.length := by
  induction positions generalizing w v finished with
  | nil =>
    cases hw
    cases hv
    exact .inl ⟨rfl, by simp⟩
  | cons position rest ih =>
    unfold follow at hw hv
    rw [perform_bind] at hw hv
    rcases hpw : perform w (executor.turn id workflow plan trigger cast position finished) with
      ⟨first, w₁⟩
    rcases hpv : perform v (executor.turn id workflow plan trigger cast position finished) with
      ⟨first', v₁⟩
    rw [hpw] at hw
    rw [hpv] at hv
    have hnw := turn_notices hpw
    have hnv := turn_notices hpv
    have echo : Echo _ (executor.turn id workflow plan trigger cast position finished) w v :=
      turn_echo steadfast trails position finished
    have quit : (∃ node, first' = .returned (.error ⟨node, .cancelled⟩)) →
        (∃ node, ending' = .returned (.error ⟨node, .cancelled⟩)) ∧
          v.noticesSince v' <+: w.noticesSince w' ∧
          (v.noticesSince v').length < (position :: rest).length := by
      rintro ⟨node, rfl⟩
      cases hv
      rw [hnv]
      exact ⟨⟨node, rfl⟩, List.nil_prefix, Nat.zero_lt_succ _⟩
    cases first with
    | stuck =>
      cases hw
      exact absurd rfl ends
    | panicked payload =>
      cases hw
      rcases echo.same_or_quits trails hpw calm (by simp) hpv with
        ⟨rfl, _⟩ | ⟨_, _, rfl, node, rfl⟩
      · cases hv
        exact .inl ⟨rfl, hnv.trans hnw.symm⟩
      · exact .inr (quit ⟨node, rfl⟩)
    | returned outcome =>
      cases outcome with
      | error fatal =>
        cases hw
        simp [(turn_error hpw).2] at calm
      | ok after =>
        have hw₁ := (later_of_perform hw).calm calm
        rcases echo.same_or_quits trails hpw hw₁ (by simp) hpv with
          ⟨rfl, trails₁⟩ | ⟨_, _, rfl, node, rfl⟩
        · rw [(later_of_perform hpw).noticesSince_trans (later_of_perform hw),
            (later_of_perform hpv).noticesSince_trans (later_of_perform hv), hnw, hnv]
          rcases ih trails₁ hw hv with ⟨he, hn⟩ | ⟨he, hp, hl⟩
          · exact .inl ⟨he, by rw [hn]⟩
          · refine .inr ⟨he, (List.prefix_append_right_inj _).mpr hp, ?_⟩
            have := length_tidings_le cast position (.returned (.ok after))
            rw [List.length_append, List.length_cons]
            omega
        · exact .inr (quit ⟨node, rfl⟩)

end Follow

variable {trigger : Option (List Item)}

section Undertake

variable {ending ending' : Ending (Except Fatal Finished)}

theorem undertake_notices
    (h : perform w (executor.undertake id workflow trigger) = (ending, w')) :
    ∀ notice ∈ w.noticesSince w', notice.OfNode := by
  rcases undertake_cases executor id workflow trigger with ⟨fatal, _, hu⟩ | ⟨cast, _, _, _, hu⟩
  · rw [hu] at h
    cases h
    simp
  · rw [hu, perform_map] at h
    cases h
    exact follow_notices rfl

theorem undertake_prefix
    (steadfast : ∀ placed ∈ workflow.nodes, ∀ node given,
      executor.registry.create placed = .ok node →
        Steadfast node (executor.context id placed node given) executor.itemTimeout)
    (trails : w.Trails v)
    (hw : perform w (executor.undertake id workflow trigger) = (ending, w'))
    (calm : w'.cancelled = false) (ends : ending ≠ .stuck)
    (hv : perform v (executor.undertake id workflow trigger) = (ending', v')) :
    ending' = ending ∧ v.noticesSince v' = w.noticesSince w' ∨
      (∃ node, ending' = .returned (.error ⟨node, .cancelled⟩)) ∧
        v.noticesSince v' <+: w.noticesSince w' ∧
        (v.noticesSince v').length < workflow.nodes.length := by
  rcases undertake_cases executor id workflow trigger with
    ⟨fatal, _, hu⟩ | ⟨cast, _, sound, hc, hu⟩
  · rw [hu] at hw hv
    cases hw
    cases hv
    exact .inl ⟨rfl, by simp⟩
  · have hcast : ∀ member ∈ cast, ∀ given, Steadfast member.2
        (executor.context id member.1 member.2 given) executor.itemTimeout :=
      forall_of_assemble hc fun placed hm node hn given => steadfast placed hm node given hn
    have hsize : workflow.graph.schedule.length = workflow.nodes.length := by
      have := sound.graph_schedule_perm.length_eq
      simpa [Workflow.ids] using this
    rw [hu, perform_map] at hw hv
    cases hw
    cases hv
    have hstuck : (perform w (executor.follow id workflow workflow.graph (trigger.getD [.empty])
        cast workflow.graph.schedule [])).1 ≠ .stuck := by
      intro hs
      rw [hs] at ends
      exact ends rfl
    rcases follow_prefix hcast trails rfl calm hstuck rfl with ⟨he, hn⟩ | ⟨⟨node, he⟩, hp, hl⟩
    · exact .inl ⟨by rw [he], hn⟩
    · exact .inr ⟨⟨node, by rw [he]; rfl⟩, hp, hsize ▸ hl⟩

end Undertake

/-- A run of steadfast nodes in which the token fires, at whatever moment, against the same run in
which it does not. Either it tells its sink the same and ends in the same way, but for the time
it takes; or it starts like that one, tells of the first few of the outputs, fewer than there
are nodes, and of no other, and then that it is cancelled. -/
theorem cancelled_prefix
    (steadfast : ∀ placed ∈ workflow.nodes, ∀ node given,
      executor.registry.create placed = .ok node →
        Steadfast node (executor.context id placed node given) executor.itemTimeout)
    (akin : w.Akin v) {ending ending' : Ending (Except Fault Result)}
    (hw : perform w (executor.execute id workflow trigger) = (ending, w'))
    (calm : w'.cancelled = false) (ends : ending ≠ .stuck)
    (hv : perform v (executor.execute id workflow trigger) = (ending', v')) :
    (ending'.untimed = ending.untimed ∧
      (v.noticesSince v').map Notice.untimed = (w.noticesSince w').map Notice.untimed ∧
      (v'.clock = w'.clock → ending' = ending ∧ v.noticesSince v' = w.noticesSince w')) ∨
    (ending' = .returned (.error .cancelled) ∧ ∃ first others node,
      w.noticesSince w' = .started (some workflow.title) :: (first ++ others) ∧
      v.noticesSince v' =
        .started (some workflow.title) :: (first ++ [.failed node Fault.cancelled.message]) ∧
      first.length < workflow.nodes.length ∧ ∀ notice ∈ first, notice.OfNode) := by
  obtain ⟨first, w₁, huw, rfl, hnw, hlw, hcw⟩ := execute_parts hw
  obtain ⟨first', v₁, huv, rfl, hnv, hlv, hcv⟩ := execute_parts hv
  have trails : (started workflow w).Trails (started workflow v) := .inl (akin.moments.told _)
  have hstuck : first ≠ .stuck := by
    rintro rfl
    exact ends rfl
  rw [hnw, hnv, hcw, hcv, akin.clock]
  rcases undertake_prefix steadfast trails huw (hlw.calm calm) hstuck huv with
    ⟨rfl, hn⟩ | ⟨⟨node, rfl⟩, ⟨others, ho⟩, hl⟩
  · rw [hn]
    refine .inl ⟨?_, ?_, fun hclock => ?_⟩
    · match first' with
      | .returned (.ok finished) | .returned (.error fatal) | .panicked payload => rfl
    · match first' with
      | .returned (.ok finished) | .returned (.error fatal) | .panicked payload =>
        simp [farewell, closing, Notice.untimed]
    · rw [hclock]
      exact ⟨rfl, rfl⟩
  · refine .inr ⟨rfl, (started workflow v).noticesSince v₁,
      others ++ farewell (w₁.clock - w.clock) first, node, ?_, rfl, hl, undertake_notices huv⟩
    rw [← ho, List.append_assoc]

end Executor

/-- A node that passes an item on after a while, unless the token fires in the meantime. -/
def Node.dozing (millis : Nat) : Node where
  description := { displayName := "Dozing", name := "dozing" }
  run ctx index _ := do
    if ← NodeWork.sleepOrCancel millis then throw .cancelled
    else return { items := [ctx.payload index] }

theorem Node.dozing_steadfast (millis : Nat) (ctx : Context) (limit : Option Nat) :
    Steadfast (dozing millis) ctx limit :=
  ⟨.pure (), fun _ _ => unswayed_of_sleepOrCancel (.pure _) millis⟩

def Executor.drowsy : Executor where
  registry := Nodes.standard.register "dozing" fun _ => .ok (.dozing 30)

/-- Two nodes that doze, one after the other. -/
def Workflow.dozes : Workflow where
  id := "dozes"
  nodes := [{ id := "first", type := "dozing" }, { id := "second", type := "dozing" }]
  edges := [{ source := "first", destination := "second" }]

theorem Executor.cancelled_prefix_dozes :
    ∃ result w' v' told others node,
      perform {} (drowsy.execute ⟨0⟩ .dozes none) = (.returned (.ok result), w') ∧
      perform { alarm := .clock 45 } (drowsy.execute ⟨0⟩ .dozes none) =
        (.returned (.error .cancelled), v') ∧
      World.noticesSince {} w' = .started (some "dozes") :: told :: others ∧
      World.noticesSince { alarm := .clock 45 } v' =
        [.started (some "dozes"), told, .failed node "Execution cancelled"] := by
  have hw : (perform {} (drowsy.execute ⟨0⟩ .dozes none)).1.isOk = true ∧
      (perform {} (drowsy.execute ⟨0⟩ .dozes none)).2.cancelled = false := by
    decide +kernel
  -- The token fires in the middle of the second doze.
  have hv : (perform { alarm := .clock 45 } (drowsy.execute ⟨0⟩ .dozes none)).1.isOk = false ∧
      (World.noticesSince { alarm := .clock 45 }
        (perform { alarm := .clock 45 } (drowsy.execute ⟨0⟩ .dozes none)).2).length = 3 := by
    decide +kernel
  obtain ⟨result, w', h⟩ := ok_of_isOk hw.1
  rcases h' : perform { alarm := .clock 45 } (drowsy.execute ⟨0⟩ .dozes none) with ⟨ending, v'⟩
  rw [h'] at hv
  have steadfast : ∀ placed ∈ Workflow.dozes.nodes, ∀ node given,
      drowsy.registry.create placed = .ok node →
        Steadfast node (drowsy.context ⟨0⟩ placed node given) drowsy.itemTimeout := by
    intro placed hm node given hc
    simp only [Workflow.dozes, List.mem_cons, List.not_mem_nil, or_false] at hm
    rcases hm with rfl | rfl
    all_goals
      cases hc
      exact Node.dozing_steadfast _ _ _
  have akin : World.Akin {} { alarm := .clock 45 } := ⟨rfl, rfl, rfl, rfl, rfl⟩
  rcases cancelled_prefix steadfast akin h (by simpa [h] using hw.2) nofun h' with
    ⟨he, _⟩ | ⟨rfl, first, others, node, hn, hn', _, _⟩
  · match ending, he with
    | .returned (.ok _), _ => cases hv.1
  · have hone : first.length = 1 := by simpa [hn'] using hv.2
    obtain ⟨told, rfl⟩ := List.length_eq_one_iff.mp hone
    exact ⟨result, w', v', told, others, node, h, rfl, hn, hn'⟩

end Conveyor
