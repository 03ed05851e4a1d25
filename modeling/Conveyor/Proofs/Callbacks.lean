import Conveyor.Proofs.Agreement
import Conveyor.Proofs.Hearing

namespace Conveyor
open RunWork

variable {α : Type}

/-- What the sink is told of a node that is done. -/
def Placed.tiding (placed : Placed) (output : Ports) : Notice :=
  .nodeFinished placed.id placed.type output !output.anyError

/-- The run of a node that comes to its end sets it up, once. -/
theorem node_setups {w w' : World} {node : Node} {ctx : Context} {limit : Option Nat}
    {policy : Option RetryPolicy} {outcome : Except Fault Ports}
    (h : perform w (RunWork.node node ctx limit policy) = (.returned outcome, w')) :
    ((w.callsSince w').filter Call.isSetup).map Call.node = [ctx.nodeId] := by
  obtain ⟨attempts, hc, ha⟩ := node_calls h
  have hnone : attempts.filter Call.isSetup = [] := by
    rw [List.filter_eq_nil_iff]
    intro call hm
    obtain ⟨index, number, rfl⟩ := ha call hm
    simp [Call.isSetup]
  rw [hc, List.filter_cons_of_pos rfl, hnone]
  rfl

namespace Executor

variable {executor : Executor} {workflow : Workflow} {cast : List (Placed × Node)} {id : Uuid}
  {plan : Plan} {origin w w' : World} {run : RunWork α}

/-- In the course of a run a placed node has been run, and this is what its run came to. -/
def Ran (executor : Executor) (id : Uuid) (origin : World) (run : RunWork α) (placed : Placed)
    (outcome : Except Fault Ports) : Prop :=
  ∃ node given before after, executor.registry.create placed = .ok node ∧
    Performs origin run before (RunWork.node node (executor.context id placed node given)
      executor.itemTimeout placed.retryPolicy) ∧
    perform before (RunWork.node node (executor.context id placed node given)
      executor.itemTimeout placed.retryPolicy) = (.returned outcome, after)

/-- Which nodes of a run were set up since an earlier state of its surroundings: those that are
done, with their outputs, and at most one more, in which the run was cancelled. -/
structure Account (executor : Executor) (id : Uuid) (origin : World) (run : RunWork α)
    (w w' : World) (done : List (Placed × Ports)) (cut : List Placed) : Prop where
  setups : ((w.callsSince w').filter Call.isSetup).map Call.node =
    (done.map Prod.fst ++ cut).map Placed.id
  outputs : ∀ entry ∈ done, executor.Ran id origin run entry.1 (.ok entry.2)
  cancelled : ∀ placed ∈ cut, executor.Ran id origin run placed (.error .cancelled)
  alone : cut.length ≤ 1

theorem Account.of_no_calls (h : w.callsSince w' = []) :
    executor.Account id origin run w w' [] [] := by
  refine ⟨?_, ?_, ?_, ?_⟩ <;> simp [h]

/-- A node that is done comes before the others. -/
theorem Account.cons {between : World} {first : Placed × Ports} {done : List (Placed × Ports)}
    {cut : List Placed} (hb : w.Later between) (hl : between.Later w')
    (hf : executor.Account id origin run w between [first] [])
    (h : executor.Account id origin run between w' done cut) :
    executor.Account id origin run w w' (first :: done) cut := by
  refine ⟨?_, ?_, h.cancelled, h.alone⟩
  · rw [hb.callsSince_trans hl, List.filter_append, List.map_append, hf.setups, h.setups]
    simp
  · intro entry hm
    rcases List.mem_cons.mp hm with rfl | hm
    · exact hf.outputs entry (by simp)
    · exact h.outputs entry hm

section Follow

variable {trigger : List Item} {finished : Finished}
  (made : ∀ member ∈ cast, executor.registry.create member.1 = .ok member.2)
include made

/-- A turn that is over has told the sink of its node, or else the run is cancelled in it and the
sink has been told nothing. -/
theorem turn_account {position : Nat} {outcome : Except Fatal Finished}
    (within : Performs origin run w
      (executor.turn id workflow plan trigger cast position finished))
    (h : perform w (executor.turn id workflow plan trigger cast position finished) =
      (.returned outcome, w')) :
    (∃ placed output, outcome = .ok (finished ++ [(placed.id, output)]) ∧
      placed ∈ cast.map Prod.fst ∧ idAt cast position = placed.id ∧
      w.noticesSince w' = [placed.tiding output] ∧
      executor.Account id origin run w w' [(placed, output)] []) ∨
    (∃ fatal cut, outcome = .error fatal ∧ w.noticesSince w' = [] ∧
      executor.Account id origin run w w' [] cut) := by
  have hn := turn_notices h
  have hm := World.Later.moment w
  have hw := within.rest (perform_isCancelled w)
  unfold turn at h
  rw [perform_bind_of_returned (perform_isCancelled w)] at h
  cases hc : w.moment.cancelled with
  | true =>
    simp only [hc, ↓reduceIte] at h
    cases h
    exact .inr ⟨_, [], rfl, hn, .of_no_calls (hm.callsSince_eq_nil (World.calls_moment w))⟩
  | false =>
    simp only [hc, Bool.false_eq_true, ↓reduceIte] at h hw
    split at h
    · cases h
    next placed node hat =>
      simp only [hat] at hw
      have hmember := List.mem_of_getElem? hat
      split at h
      · cases h
      next given hg =>
        simp only [hg] at hw
        obtain ⟨outcome', between, hr, h⟩ := returned_of_bind h
        have hbetween : ((w.callsSince between).filter Call.isSetup).map Call.node = [placed.id] := by
          rw [hm.callsSince_trans (later_of_perform hr), hm.callsSince_eq_nil (World.calls_moment w)]
          exact node_setups hr
        have ran : executor.Ran id origin run placed outcome' :=
          ⟨node, _, _, _, made _ hmember, hw.first, hr⟩
        cases outcome' with
        | error fault =>
          obtain ⟨rfl, _⟩ := node_error hr
          cases h
          refine .inr ⟨_, [placed], rfl, hn, hbetween, by simp, ?_, by simp⟩
          intro other hother
          obtain rfl := List.mem_singleton.mp hother
          exact ran
        | ok output =>
          have hlater := hm.trans (later_of_perform hr)
          have htold := World.Later.told between (placed.tiding output)
          have htidings : tidings cast position
              (.returned (.ok (finished ++ [(placed.id, output)]))) = [placed.tiding output] := by
            simp [tidings, hat, Placed.tiding]
          obtain ⟨ho, rfl⟩ :
              Ending.returned (.ok (finished ++ [(placed.id, output)])) = .returned outcome ∧
                between.told (placed.tiding output) = w' := Prod.mk.inj h
          cases ho
          refine .inl ⟨placed, output, rfl, List.mem_map_of_mem hmember, idAt_eq hat,
            hn.trans htidings, ?_, ?_, by simp, by simp⟩
          · rw [hlater.callsSince_trans htold, htold.callsSince_eq_nil (World.calls_told between _)]
            simpa using hbetween
          · intro entry hentry
            obtain rfl := List.mem_singleton.mp hentry
            exact ran

/-- A run of nodes that is over has told the sink of those that are done, in their order. They are
all of its nodes, unless it was cancelled. -/
theorem follow_account {positions : List Nat} {outcome : Except Fatal Finished}
    (within : Performs origin run w
      (executor.follow id workflow plan trigger cast positions finished))
    (h : perform w (executor.follow id workflow plan trigger cast positions finished) =
      (.returned outcome, w')) :
    ∃ done cut, executor.Account id origin run w w' done cut ∧
      w.noticesSince w' = done.map (fun (placed, output) => placed.tiding output) ∧
      (∀ entry ∈ done, entry.1 ∈ cast.map Prod.fst) ∧
      done.map (·.1.id) <+: positions.map (idAt cast) ∧
      ∀ final, outcome = .ok final →
        cut = [] ∧ final = finished ++ done.map fun (placed, output) => (placed.id, output) := by
  induction positions generalizing w finished with
  | nil =>
    cases h
    exact ⟨[], [], .of_no_calls (World.callsSince_self _), by simp, by simp, by simp, by simp⟩
  | cons position rest ih =>
    unfold follow at h within
    obtain ⟨first, between, ht, h⟩ := returned_of_bind h
    have hw := within.rest ht
    rcases turn_account made within.first ht with
      ⟨placed, output, rfl, hmem, hid, hn, account⟩ | ⟨fatal, cut, rfl, hn, account⟩
    · obtain ⟨done, cut, others, hothers, hmems, hprefix, hfinal⟩ := ih hw h
      have hb := later_of_perform ht
      have hl := later_of_perform h
      refine ⟨(placed, output) :: done, cut, .cons hb hl account others, ?_, ?_, ?_, ?_⟩
      · rw [hb.noticesSince_trans hl, hn, hothers]
        rfl
      · simpa using ⟨by simpa using hmem, by simpa using hmems⟩
      · rw [List.map_cons, List.map_cons, hid]
        exact (List.prefix_cons_inj _).mpr hprefix
      · intro final hf
        obtain ⟨hcut, rfl⟩ := hfinal final hf
        exact ⟨hcut, by simp⟩
    · cases h
      exact ⟨[], cut, account, hn, by simp, List.nil_prefix, by simp⟩

/-- A run of nodes that breaks down has told the sink of those that were done by then, and not all
of them were. -/
theorem follow_broken {positions : List Nat} {payload : Option String}
    (within : Performs origin run w
      (executor.follow id workflow plan trigger cast positions finished))
    (h : perform w (executor.follow id workflow plan trigger cast positions finished) =
      (.panicked payload, w')) :
    ∃ done : List (Placed × Ports),
      (∀ entry ∈ done, executor.Ran id origin run entry.1 (.ok entry.2)) ∧
      w.noticesSince w' = done.map (fun (placed, output) => placed.tiding output) ∧
      done.map (·.1.id) <+: positions.map (idAt cast) ∧ done.length < positions.length := by
  induction positions generalizing w finished with
  | nil => cases h
  | cons position rest ih =>
    unfold follow at h within
    rcases ht : perform w (executor.turn id workflow plan trigger cast position finished) with
      ⟨first, between⟩
    cases first with
    | returned outcome =>
      rw [perform_bind_of_returned ht] at h
      have hw := within.rest ht
      rcases turn_account made within.first ht with
        ⟨placed, output, rfl, _, hid, hn, account⟩ | ⟨fatal, _, rfl, _⟩
      · obtain ⟨done, hran, hothers, hprefix, hshort⟩ := ih hw h
        refine ⟨(placed, output) :: done, ?_, ?_, ?_, Nat.succ_lt_succ hshort⟩
        · intro entry hm
          rcases List.mem_cons.mp hm with rfl | hm
          · exact account.outputs _ List.mem_cons_self
          · exact hran entry hm
        · rw [(later_of_perform ht).noticesSince_trans (later_of_perform h), hn, hothers]
          rfl
        · rw [List.map_cons, List.map_cons, hid]
          exact (List.prefix_cons_inj _).mpr hprefix
      · cases h
    | panicked payload =>
      rw [perform_bind, ht] at h
      cases h
      exact ⟨[], by simp, turn_notices ht, List.nil_prefix, Nat.succ_pos _⟩
    | stuck =>
      rw [perform_bind, ht] at h
      cases h

end Follow

variable {trigger : Option (List Item)}

/-- What a run that returns has told of its nodes, whether or not its workflow passes the check. -/
theorem undertake_account {outcome : Except Fatal Finished}
    (within : Performs origin run w (executor.undertake id workflow trigger))
    (h : perform w (executor.undertake id workflow trigger) = (.returned outcome, w')) :
    ∃ done cut, executor.Account id origin run w w' done cut ∧
      w.noticesSince w' = done.map (fun (placed, output) => placed.tiding output) ∧
      done.map (·.1.id) <+: workflow.schedule ∧
      ∀ final, outcome = .ok final → workflow.Sound ∧ cut = [] ∧
        final = (done.map fun (placed, output) => (placed.id, output)) ∧
        final.map Prod.fst = workflow.schedule := by
  rcases undertake_cases executor id workflow trigger with
    ⟨fatal, _, hu⟩ | ⟨cast, _, sound, hc, hu⟩
  · rw [hu] at h
    cases h
    exact ⟨[], [], .of_no_calls (World.callsSince_self w), by simp, List.nil_prefix, nofun⟩
  rw [hu] at h within
  obtain ⟨value, between, hf, h⟩ := returned_of_bind h
  cases h
  obtain ⟨done, cut, account, hn, -, hprefix, hfinal⟩ :=
    follow_account (assemble_eq_ok hc).2 within.first hf
  rw [idAt_of_assemble hc] at hprefix
  refine ⟨done, cut, account, hn, hprefix, fun final ho => ?_⟩
  cases value with
  | error fatal => cases ho
  | ok finished =>
    have hall : ¬finished.length < workflow.nodes.length :=
      Nat.not_lt.mpr (length_finished sound hf).ge
    simp only [tally, hall, ↓reduceIte, Except.ok.injEq] at ho
    subst ho
    obtain ⟨hcut, hdone⟩ := hfinal finished rfl
    refine ⟨sound, hcut, by simpa using hdone, ?_⟩
    rw [(follow_finished hf).2, idAt_of_assemble hc]
    rfl

/-- What a run that breaks down has told of its nodes. -/
theorem undertake_broken {payload : Option String}
    (within : Performs origin run w (executor.undertake id workflow trigger))
    (h : perform w (executor.undertake id workflow trigger) = (.panicked payload, w')) :
    ∃ done : List (Placed × Ports),
      (∀ entry ∈ done, executor.Ran id origin run entry.1 (.ok entry.2)) ∧
      w.noticesSince w' = done.map (fun (placed, output) => placed.tiding output) ∧
      done.map (·.1.id) <+: workflow.schedule ∧ done.length < workflow.nodes.length := by
  rcases undertake_cases executor id workflow trigger with ⟨fatal, _, hu⟩ | ⟨cast, _, sound, hc, hu⟩
  · rw [hu] at h
    cases h
  rw [hu] at within h
  rw [perform_map] at h
  rcases hf : perform w (executor.follow id workflow workflow.graph (trigger.getD [.empty]) cast
      workflow.graph.schedule []) with ⟨ending, between⟩
  rw [hf] at h
  cases ending with
  | returned outcome | stuck => cases h
  | panicked payload =>
    cases h
    obtain ⟨done, hran, hn, hprefix, hshort⟩ :=
      follow_broken (assemble_eq_ok hc).2 within.first hf
    have hsize : workflow.graph.schedule.length = workflow.nodes.length := by
      simpa [Workflow.ids] using sound.graph_schedule_perm.length_eq
    rw [idAt_of_assemble hc] at hprefix
    exact ⟨done, hran, hn, hprefix, hsize ▸ hshort⟩

/-- Before a run comes to its nodes the sink is told that it starts, and no node is called. -/
theorem opened {ended : World} (hl : (started workflow w).Later ended) :
    w.heardSince ended = .told w.clock (.started (some workflow.title)) ::
        (started workflow w).heardSince ended ∧
      w.callsSince ended = (started workflow w).callsSince ended := by
  have hs : w.Later (started workflow w) := (World.Later.moment w).trans (.told _ _)
  constructor
  · rw [hs.heardSince_trans hl, started, World.heardSince_moment_told]
    rfl
  · rw [hs.callsSince_trans hl, hs.callsSince_eq_nil (by simp [started])]
    rfl

/-- Around what a run does with its nodes the sink is told twice, and no node is called. -/
theorem framed {ended : World} (hl : (started workflow w).Later ended) (last : Notice) :
    w.heardSince (ended.moment.told last) = .told w.clock (.started (some workflow.title)) ::
      ((started workflow w).heardSince ended ++ [.told (ended.moment.told last).clock last]) ∧
    w.callsSince (ended.moment.told last) = (started workflow w).callsSince ended := by
  have ht : ended.Later (ended.moment.told last) := (World.Later.moment ended).trans (.told _ _)
  have hclock : (ended.moment.told last).clock = ended.clock :=
    (World.clock_told _ _).trans (World.Akin.moment ended).clock
  obtain ⟨hheard, hcalls⟩ := opened (hl.trans ht)
  constructor
  · rw [hheard, hl.heardSince_trans ht, World.heardSince_moment_told, hclock]
  · rw [hcalls, hl.callsSince_trans ht, ht.callsSince_eq_nil (by simp), List.append_nil]

/-- What the sink hears in a run that is over: that it starts; then of every node that is done, in
the order they are run, each with the output of its run; last how the run ends. In between it
hears nothing but what nodes report of their own accord. A run that completes tells of all of
its nodes and how many there are; one that fails, why it does. But a run that finds no room for a
port breaks down, and its end is not told of. Whatever the sink returns to the run changes
nothing. -/
theorem tells_in_order
    (setups : ∀ placed ∈ workflow.nodes, ∀ node given,
      executor.registry.create placed = .ok node →
        SetsUp w (executor.execute id workflow trigger) node
          (executor.context id placed node given))
    {ending : Ending (Except Fault Result)}
    (h : perform w (executor.execute id workflow trigger) = (ending, w'))
    (ends : ending ≠ .stuck) :
    (∃ done between,
      between.filterMap Happening.notice? =
        done.map (fun (placed, output) => placed.tiding output) ∧
      done.map (·.1.id) <+: workflow.schedule ∧
      ((∃ outcome cut last, ending = .returned outcome ∧
        w.heardSince w' = .told w.clock (.started (some workflow.title)) ::
          (between ++ [.told w'.clock last]) ∧
        executor.Account id w (executor.execute id workflow trigger) w w' done cut ∧
        (∀ result, outcome = .ok result →
          last = .completed workflow.nodes.length (some result.millis) ∧
          result.order = done.map (·.1.id) ∧ result.order = workflow.schedule ∧ cut = [] ∧
          ∀ entry ∈ done, result.output? entry.1.id = some entry.2) ∧
        ∀ fault, outcome = .error fault → ∃ node, last = .failed node fault.message) ∨
      executor.Crowds id workflow w (executor.execute id workflow trigger) ∧
        ending = .panicked none ∧
        w.heardSince w' = .told w.clock (.started (some workflow.title)) :: between ∧
        done.length < workflow.nodes.length ∧
        ∀ entry ∈ done,
          executor.Ran id w (executor.execute id workflow trigger) entry.1 (.ok entry.2))) ∧
    ∀ sink : Nat → Except String Unit,
      (∀ n clock node message,
        (w.heardSince w')[n]? = some (.reported clock node message) →
          sink (w.callbacks + n) = w.sink (w.callbacks + n)) →
      perform (w.replying sink) (executor.execute id workflow trigger) =
        (ending, w'.replying sink) := by
  refine ⟨?_, fun sink same => perform_replying (execute_deaf trigger) h same⟩
  have within := (performs_undertake executor id workflow trigger w).first
  have settles := undertake_settles setups within
  change perform (started workflow w) (executor.undertake id workflow trigger >>=
    conclude id workflow w.clock) = _ at h
  rcases settles with ⟨outcome, ended, hu, -⟩ | ⟨-, ended, hu, -⟩ | ⟨crowded, ended, hu⟩
  · obtain ⟨done, cut, account, hn, hprefix, hfinal⟩ := undertake_account within hu
    rw [perform_bind_of_returned hu, perform_conclude] at h
    cases h
    obtain ⟨hheard, hcalls⟩ := framed (later_of_perform hu) (closing (ended.clock - w.clock) outcome)
    refine ⟨done, (started workflow w).heardSince ended, ?_, hprefix,
      .inl ⟨_, cut, _, rfl, hheard, ?_, ?_, ?_⟩⟩
    · rw [← World.noticesSince_eq_heard, hn]
    · exact ⟨hcalls ▸ account.setups, account.outputs, account.cancelled, account.alone⟩
    · intro result hresult
      cases outcome with
      | error fatal => cases hresult
      | ok final =>
        cases hresult
        obtain ⟨sound, hcut, hdone, hschedule⟩ := hfinal final rfl
        have hnames : done.map (·.1.id) = workflow.schedule := by
          rw [← hschedule, hdone, List.map_map]
          rfl
        have unique : (final.map Prod.fst).Nodup := hschedule ▸ sound.nodup_schedule
        have hlength : final.length = workflow.nodes.length := by
          rw [← sound.length_schedule, ← hschedule, List.length_map]
        refine ⟨by rw [closing, hlength], hschedule.trans hnames.symm, hschedule, hcut, ?_⟩
        intro entry hentry
        have hmem : (entry.1.id, entry.2) ∈ final := by
          rw [hdone]
          exact List.mem_map_of_mem (f := fun (placed, output) => (placed.id, output)) hentry
        exact Table.get?_ofList_of_mem unique hmem
    · intro fault hfault
      cases outcome with
      | ok final => cases hfault
      | error fatal =>
        cases hfault
        exact ⟨fatal.node, rfl⟩
  · rw [perform_bind, hu] at h
    cases h
    exact absurd rfl ends
  · obtain ⟨done, hran, hn, hprefix, hshort⟩ := undertake_broken within hu
    rw [perform_bind, hu] at h
    cases h
    refine ⟨done, (started workflow w).heardSince w', ?_, hprefix,
      .inr ⟨crowded, rfl, (opened (later_of_perform hu)).1, hshort, hran⟩⟩
    rw [← World.noticesSince_eq_heard, hn]

/-- A run of an accepted workflow, whose nodes return at once, breaks down: its sink hears that it
starts, then of nodes, and never that it ends. -/
theorem broken_run_untold :
    (Plan.build .stretched).isOk = true ∧
    (∀ edge ∈ Workflow.stretched.edges,
      edge.sourcePort + 1 < 1 <<< 64 ∧ edge.destinationPort + 1 < 1 <<< 64) ∧
    (∀ placed ∈ Workflow.stretched.nodes, ∃ node,
      fragile.registry.create placed = .ok node ∧ node.Plain) ∧
    ∃ w' between, perform {} (fragile.execute ⟨0⟩ .stretched none) = (.panicked none, w') ∧
      World.noticesSince {} w' = .started (some "stretched") :: between ∧
      ∀ notice ∈ between, notice.OfNode := by
  obtain ⟨w', hr⟩ := Workflow.stretched_breaks
  obtain ⟨first, ended, hu, hfirst, hn, _, _⟩ := execute_parts hr
  have hbroken : first = .panicked none := by
    cases first with
    | returned outcome | stuck => cases hfirst
    | panicked payload =>
      cases hfirst
      rfl
  subst hbroken
  refine ⟨by rw [Workflow.stretched_accepted]; rfl, by decide, Workflow.stretched_made, w',
    (Executor.started .stretched {}).noticesSince ended, hr, ?_, undertake_notices hu⟩
  exact hn.trans (congrArg (List.cons _) (List.append_nil _))

end Executor

/-- The nodes tell of no errors of their own accord, so a sink that always fails changes nothing. -/
theorem Executor.tells_in_order_cracked :
    ∃ (result : Result) (w' : World) (done : List (Placed × Ports)) (between : List Happening),
      perform {} (fragile.execute ⟨0⟩ .cracked none) = (.returned (.ok result), w') ∧
      World.heardSince {} w' = .told 0 (.started (some "cracked")) ::
        (between ++ [.told w'.clock (.completed 3 (some result.millis))]) ∧
      between.filterMap Happening.notice? =
        done.map (fun (placed, output) => Placed.tiding placed output) ∧
      done.map (·.1.id) = ["first", "middle", "last"] ∧
      perform (World.replying (fun _ => .error "down") {}) (fragile.execute ⟨0⟩ .cracked none) =
        (.returned (.ok result), w'.replying fun _ => .error "down") := by
  have setups : ∀ placed ∈ Workflow.cracked.nodes, ∀ node given,
      fragile.registry.create placed = .ok node →
        SetsUp {} (fragile.execute ⟨0⟩ .cracked none) node
          (fragile.context ⟨0⟩ placed node given) :=
    fun placed hm node given hc =>
      (Workflow.cracked_made.cooperates _ _ _ placed hm node given hc).setup
  have hok : (perform {} (fragile.execute ⟨0⟩ .cracked none)).1.isOk = true := by decide +kernel
  have htold : ((World.heardSince {} (perform {} (fragile.execute ⟨0⟩ .cracked none)).2).all
      fun happening => (Happening.notice? happening).isSome) = true := by decide +kernel
  obtain ⟨result, w', h⟩ := ok_of_isOk hok
  rw [h] at htold
  obtain ⟨⟨done, between, hbetween, _, ends⟩, hsink⟩ := tells_in_order setups h nofun
  rcases ends with ⟨outcome, cut, last, ho, hheard, _, hresult, _⟩ | ⟨_, broken, _⟩
  · cases ho
    obtain ⟨rfl, horder, hschedule, _⟩ := hresult result rfl
    have hfixed : Workflow.cracked.schedule = ["first", "middle", "last"] := by decide +kernel
    refine ⟨result, w', done, between, h, hheard, hbetween, ?_, hsink _ ?_⟩
    · rw [← horder, hschedule, hfixed]
    · intro n clock node message hn
      have := List.all_eq_true.mp htold _ (List.mem_of_getElem? hn)
      cases this
  · cases broken

end Conveyor
