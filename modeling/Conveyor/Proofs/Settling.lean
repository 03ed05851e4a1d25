import Conveyor.Proofs.Dataflow

namespace Conveyor
open RunWork

variable {α β γ : Type}

/-- A computation comes to its end in given surroundings, with a value of a kind. Else there is a
reason for it: it waits for the token, which has not fired, or it breaks down over a port. -/
def Settles (waits crowded : Prop) (w : World) (work : RunWork α) (P : α → Prop) : Prop :=
  Returns w work P ∨ (waits ∧ ∃ w', perform w work = (.stuck, w') ∧ w'.cancelled = false) ∨
    (crowded ∧ ∃ w', perform w work = (.panicked none, w'))

namespace Settles

variable {waits crowded : Prop} {w : World} {P : α → Prop}

theorem pure {value : α} (h : P value) :
    Settles waits crowded w (Pure.pure value : RunWork α) P :=
  .inl (.pure h)

/-- Work that cannot break down settles if only the token keeps a reply from it. -/
theorem of_asks {Q : Run.Ask → Prop} {work : RunWork α} (h : Asks Q False work)
    (unanswered : ∀ question (w : World), Q question → w.answer question = none →
      w.cancelled = false) (w : World) : Settles True crowded w work fun _ => True := by
  induction work generalizing w with
  | done value => exact .pure trivial
  | panic payload => exact h.elim
  | ask question next ih =>
    cases ha : w.answer question with
    | none =>
      have hp : perform w (.ask question next) = (.stuck, w) := by simp [perform, ha]
      exact .inr (.inl ⟨trivial, w, hp, unanswered question w h.1 ha⟩)
    | some answered =>
      obtain ⟨reply, between⟩ := answered
      have hp : perform w (.ask question next) = perform between (next reply) := by
        simp [perform, ha]
      unfold Settles Returns
      rw [hp]
      exact ih reply (h.2 reply) between

end Settles

namespace Performs

variable {waits crowded : Prop} {w w' : World} {run : RunWork α} {part : RunWork β}
  {next : β → RunWork γ}

/-- A sequence within a run settles if its parts do. -/
theorem settles_bind {P : β → Prop} {Q : γ → Prop} (h : Performs w run w' (part >>= next))
    (hp : Settles waits crowded w' part P)
    (hn : ∀ value w'', P value → Performs w run w'' (next value) →
      Settles waits crowded w'' (next value) Q) :
    Settles waits crowded w' (part >>= next) Q := by
  rcases hp with ⟨value, w'', hr, hv⟩ | ⟨reason, w'', hs, calm⟩ | ⟨reason, w'', hb⟩
  · unfold Settles Returns
    rw [perform_bind_of_returned hr]
    exact hn value w'' hv (h.rest hr)
  · exact .inr (.inl ⟨reason, w'', by rw [perform_bind, hs], calm⟩)
  · exact .inr (.inr ⟨reason, w'', by rw [perform_bind, hb]⟩)

theorem settles_unless_cancelled {yes no : RunWork γ} {Q : γ → Prop}
    (h : Performs w run w' (do if ← isCancelled then yes else no))
    (hy : ∀ w'', Settles waits crowded w'' yes Q)
    (hn : ∀ w'', Performs w run w'' no → Settles waits crowded w'' no Q) :
    Settles waits crowded w' (do if ← isCancelled then yes else no) Q := by
  refine h.settles_bind (P := fun _ => True) (.inl ⟨_, _, perform_isCancelled w', trivial⟩) ?_
  intro fired w'' _ h
  cases fired with
  | true => exact hy w''
  | false => exact hn w'' h

end Performs

namespace RunWork

variable (w : World) (run : RunWork α) (node : Node) (ctx : Context) (limit : Option Nat)

/-- The calls of a node's setup in a run come to their end. -/
def SetsUp : Prop :=
  ∀ w', Performs w run w' (prepare node ctx) → Returns w' (prepare node ctx) fun _ => True

/-- In a run a node's code waits, at an item, for what never comes. -/
def Waits : Prop :=
  limit = none ∧ ∃ before index number,
    Performs w run before (call node ctx limit index number) ∧
    (perform before (call node ctx limit index number)).1 = .stuck

/-- In a run a node's code names, at an item, a port that there is no room for. -/
def Overshoots : Prop :=
  ∃ before index number output after,
    Performs w run before (call node ctx limit index number) ∧
    perform before (call node ctx limit index number) = (.returned (.ok output), after) ∧
    Ports.capacity ≤ output.port

end RunWork

/-- What it takes for the runs of a node to settle: its setup comes to its end, and there are
reasons for what else may keep them from theirs. -/
structure RunWork.Obliging (waits crowded : Prop) (w : World) (run : RunWork α) (node : Node)
    (ctx : Context) (limit : Option Nat) : Prop where
  setup : SetsUp w run node ctx
  waits : Waits w run node ctx limit → waits
  crowded : Ports.capacity < ctx.description.outputs ∨ Overshoots w run node ctx limit → crowded

section Node

variable {waits crowded : Prop} {run : RunWork α} {node : Node} {ctx : Context}
  {limit : Option Nat} {w w' : World} {index number : Nat}

theorem Node.Ask.Prompt.cancelled_eq_false {question : Node.Ask} (h : question.Prompt)
    (ha : w.answer (.within question) = none) : w.cancelled = false := by
  have := h.answered w.moment
  rw [show w.moment.answerWithin question = none from ha] at this
  cases this

theorem World.awaitCancel_none (ha : w.answer (.within (.awaitCancel none)) = none) :
    w.cancelled = false := by
  apply (World.Later.moment w).calm
  by_contra hc
  have hm : w.moment.cancelled = true := Bool.not_eq_false _ ▸ hc
  change w.moment.awaitCancel none = none at ha
  simp [World.awaitCancel, hm] at ha

/-- A call of a node's code for an item returns, or it has no time limit and waits for the token. -/
theorem call_settles (w : World) :
    Settles (limit = none) False w (call node ctx limit index number) fun _ => True := by
  cases limit with
  | some millis => exact .inl (call_returns nofun)
  | none =>
    have hasks : Asks (fun question => ∀ w : World, w.answer question = none → w.cancelled = false)
        False (call node ctx none index number) := by
      refine (Asks.question fun w ha => nomatch ha).bind fun _ => ?_
      exact .guarded (fun question h w ha => h.cancelled_eq_false ha) _ _
        fun _ w ha => World.awaitCancel_none ha
    exact (Settles.of_asks hasks (fun question w h => h w) w).imp_right
      (Or.imp_left fun stuck => ⟨rfl, stuck.2⟩)

theorem abandoned_settles (outcome : Except Failure Output) :
    Settles waits crowded w (abandoned outcome) fun _ => True := by
  unfold abandoned
  split
  · exact .inl ⟨_, _, perform_isCancelled w, trivial⟩
  · exact .pure trivial

/-- If an item is put out on a port that there is no room for, there is a reason. -/
def Output.Accounted (crowded : Prop) (outcome : Except Failure Output) : Prop :=
  ∀ output, outcome = .ok output → Ports.capacity ≤ output.port → crowded

theorem Output.Accounted.error (e : Failure) : Accounted crowded (.error e) := nofun

/-- There is room for what an item adds unless it is put out on a port too far. -/
theorem contribute_eq_none {outcome : Except Failure Output} {ports : Ports}
    (fits : ports.length ≤ Ports.capacity) (h : contribute ctx index outcome ports = none) :
    ∃ output, outcome = .ok output ∧ Ports.capacity ≤ output.port := by
  cases outcome with
  | ok output => exact ⟨output, rfl, (Ports.append_eq_none_iff fits).mp h⟩
  | error e =>
    have beyond := (Ports.append_eq_none_iff fits).mp h
    exact absurd Ports.capacity_pos (Nat.not_lt.mpr beyond)

theorem fits_of_contribute {outcome : Except Failure Output} {ports filled : Ports}
    (fits : ports.length ≤ Ports.capacity) (h : contribute ctx index outcome ports = some filled) :
    filled.length ≤ Ports.capacity := by
  cases outcome with
  | ok output => exact Ports.fits_of_append fits h
  | error e => exact Ports.fits_of_append fits h

variable (obliging : Obliging waits crowded w run node ctx limit)
include obliging

theorem attempt_settles (h : Performs w run w' (attempt node ctx limit index number)) :
    Settles waits crowded w' (attempt node ctx limit index number) (Output.Accounted crowded) := by
  refine h.settles_unless_cancelled (fun _ => .pure (.error _)) fun w'' h => ?_
  rcases call_settles w'' with ⟨outcome, ended, hr, _⟩ | ⟨free, ended, hs, calm⟩ | ⟨never, _⟩
  · refine .inl ⟨outcome, ended, hr, fun output ho far => ?_⟩
    subst ho
    exact obliging.crowded (.inr ⟨w'', index, number, output, ended, h, hr, far⟩)
  · exact .inr (.inl ⟨obliging.waits ⟨free, w'', index, number, h, by rw [hs]⟩, ended, hs, calm⟩)
  · exact never.elim

theorem persist_settles (policy : RetryPolicy) (more : Nat)
    (h : Performs w run w' (persist node ctx limit policy index number more)) :
    Settles waits crowded w' (persist node ctx limit policy index number more)
      (Output.Accounted crowded) := by
  induction more generalizing w' number with
  | zero => exact attempt_settles obliging h
  | succ more ih =>
    refine h.settles_bind (attempt_settles obliging h.first) ?_
    intro outcome w'' accounted h
    split at h
    · exact .pure accounted
    · exact .pure accounted
    · obtain ⟨ended, _, hw⟩ := perform_awaitCancel w'' (Node.nap (policy.delayFor number))
      refine h.settles_bind (P := fun _ => True) (.inl ⟨_, ended, hw, trivial⟩) ?_
      intro fired ended _ h
      cases fired with
      | true => exact .pure (.error _)
      | false => exact ih h

theorem item_settles (policy : Option RetryPolicy)
    (h : Performs w run w' (item node ctx limit policy index)) :
    Settles waits crowded w' (item node ctx limit policy index) (Output.Accounted crowded) := by
  cases policy with
  | none => exact attempt_settles obliging h
  | some policy => exact persist_settles obliging policy _ h

theorem items_settles (policy : Option RetryPolicy) (indices : List Nat) {ports : Ports}
    (fits : ports.length ≤ Ports.capacity)
    (h : Performs w run w' (items node ctx limit policy indices ports)) :
    Settles waits crowded w' (items node ctx limit policy indices ports) fun _ => True := by
  induction indices generalizing w' ports with
  | nil => exact .pure trivial
  | cons index rest ih =>
    refine h.settles_unless_cancelled (fun _ => .pure trivial) fun w'' h => ?_
    refine h.settles_bind (item_settles obliging policy h.first) ?_
    intro outcome w'' accounted h
    refine h.settles_bind (abandoned_settles outcome) ?_
    intro given w'' _ h
    cases given with
    | true => exact .pure trivial
    | false =>
      cases hc : contribute ctx index outcome ports with
      | none =>
        obtain ⟨output, ho, far⟩ := contribute_eq_none fits hc
        simp only [Bool.false_eq_true, ↓reduceIte]
        exact .inr (.inr ⟨accounted output ho far, w'', rfl⟩)
      | some filled =>
        simp only [Bool.false_eq_true, ↓reduceIte, hc] at h ⊢
        exact ih (fits_of_contribute fits hc) h

theorem node_settles (policy : Option RetryPolicy)
    (h : Performs w run w' (RunWork.node node ctx limit policy)) :
    Settles waits crowded w' (RunWork.node node ctx limit policy) fun _ => True := by
  obtain ⟨wide, hn⟩ | ⟨blanks, roomy, hn⟩ := node_cases node ctx limit policy
  · rw [hn]
    exact .inr (.inr ⟨obliging.crowded (.inl wide), w', rfl⟩)
  · rw [hn] at h ⊢
    refine h.settles_bind (.inl (obliging.setup w' h.first)) ?_
    intro outcome w'' _ h
    cases outcome with
    | ok => exact items_settles obliging policy _ (Ports.fits_of_blank roomy) h
    | error e => exact .pure trivial

end Node

section Cancelled

variable {node : Node} {ctx : Context} {limit : Option Nat} {policy : Option RetryPolicy}
  {w w' : World}

/-- An item is given up only once the token has fired. -/
theorem cancelled_of_abandoned {outcome : Except Failure Output}
    (h : perform w (abandoned outcome) = (.returned true, w')) : w'.cancelled = true := by
  unfold abandoned at h
  split at h
  · rw [perform_isCancelled] at h
    obtain ⟨hc, rfl⟩ := Prod.mk.inj h
    exact Ending.returned.inj hc
  · cases h

theorem items_error {indices : List Nat} {ports : Ports} {fault : Fault}
    (h : perform w (items node ctx limit policy indices ports) =
      (.returned (.error fault), w')) : fault = .cancelled ∧ w'.cancelled = true := by
  induction indices generalizing w ports with
  | nil => cases h
  | cons index rest ih =>
    unfold items at h
    rw [perform_bind_of_returned (perform_isCancelled w)] at h
    split at h
    next hc =>
      cases h
      exact ⟨rfl, by simpa using hc⟩
    · obtain ⟨outcome, between, _, h⟩ := returned_of_bind h
      obtain ⟨given, after, ha, h⟩ := returned_of_bind h
      cases given with
      | true =>
        cases h
        exact ⟨rfl, cancelled_of_abandoned ha⟩
      | false =>
        cases hc : contribute ctx index outcome ports with
        | none =>
          rw [hc] at h
          cases h
        | some more =>
          rw [hc] at h
          exact ih h

/-- Nothing but the token makes the run of a node fail. -/
theorem node_error {fault : Fault}
    (h : perform w (RunWork.node node ctx limit policy) = (.returned (.error fault), w')) :
    fault = .cancelled ∧ w'.cancelled = true := by
  obtain ⟨_, _, outcome, _, _, h⟩ := node_returned h
  cases outcome with
  | ok => exact items_error h
  | error e => cases h

end Cancelled

namespace Executor

/-- A node has more ports than there is room for: those that it puts out on, or, where edges lead to
it, those that it is given. -/
def Overfull (executor : Executor) (workflow : Workflow) : Prop :=
  ∃ placed ∈ workflow.nodes, ∃ node, executor.registry.create placed = .ok node ∧
    (Ports.capacity < node.description.outputs ∨
      (∃ edge ∈ workflow.edges, edge.destination = placed.id) ∧
        Ports.capacity < workflow.portCount node.description.inputs placed.id)

/-- In a run of a workflow there is a port too many: one that a node has, or one that its code names
at an item. -/
def Crowds (executor : Executor) (id : Uuid) (workflow : Workflow) (w : World) (run : RunWork α) :
    Prop :=
  executor.Overfull workflow ∨ ∃ placed ∈ workflow.nodes, ∃ node given,
    executor.registry.create placed = .ok node ∧
    Overshoots w run node (executor.context id placed node given) executor.itemTimeout

/-- In a run of a workflow a node's code waits, at an item, for what never comes. -/
def Waits (executor : Executor) (id : Uuid) (workflow : Workflow) (w : World) (run : RunWork α) :
    Prop :=
  ∃ placed ∈ workflow.nodes, ∃ node given, executor.registry.create placed = .ok node ∧
    RunWork.Waits w run node (executor.context id placed node given) executor.itemTimeout

variable {executor : Executor} {workflow : Workflow} {cast : List (Placed × Node)} {id : Uuid}
  {trigger : List Item} {plan : Plan} {run : RunWork α} {w w' : World}

section Follow

variable {waits crowded : Prop}
  (narrow : ∀ (position : Nat) (placed : Placed) (node : Node),
    cast[position]? = some (placed, node) → ¬plan.isStart position →
    Ports.capacity < workflow.portCount node.description.inputs placed.id → crowded)
  (obliging : ∀ member ∈ cast, ∀ given, Obliging waits crowded w run member.2
    (executor.context id member.1 member.2 given) executor.itemTimeout)
include narrow obliging

theorem turn_settles {position : Nat} (hp : position < cast.length) (finished : Finished)
    (h : Performs w run w' (executor.turn id workflow plan trigger cast position finished)) :
    Settles waits crowded w' (executor.turn id workflow plan trigger cast position finished)
      fun _ => True := by
  refine h.settles_unless_cancelled (fun _ => .pure trivial) fun w'' h => ?_
  have hat := List.getElem?_eq_getElem hp
  simp only [hat] at h ⊢
  cases hi : inputs workflow plan trigger position cast[position].1 cast[position].2 finished with
  | none =>
    obtain ⟨hstart, wide⟩ := inputs_eq_none_iff.mp hi
    exact .inr (.inr ⟨narrow position _ _ hat hstart wide, w'', rfl⟩)
  | some given =>
    simp only [hi] at h
    refine h.settles_bind (node_settles (obliging _ (List.getElem_mem hp) _) _ h.first) ?_
    intro outcome w'' _ h
    cases outcome with
    | error fault => exact .pure trivial
    | ok output => exact .inl ⟨_, _, perform_bind_of_returned (perform_notify _ _) _, trivial⟩

theorem follow_settles (positions : List Nat) (hp : ∀ position ∈ positions, position < cast.length)
    (finished : Finished)
    (h : Performs w run w' (executor.follow id workflow plan trigger cast positions finished)) :
    Settles waits crowded w' (executor.follow id workflow plan trigger cast positions finished)
      fun _ => True := by
  induction positions generalizing w' finished with
  | nil => exact .pure trivial
  | cons position rest ih =>
    refine h.settles_bind (turn_settles narrow obliging (hp position (by simp)) finished h.first) ?_
    intro outcome w'' _ h
    cases outcome with
    | error fatal => exact .pure trivial
    | ok after => exact ih (fun position hm => hp position (by simp [hm])) after h

end Follow

theorem turn_error {position : Nat} {finished : Finished} {fatal : Fatal}
    (h : perform w (executor.turn id workflow plan trigger cast position finished) =
      (.returned (.error fatal), w')) : fatal.fault = .cancelled ∧ w'.cancelled = true := by
  unfold turn at h
  rw [perform_bind_of_returned (perform_isCancelled w)] at h
  split at h
  next hc =>
    cases h
    exact ⟨rfl, by simpa using hc⟩
  split at h
  · cases h
  split at h
  · cases h
  obtain ⟨outcome, between, hr, h⟩ := returned_of_bind h
  cases outcome with
  | error fault =>
    cases h
    exact node_error hr
  | ok output => cases h

/-- Nothing but the token makes a run of nodes fail. -/
theorem follow_error {positions : List Nat} {finished : Finished} {fatal : Fatal}
    (h : perform w (executor.follow id workflow plan trigger cast positions finished) =
      (.returned (.error fatal), w')) : fatal.fault = .cancelled ∧ w'.cancelled = true := by
  induction positions generalizing w finished with
  | nil => cases h
  | cons position rest ih =>
    obtain ⟨outcome, between, ht, h⟩ := returned_of_bind h
    cases outcome with
    | error fatal =>
      cases h
      exact turn_error ht
    | ok after => exact ih h

/-- Whoever is to have a turn is in the cast. -/
theorem lt_length_of_scheduled (sound : workflow.Sound)
    (assembled : assemble executor.registry workflow.nodes = .ok cast) {position : Nat}
    (h : position ∈ workflow.graph.schedule) : position < cast.length := by
  have hlt := sound.mem_graph_schedule.mp h
  rwa [Workflow.ids, List.length_map, ← (assemble_eq_ok assembled).1, List.length_map] at hlt

/-- Every node has had its turn in the end, so none is left that never became ready. -/
theorem length_finished (sound : workflow.Sound) {items : List Item} {finished : Finished}
    (h : perform w (executor.follow id workflow workflow.graph items cast workflow.graph.schedule
      []) = (.returned (.ok finished), w')) : finished.length = workflow.nodes.length := by
  have hn := congrArg List.length (follow_finished h).2
  have hs := sound.graph_schedule_perm.length_eq
  simpa [hs, Workflow.ids] using hn

/-- A member of the cast that does not start has edges that lead to it. -/
theorem exists_edge_of_not_start (sound : workflow.Sound)
    (assembled : assemble executor.registry workflow.nodes = .ok cast) {position : Nat}
    {placed : Placed} {node : Node} (hat : cast[position]? = some (placed, node))
    (hstart : ¬workflow.graph.isStart position) :
    ∃ edge ∈ workflow.edges, edge.destination = placed.id := by
  have hid := mem_ids_of_cast assembled hat
  rw [← idxOf_of_cast sound assembled hat, Workflow.graph_isStart_iff sound.joined hid] at hstart
  simpa using hstart

variable {trigger : Option (List Item)}

/-- What a run does with its nodes settles if their setups do. -/
theorem undertake_settles
    (setups : ∀ placed ∈ workflow.nodes, ∀ node given,
      executor.registry.create placed = .ok node →
        SetsUp w run node (executor.context id placed node given))
    (h : Performs w run w' (executor.undertake id workflow trigger)) :
    Settles (executor.Waits id workflow w run) (executor.Crowds id workflow w run) w'
      (executor.undertake id workflow trigger) fun _ => True := by
  rcases undertake_cases executor id workflow trigger with ⟨fatal, -, hu⟩ | ⟨cast, -, sound, hc, hu⟩
  · rw [hu]
    exact .pure trivial
  obtain ⟨hnodes, hcreate⟩ := assemble_eq_ok hc
  have hmember {member : Placed × Node} (hm : member ∈ cast) : member.1 ∈ workflow.nodes :=
    hnodes ▸ List.mem_map_of_mem hm
  have hplaces (position : Nat) (hm : position ∈ workflow.graph.schedule) :
      position < cast.length := lt_length_of_scheduled sound hc hm
  have narrow (position : Nat) (placed : Placed) (node : Node)
      (hat : cast[position]? = some (placed, node)) (hstart : ¬workflow.graph.isStart position)
      (wide : Ports.capacity < workflow.portCount node.description.inputs placed.id) :
      executor.Crowds id workflow w run := by
    have hm := List.mem_of_getElem? hat
    exact .inl ⟨placed, hmember hm, node, hcreate _ hm,
      .inr ⟨exists_edge_of_not_start sound hc hat hstart, wide⟩⟩
  have obliging (member : Placed × Node) (hm : member ∈ cast) (given : Ports) :
      Obliging (executor.Waits id workflow w run) (executor.Crowds id workflow w run) w run member.2
        (executor.context id member.1 member.2 given) executor.itemTimeout := by
    have hin := hmember hm
    have hnode := hcreate member hm
    refine ⟨setups member.1 hin member.2 given hnode, fun waits => ?_, fun crowded => ?_⟩
    · exact ⟨member.1, hin, member.2, given, hnode, waits⟩
    · rcases crowded with wide | far
      · exact .inl ⟨member.1, hin, member.2, hnode, .inl wide⟩
      · exact .inr ⟨member.1, hin, member.2, given, hnode, far⟩
  rw [hu] at h ⊢
  exact h.settles_bind (follow_settles narrow obliging _ hplaces [] h.first)
    fun _ _ _ _ => .pure trivial

/-- Where a workflow is accepted and its nodes can be made, nothing but the token makes its run
fail. -/
theorem undertake_error (accepted : Plan.build workflow = .ok plan)
    (made : ∀ placed ∈ workflow.nodes, ∃ node, executor.registry.create placed = .ok node)
    {fatal : Fatal}
    (h : perform w (executor.undertake id workflow trigger) = (.returned (.error fatal), w')) :
    fatal.fault = .cancelled ∧ w'.cancelled = true := by
  obtain ⟨sound, rfl⟩ := Plan.build_eq_ok_iff.mp accepted
  obtain ⟨cast, hc⟩ := assemble_of_made made
  unfold undertake drive at h
  simp only [accepted, hc] at h
  obtain ⟨outcome, ended, hf, h⟩ := returned_of_bind h
  cases outcome with
  | error fatal =>
    cases h
    exact follow_error hf
  | ok finished =>
    have hall : ¬finished.length < workflow.nodes.length :=
      Nat.not_lt.mpr (length_finished sound hf).ge
    simp only [if_neg hall] at h
    cases h

theorem conclude_returns (w : World) (started : Nat) (outcome : Except Fatal Finished) :
    Returns w (conclude id workflow started outcome) fun _ => True := by
  cases outcome with
  | ok finished => exact ⟨_, _, rfl, trivial⟩
  | error fatal => exact ⟨_, _, rfl, trivial⟩

theorem conclude_error {started : Nat} {outcome : Except Fatal Finished} {fault : Fault}
    (h : perform w (conclude id workflow started outcome) = (.returned (.error fault), w')) :
    ∃ fatal, outcome = .error fatal ∧ fatal.fault = fault := by
  unfold conclude at h
  rw [perform_bind_of_returned (perform_now w)] at h
  cases outcome with
  | ok finished => cases h
  | error fatal =>
    cases h
    exact ⟨fatal, rfl, rfl⟩

/-- A run is, once its sink knows that it starts, the undertaking and its conclusion. -/
theorem performs_undertake (executor : Executor) (id : Uuid) (workflow : Workflow)
    (trigger : Option (List Item)) (w : World) :
    Performs w (executor.execute id workflow trigger) (started workflow w)
      (executor.undertake id workflow trigger >>= conclude id workflow w.clock) := by
  have hn : Performs w (executor.execute id workflow trigger) w.moment
      (RunWork.notify (.started (some workflow.title)) >>= fun _ =>
        executor.undertake id workflow trigger >>= conclude id workflow w.clock) :=
    Performs.whole.rest (perform_now w)
  exact hn.rest (perform_notify _ _)

/-- In a run of a workflow of one node, that node is run on the trigger. -/
theorem performs_alone {placed : Placed} {node : Node} {items : List Item}
    (nodes : workflow.nodes = [placed]) (edges : workflow.edges = [])
    (made : executor.registry.create placed = .ok node)
    (calm : (started workflow w).moment.cancelled = false) :
    Performs w (executor.execute id workflow (some items)) (started workflow w).moment
      (RunWork.node node (executor.context id placed node [items]) executor.itemTimeout
        placed.retryPolicy) := by
  have hplan : Plan.build workflow = .ok { size := 1, edges := [] } := by
    have hunique : Plan.duplicate? [] [placed.id] = none := rfl
    rw [Plan.build, nodes, edges, List.map_singleton, hunique]
    rfl
  have hcast : assemble executor.registry workflow.nodes = .ok [(placed, node)] := by
    simp [nodes, assemble, made, Except.map]
  have hschedule : Plan.schedule { size := 1, edges := [] } = [0] := rfl
  have hw := (performs_undertake executor id workflow (some items) w).first
  unfold undertake drive at hw
  simp only [hplan, hcast, hschedule] at hw
  have hturn := hw.first.first.rest (perform_isCancelled _)
  rw [if_neg (by simp [calm])] at hturn
  exact hturn.first

/-- A run settles if the setups of its nodes do. -/
theorem execute_settles
    (setups : ∀ placed ∈ workflow.nodes, ∀ node given,
      executor.registry.create placed = .ok node →
        SetsUp w (executor.execute id workflow trigger) node
          (executor.context id placed node given)) :
    Settles (executor.Waits id workflow w (executor.execute id workflow trigger))
      (executor.Crowds id workflow w (executor.execute id workflow trigger)) w
      (executor.execute id workflow trigger) fun _ => True := by
  have hb := performs_undertake executor id workflow trigger w
  exact hb.settles_bind (undertake_settles setups hb.first)
    fun outcome w'' _ _ => .inl (conclude_returns w'' _ outcome)

/-- Where a workflow is accepted and its nodes can be made, nothing but the token makes its run
fail. -/
theorem execute_error (accepted : Plan.build workflow = .ok plan)
    (made : ∀ placed ∈ workflow.nodes, ∃ node, executor.registry.create placed = .ok node)
    {fault : Fault}
    (h : perform w (executor.execute id workflow trigger) = (.returned (.error fault), w')) :
    fault = .cancelled ∧ w'.cancelled = true := by
  change perform (started workflow w) (executor.undertake id workflow trigger >>=
    conclude id workflow w.clock) = _ at h
  obtain ⟨outcome, ended, hu, hc⟩ := returned_of_bind h
  obtain ⟨fatal, rfl, rfl⟩ := conclude_error hc
  obtain ⟨hf, fired⟩ := undertake_error accepted made hu
  exact ⟨hf, (later_of_perform hc).cancelled fired⟩

end Executor

end Conveyor
