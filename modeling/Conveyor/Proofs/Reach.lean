import Conveyor.Proofs.Heeding
import Conveyor.Proofs.Prefix

namespace Conveyor
open RunWork

variable {α β : Type}

namespace Work

variable {Ask : Type} {Reply : Ask → Type}

theorem bind_done (work : Work Reply α) : work.bind done = work := by
  induction work with
  | done value => rfl
  | panic payload => rfl
  | ask question next ih => exact congrArg (ask question) (funext ih)

theorem bind_bind {γ : Type} (work : Work Reply α) (f : α → Work Reply β) (g : β → Work Reply γ) :
    (work.bind f).bind g = work.bind fun value => (f value).bind g := by
  induction work with
  | done value => rfl
  | panic payload => rfl
  | ask question next ih => exact congrArg (ask question) (funext ih)

instance : LawfulMonad (Work Reply) := .mk' _ bind_done (fun _ _ => rfl) bind_bind

end Work

/-- Performing a computation comes to a call of node code: the surroundings in which the call
begins, and what is left to do from then on. -/
inductive RunWork.Reaches (call : Call) : World → RunWork α → World → RunWork α → Prop
  | here (w : World) (next : Unit → RunWork α) :
      Reaches call w (.ask (.begin call) next) w (next ())
  | step {w between u : World} {question : Run.Ask} {reply : question.Reply}
      {next : question.Reply → RunWork α} {rest : RunWork α}
      (answered : w.answer question = some (reply, between))
      (later : Reaches call between (next reply) u rest) :
      Reaches call w (.ask question next) u rest

namespace RunWork.Reaches

variable {call : Call} {w u : World} {work rest : RunWork α}

theorem perform_eq (h : Reaches call w work u rest) :
    perform w work = perform (u.note (.began call)) rest := by
  induction h with
  | here w next => rfl
  | step answered _ ih =>
    rw [perform, answered]
    exact ih

theorem later (h : Reaches call w work u rest) : w.Later u := by
  induction h with
  | here w next => exact .refl w
  | step answered _ ih => exact (World.Later.answer answered).trans ih

/-- A call in a sequence is reached in its first part or, when that has returned, in the second. -/
theorem bind_cases {next : α → RunWork β} {rest : RunWork β}
    (h : Reaches call w (work >>= next) u rest) :
    (∃ left, Reaches call w work u left ∧ rest = left >>= next) ∨
    ∃ value between, perform w work = (.returned value, between) ∧
      Reaches call between (next value) u rest := by
  induction work generalizing w with
  | done value => exact .inr ⟨value, _, rfl, h⟩
  | panic payload => cases h
  | ask question more ih =>
    cases h with
    | here => exact .inl ⟨more (), .here _ more, rfl⟩
    | step answered later =>
      rcases ih _ later with ⟨left, hl, rfl⟩ | ⟨value, between, hp, hn⟩
      · exact .inl ⟨left, .step answered hl, rfl⟩
      · exact .inr ⟨value, between, by simpa [perform, answered] using hp, hn⟩

/-- What is reached behind work that has returned is reached in the sequence of both. -/
theorem after {between : World} {value : α} {next : α → RunWork β} {rest : RunWork β}
    (hp : perform w work = (.returned value, between))
    (h : Reaches call between (next value) u rest) : Reaches call w (work >>= next) u rest := by
  induction work generalizing w with
  | done value =>
    cases hp
    exact h
  | panic payload => cases hp
  | ask question more ih =>
    unfold perform at hp
    split at hp
    · cases hp
    next reply w' answered => exact .step answered (ih reply hp)

theorem of_begins {P : Call → Prop} (hb : Begins P work) (h : Reaches call w work u rest) :
    P call := by
  induction h with
  | here w next => exact hb.1 call rfl
  | step _ _ ih => exact ih (hb.2 _)

/-- Work that begins no call is passed over. -/
theorem skip {next : α → RunWork β} {rest : RunWork β} (quiet : Begins (fun _ => False) work)
    (h : Reaches call w (work >>= next) u rest) :
    ∃ value between, perform w work = (.returned value, between) ∧
      Reaches call between (next value) u rest := by
  rcases h.bind_cases with ⟨left, hl, _⟩ | hn
  · exact (hl.of_begins quiet).elim
  · exact hn

theorem of_begin {begun : Call} {next : Unit → RunWork α}
    (quiet : Begins (fun _ => False) (next ()))
    (h : Reaches call w (RunWork.begin begun >>= next) u rest) :
    call = begun ∧ u = w ∧ rest = next () := by
  cases h with
  | here => exact ⟨rfl, rfl, rfl⟩
  | step answered later => exact (later.of_begins quiet).elim

end RunWork.Reaches

/-- What is part of a run is what the run does at some point, before the rest of it. -/
theorem Performs.reaches {origin w : World} {run : RunWork α} {part : RunWork β}
    (h : Performs origin run w part) :
    ∃ next : β → RunWork α, ∀ {call : Call} {u : World} {rest : RunWork α},
      Reaches call w (part >>= next) u rest → Reaches call origin run u rest := by
  induction h with
  | whole => exact ⟨pure, fun h => by rwa [bind_pure] at h⟩
  | @first _ _ w part next _ ih =>
    obtain ⟨more, hm⟩ := ih
    exact ⟨fun value => next value >>= more, fun h => hm (by rwa [bind_assoc])⟩
  | @rest _ _ w between part next value _ returned ih =>
    obtain ⟨more, hm⟩ := ih
    refine ⟨more, fun h => hm ?_⟩
    rw [bind_assoc]
    exact .after returned h

/-- A call within a run is reached by it. -/
theorem Performs.reaches_begin {origin w : World} {run : RunWork α} {call : Call}
    {next : Unit → RunWork β}
    (h : Performs origin run w (RunWork.begin call >>= next)) :
    ∃ more : β → RunWork α, Reaches call origin run w (next () >>= more) := by
  obtain ⟨more, hm⟩ := h.reaches
  exact ⟨more, hm (.here w fun _ => next () >>= more)⟩

section Node

variable {node : Node} {ctx : Context} {limit : Option Nat} {policy : Option RetryPolicy}
  {call : Call} {w u : World}

/-- What is left to do at an attempt at an item: the rest of the attempt, and if the token has fired
by its end and it says it was cancelled, this outcome, of which the sink is told nothing. -/
def RunWork.Yields (node : Node) (ctx : Context) (limit : Option Nat) (call : Call)
    (rest : RunWork α) (outcome : α) : Prop :=
  ∃ index number next, call = .attempt ctx.nodeId ctx.inputs index number ∧
    rest = guarded (limit.map Limit.of) (node.run ctx index number) >>= next ∧
    ∀ v : World, v.cancelled = true → ∃ v', perform v (next (.error .cancelled)) =
      (.returned outcome, v') ∧ v.noticesSince v' = []

theorem RunWork.Yields.bind {rest : RunWork α} {outcome : α} {next : α → RunWork β} {outcome' : β}
    (h : Yields node ctx limit call rest outcome)
    (hn : ∀ v : World, v.cancelled = true → ∃ v', perform v (next outcome) =
      (.returned outcome', v') ∧ v.noticesSince v' = []) :
    Yields node ctx limit call (rest >>= next) outcome' := by
  obtain ⟨index, number, more, hc, rfl, hm⟩ := h
  refine ⟨index, number, fun result => more result >>= next, hc, bind_assoc _ _ _, fun v hv => ?_⟩
  obtain ⟨between, hr, hquiet⟩ := hm v hv
  have hb := later_of_perform hr
  obtain ⟨v', hr', hquiet'⟩ := hn between (hb.cancelled hv)
  refine ⟨v', (perform_bind_of_returned hr _).trans hr', ?_⟩
  rw [hb.noticesSince_trans (later_of_perform hr'), hquiet, hquiet']
  rfl

theorem attempt_reached {index number : Nat} {rest : RunWork (Except Failure Output)}
    (h : Reaches call w (attempt node ctx limit index number) u rest) :
    Yields node ctx limit call rest (.error .cancelled) := by
  obtain ⟨fired, between, _, h⟩ := h.skip .isCancelled
  split at h
  · cases h
  · obtain ⟨rfl, rfl, rfl⟩ := h.of_begin (Begins.guarded _ _)
    refine ⟨index, number, pure, rfl, (bind_pure _).symm, fun v _ => ⟨v, rfl, ?_⟩⟩
    exact World.noticesSince_self v

theorem persist_reached {p : RetryPolicy} {index number more : Nat}
    {rest : RunWork (Except Failure Output)}
    (h : Reaches call w (persist node ctx limit p index number more) u rest) :
    Yields node ctx limit call rest (.error .cancelled) := by
  induction more generalizing w number with
  | zero => exact attempt_reached h
  | succ more ih =>
    rcases h.bind_cases with ⟨left, hl, rfl⟩ | ⟨outcome, between, _, h⟩
    · exact (attempt_reached hl).bind fun v _ => ⟨v, rfl, World.noticesSince_self v⟩
    · split at h
      · cases h
      · cases h
      · obtain ⟨fired, _, _, h⟩ := h.skip (.awaitCancel _)
        split at h
        · cases h
        · exact ih h

theorem item_reached {index : Nat} {rest : RunWork (Except Failure Output)}
    (h : Reaches call w (item node ctx limit policy index) u rest) :
    Yields node ctx limit call rest (.error .cancelled) := by
  cases policy with
  | none => exact attempt_reached h
  | some p => exact persist_reached h

theorem items_reached {indices : List Nat} {ports : Ports} {rest : RunWork (Except Fault Ports)}
    (h : Reaches call w (items node ctx limit policy indices ports) u rest) :
    Yields node ctx limit call rest (.error .cancelled) := by
  induction indices generalizing w ports with
  | nil => cases h
  | cons index indices ih =>
    obtain ⟨fired, between, _, h⟩ := h.skip .isCancelled
    split at h
    · cases h
    rcases h.bind_cases with ⟨left, hl, rfl⟩ | ⟨outcome, between, _, h⟩
    · refine (item_reached hl).bind fun v hv => ⟨v.moment, ?_, World.noticesSince_moment v⟩
      have hm : v.moment.cancelled = true := (World.Later.moment v).cancelled hv
      rw [show abandoned (.error .cancelled) = isCancelled from rfl,
        perform_bind_of_returned (perform_isCancelled v), hm]
      rfl
    · obtain ⟨given, _, _, h⟩ := h.skip (abandoned_asks (fun _ => nofun) outcome)
      split at h
      · cases h
      · split at h
        · exact ih h
        · cases h

/-- The calls in the run of a node are that of its setup, at its start, and attempts. -/
theorem node_reached {rest : RunWork (Except Fault Ports)}
    (h : Reaches call w (RunWork.node node ctx limit policy) u rest) :
    (∃ blanks, Ports.blank ctx.description.outputs = some blanks ∧
      call = .setup ctx.nodeId ctx.inputs ∧ u = w ∧
      rest = freely (node.setup ctx) >>= produce node ctx limit policy blanks) ∨
    Yields node ctx limit call rest (.error .cancelled) := by
  obtain ⟨-, hn⟩ | ⟨blanks, roomy, hn⟩ := node_cases node ctx limit policy
  · rw [hn] at h
    cases h
  rw [hn] at h
  rcases h.bind_cases with ⟨left, hl, rfl⟩ | ⟨outcome, between, _, h⟩
  · obtain ⟨hc, hu, rfl⟩ := hl.of_begin (Begins.freely _)
    exact .inl ⟨blanks, roomy, hc, hu, rfl⟩
  · cases outcome with
    | error e => cases h
    | ok => exact .inr (items_reached h)

end Node

namespace Executor

variable {executor : Executor} {workflow : Workflow} {cast : List (Placed × Node)} {id : Uuid}
  {plan : Plan} {call : Call} {w u : World}

/-- What a turn does with the outcome of its node. -/
def report (placed : Placed) (finished : Finished) :
    Except Fault Ports → RunWork (Except Fatal Finished)
  | .error fault => return .error ⟨some placed.id, fault⟩
  | .ok output => do
    RunWork.notify (.nodeFinished placed.id placed.type output !output.anyError)
    return .ok (finished ++ [(placed.id, output)])

section Turn

variable {trigger : List Item} {finished : Finished}

theorem turn_reached {position : Nat} {rest : RunWork (Except Fatal Finished)}
    (h : Reaches call w (executor.turn id workflow plan trigger cast position finished) u rest) :
    ∃ placed node given, cast[position]? = some (placed, node) ∧
      ((∃ blanks, Ports.blank node.description.outputs = some blanks ∧
        call = .setup placed.id given ∧ u = w.moment ∧
        rest = (freely (node.setup (executor.context id placed node given)) >>=
          produce node (executor.context id placed node given) executor.itemTimeout
            placed.retryPolicy blanks) >>= report placed finished) ∨
      Yields node (executor.context id placed node given) executor.itemTimeout call rest
        (.error ⟨some placed.id, .cancelled⟩)) := by
  obtain ⟨fired, between, hp, h⟩ := h.skip .isCancelled
  cases hp
  split at h
  · cases h
  split at h
  · cases h
  next placed node hat =>
    split at h
    · cases h
    next given _ =>
      have hr : Reaches call w.moment (RunWork.node node (executor.context id placed node given)
          executor.itemTimeout placed.retryPolicy >>= report placed finished) u rest := h
      refine ⟨placed, node, given, hat, ?_⟩
      rcases hr.bind_cases with ⟨left, hl, rfl⟩ | ⟨outcome, between, _, h⟩
      · rcases node_reached hl with ⟨blanks, roomy, hc, hu, rfl⟩ | yields
        · exact .inl ⟨blanks, roomy, hc, hu, rfl⟩
        · exact .inr (yields.bind fun v _ => ⟨v, rfl, World.noticesSince_self v⟩)
      · cases outcome with
        | error fault => cases h
        | ok output =>
          have quiet : Begins (fun _ => False) (report placed finished (.ok output)) :=
            Begins.notify.bind fun _ => trivial
          exact (h.of_begins quiet).elim

/-- What is left of a run of nodes when a turn is over. -/
def onward (executor : Executor) (id : Uuid) (workflow : Workflow) (plan : Plan)
    (trigger : List Item) (cast : List (Placed × Node)) (positions : List Nat) :
    Except Fatal Finished → RunWork (Except Fatal Finished)
  | .error fatal => return .error fatal
  | .ok finished => executor.follow id workflow plan trigger cast positions finished

/-- A call in a run of nodes belongs to the turn of one of them, and those before it are done. -/
theorem follow_reached {positions : List Nat} {rest : RunWork (Except Fatal Finished)}
    (h : Reaches call w (executor.follow id workflow plan trigger cast positions finished) u
      rest) :
    ∃ front position back done v left, positions = front ++ position :: back ∧
      perform w (executor.follow id workflow plan trigger cast front finished) =
        (.returned (.ok done), v) ∧
      Reaches call v (executor.turn id workflow plan trigger cast position done) u left ∧
      rest = left >>= executor.onward id workflow plan trigger cast back := by
  induction positions generalizing w finished with
  | nil => cases h
  | cons first others ih =>
    have hr : Reaches call w (executor.turn id workflow plan trigger cast first finished >>=
        executor.onward id workflow plan trigger cast others) u rest := h
    rcases hr.bind_cases with ⟨left, hl, rfl⟩ | ⟨outcome, between, ht, h⟩
    · exact ⟨[], first, others, finished, w, left, rfl, rfl, hl, rfl⟩
    · cases outcome with
      | error fatal => cases h
      | ok after =>
        obtain ⟨front, position, back, done, v, left, rfl, hf, hl, rfl⟩ := ih h
        refine ⟨first :: front, position, back, done, v, left, rfl, ?_, hl, rfl⟩
        exact (perform_bind_of_returned ht _).trans hf

end Turn

variable {trigger : Option (List Item)}

/-- What is left of a run when a turn is over: the turns to come, and the end. -/
def afterwards (executor : Executor) (id : Uuid) (workflow : Workflow)
    (trigger : Option (List Item)) (cast : List (Placed × Node)) (started : Nat)
    (positions : List Nat) (outcome : Except Fatal Finished) : RunWork (Except Fault Result) := do
  let outcome ← executor.onward id workflow workflow.graph (trigger.getD [.empty]) cast positions
    outcome
  conclude id workflow started (tally workflow outcome)

/-- A call in a run of a workflow belongs to the turn of a node. -/
theorem execute_reached {rest : RunWork (Except Fault Result)}
    (h : Reaches call w (executor.execute id workflow trigger) u rest) :
    ∃ cast front position back done v left, workflow.Sound ∧
      assemble executor.registry workflow.nodes = .ok cast ∧
      workflow.graph.schedule = front ++ position :: back ∧
      perform (started workflow w) (executor.follow id workflow workflow.graph
        (trigger.getD [.empty]) cast front []) = (.returned (.ok done), v) ∧
      Reaches call v (executor.turn id workflow workflow.graph (trigger.getD [.empty]) cast
        position done) u left ∧
      rest = left >>= executor.afterwards id workflow trigger cast w.clock back := by
  obtain ⟨_, _, hp, h⟩ := h.skip .now
  cases hp
  obtain ⟨_, _, hp, h⟩ := h.skip .notify
  cases hp
  rcases h.bind_cases with ⟨left, hl, rfl⟩ | ⟨outcome, _, _, h⟩
  · rcases undertake_cases executor id workflow trigger with
      ⟨fatal, _, hu⟩ | ⟨cast, _, sound, hc, hu⟩
    · rw [hu] at hl
      cases hl
    · rw [hu] at hl
      rcases hl.bind_cases with ⟨inner, hi, rfl⟩ | ⟨_, _, _, h⟩
      · obtain ⟨front, position, back, done, v, left, hs, hf, ht, rfl⟩ := follow_reached hi
        refine ⟨cast, front, position, back, done, v, left, sound, hc, hs, hf, ht, ?_⟩
        rw [bind_assoc, bind_assoc]
        rfl
      · cases h
  · exact (h.of_begins (conclude_begins _ _ _ outcome)).elim

end Executor

end Conveyor
