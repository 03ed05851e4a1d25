import Conveyor.Proofs.Completion
import Conveyor.Proofs.Prefix

namespace Conveyor
open RunWork

variable {α : Type}

/-- The same work, except that it fails where it would break down. -/
def Work.caught : Work Node.Ask.Reply (Except Failure α) → Work Node.Ask.Reply (Except Failure α)
  | .done result => .done result
  | .panic payload => .done (.error (.execution (panicText payload)))
  | .ask question next => .ask question fun reply => (next reply).caught

/-- The same node, except that its code for an item fails where it would break down. -/
def Node.caught (node : Node) : Node :=
  { node with run := fun ctx index number => Work.caught (node.run ctx index number) }

def Registry.caught (registry : Registry) : Registry :=
  registry.mapValues fun factory parameters => (factory parameters).map Node.caught

def Executor.caught (executor : Executor) : Executor :=
  { executor with registry := executor.registry.caught }

section Attempts

/-- To an attempt it is the same whether its code breaks down or fails. -/
theorem guarded_caught (limit : Option Limit) (code : Work Node.Ask.Reply (Except Failure α)) :
    guarded limit code.caught = guarded limit code := by
  induction code generalizing limit with
  | done result => rfl
  | panic payload => rfl
  | ask question next ih =>
    cases question
    case hang => rfl
    case awaitCancel millis => cases millis <;> simp only [Work.caught, guarded, ih]
    all_goals simp only [Work.caught, guarded, ih]

variable {ctx : Context} {limit : Option Nat}

theorem attempt_caught (node : Node) (index number : Nat) :
    attempt node.caught ctx limit index number = attempt node ctx limit index number := by
  have hcall : call node.caught ctx limit index number = call node ctx limit index number :=
    congrArg (RunWork.begin _ >>= ·) (funext fun _ => guarded_caught _ _)
  rw [attempt, attempt, hcall]

theorem persist_caught (node : Node) (policy : RetryPolicy) (index number more : Nat) :
    persist node.caught ctx limit policy index number more =
      persist node ctx limit policy index number more := by
  induction more generalizing number with
  | zero => exact attempt_caught node index number
  | succ more ih => simp only [persist, attempt_caught, ih]

theorem item_caught (node : Node) (policy : Option RetryPolicy) (index : Nat) :
    item node.caught ctx limit policy index = item node ctx limit policy index := by
  cases policy with
  | none => exact attempt_caught node index 1
  | some policy => exact persist_caught node policy index 1 _

theorem items_caught (node : Node) (policy : Option RetryPolicy) (indices : List Nat)
    (ports : Ports) :
    items node.caught ctx limit policy indices ports = items node ctx limit policy indices ports := by
  induction indices generalizing ports with
  | nil => rfl
  | cons index rest ih => simp only [items, item_caught, ih]

theorem node_caught (node : Node) (policy : Option RetryPolicy) :
    RunWork.node node.caught ctx limit policy = RunWork.node node ctx limit policy := by
  have hproduce (blanks : Ports) : produce node.caught ctx limit policy blanks =
      produce node ctx limit policy blanks := by
    funext outcome
    cases outcome with
    | error e => rfl
    | ok => exact items_caught node policy _ _
  have hprepare : prepare node.caught ctx = prepare node ctx := rfl
  simp only [RunWork.node, hproduce, hprepare]

end Attempts

theorem Registry.create_caught (registry : Registry) (placed : Placed) :
    registry.caught.create placed = (registry.create placed).map Node.caught := by
  unfold create build
  rw [caught, Table.get?_mapValues]
  cases registry.get? placed.type with
  | none => rfl
  | some factory =>
    dsimp only [Option.map_some]
    cases factory placed.parameters <;> rfl

/-- The calls of a node's code in a run end: they return, with an error or without, or they break
down. An attempt that has a time limit does so by itself. -/
structure RunWork.Ends {α : Type} (w : World) (run : RunWork α) (node : Node) (ctx : Context)
    (limit : Option Nat) : Prop where
  setup : ∀ w', Performs w run w' (prepare node ctx) → (perform w' (prepare node ctx)).1 ≠ .stuck
  attempt : ¬RunWork.Waits w run node ctx limit

theorem RunWork.Cooperates.ends {w : World} {run : RunWork α} {node : Node} {ctx : Context}
    {limit : Option Nat} (h : Cooperates w run node ctx limit) : Ends w run node ctx limit := by
  refine ⟨fun w' within => ?_, h.attempt⟩
  obtain ⟨outcome, w'', hr, _⟩ := h.setup w' within
  rw [hr]
  nofun

theorem RunWork.Ends.setsUp {w : World} {run : RunWork α} {node : Node} {ctx : Context}
    {limit : Option Nat} (h : Ends w run node ctx limit)
    (whole : ∀ w' payload w'', Performs w run w' (prepare node ctx) →
      perform w' (prepare node ctx) ≠ (.panicked payload, w'')) : SetsUp w run node ctx := by
  intro w' within
  have ends := h.setup w' within
  rcases hp : perform w' (prepare node ctx) with ⟨ending, w''⟩
  cases ending with
  | returned outcome => exact ⟨outcome, w'', hp, trivial⟩
  | panicked payload => exact absurd hp (whole w' payload w'' within)
  | stuck => exact absurd (congrArg Prod.fst hp) ends

/-- A notice tells how a run ended. -/
def Notice.Tells (notice : Notice) : Except Fault Result → Prop
  | .ok result => notice = .completed result.finished.length (some result.millis)
  | .error fault => ∃ node, notice = .failed node fault.message

namespace Executor

theorem tells_closing {id : Uuid} {workflow : Workflow} (millis : Nat)
    (outcome : Except Fatal Finished) :
    (closing millis outcome).Tells (verdict id workflow millis outcome) := by
  cases outcome with
  | ok finished => rfl
  | error fatal => exact ⟨fatal.node, rfl⟩

variable {w w' : World} {executor : Executor} {id : Uuid} {workflow : Workflow} {plan : Plan}

/-- A member of a cast, who fails where the other would break down. -/
def understudy : Placed × Node → Placed × Node
  | (placed, node) => (placed, node.caught)

theorem assemble_caught (registry : Registry) (nodes : List Placed) :
    assemble registry.caught nodes = (assemble registry nodes).map (·.map understudy) := by
  induction nodes with
  | nil => rfl
  | cons placed rest ih =>
    rw [assemble, assemble, Registry.create_caught, ih]
    cases registry.create placed with
    | error fault => rfl
    | ok node => cases assemble registry rest <;> rfl

section Follow

variable {trigger : List Item} {cast : List (Placed × Node)}

theorem turn_caught (position : Nat) (finished : Finished) :
    executor.caught.turn id workflow plan trigger (cast.map understudy) position finished =
      executor.turn id workflow plan trigger cast position finished := by
  unfold turn
  rw [List.getElem?_map]
  cases cast[position]? with
  | none => rfl
  | some member =>
    obtain ⟨placed, node⟩ := member
    refine congrArg (isCancelled >>= ·) (funext fun fired => ?_)
    dsimp only [understudy, Option.map_some]
    simp only [node_caught]
    rfl

theorem follow_caught (positions : List Nat) (finished : Finished) :
    executor.caught.follow id workflow plan trigger (cast.map understudy) positions finished =
      executor.follow id workflow plan trigger cast positions finished := by
  induction positions generalizing finished with
  | nil => rfl
  | cons position rest ih =>
    rw [follow, follow, turn_caught]
    simp only [ih]

end Follow

variable {trigger : Option (List Item)}

theorem drive_caught (plan : Plan) :
    executor.caught.drive id workflow trigger plan = executor.drive id workflow trigger plan := by
  have hcast : assemble executor.caught.registry workflow.nodes = _ := assemble_caught _ _
  unfold drive
  rw [hcast]
  cases assemble executor.registry workflow.nodes with
  | error fatal => rfl
  | ok cast =>
    dsimp only [Except.map]
    rw [follow_caught]

/-- A panic at an item is an error of the attempt in which it comes: a run is the same if nodes fail
where they would break down. -/
theorem execute_caught :
    executor.caught.execute id workflow trigger = executor.execute id workflow trigger := by
  have hu : executor.caught.undertake id workflow trigger =
      executor.undertake id workflow trigger := by
    unfold undertake
    simp only [drive_caught]
  rw [execute, execute, hu]

section Setups

/-- In the course of a run the setup of a node breaks down. -/
def SetupBreaks (executor : Executor) (id : Uuid) (workflow : Workflow) (origin : World)
    (run : RunWork α) (payload : Option String) (broken : World) : Prop :=
  ∃ placed ∈ workflow.nodes, ∃ node given before, executor.registry.create placed = .ok node ∧
    Performs origin run before (prepare node (executor.context id placed node given)) ∧
    perform before (prepare node (executor.context id placed node given)) =
      (.panicked payload, broken)

variable (ends : ∀ placed ∈ workflow.nodes, ∀ node given,
    executor.registry.create placed = .ok node →
      Ends w (executor.execute id workflow trigger) node
        (executor.context id placed node given) executor.itemTimeout)
include ends

/-- Where no setup breaks down, a run returns, whatever becomes of the attempts, if there is room for
its ports. -/
theorem returns_or_breaks (whole : ∀ payload broken,
      ¬ executor.SetupBreaks id workflow w (executor.execute id workflow trigger) payload broken) :
    Returns w (executor.execute id workflow trigger) (fun _ => True) ∨
      executor.Crowds id workflow w (executor.execute id workflow trigger) ∧
        ∃ w', perform w (executor.execute id workflow trigger) = (.panicked none, w') := by
  have settles : Settles _ _ w (executor.execute id workflow trigger) _ :=
    execute_settles fun placed hm node given hc =>
      (ends placed hm node given hc).setsUp fun before payload broken within hp =>
        whole payload broken ⟨placed, hm, node, given, before, hc, within, hp⟩
  rcases settles with returned | ⟨waits, _⟩ | crowded
  · exact .inl returned
  · obtain ⟨placed, hm, node, given, hc, waits⟩ := waits
    exact ((ends placed hm node given hc).attempt waits).elim
  · exact .inr crowded

/-- What becomes of a panic. One in the code for an item is an error of the attempt it comes in, that
says that execution failed: a run is the same if nodes fail where they would break down. So where no
setup breaks down, a run returns, and has told its sink how it ended, once and last; unless it finds
no room for a port. That and a panic in a setup are not contained: they end the run there and then,
and the sink is not told. -/
theorem contains_panics_of_items {ending : Ending (Except Fault Result)}
    (h : perform w (executor.execute id workflow trigger) = (ending, w')) :
    executor.caught.execute id workflow trigger = executor.execute id workflow trigger ∧
    ∃ between, (∀ notice ∈ between, notice.OfNode) ∧
      ((∀ payload broken, ¬ executor.SetupBreaks id workflow w
          (executor.execute id workflow trigger) payload broken) →
        (∃ outcome last, ending = .returned outcome ∧ last.Tells outcome ∧
          w.noticesSince w' = .started (some workflow.title) :: (between ++ [last])) ∨
        executor.Crowds id workflow w (executor.execute id workflow trigger) ∧
          ending = .panicked none ∧
          w.noticesSince w' = .started (some workflow.title) :: between) ∧
      ∀ payload broken, executor.SetupBreaks id workflow w
          (executor.execute id workflow trigger) payload broken →
        ending = .panicked payload ∧ w' = broken ∧
          w.noticesSince w' = .started (some workflow.title) :: between := by
  obtain ⟨first, ended, hu, rfl, hn, _, _⟩ := execute_parts h
  have untold (payload : Option String) (hf : first = .panicked payload) :
      w.noticesSince w' = .started (some workflow.title) ::
        (started workflow w).noticesSince ended := by
    subst hf
    simpa [farewell] using hn
  refine ⟨execute_caught, _, undertake_notices hu, fun whole => ?_, fun payload broken breaks => ?_⟩
  · rcases returns_or_breaks ends whole with ⟨outcome, _, hr, _⟩ | ⟨crowded, _, hr⟩
    · cases first with
      | returned outcome => exact .inl ⟨_, _, rfl, tells_closing _ outcome, hn⟩
      | panicked payload | stuck => cases h.symm.trans hr
    · cases first with
      | panicked payload =>
        cases h.symm.trans hr
        exact .inr ⟨crowded, rfl, untold _ rfl⟩
      | returned outcome | stuck => cases h.symm.trans hr
  · obtain ⟨placed, _, node, given, before, _, within, hp⟩ := breaks
    have hr := h.symm.trans (within.panicked hp)
    cases first with
    | panicked payload =>
      cases hr
      exact ⟨rfl, rfl, untold _ rfl⟩
    | returned outcome | stuck => cases hr

end Setups

end Executor

/-- A node whose setup breaks down. -/
def Node.brittle : Node where
  description := { displayName := "Brittle", name := "brittle" }
  setup _ := NodeWork.panic (some "boom")
  run ctx index _ := return { items := [ctx.payload index] }

theorem Node.brittle_ends (w : World) (run : RunWork α) (ctx : Context) (limit : Option Nat) :
    Ends w run brittle ctx limit where
  setup _ _ := nofun
  attempt := by
    rintro ⟨_, _, _, _, _, stuck⟩
    cases stuck

def Executor.careless : Executor where
  registry := Nodes.standard.register "brittle" fun _ => .ok Node.brittle

def Workflow.shattered : Workflow where
  id := "shattered"
  nodes := [{ id := "only", type := "brittle" }]
  edges := []

theorem Workflow.shattered_ends (w : World) (run : RunWork α) : ∀ placed ∈ shattered.nodes,
    ∀ node given, Executor.careless.registry.create placed = .ok node →
      Ends w run node (Executor.careless.context ⟨0⟩ placed node given)
        Executor.careless.itemTimeout := by
  intro placed hm node given hc
  obtain rfl := List.mem_singleton.mp hm
  cases hc
  exact Node.brittle_ends _ _ _ _

/-- The surroundings in which the setup breaks down. -/
def Workflow.shards : World :=
  (Executor.started .shattered {}).moment.note (.began (.setup "only" [[.empty]]))

theorem Workflow.shattered_breaks :
    Executor.careless.SetupBreaks ⟨0⟩ .shattered {}
      (Executor.careless.execute ⟨0⟩ .shattered (some [.empty])) (some "boom") shards := by
  have within : Performs {} (Executor.careless.execute ⟨0⟩ .shattered (some [.empty]))
      (Executor.started .shattered {}).moment
      (RunWork.node .brittle (Executor.careless.context ⟨0⟩ { id := "only", type := "brittle" }
        .brittle [[.empty]]) none none) :=
    Executor.performs_alone rfl rfl rfl rfl
  exact ⟨_, List.mem_singleton_self _, .brittle, [[.empty]], _, rfl, within.first, rfl⟩

/-- The setup of the one node of an accepted workflow breaks down, and the run with it: that it
starts is all that its sink is told. -/
theorem Executor.panic_of_setup_escapes :
    (careless.validate .shattered).isOk = true ∧
    (∀ placed ∈ Workflow.shattered.nodes, ∀ node given,
      careless.registry.create placed = .ok node →
        Ends {} (careless.execute ⟨0⟩ .shattered (some [.empty])) node
          (careless.context ⟨0⟩ placed node given) careless.itemTimeout) ∧
    ∃ w', perform {} (careless.execute ⟨0⟩ .shattered (some [.empty])) =
        (.panicked (some "boom"), w') ∧
      World.noticesSince {} w' = [.started (some "shattered")] := by
  obtain ⟨placed, _, node, given, before, _, within, hp⟩ := Workflow.shattered_breaks
  exact ⟨rfl, Workflow.shattered_ends _ _, _, within.panicked hp, rfl⟩

theorem Executor.contains_panics_of_items_cracked :
    (∃ result between w', perform {} (fragile.execute ⟨0⟩ .cracked none) =
        (.returned (.ok result), w') ∧
      World.noticesSince {} w' = .started (some "cracked") ::
        (between ++ [.completed result.finished.length (some result.millis)])) ∧
    ∃ between w', perform {} (careless.execute ⟨0⟩ .shattered (some [.empty])) =
        (.panicked (some "boom"), w') ∧
      World.noticesSince {} w' = .started (some "shattered") :: between ∧
      ∀ notice ∈ between, notice.OfNode := by
  constructor
  · have hok : (perform {} (fragile.execute ⟨0⟩ .cracked none)).1.isOk = true := by
      decide +kernel
    obtain ⟨result, w', h⟩ := ok_of_isOk hok
    obtain ⟨_, between, _, told, _⟩ := contains_panics_of_items
      (fun placed hm node given hc =>
        (Workflow.cracked_made.cooperates _ _ _ placed hm node given hc).ends) h
    -- The setup of a plain node is over at once.
    have whole : ∀ payload broken, ¬fragile.SetupBreaks ⟨0⟩ .cracked {}
        (fragile.execute ⟨0⟩ .cracked none) payload broken := by
      rintro payload broken ⟨placed, hm, node, given, before, hc, _, hp⟩
      rw [prepare, (Workflow.cracked_made.plain placed hm node hc).setup] at hp
      cases hp
    rcases told whole with ⟨outcome, last, he, tells, hn⟩ | ⟨_, broken, _⟩
    · cases he
      obtain rfl := tells
      exact ⟨result, between, w', h, hn⟩
    · cases broken
  · rcases h : perform {} (careless.execute ⟨0⟩ .shattered (some [.empty])) with ⟨ending, w'⟩
    obtain ⟨_, between, nodes, _, escapes⟩ :=
      contains_panics_of_items (Workflow.shattered_ends _ _) h
    obtain ⟨rfl, _, hn⟩ := escapes _ _ Workflow.shattered_breaks
    exact ⟨between, w', rfl, hn, nodes⟩

end Conveyor
