import Conveyor.Proofs.Order
import Conveyor.Proofs.Tables
import Mathlib.Algebra.GroupWithZero.Nat

namespace Conveyor
open RunWork

namespace Agenda

/-- Counts one edge as served. None where there is no counter for it, or nothing to count down. -/
def serve? (waiting : List Nat) (position : Nat) : Option (List Nat × List Nat) :=
  match waiting[position]? with
  | some (left + 1) => some (waiting.set position left, if left = 0 then [position] else [])
  | some 0 | none => none

def serveAll? (waiting : List Nat) : List Nat → Option (List Nat × List Nat)
  | [] => some (waiting, [])
  | position :: rest => do
    let (waiting, newly) ← serve? waiting position
    let (waiting, later) ← serveAll? waiting rest
    return (waiting, newly ++ later)

/-- What is left when a position has been taken from the queue and processed. -/
def advance? (tables : Tables) (agenda : Agenda) (position : Nat) (ready : List Nat) :
    Option Agenda := do
  let (waiting, newly) ← serveAll? agenda.waiting (tables.successors.getD position [])
  return { waiting, ready := ready ++ ascending newly, processed := agenda.processed ++ [position] }

/-- The edges that are left to serve, and the positions that are left in the queue. To serve an edge
adds one position to the queue at most. -/
def left (agenda : Agenda) : Nat := agenda.waiting.sum + agenda.ready.length

variable {waiting after newly targets : List Nat} {position : Nat}

theorem sum_set {left : Nat} (h : waiting[position]? = some (left + 1)) :
    (waiting.set position left).sum + 1 = waiting.sum := by
  induction waiting generalizing position with
  | nil => cases h
  | cons first rest ih =>
    cases position with
    | zero =>
      cases h
      simp only [List.set_cons_zero, List.sum_cons]
      omega
    | succ position =>
      have hrest := ih h
      simp only [List.set_cons_succ, List.sum_cons]
      omega

theorem sum_serve? (h : serve? waiting position = some (after, newly)) :
    after.sum + newly.length ≤ waiting.sum := by
  unfold serve? at h
  split at h
  next left hleft =>
    cases h
    rw [← sum_set hleft]
    split <;> simp
  all_goals cases h

theorem sum_serveAll? (h : serveAll? waiting targets = some (after, newly)) :
    after.sum + newly.length ≤ waiting.sum := by
  induction targets generalizing waiting after newly with
  | nil =>
    cases h
    simp
  | cons position rest ih =>
    obtain ⟨⟨between, first⟩, hfirst, h⟩ := Option.bind_eq_some_iff.mp h
    obtain ⟨⟨last, later⟩, hlater, h⟩ := Option.bind_eq_some_iff.mp h
    cases h
    have hf := sum_serve? hfirst
    have hl := ih hlater
    rw [List.length_append]
    omega

/-- Every turn of the loop leaves less to do. -/
theorem left_advance? {tables : Tables} {agenda next : Agenda} {ready : List Nat}
    (queue : agenda.ready = position :: ready)
    (h : agenda.advance? tables position ready = some next) : next.left < agenda.left := by
  obtain ⟨⟨waiting, newly⟩, hserved, h⟩ := Option.bind_eq_some_iff.mp h
  cases h
  have hsum := sum_serveAll? hserved
  simp only [left, queue, ascending, List.length_append, List.length_mergeSort, List.length_cons]
  omega

theorem serve?_eq (h : 0 < waiting.getD position 0) :
    serve? waiting position = some (serve waiting position) := by
  rw [List.getD_eq_getElem?_getD] at h
  unfold serve? serve
  cases hleft : waiting[position]? with
  | none => simp [hleft] at h
  | some count =>
    cases count with
    | zero => simp [hleft] at h
    | succ left => simp [List.getD_eq_getElem?_getD, hleft]

theorem serveAll?_eq (enough : ∀ v, targets.count v ≤ waiting.getD v 0) :
    serveAll? waiting targets = some (serveAll waiting targets) := by
  induction targets generalizing waiting with
  | nil => rfl
  | cons position rest ih =>
    have here := enough position
    rw [List.count_cons_self] at here
    rw [serveAll?, serve?_eq (Nat.lt_of_lt_of_le (Nat.succ_pos _) here), serveAll_cons]
    dsimp only [Option.bind_eq_bind, Option.bind_some]
    rw [ih (count_le_serve enough)]
    rfl

namespace Consistent

variable {plan : Plan} {agenda : Agenda} {ready : List Nat}

/-- What a position takes from the counters is in them. -/
theorem advances (h : Consistent plan agenda) (queue : agenda.ready = position :: ready) :
    position < plan.size ∧ ∃ next, agenda.advance? plan.tables position ready = some next ∧
      agenda.next? plan = some (position, next) := by
  have hn : agenda.next? plan = some (position, _) := next?_eq_some_iff.mpr ⟨ready, queue, rfl⟩
  obtain ⟨hsize, hu, -⟩ := h.of_next hn
  have served : plan.tables.successors.getD position [] = plan.successors position := by
    rw [List.getD_eq_getElem?_getD, Plan.getElem?_tables_successors hsize, Option.getD_some]
  refine ⟨hsize, _, ?_, hn⟩
  rw [Agenda.advance?, served, serveAll?_eq (h.enough hu)]
  rfl

theorem getElem?_waiting (h : Consistent plan agenda) (hlt : position < plan.size) :
    agenda.waiting[position]? = some (plan.pending agenda.processed position) := by
  rw [← h.waiting, List.getD_eq_getElem?_getD,
    List.getElem?_eq_getElem (Nat.lt_of_lt_of_eq hlt h.length.symm), Option.getD_some]

theorem empty_of_full (h : Consistent plan agenda)
    (full : plan.size ≤ agenda.processed.length) : agenda.ready = [] := by
  have inside : agenda.processed ++ agenda.ready ⊆ List.range plan.size := by
    intro v hv
    rcases List.mem_append.mp hv with hm | hm
    · exact List.mem_range.mpr (h.settled v hm).1
    · exact List.mem_range.mpr ((h.ready v).mp hm).1
  have hle := (List.subperm_of_subset h.unique inside).length_le
  rw [List.length_append, List.length_range] at hle
  exact List.length_eq_zero_iff.mp (by omega)

end Consistent

end Agenda

def Tables.start (tables : Tables) : Agenda :=
  { waiting := tables.inDegrees
    ready := (List.range tables.inDegrees.length).filter fun position =>
      tables.inDegrees[position]? = some 0 }

theorem Plan.start_tables (plan : Plan) : plan.tables.start = Agenda.start plan := by
  have queue : (List.range plan.size).filter (fun p => plan.tables.inDegrees[p]? = some 0) =
      plan.startNodes := by
    apply List.filter_congr
    intro position hm
    have hlt := List.mem_range.mp hm
    simp [getElem?_tables_inDegrees hlt, isStart, hlt]
  rw [Tables.start, Agenda.start, ← queue]
  simp [tables]

namespace Executor

/-- Takes what is ready, one position after the other, until the queue is empty. The counters and
the queue are kept as the positions have their turns. A counter that is not there, or is at zero
already, breaks the loop. -/
def loop (executor : Executor) (id : Uuid) (workflow : Workflow) (plan : Plan) (tables : Tables)
    (trigger : List Item) (cast : List (Placed × Node)) (agenda : Agenda) (finished : Finished) :
    RunWork (Except Fatal Finished) :=
  match _ : agenda.ready with
  | [] => return .ok finished
  | position :: ready => do
    match ← executor.turn id workflow plan trigger cast position finished with
    | .error fatal => return .error fatal
    | .ok after =>
      match _ : agenda.advance? tables position ready with
      | none => .panic none
      | some next => executor.loop id workflow plan tables trigger cast next after
termination_by agenda.left
decreasing_by exact Agenda.left_advance? ‹agenda.ready = position :: ready› ‹_›

variable {executor : Executor} {id : Uuid} {workflow : Workflow} {plan : Plan} {tables : Tables}
  {trigger : List Item} {cast : List (Placed × Node)} {agenda : Agenda} {finished : Finished}
  {position : Nat} {ready : List Nat}

theorem loop_nil (empty : agenda.ready = []) :
    executor.loop id workflow plan tables trigger cast agenda finished =
      pure (.ok finished) := by
  rw [loop]
  split
  · rfl
  next queue => cases empty.symm.trans queue

theorem loop_cons (queue : agenda.ready = position :: ready) :
    executor.loop id workflow plan tables trigger cast agenda finished =
      executor.turn id workflow plan trigger cast position finished >>= fun outcome =>
        match outcome with
        | .error fatal => pure (.error fatal)
        | .ok after =>
          match agenda.advance? tables position ready with
          | none => .panic none
          | some next => executor.loop id workflow plan tables trigger cast next after := by
  rw [loop]
  split
  next empty => cases queue.symm.trans empty
  next first rest queue' =>
    cases queue.symm.trans queue'
    congr 1
    funext outcome
    cases outcome with
    | error fatal => rfl
    | ok after =>
      dsimp only
      split
      next served => rw [served]
      next later served => rw [served]

/-- The loop gives the nodes their turns as they are scheduled, and never breaks down itself. -/
theorem loop_eq_follow (inside : plan.Inside) (steps : Nat) (h : Agenda.Consistent plan agenda)
    (enough : plan.size ≤ agenda.processed.length + steps) :
    ∃ rest, (agenda.follow plan steps).processed = agenda.processed ++ rest ∧ ∀ finished,
      executor.loop id workflow plan plan.tables trigger cast agenda finished =
        executor.follow id workflow plan trigger cast rest finished := by
  -- The steps cover the positions that are not processed yet, so the queue is empty without one.
  induction steps generalizing agenda with
  | zero =>
    refine ⟨[], by simp [Agenda.follow], fun finished => ?_⟩
    rw [loop_nil (h.empty_of_full enough)]
    rfl
  | succ steps ih =>
    cases queue : agenda.ready with
    | nil =>
      refine ⟨[], by simp [Agenda.follow, Agenda.next?, queue], fun finished => ?_⟩
      rw [loop_nil queue]
      rfl
    | cons position ready =>
      obtain ⟨-, next, advanced, hn⟩ := h.advances queue
      obtain ⟨_, _, hnext⟩ := Agenda.next?_eq_some_iff.mp hn
      have processed : next.processed = agenda.processed ++ [position] := by rw [hnext]
      have left : plan.size ≤ next.processed.length + steps := by
        rw [processed, List.length_append, List.length_singleton]
        omega
      obtain ⟨rest, hrest, hloop⟩ := ih (h.next inside hn) left
      refine ⟨position :: rest, ?_, fun finished => ?_⟩
      · rw [Agenda.follow, hn]
        dsimp only
        rw [hrest, processed, List.append_assoc, List.singleton_append]
      · rw [loop_cons queue, follow]
        congr 1
        funext outcome
        cases outcome with
        | error fatal => rfl
        | ok after =>
          dsimp only
          rw [advanced]
          exact hloop after

theorem loop_start (inside : plan.Inside) :
    executor.loop id workflow plan plan.tables trigger cast plan.tables.start [] =
      executor.follow id workflow plan trigger cast plan.schedule [] := by
  rw [plan.start_tables]
  obtain ⟨rest, hrest, hloop⟩ :=
    loop_eq_follow inside plan.size (Agenda.Consistent.start inside) (Nat.le_add_left _ _)
  rw [hloop, Plan.schedule, hrest]
  rfl

/-- A run of an accepted workflow is the loop over the tables of its plan. -/
theorem drive_eq_loop {trigger : Option (List Item)} (inside : plan.Inside)
    (assembled : assemble executor.registry workflow.nodes = .ok cast) :
    executor.drive id workflow trigger plan =
      (executor.loop id workflow plan plan.tables (trigger.getD [.empty]) cast
        plan.tables.start []) >>= fun outcome => pure (tally workflow outcome) := by
  rw [loop_start inside, drive_eq assembled]

end Executor

end Conveyor
