import Conveyor.Proofs.Abandonment
import Conveyor.Proofs.Items
import Conveyor.Proofs.Rounds

namespace Conveyor
open RunWork

/-- An attempt at an item that takes place, and where it begins, if the first begins in given
surroundings. Another follows on one that fails, unless it says that it was cancelled, no more are
allowed, or the token fires in the wait. -/
inductive RunWork.Attempted (node : Node) (ctx : Context) (limit : Option Nat)
    (policy : Option RetryPolicy) (index : Nat) (w : World) : Nat → World → Prop
  | first : Attempted node ctx limit policy index w 1 w
  | next {number : Nat} {before failed waited : World} {e : Failure} {p : RetryPolicy}
      (earlier : Attempted node ctx limit policy index w number before)
      (tried : perform before (attempt node ctx limit index number) =
        (.returned (.error e), failed))
      (retryable : e ≠ .cancelled) (more : number < RetryPolicy.allowed policy)
      (patient : policy = some p)
      (pause : perform failed (awaitCancel (some (Node.nap (p.delayFor number)))) =
        (.returned false, waited)) :
      Attempted node ctx limit policy index w (number + 1) waited

/-- The final attempt at an item fails. -/
def RunWork.FailsFinally (node : Node) (ctx : Context) (limit : Option Nat)
    (policy : Option RetryPolicy) (index : Nat) (w : World) : Prop :=
  ∃ number before e after, Attempted node ctx limit policy index w number before ∧
    (∀ later, ¬Attempted node ctx limit policy index w (number + 1) later) ∧
    perform before (attempt node ctx limit index number) = (.returned (.error e), after)

section Item

variable {node : Node} {ctx : Context} {limit : Option Nat} {policy : Option RetryPolicy}
  {index : Nat} {w w' : World}

namespace RunWork.Attempted

theorem unique {number : Nat} {before other : World}
    (h : Attempted node ctx limit policy index w number before)
    (h' : Attempted node ctx limit policy index w number other) : before = other := by
  induction h generalizing other with
  | first =>
    cases h' with
    | first => rfl
    | next earlier => nomatch earlier
  | @next number before failed waited e p earlier tried retryable more patient pause ih =>
    cases h' with
    | first => nomatch earlier
    | next earlier' tried' _ _ patient' pause' =>
      obtain rfl := ih earlier'
      cases tried.symm.trans tried'
      cases patient.symm.trans patient'
      cases pause.symm.trans pause'
      rfl

theorem pos {number : Nat} {before : World}
    (h : Attempted node ctx limit policy index w number before) : 0 < number := by
  cases h <;> exact Nat.succ_pos _

/-- Every attempt but the first comes after another. -/
theorem exists_of_le {number m : Nat} {before : World}
    (h : Attempted node ctx limit policy index w number before) (hm : 0 < m) (hle : m ≤ number) :
    ∃ other, Attempted node ctx limit policy index w m other := by
  induction h with
  | first =>
    obtain rfl : m = 1 := by omega
    exact ⟨w, .first⟩
  | @next number before failed waited e p earlier tried retryable more patient pause ih =>
    by_cases hl : m = number + 1
    · exact ⟨waited, hl ▸ .next earlier tried retryable more patient pause⟩
    · exact ih (by omega)

/-- What it takes for another attempt to follow. -/
theorem of_next {number : Nat} {before later : World}
    (h : Attempted node ctx limit policy index w number before)
    (hl : Attempted node ctx limit policy index w (number + 1) later) :
    ∃ e failed p, perform before (attempt node ctx limit index number) =
        (.returned (.error e), failed) ∧
      e ≠ .cancelled ∧ number < RetryPolicy.allowed policy ∧ policy = some p ∧
      perform failed (awaitCancel (some (Node.nap (p.delayFor number)))) =
        (.returned false, later) := by
  cases hl with
  | first => exact absurd h.pos (Nat.lt_irrefl 0)
  | @next _ _ failed _ e p earlier tried retryable more patient pause =>
    obtain rfl := h.unique earlier
    exact ⟨e, failed, p, tried, retryable, more, patient, pause⟩

end RunWork.Attempted

/-- The final attempt at an item, and what is left of it: the item comes to what the attempt came
to, unless that is an error and the token fires in the wait after it. -/
def RunWork.Final (node : Node) (ctx : Context) (limit : Option Nat) (policy : Option RetryPolicy)
    (index : Nat) (w : World) (outcome : Except Failure Output) : Prop :=
  ∃ number before attempted after, Attempted node ctx limit policy index w number before ∧
    (∀ later, ¬Attempted node ctx limit policy index w (number + 1) later) ∧
    perform before (attempt node ctx limit index number) = (.returned attempted, after) ∧
    (attempted = outcome ∨ ∃ e, attempted = .error e ∧ outcome = .error .cancelled)

variable {outcome : Except Failure Output}

theorem persist_final {p : RetryPolicy} {number more : Nat} {before : World}
    (all : number + more = RetryPolicy.allowed (some p))
    (here : Attempted node ctx limit (some p) index w number before)
    (h : perform before (persist node ctx limit p index number more) = (.returned outcome, w')) :
    Final node ctx limit (some p) index w outcome := by
  induction more generalizing number before with
  | zero =>
    refine ⟨number, before, outcome, w', here, fun later hl => ?_, h, .inl rfl⟩
    obtain ⟨_, _, _, _, _, room, _⟩ := here.of_next hl
    omega
  | succ more ih =>
    obtain ⟨first, failed, tried, ⟨rfl, rfl, final⟩ | ⟨e, waited, rfl, he, pause, h⟩⟩ :=
      persist_cases h
    · refine ⟨number, before, outcome, _, here, fun later hl => ?_, tried, .inl rfl⟩
      obtain ⟨e, _, _, tried', retryable, _⟩ := here.of_next hl
      cases tried.symm.trans tried'
      exact retryable (final e rfl)
    · obtain ⟨fired, hout, rfl⟩ | ⟨patient, h⟩ := h
      · cases hout
        refine ⟨number, before, _, _, here, fun later hl => ?_, tried, .inr ⟨e, rfl, rfl⟩⟩
        obtain ⟨_, _, _, tried', _, _, patient, pause'⟩ := here.of_next hl
        cases tried.symm.trans tried'
        cases patient
        rw [pause, fired] at pause'
        cases pause'
      · exact ih (by omega) (here.next tried he (by omega) rfl (patient ▸ pause)) h

theorem item_final (h : perform w (item node ctx limit policy index) = (.returned outcome, w')) :
    Final node ctx limit policy index w outcome := by
  cases policy with
  | none =>
    refine ⟨1, w, outcome, w', .first, fun later hl => ?_, h, .inl rfl⟩
    obtain ⟨_, _, _, _, _, _, patient, _⟩ := Attempted.first.of_next hl
    cases patient
  | some p =>
    refine persist_final ?_ .first h
    rw [RetryPolicy.allowed]
    omega

/-- An item fails if and only if its final attempt does. -/
theorem item_fails_iff
    (h : perform w (item node ctx limit policy index) = (.returned outcome, w')) :
    (∃ e, outcome = .error e) ↔ FailsFinally node ctx limit policy index w := by
  obtain ⟨number, before, attempted, after, here, final, tried, hout⟩ := item_final h
  constructor
  · rintro ⟨e, rfl⟩
    obtain rfl | ⟨e, rfl, -⟩ := hout
    · exact ⟨number, before, e, after, here, final, tried⟩
    · exact ⟨number, before, e, after, here, final, tried⟩
  · rintro ⟨other, v, e, after', here', final', tried'⟩
    have hle : number ≤ other := by
      by_contra hn
      obtain ⟨later, hl⟩ := here.exists_of_le (Nat.succ_pos other) (by omega)
      exact final' later hl
    have hge : other ≤ number := by
      by_contra hn
      obtain ⟨later, hl⟩ := here'.exists_of_le (Nat.succ_pos number) (by omega)
      exact final later hl
    obtain rfl := Nat.le_antisymm hle hge
    obtain rfl := here.unique here'
    cases tried.symm.trans tried'
    obtain rfl | ⟨_, _, rfl⟩ := hout
    · exact ⟨e, rfl⟩
    · exact ⟨_, rfl⟩

end Item

namespace RunWork.Outcomes

variable {node : Node} {ctx : Context} {limit : Option Nat} {policy : Option RetryPolicy}
  {w w' : World} {indices : List Nat} {outcomes : List (Except Failure Output)}

/-- What an item comes to is settled once those before it are done. -/
theorem exists_item {k index : Nat} (h : Outcomes node ctx limit policy w indices outcomes w')
    (hk : indices[k]? = some index) :
    ∃ outcome earlier before after, outcomes[k]? = some outcome ∧
      Outcomes node ctx limit policy w (indices.take k) earlier before ∧
      perform before.moment (item node ctx limit policy index) = (.returned outcome, after) := by
  induction h generalizing k with
  | nil => simp at hk
  | @cons w between after w' first rest outcome outcomes ran kept _ ih =>
    cases k with
    | zero =>
      obtain rfl := Option.some.inj hk
      exact ⟨outcome, [], w, between, rfl, .nil w, ran⟩
    | succ k =>
      obtain ⟨found, earlier, before, done, hf, chain, hr⟩ := ih hk
      exact ⟨found, outcome :: earlier, before, done, hf, .cons ran kept chain, hr⟩

end RunWork.Outcomes

/-- The setup of a node fails, or the final attempt at one of its items does. -/
def RunWork.Falters (node : Node) (ctx : Context) (limit : Option Nat)
    (policy : Option RetryPolicy) (w : World) : Prop :=
  (∃ e failed, perform w (prepare node ctx) = (.returned (.error e), failed)) ∨
    ∃ ready index outcomes before,
      perform w (prepare node ctx) = (.returned (.ok ()), ready) ∧ index < ctx.itemCount ∧
      Outcomes node ctx limit policy ready (List.range index) outcomes before ∧
      FailsFinally node ctx limit policy index before.moment

section Node

variable {node : Node} {ctx : Context} {limit : Option Nat} {policy : Option RetryPolicy}
  {w w' : World} {ports : Ports}

theorem isError_of_mem_share {index port : Nat} {outcome : Except Failure Output} {item : Item}
    (h : item ∈ share ctx index outcome port) :
    item.isError = true ↔ ∃ e, outcome = .error e := by
  cases outcome with
  | ok output =>
    unfold share at h
    dsimp only at h
    split at h
    · obtain ⟨json, _, rfl⟩ := List.mem_map.mp h
      simp [Item.isError]
    · cases h
  | error e =>
    unfold share at h
    dsimp only at h
    split at h
    · rw [List.mem_singleton.mp h]
      simp [Item.isError, failureItem, Item.failure]
    · cases h

/-- A node puts an error out if and only if its setup fails or the final attempt at one of its items
does. Errors among what it is given have no part in it. -/
theorem node_anyError_iff
    (h : perform w (RunWork.node node ctx limit policy) = (.returned (.ok ports), w')) :
    ports.anyError = true ↔ Falters node ctx limit policy w := by
  obtain ⟨blanks, ready, prepared, roomy, hs, hrest⟩ := node_returned h
  cases prepared with
  | error e =>
    rw [produce_error roomy] at hrest
    cases hrest
    have hany := spoiled_anyError ctx e
    exact iff_of_true hany (.inl ⟨e, _, hs⟩)
  | ok =>
    obtain ⟨outcomes, chain, _, hon⟩ := items_returned hrest
    have hitem {k : Nat} (hk : k < ctx.itemCount) := chain.exists_item (List.getElem?_range hk)
    rw [Ports.anyError, List.any_eq_true]
    constructor
    · rintro ⟨item, hm, herror⟩
      obtain ⟨port, hm⟩ := Ports.mem_all_iff.mp hm
      rw [hon, Ports.on_of_blank roomy, List.nil_append] at hm
      obtain ⟨⟨index, outcome⟩, hz, hm⟩ := List.mem_flatMap.mp hm
      obtain ⟨k, hk⟩ := List.mem_iff_getElem?.mp hz
      obtain ⟨hindex, houtcome⟩ := List.getElem?_zip_eq_some.mp hk
      obtain ⟨hlt, rfl⟩ := List.getElem?_eq_some_iff.mp hindex
      rw [List.length_range] at hlt
      obtain ⟨found, earlier, before, after, hf, prior, hr⟩ := hitem hlt
      cases houtcome.symm.trans hf
      have hfails := (item_fails_iff hr).mp ((isError_of_mem_share hm).mp herror)
      rw [List.take_range, Nat.min_eq_left (Nat.le_of_lt hlt)] at prior
      exact .inr ⟨ready, k, earlier, before, hs, hlt, prior, hfails⟩
    · rintro (⟨e, failed, hs'⟩ | ⟨ready', index, earlier', before', hs', hlt, prior', hfails⟩)
      · cases hs.symm.trans hs'
      · cases hs.symm.trans hs'
        obtain ⟨found, earlier, before, after, hf, prior, hr⟩ := hitem hlt
        rw [List.take_range, Nat.min_eq_left (Nat.le_of_lt hlt)] at prior
        obtain ⟨_, rfl⟩ := prior.unique prior'
        obtain ⟨e, rfl⟩ := (item_fails_iff hr).mpr hfails
        refine ⟨failureItem ctx e index, Ports.mem_all_iff.mpr ⟨0, ?_⟩, rfl⟩
        rw [hon, Ports.on_of_blank roomy, List.nil_append]
        have hz : (index, .error e) ∈ (List.range ctx.itemCount).zip outcomes := by
          refine List.mem_of_getElem? (i := index) (List.getElem?_zip_eq_some.mpr ⟨?_, hf⟩)
          exact List.getElem?_range hlt
        exact List.mem_flatMap.mpr ⟨_, hz, List.mem_singleton_self _⟩

end Node

/-- What is said of a node that is done: what the sink is told of its output, and what its event
counts. -/
structure Report where
  placed : Placed
  output : Ports
  success : Bool
  items : Nat
  errors : Nat

namespace Report

def notice (report : Report) : Notice :=
  .nodeFinished report.placed.id report.placed.type report.output report.success

def occurrence (report : Report) : Occurrence :=
  .nodeFinished report.placed.id report.placed.type report.items report.errors report.success

/-- The report on a node that is done with an output. -/
def on (placed : Placed) (output : Ports) : Report where
  placed := placed
  output := output
  success := !output.anyError
  items := output.all.length
  errors := output.all.countP Item.isError

theorem success_on (placed : Placed) (output : Ports) :
    (on placed output).success = false ↔ output.anyError = true := by
  simp [on]

theorem errors_on (placed : Placed) (output : Ports) :
    0 < (on placed output).errors ↔ output.anyError = true := by
  rw [on, List.countP_pos_iff, Ports.anyError, List.any_eq_true]

theorem items_on (placed : Placed) (output : Ports) :
    (on placed output).items = output.foldl (fun count items => count + items.length) 0 := by
  have total (count : Nat) : count + output.flatten.length =
      output.foldl (fun count items => count + items.length) count := by
    induction output generalizing count with
    | nil => rfl
    | cons items rest ih =>
      rw [List.flatten_cons, List.length_append, List.foldl_cons, ← ih]
      omega
  rw [← total, Nat.zero_add]
  rfl

end Report

def Occurrence.isNodeFinished : Occurrence → Bool
  | nodeFinished .. => true
  | _ => false

/-- The events of nodes that are done are of what the sink was told. -/
theorem nodes_finished_eq (id : Uuid) (happened : List Happening) :
    ((happened.filterMap (Happening.event? id)).map Event.occurrence).filter
        Occurrence.isNodeFinished =
      ((happened.filterMap Happening.notice?).map Notice.occurrence).filter
        Occurrence.isNodeFinished := by
  induction happened with
  | nil => rfl
  | cons happening rest ih =>
    cases happening with
    | told clock notice =>
      simp only [List.filterMap_cons, Happening.event?, Happening.notice?, List.map_cons,
        List.filter_cons, ih]
    | reported | began | sent | signed | fired => exact ih

namespace Executor

variable {executor : Executor} {workflow : Workflow} {id : Uuid} {trigger : Option (List Item)}
  {result : Result} {w w' : World}

/-- A run that completes has told its sink of each of its nodes, once, with what its run came to. -/
theorem completed_account
    (h : perform w (executor.execute id workflow trigger) = (.returned (.ok result), w')) :
    ∃ done : List (Placed × Ports),
      w.noticesSince w' = .started (some workflow.title) ::
        (done.map (fun (placed, output) => placed.tiding output) ++
          [.completed result.finished.length (some result.millis)]) ∧
      result.finished = done.map (fun (placed, output) => (placed.id, output)) ∧
      result.order.Nodup ∧ (done.map Prod.fst).Perm workflow.nodes ∧
      ∀ entry ∈ done,
        executor.Ran id w (executor.execute id workflow trigger) entry.1 (.ok entry.2) := by
  obtain ⟨first, between, hu, he, hn, -, -⟩ := execute_parts h
  have within := (performs_undertake executor id workflow trigger w).first
  obtain ⟨finished, rfl, hresult⟩ : ∃ finished, first = .returned (.ok finished) ∧
      result = { executionId := id, workflowId := workflow.id, finished
                 millis := between.clock - w.clock } := by
    cases first with
    | panicked | stuck => cases he
    | returned outcome =>
      cases outcome with
      | error fatal => cases he
      | ok finished =>
        cases he
        exact ⟨finished, rfl, rfl⟩
  obtain ⟨cast, sound, assembled, hc, hf⟩ := undertake_returned hu
  rw [hc] at within
  obtain ⟨done, cut, account, hdone, hmem, -, hfinal⟩ :=
    follow_account (assemble_eq_ok assembled).2 within.first hf
  obtain ⟨-, hfinished⟩ := hfinal _ rfl
  rw [List.nil_append] at hfinished
  have hnames : finished.map Prod.fst = workflow.schedule := by
    rw [(follow_finished hf).2, idAt_of_assemble assembled]
    rfl
  have hids : (done.map Prod.fst).map Placed.id = workflow.schedule := by
    rw [← hnames, hfinished, List.map_map, List.map_map]
    rfl
  have unique : (done.map Prod.fst).Nodup := .of_map Placed.id (hids ▸ sound.nodup_schedule)
  have within : done.map Prod.fst ⊆ workflow.nodes := by
    rw [← (assemble_eq_ok assembled).1]
    intro placed hm
    obtain ⟨entry, hentry, rfl⟩ := List.mem_map.mp hm
    exact hmem entry hentry
  have hlength : workflow.nodes.length ≤ (done.map Prod.fst).length := by
    have hlength := congrArg List.length hids
    rw [List.length_map, sound.length_schedule] at hlength
    exact hlength.ge
  refine ⟨done, ?_, by rw [hresult]; exact hfinished, ?_, ?_, account.outputs⟩
  · rw [hn, hdone, hresult]
    rfl
  · rw [hresult, Result.order, hnames]
    exact sound.nodup_schedule
  · exact (List.subperm_of_subset unique within).perm_of_length_le hlength

/-- A run has errors if and only if a node of it has put one out. -/
theorem hasErrors_iff (unique : result.order.Nodup) :
    result.hasErrors = true ↔ ∃ entry ∈ result.finished, entry.2.anyError = true := by
  have hnames : (Table.names result.outputs).Nodup :=
    (Table.names_ofList unique).nodup_iff.mpr unique
  have hentry (entry : String × Ports) : entry ∈ result.outputs ↔ entry ∈ result.finished := by
    constructor
    · intro hm
      have hg := Table.get?_of_mem hnames hm
      rw [Result.outputs, Table.get?_ofList unique] at hg
      exact Table.mem_of_get? hg
    · intro hm
      exact Table.mem_of_get? (Table.get?_ofList_of_mem unique hm)
  rw [Result.hasErrors, List.any_eq_true]
  exact exists_congr fun entry => and_congr_left' (hentry entry)

/-- In a run that completes every account of an error is of the same: the sink is told that a node
did not succeed, its event counts errors, and the result has errors because of it, if and only if
its setup failed or the final attempt at one of its items did, whatever errors it was given. The
event counts the items on all ports. -/
theorem reports_agree
    (h : perform w (executor.execute id workflow trigger) = (.returned (.ok result), w')) :
    ∃ reports : List Report,
      (reports.map Report.placed).Perm workflow.nodes ∧
      w.noticesSince w' = .started (some workflow.title) :: (reports.map Report.notice ++
        [.completed workflow.nodes.length (some result.millis)]) ∧
      (((w.since w').filterMap (Happening.event? id)).map Event.occurrence).filter
        Occurrence.isNodeFinished = reports.map Report.occurrence ∧
      (∀ report ∈ reports,
        result.output? report.placed.id = some report.output ∧
        report.items = report.output.foldl (fun count items => count + items.length) 0 ∧
        (report.success = false ↔ 0 < report.errors) ∧
        ∃ node given before after, executor.registry.create report.placed = .ok node ∧
          Performs w (executor.execute id workflow trigger) before
            (RunWork.node node (executor.context id report.placed node given) executor.itemTimeout
              report.placed.retryPolicy) ∧
          perform before (RunWork.node node (executor.context id report.placed node given)
            executor.itemTimeout report.placed.retryPolicy) =
              (.returned (.ok report.output), after) ∧
          (report.success = false ↔ Falters node (executor.context id report.placed node given)
            executor.itemTimeout report.placed.retryPolicy before)) ∧
      (result.hasErrors = true ↔ ∃ report ∈ reports, report.success = false) := by
  obtain ⟨done, hn, hfinished, unique, perm, ran⟩ := completed_account h
  let reports := done.map fun (placed, output) => Report.on placed output
  have hlength : result.finished.length = workflow.nodes.length := by
    rw [hfinished, ← perm.length_eq, List.length_map, List.length_map]
  have hnotices : w.noticesSince w' = .started (some workflow.title) ::
      (reports.map Report.notice ++ [.completed workflow.nodes.length (some result.millis)]) := by
    rw [hn, hlength, List.map_map]
    rfl
  refine ⟨reports, ?_, hnotices, ?_, fun report hm => ?_, ?_⟩
  · rw [List.map_map]
    exact perm
  · have hkept : (reports.map Report.notice).map Notice.occurrence =
        reports.map Report.occurrence := by
      simp only [reports, List.map_map]
      rfl
    have hnodes : ∀ occurrence ∈ reports.map Report.occurrence,
        occurrence.isNodeFinished = true := by
      intro occurrence hm
      obtain ⟨report, _, rfl⟩ := List.mem_map.mp hm
      rfl
    rw [nodes_finished_eq]
    change ((w.noticesSince w').map Notice.occurrence).filter _ = _
    rw [hnotices]
    change ((reports.map Report.notice ++ [_]).map Notice.occurrence).filter _ = _
    rw [List.map_append, hkept, List.filter_append, List.filter_eq_self.mpr hnodes]
    exact List.append_nil _
  · obtain ⟨⟨placed, output⟩, hentry, rfl⟩ := List.mem_map.mp hm
    obtain ⟨node, given, before, after, made, performs, hr⟩ := ran _ hentry
    have hfound : (placed.id, output) ∈ result.finished := by
      rw [hfinished]
      exact List.mem_map_of_mem (f := fun (placed, output) => (placed.id, output)) hentry
    refine ⟨Table.get?_ofList_of_mem unique hfound, Report.items_on placed output, ?_,
      node, given, before, after, made, performs, hr, ?_⟩
    · rw [Report.success_on, Report.errors_on]
    · rw [Report.success_on]
      exact node_anyError_iff hr
  · rw [hasErrors_iff unique, hfinished]
    constructor
    · rintro ⟨entry, hm, herror⟩
      obtain ⟨⟨placed, output⟩, hentry, rfl⟩ := List.mem_map.mp hm
      exact ⟨_, List.mem_map_of_mem hentry, (Report.success_on placed output).mpr herror⟩
    · rintro ⟨report, hm, hfailed⟩
      obtain ⟨⟨placed, output⟩, hentry, rfl⟩ := List.mem_map.mp hm
      exact ⟨_, List.mem_map_of_mem hentry, (Report.success_on placed output).mp hfailed⟩

/-- Of a node that is done, whether it succeeded. -/
def verdict? : Notice → Option (String × Bool)
  | .nodeFinished node _ _ success => some (node, success)
  | _ => none

/-- The first node passes on an error from outside, and the last one the error of the node in the
middle. -/
theorem reports_agree_cracked :
    ∃ (result : Result) (w' : World) (reports : List Report),
      perform {} (fragile.execute ⟨0⟩ .cracked (some [.failure (.execution "old") .empty 0])) =
        (.returned (.ok result), w') ∧
      reports.map (fun report => (report.placed.id, report.success)) =
        [("first", true), ("middle", false), ("last", true)] ∧
      (∀ report ∈ reports, report.success = false ↔ 0 < report.errors) ∧
      result.hasErrors = true := by
  have hrun : (perform {} (fragile.execute ⟨0⟩ .cracked
        (some [.failure (.execution "old") .empty 0]))).1.isOk = true ∧
      (World.noticesSince {} (perform {} (fragile.execute ⟨0⟩ .cracked
        (some [.failure (.execution "old") .empty 0]))).2).filterMap verdict? =
          [("first", true), ("middle", false), ("last", true)] := by
    decide +kernel
  obtain ⟨result, w', h⟩ := ok_of_isOk hrun.1
  obtain ⟨reports, -, hnotices, -, hreports, herrors⟩ := reports_agree h
  have hverdicts : reports.map (fun report => (report.placed.id, report.success)) =
      [("first", true), ("middle", false), ("last", true)] := by
    rw [← hrun.2, h, hnotices]
    have heach : verdict? ∘ Report.notice =
        some ∘ fun report => (report.placed.id, report.success) := rfl
    rw [List.filterMap_cons_none rfl, List.filterMap_append, List.filterMap_map, heach,
      List.filterMap_eq_map]
    exact (List.append_nil _).symm
  refine ⟨result, w', reports, h, hverdicts, fun report hm => (hreports report hm).2.2.1, ?_⟩
  have hm : ("middle", false) ∈ reports.map (fun report => (report.placed.id, report.success)) := by
    simp [hverdicts]
  obtain ⟨report, hreport, he⟩ := List.mem_map.mp hm
  exact herrors.mpr ⟨report, hreport, (Prod.mk.inj he).2⟩

end Executor

end Conveyor
