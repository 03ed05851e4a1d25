import Conveyor.Proofs.Completion

namespace Conveyor
open RunWork

namespace RunWork

/-- What the outcome of an item adds, all by itself, to a port of its node's output: what was put
out there, paired with the item; on the first port an error, if it failed. -/
def share (ctx : Context) (index : Nat) (outcome : Except Failure Output) (port : Nat) :
    List Item :=
  match outcome with
  | .ok output =>
    if output.port = port then output.items.map fun json => { json, pairedItem := some index }
    else []
  | .error e => if port = 0 then [failureItem ctx e index] else []

/-- How many ports it takes to hold what the outcome of an item adds. -/
def span : Except Failure Output → Nat
  | .ok output => output.port + 1
  | .error _ => 1

/-- What a node puts out when its setup fails: errors on its first port. -/
def spoiled (ctx : Context) (e : Failure) : Ports :=
  (List.replicate (max ctx.description.outputs 1) []).modify 0 (· ++ setupFailure ctx e)

/-- The items of a node come to their outcomes, each from where the one before it has left off. -/
inductive Outcomes (node : Node) (ctx : Context) (limit : Option Nat)
    (policy : Option RetryPolicy) : World → List Nat → List (Except Failure Output) → World → Prop
  | nil (w : World) : Outcomes node ctx limit policy w [] [] w
  | cons {w between after w' : World} {index : Nat} {rest : List Nat}
      {outcome : Except Failure Output} {outcomes : List (Except Failure Output)}
      (ran : perform w.moment (item node ctx limit policy index) = (.returned outcome, between))
      (kept : perform between (abandoned outcome) = (.returned false, after))
      (others : Outcomes node ctx limit policy after rest outcomes w') :
      Outcomes node ctx limit policy w (index :: rest) (outcome :: outcomes) w'

end RunWork

section Node

variable {node : Node} {ctx : Context} {limit : Option Nat} {policy : Option RetryPolicy}
  {w w' : World} {ports filled : Ports}

theorem RunWork.Outcomes.length_eq {indices : List Nat} {outcomes : List (Except Failure Output)}
    (h : Outcomes node ctx limit policy w indices outcomes w') :
    outcomes.length = indices.length := by
  induction h with
  | nil => rfl
  | cons _ _ _ ih => simp [ih]

/-- Items come to their outcomes in one way. -/
theorem RunWork.Outcomes.unique {indices : List Nat}
    {outcomes others : List (Except Failure Output)} {other : World}
    (h : Outcomes node ctx limit policy w indices outcomes w')
    (h' : Outcomes node ctx limit policy w indices others other) :
    outcomes = others ∧ w' = other := by
  induction h generalizing others with
  | nil =>
    cases h'
    exact ⟨rfl, rfl⟩
  | cons ran kept _ ih =>
    cases h' with
    | cons ran' kept' more =>
      cases ran.symm.trans ran'
      cases kept.symm.trans kept'
      obtain ⟨rfl, hw⟩ := ih more
      exact ⟨rfl, hw⟩

theorem pairedItem_of_mem_share {index port : Nat} {outcome : Except Failure Output} {item : Item}
    (h : item ∈ share ctx index outcome port) : item.pairedItem = some index := by
  unfold share at h
  split at h
  · split at h
    · obtain ⟨json, _, rfl⟩ := List.mem_map.mp h
      rfl
    · cases h
  · split at h
    · rw [List.mem_singleton.mp h]
      rfl
    · cases h

/-- What is paired with an item is what the item adds. -/
theorem filter_shares {indices : List Nat} (unique : indices.Nodup)
    {outcomes : List (Except Failure Output)} {k i : Nat} {outcome : Except Failure Output}
    (hi : indices[k]? = some i) (ho : outcomes[k]? = some outcome) (port : Nat) :
    ((indices.zip outcomes).flatMap fun (index, outcome) => share ctx index outcome port).filter
      (·.pairedItem = some i) = share ctx i outcome port := by
  induction indices generalizing outcomes k with
  | nil => simp at hi
  | cons index rest ih =>
    obtain ⟨hnew, hrest⟩ := List.nodup_cons.mp unique
    cases outcomes with
    | nil => simp at ho
    | cons first others =>
      rw [List.zip_cons_cons, List.flatMap_cons, List.filter_append]
      cases k with
      | zero =>
        obtain rfl := Option.some.inj hi
        obtain rfl := Option.some.inj ho
        have hfirst : (share ctx index first port).filter (·.pairedItem = some index) =
            share ctx index first port :=
          List.filter_eq_self.mpr fun item hm => by simp [pairedItem_of_mem_share hm]
        have hothers : ((rest.zip others).flatMap fun (index, outcome) =>
            share ctx index outcome port).filter (·.pairedItem = some index) = [] := by
          refine List.filter_eq_nil_iff.mpr fun item hm => ?_
          obtain ⟨⟨other, _⟩, hz, hm⟩ := List.mem_flatMap.mp hm
          have hne : other ≠ index := fun he => hnew (he ▸ (List.of_mem_zip hz).1)
          simp [pairedItem_of_mem_share hm, hne]
        rw [hfirst, hothers, List.append_nil]
      | succ k =>
        have hne : index ≠ i := fun he => hnew (he ▸ List.mem_of_getElem? hi)
        have hfirst : (share ctx index first port).filter (·.pairedItem = some i) = [] :=
          List.filter_eq_nil_iff.mpr fun item hm => by simp [pairedItem_of_mem_share hm, hne]
        rw [hfirst, List.nil_append]
        exact ih hrest hi ho

theorem contribute_eq_some {index : Nat} {outcome : Except Failure Output}
    (h : contribute ctx index outcome ports = some filled) :
    filled.length = max ports.length (span outcome) ∧
      ∀ p, filled.on p = ports.on p ++ share ctx index outcome p := by
  cases outcome with
  | ok output => exact Ports.append_eq_some h
  | error e =>
    obtain ⟨hlen, hon⟩ := Ports.append_eq_some h
    refine ⟨hlen, fun p => ?_⟩
    rw [hon, share]
    simp only [eq_comm]

theorem items_returned_cons {index : Nat} {rest : List Nat}
    (h : perform w (items node ctx limit policy (index :: rest) ports) =
      (.returned (.ok filled), w')) :
    ∃ outcome between after more,
      perform w.moment (item node ctx limit policy index) = (.returned outcome, between) ∧
      perform between (abandoned outcome) = (.returned false, after) ∧
      contribute ctx index outcome ports = some more ∧
      perform after (items node ctx limit policy rest more) = (.returned (.ok filled), w') := by
  unfold items at h
  rw [perform_bind_of_returned (perform_isCancelled w)] at h
  split at h
  · cases h
  · obtain ⟨outcome, between, hr, h⟩ := returned_of_bind h
    obtain ⟨given, after, ha, h⟩ := returned_of_bind h
    cases given with
    | true => cases h
    | false =>
      cases hc : contribute ctx index outcome ports with
      | none =>
        rw [hc] at h
        cases h
      | some more =>
        rw [hc] at h
        exact ⟨outcome, between, after, more, hr, ha, hc, h⟩

/-- Items are added port by port, in their order, and none has a part in what another adds. -/
theorem items_returned {indices : List Nat}
    (h : perform w (items node ctx limit policy indices ports) = (.returned (.ok filled), w')) :
    ∃ outcomes, Outcomes node ctx limit policy w indices outcomes w' ∧
      filled.length = outcomes.foldl (fun count outcome => max count (span outcome)) ports.length ∧
      ∀ p, filled.on p = ports.on p ++
        (indices.zip outcomes).flatMap fun (index, outcome) => share ctx index outcome p := by
  induction indices generalizing w ports with
  | nil =>
    cases h
    exact ⟨[], .nil _, rfl, by simp⟩
  | cons index rest ih =>
    obtain ⟨outcome, between, after, more, hr, ha, hc, h⟩ := items_returned_cons h
    obtain ⟨hlen, hon⟩ := contribute_eq_some hc
    obtain ⟨outcomes, others, hlens, hons⟩ := ih h
    refine ⟨outcome :: outcomes, .cons hr ha others, ?_, fun p => ?_⟩
    · rw [hlens, hlen, List.foldl_cons]
    · rw [hons, hon, List.zip_cons_cons, List.flatMap_cons, List.append_assoc]

/-- There is room for what is put out in the end. -/
theorem fits_of_items {indices : List Nat} (fits : ports.length ≤ Ports.capacity)
    (h : perform w (items node ctx limit policy indices ports) = (.returned (.ok filled), w')) :
    filled.length ≤ Ports.capacity := by
  induction indices generalizing w ports with
  | nil =>
    cases h
    exact fits
  | cons index rest ih =>
    obtain ⟨_, _, _, _, _, _, hc, h⟩ := items_returned_cons h
    exact ih (fits_of_contribute fits hc) h

/-- What is left of an item that fails is one error. -/
theorem items_failed {blanks : Ports} (roomy : Ports.blank ctx.description.outputs = some blanks)
    (h : perform w (items node ctx limit policy (List.range ctx.itemCount) blanks) =
      (.returned (.ok filled), w')) :
    ∃ outcomes, Outcomes node ctx limit policy w (List.range ctx.itemCount) outcomes w' ∧
      ∀ i e, outcomes[i]? = some (.error e) → ∀ port,
        (filled.on port).filter (·.pairedItem = some i) =
          if port = 0 then [failureItem ctx e i] else [] := by
  obtain ⟨outcomes, chain, _, hon⟩ := items_returned h
  refine ⟨outcomes, chain, fun i e ho port => ?_⟩
  have hi : (List.range ctx.itemCount)[i]? = some i := by
    rw [List.getElem?_range]
    rw [← List.length_range (n := ctx.itemCount), ← chain.length_eq]
    exact (List.getElem?_eq_some_iff.mp ho).1
  rw [hon, Ports.on_of_blank roomy, List.nil_append, filter_shares List.nodup_range hi ho]
  rfl

/-- The call of a node's setup is one call, and no attempt at an item. -/
theorem prepare_calls {ending : Ending (Except Failure Unit)}
    (h : perform w (prepare node ctx) = (ending, w')) :
    w.callsSince w' = [.setup ctx.nodeId ctx.inputs] :=
  callsSince_of_begin h (.freely _)

/-- A node whose setup succeeds goes on with its items. -/
theorem items_of_node {ready : World} {outcome : Except Fault Ports}
    (h : perform w (RunWork.node node ctx limit policy) = (.returned outcome, w'))
    (hs : perform w (prepare node ctx) = (.returned (.ok ()), ready)) :
    ∃ blanks, Ports.blank ctx.description.outputs = some blanks ∧
      perform ready (items node ctx limit policy (List.range ctx.itemCount) blanks) =
        (.returned outcome, w') := by
  obtain ⟨blanks, _, _, roomy, hs', h⟩ := node_returned h
  cases hs.symm.trans hs'
  exact ⟨blanks, roomy, h⟩

theorem produce_error {blanks : Ports} (roomy : Ports.blank ctx.description.outputs = some blanks)
    (e : Failure) :
    produce node ctx limit policy blanks (.error e) = pure (.ok (spoiled ctx e)) := by
  rw [produce, spoiled, Ports.eq_of_blank roomy]

theorem node_of_setup_failed {e : Failure} (narrow : ctx.description.outputs ≤ Ports.capacity)
    (h : perform w (prepare node ctx) = (.returned (.error e), w')) :
    perform w (RunWork.node node ctx limit policy) = (.returned (.ok (spoiled ctx e)), w') := by
  obtain ⟨wide, _⟩ | ⟨blanks, roomy, hn⟩ := node_cases node ctx limit policy
  · exact absurd wide (Nat.not_lt.mpr narrow)
  · rw [hn, perform_bind_of_returned h, produce_error roomy]
    rfl

section Spoiled

variable (ctx : Context) (e : Failure)

theorem length_spoiled : (spoiled ctx e).length = max ctx.description.outputs 1 := by
  simp [spoiled]

theorem on_spoiled (port : Nat) :
    (spoiled ctx e).on port = if port = 0 then setupFailure ctx e else [] := by
  have room : 0 < (List.replicate (max ctx.description.outputs 1) ([] : List Item)).length := by
    rw [List.length_replicate]
    omega
  obtain ⟨filled, hp, _, hon⟩ := Ports.put_eq room (setupFailure ctx e)
  rw [Ports.put, if_pos room] at hp
  cases hp
  rw [spoiled, hon, Ports.on_replicate, List.nil_append]
  simp only [eq_comm]

end Spoiled

/-- Where the setup of a node succeeds and the token never fires, every port of its output holds
what each of its items adds to it by itself, in the order of the items; there are as many ports
as the node declares, at least one, and as many more as it takes for those that were put out on.
That is, if there is room for them, else the node breaks down. Where the setup fails no item is
attempted: the first port holds an error for every item, or a single one for none, and the
others nothing. A node that declares too many ports is not even set up. -/
theorem node_output
    (cooperates : Cooperates w (RunWork.node node ctx limit policy) node ctx limit) :
    (∀ ready, perform w (prepare node ctx) = (.returned (.ok ()), ready) →
      (perform w (RunWork.node node ctx limit policy)).2.cancelled = false →
      (∃ outcomes ports after,
        Outcomes node ctx limit policy ready (List.range ctx.itemCount) outcomes after ∧
        (∀ output, .ok output ∈ outcomes → output.port < Ports.capacity) ∧
        perform w (RunWork.node node ctx limit policy) = (.returned (.ok ports), after) ∧
        ports.length = outcomes.foldl (fun count outcome => max count (span outcome))
          (max ctx.description.outputs 1) ∧
        ∀ port, ports.on port = ((List.range ctx.itemCount).zip outcomes).flatMap
          fun (index, outcome) => share ctx index outcome port) ∨
      (Ports.capacity < ctx.description.outputs ∨
        Overshoots w (RunWork.node node ctx limit policy) node ctx limit) ∧
        ∃ after, perform w (RunWork.node node ctx limit policy) = (.panicked none, after)) ∧
    (∀ e after, perform w (prepare node ctx) = (.returned (.error e), after) →
      ctx.description.outputs ≤ Ports.capacity →
      ∃ ports, perform w (RunWork.node node ctx limit policy) = (.returned (.ok ports), after) ∧
        w.callsSince after = [.setup ctx.nodeId ctx.inputs] ∧
        ports.length = max ctx.description.outputs 1 ∧
        ports.on 0 = (if ctx.itemCount = 0 then [{ failureItem ctx e 0 with pairedItem := none }]
          else (List.range ctx.itemCount).map (failureItem ctx e)) ∧
        ∀ port, port ≠ 0 → ports.on port = []) ∧
    (Ports.capacity < ctx.description.outputs →
      perform w (RunWork.node node ctx limit policy) = (.panicked none, w)) := by
  refine ⟨fun ready hs calm => ?_, fun e after hs narrow => ?_, fun wide => ?_⟩
  · have obliging : Obliging False (Ports.capacity < ctx.description.outputs ∨
        Overshoots w (RunWork.node node ctx limit policy) node ctx limit) w
        (RunWork.node node ctx limit policy) node ctx limit :=
      ⟨cooperates.setup, cooperates.attempt, id⟩
    rcases node_settles obliging policy .whole with ⟨outcome, after, hr, _⟩ | ⟨never, _⟩ | crowded
    · refine .inl ?_
      cases outcome with
      | error fault =>
        rw [hr, (node_error hr).2] at calm
        cases calm
      | ok ports =>
        obtain ⟨blanks, roomy, hi⟩ := items_of_node hr hs
        obtain ⟨outcomes, chain, hlen, hon⟩ := items_returned hi
        have fits := fits_of_items (Ports.fits_of_blank roomy) hi
        rw [Ports.length_of_blank roomy] at hlen
        rw [hlen, Ports.foldl_max_le_iff] at fits
        refine ⟨outcomes, ports, after, chain, fun output hm => fits.2 _ hm, hr, hlen, ?_⟩
        intro port
        rw [hon, Ports.on_of_blank roomy, List.nil_append]
    · exact never.elim
    · exact .inr crowded
  · refine ⟨_, node_of_setup_failed narrow hs, prepare_calls hs, length_spoiled ctx e, ?_, ?_⟩
    · exact on_spoiled ctx e 0
    · intro port hport
      rw [on_spoiled, if_neg hport]
  · obtain ⟨_, hn⟩ | ⟨_, roomy, _⟩ := node_cases node ctx limit policy
    · rw [hn]
      rfl
    · cases roomy.symm.trans (Ports.blank_eq_none_iff.mpr wide)

end Node

/-- A node that puts two items out on another port, fails, breaks down, puts out nothing, and puts
out one item, in turn. -/
def Node.mixed : Node where
  description := { displayName := "Mixed", name := "mixed", outputs := 2 }
  run _ index _ :=
    match index with
    | 0 => pure { port := 3, items := [.str "a", .str "b"] }
    | 1 => throw (.execution "no")
    | 2 => NodeWork.panic (some "boom")
    | 3 => pure {}
    | _ => pure { items := [.str "c"] }

theorem Node.mixed_plain : mixed.Plain where
  inputs := by decide
  outputs := by decide
  setup _ := rfl
  run _ index _ := by
    have fits {port : Nat} {items : List Json} (h : port < Ports.capacity) :
        Output.Fits (.ok { port, items }) := by
      intro output ho
      cases ho
      exact h
    match index with
    | 0 => exact .inr ⟨_, rfl, fits (by decide)⟩
    | 1 => exact .inr ⟨_, rfl, .error _⟩
    | 2 => exact .inl ⟨some "boom", rfl⟩
    | 3 | _ + 4 => exact .inr ⟨_, rfl, fits (by decide)⟩

/-- A node whose setup fails. -/
def Node.unready : Node where
  description := { displayName := "Unready", name := "unready" }
  setup _ := throw (.missingCollaborator "wallet")
  run _ _ _ := pure {}

theorem Node.unready_cooperates {α : Type} (w : World) (run : RunWork α) (ctx : Context)
    (limit : Option Nat) : Cooperates w run unready ctx limit where
  setup _ _ := ⟨_, _, rfl, trivial⟩
  attempt := by
    rintro ⟨_, before, index, number, _, stuck⟩
    cases stuck

/-- A node that puts its first item out on a far port, though not on one of the last that 64 bits
can count, and the others on the first. -/
def Node.remote : Node where
  description := { displayName := "Remote", name := "remote" }
  run ctx index _ :=
    pure { port := if index = 0 then 1 <<< 62 else 0, items := [ctx.payload index] }

/-- An invocation of a node with so many items. -/
def Context.sample (node : Node) (count : Nat) : Context where
  executionId := ⟨0⟩
  nodeId := "sample"
  description := node.description
  inputs := [List.replicate count .empty]

/-- The setup of a node succeeds, no item of it fails, the token never fires, and no port is as far
as 64 bits can count. Still the node puts out nothing. -/
theorem far_port_breaks :
    (perform {} (prepare .remote (.sample .remote 2))).1 = .returned (.ok ()) ∧
    (∀ index number, ∃ output, Node.remote.run (.sample .remote 2) index number = pure output ∧
      output.port + 1 < 1 <<< 64) ∧
    ∃ after, perform {} (RunWork.node .remote (.sample .remote 2) none none) =
      (.panicked none, after) ∧ after.cancelled = false := by
  refine ⟨rfl, fun index number => ⟨_, rfl, ?_⟩, _, rfl, rfl⟩
  dsimp only
  split <;> decide

theorem node_output_mixed :
    (∃ ready after, perform {} (prepare .mixed (.sample .mixed 5)) = (.returned (.ok ()), ready) ∧
      Outcomes .mixed (.sample .mixed 5) none (some .default) ready (List.range 5)
        [.ok { port := 3, items := [.str "a", .str "b"] }, .error (.execution "no"),
          .error (.execution "node panicked: boom"), .ok {}, .ok { items := [.str "c"] }] after ∧
      perform {} (RunWork.node .mixed (.sample .mixed 5) none (some .default)) =
        (.returned (.ok
          [[failureItem (.sample .mixed 5) (.execution "no") 1,
              failureItem (.sample .mixed 5) (.execution "node panicked: boom") 2,
              { json := .str "c", pairedItem := some 4 }],
            [], [],
            [{ json := .str "a", pairedItem := some 0 },
              { json := .str "b", pairedItem := some 0 }]]), after)) ∧
    ∃ ports after,
      perform {} (RunWork.node .unready (.sample .unready 2) none none) =
        (.returned (.ok ports), after) ∧
      ports.on 0 = [failureItem (.sample .unready 2) (.missingCollaborator "wallet") 0,
        failureItem (.sample .unready 2) (.missingCollaborator "wallet") 1] := by
  have mixed : Cooperates {} (RunWork.node .mixed (.sample .mixed 5) none (some .default)) .mixed
      (.sample .mixed 5) none := Node.mixed_plain.cooperates _ _ _ _
  have unready : Cooperates {} (RunWork.node .unready (.sample .unready 2) none none) .unready
      (.sample .unready 2) none := Node.unready_cooperates _ _ _ _
  constructor
  · obtain ⟨ready, hs⟩ : ∃ ready, perform {} (prepare .mixed (.sample .mixed 5)) =
        (.returned (.ok ()), ready) := ⟨_, rfl⟩
    rcases (node_output mixed).1 ready hs (by decide +kernel) with
      ⟨outcomes, ports, after, chain, _, hr, hlen, hon⟩ | ⟨wide | far, _⟩
    · have chain' : ∃ after, Outcomes .mixed (.sample .mixed 5) none (some .default) ready
          (List.range 5)
          [.ok { port := 3, items := [.str "a", .str "b"] }, .error (.execution "no"),
            .error (.execution "node panicked: boom"), .ok {}, .ok { items := [.str "c"] }] after := by
        cases hs
        exact ⟨_, .cons rfl rfl (.cons rfl rfl (.cons rfl rfl (.cons rfl rfl (.cons rfl rfl
          (.nil _)))))⟩
      obtain ⟨_, chain'⟩ := chain'
      obtain ⟨rfl, rfl⟩ := chain.unique chain'
      have hports := ports.eq_map_on
      rw [hlen, funext hon] at hports
      exact ⟨ready, after, hs, chain, hr.trans (by rw [hports]; rfl)⟩
    · exact absurd wide (by decide)
    · exact absurd far (Node.mixed_plain.modest _ _ _ _).port
  · obtain ⟨ports, hr, _, _, hon, _⟩ := (node_output unready).2.1 _ _ rfl (by decide)
    exact ⟨ports, _, hr, hon⟩

end Conveyor
