import Conveyor.Proofs.Dealings

namespace Conveyor
open RunWork

variable {α β : Type}

/-- Whatever the replies, no more than so many questions of a kind are asked. -/
def Work.AtMost {Ask : Type} {Reply : Ask → Type} (kind : Ask → Bool) : Work Reply α → Nat → Prop
  | .done _, _ => True
  | .panic _, _ => True
  | .ask question next, n =>
    (kind question).toNat ≤ n ∧ ∀ reply, AtMost kind (next reply) (n - (kind question).toNat)

namespace Work.AtMost

variable {Ask : Type} {Reply : Ask → Type} {kind : Ask → Bool} {n m : Nat}

theorem mono {work : Work Reply α} (h : AtMost kind work n) (hle : n ≤ m) : AtMost kind work m := by
  induction work generalizing n m with
  | done value => trivial
  | panic payload => trivial
  | ask question next ih =>
    refine ⟨Nat.le_trans h.1 hle, fun reply => ih reply (h.2 reply) ?_⟩
    omega

theorem pure (value : α) (n : Nat) : AtMost kind (Pure.pure value : Work Reply α) n := trivial

theorem question {question : Ask} (h : (kind question).toNat ≤ n) :
    AtMost kind (Work.question question : Work Reply (Reply question)) n :=
  ⟨h, fun _ => trivial⟩

theorem bind {work : Work Reply α} {next : α → Work Reply β} (h : AtMost kind work n)
    (hn : ∀ value, AtMost kind (next value) m) : AtMost kind (work >>= next) (n + m) := by
  induction work generalizing n with
  | done value => exact (hn value).mono (Nat.le_add_left m n)
  | panic payload => trivial
  | ask question more ih =>
    have room := h.1
    refine ⟨by omega, fun reply => (ih reply (h.2 reply)).mono ?_⟩
    omega

theorem ite {c : Prop} [Decidable c] {yes no : Work Reply α} (hy : AtMost kind yes n)
    (hn : AtMost kind no n) : AtMost kind (if c then yes else no) n := by
  split
  · exact hy
  · exact hn

end Work.AtMost

namespace NodeWork

variable {kind : Node.Ask → Bool} {n m : Nat}

theorem atMost_bind {work : NodeWork α} {next : α → NodeWork β} (h : Work.AtMost kind work n)
    (hn : ∀ value, Work.AtMost kind (next value) m) :
    Work.AtMost kind (work >>= next : NodeWork β) (n + m) := by
  refine Work.AtMost.bind h fun result => ?_
  cases result with
  | ok value => exact hn value
  | error e => trivial

theorem atMost_lift (result : Except Failure α) (n : Nat) :
    Work.AtMost kind (liftM result : NodeWork α) n := by
  cases result <;> trivial

/-- A check asks nothing. -/
theorem atMost_check {result : Except Failure α} {next : α → NodeWork β}
    (hn : ∀ value, Work.AtMost kind (next value) n) :
    Work.AtMost kind (liftM result >>= next : NodeWork β) n := by
  cases result with
  | ok value => exact hn value
  | error e => trivial

theorem atMost_ask {question : Node.Ask} (h : (kind question).toNat ≤ n) :
    Work.AtMost kind (NodeWork.ask question) n := ⟨h, fun _ => trivial⟩

end NodeWork

/-- A kind of questions that neither wait nor look at the token. -/
structure Node.Ask.Active (kind : Node.Ask → Bool) : Prop where
  sleep : ∀ millis, kind (.sleep millis) = false
  hang : kind .hang = false
  awaitCancel : ∀ limit, kind (.awaitCancel limit) = false
  isCancelled : kind .isCancelled = false

/-- Questions of a run that are those of its nodes, of a kind. -/
def Run.Ask.ofNodes (kind : Node.Ask → Bool) : Run.Ask → Bool
  | .within question => kind question
  | _ => false

section Guarded

variable {kind : Node.Ask → Bool} {n : Nat} (active : Node.Ask.Active kind)
include active

theorem atMost_awaitCancel (limit : Option Nat) {next : Node.Fired → RunWork β}
    (hn : ∀ fired, Work.AtMost (Run.Ask.ofNodes kind) (next fired) n) :
    Work.AtMost (Run.Ask.ofNodes kind) (awaitCancel limit >>= next) n := by
  have wait : Work.AtMost (Run.Ask.ofNodes kind) (awaitCancel limit) 0 := by
    refine Work.AtMost.question ?_
    simp [Run.Ask.ofNodes, active.awaitCancel]
  exact Nat.zero_add n ▸ wait.bind hn

theorem atMost_pause (limit : Option Limit) (millis : Nat)
    {next : Option Limit → RunWork (Except Failure α)}
    (hn : ∀ left, Work.AtMost (Run.Ask.ofNodes kind) (next left) n) :
    Work.AtMost (Run.Ask.ofNodes kind) (pause limit millis next) n := by
  unfold pause
  split
  · exact atMost_awaitCancel active _ fun _ => .ite (.pure _ n) (hn none)
  · split
    · exact atMost_awaitCancel active _ fun _ => .ite (.pure _ n) (hn _)
    · split
      · trivial
      · exact atMost_awaitCancel active _ fun _ => .ite (.pure _ n) (.pure _ n)

theorem atMost_pauseForGood (limit : Option Limit) (n : Nat) :
    Work.AtMost (Run.Ask.ofNodes kind) (pauseForGood limit : RunWork (Except Failure α)) n := by
  unfold pauseForGood
  split
  · exact atMost_awaitCancel active _ fun _ => .pure _ n
  · split
    · trivial
    · exact atMost_awaitCancel active _ fun _ => .ite (.pure _ n) (.pure _ n)

/-- An attempt asks no more of a kind than the code it runs, wherever it is cut short. -/
theorem atMost_guarded {code : Work Node.Ask.Reply (Except Failure α)}
    (h : Work.AtMost kind code n) (limit : Option Limit) :
    Work.AtMost (Run.Ask.ofNodes kind) (guarded limit code) n := by
  induction code generalizing n limit with
  | done result => trivial
  | panic payload => trivial
  | ask question next ih =>
    have left (reply) : Work.AtMost kind (next reply) n := (h.2 reply).mono (Nat.sub_le _ _)
    cases question
    case sleep millis =>
      rw [guarded]
      exact .ite (ih () (left ()) limit)
        (atMost_pause active limit millis fun limit => ih () (left ()) limit)
    case awaitCancel millis =>
      have look : (Run.Ask.ofNodes kind (.within .isCancelled)).toNat = 0 := by
        simp [Run.Ask.ofNodes, active.isCancelled]
      cases millis with
      | none =>
        refine ⟨by omega, fun fired => ?_⟩
        rw [look]
        exact .ite (ih true (left true) limit) (atMost_pauseForGood active limit n)
      | some millis =>
        refine ⟨by omega, fun fired => ?_⟩
        rw [look]
        exact .ite (ih true (left true) limit)
          (atMost_pause active limit millis fun limit => ih false (left false) limit)
    case hang => exact atMost_pauseForGood active limit n
    all_goals exact ⟨h.1, fun reply => ih reply (h.2 reply) limit⟩

end Guarded

/-- Of what only questions of a kind leave in the past, there is no more than questions. -/
theorem length_le_of_atMost {kind : Run.Ask → Bool} {f : Happening → Option β}
    (unfired : f .fired = none)
    (leaves : ∀ question (w : World) reply,
      ((question.entry w reply).bind f).isSome = true → kind question = true)
    {work : RunWork α} {n : Nat} (h : Work.AtMost kind work n) {w w' : World} {ending : Ending α}
    (hp : perform w work = (ending, w')) : ((w.since w').filterMap f).length ≤ n := by
  induction work generalizing n w with
  | done value =>
    cases hp
    simp [World.since]
  | panic payload =>
    cases hp
    simp [World.since]
  | ask question next ih =>
    unfold perform at hp
    split at hp
    · cases hp
      simp [World.since]
    next reply between ha =>
      have hrest := ih reply (h.2 reply) hp
      have hfirst : (((question.entry w reply).bind f).toList).length ≤ (kind question).toNat := by
        cases hf : (question.entry w reply).bind f with
        | none => exact Nat.zero_le _
        | some left => rw [leaves question w reply (by simp [hf])]; exact Nat.le_refl 1
      have room := h.1
      rw [(World.Later.answer ha).since_trans (later_of_perform hp), List.filterMap_append,
        List.length_append, World.filterMap_since_answer unfired ha]
      omega

/-- What passes between a node and others in an attempt is no more than its code asks for. -/
theorem attempt_length_le {kind : Node.Ask → Bool} (active : Node.Ask.Active kind)
    {f : Happening → Option β} (dealt : ∀ happening, happening.isDealing = false → f happening = none)
    (leaves : ∀ (question : Node.Ask) (w : World) reply,
      ((Run.Ask.entry w (.within question) reply).bind f).isSome = true → kind question = true)
    {node : Node} {ctx : Context} {limit : Option Nat} {index number n : Nat}
    (h : Work.AtMost kind (node.run ctx index number) n) {w w' : World}
    {ending : Ending (Except Failure Output)}
    (hp : perform w (attempt node ctx limit index number) = (ending, w')) :
    ((w.dealingsSince w').filterMap f).length ≤ n := by
  have hcall : Work.AtMost (Run.Ask.ofNodes kind) (call node ctx limit index number) (0 + n) :=
    (Work.AtMost.question (Nat.le_refl 0)).bind fun _ => atMost_guarded active h _
  have hattempt : Work.AtMost (Run.Ask.ofNodes kind) (attempt node ctx limit index number)
      (0 + n) := by
    refine (Work.AtMost.question ?_).bind fun _ => .ite (.pure _ n) (Nat.zero_add n ▸ hcall)
    simp [Run.Ask.ofNodes, active.isCancelled]
  have hsame : (w.dealingsSince w').filterMap f = (w.since w').filterMap f := by
    rw [World.dealingsSince, List.filterMap_filter]
    congr 1
    funext happening
    cases hd : happening.isDealing with
    | true => simp
    | false => simp [dealt happening hd]
  rw [hsame, ← Nat.zero_add n]
  refine length_le_of_atMost (dealt _ rfl) (fun question w reply hs => ?_) hattempt hp
  cases question with
  | within question => exact leaves question w reply hs
  | «begin» call => simp [Run.Ask.entry, dealt (.began call) rfl] at hs
  | notify notice => simp [Run.Ask.entry, dealt (.told w.clock notice) rfl] at hs
  | now => cases hs

/-- How many attempts there may be at an item. -/
def RetryPolicy.allowed : Option RetryPolicy → Nat
  | none => 1
  | some policy => max policy.maxAttempts 1

/-- An attempt at an item: how it ended, and what passed between the node and others in it. -/
structure RunWork.Round where
  ending : Ending (Except Failure Output)
  dealings : List Happening

/-- How it goes with an item, from an attempt with a given number on. An attempt is the last one if
it does not fail, if it says that it was cancelled, or if no more are allowed; else there is a
wait, in which the token may fire, and the next attempt. -/
inductive RunWork.Rounds (node : Node) (ctx : Context) (limit : Option Nat)
    (policy : Option RetryPolicy) (index : Nat) :
    Nat → World → List Round → Ending (Except Failure Output) → World → Prop
  | last {number : Nat} {w w' : World} {ending : Ending (Except Failure Output)}
      (tried : perform w (attempt node ctx limit index number) = (ending, w'))
      (final : ∀ e, ending = .returned (.error e) → e ≠ .cancelled →
        RetryPolicy.allowed policy ≤ number) :
      Rounds node ctx limit policy index number w [⟨ending, w.dealingsSince w'⟩] ending w'
  | quit {number : Nat} {w failed w' : World} {e : Failure} {p : RetryPolicy}
      (tried : perform w (attempt node ctx limit index number) = (.returned (.error e), failed))
      (more : number < RetryPolicy.allowed policy) (patient : policy = some p)
      (pause : perform failed (awaitCancel (some (Node.nap (p.delayFor number)))) =
        (.returned true, w')) :
      Rounds node ctx limit policy index number w
        [⟨.returned (.error e), w.dealingsSince failed⟩] (.returned (.error .cancelled)) w'
  | again {number : Nat} {w failed waited w' : World} {e : Failure} {p : RetryPolicy}
      {rounds : List Round} {ending : Ending (Except Failure Output)}
      (tried : perform w (attempt node ctx limit index number) = (.returned (.error e), failed))
      (more : number < RetryPolicy.allowed policy) (patient : policy = some p)
      (pause : perform failed (awaitCancel (some (Node.nap (p.delayFor number)))) =
        (.returned false, waited))
      (others : Rounds node ctx limit policy index (number + 1) waited rounds ending w') :
      Rounds node ctx limit policy index number w
        (⟨.returned (.error e), w.dealingsSince failed⟩ :: rounds) ending w'

section Item

variable {node : Node} {ctx : Context} {limit : Option Nat} {policy : Option RetryPolicy}
  {index number : Nat} {w w' : World} {ending : Ending (Except Failure Output)}

theorem persist_rounds {p : RetryPolicy} {more : Nat}
    (all : number + more = RetryPolicy.allowed (some p))
    (h : perform w (persist node ctx limit p index number more) = (ending, w')) :
    ∃ rounds, Rounds node ctx limit (some p) index number w rounds ending w' := by
  induction more generalizing w number with
  | zero => exact ⟨_, .last h fun _ _ _ => by omega⟩
  | succ more ih =>
    obtain ⟨first, failed, tried, ⟨rfl, rfl, final⟩ | ⟨e, waited, rfl, -, pause, h⟩⟩ :=
      persist_cases h
    · exact ⟨_, .last tried fun e he hne => absurd (final e he) hne⟩
    · obtain ⟨fired, rfl, rfl⟩ | ⟨patient, h⟩ := h
      · exact ⟨_, .quit tried (by omega) rfl (fired ▸ pause)⟩
      · obtain ⟨rounds, others⟩ := ih (by omega) h
        exact ⟨_, .again tried (by omega) rfl (patient ▸ pause) others⟩

/-- However it goes with an item, it goes round by round. -/
theorem item_rounds (h : perform w (item node ctx limit policy index) = (ending, w')) :
    ∃ rounds, Rounds node ctx limit policy index 1 w rounds ending w' := by
  cases policy with
  | none => exact ⟨_, .last h fun _ _ _ => Nat.le_refl 1⟩
  | some p =>
    refine persist_rounds ?_ h
    rw [RetryPolicy.allowed]
    omega

/-- Nothing passes between a node and others while an item waits for its next attempt. -/
theorem dealingsSince_awaitCancel {fired : Node.Fired} {millis : Nat}
    (h : perform w (awaitCancel (some millis)) = (.returned fired, w')) :
    w.Later w' ∧ w.dealingsSince w' = [] ∧ fired = w'.cancelled := by
  obtain ⟨ended, answered, hp⟩ := perform_awaitCancel w millis
  cases hp.symm.trans h
  exact ⟨later_of_perform hp, World.dealingsSince_answer answered, rfl⟩

namespace RunWork.Rounds

variable {rounds : List Round} (course : Rounds node ctx limit policy index number w rounds ending w')
include course

theorem later : w.Later w' := by
  induction course with
  | last tried => exact later_of_perform tried
  | quit tried _ _ pause => exact (later_of_perform tried).trans (later_of_perform pause)
  | again tried _ _ pause _ ih =>
    exact ((later_of_perform tried).trans (later_of_perform pause)).trans ih

/-- What passes between a node and others for an item passes in its rounds. -/
theorem dealings : w.dealingsSince w' = rounds.flatMap Round.dealings := by
  induction course with
  | last tried => simp
  | quit tried _ _ pause =>
    obtain ⟨waits, nothing, _⟩ := dealingsSince_awaitCancel pause
    simp [(later_of_perform tried).dealingsSince_trans waits, nothing]
  | again tried _ _ pause others ih =>
    obtain ⟨waits, nothing, _⟩ := dealingsSince_awaitCancel pause
    rw [(later_of_perform tried).dealingsSince_trans (waits.trans others.later),
      waits.dealingsSince_trans others.later, nothing, ih]
    rfl

theorem length_le (start : number ≤ RetryPolicy.allowed policy) :
    number + rounds.length ≤ RetryPolicy.allowed policy + 1 := by
  induction course with
  | last | quit =>
    rw [List.length_singleton]
    omega
  | again _ more _ _ _ ih =>
    have := ih more
    rw [List.length_cons]
    omega

/-- What holds of every attempt holds of every round. -/
theorem forall_mem {P : Round → Prop}
    (each : ∀ number w ending w', perform w (attempt node ctx limit index number) = (ending, w') →
      P ⟨ending, w.dealingsSince w'⟩) : ∀ round ∈ rounds, P round := by
  induction course with
  | last tried => simpa using each _ _ _ _ tried
  | quit tried => simpa using each _ _ _ _ tried
  | again tried _ _ _ _ ih => simpa using ⟨each _ _ _ _ tried, ih⟩

/-- An attempt that fails is the last one, and what the item comes to, if no more are allowed. Else
another follows, unless the token fires before. -/
theorem failed {k : Nat} {e : Failure} {dealings : List Happening}
    (hk : rounds[k]? = some ⟨.returned (.error e), dealings⟩) (retryable : e ≠ .cancelled) :
    (RetryPolicy.allowed policy ≤ number + k →
      rounds.length = k + 1 ∧ ending = .returned (.error e)) ∧
    (number + k < RetryPolicy.allowed policy → k + 1 < rounds.length ∨
      rounds.length = k + 1 ∧ ending = .returned (.error .cancelled) ∧ w'.cancelled = true) := by
  induction course generalizing k with
  | last tried final =>
    obtain ⟨rfl, rfl, -⟩ : k = 0 ∧ _ := by simpa [List.getElem?_singleton] using hk
    have := final e rfl retryable
    exact ⟨fun _ => ⟨rfl, rfl⟩, fun _ => by omega⟩
  | quit tried more _ pause =>
    obtain ⟨rfl, -⟩ : k = 0 ∧ _ := by simpa [List.getElem?_singleton] using hk
    obtain ⟨_, _, fired⟩ := dealingsSince_awaitCancel pause
    exact ⟨fun _ => by omega, fun _ => .inr ⟨rfl, rfl, fired.symm⟩⟩
  | @again number _ _ _ _ _ _ rounds _ tried more _ _ others ih =>
    cases k with
    | zero =>
      have : 0 < rounds.length := by cases others <;> simp
      exact ⟨fun _ => by omega, fun _ => .inl (by simpa using this)⟩
    | succ k =>
      have hk : rounds[k]? = some ⟨.returned (.error e), dealings⟩ := by simpa using hk
      have hadd : number + (k + 1) = number + 1 + k := by omega
      simpa [hadd] using ih hk

end RunWork.Rounds

end Item

end Conveyor
