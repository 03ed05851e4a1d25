import Conveyor.Proofs.Akin
import Conveyor.Proofs.Drive

namespace Conveyor
open RunWork

variable {α β : Type}

namespace World

variable {w w' : World}

theorem fireIf_calm {alarm : Alarm} (calm : (w.fireIf alarm).cancelled = false) :
    w.fireIf alarm = w := by
  unfold fireIf fire at calm ⊢
  split
  next ha =>
    rw [if_pos ha] at calm
    split at calm
    · simp_all
    · cases calm
  · rfl

theorem moment_calm (calm : w.moment.cancelled = false) :
    w.moment = { w with asked := w.asked + 1 } := by
  unfold moment
  rw [fireIf_calm calm]

theorem sleep_calm {millis : Nat} (calm : (w.sleep millis).cancelled = false) :
    w.sleep millis = { w with clock := w.clock + millis } := by
  unfold sleep at calm ⊢
  split
  next ha =>
    rw [if_pos ha] at calm
    unfold fire at calm
    split at calm <;> simp_all
  · rfl

/-- Where the token has not fired by the end of a step, its firing is no part of the step. -/
theorem past_answer {question : Run.Ask} {reply : question.Reply}
    (h : w.answer question = some (reply, w')) (calm : w'.cancelled = false) :
    ∃ new, w'.past = new ++ w.past ∧ .fired ∉ new := by
  have hm (hc : w.moment.cancelled = false) : w.moment.past = w.past := by
    rw [moment_calm hc]
  cases question
  case within question =>
    have later := Later.answerWithin h
    rw [← hm (later.calm calm)]
    change w.moment.answerWithin question = some (reply, w') at h
    cases question
    case awaitCancel limit =>
      obtain ⟨_, _, _, rfl⟩ := awaitCancel_calm h calm
      exact ⟨[], rfl, by simp⟩
    case hang => cases h
    all_goals cases h
    case sleep millis =>
      rw [sleep_calm calm]
      exact ⟨[], rfl, by simp⟩
    case cancel =>
      unfold fire at calm
      split at calm <;> simp_all
    case isCancelled => exact ⟨[], rfl, by simp⟩
    case report =>
      rw [fireIf_calm calm]
      exact ⟨[_], rfl, by simp⟩
    case send => exact ⟨[_], rfl, by simp⟩
    case sign => exact ⟨[_], rfl, by simp⟩
  all_goals cases h
  case «begin» call => exact ⟨[_], rfl, by simp⟩
  case notify notice =>
    have hc := (Later.fireIf _ w.moment).calm calm
    rw [fireIf_calm calm, ← hm hc]
    exact ⟨[_], rfl, by simp⟩
  case now => exact ⟨[], hm calm, by simp⟩

theorem mem_callsSince {call : Call} : call ∈ w.callsSince w' ↔ .began call ∈ w.since w' := by
  rw [callsSince, List.mem_filterMap]
  constructor
  · rintro ⟨happening, hm, hc⟩
    cases happening
    case began =>
      cases hc
      exact hm
    all_goals cases hc
  · intro hm
    exact ⟨_, hm, rfl⟩

/-- In the step in which the token fires no call begins. -/
theorem not_began_of_fired {question : Run.Ask} {reply : question.Reply}
    (h : w.answer question = some (reply, w')) (hf : .fired ∈ w.since w') :
    w'.cancelled = true ∧ ∀ call, .began call ∉ w.since w' := by
  constructor
  · by_contra hc
    obtain ⟨new, hp, hn⟩ := past_answer h (Bool.not_eq_true _ ▸ hc)
    rw [since_of_append hp] at hf
    exact hn (List.mem_reverse.mp hf)
  · intro call hm
    obtain rfl := callsSince_answer h call (mem_callsSince.mpr hm)
    cases h
    have hs : w.since (w.note (.began call)) = [.began call].reverse := since_of_append rfl
    rw [hs] at hf
    simp at hf

/-- The token fires between two parts of what happens, or has fired before any of it. -/
def FiresBetween (w w' : World) (before after : List Happening) : Prop :=
  w.since w' = before ++ .fired :: after ∨ w.cancelled = true ∧ before = [] ∧ after = w.since w'

theorem FiresBetween.mem_cases {before after : List Happening}
    (fires : w.FiresBetween w' before after) {call : Call} (hm : .began call ∈ w.since w') :
    .began call ∈ before ∨ .began call ∈ after := by
  rcases fires with fires | ⟨_, _, rfl⟩
  · rw [fires] at hm
    simpa using hm
  · exact .inr hm

end World

/-- Where the token fires in the course of some work, it has fired at the end. -/
theorem cancelled_of_fires {w w' : World} {work : RunWork α} {ending : Ending α}
    (h : perform w work = (ending, w')) {before after : List Happening}
    (fires : w.FiresBetween w' before after) : w'.cancelled = true := by
  rcases fires with fires | ⟨fired, _⟩
  · induction work generalizing w before after with
    | done value =>
      cases h
      simp [World.since] at fires
    | panic payload =>
      cases h
      simp [World.since] at fires
    | ask question next ih =>
      unfold perform at h
      split at h
      · cases h
        simp [World.since] at fires
      next reply between ha =>
        rw [(World.Later.answer ha).since_trans (later_of_perform h)] at fires
        have hm : .fired ∈ w.since between ∨ .fired ∈ between.since w' :=
          List.mem_append.mp (by simp [fires])
        rcases hm with hm | hm
        · exact (later_of_perform h).cancelled (World.not_began_of_fired ha hm).1
        · obtain ⟨front, back, hs⟩ := List.append_of_mem hm
          exact ih reply h hs
  · exact (later_of_perform h).cancelled fired

/-- Whatever the replies, no call of node code begins once the token has fired. -/
def RunWork.Heeds : World → RunWork α → Prop
  | _, .done _ => True
  | _, .panic _ => True
  | w, .ask question next =>
    (∀ call, question = .begin call → w.cancelled = false) ∧
      ∀ reply w', w.answer question = some (reply, w') → Heeds w' (next reply)

namespace RunWork.Heeds

variable {w : World} {work : RunWork α}

theorem bind {next : α → RunWork β} (h : Heeds w work)
    (hn : ∀ value w', perform w work = (.returned value, w') → Heeds w' (next value)) :
    Heeds w (work >>= next) := by
  induction work generalizing w with
  | done value => exact hn value w rfl
  | panic payload => trivial
  | ask question more ih =>
    refine ⟨h.1, fun reply w' ha => ih reply (h.2 reply w' ha) fun value w'' hr => hn value w'' ?_⟩
    unfold perform
    simp only [ha, hr]

/-- Work that begins no call heeds the token anywhere. -/
theorem of_begins (h : Begins (fun _ => False) work) (w : World) : Heeds w work := by
  induction work generalizing w with
  | done value => trivial
  | panic payload => trivial
  | ask question next ih =>
    exact ⟨fun call hq => (h.1 call hq).elim, fun reply w' _ => ih reply (h.2 reply) w'⟩

theorem «begin» {call : Call} (calm : w.cancelled = false) : Heeds w (RunWork.begin call) :=
  ⟨fun _ _ => calm, fun _ _ _ => trivial⟩

/-- What is done unless the token has fired may begin with a call. -/
theorem unless_cancelled {yes no : RunWork α} (hy : Heeds w.moment yes)
    (hn : w.moment.cancelled = false → Heeds w.moment no) :
    Heeds w (do if ← isCancelled then yes else no) := by
  refine (of_begins .isCancelled w).bind fun fired w' hr => ?_
  cases hr
  split
  · exact hy
  next hc => exact hn (by simpa using hc)

/-- Once the token has fired no call begins. -/
theorem calls_eq_nil (h : Heeds w work) (fired : w.cancelled = true) :
    w.callsSince (perform w work).2 = [] := by
  induction work generalizing w with
  | done value => simp [perform]
  | panic payload => simp [perform]
  | ask question next ih =>
    unfold perform
    split
    · simp
    next reply w' ha =>
      have later := World.Later.answer ha
      have hstep : w.callsSince w' = [] := by
        rw [List.eq_nil_iff_forall_not_mem]
        intro call hc
        have := h.1 call (World.callsSince_answer ha call hc)
        simp [fired] at this
      rw [later.callsSince_trans (perform_later w' _), hstep,
        ih reply (h.2 reply w' ha) (later.cancelled fired)]
      rfl

/-- No call begins after the token has fired, at whichever moment that is. -/
theorem none_after (h : Heeds w work) {before after : List Happening}
    (fires : w.FiresBetween (perform w work).2 before after) : ∀ call, .began call ∉ after := by
  rcases fires with fires | ⟨fired, _, rfl⟩
  · induction work generalizing w before with
    | done value => simp [perform, World.since] at fires
    | panic payload => simp [perform, World.since] at fires
    | ask question next ih =>
      unfold perform at fires
      split at fires
      · simp [World.since] at fires
      next reply w' ha =>
        have later := World.Later.answer ha
        have hrest := h.2 reply w' ha
        rw [later.since_trans (perform_later w' _)] at fires
        rcases List.append_eq_append_iff.mp fires with ⟨between, _, hr⟩ | ⟨ended, hs, hr⟩
        · exact ih reply hrest hr
        cases ended with
        | nil =>
          have hn : w'.since (perform w' (next reply)).2 = [] ++ .fired :: after := hr.symm
          exact ih reply hrest hn
        | cons first ended =>
          -- The token fires in this very step, and what is left begins no call any more.
          obtain ⟨rfl, rfl⟩ := List.cons.inj hr
          obtain ⟨hfired, hstep⟩ := World.not_began_of_fired ha (by simp [hs])
          intro call hm
          rcases List.mem_append.mp hm with hm | hm
          · exact hstep call (by simp [hs, hm])
          · have := World.mem_callsSince.mpr hm
            simp [hrest.calls_eq_nil hfired] at this
  · intro call hm
    have := World.mem_callsSince.mpr hm
    simp [h.calls_eq_nil fired] at this

end RunWork.Heeds

section Node

variable {node : Node} {ctx : Context} {limit : Option Nat} {policy : Option RetryPolicy}
  {index : Nat}

theorem prepare_heeds {w : World} (calm : w.cancelled = false) : Heeds w (prepare node ctx) :=
  (Heeds.begin calm).bind fun _ w' _ => .of_begins (.freely _) w'

theorem call_heeds {w : World} (calm : w.cancelled = false) (number : Nat) :
    Heeds w (call node ctx limit index number) :=
  (Heeds.begin calm).bind fun _ w' _ => .of_begins (.guarded _ _) w'

theorem attempt_heeds (w : World) (number : Nat) :
    Heeds w (attempt node ctx limit index number) :=
  .unless_cancelled trivial fun calm => call_heeds calm number

theorem persist_heeds (w : World) (policy : RetryPolicy) (number more : Nat) :
    Heeds w (persist node ctx limit policy index number more) := by
  induction more generalizing w number with
  | zero => exact attempt_heeds w number
  | succ more ih =>
    refine (attempt_heeds w number).bind fun outcome w' _ => ?_
    split
    · trivial
    · trivial
    · refine (Heeds.of_begins (.awaitCancel _) w').bind fun fired w'' _ => ?_
      split
      · trivial
      · exact ih w'' (number + 1)

theorem item_heeds (w : World) : Heeds w (item node ctx limit policy index) := by
  cases policy with
  | none => exact attempt_heeds w 1
  | some policy => exact persist_heeds w policy 1 _

theorem items_heeds (w : World) (indices : List Nat) (ports : Ports) :
    Heeds w (items node ctx limit policy indices ports) := by
  induction indices generalizing w ports with
  | nil => trivial
  | cons index rest ih =>
    refine .unless_cancelled trivial fun _ => ?_
    refine (item_heeds _).bind fun outcome w' _ => ?_
    refine (Heeds.of_begins (abandoned_asks (fun _ => nofun) outcome) w').bind fun given w'' _ => ?_
    split
    · trivial
    · split
      · exact ih w'' _
      · trivial

theorem node_heeds {w : World} (calm : w.cancelled = false) :
    Heeds w (RunWork.node node ctx limit policy) := by
  unfold RunWork.node
  split
  · trivial
  · refine (prepare_heeds calm).bind fun outcome w' _ => ?_
    cases outcome with
    | ok => exact items_heeds w' _ _
    | error e => trivial

end Node

namespace Executor

variable (executor : Executor) (id : Uuid) (workflow : Workflow)

theorem turn_heeds (plan : Plan) (trigger : List Item) (cast : List (Placed × Node))
    (position : Nat) (finished : Finished) (w : World) :
    Heeds w (executor.turn id workflow plan trigger cast position finished) := by
  refine .unless_cancelled trivial fun calm => ?_
  split
  · trivial
  · split
    · trivial
    · refine (node_heeds calm).bind fun outcome w' _ => ?_
      split
      · trivial
      · exact (Heeds.of_begins .notify w').bind fun _ _ _ => trivial

theorem follow_heeds (plan : Plan) (trigger : List Item) (cast : List (Placed × Node))
    (positions : List Nat) (finished : Finished) (w : World) :
    Heeds w (executor.follow id workflow plan trigger cast positions finished) := by
  induction positions generalizing finished w with
  | nil => trivial
  | cons position rest ih =>
    refine (executor.turn_heeds id workflow plan trigger cast position finished w).bind ?_
    intro outcome w' _
    cases outcome with
    | error fatal => trivial
    | ok after => exact ih after w'

theorem undertake_heeds (trigger : Option (List Item)) (w : World) :
    Heeds w (executor.undertake id workflow trigger) := by
  unfold undertake drive
  split
  · split
    · trivial
    next cast _ =>
      refine (executor.follow_heeds id workflow _ _ cast _ [] w).bind fun outcome w' _ => ?_
      split
      · trivial
      · split <;> trivial
  · trivial

theorem conclude_begins (started : Nat) (outcome : Except Fatal Finished) :
    Begins (fun _ => False) (conclude id workflow started outcome) := by
  refine Begins.now.bind fun _ => ?_
  cases outcome with
  | ok finished => exact Begins.notify.bind fun _ => trivial
  | error fatal => exact Begins.notify.bind fun _ => trivial

/-- A run heeds the token: once it has fired no call of node code begins. -/
theorem execute_heeds (trigger : Option (List Item)) (w : World) :
    Heeds w (executor.execute id workflow trigger) := by
  refine (Heeds.of_begins .now w).bind fun _ w' _ => ?_
  refine (Heeds.of_begins .notify w').bind fun _ w' _ => ?_
  refine (executor.undertake_heeds id workflow trigger w').bind fun outcome w' _ => ?_
  exact .of_begins (conclude_begins id workflow _ outcome) w'

end Executor

end Conveyor
