import Conveyor.Concurrent
import Conveyor.Proofs.Hearing
import Conveyor.Proofs.Prefix

namespace Conveyor
open RunWork

variable {α β : Type}

/-- What happened, without when and without how long it took. -/
def Happening.untimed : Happening → Happening
  | told _ notice => told 0 notice.untimed
  | reported _ node message => reported 0 node message
  | happening => happening

def Occurrence.untimed : Occurrence → Occurrence
  | workflowCompleted nodes _ => workflowCompleted nodes none
  | occurrence => occurrence

def Event.untimed (event : Event) : Event :=
  { event with occurrence := event.occurrence.untimed, timestamp := .ofMillis 0 }

theorem Happening.event?_untimed (id : Uuid) (happening : Happening) :
    happening.untimed.event? id = (happening.event? id).map Event.untimed := by
  cases happening with
  | told clock notice => cases notice <;> rfl
  | began | reported | sent | signed | fired => rfl

namespace World

theorem alarm_fire (w : World) : w.fire.alarm = w.alarm := by
  unfold fire
  split <;> rfl

theorem alarm_fireIf (alarm : Alarm) (w : World) : (w.fireIf alarm).alarm = w.alarm := by
  unfold fireIf
  split
  · exact alarm_fire w
  · rfl

theorem alarm_moment (w : World) : w.moment.alarm = w.alarm := alarm_fireIf (.question w.asked) w

theorem alarm_awaitCancel {w w' : World} {limit : Option Nat} {fired : Node.Fired}
    (h : w.awaitCancel limit = some (fired, w')) : w'.alarm = w.alarm := by
  unfold awaitCancel at h
  split at h
  · cases h
    rfl
  · split at h
    · cases h
      exact alarm_fire w
    · cases h
      rfl
    · cases h

/-- When the token will fire by itself is settled from the start. -/
theorem alarm_answer {w w' : World} {question : Run.Ask} {reply : question.Reply}
    (h : w.answer question = some (reply, w')) : w'.alarm = w.alarm := by
  have hm := alarm_moment w
  cases question
  case within question =>
    rw [← hm]
    change w.moment.answerWithin question = some (reply, w') at h
    cases question
    case awaitCancel limit => exact alarm_awaitCancel h
    case hang => cases h
    all_goals cases h
    case sleep millis =>
      unfold sleep
      dsimp only
      split
      · exact alarm_fire w.moment
      · rfl
    case cancel => exact alarm_fire w.moment
    case report => exact alarm_fireIf _ w.moment
    all_goals rfl
  all_goals cases h
  case «begin» => rfl
  case notify => exact (alarm_fireIf _ w.moment).trans hm
  case now => exact hm

/-- Surroundings that differ in their times alone, and not in those if the token fires at a time. -/
structure Drifted (w v : World) : Prop where
  cancelled : v.cancelled = w.cancelled
  alarm : v.alarm = w.alarm
  asked : v.asked = w.asked
  sink : v.sink = w.sink
  peer : v.peer = w.peer
  wallet : v.wallet = w.wallet
  past : v.past.map Happening.untimed = w.past.map Happening.untimed
  clock : ∀ millis, w.alarm = .clock millis → v.clock = w.clock

namespace Drifted

variable {w v : World}

theorem refl (w : World) : w.Drifted w := ⟨rfl, rfl, rfl, rfl, rfl, rfl, rfl, fun _ _ => rfl⟩

/-- A run is held up while others go on. -/
theorem held (d : w.Drifted v) (millis : Nat) (untimed : ∀ millis, w.alarm ≠ .clock millis) :
    w.Drifted { v with clock := v.clock + millis } :=
  ⟨d.cancelled, d.alarm, d.asked, d.sink, d.peer, d.wallet, d.past,
    fun millis h => absurd h (untimed millis)⟩

theorem filterMap_past {f : Happening → Option β} (hf : ∀ happening, f happening.untimed = f happening)
    (d : w.Drifted v) : v.past.filterMap f = w.past.filterMap f := by
  have hmap (past : List Happening) : past.filterMap f = (past.map Happening.untimed).filterMap f := by
    rw [List.filterMap_map]
    congr 1
    funext happening
    exact (hf happening).symm
  rw [hmap, d.past, ← hmap]

theorem requests (d : w.Drifted v) : v.requests = w.requests :=
  d.filterMap_past fun happening => by cases happening <;> rfl

theorem payments (d : w.Drifted v) : v.payments = w.payments :=
  d.filterMap_past fun happening => by cases happening <;> rfl

theorem callbacks (d : w.Drifted v) : v.callbacks = w.callbacks := by
  have hmap (u : World) : u.callbacks = (u.past.map Happening.untimed).countP Happening.isHeard := by
    rw [List.countP_map]
    refine List.countP_congr fun happening _ => ?_
    cases happening <;> rfl
  rw [hmap, hmap, d.past]

theorem note (d : w.Drifted v) {first second : Happening} (same : second.untimed = first.untimed) :
    (w.note first).Drifted (v.note second) :=
  ⟨d.cancelled, d.alarm, d.asked, d.sink, d.peer, d.wallet,
    by simp only [World.note, List.map_cons, same, d.past], d.clock⟩

theorem fire (d : w.Drifted v) : w.fire.Drifted v.fire := by
  unfold World.fire
  rw [d.cancelled]
  split
  · exact d
  · exact ⟨rfl, d.alarm, d.asked, d.sink, d.peer, d.wallet,
      by simp only [List.map_cons, d.past], d.clock⟩

theorem fireIf (d : w.Drifted v) (alarm : Alarm) : (w.fireIf alarm).Drifted (v.fireIf alarm) := by
  unfold World.fireIf
  rw [d.alarm]
  split
  · exact d.fire
  · exact d

theorem moment (d : w.Drifted v) : w.moment.Drifted v.moment := by
  have hf := d.fireIf (.question w.asked)
  unfold World.moment
  rw [d.asked]
  exact ⟨hf.cancelled, hf.alarm, rfl, hf.sink, hf.peer, hf.wallet, hf.past, hf.clock⟩

theorem callback (d : w.Drifted v) {first second : Happening}
    (same : second.untimed = first.untimed) :
    (v.callback second).1 = (w.callback first).1 ∧
      (w.callback first).2.Drifted (v.callback second).2 := by
  unfold World.callback
  rw [d.callbacks, d.sink]
  exact ⟨rfl, (d.fireIf _).note same⟩

/-- Times may be set apart, unless the token fires at one. -/
theorem pass (d : w.Drifted v) {time time' : Nat}
    (same : ∀ millis, w.alarm = .clock millis → time' = time) :
    { w with clock := time }.Drifted { v with clock := time' } :=
  ⟨d.cancelled, d.alarm, d.asked, d.sink, d.peer, d.wallet, d.past, same⟩

theorem alarmWithin (d : w.Drifted v) (limit : Option Nat) :
    v.alarmWithin? limit = w.alarmWithin? limit := by
  unfold alarmWithin?
  rw [d.alarm]
  split
  next millis h => rw [d.cancelled, d.clock millis h]
  · rfl

theorem sleep (d : w.Drifted v) (millis : Nat) : (w.sleep millis).Drifted (v.sleep millis) := by
  have same (alarm : Nat) (h : w.alarm = .clock alarm) : v.clock + millis = w.clock + millis :=
    congrArg (· + millis) (d.clock alarm h)
  unfold World.sleep
  rw [d.alarmWithin]
  split
  · exact d.fire.pass (alarm_fire w ▸ same)
  · exact d.pass same

theorem awaitCancel (d : w.Drifted v) (limit : Option Nat) :
    (w.awaitCancel limit = none ∧ v.awaitCancel limit = none) ∨
      ∃ fired w' v', w.awaitCancel limit = some (fired, w') ∧
        v.awaitCancel limit = some (fired, v') ∧ w'.Drifted v' := by
  unfold World.awaitCancel
  rw [d.cancelled, d.alarmWithin]
  split
  · exact .inr ⟨true, w, v, rfl, rfl, d⟩
  · split
    next millis _ => exact .inr ⟨true, _, _, rfl, rfl, d.fire.pass fun _ _ => rfl⟩
    next millis _ =>
      refine .inr ⟨false, _, _, rfl, rfl, ?_⟩
      exact ⟨rfl, d.alarm, d.asked, d.sink, d.peer, d.wallet, d.past,
        fun alarm h => congrArg (· + millis) (d.clock alarm h)⟩
    · exact .inl ⟨rfl, rfl⟩

theorem answerWithin (d : w.Drifted v) (question : Node.Ask) :
    (w.answerWithin question = none ∧ v.answerWithin question = none) ∨
      ∃ reply w' v', w.answerWithin question = some (reply, w') ∧
        v.answerWithin question = some (reply, v') ∧ w'.Drifted v' := by
  cases question with
  | sleep millis => exact .inr ⟨(), _, _, rfl, rfl, d.sleep millis⟩
  | awaitCancel limit => exact d.awaitCancel limit
  | hang => exact .inl ⟨rfl, rfl⟩
  | cancel => exact .inr ⟨(), _, _, rfl, rfl, d.fire⟩
  | isCancelled => exact .inr ⟨w.cancelled, w, v, rfl, by rw [World.answerWithin, d.cancelled], d⟩
  | report node message =>
    have same : (Happening.reported v.clock node message).untimed =
        (Happening.reported w.clock node message).untimed := rfl
    obtain ⟨hreply, hd⟩ := d.callback same
    exact .inr ⟨_, _, _, rfl, congrArg (fun reply => some (reply, _)) hreply, hd⟩
  | send request =>
    refine .inr ⟨_, _, _, rfl, ?_, d.note rfl⟩
    simp only [World.answerWithin, d.requests, d.peer]
  | sign offer =>
    refine .inr ⟨_, _, _, rfl, ?_, d.note rfl⟩
    simp only [World.answerWithin, d.payments, d.wallet]

theorem notify (d : w.Drifted v) {notice notice' : Notice} (same : notice'.untimed = notice.untimed) :
    ∃ reply w' v', w.answer (.notify notice) = some (reply, w') ∧
      v.answer (.notify notice') = some (reply, v') ∧ w'.Drifted v' := by
  have htold : (Happening.told v.clock notice').untimed = (Happening.told w.clock notice).untimed :=
    congrArg (Happening.told 0) same
  obtain ⟨hreply, hd⟩ := d.moment.callback htold
  exact ⟨_, _, _, rfl, congrArg (fun reply => some (reply, _)) hreply, hd⟩

/-- A question is answered in the same way, but for the time. -/
theorem answer (d : w.Drifted v) {question : Run.Ask} (timeless : question ≠ .now) :
    (w.answer question = none ∧ v.answer question = none) ∨
      ∃ reply w' v', w.answer question = some (reply, w') ∧ v.answer question = some (reply, v') ∧
        w'.Drifted v' := by
  cases question with
  | within question => exact d.moment.answerWithin question
  | «begin» call => exact .inr ⟨(), _, _, rfl, rfl, d.note rfl⟩
  | notify notice => exact .inr (d.notify rfl)
  | now => exact absurd rfl timeless

end Drifted

end World

namespace RunWork

/-- Work that differs in what it makes of the time alone, and comes to related values. -/
inductive Alike (R : α → α → Prop) : RunWork α → RunWork α → Prop
  | done {value value' : α} (related : R value value') : Alike R (.done value) (.done value')
  | panic (payload : Option String) : Alike R (.panic payload) (.panic payload)
  | ask {question : Run.Ask} {next next' : question.Reply → RunWork α} (timeless : question ≠ .now)
      (more : ∀ reply, Alike R (next reply) (next' reply)) :
      Alike R (.ask question next) (.ask question next')
  | notify {notice notice' : Notice} {next next' : Except String Unit → RunWork α}
      (same : notice'.untimed = notice.untimed) (more : ∀ reply, Alike R (next reply) (next' reply)) :
      Alike R (.ask (.notify notice) next) (.ask (.notify notice') next')
  | now {next next' : Nat → RunWork α} (more : ∀ time time', Alike R (next time) (next' time')) :
      Alike R (.ask .now next) (.ask .now next')

namespace Alike

theorem bind {R : α → α → Prop} {S : β → β → Prop} {work work' : RunWork α}
    {next next' : α → RunWork β} (h : Alike R work work')
    (hn : ∀ value value', R value value' → Alike S (next value) (next' value')) :
    Alike S (work >>= next) (work' >>= next') := by
  induction h with
  | done related => exact hn _ _ related
  | panic payload => exact .panic payload
  | ask timeless _ ih => exact .ask timeless ih
  | notify same _ ih => exact .notify same ih
  | now _ ih => exact .now ih

/-- Work that does not ask for the time. -/
theorem of_asks {work : RunWork α} (h : Asks (· ≠ .now) True work) : Alike Eq work work := by
  induction work with
  | done value => exact .done rfl
  | panic payload => exact .panic payload
  | ask question next ih => exact .ask h.1 fun reply => ih reply (h.2 reply)

end Alike

end RunWork

/-- Outcomes of a run that differ in the time it took alone. -/
def Result.SameButTime (outcome outcome' : Except Fault Result) : Prop :=
  (Ending.returned outcome').untimed = (Ending.returned outcome).untimed

namespace Executor

variable {executor : Executor} {id : Uuid} {workflow : Workflow}

theorem conclude_alike (started started' : Nat) (outcome : Except Fatal Finished) :
    Alike Result.SameButTime (conclude id workflow started outcome)
      (conclude id workflow started' outcome) := by
  refine Alike.now fun time time' => ?_
  cases outcome with
  | ok finished => exact .notify rfl fun _ => .done rfl
  | error fatal => exact .notify rfl fun _ => .done rfl

/-- All that a run makes of the time is to say how long it took. -/
theorem execute_alike (executor : Executor) (id : Uuid) (workflow : Workflow)
    (trigger : Option (List Item)) :
    Alike Result.SameButTime (executor.execute id workflow trigger)
      (executor.execute id workflow trigger) := by
  refine Alike.now fun started started' => .notify rfl fun _ => ?_
  have hu : Alike Eq (executor.undertake id workflow trigger)
      (executor.undertake id workflow trigger) :=
    .of_asks (undertake_asks (fun _ => nofun) (fun _ => nofun) (fun _ => nofun) trigger)
  refine hu.bind fun outcome outcome' he => ?_
  subst he
  exact conclude_alike started started' outcome

end Executor

/-- How many steps a run has left to go. -/
def RunWork.steps (w : World) : RunWork α → Nat
  | .done _ | .panic _ => 0
  | .ask question next =>
    match w.answer question with
    | none => 0
    | some (reply, w) => steps w (next reply) + 1

namespace Underway

section Step

variable {run run' : Underway α} {happened : List Happening}

theorem step?_of_answer {id : Uuid} {w w' : World} {question : Run.Ask} {reply : question.Reply}
    {next : question.Reply → RunWork α} (h : w.answer question = some (reply, w')) :
    step? ⟨id, w, .ask question next⟩ = some (⟨id, w', next reply⟩, w.since w') := by
  simp only [step?, h]

/-- A run without another step is over, or waits for something that never comes. -/
theorem over_of_step? (h : run.step? = none) :
    run.ending? = some (perform run.world run.work).1 ∧
      (perform run.world run.work).2 = run.world ∧ steps run.world run.work = 0 := by
  obtain ⟨id, w, work⟩ := run
  cases work with
  | done | panic => exact ⟨rfl, rfl, rfl⟩
  | ask question next =>
    cases ha : w.answer question with
    | none => simp [ending?, perform, steps, ha]
    | some answered => simp [step?, ha] at h

/-- A step of a run brings it one nearer to the same end. -/
theorem of_step? (h : run.step? = some (run', happened)) :
    run'.id = run.id ∧ run.ending? = none ∧
      perform run'.world run'.work = perform run.world run.work ∧
      steps run.world run.work = steps run'.world run'.work + 1 ∧
      run.world.Later run'.world ∧ happened = run.world.since run'.world ∧
      run'.world.alarm = run.world.alarm := by
  obtain ⟨id, w, work⟩ := run
  cases work with
  | done | panic => cases h
  | ask question next =>
    cases ha : w.answer question with
    | none => simp [step?, ha] at h
    | some answered =>
      obtain ⟨reply, w'⟩ := answered
      cases (step?_of_answer ha).symm.trans h
      refine ⟨rfl, ?_, ?_, ?_, .answer ha, rfl, World.alarm_answer ha⟩
      · simp [ending?, ha]
      · simp [perform, ha]
      · simp [steps, ha]

end Step

/-- A run that goes the way of another, in its own time. -/
structure Follows (lead run : Underway (Except Fault Result)) : Prop where
  id : run.id = lead.id
  world : lead.world.Drifted run.world
  work : Alike Result.SameButTime lead.work run.work

namespace Follows

variable {lead run : Underway (Except Fault Result)}

/-- One has a step left if the other has, and they stay together. -/
theorem step (h : lead.Follows run) :
    (lead.step? = none ∧ run.step? = none) ∨
      ∃ lead' run' happened happened', lead.step? = some (lead', happened) ∧
        run.step? = some (run', happened') ∧ lead'.Follows run' := by
  obtain ⟨id, w, work⟩ := lead
  obtain ⟨id', v, work'⟩ := run
  obtain ⟨rfl, d, alike⟩ := h
  dsimp only at d alike
  cases alike with
  | done | panic => exact .inl ⟨rfl, rfl⟩
  | ask timeless more =>
    obtain ⟨hw, hv⟩ | ⟨reply, w', v', hw, hv, d'⟩ := d.answer timeless
    · exact .inl ⟨by simp only [step?, hw], by simp only [step?, hv]⟩
    · exact .inr ⟨_, _, _, _, step?_of_answer hw, step?_of_answer hv, rfl, d', more reply⟩
  | notify same more =>
    obtain ⟨reply, w', v', hw, hv, d'⟩ := d.notify same
    exact .inr ⟨_, _, _, _, step?_of_answer hw, step?_of_answer hv, rfl, d', more reply⟩
  | now more =>
    exact .inr ⟨_, _, _, _, step?_of_answer rfl, step?_of_answer rfl, rfl, d.moment, more _ _⟩

/-- They end in the same way, but for the time that takes. -/
theorem ending (h : lead.Follows run) :
    run.ending?.map Ending.untimed = lead.ending?.map Ending.untimed := by
  obtain ⟨id, w, work⟩ := lead
  obtain ⟨id', v, work'⟩ := run
  obtain ⟨rfl, d, alike⟩ := h
  dsimp only at d alike
  cases alike with
  | done related => exact congrArg some related
  | panic => rfl
  | ask timeless more =>
    obtain ⟨hw, hv⟩ | ⟨reply, w', v', hw, hv, d'⟩ := d.answer timeless
    · simp [ending?, hw, hv]
    · simp [ending?, hw, hv]
  | notify same more => rfl
  | now more => rfl

end Follows

end Underway

end Conveyor
