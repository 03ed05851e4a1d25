import Conveyor.Proofs.Akin

namespace Conveyor
open RunWork

variable {α : Type}

/-- Questions that take no time. -/
def Node.Ask.Instant : Node.Ask → Prop
  | sleep _ | awaitCancel _ | hang => False
  | _ => True

theorem Node.Ask.Instant.prompt {question : Node.Ask} (h : question.Instant) : question.Prompt := by
  cases question
  case sleep | awaitCancel | hang => cases h
  all_goals trivial

namespace World

/-- Time passes in waits and nowhere else. -/
theorem clock_answerWithin {w w' : World} {question : Node.Ask} {reply : question.Reply}
    (h : w.answerWithin question = some (reply, w')) (instant : question.Instant) :
    w'.clock = w.clock := by
  cases question
  case sleep | awaitCancel | hang => cases instant
  all_goals cases h
  case cancel => exact (Akin.fire w).clock
  case report => exact (Akin.fireIf _ w).clock
  all_goals rfl

theorem clock_le_awaitCancel {w w' : World} {limit : Option Nat} {fired : Node.Fired}
    (h : w.awaitCancel limit = some (fired, w')) : w.clock ≤ w'.clock := by
  unfold awaitCancel at h
  split at h
  · cases h
    exact Nat.le_refl _
  · split at h
    next millis _ ha =>
      cases h
      unfold alarmWithin? at ha
      repeat' split at ha
      all_goals cases ha
      exact Nat.le_max_left _ _
    · cases h
      exact Nat.le_add_right _ _
    · cases h

/-- Time does not run back. -/
theorem clock_le_answer {w w' : World} {question : Run.Ask} {reply : question.Reply}
    (h : w.answer question = some (reply, w')) : w.clock ≤ w'.clock := by
  have hm : w.moment.clock = w.clock := (Akin.moment w).clock
  cases question
  case within question =>
    rw [← hm]
    change w.moment.answerWithin question = some (reply, w') at h
    cases question
    case sleep millis =>
      cases h
      exact Nat.le_add_right _ _
    case awaitCancel limit => exact clock_le_awaitCancel h
    case hang => cases h
    all_goals exact Nat.le_of_eq (clock_answerWithin h trivial).symm
  all_goals cases h
  case «begin» => exact Nat.le_refl _
  case notify => exact Nat.le_of_eq ((Akin.moment w).trans (Akin.fireIf _ w.moment)).clock.symm
  case now => exact Nat.le_of_eq hm.symm

@[simp] theorem cancelled_fire (w : World) : w.fire.cancelled = true := by
  unfold fire
  split
  · assumption
  · rfl

/-- The token has not fired, and nothing but node code will fire it. -/
structure Silent (w : World) : Prop where
  alarm : w.alarm = .never
  cancelled : w.cancelled = false

/-- The same surroundings, but that the token does not fire by itself. -/
def silenced (w : World) : World := { w with alarm := .never }

theorem Akin.silenced (w : World) : w.Akin w.silenced := ⟨rfl, rfl, rfl, rfl, rfl⟩

theorem silent_silenced {w : World} (h : w.cancelled = false) : w.silenced.Silent := ⟨rfl, h⟩

namespace Silent

variable {v v' : World} (h : v.Silent)
include h

theorem fireIf (alarm : Alarm) (ha : alarm ≠ .never) : v.fireIf alarm = v := by
  rw [World.fireIf, h.alarm, if_neg (Ne.symm ha)]

theorem moment : v.moment.Silent := by
  rw [World.moment, h.fireIf (.question v.asked) nofun]
  exact ⟨h.alarm, h.cancelled⟩

theorem callback (happening : Happening) : (v.callback happening).2.Silent := by
  rw [World.callback, h.fireIf (.callback v.callbacks) (by simp)]
  exact ⟨h.alarm, h.cancelled⟩

theorem sleep (millis : Nat) : (v.sleep millis).Silent := by
  have hn : v.alarmWithin? (some millis) = none := by simp [alarmWithin?, h.alarm]
  rw [World.sleep, hn]
  exact ⟨h.alarm, h.cancelled⟩

theorem awaitCancel (millis : Nat) :
    v.awaitCancel (some millis) = some (false, { v with clock := v.clock + millis }) := by
  simp [World.awaitCancel, alarmWithin?, h.alarm, h.cancelled]

/-- Silence is broken by node code alone. -/
theorem answer {question : Run.Ask} {reply : question.Reply}
    (ha : v.answer question = some (reply, v')) (hq : question ≠ .within .cancel) : v'.Silent := by
  have hm := h.moment
  cases question
  case within question =>
    cases question
    case cancel => exact absurd rfl hq
    case hang => cases ha
    case awaitCancel limit =>
      change v.moment.awaitCancel limit = some (reply, v') at ha
      cases limit with
      | none => simp [World.awaitCancel, alarmWithin?, hm.alarm, hm.cancelled] at ha
      | some millis =>
        rw [hm.awaitCancel] at ha
        cases ha
        exact ⟨hm.alarm, hm.cancelled⟩
    all_goals cases ha
    case sleep millis => exact hm.sleep millis
    case isCancelled => exact hm
    case report => exact hm.callback _
    all_goals exact ⟨hm.alarm, hm.cancelled⟩
  all_goals cases ha
  case «begin» => exact ⟨h.alarm, h.cancelled⟩
  case notify => exact hm.callback _
  case now => exact hm

end Silent

/-- What is replied where the token does not fire, is replied in akin silent surroundings too. -/
theorem Akin.answer_silent {w v w' : World} {question : Run.Ask} {reply : question.Reply}
    (akin : w.Akin v) (silent : v.Silent) (h : w.answer question = some (reply, w'))
    (calm : w'.cancelled = false) :
    ∃ v', v.answer question = some (reply, v') ∧ w'.Akin v' ∧ v'.Silent := by
  cases ha : v.answer question with
  | none =>
    have := answer_none ha h
    simp [calm] at this
  | some answered =>
    obtain ⟨reply', v'⟩ := answered
    have hq : question ≠ .within .cancel := by
      intro hq
      subst hq
      cases h
      simp at calm
    have silent' := silent.answer ha hq
    obtain ⟨rfl, akin'⟩ := akin.answer h ha (.inr ⟨calm, silent'.cancelled⟩)
    exact ⟨v', rfl, akin', silent'⟩

end World

theorem clock_le_perform (w : World) (work : RunWork α) : w.clock ≤ (perform w work).2.clock := by
  induction work generalizing w with
  | done value => exact Nat.le_refl _
  | panic payload => exact Nat.le_refl _
  | ask question next ih =>
    unfold perform
    split
    · exact Nat.le_refl _
    next reply w' ha => exact Nat.le_trans (World.clock_le_answer ha) (ih reply w')

/-- Work in which the token does not fire goes the same way in akin silent surroundings. -/
theorem perform_silent {w v w' : World} {work : RunWork α} {ending : Ending α} (akin : w.Akin v)
    (silent : v.Silent) (h : perform w work = (ending, w')) (calm : w'.cancelled = false) :
    ∃ v', perform v work = (ending, v') ∧ w'.Akin v' ∧ v'.Silent := by
  induction work generalizing w v with
  | done value =>
    cases h
    exact ⟨v, rfl, akin, silent⟩
  | panic payload =>
    cases h
    exact ⟨v, rfl, akin, silent⟩
  | ask question next ih =>
    unfold perform at h ⊢
    cases ha : w.answer question with
    | none =>
      simp only [ha] at h
      cases h
      cases hv : v.answer question with
      | none => exact ⟨v, rfl, akin, silent⟩
      | some answered =>
        have hq : question ≠ .within .cancel := fun hq => by
          subst hq
          cases ha
        have := World.answer_none ha hv
        simp [(silent.answer hv hq).cancelled] at this
    | some answered =>
      obtain ⟨reply, between⟩ := answered
      simp only [ha] at h
      have hb := (later_of_perform h).calm calm
      obtain ⟨v', hv, akin', silent'⟩ := akin.answer_silent silent ha hb
      simp only [hv]
      exact ih reply akin' silent' h

namespace RunWork

/-- How node code ends if nothing cuts it short, neither the token nor a limit, and how many
milliseconds that takes. -/
def course (w : World) (code : Work Node.Ask.Reply α) : Ending α × Nat :=
  let (ending, w') := perform w.silenced (freely code)
  (ending, w'.clock - w.clock)

@[simp] theorem course_done (w : World) (value : α) :
    course w (.done value) = (.returned value, 0) := by
  change (Ending.returned value, w.clock - w.clock) = _
  rw [Nat.sub_self]

@[simp] theorem course_nap (w : World) (millis : Nat) (value : α) :
    course w (.ask (.sleep millis) fun _ => .done value) = (.returned value, millis) := by
  have hclock : (w.silenced.moment.sleep millis).clock = w.clock + millis :=
    congrArg (· + millis) (World.Akin.moment w.silenced).clock
  change (Ending.returned value, (w.silenced.moment.sleep millis).clock - w.clock) = _
  rw [hclock, Nat.add_sub_cancel_left]

/-- What an attempt makes of node code that ends in some way after some time. -/
def curtailed (limit : Option Limit) (ending : Ending (Except Failure α)) (millis : Nat) :
    Ending (Except Failure α) :=
  match limit with
  | some l =>
    if l.left < millis then .returned (.error (.timeout l.total))
    else
      match ending with
      | .returned result => .returned result
      | .panicked payload => .returned (.error (.execution (panicText payload)))
      | .stuck => .returned (.error (.timeout l.total))
  | none =>
    match ending with
    | .returned result => .returned result
    | .panicked payload => .returned (.error (.execution (panicText payload)))
    | .stuck => .stuck

end RunWork

section Guarded

variable {w v w' v' : World} {ending ending' : Ending (Except Failure α)} {limit : Option Limit}

/-- What is left of a limit after a wait. -/
def RunWork.Limit.after (millis : Nat) (l : Limit) : Limit := { l with left := l.left - millis }

/-- A wait within an attempt ends with the token, or when it is over. -/
theorem awaitCancel_cases {millis : Nat} {rest : RunWork (Except Failure α)}
    (h : perform w (do if ← awaitCancel (some millis) then return .error .cancelled else rest) =
      (ending, w')) :
    ending = .returned (.error .cancelled) ∧ w'.cancelled = true ∨
    w.moment.cancelled = false ∧
      perform { w.moment with clock := w.moment.clock + millis } rest = (ending, w') := by
  obtain ⟨between, ha, hr⟩ := perform_awaitCancel w millis
  rw [perform_bind_of_returned hr] at h
  cases hc : between.cancelled with
  | true =>
    rw [if_pos hc] at h
    cases h
    exact .inl ⟨rfl, hc⟩
  | false =>
    rw [if_neg (by simp [hc])] at h
    obtain ⟨_, _, hm, rfl⟩ := World.awaitCancel_calm ha hc
    cases hm
    exact .inr ⟨hc, h⟩

/-- A pause of an attempt ends with the token, with the limit, or when it is over. -/
theorem pause_cases {millis : Nat} {next : Option Limit → RunWork (Except Failure α)}
    (h : perform w (pause limit millis next) = (ending, w')) :
    ending = .returned (.error .cancelled) ∧ w'.cancelled = true ∨
    (∃ l, limit = some l ∧ l.left < millis ∧ ending = .returned (.error (.timeout l.total))) ∨
    w.moment.cancelled = false ∧ (∀ l, limit = some l → millis ≤ l.left) ∧
      perform { w.moment with clock := w.moment.clock + millis }
        (next (limit.map (Limit.after millis))) = (ending, w') := by
  unfold pause at h
  split at h
  · rcases awaitCancel_cases h with fired | ⟨calm, goes⟩
    · exact .inl fired
    · exact .inr (.inr ⟨calm, nofun, goes⟩)
  next l =>
    split at h
    next room =>
      rcases awaitCancel_cases h with fired | ⟨calm, goes⟩
      · exact .inl fired
      · exact .inr (.inr ⟨calm, fun _ hl => Option.some.inj hl ▸ room, goes⟩)
    next late =>
      have late := Nat.lt_of_not_le late
      split at h
      · cases h
        exact .inr (.inl ⟨l, rfl, late, rfl⟩)
      · rcases awaitCancel_cases h with fired | ⟨_, hr⟩
        · exact .inl fired
        · cases hr
          exact .inr (.inl ⟨l, rfl, late, rfl⟩)

/-- A wait for what never comes ends with the token, with the limit, or not at all. -/
theorem pauseForGood_cases (h : perform w (pauseForGood limit) = (ending, w')) :
    ending = .returned (.error .cancelled) ∧ w'.cancelled = true ∨
    ending = curtailed limit .stuck 0 := by
  cases limit with
  | none =>
    have hq := perform_question w (.within (.awaitCancel none))
    cases ha : w.answer (.within (.awaitCancel none)) with
    | none =>
      have hr : perform w (awaitCancel none) = (.stuck, w) := hq.trans (by rw [ha])
      simp only [pauseForGood, perform_bind, hr] at h
      cases h
      exact .inr rfl
    | some answered =>
      obtain ⟨fired, between⟩ := answered
      have hr : perform w (awaitCancel none) = (.returned fired, between) :=
        hq.trans (by rw [ha])
      simp only [pauseForGood, perform_bind, hr] at h
      cases h
      cases hc : w'.cancelled with
      | true => exact .inl ⟨rfl, rfl⟩
      | false =>
        obtain ⟨_, _, hl, _⟩ := World.awaitCancel_calm ha hc
        cases hl
  | some l =>
    rw [curtailed, if_neg (Nat.not_lt_zero _)]
    rw [pauseForGood] at h
    split at h
    · cases h
      exact .inr rfl
    · rcases awaitCancel_cases h with fired | ⟨_, hr⟩
      · exact .inl fired
      · cases hr
        exact .inr rfl

/-- Waiting on, node code takes the longer, and has the less of its limit left. -/
theorem curtailed_after (limit : Option Limit) (ending : Ending (Except Failure α))
    {millis more : Nat} (room : ∀ l, limit = some l → millis ≤ l.left) :
    curtailed (limit.map (Limit.after millis)) ending more = curtailed limit ending (millis + more) := by
  cases limit with
  | none => rfl
  | some l =>
    have hl : (l.left - millis < more) = (l.left < millis + more) := by
      have := room l rfl
      exact propext ⟨by omega, by omega⟩
    simp only [Option.map_some, curtailed, Limit.after, hl]

theorem guarded_of_instant {question : Node.Ask} (instant : question.Instant) (limit : Option Limit)
    (next : question.Reply → Work Node.Ask.Reply (Except Failure α)) :
    guarded limit (.ask question next) =
      .ask (.within question) fun reply => guarded limit (next reply) := by
  cases question
  case sleep | awaitCancel | hang => cases instant
  all_goals rfl

end Guarded

section Node

variable {node : Node} {ctx : Context} {w w' : World}

theorem prepare_eq_course {ending : Ending (Except Failure Unit)}
    (h : perform w (prepare node ctx) = (ending, w')) (calm : w'.cancelled = false) :
    ending = (course (w.note (.began (.setup ctx.nodeId ctx.inputs))) (node.setup ctx)).1 := by
  let begun := w.note (.began (.setup ctx.nodeId ctx.inputs))
  have hb : perform begun (freely (node.setup ctx)) = (ending, w') := h
  have silent := World.silent_silenced ((later_of_perform hb).calm calm)
  obtain ⟨v', hv, _⟩ := perform_silent (.silenced begun) silent hb calm
  exact (congrArg Prod.fst hv).symm

end Node

end Conveyor
