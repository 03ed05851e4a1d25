import Conveyor.Proofs.Course

namespace Conveyor
open RunWork

variable {α : Type}

namespace World

/-- The same surroundings, but that the token fires at the k-th question from now, or never. -/
def firesAt (k : Option Nat) (w : World) : World :=
  { w with alarm := k.elim .never fun k => .question (w.asked + k) }

theorem Akin.firesAt (k : Option Nat) (w : World) : w.Akin (w.firesAt k) :=
  ⟨rfl, rfl, rfl, rfl, rfl⟩

theorem Silent.firesAt_none {w : World} (h : w.Silent) : w.firesAt none = w :=
  congrArg (fun alarm => { w with alarm }) h.alarm.symm

theorem Silent.moment_eq {w : World} (h : w.Silent) : w.moment = { w with asked := w.asked + 1 } := by
  rw [World.moment, h.fireIf (.question w.asked) (by simp)]

/-- A question before the one at which the token fires brings that one closer. -/
theorem Silent.moment_firesAt {w : World} (h : w.Silent) (k : Option Nat) :
    (w.firesAt (k.map (· + 1))).moment = w.moment.firesAt k := by
  rw [h.moment_eq]
  cases k with
  | none => simp [World.moment, World.fireIf, firesAt]
  | some k =>
    have hne : ¬ w.asked + 1 + k = w.asked := by omega
    have heq : w.asked + (k + 1) = w.asked + 1 + k := by omega
    simp [World.moment, World.fireIf, firesAt, hne, heq]

theorem moment_firesAt_zero (w : World) : (w.firesAt (some 0)).moment.cancelled = true := by
  simp [moment, fireIf, firesAt]

theorem alarmWithin_firesAt (limit : Option Nat) (k : Option Nat) (w : World) :
    (w.firesAt k).alarmWithin? limit = none := by
  cases k <;> rfl

theorem Silent.answerWithin_firesAt {w w' : World} (h : w.Silent) (k : Option Nat)
    {question : Node.Ask} {reply : question.Reply}
    (ha : w.answerWithin question = some (reply, w')) (calm : w'.cancelled = false) :
    (w.firesAt k).answerWithin question = some (reply, w'.firesAt k) := by
  have hfire (n : Nat) : (w.firesAt k).fireIf (.callback n) = w.firesAt k := by
    cases k <;> rfl
  cases question
  case cancel =>
    cases ha
    simp at calm
  case hang => cases ha
  case awaitCancel limit =>
    cases limit with
    | none => simp [answerWithin, World.awaitCancel, h.cancelled, alarmWithin?, h.alarm] at ha
    | some millis =>
      have hw := (h.awaitCancel millis).symm.trans ha
      cases hw
      have hc : (w.firesAt k).cancelled = false := h.cancelled
      simp only [answerWithin, World.awaitCancel, if_neg (hc ▸ Bool.false_ne_true),
        alarmWithin_firesAt]
      rfl
  case sleep millis =>
    have hn : w.alarmWithin? (some millis) = none := by simp [alarmWithin?, h.alarm]
    simp only [answerWithin, World.sleep, hn, alarmWithin_firesAt] at ha ⊢
    cases ha
    rfl
  case report =>
    have hn : w.fireIf (.callback w.callbacks) = w := h.fireIf _ (by simp)
    simp only [answerWithin, World.callback, hfire, hn] at ha ⊢
    cases ha
    rfl
  all_goals
    cases ha
    rfl

/-- Before it fires at some question, the token has no part in any. -/
theorem Silent.answer_firesAt {w w' : World} (h : w.Silent) (k : Option Nat)
    {question : Node.Ask} {reply : question.Reply}
    (ha : w.answer (.within question) = some (reply, w')) (calm : w'.cancelled = false) :
    (w.firesAt (k.map (· + 1))).answer (.within question) = some (reply, w'.firesAt k) := by
  change (w.firesAt (k.map (· + 1))).moment.answerWithin question = _
  rw [h.moment_firesAt]
  exact h.moment.answerWithin_firesAt k ha calm

/-- Once the token has fired, akin surroundings give the same reply to any question. -/
theorem Akin.answer_fired {w v w' : World} (akin : w.Akin v) (hv : v.moment.cancelled = true)
    {question : Node.Ask} {reply : question.Reply}
    (ha : w.answer (.within question) = some (reply, w'))
    (instant : question.Instant) (hw : w'.cancelled = true) :
    ∃ v', v.answer (.within question) = some (reply, v') ∧ w'.Akin v' ∧ v'.cancelled = true := by
  by_cases blind : (Run.Ask.within question).Blind
  · cases hav : v.answer (.within question) with
    | none => simp [answer_none_of_blind blind hav w] at ha
    | some answered =>
      obtain ⟨reply', v'⟩ := answered
      obtain ⟨rfl, akin'⟩ := akin.answer ha hav (.inl blind)
      have later : v.moment.Later v' := .answerWithin hav
      exact ⟨v', rfl, akin', later.cancelled hv⟩
  · cases question
    case isCancelled =>
      cases ha
      refine ⟨v.moment, ?_, akin.moments, hv⟩
      rw [hw, ← hv]
      rfl
    case awaitCancel => cases instant
    all_goals exact absurd trivial blind

end World

namespace RunWork

/-- What a call of node code comes to if nothing but a time limit cuts it short. -/
def outcome (limit : Option Limit) (w : World) (code : Work Node.Ask.Reply (Except Failure α)) :
    Ending (Except Failure α) :=
  let (ending, w') := perform w (freely code)
  curtailed limit ending (w'.clock - w.clock)

section Outcome

variable {w w' : World} {limit : Option Limit} {question : Node.Ask} {reply : question.Reply}
  {next : question.Reply → Work Node.Ask.Reply (Except Failure α)}

@[simp] theorem curtailed_zero (limit : Option Limit) (result : Except Failure α) :
    curtailed limit (.returned result) 0 = .returned result := by
  cases limit <;> simp [curtailed]

@[simp] theorem outcome_done (w : World) (limit : Option Limit) (result : Except Failure α) :
    outcome limit w (.done result) = .returned result := by
  change curtailed limit (.returned result) (w.clock - w.clock) = _
  rw [Nat.sub_self, curtailed_zero]

@[simp] theorem outcome_panic (w : World) (limit : Option Limit) (payload : Option String) :
    outcome limit w (.panic payload : Work Node.Ask.Reply (Except Failure α)) =
      .returned (.error (.execution (panicText payload))) := by
  change curtailed limit (.panicked payload) (w.clock - w.clock) = _
  cases limit <;> simp [curtailed]

theorem outcome_stuck (h : w.answer (.within question) = none) :
    outcome limit w (.ask question next) = curtailed limit .stuck 0 := by
  simp [outcome, freely, perform, h]

/-- A question that is answered takes its time from the limit. -/
theorem outcome_ask {millis : Nat} (h : w.answer (.within question) = some (reply, w'))
    (took : w'.clock = w.clock + millis) (room : ∀ l, limit = some l → millis ≤ l.left) :
    outcome limit w (.ask question next) =
      outcome (limit.map (Limit.after millis)) w' (next reply) := by
  have hle := clock_le_perform w' (freely (next reply))
  simp only [outcome, freely, perform, h]
  rw [curtailed_after limit _ room]
  congr 1
  omega

theorem outcome_ask_at_once (h : w.answer (.within question) = some (reply, w'))
    (took : w'.clock = w.clock) :
    outcome limit w (.ask question next) = outcome limit w' (next reply) := by
  simp only [outcome, freely, perform, h, took]

/-- An answer that comes after the limit comes too late. -/
theorem outcome_late {l : Limit} (h : w.answer (.within question) = some (reply, w'))
    (late : w.clock + l.left < w'.clock) :
    outcome (some l) w (.ask question next) = .returned (.error (.timeout l.total)) := by
  have hle := clock_le_perform w' (freely (next reply))
  simp only [outcome, freely, perform, h, curtailed]
  rw [if_pos (by omega)]

end Outcome

end RunWork

section Guarded

variable {w u w' : World} {limit : Option Limit} {ending : Ending (Except Failure α)}

theorem perform_guarded_awaitCancel (w : World) (limit : Option Limit) (millis : Option Nat)
    (next : Node.Fired → Work Node.Ask.Reply (Except Failure α)) :
    perform w (guarded limit (.ask (.awaitCancel millis) next)) =
      perform w.moment (if w.moment.cancelled then guarded limit (next true) else
        match millis with
        | none => pauseForGood limit
        | some millis => pause limit millis fun left => guarded left (next false)) := by
  cases millis <;> rfl

/-- Once the token has fired, an attempt is cancelled or comes to what its code comes to. -/
theorem guarded_fired (akin : w.Akin u) (hw : w.cancelled = true) (hu : u.cancelled = true)
    (code : Work Node.Ask.Reply (Except Failure α))
    (h : perform w (guarded limit code) = (ending, w')) :
    ending = .returned (.error .cancelled) ∨ ending = outcome limit u code := by
  induction code generalizing w u with
  | done result =>
    cases h
    exact .inr (outcome_done _ _ _).symm
  | panic payload =>
    cases h
    exact .inr (outcome_panic _ _ _).symm
  | ask question next ih =>
    have hmw : w.moment.cancelled = true := (World.Later.moment w).cancelled hw
    have hmu : u.moment.cancelled = true := (World.Later.moment u).cancelled hu
    have hclock : u.moment.clock = u.clock := (World.Akin.moment u).clock
    have promptly (instant : question.Instant) :
        ending = .returned (.error .cancelled) ∨ ending = outcome limit u (.ask question next) := by
      obtain ⟨⟨reply, w₁⟩, ha⟩ := Option.isSome_iff_exists.mp (instant.prompt.answered w.moment)
      have ha : w.answer (.within question) = some (reply, w₁) := ha
      have hw₁ := (World.Later.answer ha).cancelled hw
      obtain ⟨u₁, hau, akin₁, hu₁⟩ := akin.answer_fired hmu ha instant hw₁
      rw [guarded_of_instant instant] at h
      unfold perform at h
      simp only [ha] at h
      rw [outcome_ask_at_once hau ((World.clock_answerWithin hau instant).trans hclock)]
      exact ih reply akin₁ hw₁ hu₁ h
    cases question
    case sleep millis =>
      have slept := World.Akin.slept u.moment millis
      have hau : u.answer (.within (.sleep millis)) = some ((), u.moment.sleep millis) := rfl
      rw [guarded] at h
      split at h
      next hz =>
        subst hz
        rw [outcome_ask_at_once hau (slept.clock.trans hclock)]
        have akin₁ := (akin.trans (.moment u)).trans slept
        exact ih () akin₁ hw ((World.Later.sleep 0 u.moment).cancelled hmu) h
      next =>
        -- Where nothing is left of the limit, it is looked at before the token.
        rcases pause_cases h with ⟨hc, _⟩ | ⟨l, rfl, late, he⟩ | ⟨calm, _⟩
        · exact .inl hc
        · refine .inr (he.trans (outcome_late hau ?_).symm)
          rw [slept.clock]
          change _ < u.moment.clock + millis
          omega
        · simp [hmw] at calm
    case awaitCancel millis =>
      have hau : u.answer (.within (.awaitCancel millis)) = some (true, u.moment) :=
        if_pos hmu
      rw [perform_guarded_awaitCancel, if_pos hmw] at h
      rw [outcome_ask_at_once hau hclock]
      exact ih true akin.moments hmw hmu h
    case hang => exact (pauseForGood_cases h).imp And.left fun he => he.trans (outcome_stuck rfl).symm
    all_goals exact promptly trivial

/-- How an attempt may end: the token has it cancelled, or it comes to what its code comes to where
nothing but the limit cuts it short and the token fires at some question of it, or at none. -/
def RunWork.Foreseen (limit : Option Limit) (u : World)
    (code : Work Node.Ask.Reply (Except Failure α)) (ending : Ending (Except Failure α))
    (fired : Bool) : Prop :=
  ending = .returned (.error .cancelled) ∧ fired = true ∨
    ∃ k, ending = outcome limit (u.firesAt k) code ∧ (fired = false → k = none)

namespace RunWork.Foreseen

variable {question : Node.Ask} {reply : question.Reply} {u₁ : World} {fired : Bool}
  {next : question.Reply → Work Node.Ask.Reply (Except Failure α)}

/-- A question before the token fires. -/
theorem step {millis : Nat} (silent : u.Silent)
    (ha : u.answer (.within question) = some (reply, u₁)) (calm : u₁.cancelled = false)
    (took : u₁.clock = u.clock + millis) (room : ∀ l, limit = some l → millis ≤ l.left)
    (h : Foreseen (limit.map (Limit.after millis)) u₁ (next reply) ending fired) :
    Foreseen limit u (.ask question next) ending fired := by
  refine h.imp id fun ⟨k, he, hk⟩ => ⟨k.map (· + 1), ?_, fun hf => by rw [hk hf]; rfl⟩
  rw [outcome_ask (silent.answer_firesAt k ha calm) took room]
  exact he

/-- The question at which the token fires. -/
theorem fires (ha : (u.firesAt (some 0)).answer (.within question) = some (reply, u₁))
    (akin : w.Akin u₁) (hw : w.cancelled = true) (hu : u₁.cancelled = true)
    (took : u₁.clock = u.clock) (h : perform w (guarded limit (next reply)) = (ending, w')) :
    Foreseen limit u (.ask question next) ending w'.cancelled := by
  have hf := (later_of_perform h).cancelled hw
  rcases guarded_fired akin hw hu _ h with hc | he
  · exact .inl ⟨hc, hf⟩
  · refine .inr ⟨some 0, ?_, fun calm => by simp [calm] at hf⟩
    rw [outcome_ask_at_once ha took]
    exact he

theorem late {l : Limit} (silent : u.Silent)
    (ha : u.answer (.within question) = some (reply, u₁)) (hl : u.clock + l.left < u₁.clock)
    (he : ending = .returned (.error (.timeout l.total))) :
    Foreseen (some l) u (.ask question next) ending fired := by
  refine .inr ⟨none, ?_, fun _ => rfl⟩
  rw [silent.firesAt_none, outcome_late ha hl]
  exact he

theorem stuck (silent : u.Silent) (ha : u.answer (.within question) = none)
    (h : perform w (pauseForGood limit) = (ending, w')) :
    Foreseen limit u (.ask question next) ending w'.cancelled := by
  refine (pauseForGood_cases h).imp id fun he => ⟨none, ?_, fun _ => rfl⟩
  rw [silent.firesAt_none, outcome_stuck ha]
  exact he

end RunWork.Foreseen

/-- An attempt takes one of the courses of its code, or it is cancelled. -/
theorem guarded_foreseen (akin : w.Akin u) (calm : w.cancelled = false) (silent : u.Silent)
    (code : Work Node.Ask.Reply (Except Failure α))
    (h : perform w (guarded limit code) = (ending, w')) :
    Foreseen limit u code ending w'.cancelled := by
  induction code generalizing w u limit with
  | done result =>
    cases h
    exact .inr ⟨none, (outcome_done _ _ _).symm, fun _ => rfl⟩
  | panic payload =>
    cases h
    exact .inr ⟨none, (outcome_panic _ _ _).symm, fun _ => rfl⟩
  | ask question next ih =>
    have hclock : u.moment.clock = u.clock := (World.Akin.moment u).clock
    have at_once (l : Limit) (_ : limit = some l) : 0 ≤ l.left := Nat.zero_le _
    have hzero : limit.map (Limit.after 0) = limit := Option.map_id'
    -- A pause is one question to the code, and counts towards the limit.
    have wait {reply : question.Reply} {millis : Nat} {w₀ u₁ : World}
        (ha : u.answer (.within question) = some (reply, u₁)) (silent₁ : u₁.Silent)
        (akin₁ : { w₀ with clock := w₀.clock + millis }.Akin u₁)
        (took : u₁.clock = u.clock + millis)
        (hp : perform w₀ (pause limit millis fun left => guarded left (next reply)) =
          (ending, w')) : Foreseen limit u (.ask question next) ending w'.cancelled := by
      rcases pause_cases hp with fired | ⟨l, rfl, late, he⟩ | ⟨calm₁, room, hr⟩
      · exact .inl fired
      · exact .late silent ha (by omega) he
      · have paused := (World.Akin.moment w₀).pass millis
        exact .step silent ha silent₁.cancelled took room
          (ih reply (paused.symm.trans akin₁) calm₁ silent₁ hr)
    have promptly (instant : question.Instant) :
        Foreseen limit u (.ask question next) ending w'.cancelled := by
      obtain ⟨⟨reply, w₁⟩, ha⟩ := Option.isSome_iff_exists.mp (instant.prompt.answered w.moment)
      have ha : w.answer (.within question) = some (reply, w₁) := ha
      rw [guarded_of_instant instant] at h
      unfold perform at h
      simp only [ha] at h
      cases hw₁ : w₁.cancelled with
      | false =>
        obtain ⟨u₁, hau, akin₁, silent₁⟩ := akin.answer_silent silent ha hw₁
        have took : u₁.clock = u.clock + 0 := (World.clock_answerWithin hau instant).trans hclock
        exact .step silent hau silent₁.cancelled took at_once
          (ih reply akin₁ hw₁ silent₁ (hzero.symm ▸ h))
      | true =>
        obtain ⟨u₁, hau, akin₁, hu₁⟩ := (akin.trans (.firesAt (some 0) u)).answer_fired
          u.moment_firesAt_zero ha instant hw₁
        have took := (World.clock_answerWithin hau instant).trans (World.Akin.moment _).clock
        exact .fires hau akin₁ hw₁ hu₁ took h
    cases question
    case sleep millis =>
      have slept := World.Akin.slept u.moment millis
      have ha : u.answer (.within (.sleep millis)) = some ((), u.moment.sleep millis) := rfl
      have took : (u.moment.sleep millis).clock = u.clock + millis := by rw [slept.clock, ← hclock]
      have silent₁ := silent.moment.sleep millis
      have akin₁ := ((akin.trans (.moment u)).pass millis).trans slept
      rw [guarded] at h
      split at h
      next hz =>
        subst hz
        exact .step silent ha silent₁.cancelled took at_once
          (ih () akin₁ calm silent₁ (hzero.symm ▸ h))
      next => exact wait ha silent₁ akin₁ took h
    case awaitCancel millis =>
      rw [perform_guarded_awaitCancel] at h
      cases hm : w.moment.cancelled with
      | true =>
        rw [if_pos hm] at h
        have hu := u.moment_firesAt_zero
        have akin₁ := (akin.trans (.firesAt (some 0) u)).moments
        exact .fires (if_pos hu) akin₁ hm hu (World.Akin.moment _).clock h
      | false =>
        rw [if_neg (by simp [hm])] at h
        have silent₁ := silent.moment
        cases millis with
        | none =>
          refine .stuck silent ?_ h
          simp [World.answer, World.answerWithin, World.awaitCancel, World.alarmWithin?,
            silent₁.cancelled, silent₁.alarm]
        | some millis =>
          have ha : u.answer (.within (.awaitCancel (some millis))) = some (false, _) :=
            silent₁.awaitCancel millis
          exact wait ha ⟨silent₁.alarm, silent₁.cancelled⟩ (akin.moments.pass millis)
            (congrArg (· + millis) hclock) h
    case hang => exact .stuck silent rfl h
    all_goals exact promptly trivial

/-- An attempt in which the token does not fire comes to what its code comes to by itself. -/
theorem guarded_calm (akin : w.Akin u) (silent : u.Silent)
    (code : Work Node.Ask.Reply (Except Failure α))
    (h : perform w (guarded limit code) = (ending, w')) (calm : w'.cancelled = false) :
    ending = outcome limit u code := by
  rcases guarded_foreseen akin ((later_of_perform h).calm calm) silent code h with
    ⟨_, fired⟩ | ⟨k, he, hk⟩
  · simp [calm] at fired
  · rw [hk calm, silent.firesAt_none] at he
    exact he

end Guarded

/-- A call of a node's code for an item comes to what the code comes to by itself, unless that
takes longer than the limit. -/
theorem call_eq_curtailed {node : Node} {ctx : Context} {w w' : World} {limit : Option Nat}
    {index number : Nat} {ending : Ending (Except Failure Output)}
    (h : perform w (call node ctx limit index number) = (ending, w')) (calm : w'.cancelled = false) :
    let alone := course (w.note (.began (.attempt ctx.nodeId ctx.inputs index number)))
      (node.run ctx index number)
    ending = curtailed (limit.map Limit.of) alone.1 alone.2 := by
  let begun := w.note (.began (.attempt ctx.nodeId ctx.inputs index number))
  have hb : perform begun (guarded (limit.map Limit.of) (node.run ctx index number)) =
      (ending, w') := h
  have silent := World.silent_silenced ((later_of_perform hb).calm calm)
  exact guarded_calm (.silenced begun) silent _ hb calm

/-- Node code that never looks at the token. -/
structure NodeWork.Blind (work : NodeWork α) : Prop where
  asks : Asks Run.Ask.Blind True (freely work.run)

/-- Node code that the token can only make give up: wherever the token fires, a call comes to what it
comes to where the token does not fire, or says that it was cancelled. -/
def RunWork.Unswayed (limit : Option Limit) (code : Work Node.Ask.Reply (Except Failure α)) : Prop :=
  ∀ w : World, w.cancelled = false → outcome limit w code = outcome limit w.silenced code ∨
    outcome limit w code = .returned (.error .cancelled)

/-- A node whose setup never looks at the token, and whose code the token can only make give up.
What a call comes to includes that the time limit cuts it short. -/
structure RunWork.Steadfast (node : Node) (ctx : Context) (limit : Option Nat) : Prop where
  setup : (node.setup ctx).Blind
  attempt : ∀ index number, Unswayed (limit.map Limit.of) (node.run ctx index number)

end Conveyor
