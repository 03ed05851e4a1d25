import Conveyor.Executor
import Conveyor.World

namespace Conveyor
open RunWork

variable {α β γ : Type}

/-- A sequence is performed part by part; what does not return ends all of it. -/
theorem perform_bind (w : World) (work : RunWork α) (next : α → RunWork β) :
    perform w (work >>= next) =
      match perform w work with
      | (.returned value, w') => perform w' (next value)
      | (.panicked payload, w') => (.panicked payload, w')
      | (.stuck, w') => (.stuck, w') := by
  induction work generalizing w with
  | done value => rfl
  | panic payload => rfl
  | ask question more ih =>
    change perform w (.ask question fun reply => more reply >>= next) = _
    cases ha : w.answer question with
    | none => simp [perform, ha]
    | some answered => simp [perform, ha, ih]

theorem perform_bind_of_returned {w w' : World} {work : RunWork α} {value : α}
    (h : perform w work = (.returned value, w')) (next : α → RunWork β) :
    perform w (work >>= next) = perform w' (next value) := by
  rw [perform_bind, h]

theorem returned_of_bind {w w' : World} {work : RunWork α} {next : α → RunWork β} {value : β}
    (h : perform w (work >>= next) = (.returned value, w')) :
    ∃ first between, perform w work = (.returned first, between) ∧
      perform between (next first) = (.returned value, w') := by
  rw [perform_bind] at h
  split at h
  next first between hf => exact ⟨first, between, hf, h⟩
  all_goals simp at h

def Ending.map (f : α → β) : Ending α → Ending β
  | returned value => returned (f value)
  | panicked payload => panicked payload
  | stuck => stuck

theorem perform_map (w : World) (work : RunWork α) (f : α → β) :
    perform w (work >>= fun value => pure (f value)) =
      ((perform w work).1.map f, (perform w work).2) := by
  rw [perform_bind]
  rcases perform w work with ⟨ending, w'⟩
  cases ending <;> rfl

theorem perform_question (w : World) (question : Run.Ask) :
    perform w (Work.question question : RunWork question.Reply) =
      match w.answer question with
      | none => (.stuck, w)
      | some (reply, w') => (.returned reply, w') := by
  cases ha : w.answer question <;> simp [Work.question, perform, ha]

@[simp] theorem perform_isCancelled (w : World) :
    perform w isCancelled = (.returned w.moment.cancelled, w.moment) := rfl

@[simp] theorem perform_now (w : World) : perform w now = (.returned w.clock, w.moment) := rfl

/-- The surroundings after the sink was told of something. -/
def World.told (w : World) (notice : Notice) : World :=
  (w.moment.callback (.told w.clock notice)).2

@[simp] theorem perform_notify (w : World) (notice : Notice) :
    perform w (notify notice) = (.returned (), w.told notice) := rfl

/-- What surroundings may have become later: nothing that happened is undone, and a token that
fired stays so. -/
structure World.Later (w w' : World) : Prop where
  past : w.past <:+ w'.past
  cancelled : w.cancelled = true → w'.cancelled = true

namespace World.Later

theorem refl (w : World) : w.Later w := ⟨List.suffix_refl _, id⟩

theorem trans {a b c : World} (hab : a.Later b) (hbc : b.Later c) : a.Later c :=
  ⟨hab.past.trans hbc.past, fun h => hbc.cancelled (hab.cancelled h)⟩

/-- Surroundings in which the token has not fired come from such surroundings. -/
theorem calm {w w' : World} (h : w.Later w') (hc : w'.cancelled = false) : w.cancelled = false := by
  cases hw : w.cancelled with
  | false => rfl
  | true => simp [h.cancelled hw] at hc

theorem of_past_eq {w w' : World} (hp : w'.past = w.past) (hc : w'.cancelled = w.cancelled) :
    w.Later w' := ⟨by simp [hp], by simp [hc]⟩

theorem note (w : World) (happening : Happening) : w.Later (w.note happening) :=
  ⟨List.suffix_cons _ _, id⟩

theorem fire (w : World) : w.Later w.fire := by
  unfold World.fire
  split
  · exact refl w
  · exact ⟨List.suffix_cons _ _, fun _ => rfl⟩

theorem fireIf (alarm : Alarm) (w : World) : w.Later (w.fireIf alarm) := by
  unfold World.fireIf
  split
  · exact fire w
  · exact refl w

theorem moment (w : World) : w.Later w.moment :=
  (fireIf _ w).trans (of_past_eq rfl rfl)

theorem callback (w : World) (happening : Happening) : w.Later (w.callback happening).2 :=
  (fireIf _ w).trans (note _ _)

theorem told (w : World) (notice : Notice) : w.Later (w.told notice) :=
  (moment w).trans (callback _ _)

theorem sleep (millis : Nat) (w : World) : w.Later (w.sleep millis) := by
  unfold World.sleep
  split
  · exact (fire w).trans (of_past_eq rfl rfl)
  · exact of_past_eq rfl rfl

theorem awaitCancel {limit : Option Nat} {w w' : World} {fired : Node.Fired}
    (h : w.awaitCancel limit = some (fired, w')) : w.Later w' := by
  unfold World.awaitCancel at h
  split at h
  · simp only [Option.some.injEq, Prod.mk.injEq] at h
    exact h.2 ▸ refl w
  · split at h
    · simp only [Option.some.injEq, Prod.mk.injEq] at h
      exact h.2 ▸ (fire w).trans (of_past_eq rfl rfl)
    · simp only [Option.some.injEq, Prod.mk.injEq] at h
      exact h.2 ▸ of_past_eq rfl rfl
    · simp at h

theorem answerWithin {w w' : World} {question : Node.Ask} {reply : question.Reply}
    (h : w.answerWithin question = some (reply, w')) : w.Later w' := by
  cases question
  case awaitCancel limit => exact awaitCancel h
  case hang => simp [World.answerWithin] at h
  all_goals
    simp only [World.answerWithin, World.callback, Option.some.injEq, Prod.mk.injEq] at h
    obtain ⟨_, rfl⟩ := h
  case sleep => exact sleep _ w
  case cancel => exact fire w
  case isCancelled => exact refl w
  case report => exact callback w _
  case send => exact note w _
  case sign => exact note w _

theorem answer {w w' : World} {question : Run.Ask} {reply : question.Reply}
    (h : w.answer question = some (reply, w')) : w.Later w' := by
  cases question
  case within question => exact (moment w).trans (answerWithin h)
  all_goals
    simp only [World.answer, World.callback, Option.some.injEq, Prod.mk.injEq] at h
    obtain ⟨_, rfl⟩ := h
  case «begin» => exact note w _
  case notify => exact told w _
  case now => exact moment w

end World.Later

theorem perform_later (w : World) (work : RunWork α) : w.Later (perform w work).2 := by
  induction work generalizing w with
  | done value => exact .refl w
  | panic payload => exact .refl w
  | ask question next ih =>
    unfold perform
    split
    · exact .refl w
    next reply w' ha => exact (World.Later.answer ha).trans (ih reply w')

theorem later_of_perform {w w' : World} {work : RunWork α} {ending : Ending α}
    (h : perform w work = (ending, w')) : w.Later w' := by
  simpa [h] using perform_later w work

/-- A wait for the token tells whether it has fired by then. -/
theorem World.cancelled_awaitCancel {w w' : World} {limit : Option Nat} {fired : Node.Fired}
    (h : w.awaitCancel limit = some (fired, w')) : fired = w'.cancelled := by
  unfold World.awaitCancel at h
  split at h
  next hw =>
    cases h
    exact hw.symm
  next hw =>
    split at h
    · cases h
      unfold World.fire
      split <;> simp_all
    · cases h
      simpa using hw
    · cases h

theorem World.awaitCancel_some (w : World) (millis : Nat) :
    ∃ w', w.awaitCancel (some millis) = some (w'.cancelled, w') := by
  have hs : (w.awaitCancel (some millis)).isSome := by
    unfold World.awaitCancel
    repeat' split
    all_goals first | rfl | contradiction
  obtain ⟨⟨fired, w'⟩, ha⟩ := Option.isSome_iff_exists.mp hs
  exact ⟨w', cancelled_awaitCancel ha ▸ ha⟩

/-- A wait that has a limit ends, with the token or without. -/
theorem perform_awaitCancel (w : World) (millis : Nat) :
    ∃ w', w.answer (.within (.awaitCancel (some millis))) = some (w'.cancelled, w') ∧
      perform w (awaitCancel (some millis)) = (.returned w'.cancelled, w') := by
  obtain ⟨w', ha⟩ := w.moment.awaitCancel_some millis
  have hq : w.answer (.within (.awaitCancel (some millis))) = some (w'.cancelled, w') := ha
  exact ⟨w', hq, (perform_question w _).trans (by rw [hq])⟩

/-- Persistence ends with an attempt; or the attempt fails and there is a wait, in which the token
fires, or after which it goes on. -/
theorem persist_cases {node : Node} {ctx : Context} {limit : Option Nat} {p : RetryPolicy}
    {index number more : Nat} {w w' : World} {ending : Ending (Except Failure Output)}
    (h : perform w (persist node ctx limit p index number (more + 1)) = (ending, w')) :
    ∃ first failed, perform w (attempt node ctx limit index number) = (first, failed) ∧
      ((first = ending ∧ failed = w' ∧ ∀ e, ending = .returned (.error e) → e = .cancelled) ∨
        ∃ e waited, first = .returned (.error e) ∧ e ≠ .cancelled ∧
          perform failed (awaitCancel (some (Node.nap (p.delayFor number)))) =
            (.returned waited.cancelled, waited) ∧
          ((waited.cancelled = true ∧ ending = .returned (.error .cancelled) ∧ waited = w') ∨
            (waited.cancelled = false ∧
              perform waited (persist node ctx limit p index (number + 1) more) =
                (ending, w')))) := by
  rcases tried : perform w (attempt node ctx limit index number) with ⟨first, failed⟩
  refine ⟨first, failed, rfl, ?_⟩
  rw [persist, perform_bind, tried] at h
  cases first with
  | panicked payload | stuck =>
    cases h
    exact .inl ⟨rfl, rfl, fun e he => by cases he⟩
  | returned outcome =>
    dsimp only at h
    split at h
    · cases h
      exact .inl ⟨rfl, rfl, fun e he => by cases he⟩
    · cases h
      exact .inl ⟨rfl, rfl, fun e he => by cases he; rfl⟩
    next e he =>
      obtain ⟨waited, _, pause⟩ := perform_awaitCancel failed (Node.nap (p.delayFor number))
      refine .inr ⟨e, waited, rfl, he, pause, ?_⟩
      rw [perform_bind_of_returned pause] at h
      cases hf : waited.cancelled with
      | true =>
        rw [hf] at h
        cases h
        exact .inl ⟨rfl, rfl, rfl⟩
      | false =>
        rw [hf] at h
        exact .inr ⟨rfl, h⟩

/-- Whether a computation came to its end, and without an error. -/
def Ending.isOk {ε : Type} : Ending (Except ε α) → Bool
  | returned (.ok _) => true
  | _ => false

theorem ok_of_isOk {ε : Type} {w : World} {work : RunWork (Except ε α)}
    (h : (perform w work).1.isOk = true) :
    ∃ value w', perform w work = (.returned (.ok value), w') := by
  rcases hp : perform w work with ⟨ending, w'⟩
  rw [hp] at h
  match ending, h with
  | .returned (.ok value), _ => exact ⟨value, w', rfl⟩

/-- Whether a computation broke down without a word. -/
def Ending.isBroken : Ending α → Bool
  | panicked none => true
  | _ => false

theorem broken_of_isBroken {w : World} {work : RunWork α} (h : (perform w work).1.isBroken = true) :
    ∃ w', perform w work = (.panicked none, w') := by
  rcases hp : perform w work with ⟨ending, w'⟩
  rw [hp] at h
  match ending, h with
  | .panicked none, _ => exact ⟨w', rfl⟩

/-- A computation comes to its end in given surroundings, with a value of a kind. -/
def Returns (w : World) (work : RunWork α) (P : α → Prop) : Prop :=
  ∃ value w', perform w work = (.returned value, w') ∧ P value

theorem Returns.pure {w : World} {value : α} {P : α → Prop} (h : P value) :
    Returns w (pure value : RunWork α) P := ⟨value, w, rfl, h⟩

/-- To perform `run` in `w` is, at some point, to perform `part` in the surroundings that have
come about by then. -/
inductive Performs (w : World) (run : RunWork α) : {β : Type} → World → RunWork β → Prop
  | whole : Performs w run w run
  | first {β γ : Type} {w' : World} {part : RunWork β} {next : β → RunWork γ}
      (h : Performs w run w' (part >>= next)) : Performs w run w' part
  | rest {β γ : Type} {w' w'' : World} {part : RunWork β} {next : β → RunWork γ} {value : β}
      (h : Performs w run w' (part >>= next))
      (returned : perform w' part = (.returned value, w'')) : Performs w run w'' (next value)

namespace Performs

variable {w w' : World} {run : RunWork α} {part : RunWork β}

/-- Where the token never fires in a run, it never fires in a part of it. -/
theorem calm (h : Performs w run w' part) (hc : (perform w run).2.cancelled = false) :
    (perform w' part).2.cancelled = false := by
  induction h with
  | whole => exact hc
  | @first β γ w' part next h ih =>
    rw [perform_bind] at ih
    split at ih
    next value between hp => rw [hp]; exact (perform_later between (next value)).calm ih
    all_goals
      rename_i hp
      rwa [hp]
  | rest h returned ih =>
    rwa [perform_bind_of_returned returned] at ih

/-- A part of a run that breaks down ends all of it. -/
theorem panicked (h : Performs w run w' part) {w'' : World} {payload : Option String}
    (hp : perform w' part = (.panicked payload, w'')) :
    perform w run = (.panicked payload, w'') := by
  induction h with
  | whole => exact hp
  | first h ih => exact ih (by rw [perform_bind, hp])
  | rest h returned ih => exact ih ((perform_bind_of_returned returned _).trans hp)

end Performs

end Conveyor
