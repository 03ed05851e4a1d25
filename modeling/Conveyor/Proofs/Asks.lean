import Conveyor.Proofs.Perform

namespace Conveyor
open RunWork

/-- Whatever the replies, only questions of a kind are asked, and nothing breaks down unless that
is allowed. -/
def RunWork.Asks {α : Type} (Q : Run.Ask → Prop) (panics : Prop) : RunWork α → Prop
  | .done _ => True
  | .panic _ => panics
  | .ask question next => Q question ∧ ∀ reply, Asks Q panics (next reply)

/-- Questions of node code to which there is always a reply. -/
def Node.Ask.Prompt : Node.Ask → Prop
  | awaitCancel none | hang => False
  | _ => True

namespace RunWork.Asks

variable {α β : Type} {Q : Run.Ask → Prop} {panics : Prop}

theorem bind {work : RunWork α} {next : α → RunWork β} (h : Asks Q panics work)
    (hn : ∀ value, Asks Q panics (next value)) : Asks Q panics (work >>= next) := by
  induction work with
  | done value => exact hn value
  | panic payload => exact h
  | ask question more ih => exact ⟨h.1, fun reply => ih reply (h.2 reply)⟩

theorem question {question : Run.Ask} (h : Q question) :
    Asks Q panics (Work.question question : RunWork question.Reply) :=
  ⟨h, fun _ => trivial⟩

theorem ite {c : Bool} {yes no : RunWork α} (hy : Asks Q panics yes) (hn : Asks Q panics no) :
    Asks Q panics (if c then yes else no) := by
  split
  · exact hy
  · exact hn

theorem freely (within : ∀ question, Q (.within question)) (work : Work Node.Ask.Reply α) :
    Asks Q True (RunWork.freely work) := by
  induction work with
  | done value => trivial
  | panic payload => trivial
  | ask question next ih => exact ⟨within question, ih⟩

section Guarded

variable (prompt : ∀ question : Node.Ask, question.Prompt → Q (.within question))
include prompt

theorem awaitCancel (millis : Nat) : Asks Q panics (RunWork.awaitCancel (some millis)) :=
  question (prompt _ trivial)

/-- A pause leaves an attempt that has a limit one, and one that has none without. -/
theorem pause (limit : Option Limit) (millis : Nat)
    {next : Option Limit → RunWork (Except Failure α)}
    (hn : ∀ left : Option Limit, (left = none → limit = none) → Asks Q panics (next left)) :
    Asks Q panics (RunWork.pause limit millis next) := by
  unfold RunWork.pause
  split
  · exact (awaitCancel prompt _).bind fun _ => ite trivial (hn _ id)
  · split
    · exact (awaitCancel prompt _).bind fun _ => ite trivial (hn _ nofun)
    · split
      · trivial
      · exact (awaitCancel prompt _).bind fun _ => ite trivial trivial

theorem pauseForGood (limit : Option Limit)
    (endless : limit = none → Q (.within (.awaitCancel none))) :
    Asks Q panics (RunWork.pauseForGood limit : RunWork (Except Failure α)) := by
  unfold RunWork.pauseForGood
  split
  · exact (question (endless rfl)).bind fun _ => trivial
  · split
    · trivial
    · exact (awaitCancel prompt _).bind fun _ => ite trivial trivial

/-- An attempt asks nothing but what is always answered, save that without a limit it may wait
for the token alone. It never breaks down. -/
theorem guarded (limit : Option Limit) (work : Work Node.Ask.Reply (Except Failure α))
    (endless : limit = none → Q (.within (.awaitCancel none))) :
    Asks Q panics (RunWork.guarded limit work) := by
  induction work generalizing limit with
  | done value => trivial
  | panic payload => trivial
  | ask question next ih =>
    cases question
    case sleep millis =>
      rw [RunWork.guarded]
      split
      · exact ih () limit endless
      · exact pause prompt limit millis fun left hl => ih () left fun h => endless (hl h)
    case awaitCancel millis =>
      cases millis with
      | none =>
        exact ⟨prompt _ trivial, fun _ => ite (ih true limit endless)
          (pauseForGood prompt limit endless)⟩
      | some millis =>
        exact ⟨prompt _ trivial, fun _ => ite (ih true limit endless)
          (pause prompt limit millis fun left hl => ih false left fun h => endless (hl h))⟩
    case hang => exact pauseForGood prompt limit endless
    all_goals exact ⟨prompt _ trivial, fun reply => ih reply limit endless⟩

end Guarded

end RunWork.Asks

theorem Node.Ask.Prompt.answered {question : Node.Ask} (h : question.Prompt) (w : World) :
    (w.answerWithin question).isSome := by
  cases question
  case awaitCancel limit =>
    cases limit with
    | none => cases h
    | some millis =>
      obtain ⟨w', ha⟩ := w.awaitCancel_some millis
      simp [World.answerWithin, ha]
  case hang => cases h
  all_goals rfl

/-- Work that cannot break down returns, unless it gets stuck at a question. -/
theorem perform_of_asks {α : Type} {Q : Run.Ask → Prop} {work : RunWork α} (h : Asks Q False work)
    (w : World) (ends : (∀ question (w : World), Q question → (w.answer question).isSome) ∨
      (perform w work).1 ≠ .stuck) : Returns w work fun _ => True := by
  induction work generalizing w with
  | done value => exact ⟨value, w, rfl, trivial⟩
  | panic payload => exact h.elim
  | ask question next ih =>
    cases ha : w.answer question with
    | none =>
      rcases ends with answered | unstuck
      · simpa [ha] using answered question w h.1
      · simp [perform, ha] at unstuck
    | some answered =>
      obtain ⟨reply, between⟩ := answered
      have hp : perform w (.ask question next) = perform between (next reply) := by
        simp [perform, ha]
      rw [Returns, hp]
      exact ih reply (h.2 reply) between (ends.imp id fun unstuck => hp ▸ unstuck)

/-- A call of a node's code for an item returns, whatever the code does: a limit cuts it short.
Where there is no limit, it must not wait for what never comes. -/
theorem call_returns {node : Node} {ctx : Context} {limit : Option Nat} {index number : Nat}
    {w : World}
    (ends : limit = none → (perform w (RunWork.call node ctx limit index number)).1 ≠ .stuck) :
    Returns w (RunWork.call node ctx limit index number) fun _ => True := by
  cases limit with
  | none =>
    refine perform_of_asks (Q := fun _ => True) ?_ w (.inr (ends rfl))
    exact (Asks.question trivial).bind fun _ => .guarded (fun _ _ => trivial) _ _ fun _ => trivial
  | some millis =>
    refine perform_of_asks (Q := fun question => ∀ w : World, (w.answer question).isSome) ?_ w
      (.inl fun question w answered => answered w)
    refine (Asks.question fun w => rfl).bind fun _ => ?_
    exact .guarded (fun question h (w : World) => h.answered w.moment) _ _ nofun

end Conveyor
