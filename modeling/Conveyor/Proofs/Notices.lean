import Conveyor.Proofs.Akin
import Conveyor.Proofs.Drive

namespace Conveyor
open RunWork

variable {α : Type}

def Happening.notice? : Happening → Option Notice
  | told _ notice => some notice
  | _ => none

namespace World

variable {w w' v v' : World}

/-- What a run has told its sink since an earlier state of its surroundings, the oldest first. What
its nodes report of their own accord is not part of it. -/
def noticesSince (earlier w : World) : List Notice :=
  (earlier.since w).filterMap Happening.notice?

theorem Later.noticesSince_trans {a b c : World} (hab : a.Later b) (hbc : b.Later c) :
    a.noticesSince c = a.noticesSince b ++ b.noticesSince c := by
  rw [noticesSince, hab.since_trans hbc, List.filterMap_append]
  rfl

@[simp] theorem noticesSince_self (w : World) : w.noticesSince w = [] := by
  simp [noticesSince, since]

/-- A step tells the sink what its question is to tell, and no more. -/
theorem noticesSince_answer {question : Run.Ask} {reply : question.Reply}
    (h : w.answer question = some (reply, w')) :
    w.noticesSince w' = ((question.entry w reply).bind Happening.notice?).toList :=
  filterMap_since_answer rfl h

theorem noticesSince_told (w : World) (notice : Notice) :
    w.noticesSince (w.told notice) = [notice] := by
  have ha : w.answer (.notify notice) = some (_, w.told notice) := rfl
  exact noticesSince_answer ha

theorem noticesSince_moment (w : World) : w.noticesSince w.moment = [] := by
  have ha : w.answer .now = some (w.clock, w.moment) := rfl
  exact noticesSince_answer ha

theorem noticesSince_moment_told (w : World) (notice : Notice) :
    w.noticesSince (w.moment.told notice) = [notice] := by
  rw [(Later.moment w).noticesSince_trans (.told _ _), noticesSince_moment, noticesSince_told]
  rfl

end World

theorem Run.Ask.entry_notice {question : Run.Ask} (h : ∀ notice, question ≠ .notify notice)
    (w : World) (reply : question.Reply) :
    (question.entry w reply).bind Happening.notice? = none := by
  cases question
  case within question => cases question <;> rfl
  case notify notice => exact absurd rfl (h notice)
  all_goals rfl

/-- Work that tells the sink nothing. -/
def RunWork.Mute (work : RunWork α) : Prop :=
  Asks (fun question => ∀ notice, question ≠ .notify notice) True work

theorem noticesSince_of_mute {w w' : World} {work : RunWork α} {ending : Ending α}
    (h : perform w work = (ending, w')) (mute : Mute work) : w.noticesSince w' = [] := by
  induction work generalizing w with
  | done value =>
    cases h
    exact World.noticesSince_self _
  | panic payload =>
    cases h
    exact World.noticesSince_self _
  | ask question next ih =>
    unfold perform at h
    split at h
    · cases h
      exact World.noticesSince_self _
    next reply between ha =>
      have hstep : w.noticesSince between = [] := by
        rw [World.noticesSince_answer ha, Run.Ask.entry_notice mute.1]
        rfl
      rw [(World.Later.answer ha).noticesSince_trans (later_of_perform h), hstep,
        ih reply h (mute.2 reply)]
      rfl

theorem node_mute (node : Node) (ctx : Context) (limit : Option Nat)
    (policy : Option RetryPolicy) : Mute (RunWork.node node ctx limit policy) :=
  node_asks (fun _ => nofun) (fun _ _ => nofun) (fun _ => nofun) policy

namespace Executor

variable {executor : Executor} {workflow : Workflow} {plan : Plan} {cast : List (Placed × Node)}
  {id : Uuid} {trigger : List Item} {finished : Finished} {w w' : World}

/-- What the sink is told of the turn of a position that ends in some way. -/
def tidings (cast : List (Placed × Node)) (position : Nat) :
    Ending (Except Fatal Finished) → List Notice
  | .returned (.ok after) =>
    match cast[position]?, after.getLast? with
    | some (placed, _), some (_, output) =>
      [.nodeFinished placed.id placed.type output !output.anyError]
    | _, _ => []
  | _ => []

/-- The sink is told of a node's output when its turn is over, and of nothing if there is none. -/
theorem turn_notices {position : Nat} {ending : Ending (Except Fatal Finished)}
    (h : perform w (executor.turn id workflow plan trigger cast position finished) =
      (ending, w')) : w.noticesSince w' = tidings cast position ending := by
  have hm := World.Later.moment w
  unfold turn at h
  rw [perform_bind_of_returned (perform_isCancelled w)] at h
  have later := later_of_perform h
  rw [hm.noticesSince_trans later, World.noticesSince_moment, List.nil_append]
  split at h
  · cases h
    exact World.noticesSince_self _
  split at h
  · cases h
    exact World.noticesSince_self _
  next placed node hat =>
    split at h
    · cases h
      exact World.noticesSince_self _
    next given _ =>
      have mute := node_mute node (executor.context id placed node given) executor.itemTimeout
        placed.retryPolicy
      rw [perform_bind] at h
      split at h
      next outcome between hr =>
        have hnone := noticesSince_of_mute hr mute
        cases outcome with
        | error fault =>
          cases h
          exact hnone
        | ok output =>
          rw [perform_bind_of_returned (perform_notify _ _)] at h
          obtain ⟨he, hw⟩ := Prod.mk.inj h
          rw [← he, ← hw, (later_of_perform hr).noticesSince_trans (.told _ _), hnone,
            World.noticesSince_told, tidings, hat]
          simp
      next payload between hr =>
        cases h
        exact noticesSince_of_mute hr mute
      next between hr =>
        cases h
        exact noticesSince_of_mute hr mute

end Executor

end Conveyor
