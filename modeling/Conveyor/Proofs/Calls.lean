import Conveyor.Proofs.Asks

namespace Conveyor
open RunWork

def Happening.call? : Happening → Option Call
  | began call => some call
  | _ => none

def Call.isSetup : Call → Bool
  | setup .. => true
  | attempt .. => false

namespace World

/-- The calls of node code there have been, the newest first. -/
def calls (w : World) : List Call := w.past.filterMap Happening.call?

/-- The calls of node code since an earlier state of the same surroundings, the oldest first. -/
def callsSince (earlier w : World) : List Call := (earlier.since w).filterMap Happening.call?

theorem since_of_append {earlier w : World} {new : List Happening}
    (h : w.past = new ++ earlier.past) : earlier.since w = new.reverse := by
  simp [since, h]

theorem Later.since_trans {a b c : World} (hab : a.Later b) (hbc : b.Later c) :
    a.since c = a.since b ++ b.since c := by
  obtain ⟨new, hb⟩ := hab.past
  obtain ⟨newer, hc⟩ := hbc.past
  have h : c.past = (newer ++ new) ++ a.past := by rw [List.append_assoc, hb, hc]
  rw [since_of_append h, since_of_append hb.symm, since_of_append hc.symm, List.reverse_append]

/-- Of the happenings of a kind there are those of earlier and those since. -/
theorem Later.filterMap_past {β : Type} (f : Happening → Option β) {w w' : World}
    (h : w.Later w') :
    w'.past.filterMap f = ((w.since w').filterMap f).reverse ++ w.past.filterMap f := by
  obtain ⟨new, hn⟩ := h.past
  rw [since_of_append hn.symm, ← hn, List.filterMap_append, List.filterMap_reverse,
    List.reverse_reverse]

theorem Later.callsSince_trans {a b c : World} (hab : a.Later b) (hbc : b.Later c) :
    a.callsSince c = a.callsSince b ++ b.callsSince c := by
  rw [callsSince, hab.since_trans hbc, List.filterMap_append]
  rfl

theorem Later.calls_eq {w w' : World} (h : w.Later w') :
    w'.calls = (w.callsSince w').reverse ++ w.calls := h.filterMap_past _

/-- Where the calls are the same, there were none in between. -/
theorem Later.callsSince_eq_nil {w w' : World} (h : w.Later w') (hc : w'.calls = w.calls) :
    w.callsSince w' = [] := by
  have := h.calls_eq
  rw [hc] at this
  simpa using this

@[simp] theorem callsSince_self (w : World) : w.callsSince w = [] := by
  simp [callsSince, since]

@[simp] theorem callsSince_began (w : World) (call : Call) :
    w.callsSince (w.note (.began call)) = [call] := by
  have h : w.since (w.note (.began call)) = [.began call].reverse := since_of_append rfl
  rw [callsSince, h]
  rfl

@[simp] theorem calls_fire (w : World) : w.fire.calls = w.calls := by
  unfold fire
  split <;> rfl

@[simp] theorem calls_fireIf (alarm : Alarm) (w : World) : (w.fireIf alarm).calls = w.calls := by
  unfold fireIf
  split
  · exact calls_fire w
  · rfl

@[simp] theorem calls_moment (w : World) : w.moment.calls = w.calls :=
  calls_fireIf (.question w.asked) w

@[simp] theorem calls_told (w : World) (notice : Notice) : (w.told notice).calls = w.calls :=
  (calls_fireIf _ w.moment).trans (calls_moment w)

theorem calls_sleep (millis : Nat) (w : World) : (w.sleep millis).calls = w.calls := by
  unfold sleep
  split
  · exact calls_fire w
  · rfl

theorem calls_awaitCancel {limit : Option Nat} {w w' : World} {fired : Node.Fired}
    (h : w.awaitCancel limit = some (fired, w')) : w'.calls = w.calls := by
  unfold awaitCancel at h
  split at h
  · cases h
    rfl
  · split at h
    · cases h
      exact calls_fire w
    · cases h
      rfl
    · cases h

theorem calls_answerWithin {w w' : World} {question : Node.Ask} {reply : question.Reply}
    (h : w.answerWithin question = some (reply, w')) : w'.calls = w.calls := by
  cases question
  case awaitCancel limit => exact calls_awaitCancel h
  case hang => simp [answerWithin] at h
  all_goals
    simp only [answerWithin, callback, Option.some.injEq, Prod.mk.injEq] at h
    obtain ⟨_, rfl⟩ := h
  case sleep => exact calls_sleep _ w
  case cancel => exact calls_fire w
  case report => exact calls_fireIf _ w
  all_goals rfl

/-- Only the beginning of a call is one. -/
theorem callsSince_answer {w w' : World} {question : Run.Ask} {reply : question.Reply}
    (h : w.answer question = some (reply, w')) (call : Call) (hc : call ∈ w.callsSince w') :
    question = .begin call := by
  have later := Later.answer h
  cases question
  case «begin» begun =>
    simp only [answer, Option.some.injEq, Prod.mk.injEq] at h
    obtain ⟨_, rfl⟩ := h
    rw [callsSince_began] at hc
    simpa [eq_comm] using hc
  case within question =>
    have hn := later.callsSince_eq_nil ((calls_answerWithin h).trans (calls_moment w))
    simp [hn] at hc
  all_goals
    simp only [answer, callback, Option.some.injEq, Prod.mk.injEq] at h
    obtain ⟨_, rfl⟩ := h
  case notify =>
    have hn := later.callsSince_eq_nil (calls_told w _)
    simp [hn] at hc
  case now =>
    have hn := later.callsSince_eq_nil (calls_moment w)
    simp [hn] at hc

end World

/-- Whatever the replies, only calls of a kind begin. -/
def RunWork.Begins {α : Type} (P : Call → Prop) : RunWork α → Prop :=
  Asks (fun question => ∀ call, question = .begin call → P call) True

namespace RunWork.Begins

variable {α : Type} {P : Call → Prop}

theorem isCancelled : Begins P RunWork.isCancelled := Asks.question nofun

theorem awaitCancel (limit : Option Nat) : Begins P (RunWork.awaitCancel limit) :=
  Asks.question nofun

theorem now : Begins P RunWork.now := Asks.question nofun

theorem notify {notice : Notice} : Begins P (RunWork.notify notice) :=
  (Asks.question nofun).bind fun _ => trivial

theorem freely (work : Work Node.Ask.Reply α) : Begins P (RunWork.freely work) :=
  Asks.freely (fun _ => nofun) work

theorem guarded (limit : Option Limit) (work : Work Node.Ask.Reply (Except Failure α)) :
    Begins P (RunWork.guarded limit work) :=
  Asks.guarded (fun _ _ => nofun) limit work fun _ => nofun

end RunWork.Begins

theorem perform_begins {α : Type} {P : Call → Prop} {work : RunWork α} (h : Begins P work)
    (w : World) : ∀ call ∈ w.callsSince (perform w work).2, P call := by
  induction work generalizing w with
  | done value => simp [perform]
  | panic payload => simp [perform]
  | ask question next ih =>
    unfold perform
    split
    · simp
    next reply w' ha =>
      intro call hc
      rw [(World.Later.answer ha).callsSince_trans (perform_later w' _)] at hc
      rcases List.mem_append.mp hc with hm | hm
      · exact h.1 call (World.callsSince_answer ha call hm)
      · exact ih reply (h.2 reply) w' call hm

section Calls

variable {α : Type} {w w' : World} {ending : Ending α}

theorem callsSince_of_begins_none {work : RunWork α} (h : perform w work = (ending, w'))
    (hb : Begins (fun _ => False) work) : w.callsSince w' = [] := by
  have hn := perform_begins hb w
  rw [h] at hn
  exact List.eq_nil_iff_forall_not_mem.mpr hn

/-- A call during which no other begins. -/
theorem callsSince_of_begin {call : Call} {next : Unit → RunWork α}
    (h : perform w (RunWork.begin call >>= next) = (ending, w'))
    (hb : Begins (fun _ => False) (next ())) : w.callsSince w' = [call] := by
  have hp : perform (w.note (.began call)) (next ()) = (ending, w') := h
  rw [(World.Later.note w _).callsSince_trans (later_of_perform hp), World.callsSince_began,
    callsSince_of_begins_none hp hb]
  rfl

end Calls

end Conveyor
