import Conveyor.Proofs.Notices

namespace Conveyor
open RunWork

variable {α β : Type}

/-- Whether it was a call of the sink. -/
def Happening.isHeard : Happening → Bool
  | told .. | reported .. => true
  | _ => false

namespace World

variable {w w' : World} {sink : Nat → Except String Unit}

/-- The calls of the sink since an earlier state of the same surroundings, the oldest first: what a
run tells it, and what its nodes report of their own accord. -/
def heardSince (earlier w : World) : List Happening := (earlier.since w).filter Happening.isHeard

theorem Later.heardSince_trans {a b c : World} (hab : a.Later b) (hbc : b.Later c) :
    a.heardSince c = a.heardSince b ++ b.heardSince c := by
  rw [heardSince, hab.since_trans hbc, List.filter_append]
  rfl

/-- What a run tells its sink is part of what the sink hears. -/
theorem noticesSince_eq_heard (w w' : World) :
    w.noticesSince w' = (w.heardSince w').filterMap Happening.notice? := by
  rw [heardSince, List.filterMap_filter, noticesSince]
  congr 1
  funext happening
  cases happening <;> rfl

theorem Later.callbacks_eq (h : w.Later w') :
    w'.callbacks = w.callbacks + (w.heardSince w').length := by
  have hc (u : World) : u.callbacks = u.past.countP Happening.isHeard := rfl
  obtain ⟨new, hn⟩ := h.past
  rw [heardSince, since_of_append hn.symm, hc, hc, ← hn, List.countP_append, List.filter_reverse,
    List.length_reverse, List.countP_eq_length_filter, List.countP_eq_length_filter, Nat.add_comm]

theorem heardSince_answer {question : Run.Ask} {reply : question.Reply}
    (h : w.answer question = some (reply, w')) :
    w.heardSince w' = (question.entry w reply).toList.filter Happening.isHeard :=
  filter_since_answer rfl h

theorem heardSince_moment (w : World) : w.heardSince w.moment = [] := by
  have ha : w.answer .now = some (w.clock, w.moment) := rfl
  exact heardSince_answer ha

theorem heardSince_told (w : World) (notice : Notice) :
    w.heardSince (w.told notice) = [.told w.clock notice] := by
  have ha : w.answer (.notify notice) = some (_, w.told notice) := rfl
  exact heardSince_answer ha

theorem heardSince_moment_told (w : World) (notice : Notice) :
    w.heardSince (w.moment.told notice) = [.told w.clock notice] := by
  rw [(Later.moment w).heardSince_trans (.told _ _), heardSince_moment, heardSince_told,
    (Akin.moment w).clock]
  rfl

/-- The same surroundings with another sink. -/
def replying (sink : Nat → Except String Unit) (w : World) : World := { w with sink }

section Replying

theorem replying_fire : (w.replying sink).fire = w.fire.replying sink := by
  unfold fire replying
  split <;> rfl

theorem replying_fireIf (alarm : Alarm) :
    (w.replying sink).fireIf alarm = (w.fireIf alarm).replying sink := by
  have ha : (w.replying sink).alarm = w.alarm := rfl
  unfold fireIf
  rw [ha]
  split
  · exact replying_fire
  · rfl

theorem replying_moment : (w.replying sink).moment = w.moment.replying sink := by
  unfold moment
  rw [replying_fireIf]
  rfl

theorem replying_callback (happening : Happening) :
    (w.replying sink).callback happening =
      (sink w.callbacks, (w.callback happening).2.replying sink) := by
  unfold callback
  rw [replying_fireIf]
  rfl

theorem replying_sleep (millis : Nat) :
    (w.replying sink).sleep millis = (w.sleep millis).replying sink := by
  have ha : (w.replying sink).alarmWithin? (some millis) = w.alarmWithin? (some millis) := rfl
  unfold sleep
  rw [replying_fire, ha]
  cases (w.alarmWithin? (some millis)).isSome <;> rfl

theorem replying_awaitCancel (limit : Option Nat) :
    (w.replying sink).awaitCancel limit =
      (w.awaitCancel limit).map fun (fired, v) => (fired, v.replying sink) := by
  have ha : (w.replying sink).alarmWithin? limit = w.alarmWithin? limit := rfl
  have hc : (w.replying sink).cancelled = w.cancelled := rfl
  unfold awaitCancel
  rw [replying_fire, ha, hc]
  split
  · rfl
  · split <;> rfl

/-- Whatever the sink returns, a question has a reply or has none, and the surroundings become the
same but for the sink. Only a call of the sink may be replied to otherwise. -/
theorem replying_answer {question : Run.Ask} {reply : question.Reply}
    (h : w.answer question = some (reply, w'))
    (same : ∀ node message, question = .within (.report node message) →
      sink w.callbacks = w.sink w.callbacks) :
    ∃ reply', (w.replying sink).answer question = some (reply', w'.replying sink) ∧
      (reply' = reply ∨ ∃ notice, question = .notify notice) := by
  have hm : (w.replying sink).moment = w.moment.replying sink := replying_moment
  cases question
  case within question =>
    change w.moment.answerWithin question = some (reply, w') at h
    change ∃ reply', (w.replying sink).moment.answerWithin question = _ ∧ _
    rw [hm]
    cases question
    case awaitCancel limit =>
      change w.moment.awaitCancel limit = some (reply, w') at h
      refine ⟨reply, ?_, .inl rfl⟩
      change (w.moment.replying sink).awaitCancel limit = _
      rw [replying_awaitCancel, h]
      rfl
    case hang => cases h
    all_goals cases h
    case sleep millis =>
      exact ⟨(), congrArg (fun v => some ((), v)) (replying_sleep millis), .inl rfl⟩
    case cancel => exact ⟨(), congrArg (fun v => some ((), v)) replying_fire, .inl rfl⟩
    case report node message =>
      have hc : w.moment.callbacks = w.callbacks := (Akin.moment w).callbacks
      have hs : w.moment.sink = w.sink := (Akin.moment w).sink
      refine ⟨_, congrArg some (replying_callback _), .inl ?_⟩
      change sink w.moment.callbacks = w.moment.sink w.moment.callbacks
      rw [hc, hs]
      exact same node message rfl
    all_goals exact ⟨_, rfl, .inl rfl⟩
  all_goals cases h
  case «begin» call => exact ⟨_, rfl, .inl rfl⟩
  case notify notice =>
    refine ⟨sink w.moment.callbacks, ?_, .inr ⟨notice, rfl⟩⟩
    change some ((w.replying sink).moment.callback _) = _
    rw [hm, replying_callback]
    rfl
  case now => exact ⟨_, congrArg (fun v => some (w.clock, v)) hm, .inl rfl⟩

theorem replying_answer_none {question : Run.Ask} (h : w.answer question = none) :
    (w.replying sink).answer question = none := by
  cases question
  case within question =>
    change w.moment.answerWithin question = none at h
    change (w.replying sink).moment.answerWithin question = none
    rw [replying_moment]
    cases question
    case awaitCancel limit =>
      change w.moment.awaitCancel limit = none at h
      change (w.moment.replying sink).awaitCancel limit = none
      rw [replying_awaitCancel, h]
      rfl
    case hang => rfl
    all_goals cases h
  all_goals cases h

end Replying

end World

/-- Work that goes on in the same way whatever its notices are replied to. -/
def RunWork.Deaf : RunWork α → Prop
  | .done _ | .panic _ => True
  | .ask question next =>
    ((∃ notice, question = .notify notice) → ∀ reply reply', next reply = next reply') ∧
      ∀ reply, Deaf (next reply)

namespace RunWork.Deaf

theorem of_mute {work : RunWork α} (mute : Mute work) : Deaf work := by
  induction work with
  | done value => trivial
  | panic payload => trivial
  | ask question next ih =>
    exact ⟨fun ⟨notice, h⟩ => absurd h (mute.1 notice), fun reply => ih reply (mute.2 reply)⟩

theorem bind {work : RunWork α} {next : α → RunWork β} (h : Deaf work)
    (hn : ∀ value, Deaf (next value)) : Deaf (work >>= next) := by
  induction work with
  | done value => exact hn value
  | panic payload => trivial
  | ask question more ih =>
    refine ⟨fun notifies reply reply' => ?_, fun reply => ih reply (h.2 reply)⟩
    exact congrArg (· >>= next) (h.1 notifies reply reply')

theorem isCancelled : Deaf RunWork.isCancelled := ⟨nofun, fun _ => trivial⟩

theorem now : Deaf RunWork.now := ⟨nofun, fun _ => trivial⟩

theorem notify (notice : Notice) : Deaf (RunWork.notify notice) :=
  ⟨fun _ _ _ => rfl, fun _ => trivial⟩

end RunWork.Deaf

/-- What the sink returns does not matter to work that is deaf to it, but where node code calls the
sink and may look at the reply. -/
theorem perform_replying {w w' : World} {sink : Nat → Except String Unit} {work : RunWork α}
    {ending : Ending α} (deaf : Deaf work) (h : perform w work = (ending, w'))
    (same : ∀ n clock node message, (w.heardSince w')[n]? = some (.reported clock node message) →
      sink (w.callbacks + n) = w.sink (w.callbacks + n)) :
    perform (w.replying sink) work = (ending, w'.replying sink) := by
  induction work generalizing w with
  | done value =>
    cases h
    rfl
  | panic payload =>
    cases h
    rfl
  | ask question next ih =>
    unfold perform at h ⊢
    cases ha : w.answer question with
    | none =>
      rw [ha] at h
      cases h
      rw [World.replying_answer_none ha]
    | some answered =>
      obtain ⟨reply, between⟩ := answered
      rw [ha] at h
      have later := World.Later.answer ha
      have hheard := later.heardSince_trans (later_of_perform h)
      have hreport (node : Option String) (message : String)
          (hq : question = .within (.report node message)) :
          sink w.callbacks = w.sink w.callbacks := by
        subst hq
        refine same 0 w.clock node message ?_
        rw [hheard, World.heardSince_answer ha]
        rfl
      have hsink : between.sink = w.sink := (World.SameParties.answer ha).sink
      obtain ⟨reply', ha', hreply⟩ := World.replying_answer ha hreport
      have hnext : next reply' = next reply := by
        rcases hreply with rfl | notifies
        · rfl
        · exact deaf.1 notifies reply' reply
      rw [ha']
      dsimp only
      rw [hnext]
      refine ih reply (deaf.2 reply) h fun n clock node message hn => ?_
      have hshift := same ((w.heardSince between).length + n) clock node message
      rw [hheard, List.getElem?_append_right (Nat.le_add_right _ _), Nat.add_sub_cancel_left]
        at hshift
      rw [later.callbacks_eq, hsink, Nat.add_assoc]
      exact hshift hn

namespace Executor

variable {executor : Executor} {id : Uuid} {workflow : Workflow}

theorem turn_deaf (plan : Plan) (trigger : List Item) (cast : List (Placed × Node))
    (position : Nat) (finished : Finished) :
    Deaf (executor.turn id workflow plan trigger cast position finished) := by
  refine Deaf.isCancelled.bind fun fired => ?_
  split
  · trivial
  · split
    · trivial
    · split
      · trivial
      · refine (Deaf.of_mute (node_mute _ _ _ _)).bind fun outcome => ?_
        split
        · trivial
        · exact (Deaf.notify _).bind fun _ => trivial

theorem follow_deaf (plan : Plan) (trigger : List Item) (cast : List (Placed × Node))
    (positions : List Nat) (finished : Finished) :
    Deaf (executor.follow id workflow plan trigger cast positions finished) := by
  induction positions generalizing finished with
  | nil => trivial
  | cons position rest ih =>
    refine (turn_deaf plan trigger cast position finished).bind fun outcome => ?_
    split
    · trivial
    · exact ih _

theorem undertake_deaf (trigger : Option (List Item)) :
    Deaf (executor.undertake id workflow trigger) := by
  unfold undertake drive
  split
  · split
    · trivial
    · refine (follow_deaf _ _ _ _ _).bind fun outcome => ?_
      split
      · trivial
      · split <;> trivial
  · trivial

theorem conclude_deaf (started : Nat) (outcome : Except Fatal Finished) :
    Deaf (conclude id workflow started outcome) := by
  refine Deaf.now.bind fun ended => ?_
  cases outcome with
  | ok finished => exact (Deaf.notify _).bind fun _ => trivial
  | error fatal => exact (Deaf.notify _).bind fun _ => trivial

theorem execute_deaf (trigger : Option (List Item)) :
    Deaf (executor.execute id workflow trigger) :=
  Deaf.now.bind fun started => (Deaf.notify _).bind fun _ =>
    (undertake_deaf trigger).bind fun outcome => conclude_deaf started outcome

end Executor

end Conveyor
