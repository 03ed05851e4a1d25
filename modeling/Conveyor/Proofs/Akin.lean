import Conveyor.Proofs.Calls

namespace Conveyor
open RunWork

/-- Whether it was the token that fired. -/
def Happening.isFired : Happening → Bool
  | fired => true
  | _ => false

/-- Questions whose replies the token has no part in. -/
def Run.Ask.Blind : Run.Ask → Prop
  | within .isCancelled | within (.awaitCancel _) => False
  | _ => True

/-- What a question and its reply leave in the past of the surroundings they are asked in. -/
def Run.Ask.entry (w : World) : (question : Run.Ask) → question.Reply → Option Happening
  | .begin call, _ => some (.began call)
  | .notify notice, _ => some (.told w.clock notice)
  | .within (.report node message), _ => some (.reported w.clock node message)
  | .within (.send request), fate => some (.sent request fate)
  | .within (.sign offer), _ => some (.signed offer)
  | _, _ => none

namespace World

/-- What happened, the newest first, but for the firing of the token. -/
def story (w : World) : List Happening := w.past.filter (!·.isFired)

theorem filterMap_story {β : Type} {f : Happening → Option β} (h : f .fired = none) (w : World) :
    w.story.filterMap f = w.past.filterMap f := by
  rw [story, List.filterMap_filter]
  congr 1
  funext happening
  cases happening <;> simp [Happening.isFired, h]

theorem countP_story {p : Happening → Bool} (h : p .fired = false) (w : World) :
    w.story.countP p = w.past.countP p := by
  rw [story, List.countP_filter]
  apply List.countP_congr
  intro happening _
  cases happening <;> simp [Happening.isFired, h]

/-- Surroundings that differ in the token alone: in whether it has fired and in when it will. -/
structure Akin (w v : World) : Prop where
  clock : v.clock = w.clock
  sink : v.sink = w.sink
  peer : v.peer = w.peer
  wallet : v.wallet = w.wallet
  story : v.story = w.story

namespace Akin

variable {w v w' v' : World}

theorem refl (w : World) : w.Akin w := ⟨rfl, rfl, rfl, rfl, rfl⟩

theorem symm (h : w.Akin v) : v.Akin w :=
  ⟨h.clock.symm, h.sink.symm, h.peer.symm, h.wallet.symm, h.story.symm⟩

theorem trans {u : World} (huv : u.Akin v) (hvw : v.Akin w) : u.Akin w :=
  ⟨hvw.clock.trans huv.clock, hvw.sink.trans huv.sink, hvw.peer.trans huv.peer,
    hvw.wallet.trans huv.wallet, hvw.story.trans huv.story⟩

theorem fire (w : World) : w.Akin w.fire := by
  unfold World.fire
  split
  · exact refl w
  · exact ⟨rfl, rfl, rfl, rfl, rfl⟩

theorem fireIf (alarm : Alarm) (w : World) : w.Akin (w.fireIf alarm) := by
  unfold World.fireIf
  split
  · exact fire w
  · exact refl w

theorem moment (w : World) : w.Akin w.moment :=
  (fireIf _ w).trans ⟨rfl, rfl, rfl, rfl, rfl⟩

/-- One and the same thing happens, or one and the same time passes, in both. -/
theorem both (h : w.Akin v) (hw : w.Akin w') (hv : v.Akin v') : w'.Akin v' :=
  hw.symm.trans (h.trans hv)

theorem note (h : w.Akin v) (happening : Happening) :
    (w.note happening).Akin (v.note happening) := by
  refine ⟨h.clock, h.sink, h.peer, h.wallet, ?_⟩
  have hs : v.past.filter (!·.isFired) = w.past.filter (!·.isFired) := h.story
  simp only [World.story, World.note, List.filter_cons, hs]

theorem pass (h : w.Akin v) (millis : Nat) :
    { w with clock := w.clock + millis }.Akin { v with clock := v.clock + millis } :=
  ⟨congrArg (· + millis) h.clock, h.sink, h.peer, h.wallet, h.story⟩

theorem requests (h : w.Akin v) : v.requests = w.requests := by
  rw [World.requests, World.requests, ← filterMap_story rfl, ← filterMap_story rfl, h.story]

theorem payments (h : w.Akin v) : v.payments = w.payments := by
  rw [World.payments, World.payments, ← filterMap_story rfl, ← filterMap_story rfl, h.story]

theorem callbacks (h : w.Akin v) : v.callbacks = w.callbacks := by
  rw [World.callbacks, World.callbacks, ← countP_story rfl, ← countP_story rfl, h.story]

theorem callback (h : w.Akin v) (happening : Happening) :
    (v.callback happening).1 = (w.callback happening).1 ∧
      (w.callback happening).2.Akin (v.callback happening).2 := by
  constructor
  · rw [World.callback, World.callback, h.sink, h.callbacks]
  · exact (h.both (fireIf _ w) (fireIf _ v)).note happening

/-- A wait that does not watch the token takes its time, whether or not the token fires in it. -/
theorem slept (w : World) (millis : Nat) :
    { w with clock := w.clock + millis }.Akin (w.sleep millis) := by
  unfold World.sleep
  split
  · exact ⟨rfl, (fire w).sink, (fire w).peer, (fire w).wallet, (fire w).story⟩
  · exact refl _

theorem sleep (h : w.Akin v) (millis : Nat) : (w.sleep millis).Akin (v.sleep millis) :=
  (h.pass millis).both (slept w millis) (slept v millis)

end Akin

theorem story_awaitCancel {w w' : World} {limit : Option Nat} {fired : Node.Fired}
    (h : w.awaitCancel limit = some (fired, w')) : w'.story = w.story := by
  unfold awaitCancel at h
  split at h
  · cases h
    rfl
  · split at h
    · cases h
      exact (Akin.fire w).story
    · cases h
      rfl
    · cases h

/-- But for the firing of the token, a step adds to the past what its question leaves there. -/
theorem story_answer {w w' : World} {question : Run.Ask} {reply : question.Reply}
    (h : w.answer question = some (reply, w')) :
    w'.story = (question.entry w reply).toList ++ w.story := by
  have hnote (u : World) (happening : Happening) (hf : happening.isFired = false) :
      (u.note happening).story = happening :: u.story := by
    simp [story, World.note, hf]
  have hm : w.moment.story = w.story := (Akin.moment w).story
  cases question
  case within question =>
    rw [← hm]
    change w.moment.answerWithin question = some (reply, w') at h
    cases question
    case awaitCancel limit => exact story_awaitCancel h
    case hang => cases h
    all_goals cases h
    case sleep millis => exact (Akin.slept w.moment millis).story
    case cancel => exact (Akin.fire w.moment).story
    case isCancelled => rfl
    case report node message =>
      rw [hnote _ _ rfl, (Akin.fireIf _ w.moment).story, (Akin.moment w).clock]
      rfl
    all_goals exact hnote _ _ rfl
  all_goals cases h
  case «begin» call => exact hnote w _ rfl
  case notify notice =>
    rw [hnote _ _ rfl, (Akin.fireIf _ w.moment).story, hm]
    rfl
  case now => exact hm

/-- Of a kind of happenings that the firing of the token is not, a step adds what its question
leaves, if it is one. -/
theorem filterMap_since_answer {β : Type} {f : Happening → Option β} (hf : f .fired = none)
    {w w' : World} {question : Run.Ask} {reply : question.Reply}
    (h : w.answer question = some (reply, w')) :
    (w.since w').filterMap f = ((question.entry w reply).bind f).toList := by
  have hn : w'.past.filterMap f =
      ((question.entry w reply).bind f).toList ++ w.past.filterMap f := by
    rw [← filterMap_story hf, ← filterMap_story hf w, story_answer h, List.filterMap_append]
    cases question.entry w reply with
    | none => rfl
    | some happening => cases hh : f happening <;> simp [hh]
  rw [(Later.answer h).filterMap_past] at hn
  rw [← List.reverse_reverse ((w.since w').filterMap f), List.append_cancel_right hn]
  cases (question.entry w reply).bind f <;> rfl

theorem filter_since_answer {p : Happening → Bool} (hp : p .fired = false) {w w' : World}
    {question : Run.Ask} {reply : question.Reply} (h : w.answer question = some (reply, w')) :
    (w.since w').filter p = (question.entry w reply).toList.filter p := by
  have hf : Option.guard (fun happening => p happening) .fired = none := by simp [Option.guard, hp]
  rw [← List.filterMap_eq_filter, filterMap_since_answer hf h]
  cases question.entry w reply with
  | none => rfl
  | some happening => cases hh : p happening <;> simp [Option.guard, hh]

/-- A wait for the token in which it does not fire has a limit and lasts until then. -/
theorem awaitCancel_calm {w w' : World} {limit : Option Nat} {fired : Node.Fired}
    (h : w.awaitCancel limit = some (fired, w')) (calm : w'.cancelled = false) :
    fired = false ∧ ∃ millis, limit = some millis ∧ w' = { w with clock := w.clock + millis } := by
  unfold awaitCancel at h
  split at h
  next hw =>
    cases h
    simp [hw] at calm
  · split at h
    · cases h
      unfold fire at calm
      split at calm <;> simp_all
    next millis hl =>
      cases h
      exact ⟨rfl, millis, rfl, rfl⟩
    · cases h

/-- Whether there is a reply to a blind question does not depend on the surroundings. -/
theorem answer_none_of_blind {w : World} {question : Run.Ask} (blind : question.Blind)
    (h : w.answer question = none) (v : World) : v.answer question = none := by
  cases question
  case within question =>
    cases question
    case isCancelled | awaitCancel => cases blind
    case hang => rfl
    all_goals cases h
  all_goals cases h

/-- Where there is no reply to a question, elsewhere there is none either, unless the token fires. -/
theorem answer_none {w v v' : World} {question : Run.Ask} {reply : question.Reply}
    (hw : w.answer question = none) (hv : v.answer question = some (reply, v')) :
    v'.cancelled = true := by
  cases question
  case within question =>
    cases question
    case awaitCancel limit =>
      cases hc : v'.cancelled with
      | true => rfl
      | false =>
        obtain ⟨_, millis, rfl, _⟩ := awaitCancel_calm hv hc
        obtain ⟨_, ha⟩ := w.moment.awaitCancel_some millis
        rw [show w.answer (.within (.awaitCancel (some millis))) = _ from ha] at hw
        cases hw
    case hang => cases hv
    all_goals cases hw
  all_goals cases hw

/-- Akin surroundings give the same reply, and are so afterwards, if the token has no part in the
question or does not fire. -/
theorem Akin.answer {w v w' v' : World} {question : Run.Ask} {reply reply' : question.Reply}
    (h : w.Akin v) (hw : w.answer question = some (reply, w'))
    (hv : v.answer question = some (reply', v'))
    (calm : question.Blind ∨ w'.cancelled = false ∧ v'.cancelled = false) :
    reply' = reply ∧ w'.Akin v' := by
  have hm : w.moment.Akin v.moment := h.both (moment w) (moment v)
  cases question
  case within question =>
    cases question
    case awaitCancel limit =>
      obtain ⟨hwc, hvc⟩ := calm.resolve_left id
      obtain ⟨rfl, millis, rfl, rfl⟩ := awaitCancel_calm hw hwc
      obtain ⟨rfl, _, hl, rfl⟩ := awaitCancel_calm hv hvc
      cases hl
      exact ⟨rfl, hm.pass millis⟩
    case isCancelled =>
      obtain ⟨hwc, hvc⟩ := calm.resolve_left id
      cases hw
      cases hv
      exact ⟨hvc.trans hwc.symm, hm⟩
    case hang => cases hw
    all_goals
      cases hw
      cases hv
    case sleep millis => exact ⟨rfl, hm.sleep millis⟩
    case cancel => exact ⟨rfl, hm.both (fire _) (fire _)⟩
    case report node message =>
      rw [hm.clock]
      exact hm.callback _
    case send request =>
      rw [hm.peer, hm.requests]
      exact ⟨rfl, hm.note _⟩
    case sign offer =>
      rw [hm.wallet, hm.payments]
      exact ⟨rfl, hm.note _⟩
  all_goals
    cases hw
    cases hv
  case «begin» call => exact ⟨rfl, h.note _⟩
  case notify notice =>
    rw [h.clock]
    exact hm.callback _
  case now => exact ⟨h.clock, hm⟩

theorem Akin.told {w v : World} (h : w.Akin v) (notice : Notice) :
    (w.told notice).Akin (v.told notice) := by
  have hw : w.answer (.notify notice) = some (_, w.told notice) := rfl
  have hv : v.answer (.notify notice) = some (_, v.told notice) := rfl
  exact (h.answer hw hv (.inl trivial)).2

theorem Akin.moments {w v : World} (h : w.Akin v) : w.moment.Akin v.moment :=
  h.both (moment w) (moment v)

end World

/-- Work that does not look at the token goes the same way in akin surroundings. -/
theorem perform_blind {α : Type} {panics : Prop} {w v w' v' : World} {work : RunWork α}
    {ending ending' : Ending α} (blind : Asks Run.Ask.Blind panics work) (h : w.Akin v)
    (hw : perform w work = (ending, w')) (hv : perform v work = (ending', v')) :
    ending' = ending ∧ w'.Akin v' := by
  induction work generalizing w v with
  | done value =>
    cases hw
    cases hv
    exact ⟨rfl, h⟩
  | panic payload =>
    cases hw
    cases hv
    exact ⟨rfl, h⟩
  | ask question next ih =>
    unfold perform at hw hv
    cases haw : w.answer question with
    | none =>
      simp only [haw, World.answer_none_of_blind blind.1 haw v] at hw hv
      cases hw
      cases hv
      exact ⟨rfl, h⟩
    | some answered =>
      cases hav : v.answer question with
      | none => simp [World.answer_none_of_blind blind.1 hav w] at haw
      | some answered' =>
        obtain ⟨reply, w₁⟩ := answered
        obtain ⟨reply', v₁⟩ := answered'
        simp only [haw, hav] at hw hv
        obtain ⟨rfl, akin⟩ := h.answer haw hav (.inl blind.1)
        exact ih reply' (blind.2 reply') akin hw hv

/-- Work goes the same way in akin surroundings, as long as the token fires in neither. -/
theorem perform_akin {α : Type} {w v w' v' : World} {work : RunWork α} {ending ending' : Ending α}
    (h : w.Akin v) (hw : perform w work = (ending, w')) (hv : perform v work = (ending', v'))
    (calm : w'.cancelled = false) (calm' : v'.cancelled = false) :
    ending' = ending ∧ w'.Akin v' := by
  induction work generalizing w v with
  | done value =>
    cases hw
    cases hv
    exact ⟨rfl, h⟩
  | panic payload =>
    cases hw
    cases hv
    exact ⟨rfl, h⟩
  | ask question next ih =>
    unfold perform at hw hv
    cases haw : w.answer question with
    | none =>
      cases hav : v.answer question with
      | none =>
        simp only [haw, hav] at hw hv
        cases hw
        cases hv
        exact ⟨rfl, h⟩
      | some answered =>
        simp only [hav] at hv
        have := (later_of_perform hv).calm calm'
        simp [World.answer_none haw hav] at this
    | some answered =>
      obtain ⟨reply, w₁⟩ := answered
      simp only [haw] at hw
      have hw₁ := (later_of_perform hw).calm calm
      cases hav : v.answer question with
      | none => simp [World.answer_none hav haw] at hw₁
      | some answered' =>
        obtain ⟨reply', v₁⟩ := answered'
        simp only [hav] at hv
        have hv₁ := (later_of_perform hv).calm calm'
        obtain ⟨rfl, akin⟩ := h.answer haw hav (.inr ⟨hw₁, hv₁⟩)
        exact ih reply' akin hw hv

namespace World

/-- Surroundings with the same other parties: the sink, the peer of requests and the wallet. -/
structure SameParties (w w' : World) : Prop where
  sink : w'.sink = w.sink
  peer : w'.peer = w.peer
  wallet : w'.wallet = w.wallet

namespace SameParties

variable {w w' : World}

theorem refl (w : World) : w.SameParties w := ⟨rfl, rfl, rfl⟩

theorem trans {a b c : World} (hab : a.SameParties b) (hbc : b.SameParties c) : a.SameParties c :=
  ⟨hbc.sink.trans hab.sink, hbc.peer.trans hab.peer, hbc.wallet.trans hab.wallet⟩

theorem of_akin (h : w.Akin w') : w.SameParties w' := ⟨h.sink, h.peer, h.wallet⟩

theorem moment (w : World) : w.SameParties w.moment := of_akin (.moment w)

theorem callback (w : World) (happening : Happening) : w.SameParties (w.callback happening).2 :=
  trans (of_akin (.fireIf _ w)) ⟨rfl, rfl, rfl⟩

theorem told (w : World) (notice : Notice) : w.SameParties (w.told notice) :=
  (moment w).trans (callback _ _)

theorem sleep (millis : Nat) (w : World) : w.SameParties (w.sleep millis) :=
  trans (b := { w with clock := w.clock + millis }) ⟨rfl, rfl, rfl⟩ (of_akin (.slept w millis))

theorem awaitCancel {limit : Option Nat} {fired : Node.Fired}
    (h : w.awaitCancel limit = some (fired, w')) : w.SameParties w' := by
  unfold World.awaitCancel at h
  split at h
  · cases h
    exact refl w
  · split at h
    · cases h
      exact trans (of_akin (.fire w)) ⟨rfl, rfl, rfl⟩
    · cases h
      exact ⟨rfl, rfl, rfl⟩
    · cases h

theorem answer {question : Run.Ask} {reply : question.Reply}
    (h : w.answer question = some (reply, w')) : w.SameParties w' := by
  cases question
  case within question =>
    refine (moment w).trans ?_
    cases question
    case awaitCancel limit => exact awaitCancel h
    case hang => cases h
    all_goals cases h
    case sleep millis => exact sleep millis _
    case cancel => exact of_akin (.fire _)
    case report => exact callback _ _
    all_goals exact ⟨rfl, rfl, rfl⟩
  all_goals cases h
  case «begin» => exact ⟨rfl, rfl, rfl⟩
  case notify => exact told w _
  case now => exact moment w

end SameParties

end World

/-- The other parties to a run stay the same. -/
theorem perform_parties {α : Type} (w : World) (work : RunWork α) : w.SameParties (perform w work).2 := by
  induction work generalizing w with
  | done value => exact .refl w
  | panic payload => exact .refl w
  | ask question next ih =>
    unfold perform
    split
    · exact .refl w
    next reply w' ha => exact (World.SameParties.answer ha).trans (ih reply w')

theorem parties_of_perform {α : Type} {w w' : World} {work : RunWork α} {ending : Ending α}
    (h : perform w work = (ending, w')) : w.SameParties w' := by
  simpa [h] using perform_parties w work

end Conveyor
