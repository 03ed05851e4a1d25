import Conveyor.Http.Client
import Conveyor.Proofs.Akin

namespace Conveyor
open RunWork

variable {α β : Type}

namespace Happening

/-- Whether something passed between a node and another party. -/
def isDealing : Happening → Bool
  | sent .. | signed _ => true
  | _ => false

def request? : Happening → Option Http.Request
  | sent request _ => some request
  | _ => none

def offer? : Happening → Option Payment.Offer
  | signed offer => some offer
  | _ => none

end Happening

namespace World

variable {w w' : World}

/-- The requests that were sent since an earlier state of the same surroundings, each with what
became of it, and the offers that a wallet was asked to pay, the oldest first. -/
def dealingsSince (earlier w : World) : List Happening :=
  (earlier.since w).filter Happening.isDealing

theorem Later.dealingsSince_trans {a b c : World} (hab : a.Later b) (hbc : b.Later c) :
    a.dealingsSince c = a.dealingsSince b ++ b.dealingsSince c := by
  rw [dealingsSince, hab.since_trans hbc, List.filter_append]
  rfl

@[simp] theorem dealingsSince_self (w : World) : w.dealingsSince w = [] := by
  simp [dealingsSince, since]

theorem dealingsSince_answer {question : Run.Ask} {reply : question.Reply}
    (h : w.answer question = some (reply, w')) :
    w.dealingsSince w' = (question.entry w reply).toList.filter Happening.isDealing :=
  filter_since_answer rfl h

/-- A wallet knows of what it was asked to pay, and of nothing else. -/
theorem Later.payments_eq (h : w.Later w') :
    w'.payments = ((w.dealingsSince w').filterMap Happening.offer?).reverse ++ w.payments := by
  have hp (u : World) : u.payments = u.past.filterMap Happening.offer? := rfl
  rw [hp, hp, h.filterMap_past, dealingsSince, List.filterMap_filter]
  congr 3
  funext happening
  cases happening <;> rfl

end World

section Freely

variable {w w' : World}

theorem freely_bind (work : Work Node.Ask.Reply α) (next : α → Work Node.Ask.Reply β) :
    freely (work >>= next) = freely work >>= fun value => freely (next value) := by
  induction work with
  | done value => rfl
  | panic payload => rfl
  | ask question more ih => exact congrArg (Work.ask _) (funext ih)

/-- Node code goes on when its first part has succeeded, and else ends as that does. -/
theorem perform_freely_bind (w : World) (work : NodeWork α) (next : α → NodeWork β) :
    perform w (freely (work >>= next : NodeWork β)) =
      match perform w (freely work) with
      | (.returned (.ok value), w') => perform w' (freely (next value))
      | (.returned (.error e), w') => (.returned (.error e), w')
      | (.panicked payload, w') => (.panicked payload, w')
      | (.stuck, w') => (.stuck, w') := by
  have hb : freely (work >>= next : NodeWork β) =
      freely work >>= fun result => freely (ExceptT.bindCont next result) := freely_bind _ _
  rw [hb, perform_bind]
  rcases perform w (freely work) with ⟨ending, w'⟩
  match ending with
  | .returned (.ok value) | .returned (.error e) | .panicked payload | .stuck => rfl

theorem perform_freely_of_ok {work : NodeWork α} {value : α}
    (h : perform w (freely work) = (.returned (.ok value), w')) (next : α → NodeWork β) :
    perform w (freely (work >>= next : NodeWork β)) = perform w' (freely (next value)) := by
  rw [perform_freely_bind, h]

theorem perform_freely_of_not_ok {work : NodeWork α} {first : Ending (Except Failure α)}
    (h : perform w (freely work) = (first, w')) (fails : first.isOk = false)
    (next : α → NodeWork β) :
    ∃ ending, perform w (freely (work >>= next : NodeWork β)) = (ending, w') ∧
      ending.isOk = false := by
  rw [perform_freely_bind, h]
  match first, fails with
  | .returned (.error e), _ => exact ⟨_, rfl, rfl⟩
  | .panicked payload, _ => exact ⟨_, rfl, rfl⟩
  | .stuck, _ => exact ⟨_, rfl, rfl⟩

/-- Node code goes on with the reply to its question. -/
theorem perform_freely_ask {question : Node.Ask} {reply : question.Reply}
    (h : w.answer (.within question) = some (reply, w')) (next : question.Reply → NodeWork α) :
    perform w (freely (NodeWork.ask question >>= next : NodeWork α)) =
      perform w' (freely (next reply)) := by
  have hcode : freely (NodeWork.ask question >>= next : NodeWork α) =
      .ask (.within question) fun reply => freely (next reply) := rfl
  rw [hcode, perform, h]

@[simp] theorem perform_freely_lift (w : World) (result : Except Failure α) :
    perform w (freely (liftM result : NodeWork α)) = (.returned result, w) := by
  cases result <;> rfl

@[simp] theorem perform_freely_ok (w : World) (value : α) (next : α → NodeWork β) :
    perform w (freely (liftM (.ok value : Except Failure α) >>= next : NodeWork β)) =
      perform w (freely (next value)) := rfl

@[simp] theorem perform_freely_error (w : World) (e : Failure) (next : α → NodeWork β) :
    perform w (freely (liftM (.error e : Except Failure α) >>= next : NodeWork β)) =
      (.returned (.error e), w) := rfl

end Freely

/-- A check and what follows it succeed together. -/
theorem bind_eq_ok {check : Except Failure α} {next : α → Except Failure β} {value : β} :
    check >>= next = .ok value ↔ ∃ first, check = .ok first ∧ next first = .ok value := by
  cases check with
  | error e => exact ⟨nofun, fun ⟨_, h, _⟩ => nomatch h⟩
  | ok first =>
    constructor
    · exact fun h => ⟨first, rfl, h⟩
    · rintro ⟨_, ⟨⟩, h⟩
      exact h

namespace Http.Client

variable {w w' : World} {request : Request}

/-- What a request comes to: it cannot be sent; it is sent and there is no answer; or the answer is
waited for, and nothing else happens. -/
inductive Sends (w : World) (request : Request) : Ending (Except Failure Response) → World → Prop
  | unsent (e : Failure) : Sends w request (.returned (.error e)) w
  | lost {ending : Ending (Except Failure Response)} {w' : World} (fate : Fate)
      (unanswered : ∀ after response, fate ≠ .answered after response) (fails : ending.isOk = false)
      (dealings : w.dealingsSince w' = [.sent request fate]) : Sends w request ending w'
  | answered {w' : World} (after : Nat) (response : Response)
      (dealings : w.dealingsSince w' = [.sent request (.answered after response)]) :
      Sends w request (.returned (.ok response)) w'

theorem send_sends {ending : Ending (Except Failure Response)}
    (h : perform w (freely (send request)) = (ending, w')) : Sends w request ending w' := by
  unfold send at h
  split at h
  next =>
    obtain ⟨fate, between, hs, hdealings⟩ : ∃ fate between,
        w.answer (.within (.send request)) = some (fate, between) ∧
          w.dealingsSince between = [.sent request fate] :=
      ⟨_, _, rfl, @World.dealingsSince_answer _ _ (.within (.send request)) _ rfl⟩
    rw [perform_freely_ask hs] at h
    cases fate with
    | answered after response =>
      obtain ⟨rested, hr⟩ : ∃ rested, between.answer (.within (.sleep after)) = some ((), rested) :=
        ⟨_, rfl⟩
      rw [perform_freely_ask hr] at h
      cases h
      refine .answered after response ?_
      rw [(World.Later.answer hs).dealingsSince_trans (.answer hr), hdealings,
        World.dealingsSince_answer hr]
      rfl
    | dropped | refused =>
      cases h
      exact .lost _ (by simp) rfl hdealings
    | silent =>
      have hp : perform between (freely (NodeWork.hang : NodeWork Response)) = (.stuck, between) := rfl
      cases hp.symm.trans h
      exact .lost _ (by simp) rfl hdealings
  next =>
    cases h
    exact .unsent _

theorem name_of_mem_logIn {url : Url} {header : Header} (h : header ∈ (logIn url).2) :
    header.name = "authorization" := by
  unfold logIn at h
  split at h
  · rw [List.mem_singleton.mp h]
    rfl
  · cases h

theorem name_of_mem_content {body : Option Json} {header : Header} (h : header ∈ (content body).1) :
    header.name = "content-type" := by
  unfold content at h
  split at h
  case h_3 =>
    rw [List.mem_singleton.mp h]
    rfl
  all_goals cases h

/-- A request that was prepared has only the headers that its address and its body call for. -/
theorem prepare_eq_ok {method url : String} {body : Option Json}
    (h : prepare method url body = .ok request) :
    Method.ofName? method = some request.method ∧ (Url.ofText? url).isSome ∧
      ∀ header ∈ request.headers, header.name = "authorization" ∨ header.name = "content-type" := by
  unfold prepare at h
  split at h
  · cases h
  next verb hverb =>
    split at h
    · cases h
    next parsed hurl =>
      split at h
      · cases h
      · cases h
        refine ⟨hverb, by simp [hurl], fun header hm => ?_⟩
        exact (List.mem_append.mp hm).imp name_of_mem_logIn name_of_mem_content

theorem addHeader_eq_ok {name value : String} {paying : Request}
    (h : addHeader name value request = .ok paying) :
    paying = { request with
      headers := request.headers ++
        [⟨String.ofList (name.toList.map Char.toLower), Text.Utf8.encode value⟩] } := by
  simp only [addHeader, Header.make?] at h
  split at h
  next header hm =>
    split at hm
    · cases hm
      cases h
      rfl
    · cases hm
  · cases h

end Http.Client

end Conveyor
