import Conveyor.Proofs.Course
import Conveyor.Proofs.Items
import Conveyor.Proofs.Purchase
import Conveyor.Proofs.Rounds
import Conveyor.Proofs.Settling

namespace Conveyor
open RunWork

variable {w w' : World}

namespace Nodes.PaidRequest
open Http Payment

variable {ctx : Context} {index : Nat}

/-- A node's work once it has an answer to a request that it paid for. -/
def accept (offer : Offer) (second : Response) : NodeWork Output :=
  if second.status = .paymentRequired then throw (rejection second)
  else liftM (finish second (some offer))

/-- A node's work once a wallet has answered. -/
def deliver (request : Request) (offer : Offer) (answer : Except Failure Proof) :
    NodeWork Output := do
  let proof ← liftM answer
  let paying ← liftM (Client.addHeader paymentHeader proof.toHeader request)
  accept offer (← Client.send paying)

section Counts

variable {kind : Node.Ask → Bool} {sends signs : Nat} (active : Node.Ask.Active kind)
  (hs : ∀ request, (kind (.send request)).toNat ≤ sends)
include active hs

theorem send_atMost (request : Request) : Work.AtMost kind (Client.send request) sends := by
  unfold Client.send
  refine .ite ?_ (.pure _ _)
  refine NodeWork.atMost_bind (m := 0) (NodeWork.atMost_ask (hs request)) fun fate => ?_
  cases fate with
  | answered after response =>
    exact NodeWork.atMost_bind (n := 0) (m := 0) (NodeWork.atMost_ask (by simp [active.sleep]))
      fun _ => .pure _ 0
  | dropped | refused => exact .pure _ 0
  | silent =>
    exact NodeWork.atMost_bind (n := 0) (m := 0) (NodeWork.atMost_ask (by simp [active.hang])) nofun

theorem deliver_atMost (request : Request) (offer : Offer) (answer : Except Failure Proof) :
    Work.AtMost kind (deliver request offer answer) sends := by
  have sent (paying : Request) : Work.AtMost kind (Client.send paying >>= accept offer :
      NodeWork Output) sends :=
    NodeWork.atMost_bind (m := 0) (send_atMost active hs paying) fun second =>
      .ite (.pure _ 0) (NodeWork.atMost_lift _ 0)
  unfold deliver
  refine NodeWork.atMost_check fun proof => ?_
  -- What the header comes to does not matter, and is not to be computed.
  generalize Client.addHeader paymentHeader proof.toHeader request = attached
  exact NodeWork.atMost_check sent

variable (hp : ∀ offer, (kind (.sign offer)).toNat ≤ signs)
include hp

theorem settle_atMost (request : Request) (expected : Expected) (first : Response) :
    Work.AtMost kind (settle ctx request expected first) (signs + sends) := by
  have pays (offer : Offer) : Work.AtMost kind (pay request offer) (signs + sends) :=
    NodeWork.atMost_bind (NodeWork.atMost_ask (hp offer)) (deliver_atMost active hs request offer)
  unfold settle
  refine .ite (NodeWork.atMost_lift _ _) ?_
  refine NodeWork.atMost_check fun challenge => ?_
  refine NodeWork.atMost_check fun offer => ?_
  exact NodeWork.atMost_check fun _ => pays offer

/-- A call of the node asks for two requests at most, and for one payment at most between them. -/
theorem run_atMost (ctx : Context) (index : Nat) :
    Work.AtMost kind (run ctx index) (sends + (signs + sends)) := by
  rw [run_eq]
  refine NodeWork.atMost_check fun (request, expected) => ?_
  exact NodeWork.atMost_bind (send_atMost active hs request)
    (settle_atMost active hs hp request expected)

end Counts

section Refused

variable {request paying : Request} {offer : Offer} {demand : Response}
  {dealings more : List Happening}

/-- What passes between a node and others in surroundings in which the token does not fire. -/
structure Passes (w : World) (dealings : List Happening) (w' : World) : Prop where
  silent : w'.Silent
  parties : w.SameParties w'
  later : w.Later w'
  dealings : w.dealingsSince w' = dealings

theorem Passes.trans {between : World} (first : Passes w dealings between)
    (further : Passes between more w') : Passes w (dealings ++ more) w' where
  silent := further.silent
  parties := first.parties.trans further.parties
  later := first.later.trans further.later
  dealings := by rw [first.later.dealingsSince_trans further.later, first.dealings, further.dealings]

theorem Passes.answer {question : Run.Ask} {reply : question.Reply} (silent : w.Silent)
    (h : w.answer question = some (reply, w')) (other : question ≠ .within .cancel) :
    Passes w ((question.entry w reply).toList.filter Happening.isDealing) w' where
  silent := silent.answer h other
  parties := .answer h
  later := .answer h
  dealings := World.dealingsSince_answer h

/-- Whoever is asked for the resource of an item asks for a payment at once, whether or not there is
one; the node may pay, and has a wallet that does. -/
structure Insatiable (ctx : Context) (index : Nat) (request : Request) (offer : Offer)
    (paying : Request) (demand : Response) (w : World) : Prop where
  silent : w.Silent
  peer : ∀ earlier asked, w.peer earlier asked = .answered 0 demand
  status : demand.status = .paymentRequired
  asks : ∃ expected challenge, prepare ctx index = .ok (request, expected) ∧
    Challenge.ofBytes? demand.body = some challenge ∧
    expected.select challenge.accepts = .ok offer
  reachable : Client.speaks request.url = true
  able : ctx.capabilities.require .wallet = .ok ()
  pays : ∀ earlier, Pays (w.wallet earlier offer) request paying

theorem Insatiable.after (h : Insatiable ctx index request offer paying demand w)
    (passes : Passes w dealings w') : Insatiable ctx index request offer paying demand w' where
  silent := passes.silent
  peer earlier asked := by rw [passes.parties.peer, h.peer]
  status := h.status
  asks := h.asks
  reachable := h.reachable
  able := h.able
  pays earlier := by
    rw [passes.parties.wallet]
    exact h.pays earlier

/-- What a request that is sent comes to. -/
def received (request : Request) : Fate → NodeWork Response
  | .answered after response => do
    NodeWork.ask (.sleep after)
    return response
  | .dropped | .refused => throw (Client.unsent request.url)
  | .silent => NodeWork.hang

theorem send_of_speaks (reachable : Client.speaks request.url = true) :
    Client.send request = (do received request (← NodeWork.ask (.send request))) := by
  unfold Client.send
  rw [if_pos reachable]
  refine congrArg (NodeWork.ask (.send request) >>= ·) (funext fun fate => ?_)
  cases fate <;> rfl

/-- An attempt at which a request is answered at once goes on with the answer. -/
theorem guarded_send (limit : Option Limit) (silent : w.Silent)
    (reachable : Client.speaks request.url = true)
    (peer : ∀ earlier asked, w.peer earlier asked = .answered 0 demand)
    (next : Response → NodeWork Output) :
    ∃ w', Passes w [.sent request (.answered 0 demand)] w' ∧
      perform w (guarded limit (Client.send request >>= next : NodeWork Output)) =
        perform w' (guarded limit (next demand)) := by
  have ha : w.answer (.within (.send request)) =
      some (.answered 0 demand, w.moment.note (.sent request (.answered 0 demand))) := by
    simp [World.answer, World.answerWithin, (World.Akin.moment w).peer, peer]
  refine ⟨_, .answer silent ha (by simp), ?_⟩
  have hcode : guarded limit (Client.send request >>= next : NodeWork Output) =
      .ask (.within (.send request)) fun fate =>
        guarded limit (received request fate >>= next : NodeWork Output) := by
    rw [send_of_speaks reachable]
    rfl
  rw [hcode, perform, ha]
  rfl

/-- An attempt at which an offer is paid goes on with what the wallet gives. -/
theorem guarded_sign (limit : Option Limit) (offer : Offer) (silent : w.Silent)
    (next : Except Failure Proof → NodeWork Output) :
    ∃ w', Passes w [.signed offer] w' ∧
      perform w (guarded limit (NodeWork.ask (.sign offer) >>= next : NodeWork Output)) =
        perform w' (guarded limit (next (w.wallet w.payments offer))) := by
  have ha : w.answer (.within (.sign offer)) =
      some (w.wallet w.payments offer, w.moment.note (.signed offer)) := by
    simp [World.answer, World.answerWithin, (World.Akin.moment w).wallet,
      (World.Akin.moment w).payments]
  refine ⟨_, .answer silent ha (by simp), ?_⟩
  have hcode : guarded limit (NodeWork.ask (.sign offer) >>= next : NodeWork Output) =
      .ask (.within (.sign offer)) fun answer => guarded limit (next answer) := rfl
  rw [hcode, perform, ha]

/-- What passes between the node and others when it pays in vain. -/
def refusal (request : Request) (offer : Offer) (paying : Request) (demand : Response) :
    List Happening :=
  [.sent request (.answered 0 demand), .signed offer, .sent paying (.answered 0 demand)]

/-- A check that succeeds is passed. -/
theorem lift_ok_bind {α β : Type} (value : α) (next : α → NodeWork β) :
    (liftM (.ok value : Except Failure α) >>= next : NodeWork β) = next value := rfl

/-- A node that is asked for a payment by someone insatiable makes it. -/
theorem Insatiable.settle (h : Insatiable ctx index request offer paying demand w) :
    ∃ expected, prepare ctx index = .ok (request, expected) ∧
      settle ctx request expected demand =
        (NodeWork.ask (.sign offer) >>= deliver request offer) := by
  obtain ⟨expected, read, prepared, hread, selected⟩ := h.asks
  have hchallenge : challenge demand = .ok read := by rw [challenge, hread]
  refine ⟨expected, prepared, ?_⟩
  rw [PaidRequest.settle, if_neg (by simp [h.status]), hchallenge, lift_ok_bind, selected,
    lift_ok_bind, h.able, lift_ok_bind]
  rfl

theorem deliver_of_pays {answer : Except Failure Proof} (pays : Pays answer request paying) :
    deliver request offer answer = (Client.send paying >>= accept offer) := by
  obtain ⟨proof, rfl, hadd⟩ := pays
  rw [deliver, lift_ok_bind, hadd, lift_ok_bind]

/-- An attempt pays, and is refused. -/
theorem guarded_refused (limit : Option Limit)
    (h : Insatiable ctx index request offer paying demand w) :
    ∃ w', Passes w (refusal request offer paying demand) w' ∧
      perform w (guarded limit (run ctx index)) = (.returned (.error (rejection demand)), w') := by
  obtain ⟨expected, prepared, hsettle⟩ := h.settle
  have hrun : run ctx index = (Client.send request >>= settle ctx request expected) := by
    rw [run_eq, prepared]
    rfl
  have haccept : accept offer demand = throw (rejection demand) := if_pos h.status
  obtain ⟨asked, first, hfirst⟩ := guarded_send limit h.silent h.reachable h.peer
    (settle ctx request expected)
  obtain ⟨paid, signed, hsigned⟩ := guarded_sign limit offer first.silent
    (deliver request offer)
  have pays := (h.after first).pays asked.payments
  obtain ⟨_, _, hpaying⟩ := pays.eq
  have reachable : Client.speaks paying.url = true := by
    rw [hpaying]
    exact h.reachable
  have greedy := (h.after first).after signed
  obtain ⟨w', second, hsecond⟩ := guarded_send limit greedy.silent reachable greedy.peer
    (accept offer)
  refine ⟨w', first.trans (signed.trans second), ?_⟩
  rw [hrun, hfirst, hsettle, hsigned, deliver_of_pays pays, hsecond, haccept]
  rfl

end Refused

section Item

/-- Whether a wallet is asked to pay. -/
def isSign : Node.Ask → Bool
  | .sign _ => true
  | _ => false

/-- Whether a request is sent. -/
def isSend : Node.Ask → Bool
  | .send _ => true
  | _ => false

variable {request paying : Request} {offer : Offer} {demand : Response}

theorem attempt_refused (limit : Option Nat) (number : Nat)
    (h : Insatiable ctx index request offer paying demand w) :
    ∃ w', Passes w (refusal request offer paying demand) w' ∧
      perform w (attempt node ctx limit index number) =
        (.returned (.error (rejection demand)), w') := by
  have looked : w.answer (.within .isCancelled) = some (w.moment.cancelled, w.moment) := rfl
  have look : Passes w [] w.moment := .answer h.silent looked nofun
  have started : w.moment.answer (.begin (.attempt ctx.nodeId ctx.inputs index number)) =
      some ((), w.moment.note _) := rfl
  have start : Passes w.moment [] (w.moment.note _) := .answer look.silent started nofun
  obtain ⟨w', passes, hr⟩ := guarded_refused (limit.map Limit.of) ((h.after look).after start)
  refine ⟨w', look.trans (start.trans passes), ?_⟩
  rw [attempt, perform_bind_of_returned (perform_isCancelled w), look.silent.cancelled]
  exact hr

theorem persist_refused (limit : Option Nat) (p : RetryPolicy) (number more : Nat)
    (h : Insatiable ctx index request offer paying demand w) :
    ∃ w', Passes w (List.replicate (more + 1) (refusal request offer paying demand)).flatten w' ∧
      perform w (persist node ctx limit p index number more) =
        (.returned (.error (rejection demand)), w') := by
  induction more generalizing w number with
  | zero =>
    obtain ⟨w', passes, hr⟩ := attempt_refused limit number h
    exact ⟨w', by simpa using passes, hr⟩
  | succ more ih =>
    obtain ⟨failed, passes, hr⟩ := attempt_refused limit number h
    obtain ⟨waited, ha, hw⟩ := perform_awaitCancel failed (Node.nap (p.delayFor number))
    have waits : Passes failed [] waited := .answer passes.silent ha nofun
    obtain ⟨w', others, hn⟩ := ih (number + 1) ((h.after passes).after waits)
    refine ⟨w', passes.trans (waits.trans others), ?_⟩
    rw [persist, perform_bind_of_returned hr]
    change perform failed (awaitCancel _ >>= _) = _
    rw [perform_bind_of_returned hw, waits.silent.cancelled]
    exact hn

/-- Where the token does not fire, one who is never content is paid as often as there may be
attempts. -/
theorem item_refused (limit : Option Nat) (policy : Option RetryPolicy)
    (h : Insatiable ctx index request offer paying demand w) :
    ∃ w', Passes w (List.replicate (RetryPolicy.allowed policy)
        (refusal request offer paying demand)).flatten w' ∧
      perform w (item node ctx limit policy index) =
        (.returned (.error (rejection demand)), w') := by
  cases policy with
  | none =>
    obtain ⟨w', passes, hr⟩ := attempt_refused limit 1 h
    exact ⟨w', by simpa [RetryPolicy.allowed] using passes, hr⟩
  | some p =>
    obtain ⟨w', passes, hr⟩ := persist_refused limit p 1 (p.maxAttempts - 1) h
    have hall : p.maxAttempts - 1 + 1 = RetryPolicy.allowed (some p) := by
      rw [RetryPolicy.allowed]
      omega
    exact ⟨w', hall ▸ passes, hr⟩

variable {limit : Option Nat} {policy : Option RetryPolicy} {number : Nat}
  {ending : Ending (Except Failure Output)}

/-- How it goes with an item of the node, round by round. There are no more rounds than attempts
allowed; in each of them there is one payment at most, and two requests; and a payment that is
refused is final in the last round only: before, another round follows, unless the token fires. -/
structure Billed (ctx : Context) (limit : Option Nat) (policy : Option RetryPolicy) (index : Nat)
    (w : World) (rounds : List Round) (ending : Ending (Except Failure Output)) (w' : World) :
    Prop where
  course : Rounds node ctx limit policy index 1 w rounds ending w'
  attempts : rounds.length ≤ RetryPolicy.allowed policy
  dealings : w.dealingsSince w' = rounds.flatMap Round.dealings
  payments : ∀ round ∈ rounds, (round.dealings.filterMap Happening.offer?).length ≤ 1
  requests : ∀ round ∈ rounds, (round.dealings.filterMap Happening.request?).length ≤ 2
  final : ∀ k reason dealings,
    rounds[k]? = some ⟨.returned (.error (.paymentRejected reason)), dealings⟩ →
      k + 1 = RetryPolicy.allowed policy →
        rounds.length = k + 1 ∧ ending = .returned (.error (.paymentRejected reason))
  retried : ∀ k reason dealings,
    rounds[k]? = some ⟨.returned (.error (.paymentRejected reason)), dealings⟩ →
      k + 1 < RetryPolicy.allowed policy → k + 1 < rounds.length ∨
        rounds.length = k + 1 ∧ ending = .returned (.error .cancelled) ∧ w'.cancelled = true

/-- Cut short or not, an attempt makes no more than one payment and two requests. -/
theorem attempt_counts {w : World}
    (h : perform w (attempt node ctx limit index number) = (ending, w')) :
    ((w.dealingsSince w').filterMap Happening.offer?).length ≤ 1 ∧
      ((w.dealingsSince w').filterMap Happening.request?).length ≤ 2 := by
  constructor
  · have active : Node.Ask.Active isSign := ⟨fun _ => rfl, rfl, fun _ => rfl, rfl⟩
    have hrun : Work.AtMost isSign (node.run ctx index number) (0 + (1 + 0)) :=
      run_atMost active (fun _ => Nat.le_refl 0) (fun _ => Nat.le_refl 1) ctx index
    refine attempt_length_le active (fun happening hd => ?_) (fun question w reply hs => ?_) hrun h
    · cases happening <;> first | rfl | cases hd
    · cases question <;> first | rfl | cases hs
  · have active : Node.Ask.Active isSend := ⟨fun _ => rfl, rfl, fun _ => rfl, rfl⟩
    have hrun : Work.AtMost isSend (node.run ctx index number) (1 + (0 + 1)) :=
      run_atMost active (fun _ => Nat.le_refl 1) (fun _ => Nat.le_refl 0) ctx index
    refine attempt_length_le active (fun happening hd => ?_) (fun question w reply hs => ?_) hrun h
    · cases happening <;> first | rfl | cases hd
    · cases question <;> first | rfl | cases hs

theorem item_billed {w : World}
    (h : perform w (item node ctx limit policy index) = (ending, w')) :
    ∃ rounds, Billed ctx limit policy index w rounds ending w' := by
  obtain ⟨rounds, course⟩ := item_rounds h
  have counts := course.forall_mem (P := fun round =>
    (round.dealings.filterMap Happening.offer?).length ≤ 1 ∧
      (round.dealings.filterMap Happening.request?).length ≤ 2) fun _ _ _ _ tried =>
        attempt_counts tried
  have start : 1 ≤ RetryPolicy.allowed policy := by
    unfold RetryPolicy.allowed
    split
    · exact Nat.le_refl 1
    · exact Nat.le_max_right _ _
  have failed (k : Nat) (reason : String) (dealings : List Happening)
      (hk : rounds[k]? = some ⟨.returned (.error (.paymentRejected reason)), dealings⟩) :=
    course.failed hk nofun
  exact ⟨rounds, {
    course
    attempts := by have := course.length_le start; omega
    dealings := course.dealings
    payments := fun round hm => (counts round hm).1
    requests := fun round hm => (counts round hm).2
    final := fun k reason dealings hk hlast => (failed k reason dealings hk).1 (by omega)
    retried := fun k reason dealings hk more => (failed k reason dealings hk).2 (by omega) }⟩

end Item

section Never

/-- What becomes of a payment that is refused. A call of the node is done with then, but an item is
not: as long as its policy allows for another attempt, and the token does not fire, there is one,
and it may pay again. So a second refusal is final where there is one attempt alone, and there only:
one who never is content is paid once for every attempt. When all of them are used up, or there is
one alone, one error is left of the item, which says that its payment was refused. This is so
in whatever surroundings the node is run. -/
theorem pays_per_attempt (ctx : Context) (limit : Option Nat) (policy : Option RetryPolicy) :
    (∀ index w ending w', perform w (item node ctx limit policy index) = (ending, w') →
      ∃ rounds, Billed ctx limit policy index w rounds ending w') ∧
    (∀ w ports w', perform w (RunWork.node node ctx limit policy) = (.returned (.ok ports), w') →
      ∃ ready outcomes, perform w (RunWork.prepare node ctx) = (.returned (.ok ()), ready) ∧
        Outcomes node ctx limit policy ready (List.range ctx.itemCount) outcomes w' ∧
        ∀ i reason, outcomes[i]? = some (.error (.paymentRejected reason)) →
          (failureItem ctx (.paymentRejected reason) i).error.map ItemError.kind =
            some "payment_rejected" ∧
          ∀ port, (ports.on port).filter (·.pairedItem = some i) =
            if port = 0 then [failureItem ctx (.paymentRejected reason) i] else []) ∧
    ∀ index w request offer paying demand,
      Insatiable ctx index request offer paying demand w →
        ∃ w', perform w (item node ctx limit policy index) =
            (.returned (.error (rejection demand)), w') ∧
          w.dealingsSince w' = (List.replicate (RetryPolicy.allowed policy)
            (refusal request offer paying demand)).flatten := by
  refine ⟨fun index w ending w' h => item_billed h, fun w ports w' h => ?_,
    fun index w request offer paying demand h => ?_⟩
  · have hready : perform w (RunWork.prepare node ctx) = (.returned (.ok ()), _) := rfl
    obtain ⟨blanks, roomy, hitems⟩ := items_of_node h hready
    obtain ⟨outcomes, chain, hone⟩ := items_failed roomy hitems
    exact ⟨_, outcomes, hready, chain, fun i reason ho => ⟨rfl, hone i _ ho⟩⟩
  · obtain ⟨w', passes, hr⟩ := item_refused limit policy h
    exact ⟨w', hr, passes.dealings⟩

/-- A server that asks whoever comes for a payment, and a wallet that pays anything. -/
def tollkeeper : World :=
  { tollgate with
    peer := fun _ _ => .answered 0 {
      status := .paymentRequired, body := Text.Utf8.encode tollgate.toll } }

def order : Placed where
  id := "buy"
  type := "x402.request"
  parameters := errand.parameters
  retryPolicy := some { maxAttempts := 2, delayMillis := 0 }

def customer : Executor where
  registry := Nodes.standard
  capabilities := errand.capabilities

def ordered : Context := customer.context ⟨0⟩ order node [[.empty]]

theorem tollkeeper_insatiable : ∃ request offer paying demand,
    Insatiable ordered 0 request offer paying demand tollkeeper := by
  let demand : Response := { status := .paymentRequired, body := Text.Utf8.encode tollgate.toll }
  obtain ⟨⟨request, expected⟩, prepared, h⟩ : ∃ prepared, prepare ordered 0 = .ok prepared ∧
      (do
        let read ← challenge demand
        let offer ← prepared.2.select read.accepts
        let proof ← tollkeeper.wallet [] offer
        let _ ← Client.addHeader paymentHeader proof.toHeader prepared.1
        return Client.speaks prepared.1.url : Except Failure Bool) = .ok true :=
    ⟨_, rfl, by decide +kernel⟩
  obtain ⟨read, hread, h⟩ := bind_eq_ok.mp h
  obtain ⟨offer, selected, h⟩ := bind_eq_ok.mp h
  obtain ⟨proof, signed, h⟩ := bind_eq_ok.mp h
  obtain ⟨paying, attached, h⟩ := bind_eq_ok.mp h
  exact ⟨request, offer, paying, demand, {
    silent := ⟨rfl, rfl⟩
    peer := fun _ _ => rfl
    status := rfl
    asks := ⟨expected, read, prepared, challenge_eq_ok hread, selected⟩
    reachable := Except.ok.inj h
    able := rfl
    pays := fun _ => ⟨proof, signed, attached⟩ }⟩

theorem pays_per_attempt_tollkeeper :
    (∃ reason rounds w', perform tollkeeper (item node ordered none order.retryPolicy 0) =
        (.returned (.error (.paymentRejected reason)), w') ∧
      Billed ordered none order.retryPolicy 0 tollkeeper rounds
        (.returned (.error (.paymentRejected reason))) w' ∧
      ((tollkeeper.dealingsSince w').filterMap Happening.offer?).length = 2) ∧
    ∃ reason ports w', perform tollkeeper (RunWork.node node ordered none none) =
        (.returned (.ok ports), w') ∧
      (ports.on 0).filter (·.pairedItem = some 0) =
        [failureItem ordered (.paymentRejected reason) 0] := by
  obtain ⟨request, offer, paying, demand, h⟩ := tollkeeper_insatiable
  constructor
  · obtain ⟨billed, _, paid⟩ := pays_per_attempt ordered none order.retryPolicy
    obtain ⟨w', hr, hd⟩ := paid 0 _ _ _ _ _ h
    obtain ⟨rounds, hb⟩ := billed 0 _ _ _ hr
    exact ⟨_, rounds, w', hr, hb, by rw [hd]; rfl⟩
  · obtain ⟨_, left, paid⟩ := pays_per_attempt ordered none none
    have hok : (perform tollkeeper (RunWork.node node ordered none none)).1.isOk = true := by
      decide +kernel
    obtain ⟨ports, w', hn⟩ := ok_of_isOk hok
    obtain ⟨ready, outcomes, hready, chain, hone⟩ := left _ _ _ hn
    cases hready
    -- There is one item, and its outcome is that its payment was refused.
    cases chain with
    | cons ran kept others =>
      obtain ⟨_, hr, _⟩ := paid 0 (tollkeeper.note (.began (.setup "buy" [[.empty]]))).moment _ _ _ _
        ⟨⟨rfl, rfl⟩, h.peer, h.status, h.asks, h.reachable, h.able, h.pays⟩
      obtain ⟨ho, _⟩ := Prod.mk.inj (ran.symm.trans hr)
      obtain rfl := Ending.returned.inj ho
      exact ⟨_, ports, w', hn, (hone 0 _ rfl).2 0⟩

def shopping : Workflow where
  id := "shopping"
  nodes := [order]
  edges := []

/-- Where the first attempt begins. -/
def begun : World :=
  ((Executor.started shopping tollkeeper).moment.note (.began (.setup "buy" [[.empty]]))).moment

/-- In a run of an accepted workflow, a payment is refused, and another one is made after it for the
same item. -/
theorem pays_again :
    ∃ before failed w' result reason,
      (customer.validate shopping).isOk = true ∧
      Performs tollkeeper (customer.execute ⟨0⟩ shopping (some [.empty])) before
        (attempt node ordered none 0 1) ∧
      perform before (attempt node ordered none 0 1) =
        (.returned (.error (.paymentRejected reason)), failed) ∧
      perform tollkeeper (customer.execute ⟨0⟩ shopping (some [.empty])) =
        (.returned (.ok result), w') ∧
      ((failed.dealingsSince w').filterMap Happening.offer?).length = 1 ∧
      ((failed.dealingsSince w').filterMap Happening.request?).length = 2 := by
  have within : Performs tollkeeper (customer.execute ⟨0⟩ shopping (some [.empty])) _
      (RunWork.node node ordered none order.retryPolicy) :=
    Executor.performs_alone rfl rfl rfl rfl
  have tried := ((within.rest rfl).rest (perform_isCancelled _)).first.first
  obtain ⟨request, offer, paying, demand, h⟩ := tollkeeper_insatiable
  obtain ⟨failed, _, hr⟩ := attempt_refused none 1
    (Insatiable.mk (w := begun) ⟨rfl, rfl⟩ h.peer h.status h.asks h.reachable h.able h.pays)
  have hfailed : failed = (perform begun (attempt node ordered none 0 1)).2 := by rw [hr]
  have hok : (perform tollkeeper (customer.execute ⟨0⟩ shopping (some [.empty]))).1.isOk = true := by
    decide +kernel
  obtain ⟨result, w', hrun⟩ := ok_of_isOk hok
  have hw : w' = (perform tollkeeper (customer.execute ⟨0⟩ shopping (some [.empty]))).2 := by
    rw [hrun]
  refine ⟨begun, failed, w', result, _, rfl, tried, hr, hrun, ?_⟩
  rw [hfailed, hw]
  decide +kernel

end Never

end Nodes.PaidRequest
end Conveyor
