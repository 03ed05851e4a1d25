import Conveyor.Nodes.PaidRequest
import Conveyor.Proofs.Parameters

namespace Conveyor
open RunWork

namespace Payment.Expected

variable {expected : Expected} {offers : List Offer} {offer : Offer}

/-- An offer that is selected is one of those made, suits, and costs no more than there is to
spend. -/
theorem select_eq_ok (h : expected.select offers = .ok offer) :
    offer ∈ offers ∧ expected.suits offer = true ∧
      ∀ cap, expected.maxAmount = some cap →
        ∃ required, amount? offer.maxAmountRequired = some required ∧ required ≤ cap := by
  unfold select at h
  split at h
  · cases h
  split at h
  next chosen hfound =>
    unfold checkCap at h
    split at h
    next hfree =>
      cases h
      exact ⟨List.mem_of_find?_eq_some hfound, List.find?_some hfound, by simp [hfree]⟩
    next cap hcap =>
      split at h
      · cases h
      next required hrequired =>
        split at h
        · cases h
        next hle =>
          cases h
          refine ⟨List.mem_of_find?_eq_some hfound, List.find?_some hfound, fun limit hl => ?_⟩
          cases hcap.symm.trans hl
          exact ⟨required, hrequired, Nat.not_lt.mp hle⟩
  · cases h

end Payment.Expected

namespace Nodes.PaidRequest
open Http Payment

variable {ctx : Context} {index : Nat} {request : Request} {expected : Expected} {offer : Offer}

section Parameters

/-- Something about the parameters does not resolve, or cannot be read as what it should be. -/
inductive Unclear (ctx : Context) (index : Nat) : Prop
  | text {name : String} {e : Failure}
      (named : name ∈ ["url", "method", "scheme", "network", "asset"])
      (fails : ctx.text name index = .error e)
  | optional {name : String} {e : Failure} (named : name ∈ ["body", "maxAmount"])
      (fails : ctx.optional name index = .error e)
  | address {url : String} (given : ctx.text "url" index = .ok url)
      (unreadable : Url.ofText? url = none)
  | method {method : String} (given : ctx.text "method" index = .ok method)
      (unreadable : Method.ofName? method = none)
  | amount {text : String} (given : ctx.optional "maxAmount" index = .ok (some (.str text)))
      (unreadable : amount? text = none)

/-- An offer that the parameters of a request allow to be paid. -/
structure Payable (ctx : Context) (index : Nat) (offer : Offer) : Prop where
  scheme : ctx.text "scheme" index = .ok offer.scheme
  network : ctx.text "network" index = .ok offer.network
  asset : ctx.text "asset" index = .ok offer.asset
  amount {value : Json} (limited : ctx.optional "maxAmount" index = .ok (some value)) :
    ∃ text cap required, value = .str text ∧ amount? text = some cap ∧
      amount? offer.maxAmountRequired = some required ∧ required ≤ cap

theorem cap_eq_ok {limit : Option Nat} (h : cap ctx index = .ok limit) :
    ∃ value, ctx.optional "maxAmount" index = .ok value ∧
      ∀ text, value = some (.str text) → ∃ n, amount? text = some n ∧ limit = some n := by
  obtain ⟨value, hvalue, h⟩ := bind_eq_ok.mp h
  refine ⟨value, hvalue, ?_⟩
  rintro text rfl
  simp only at h
  split at h
  next n hn =>
    cases h
    exact ⟨n, hn, rfl⟩
  · cases h

theorem expected_eq_ok (h : PaidRequest.expected ctx index = .ok expected) :
    cap ctx index = .ok expected.maxAmount ∧ ctx.text "scheme" index = .ok expected.scheme ∧
      ctx.text "network" index = .ok expected.network ∧
      ctx.text "asset" index = .ok expected.asset := by
  obtain ⟨limit, hlimit, h⟩ := bind_eq_ok.mp h
  obtain ⟨scheme, hscheme, h⟩ := bind_eq_ok.mp h
  obtain ⟨network, hnetwork, h⟩ := bind_eq_ok.mp h
  obtain ⟨asset, hasset, h⟩ := bind_eq_ok.mp h
  cases h
  exact ⟨hlimit, hscheme, hnetwork, hasset⟩

theorem prepare_eq_ok (h : prepare ctx index = .ok (request, expected)) :
    ∃ url method body, ctx.text "url" index = .ok url ∧ ctx.text "method" index = .ok method ∧
      ctx.optional "body" index = .ok body ∧ PaidRequest.expected ctx index = .ok expected ∧
      Client.prepare method url body = .ok request := by
  obtain ⟨url, hurl, h⟩ := bind_eq_ok.mp h
  obtain ⟨method, hmethod, h⟩ := bind_eq_ok.mp h
  obtain ⟨body, hbody, h⟩ := bind_eq_ok.mp h
  obtain ⟨willing, hwilling, h⟩ := bind_eq_ok.mp h
  obtain ⟨ready, hready, h⟩ := bind_eq_ok.mp h
  cases h
  exact ⟨url, method, body, hurl, hmethod, hbody, hwilling, hready⟩

theorem Unclear.prepare_ne_ok (unclear : Unclear ctx index) :
    prepare ctx index ≠ .ok (request, expected) := by
  intro h
  obtain ⟨url, method, body, hurl, hmethod, hbody, hexpected, hready⟩ := prepare_eq_ok h
  obtain ⟨hcap, hscheme, hnetwork, hasset⟩ := expected_eq_ok hexpected
  obtain ⟨limit, hlimit, hamount⟩ := cap_eq_ok hcap
  obtain ⟨hverb, haddress, -⟩ := Client.prepare_eq_ok hready
  cases unclear with
  | text named fails =>
    have resolved : ∀ name ∈ ["url", "method", "scheme", "network", "asset"],
        ∃ text, ctx.text name index = .ok text := by
      simp [hurl, hmethod, hscheme, hnetwork, hasset]
    obtain ⟨text, htext⟩ := resolved _ named
    cases fails.symm.trans htext
  | optional named fails =>
    have resolved : ∀ name ∈ ["body", "maxAmount"], ∃ value, ctx.optional name index = .ok value := by
      simp [hbody, hlimit]
    obtain ⟨value, hvalue⟩ := resolved _ named
    cases fails.symm.trans hvalue
  | address given unreadable =>
    cases hurl.symm.trans given
    simp [unreadable] at haddress
  | method given unreadable =>
    cases hmethod.symm.trans given
    simp [unreadable] at hverb
  | amount given unreadable =>
    obtain ⟨n, hn, -⟩ := hamount _ (Except.ok.inj (hlimit.symm.trans given))
    cases unreadable.symm.trans hn

/-- With the declared parameters, an upper bound is a text. -/
theorem limit_eq_str (typed : ctx.description = description) {value : Json}
    (limited : ctx.optional "maxAmount" index = .ok (some value)) : ∃ text, value = .str text := by
  have hfree : ctx.isRequired "maxAmount" = false := by
    rw [Context.isRequired, typed]
    rfl
  rcases Context.optional_eq_ok_iff.mp limited with ⟨value, ⟨⟩, given, unnull⟩ | ⟨⟨⟩, -⟩
  have allowed := (Context.parameterOr_eq_ok_iff.mp given).2 _ (by rw [typed]; rfl)
  cases value with
  | str text => exact ⟨text, rfl⟩
  | null => cases hfree.symm.trans (unnull rfl)
  | bool | num | arr | obj => simp [Kind.accepts] at allowed

/-- What is selected from a challenge may be paid. -/
theorem payable_of_select (typed : ctx.description = description) {offers : List Offer}
    (hp : prepare ctx index = .ok (request, expected)) (hs : expected.select offers = .ok offer) :
    Payable ctx index offer := by
  obtain ⟨_, _, _, -, -, -, hexpected, -⟩ := prepare_eq_ok hp
  obtain ⟨hcap, hscheme, hnetwork, hasset⟩ := expected_eq_ok hexpected
  obtain ⟨-, hsuits, hwithin⟩ := Expected.select_eq_ok hs
  simp only [Expected.suits, Bool.and_eq_true, decide_eq_true_eq] at hsuits
  obtain ⟨⟨hs, hn⟩, ha⟩ := hsuits
  refine ⟨hs ▸ hscheme, hn ▸ hnetwork, ha ▸ hasset, fun {value} limited => ?_⟩
  obtain ⟨text, rfl⟩ := limit_eq_str typed limited
  obtain ⟨found, hfound, hamount⟩ := cap_eq_ok hcap
  obtain ⟨cap, hn, hlimit⟩ := hamount text (Except.ok.inj (hfound.symm.trans limited))
  obtain ⟨required, hrequired, hle⟩ := hwithin cap hlimit
  exact ⟨text, cap, required, rfl, hn, hrequired, hle⟩

end Parameters

section Courses

variable {w w' : World} {response : Response} {ending : Ending (Except Failure Output)}

/-- A node's work once there is an offer to pay. -/
def pay (request : Request) (offer : Offer) : NodeWork Output := do
  let proof ← liftM (← NodeWork.ask (.sign offer))
  let paying ← liftM (Client.addHeader paymentHeader proof.toHeader request)
  let second ← Client.send paying
  if second.status = .paymentRequired then throw (rejection second)
  else liftM (finish second (some offer))

/-- A node's work once the first answer is there. -/
def settle (ctx : Context) (request : Request) (expected : Expected) (first : Response) :
    NodeWork Output := do
  if first.status ≠ .paymentRequired then liftM (finish first none)
  else
    let challenge ← liftM (challenge first)
    let offer ← liftM (expected.select challenge.accepts)
    let _ ← liftM (ctx.capabilities.require .wallet)
    pay request offer

theorem run_eq (ctx : Context) (index : Nat) :
    run ctx index = (do
      let (request, expected) ← liftM (prepare ctx index)
      settle ctx request expected (← Client.send request)) := rfl

theorem challenge_eq_ok {first : Response} {read : Challenge} (h : challenge first = .ok read) :
    Challenge.ofBytes? first.body = some read := by
  unfold challenge at h
  split at h
  next hread =>
    cases h
    exact hread
  · cases h

/-- The request that a wallet's proof goes with. -/
def Pays (answer : Except Failure Proof) (request paying : Request) : Prop :=
  ∃ proof, answer = .ok proof ∧
    Client.addHeader paymentHeader proof.toHeader request = .ok paying

/-- How it may go with an offer that is to be paid: there is nothing to send; there is no answer;
the payment is refused; or there is an answer that counts. -/
inductive Buys (answer : Except Failure Proof) (request : Request) (offer : Offer) :
    List Happening → Ending (Except Failure Output) → Prop
  | unpaid (e : Failure) : Buys answer request offer [.signed offer] (.returned (.error e))
  | unserved {paying : Request} (pays : Pays answer request paying) (fate : Fate)
      (unanswered : ∀ after response, fate ≠ .answered after response)
      {ending : Ending (Except Failure Output)} (fails : ending.isOk = false) :
      Buys answer request offer [.signed offer, .sent paying fate] ending
  | refused {paying : Request} (pays : Pays answer request paying) (after : Nat)
      {second : Response} (status : second.status = .paymentRequired) :
      Buys answer request offer [.signed offer, .sent paying (.answered after second)]
        (.returned (.error (rejection second)))
  | served {paying : Request} (pays : Pays answer request paying) (after : Nat)
      {second : Response} (status : second.status ≠ .paymentRequired) :
      Buys answer request offer [.signed offer, .sent paying (.answered after second)]
        (.returned (finish second (some offer)))

theorem pay_buys (h : perform w (freely (pay request offer)) = (ending, w')) :
    Buys (w.wallet w.payments offer) request offer (w.dealingsSince w') ending := by
  obtain ⟨answer, between, hs, hanswer, hsigned⟩ : ∃ answer between,
      w.answer (.within (.sign offer)) = some (answer, between) ∧
        answer = w.wallet w.payments offer ∧ w.dealingsSince between = [.signed offer] := by
    refine ⟨_, _, rfl, ?_, @World.dealingsSince_answer _ _ (.within (.sign offer)) _ rfl⟩
    rw [← (World.Akin.moment w).wallet, ← (World.Akin.moment w).payments]
  have stops (e : Failure) (h : (.returned (.error e), between) = (ending, w')) :
      Buys (w.wallet w.payments offer) request offer (w.dealingsSince w') ending := by
    cases h
    rw [hsigned]
    exact .unpaid e
  unfold pay at h
  rw [perform_freely_ask hs] at h
  cases answer with
  | error e => exact stops e h
  | ok proof =>
    rw [perform_freely_ok] at h
    cases hadd : Client.addHeader paymentHeader proof.toHeader request with
    | error e =>
      rw [hadd, perform_freely_error] at h
      exact stops e h
    | ok paying =>
      have pays : Pays (w.wallet w.payments offer) request paying := ⟨proof, hanswer.symm, hadd⟩
      rw [hadd, perform_freely_ok] at h
      rcases hf : perform between (freely (Client.send paying)) with ⟨second, answered⟩
      have hdealings : w.dealingsSince answered =
          .signed offer :: between.dealingsSince answered := by
        rw [(World.Later.answer hs).dealingsSince_trans (later_of_perform hf), hsigned]
        rfl
      cases Client.send_sends hf with
      | unsent e =>
        rw [perform_freely_bind, hf] at h
        exact stops e h
      | lost fate unanswered fails dealings =>
        obtain ⟨failed, hp, hfails⟩ := perform_freely_of_not_ok hf fails _
        cases hp.symm.trans h
        rw [hdealings, dealings]
        exact .unserved pays fate unanswered hfails
      | answered after response dealings =>
        rw [perform_freely_of_ok hf] at h
        rw [dealings] at hdealings
        split at h
        next hstatus =>
          cases h
          rw [hdealings]
          exact .refused pays after hstatus
        next hstatus =>
          rw [perform_freely_lift] at h
          cases h
          rw [hdealings]
          exact .served pays after hstatus

/-- How a call may go: nothing is sent; there is no answer, or one that ends it; the resource is
free; the resource is to be paid for. -/
inductive Course (ctx : Context) (index : Nat) (w : World) :
    List Happening → Ending (Except Failure Output) → Prop
  | unsent (e : Failure) : Course ctx index w [] (.returned (.error e))
  | failed {request : Request} {expected : Expected}
      (prepared : prepare ctx index = .ok (request, expected)) (fate : Fate)
      {ending : Ending (Except Failure Output)} (fails : ending.isOk = false) :
      Course ctx index w [.sent request fate] ending
  | free {request : Request} {expected : Expected}
      (prepared : prepare ctx index = .ok (request, expected)) (after : Nat) (first : Response) :
      Course ctx index w [.sent request (.answered after first)] (.returned (finish first none))
  | priced {request : Request} {expected : Expected}
      (prepared : prepare ctx index = .ok (request, expected)) (after : Nat) {first : Response}
      (status : first.status = .paymentRequired) {challenge : Challenge}
      (read : Challenge.ofBytes? first.body = some challenge) {offer : Offer}
      (selected : expected.select challenge.accepts = .ok offer) {dealings : List Happening}
      {ending : Ending (Except Failure Output)}
      (buys : Buys (w.wallet w.payments offer) request offer dealings ending) :
      Course ctx index w (.sent request (.answered after first) :: dealings) ending

theorem settle_course {answered : World} {after : Nat} {first : Response}
    (prepared : prepare ctx index = .ok (request, expected)) (later : w.Later answered)
    (parties : w.SameParties answered)
    (sent : w.dealingsSince answered = [.sent request (.answered after first)])
    (h : perform answered (freely (settle ctx request expected first)) = (ending, w')) :
    Course ctx index w (w.dealingsSince w') ending := by
  have stops (e : Failure) (h : (.returned (.error e), answered) = (ending, w')) :
      Course ctx index w (w.dealingsSince w') ending := by
    cases h
    rw [sent]
    exact .failed prepared _ rfl
  unfold settle at h
  split at h
  · rw [perform_freely_lift] at h
    cases h
    rw [sent]
    exact .free prepared after first
  next hstatus =>
    have hstatus : first.status = .paymentRequired := by simpa using hstatus
    cases hread : challenge first with
    | error e =>
      rw [hread, perform_freely_error] at h
      exact stops e h
    | ok read =>
      rw [hread, perform_freely_ok] at h
      cases hselect : expected.select read.accepts with
      | error e =>
        rw [hselect, perform_freely_error] at h
        exact stops e h
      | ok offer =>
        rw [hselect, perform_freely_ok] at h
        cases hwallet : ctx.capabilities.require .wallet with
        | error e =>
          rw [hwallet, perform_freely_error] at h
          exact stops e h
        | ok given =>
          rw [hwallet, perform_freely_ok] at h
          -- Nothing was paid for on the way here: the wallet is asked as it would be at the start.
          have hpayments : answered.payments = w.payments := by
            rw [later.payments_eq, sent]
            rfl
          have hbuys := pay_buys h
          rw [parties.wallet, hpayments] at hbuys
          rw [later.dealingsSince_trans (later_of_perform h), sent]
          exact .priced prepared after hstatus (challenge_eq_ok hread) hselect hbuys

theorem run_course (h : perform w (freely (run ctx index)) = (ending, w')) :
    Course ctx index w (w.dealingsSince w') ending := by
  rw [run_eq] at h
  cases hp : prepare ctx index with
  | error e =>
    rw [hp, perform_freely_error] at h
    cases h
    rw [World.dealingsSince_self]
    exact .unsent e
  | ok prepared =>
    obtain ⟨request, expected⟩ := prepared
    rw [hp, perform_freely_ok] at h
    simp only at h
    rcases hf : perform w (freely (Client.send request)) with ⟨first, answered⟩
    cases Client.send_sends hf with
    | unsent e =>
      rw [perform_freely_bind, hf] at h
      cases h
      rw [World.dealingsSince_self]
      exact .unsent e
    | lost fate unanswered fails dealings =>
      obtain ⟨failed, hn, hfails⟩ := perform_freely_of_not_ok hf fails _
      cases hn.symm.trans h
      rw [dealings]
      exact .failed hp fate hfails
    | answered after response dealings =>
      rw [perform_freely_of_ok hf] at h
      exact settle_course hp (later_of_perform hf) (parties_of_perform hf) dealings h

theorem finish_eq_ok {paid : Option Offer} {output : Output}
    (h : finish response paid = .ok output) : response.status.isSuccess = true ∧
      ∃ json, output.items = [json] ∧
        json.get? "payment" = some (orNull (paid.map Offer.toJson)) := by
  unfold finish at h
  split at h
  next hsuccess =>
    cases h
    refine ⟨hsuccess, _, rfl, ?_⟩
    rw [Json.ofFields, Json.get?, Table.get?_ofList (by simp)]
    simp [Table.get?]
  · cases h

/-- Requests for the same, whatever their headers. -/
def Alike (one other : Request) : Prop :=
  other.method = one.method ∧ other.url = one.url ∧ other.body = one.body

/-- A request that is paid for asks for the same, with a header that only a payment brings. -/
theorem Pays.eq {answer : Except Failure Proof} {paying : Request} (h : Pays answer request paying) :
    ∃ proof, answer = .ok proof ∧ paying = { request with
      headers := request.headers ++ [⟨"x-payment", Text.Utf8.encode proof.toHeader⟩] } := by
  obtain ⟨proof, hproof, hadd⟩ := h
  have hname : String.ofList (paymentHeader.toList.map Char.toLower) = "x-payment" := by
    decide +kernel
  exact ⟨proof, hproof, hname ▸ Client.addHeader_eq_ok hadd⟩

theorem Pays.alike {answer : Except Failure Proof} {paying : Request}
    (h : Pays answer request paying) : Alike request paying := by
  obtain ⟨proof, -, rfl⟩ := h.eq
  exact ⟨rfl, rfl, rfl⟩

namespace Course

variable {dealings : List Happening} (course : Course ctx index w dealings ending)

include course

theorem cautious (unclear : Unclear ctx index) : dealings = [] := by
  cases course with
  | unsent e => rfl
  | failed prepared | free prepared | priced prepared => cases unclear.prepare_ne_ok prepared

theorem modest : (dealings.filterMap Happening.request?).length ≤ 2 ∧
    (dealings.filterMap Happening.offer?).length ≤ 1 := by
  cases course with
  | unsent | failed | free => simp [List.filterMap_cons, Happening.request?, Happening.offer?]
  | priced prepared after status read selected buys =>
    cases buys <;> simp [List.filterMap_cons, Happening.request?, Happening.offer?]

theorem alike : (dealings.filterMap Happening.request?).Pairwise Alike := by
  cases course with
  | unsent | failed | free => simp [Happening.request?]
  | priced prepared after status read selected buys =>
    cases buys with
    | unpaid => simp [List.filterMap_cons, Happening.request?]
    | unserved pays | refused pays | served pays =>
      simpa [List.filterMap_cons, Happening.request?] using pays.alike

theorem bare {fate : Fate} {header : Header} (first : dealings.head? = some (.sent request fate))
    (hm : header ∈ request.headers) : header.name ≠ "x-payment" := by
  cases course with
  | unsent => cases first
  | failed prepared | free prepared | priced prepared =>
    cases first
    obtain ⟨_, _, _, -, -, -, -, ready⟩ := prepare_eq_ok prepared
    rcases (Client.prepare_eq_ok ready).2.2 header hm with hname | hname
    · simp [hname]
    · simp [hname]

theorem signed (typed : ctx.description = description) (hm : .signed offer ∈ dealings) :
    ∃ request after first challenge later,
      dealings = .sent request (.answered after first) :: .signed offer :: later ∧
        first.status = .paymentRequired ∧ Challenge.ofBytes? first.body = some challenge ∧
        offer ∈ challenge.accepts ∧ Payable ctx index offer := by
  cases course with
  | unsent | failed | free => simp at hm
  | @priced request _ prepared after first status challenge read chosen selected dealings _ buys =>
    obtain ⟨later, rfl, none⟩ : ∃ later, dealings = .signed chosen :: later ∧
        .signed offer ∉ later := by
      cases buys <;> exact ⟨_, rfl, by simp⟩
    obtain rfl : offer = chosen := by simpa [none] using hm
    exact ⟨request, after, first, challenge, later, rfl, status, read,
      (Expected.select_eq_ok selected).1, payable_of_select typed prepared selected⟩

theorem paying {paying : Request} {fate : Fate} (hm : .sent paying fate ∈ dealings.tail) :
    ∃ request answer offer proof,
      dealings = [.sent request answer, .signed offer, .sent paying fate] ∧
        w.wallet w.payments offer = .ok proof ∧ paying = { request with
          headers := request.headers ++ [⟨"x-payment", Text.Utf8.encode proof.toHeader⟩] } := by
  cases course with
  | unsent | failed | free => simp at hm
  | @priced request _ prepared after first status challenge read offer selected dealings _ buys =>
    cases buys with
    | unpaid => simp at hm
    | unserved pays | refused pays | served pays =>
      simp only [List.tail_cons, List.mem_cons, reduceCtorEq, List.not_mem_nil, or_false, false_or,
        Happening.sent.injEq] at hm
      obtain ⟨rfl, rfl⟩ := hm
      obtain ⟨proof, hproof, heq⟩ := pays.eq
      exact ⟨request, _, offer, proof, rfl, hproof, heq⟩

theorem rejected {paying : Request} {after : Nat} {second : Response}
    (hm : .sent paying (.answered after second) ∈ dealings.tail)
    (refused : second.status = .paymentRequired) :
    ∃ reason, ending = .returned (.error (.paymentRejected reason)) := by
  cases course with
  | unsent | failed | free => simp at hm
  | priced prepared _ status read selected buys =>
    cases buys with
    | unpaid => simp at hm
    | @unserved sent pays fate unanswered =>
      obtain ⟨-, hfate⟩ : paying = sent ∧ .answered after second = fate := by simpa using hm
      exact absurd hfate.symm (unanswered after second)
    | refused => exact ⟨_, rfl⟩
    | @served sent pays delay answer counts =>
      obtain ⟨-, -, rfl⟩ : paying = sent ∧ after = delay ∧ second = answer := by simpa using hm
      exact absurd refused counts

theorem served {output : Output} (ok : ending = .returned (.ok output)) :
    ∃ request after last json, dealings.getLast? = some (.sent request (.answered after last)) ∧
      last.status.isSuccess = true ∧ output.items = [json] ∧
        json.get? "payment" =
          some (orNull ((dealings.findSome? Happening.offer?).map Offer.toJson)) := by
  cases course with
  | unsent => cases ok
  | failed prepared fate fails => rw [ok] at fails; cases fails
  | @free request _ prepared after first =>
    obtain ⟨hsuccess, json, hitems, hpayment⟩ := finish_eq_ok (Ending.returned.inj ok)
    exact ⟨request, after, first, json, rfl, hsuccess, hitems, hpayment⟩
  | priced prepared after status read selected buys =>
    cases buys with
    | unpaid | refused => cases ok
    | unserved pays fate unanswered fails => rw [ok] at fails; cases fails
    | @served paying pays after second status =>
      obtain ⟨hsuccess, json, hitems, hpayment⟩ := finish_eq_ok (Ending.returned.inj ok)
      exact ⟨paying, after, second, json, rfl, hsuccess, hitems, hpayment⟩

end Course

/-- What a call of the node may do to others and how it may end: nothing is sent unless everything
is clear; there are at most two requests, for the same, the first of them without a payment; at
most one offer is paid, from the body of a first answer that asks for it, and as the parameters
allow; the second request carries what the wallet gave for that offer; where it is not enough, the
call fails; where the call succeeds, so did the last request, and the payment is on record.
Requests are what the node has its client send: how the client gets an answer is its own affair. -/
structure Safe (ctx : Context) (index : Nat) (w : World) (dealings : List Happening)
    (ending : Ending (Except Failure Output)) : Prop where
  cautious (unclear : Unclear ctx index) : dealings = []
  requests : (dealings.filterMap Happening.request?).length ≤ 2
  alike : (dealings.filterMap Happening.request?).Pairwise Alike
  bare {request : Request} {fate : Fate} {header : Header}
    (first : dealings.head? = some (.sent request fate)) (hm : header ∈ request.headers) :
    header.name ≠ "x-payment"
  payments : (dealings.filterMap Happening.offer?).length ≤ 1
  signed {offer : Offer} (hm : .signed offer ∈ dealings) :
    ∃ request after first challenge later,
      dealings = .sent request (.answered after first) :: .signed offer :: later ∧
        first.status = .paymentRequired ∧ Challenge.ofBytes? first.body = some challenge ∧
        offer ∈ challenge.accepts ∧ Payable ctx index offer
  paying {paying : Request} {fate : Fate} (hm : .sent paying fate ∈ dealings.tail) :
    ∃ request answer offer proof,
      dealings = [.sent request answer, .signed offer, .sent paying fate] ∧
        w.wallet w.payments offer = .ok proof ∧ paying = { request with
          headers := request.headers ++ [⟨"x-payment", Text.Utf8.encode proof.toHeader⟩] }
  rejected {paying : Request} {after : Nat} {second : Response}
    (hm : .sent paying (.answered after second) ∈ dealings.tail)
    (refused : second.status = .paymentRequired) :
    ∃ reason, ending = .returned (.error (.paymentRejected reason))
  served {output : Output} (ok : ending = .returned (.ok output)) :
    ∃ request after last json, dealings.getLast? = some (.sent request (.answered after last)) ∧
      last.status.isSuccess = true ∧ output.items = [json] ∧
        json.get? "payment" =
          some (orNull ((dealings.findSome? Happening.offer?).map Offer.toJson))

/-- Whatever servers and wallets answer, the node pays safely. It is run in contexts that carry its
own description, as those of an executor do. -/
theorem pays_safely {attempt : Nat} (typed : ctx.description = node.description)
    (h : perform w (freely (node.run ctx index attempt)) = (ending, w')) :
    Safe ctx index w (w.dealingsSince w') ending := by
  have course : Course ctx index w (w.dealingsSince w') ending := run_course h
  obtain ⟨hrequests, hpayments⟩ := course.modest
  exact {
    cautious := course.cautious
    requests := hrequests
    alike := course.alike
    bare := course.bare
    payments := hpayments
    signed := course.signed typed
    paying := course.paying
    rejected := course.rejected
    served := course.served }

/-- A server that serves whoever asks a second time, and a wallet that pays anything. -/
def tollgate : World where
  peer := fun earlier _ =>
    if earlier.isEmpty then .answered 0 { status := .paymentRequired, body := Text.Utf8.encode toll }
    else .answered 0 { status := ⟨200⟩ }
  wallet := fun _ offer => .ok {
    version := 1, scheme := offer.scheme, network := offer.network, payload := .str "AQAB" }
where
  toll : String := "\x7b\"accepts\":[\x7b\"scheme\":\"exact\",\"network\":\"solana-devnet\"," ++
    "\"asset\":\"USDC\",\"maxAmountRequired\":\"5\"\x7d]\x7d"

/-- A call of the node by someone who is ready to spend a little. -/
def errand : Context where
  executionId := ⟨0⟩
  nodeId := "buy"
  description := node.description
  parameters :=
    [("maxAmount", .literal (.str "10")), ("url", .literal (.str "http://[::1]/"))]
  capabilities := Capabilities.none.insert .wallet ()

theorem pays_safely_tollgate :
    ∃ ending w', perform tollgate (freely (node.run errand 0 1)) = (ending, w') ∧
      (ending.isOk = true ∧ (tollgate.dealingsSince w').length = 3) ∧
      Safe errand 0 tollgate (tollgate.dealingsSince w') ending :=
  ⟨_, _, rfl, by decide +kernel, pays_safely rfl rfl⟩

end Courses

end Nodes.PaidRequest
end Conveyor
