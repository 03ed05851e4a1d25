import Conveyor.Run

namespace Conveyor

/-- When the cancellation token fires by itself. -/
inductive Alarm
  | never
  /-- at a time, which only a wait can reach -/
  | clock (millis : Nat)
  /-- within the n-th call of the sink, from 0 -/
  | callback (n : Nat)
  /-- at the n-th question, from 0, before the reply -/
  | question (n : Nat)
deriving DecidableEq

/-- What happened in a run, as it is seen from outside. -/
inductive Happening
  | began (call : Call)
  | told (clock : Nat) (notice : Notice)
  | reported (clock : Nat) (node : Option String) (message : String)
  | sent (request : Http.Request) (fate : Http.Fate)
  | signed (offer : Payment.Offer)
  | fired

/-- What happens to a request, given the requests before it, the newest first. -/
abbrev Peer := List Http.Request → Http.Request → Http.Fate

/-- How a wallet answers, given the offers it was asked to pay before, the newest first. -/
abbrev Wallet := List Payment.Offer → Payment.Offer → Except Failure Payment.Proof

/-- The surroundings of a run. Time is virtual: it passes in waits and nowhere else. -/
structure World where
  clock : Nat := 0
  cancelled : Bool := false
  alarm : Alarm := .never
  /-- how many questions there were at which the token might fire -/
  asked : Nat := 0
  /-- what the n-th call of the sink returns -/
  sink : Nat → Except String Unit := fun _ => .ok ()
  peer : Peer := fun _ _ => .refused
  wallet : Wallet := fun _ _ => .error .cancelled
  /-- the newest first -/
  past : List Happening := []

namespace World

def note (happening : Happening) (w : World) : World := { w with past := happening :: w.past }

def fire (w : World) : World :=
  if w.cancelled then w else { w with cancelled := true, past := .fired :: w.past }

def fireIf (alarm : Alarm) (w : World) : World := if w.alarm = alarm then w.fire else w

def requests (w : World) : List Http.Request :=
  w.past.filterMap fun
    | .sent request _ => some request
    | _ => none

def payments (w : World) : List Payment.Offer :=
  w.past.filterMap fun
    | .signed offer => some offer
    | _ => none

/-- How often the sink was called. -/
def callbacks (w : World) : Nat :=
  w.past.countP fun
    | .told .. | .reported .. => true
    | _ => false

/-- The time of the alarm, if it goes off within a wait that starts now. An alarm for the
moment at which the wait ends is late: it goes off in the next one. -/
def alarmWithin? (limit : Option Nat) (w : World) : Option Nat :=
  match w.alarm with
  | .clock millis =>
    if w.cancelled then none
    else if limit.all fun d => 0 < d && millis < w.clock + d then some (max w.clock millis) else none
  | _ => none

/-- A wait that does not watch the token. -/
def sleep (millis : Nat) (w : World) : World :=
  let w' := if (w.alarmWithin? (some millis)).isSome then w.fire else w
  { w' with clock := w.clock + millis }

/-- A wait for the token. None: it never ends. -/
def awaitCancel (limit : Option Nat) (w : World) : Option (Node.Fired × World) :=
  if w.cancelled then some (true, w)
  else
    match w.alarmWithin? limit, limit with
    | some millis, _ => some (true, { w.fire with clock := millis })
    | none, some d => some (false, { w with clock := w.clock + d })
    | none, none => none

/-- A call of the sink: the token may fire in it. -/
def callback (happening : Happening) (w : World) : Except String Unit × World :=
  (w.sink w.callbacks, (w.fireIf (.callback w.callbacks)).note happening)

def answerWithin (w : World) : (question : Node.Ask) → Option (question.Reply × World)
  | .sleep millis => some ((), w.sleep millis)
  | .awaitCancel limit => w.awaitCancel limit
  | .hang => none
  | .cancel => some ((), w.fire)
  | .isCancelled => some (w.cancelled, w)
  | .report node message => some (w.callback (.reported w.clock node message))
  | .send request =>
    let fate := w.peer w.requests request
    some (fate, w.note (.sent request fate))
  | .sign offer => some (w.wallet w.payments offer, w.note (.signed offer))

/-- A moment at which the token may fire. -/
def moment (w : World) : World := { w.fireIf (.question w.asked) with asked := w.asked + 1 }

/-- None: there is never a reply. A call begins in the moment in which the token was looked
at, so it is no moment of its own. -/
def answer (w : World) : (question : Run.Ask) → Option (question.Reply × World)
  | .within question => w.moment.answerWithin question
  | .begin call => some ((), w.note (.began call))
  | .notify notice => some (w.moment.callback (.told w.clock notice))
  | .now => some (w.clock, w.moment)

/-- What happened since an earlier state of the same surroundings, the oldest first. -/
def since (earlier w : World) : List Happening :=
  (w.past.take (w.past.length - earlier.past.length)).reverse

end World

/-- How a computation ends. -/
inductive Ending (α : Type)
  | returned (value : α)
  | panicked (payload : Option String)
  /-- it waits for something that never comes -/
  | stuck

/-- Runs to the end, if there is one. -/
def RunWork.perform (w : World) : RunWork α → Ending α × World
  | .done value => (.returned value, w)
  | .panic payload => (.panicked payload, w)
  | .ask question next =>
    match w.answer question with
    | none => (.stuck, w)
    | some (reply, w) => perform w (next reply)

end Conveyor
