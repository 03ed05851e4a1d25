import Conveyor.Proofs.Agreement
import Conveyor.Proofs.Drifting

namespace Conveyor
open RunWork

/-- A run that is asked for, in surroundings of its own that have no past. -/
structure Commission where
  id : Uuid
  world : World
  fresh : world.past = []
  workflow : Workflow
  trigger : Option (List Item)

namespace Commission

variable (engine : Engine) (commission : Commission)

def prepared : Underway (Except Fault Result) :=
  engine.prepare commission.world commission.id commission.workflow commission.trigger

/-- How the run ends if it is the only one. -/
def ending : Ending (Except Fault Result) :=
  (engine.execute commission.world commission.id commission.workflow commission.trigger).1

/-- The events of the run if it is the only one. -/
def events : List Event :=
  Engine.events commission.id
    (engine.execute commission.world commission.id commission.workflow commission.trigger).2.1

/-- How many steps the run takes if it is the only one. -/
def steps : Nat :=
  RunWork.steps commission.world
    (engine.executor.execute commission.id commission.workflow commission.trigger)

/-- Whether it may make a difference to the run that it has to wait for others: its items have a time
limit, of which waiting uses up some, or its token fires by the clock. -/
def Timed : Prop :=
  engine.executor.itemTimeout ≠ none ∨ ∃ time, commission.world.alarm = .clock time

end Commission

/-- What may happen next where runs share an engine. -/
inductive Move
  /-- the run at a place goes one step further -/
  | step (place : Nat)
  /-- time passes for the run at a place, whose items have no time limit, while others take their
  turn -/
  | hold (place millis : Nat)
  /-- the subscriber asks for an event -/
  | receive
deriving DecidableEq

/-- Time passes, and that is all. No time limit of an item is used up, as a wait would in a run that
has them, so this is for runs that have none. -/
def Underway.held {α : Type} (millis : Nat) (run : Underway α) : Underway α :=
  { run with world := { run.world with clock := run.world.clock + millis } }

/-- Runs that share an engine, and a subscriber with what it has received. -/
structure Watched where
  runs : Concurrent (Except Fault Result)
  cursor : Cursor
  received : List Received := []

def Received.event? : Received → Option Event
  | .event received => some received
  | _ => none

namespace Watched

/-- There is a subscriber, and no run has begun. -/
def start (engine : Engine) (commissions : List Commission) : Watched where
  runs := { bus := engine.bus, runs := commissions.map (·.prepared engine) }
  cursor := engine.bus.subscribe

def move : Move → Watched → Watched
  | .step place, watched => { watched with runs := watched.runs.step place }
  | .hold place millis, watched =>
    { watched with runs.runs := watched.runs.runs.modify place (·.held millis) }
  | .receive, watched =>
    let (received, cursor) := watched.runs.bus.receive watched.cursor
    { watched with cursor, received := watched.received ++ [received] }

def follow (moves : List Move) (watched : Watched) : Watched :=
  moves.foldl (fun watched move => watched.move move) watched

/-- The events the subscriber has received. -/
def heard (watched : Watched) : List Event := watched.received.filterMap Received.event?

/-- There is nothing on the bus that the subscriber has not received. -/
def UpToDate (watched : Watched) : Prop := (watched.runs.bus.receive watched.cursor).1 = .empty

end Watched

namespace Bus

theorem emitAll_eq (events : List Event) (bus : Bus) :
    bus.emitAll events = { bus with sent := bus.sent ++ events } := by
  induction events generalizing bus with
  | nil => simp [emitAll]
  | cons event rest ih =>
    have hstep : bus.emitAll (event :: rest) = (bus.emit event).emitAll rest := rfl
    rw [hstep, ih]
    simp [emit]

/-- A subscriber that no event was lost for receives the next one, if there is one. -/
theorem receive_eq {cursor : Cursor} {bus : Bus}
    (kept : bus.sent.length - bus.capacity ≤ cursor.position) :
    bus.receive cursor =
      match bus.sent[cursor.position]? with
      | some event => (.event event, ⟨cursor.position + 1⟩)
      | none => (.empty, cursor) := by
  have hkept := Nat.not_lt.mpr kept
  cases hnext : bus.sent[cursor.position]? <;> simp only [receive, if_neg hkept, hnext]

end Bus

namespace Engine

/-- A step adds its events to those there have been. -/
theorem events_since (id : Uuid) {w w' : World} (later : w.Later w') :
    events id w' = events id w ++ (w.since w').filterMap (Happening.event? id) := by
  unfold events
  rw [List.filterMap_reverse, later.filterMap_past, List.reverse_append, List.reverse_reverse,
    ← List.filterMap_reverse]

theorem executionId_of_mem {id : Uuid} {happened : List Happening} {event : Event}
    (h : event ∈ happened.filterMap (Happening.event? id)) : event.executionId = id := by
  obtain ⟨happening, _, he⟩ := List.mem_filterMap.mp h
  cases happening <;> cases he <;> rfl

/-- Surroundings that differ in their times alone have the same events, but for the time. -/
theorem events_drifted (id : Uuid) {w v : World} (d : w.Drifted v) :
    (events id v).map Event.untimed = (events id w).map Event.untimed := by
  have hmap (u : World) : (events id u).map Event.untimed =
      ((u.past.map Happening.untimed).filterMap (Happening.event? id)).reverse := by
    rw [events, List.filterMap_reverse, List.map_reverse, List.map_filterMap, List.filterMap_map]
    congr 2
    funext happening
    exact (Happening.event?_untimed id happening).symm
  rw [hmap, hmap, d.past]

end Engine

/-- How far a run has come after so many of its moves: it goes the way of one that runs alone, and
of all that was sent its events are those of its own past. -/
structure Commission.Progress (engine : Engine) (commission : Commission) (taken : Nat)
    (sent : List Event) (lead run : Underway (Except Fault Result)) : Prop where
  follows : lead.Follows run
  id : lead.id = commission.id
  alarm : lead.world.alarm = commission.world.alarm
  same : perform lead.world lead.work = perform commission.world
    (engine.executor.execute commission.id commission.workflow commission.trigger)
  left : RunWork.steps lead.world lead.work = commission.steps engine - taken
  share : sent.filter (·.executionId = commission.id) = Engine.events commission.id run.world

namespace Commission.Progress

variable {engine : Engine} {commission : Commission} {taken : Nat} {sent new : List Event}
  {lead run run' : Underway (Except Fault Result)} {happened : List Happening}

theorem start (engine : Engine) (commission : Commission) :
    Progress engine commission 0 [] (commission.prepared engine) (commission.prepared engine) where
  follows := ⟨rfl, .refl _, engine.executor.execute_alike _ _ _⟩
  id := rfl
  alarm := rfl
  same := rfl
  left := rfl
  share := by
    have hnone : Engine.events commission.id (commission.prepared engine).world = [] := by
      change (commission.world.past.reverse.filterMap _) = []
      rw [commission.fresh]
      rfl
    rw [hnone]
    rfl

/-- Events of other runs do not count. -/
theorem others (h : Progress engine commission taken sent lead run)
    (apart : ∀ event ∈ new, event.executionId ≠ commission.id) :
    Progress engine commission taken (sent ++ new) lead run := by
  have hnone : new.filter (·.executionId = commission.id) = [] :=
    List.filter_eq_nil_iff.mpr fun event hm => by simpa using apart event hm
  refine { h with share := ?_ }
  rw [List.filter_append, hnone, List.append_nil, h.share]

/-- A step that is taken brings a run one nearer to its end. -/
theorem step (h : Progress engine commission taken sent lead run)
    (hs : run.step? = some (run', happened)) :
    ∃ lead', Progress engine commission (taken + 1)
      (sent ++ happened.filterMap (Happening.event? run.id)) lead' run' := by
  obtain ⟨-, hr⟩ | ⟨lead', followed, before, after, hl, hr, follows⟩ := h.follows.step
  · cases hr.symm.trans hs
  · cases hr.symm.trans hs
    obtain ⟨hid, -, hsame, hleft, -, -, halarm⟩ := Underway.of_step? hl
    obtain ⟨-, -, -, -, later, rfl, -⟩ := Underway.of_step? hr
    have hrun : run.id = commission.id := h.follows.id.trans h.id
    refine ⟨lead', follows, hid.trans h.id, halarm.trans h.alarm, hsame.trans h.same, ?_, ?_⟩
    · have := h.left
      omega
    · have hall : ∀ event ∈ (run.world.since run'.world).filterMap (Happening.event? run.id),
          decide (event.executionId = commission.id) = true := by
        intro event hm
        simpa [← hrun] using Engine.executionId_of_mem hm
      rw [List.filter_append, List.filter_eq_self.mpr hall, h.share, hrun,
        Engine.events_since _ later]

/-- A run that cannot go further has come to its end. -/
theorem at_end (h : Progress engine commission taken sent lead run) (hs : run.step? = none) :
    Progress engine commission (taken + 1) sent lead run := by
  obtain ⟨hl, -⟩ | ⟨_, _, _, _, -, hr, -⟩ := h.follows.step
  · obtain ⟨-, -, hz⟩ := Underway.over_of_step? hl
    refine { h with left := ?_ }
    have := h.left
    omega
  · cases hr.symm.trans hs

theorem held (h : Progress engine commission taken sent lead run) (millis : Nat)
    (untimed : ∀ time, commission.world.alarm ≠ .clock time) :
    Progress engine commission taken sent lead (run.held millis) :=
  { h with
    follows := ⟨h.follows.id, h.follows.world.held millis fun time => h.alarm ▸ untimed time,
      h.follows.work⟩
    share := h.share }

theorem events_prefix (h : Progress engine commission taken sent lead run) :
    (sent.filter (·.executionId = commission.id)).map Event.untimed <+:
      (commission.events engine).map Event.untimed := by
  have later := perform_later lead.world lead.work
  rw [h.same] at later
  have hall : commission.events engine = _ := Engine.events_since commission.id later
  rw [h.share, Engine.events_drifted commission.id h.follows.world, hall, List.map_append]
  exact List.prefix_append _ _

/-- A run that is over has ended as it does alone, and its events are all there. -/
theorem ends (h : Progress engine commission taken sent lead run)
    {ending : Ending (Except Fault Result)} (he : run.ending? = some ending) :
    ending.untimed = (commission.ending engine).untimed ∧
      (sent.filter (·.executionId = commission.id)).map Event.untimed =
        (commission.events engine).map Event.untimed := by
  have hend := h.follows.ending
  cases hl : lead.step? with
  | some stepped =>
    obtain ⟨-, hnone, -⟩ := Underway.of_step? hl
    rw [he, hnone] at hend
    cases hend
  | none =>
    obtain ⟨hover, hworld, -⟩ := Underway.over_of_step? hl
    rw [he, hover, h.same] at hend
    rw [h.same] at hworld
    refine ⟨Option.some.inj hend, ?_⟩
    have hall : commission.events engine = Engine.events commission.id lead.world :=
      congrArg (Engine.events commission.id) hworld
    rw [h.share, Engine.events_drifted commission.id h.follows.world, hall]

/-- A run that was given all of its steps is over. -/
theorem exists_ending (h : Progress engine commission taken sent lead run)
    (enough : commission.steps engine ≤ taken) : ∃ ending, run.ending? = some ending := by
  cases hs : run.step? with
  | none => exact ⟨_, (Underway.over_of_step? hs).1⟩
  | some stepped =>
    obtain ⟨hl, hr⟩ | ⟨_, _, _, _, hl, _⟩ := h.follows.step
    · cases hr.symm.trans hs
    · obtain ⟨-, -, -, hleft, -⟩ := Underway.of_step? hl
      have := h.left
      omega

end Commission.Progress

/-- Events that are each of one of some runs, and of each run no more than it has alone. -/
theorem length_le_of_owned {engine : Engine} {commissions : List Commission} {sent : List Event}
    (distinct : (commissions.map Commission.id).Nodup)
    (owned : ∀ event ∈ sent, event.executionId ∈ commissions.map Commission.id)
    (share : ∀ commission ∈ commissions,
      (sent.filter (·.executionId = commission.id)).length ≤ (commission.events engine).length) :
    sent.length ≤ (commissions.flatMap (·.events engine)).length := by
  induction commissions generalizing sent with
  | nil =>
    have hnone : sent = [] := List.eq_nil_iff_forall_not_mem.mpr fun event hm => by
      simpa using owned event hm
    simp [hnone]
  | cons first rest ih =>
    -- The events of the first run are set aside; of the others none is gone, as they have other ids.
    obtain ⟨-, distinct⟩ := List.nodup_cons.mp distinct
    let mine (event : Event) : Bool := event.executionId = first.id
    have hmine : (sent.filter mine).length ≤ (first.events engine).length :=
      share first List.mem_cons_self
    have hothers : (sent.filter fun event => !mine event).length ≤
        (rest.flatMap (·.events engine)).length := by
      refine ih distinct (fun event hm => ?_) fun commission hm => ?_
      · obtain ⟨hm, hne⟩ := List.mem_filter.mp hm
        exact (List.mem_cons.mp (owned event hm)).resolve_left (by simpa [mine] using hne)
      · refine Nat.le_trans ?_ (share commission (List.mem_cons_of_mem _ hm))
        exact (List.filter_sublist.filter _).length_le
    rw [List.length_eq_length_filter_add mine, List.flatMap_cons, List.length_append]
    exact Nat.add_le_add hmine hothers

/-- How it stands with the runs of an engine and a subscriber after some moves: some events were
sent, all of them of these runs, and the subscriber has received the first of them and lost none. -/
structure Watched.Sound (engine : Engine) (commissions : List Commission) (moves : List Move)
    (sent : List Event) (watched : Watched) : Prop where
  bus : watched.runs.bus = engine.bus.emitAll sent
  length : watched.runs.runs.length = commissions.length
  progress : ∀ (place : Nat) (commission : Commission), commissions[place]? = some commission →
    ∃ lead run, watched.runs.runs[place]? = some run ∧
      commission.Progress engine (moves.count (.step place)) sent lead run
  owned : ∀ event ∈ sent, event.executionId ∈ commissions.map Commission.id
  heard : watched.heard <+: sent
  position : watched.cursor.position = engine.bus.sent.length + watched.heard.length
  unlagged : ∀ count, .lagged count ∉ watched.received

namespace Watched.Sound

variable {engine : Engine} {commissions : List Commission} {moves : List Move} {sent : List Event}
  {watched : Watched}

theorem start (engine : Engine) (commissions : List Commission) :
    Sound engine commissions [] [] (.start engine commissions) where
  bus := rfl
  length := List.length_map _
  progress place commission h := by
    refine ⟨commission.prepared engine, commission.prepared engine, ?_, .start engine commission⟩
    simp [Watched.start, h]
  owned := by simp
  heard := List.nil_prefix
  position := rfl
  unlagged := by simp [Watched.start]

theorem count_step (place other : Nat) :
    (moves ++ [Move.step place]).count (Move.step other) =
      moves.count (Move.step other) + if place = other then 1 else 0 := by
  rw [List.count_append, List.count_singleton]
  simp

theorem count_of_ne {move : Move} {place : Nat} (hne : move ≠ .step place) :
    (moves ++ [move]).count (.step place) = moves.count (.step place) := by
  rw [List.count_append, List.count_singleton, if_neg (by simpa using hne), Nat.add_zero]

/-- A turn of a run without another step changes nothing. -/
theorem idle (h : Sound engine commissions moves sent watched) (place : Nat)
    (hs : ∀ run, watched.runs.runs[place]? = some run → run.step? = none) :
    Sound engine commissions (moves ++ [.step place]) sent watched := by
  refine { h with progress := fun other commission hc => ?_ }
  obtain ⟨lead, run, hr, progress⟩ := h.progress other commission hc
  refine ⟨lead, run, hr, ?_⟩
  rw [count_step]
  split
  case isTrue same => exact progress.at_end (hs run (same ▸ hr))
  case isFalse => exact progress

theorem hold (h : Sound engine commissions moves sent watched) (place millis : Nat)
    (untimed : ∀ commission, commissions[place]? = some commission →
      ∀ time, commission.world.alarm ≠ .clock time) :
    Sound engine commissions (moves ++ [.hold place millis]) sent
      (watched.move (.hold place millis)) := by
  refine { h with
    length := (List.length_modify ..).trans h.length
    progress := fun other commission hc => ?_ }
  obtain ⟨lead, run, hr, progress⟩ := h.progress other commission hc
  have hne : Move.hold place millis ≠ .step other := nofun
  rw [count_of_ne hne]
  by_cases same : place = other
  · subst same
    refine ⟨lead, run.held millis, ?_, progress.held millis (untimed commission hc)⟩
    simp [Watched.move, hr]
  · refine ⟨lead, run, ?_, progress⟩
    simp [Watched.move, hr, same]

variable (distinct : (commissions.map Commission.id).Nodup)
include distinct

/-- The runs at two places have two ids. -/
theorem id_ne {place other : Nat} {first second : Commission}
    (hf : commissions[place]? = some first) (hs : commissions[other]? = some second)
    (hne : place ≠ other) : first.id ≠ second.id := by
  intro same
  have hlt : place < (commissions.map Commission.id).length := by
    rw [List.length_map]
    exact (List.getElem?_eq_some_iff.mp hf).1
  refine hne ((List.getElem?_inj hlt distinct).mp ?_)
  rw [List.getElem?_map, List.getElem?_map, hf, hs]
  exact congrArg some same

/-- A turn of a run that goes on adds events of that run, which are none of another's. -/
theorem proceed (h : Sound engine commissions moves sent watched) {place : Nat}
    {run run' : Underway (Except Fault Result)} {happened : List Happening}
    (hr : watched.runs.runs[place]? = some run) (hs : run.step? = some (run', happened)) :
    Sound engine commissions (moves ++ [.step place])
      (sent ++ happened.filterMap (Happening.event? run.id))
      { watched with
        runs.bus := watched.runs.bus.emitAll (happened.filterMap (Happening.event? run.id))
        runs.runs := watched.runs.runs.set place run' } := by
  obtain ⟨hlt, -⟩ := List.getElem?_eq_some_iff.mp hr
  obtain ⟨mover, hm⟩ : ∃ mover, commissions[place]? = some mover :=
    ⟨_, List.getElem?_eq_getElem (h.length ▸ hlt)⟩
  have hid : run.id = mover.id := by
    obtain ⟨lead, _, hr', progress⟩ := h.progress place mover hm
    cases hr.symm.trans hr'
    exact progress.follows.id.trans progress.id
  have hnew : ∀ event ∈ happened.filterMap (Happening.event? run.id),
      event.executionId = mover.id := fun event he => hid ▸ Engine.executionId_of_mem he
  refine { h with
    bus := ?_
    length := (List.length_set ..).trans h.length
    progress := fun other commission hc => ?_
    owned := fun event he => ?_
    heard := h.heard.trans (List.prefix_append _ _) }
  · rw [h.bus, Bus.emitAll_eq, Bus.emitAll_eq, Bus.emitAll_eq, List.append_assoc]
  · obtain ⟨lead, run₀, hr₀, progress⟩ := h.progress other commission hc
    rw [count_step]
    split
    case isTrue same =>
      subst same
      cases hr.symm.trans hr₀
      obtain ⟨lead', progress⟩ := progress.step hs
      exact ⟨lead', run', List.getElem?_set_self hlt, progress⟩
    case isFalse apart =>
      refine ⟨lead, run₀, (List.getElem?_set_ne apart).trans hr₀, progress.others ?_⟩
      exact fun event he => hnew event he ▸ id_ne distinct hm hc apart
  · rcases List.mem_append.mp he with he | he
    · exact h.owned event he
    · exact hnew event he ▸ List.mem_map_of_mem (List.mem_of_getElem? hm)

theorem step (h : Sound engine commissions moves sent watched) (place : Nat) :
    ∃ sent', Sound engine commissions (moves ++ [.step place]) sent'
      (watched.move (.step place)) := by
  have hmove : watched.move (.step place) = { watched with runs := watched.runs.step place } := rfl
  rw [hmove, Concurrent.step]
  cases hr : watched.runs.runs[place]? with
  | none => exact ⟨sent, h.idle place fun run hr' => nomatch hr.symm.trans hr'⟩
  | some run =>
    dsimp only
    cases hs : run.step? with
    | none =>
      refine ⟨sent, h.idle place fun run' hr' => ?_⟩
      cases hr.symm.trans hr'
      exact hs
    | some stepped => exact ⟨_, h.proceed distinct hr hs⟩

/-- There is room on the bus for all that the runs ever send. -/
theorem length_le (h : Sound engine commissions moves sent watched) :
    sent.length ≤ (commissions.flatMap (·.events engine)).length := by
  refine length_le_of_owned distinct h.owned fun commission hm => ?_
  obtain ⟨place, hc⟩ := List.getElem?_of_mem hm
  obtain ⟨lead, run, -, progress⟩ := h.progress place commission hc
  simpa using progress.events_prefix.length_le

variable (room : (commissions.flatMap (·.events engine)).length ≤ engine.bus.capacity)
include room

/-- What a subscriber that is not lagging behind receives is the first event it has not had. -/
theorem received (h : Sound engine commissions moves sent watched) :
    watched.runs.bus.receive watched.cursor =
      match sent[watched.heard.length]? with
      | some event => (.event event, ⟨watched.cursor.position + 1⟩)
      | none => (.empty, watched.cursor) := by
  have hlength := h.length_le distinct
  have hposition := h.position
  rw [Bus.receive_eq]
  · rw [h.bus, Bus.emitAll_eq, h.position, List.getElem?_append_right (Nat.le_add_right _ _),
      Nat.add_sub_cancel_left]
  · simp only [h.bus, Bus.emitAll_eq, List.length_append]
    omega

theorem receive (h : Sound engine commissions moves sent watched) :
    Sound engine commissions (moves ++ [.receive]) sent (watched.move .receive) ∧
      (watched.move .receive).heard = watched.heard ++ sent[watched.heard.length]?.toList := by
  -- The runs do not notice.
  have hprogress (place : Nat) (commission : Commission)
      (hc : commissions[place]? = some commission) :
      ∃ lead run, watched.runs.runs[place]? = some run ∧ commission.Progress engine
        ((moves ++ [Move.receive]).count (.step place)) sent lead run := by
    have hne : Move.receive ≠ .step place := nofun
    rw [count_of_ne hne]
    exact h.progress place commission hc
  have hunlagged (received : Received) (kept : ∀ count, received ≠ .lagged count) (count : Nat) :
      .lagged count ∉ watched.received ++ [received] := by
    simpa [h.unlagged count] using (kept count).symm
  rw [Watched.move, h.received distinct room]
  cases hnext : sent[watched.heard.length]? with
  | some event =>
    have hheard : Watched.heard { watched with
        cursor := ⟨watched.cursor.position + 1⟩
        received := watched.received ++ [.event event] } = watched.heard ++ [event] :=
      List.filterMap_append ..
    refine ⟨{ h with
      progress := hprogress
      heard := hheard ▸ ?_
      position := hheard ▸ ?_
      unlagged := hunlagged _ nofun }, hheard⟩
    · obtain ⟨rest, rfl⟩ := h.heard
      rw [List.getElem?_append_right (Nat.le_refl _), Nat.sub_self, ← List.head?_eq_getElem?] at hnext
      obtain ⟨later, rfl⟩ := List.head?_eq_some_iff.mp hnext
      exact ⟨later, List.append_assoc ..⟩
    · rw [h.position, List.length_append]
      rfl
  | none =>
    have hheard : Watched.heard { watched with
        received := watched.received ++ [.empty] } = watched.heard ++ [] :=
      List.filterMap_append ..
    rw [List.append_nil] at hheard
    exact ⟨{ h with
      progress := hprogress
      heard := hheard ▸ h.heard
      position := hheard ▸ h.position
      unlagged := hunlagged _ nofun }, by rw [hheard]; exact (List.append_nil _).symm⟩

/-- After some moves the subscriber has received the first of the events that were sent. -/
theorem follow (h : Sound engine commissions moves sent watched)
    (later : List Move)
    (untimed : ∀ (place : Nat) (commission : Commission), commissions[place]? = some commission →
      commission.Timed engine → ∀ millis, .hold place millis ∉ later) :
    ∃ sent', Sound engine commissions (moves ++ later) sent' (watched.follow later) := by
  induction later generalizing moves sent watched with
  | nil => exact ⟨sent, (List.append_nil moves).symm ▸ h⟩
  | cons move later ih =>
    have hmove : ∃ sent', Sound engine commissions (moves ++ [move]) sent' (watched.move move) := by
      cases move with
      | step place => exact h.step distinct place
      | hold place millis =>
        refine ⟨sent, h.hold place millis fun commission hc time ha => ?_⟩
        exact untimed place commission hc (.inr ⟨time, ha⟩) millis List.mem_cons_self
      | receive => exact ⟨sent, (h.receive distinct room).1⟩
    obtain ⟨sent', h'⟩ := hmove
    obtain ⟨sent'', h''⟩ := ih h' fun place commission hc timed millis hm =>
      untimed place commission hc timed millis (List.mem_cons_of_mem _ hm)
    rw [List.append_assoc] at h''
    exact ⟨sent'', h''⟩

theorem upToDate_iff (h : Sound engine commissions moves sent watched) :
    watched.UpToDate ↔ watched.heard = sent := by
  unfold Watched.UpToDate
  rw [h.received distinct room]
  constructor
  · intro hempty
    cases hnext : sent[watched.heard.length]? with
    | some event =>
      rw [hnext] at hempty
      cases hempty
    | none => exact h.heard.eq_of_length_le (List.getElem?_eq_none_iff.mp hnext)
  · intro all
    rw [all, List.getElem?_eq_none (Nat.le_refl _)]

/-- A subscriber that asks often enough is up to date. -/
theorem upToDate (h : Sound engine commissions moves sent watched) {asks : Nat}
    (enough : sent.length ≤ watched.heard.length + asks) :
    (watched.follow (List.replicate asks .receive)).UpToDate := by
  induction asks generalizing moves watched with
  | zero => exact (h.upToDate_iff distinct room).mpr (h.heard.eq_of_length_le enough)
  | succ asks ih =>
    obtain ⟨h', hheard⟩ := h.receive distinct room
    refine ih h' ?_
    rw [hheard]
    cases hnext : sent[watched.heard.length]? with
    | some event =>
      simp only [Option.toList_some, List.length_append, List.length_singleton]
      omega
    | none =>
      have := List.getElem?_eq_none_iff.mp hnext
      simp only [Option.toList_none, List.append_nil]
      omega

end Watched.Sound

/-- Runs that share an engine do not mix, however their steps are interleaved. Each ends as it does
alone, and what a subscriber receives of it is what there is of it alone, but for the times. It may
be held up as others take their turn, unless its items have a time limit, since waiting uses that
up, or its token fires by the clock. -/
theorem Engine.runs_keep_apart (engine : Engine) (commissions : List Commission) (moves : List Move)
    (distinct : (commissions.map Commission.id).Nodup)
    (room : (commissions.flatMap (·.events engine)).length ≤ engine.bus.capacity)
    (untimed : ∀ (place : Nat) (commission : Commission), commissions[place]? = some commission →
      commission.Timed engine → ∀ millis, .hold place millis ∉ moves) :
    let watched := (Watched.start engine commissions).follow moves
    (∀ count, .lagged count ∉ watched.received) ∧
    (∀ event ∈ watched.heard, event.executionId ∈ commissions.map Commission.id) ∧
    (∀ asks, (commissions.flatMap (·.events engine)).length ≤ asks →
      (watched.follow (List.replicate asks .receive)).UpToDate) ∧
    ∀ (place : Nat) (commission : Commission), commissions[place]? = some commission →
      let heard := (watched.heard.filter (·.executionId = commission.id)).map Event.untimed
      let alone := (commission.events engine).map Event.untimed
      ∃ run, watched.runs.runs[place]? = some run ∧
        heard <+: alone ∧
        (∀ ending, run.ending? = some ending →
          ending.untimed = (commission.ending engine).untimed ∧
          (watched.UpToDate → heard = alone)) ∧
        (commission.steps engine ≤ moves.count (.step place) →
          ∃ ending, run.ending? = some ending) := by
  intro watched
  obtain ⟨sent, h⟩ := (Watched.Sound.start engine commissions).follow distinct room moves untimed
  rw [List.nil_append] at h
  refine ⟨h.unlagged, fun event hm => h.owned event (h.heard.mem hm), fun asks enough => ?_,
    fun place commission hc => ?_⟩
  · exact h.upToDate distinct room
      ((h.length_le distinct).trans (enough.trans (Nat.le_add_left _ _)))
  · obtain ⟨lead, run, hr, progress⟩ := h.progress place commission hc
    refine ⟨run, hr, ?_, fun ending he => ⟨(progress.ends he).1, fun current => ?_⟩,
      progress.exists_ending⟩
    · exact ((h.heard.filter _).map _).trans progress.events_prefix
    · rw [(h.upToDate_iff distinct room).mp current]
      exact (progress.ends he).2

/-- Two runs of one workflow, the second with an error from outside. -/
def Commission.pair : List Commission :=
  [{ id := ⟨0⟩, world := {}, fresh := rfl, workflow := .cracked, trigger := none },
    { id := ⟨1⟩, world := {}, fresh := rfl, workflow := .cracked,
      trigger := some [.failure (.execution "old") .empty 0] }]

/-- Two runs take turns, and the second one waits for the first. -/
def Move.turns : List Move :=
  (List.range 28).flatMap fun _ => [.step 0, .hold 1 5, .receive, .step 1]

theorem Engine.runs_keep_apart_cracked :
    let watched := (Watched.start .fragile Commission.pair).follow
      (Move.turns ++ List.replicate 10 .receive)
    Commission.pair.length = 2 ∧
    ∀ (place : Nat) (commission : Commission), Commission.pair[place]? = some commission →
      ∃ run ending, watched.runs.runs[place]? = some run ∧ run.ending? = some ending ∧
        ending.untimed = (commission.ending .fragile).untimed ∧
        (watched.heard.filter (·.executionId = commission.id)).map Event.untimed =
          (commission.events .fragile).map Event.untimed := by
  have distinct : (Commission.pair.map Commission.id).Nodup := by decide
  have hroom : (Commission.pair.flatMap (·.events .fragile)).length = 10 := by decide +kernel
  have room : (Commission.pair.flatMap (·.events .fragile)).length ≤
      Engine.fragile.bus.capacity := by
    rw [hroom]
    decide
  have hturns : ∀ place ∈ List.range 2, Move.turns.count (.step place) = 28 := by decide +kernel
  have hsteps : ∀ commission ∈ Commission.pair, commission.steps .fragile ≤ 28 := by decide +kernel
  have untimed (place : Nat) (commission : Commission)
      (hc : Commission.pair[place]? = some commission) : ¬commission.Timed .fragile := by
    rintro (limited | ⟨time, ha⟩)
    · exact limited rfl
    · rcases List.mem_cons.mp (List.mem_of_getElem? hc) with rfl | hc
      · cases ha
      · cases List.mem_singleton.mp hc
        cases ha
  refine ⟨rfl, fun place commission hc => ?_⟩
  obtain ⟨-, -, hasks, -⟩ := runs_keep_apart .fragile Commission.pair Move.turns distinct room
    fun place commission hc timed => absurd timed (untimed place commission hc)
  have current := hasks 10 (Nat.le_of_eq hroom)
  rw [Watched.follow, Watched.follow, ← List.foldl_append] at current
  obtain ⟨-, -, -, hruns⟩ := runs_keep_apart .fragile Commission.pair
    (Move.turns ++ List.replicate 10 .receive) distinct room
    fun place commission hc timed => absurd timed (untimed place commission hc)
  obtain ⟨run, hr, -, hends, hover⟩ := hruns place commission hc
  have enough : commission.steps .fragile ≤
      (Move.turns ++ List.replicate 10 Move.receive).count (Move.step place) := by
    have hplace := hturns place (List.mem_range.mpr (List.getElem?_eq_some_iff.mp hc).1)
    rw [List.count_append, hplace]
    exact (hsteps commission (List.mem_of_getElem? hc)).trans (Nat.le_add_right _ _)
  obtain ⟨ending, he⟩ := hover enough
  exact ⟨run, ending, hr, he, (hends ending he).1, (hends ending he).2 current⟩

end Conveyor
