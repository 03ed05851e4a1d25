import Conveyor.Nodes
import Conveyor.Proofs.Outcome
import Conveyor.Proofs.Table

namespace Conveyor
open RunWork

variable {α β : Type}

namespace NodeWork.Blind

theorem pure (value : α) : Blind (Pure.pure value : NodeWork α) := ⟨trivial⟩

theorem throw (e : Failure) : Blind (throw e : NodeWork α) := ⟨trivial⟩

theorem panic (payload : Option String) : Blind (NodeWork.panic payload : NodeWork α) := ⟨trivial⟩

theorem of_except (result : Except Failure α) : Blind (liftM result : NodeWork α) := by
  cases result <;> exact ⟨trivial⟩

theorem ask {question : Node.Ask} (h : (Run.Ask.within question).Blind) :
    Blind (NodeWork.ask question) := ⟨h, fun _ => trivial⟩

theorem asks_bind {work : Work Node.Ask.Reply α} {next : α → Work Node.Ask.Reply β}
    (h : Asks Run.Ask.Blind True (freely work))
    (hn : ∀ value, Asks Run.Ask.Blind True (freely (next value))) :
    Asks Run.Ask.Blind True (freely (work >>= next)) := by
  induction work with
  | done value => exact hn value
  | panic payload => trivial
  | ask question more ih => exact ⟨h.1, fun reply => ih reply (h.2 reply)⟩

theorem bind {work : NodeWork α} {next : α → NodeWork β} (h : work.Blind)
    (hn : ∀ value, (next value).Blind) : (work >>= next).Blind := by
  refine ⟨asks_bind h.asks fun result => ?_⟩
  cases result with
  | ok value => exact (hn value).asks
  | error e => trivial

theorem ite {c : Prop} [Decidable c] {yes no : NodeWork α} (hy : yes.Blind) (hn : no.Blind) :
    (if c then yes else no).Blind := by
  split
  · exact hy
  · exact hn

end NodeWork.Blind

section Unswayed

variable {limit : Option Limit}

/-- Code that never looks at the token has the same course wherever the token fires. -/
theorem NodeWork.Blind.same_course {code : NodeWork α} (blind : code.Blind) {w v : World}
    (akin : w.Akin v) : (perform v (freely code)).1 = (perform w (freely code)).1 ∧
      (perform v (freely code)).2.clock = (perform w (freely code)).2.clock :=
  (perform_blind blind.asks akin rfl rfl).imp id World.Akin.clock

theorem NodeWork.Blind.outcome_eq {code : NodeWork α} (blind : code.Blind) {w v : World}
    (akin : w.Akin v) : outcome limit v code = outcome limit w code := by
  obtain ⟨he, hclock⟩ := blind.same_course akin
  simp only [outcome, he, hclock, akin.clock]

theorem NodeWork.Blind.unswayed {code : NodeWork α} (blind : code.Blind) :
    Unswayed limit code := fun w _ => .inl (blind.outcome_eq (World.Akin.silenced w).symm)

theorem World.alarmWithin_le {w : World} {millis clock : Nat}
    (h : w.alarmWithin? (some millis) = some clock) : clock ≤ w.clock + millis := by
  unfold alarmWithin? at h
  split at h
  next alarm _ =>
    split at h
    · cases h
    · split at h
      next hl =>
        cases h
        have hl : 0 < millis ∧ alarm < w.clock + millis := by simpa using hl
        omega
      · cases h
  · cases h

/-- A wait for the token is not longer than its limit. -/
theorem World.awaitCancel_clock_le {w w' : World} {millis : Nat} {fired : Node.Fired}
    (h : w.awaitCancel (some millis) = some (fired, w')) : w'.clock ≤ w.clock + millis := by
  unfold awaitCancel at h
  split at h
  · cases h
    exact Nat.le_add_right _ _
  · split at h
    next ha =>
      cases h
      exact alarmWithin_le ha
    next hl =>
      cases hl
      cases h
      exact Nat.le_refl _
    next hl => cases hl

/-- Code that sleeps until the token fires, and then gives up, is not swayed by it otherwise. -/
theorem unswayed_of_sleepOrCancel {rest : NodeWork α} (blind : rest.Blind) (millis : Nat) :
    Unswayed limit (do
      if ← NodeWork.sleepOrCancel millis then throw .cancelled else rest : NodeWork α) := by
  intro w calm
  let next (fired : Node.Fired) : Work Node.Ask.Reply (Except Failure α) :=
    if fired then .done (.error .cancelled) else rest
  have hcode : (do if ← NodeWork.sleepOrCancel millis then throw .cancelled else rest : NodeWork α) =
      Work.ask (.awaitCancel (some (Node.nap millis))) next := by
    refine congrArg (Work.ask _) (funext fun fired => ?_)
    cases fired <;> rfl
  rw [hcode]
  have hs : w.silenced.answer (.within (.awaitCancel (some (Node.nap millis)))) = some (false, _) :=
    (World.silent_silenced calm).moment.awaitCancel _
  obtain ⟨w₁, ha⟩ := w.moment.awaitCancel_some (Node.nap millis)
  have hw : w.answer (.within (.awaitCancel (some (Node.nap millis)))) = some (w₁.cancelled, w₁) := ha
  have hm : w.moment.clock = w.clock := (World.Akin.moment w).clock
  have hms : w.silenced.moment.clock = w.clock := (World.Akin.moment w.silenced).clock
  cases hc : w₁.cancelled with
  | true =>
    rw [hc] at hw
    have hle := World.clock_le_awaitCancel ha
    have hge := World.awaitCancel_clock_le ha
    by_cases late : ∃ l, limit = some l ∧ w.clock + l.left < w₁.clock
    · obtain ⟨l, rfl, hl⟩ := late
      left
      rw [outcome_late hw hl, outcome_late hs]
      change w.clock + l.left < w.silenced.moment.clock + Node.nap millis
      omega
    · right
      have took : w₁.clock = w.clock + (w₁.clock - w.clock) := by omega
      rw [outcome_ask hw took]
      · exact outcome_done ..
      · intro l hl
        have : ¬ w.clock + l.left < w₁.clock := fun hlt => late ⟨l, hl, hlt⟩
        omega
  | false =>
    left
    rw [hc] at hw
    obtain ⟨_, _, hn, rfl⟩ := World.awaitCancel_calm ha hc
    cases hn
    have akin := ((World.Akin.silenced w).moments).pass (Node.nap millis)
    obtain ⟨he, hclock⟩ := blind.same_course akin
    simp only [outcome, freely, perform, hw, hs]
    change curtailed limit (perform _ (freely rest)).1 ((perform _ (freely rest)).2.clock - w.clock) =
      curtailed limit (perform _ (freely rest)).1 ((perform _ (freely rest)).2.clock - w.clock)
    rw [← he, ← hclock]

end Unswayed

theorem steadfast_of_blind {node : Node} {ctx : Context} {limit : Option Nat}
    (setup : (node.setup ctx).Blind) (run : ∀ index number, (node.run ctx index number).Blind) :
    Steadfast node ctx limit :=
  ⟨setup, fun index number => (run index number).unswayed⟩

theorem Http.Client.send_blind (request : Http.Request) : (Http.Client.send request).Blind := by
  unfold Http.Client.send
  split
  · refine .bind (.ask trivial) fun fate => ?_
    cases fate with
    | answered after response => exact .bind (.ask trivial) fun _ => .pure _
    | dropped | refused => exact .throw _
    | silent => exact .bind (.ask trivial) nofun
  · exact .throw _

namespace Nodes

variable (ctx : Context) (limit : Option Nat)

theorem Debug.steadfast : Steadfast Debug.node ctx limit :=
  steadfast_of_blind (.pure ()) fun _ _ => .of_except _

theorem Scale.steadfast : Steadfast Scale.node ctx limit := by
  refine steadfast_of_blind (.pure ()) fun index number => ?_
  change (Scale.run ctx index).Blind
  unfold Scale.run
  refine .bind (.of_except _) fun factor => ?_
  refine .bind (.of_except _) fun field => ?_
  unfold Scale.scale
  refine .bind (.of_except _) fun x => ?_
  split
  · exact .pure _
  · exact .panic _

theorem SetFields.steadfast : Steadfast SetFields.node ctx limit :=
  steadfast_of_blind (.pure ()) fun _ _ => .of_except _

theorem Delay.steadfast : Steadfast Delay.node ctx limit := by
  refine ⟨.pure (), fun index number => ?_⟩
  have rest : (pure { items := [ctx.payload index] } : NodeWork Output).Blind := .pure _
  change Unswayed _ (Delay.run ctx index)
  unfold Delay.run
  cases ctx.float "delayMs" index with
  | ok delay => exact unswayed_of_sleepOrCancel rest (Delay.millis delay)
  | error e => exact (NodeWork.Blind.throw e).unswayed

theorem Request.steadfast : Steadfast Request.node ctx limit := by
  refine steadfast_of_blind (.pure ()) fun index number => ?_
  change (Request.run ctx index).Blind
  unfold Request.run
  refine .bind (.of_except _) fun (url, request) => ?_
  refine .bind (Http.Client.send_blind _) fun response => ?_
  dsimp only
  split
  · exact .bind (.of_except _) fun failing => .ite (.throw _) (.pure _)
  · exact .bind (.pure _) fun failing => .ite (.throw _) (.pure _)

theorem PaidRequest.steadfast : Steadfast PaidRequest.node ctx limit := by
  refine steadfast_of_blind (.pure ()) fun index number => ?_
  change (PaidRequest.run ctx index).Blind
  unfold PaidRequest.run
  refine .bind (.of_except _) fun (request, expected) => ?_
  refine .bind (Http.Client.send_blind _) fun first => ?_
  split
  · exact .of_except _
  · refine .bind (.of_except _) fun challenge => ?_
    refine .bind (.of_except _) fun offer => ?_
    refine .bind (.of_except _) fun _ => ?_
    refine .bind (.ask trivial) fun signed => ?_
    refine .bind (.of_except _) fun proof => ?_
    refine .bind (.of_except _) fun paying => ?_
    exact .bind (Http.Client.send_blind _) fun second => .ite (.throw _) (.of_except _)

theorem Scale.factory_eq_ok {parameters : Table Parameter} {node : Node}
    (h : Scale.factory parameters = .ok node) : node = Scale.node := by
  unfold Scale.factory at h
  split at h
  all_goals cases h
  all_goals rfl

theorem Delay.factory_eq_ok {parameters : Table Parameter} {node : Node}
    (h : Delay.factory parameters = .ok node) : node = Delay.node := by
  unfold Delay.factory at h
  split at h
  · split at h
    · cases h
      rfl
    · cases h
  · cases h
    rfl

theorem mem_all_of_standard {tag : String} {factory : Factory}
    (h : standard.get? tag = some factory) : (tag, factory) ∈ all := by
  have unique : (Table.names (.empty : Registry) ++ all.map Prod.fst).Nodup := by decide
  have hget := (Table.foldl_insert all .empty unique).2 tag
  exact Table.mem_of_get? (hget.symm.trans h)

/-- The token can only make the built-in nodes give up. -/
theorem standard_steadfast {placed : Placed} {node : Node}
    (h : standard.create placed = .ok node) : Steadfast node ctx limit := by
  unfold Registry.create Registry.build at h
  split at h
  · cases h
  next factory hf =>
    split at h
    next made hmade =>
      cases h
      have hm := mem_all_of_standard hf
      simp only [all, List.mem_cons, Prod.mk.injEq, List.not_mem_nil, or_false] at hm
      rcases hm with ⟨_, rfl⟩ | ⟨_, rfl⟩ | ⟨_, rfl⟩ | ⟨_, rfl⟩ | ⟨_, rfl⟩ | ⟨_, rfl⟩
      · exact Except.ok.inj hmade ▸ Debug.steadfast ctx limit
      · exact Except.ok.inj hmade ▸ Request.steadfast ctx limit
      · exact Scale.factory_eq_ok hmade ▸ Scale.steadfast ctx limit
      · exact Delay.factory_eq_ok hmade ▸ Delay.steadfast ctx limit
      · exact Except.ok.inj hmade ▸ SetFields.steadfast ctx limit
      · exact Except.ok.inj hmade ▸ PaidRequest.steadfast ctx limit
    · cases h

end Nodes

end Conveyor
