import Conveyor.Proofs.Drive
import Conveyor.Proofs.Outcome

namespace Conveyor
open RunWork

variable {α β : Type}

/-- Surroundings that go along with others: they differ in the token alone, or else it has fired. -/
def World.Trails (w v : World) : Prop := w.Akin v ∨ v.cancelled = true

namespace RunWork

/-- Once the token has fired, work comes to an end of a kind. -/
def Quits (kind : α → Prop) (work : RunWork α) : Prop :=
  ∀ ⦃v v' : World⦄ ⦃ending : Ending α⦄, v.cancelled = true → perform v work = (ending, v') →
    ∃ value, ending = .returned value ∧ kind value

theorem Quits.pure {kind : α → Prop} {value : α} (h : kind value) :
    Quits kind (Pure.pure value : RunWork α) := by
  intro v v' ending _ hv
  cases hv
  exact ⟨value, rfl, h⟩

/-- Work that comes to an end where the token does not fire comes to the same end where it does,
or it quits. -/
def Echo (kind : α → Prop) (work : RunWork α) (w v : World) : Prop :=
  ∀ ⦃w' v' : World⦄ ⦃ending ending' : Ending α⦄, perform w work = (ending, w') →
    w'.cancelled = false → ending ≠ .stuck → perform v work = (ending', v') →
      v'.cancelled = true → ending' = ending ∨ ∃ value, ending' = .returned value ∧ kind value

/-- Work that does nothing but tell whether the token has fired by its end. -/
def Looks (work : RunWork Bool) : Prop :=
  ∀ w, ∃ w', perform w work = (.returned w'.cancelled, w')

theorem Looks.isCancelled : Looks isCancelled := fun w => ⟨w.moment, rfl⟩

theorem Looks.awaitCancel (millis : Nat) : Looks (awaitCancel (some millis)) := fun w =>
  let ⟨w', _, hr⟩ := perform_awaitCancel w millis
  ⟨w', hr⟩

theorem Quits.of_looks {kind : α → Prop} {look : RunWork Bool} (looks : Looks look)
    {yes no : RunWork α} (hy : Quits kind yes) : Quits kind (do if ← look then yes else no) := by
  intro v v' ending fired hv
  obtain ⟨v₁, hr⟩ := looks v
  have fired₁ := (later_of_perform hr).cancelled fired
  rw [perform_bind_of_returned hr, if_pos fired₁] at hv
  exact hy fired₁ hv

namespace Echo

variable {w v : World} {kind : α → Prop}

theorem pure (value : α) : Echo kind (Pure.pure value : RunWork α) w v := by
  intro w' v' ending ending' hw _ _ hv _
  cases hw
  cases hv
  exact .inl rfl

theorem panic (payload : Option String) : Echo kind (.panic payload : RunWork α) w v := by
  intro w' v' ending ending' hw _ _ hv _
  cases hw
  cases hv
  exact .inl rfl

theorem notify (notice : Notice) {kind : Unit → Prop} : Echo kind (notify notice) w v := by
  intro w' v' ending ending' hw _ _ hv _
  cases hw
  cases hv
  exact .inl rfl

theorem of_blind {panics : Prop} {work : RunWork α} (blind : Asks Run.Ask.Blind panics work)
    (akin : w.Akin v) : Echo kind work w v := by
  intro w' v' ending ending' hw _ _ hv _
  exact .inl (perform_blind blind akin hw hv).1

/-- Where work ends in the same way the surroundings go on along with each other. -/
theorem same_or_quits {work : RunWork α} (trails : w.Trails v) (h : Echo kind work w v)
    {w' v' : World} {ending ending' : Ending α} (hw : perform w work = (ending, w'))
    (calm : w'.cancelled = false) (ends : ending ≠ .stuck) (hv : perform v work = (ending', v')) :
    ending' = ending ∧ w'.Trails v' ∨
      v'.cancelled = true ∧ ∃ value, ending' = .returned value ∧ kind value := by
  cases hv' : v'.cancelled with
  | false =>
    have akin := trails.resolve_right (by simp [(later_of_perform hv).calm hv'])
    obtain ⟨he, akin'⟩ := perform_akin akin hw hv calm hv'
    exact .inl ⟨he, .inl akin'⟩
  | true =>
    rcases h hw calm ends hv hv' with he | quits
    · exact .inl ⟨he, .inr hv'⟩
    · exact .inr ⟨rfl, quits⟩

theorem bind {first : RunWork α} {kind' : β → Prop} {next : α → RunWork β} (trails : w.Trails v)
    (hf : Echo kind first w v)
    (hn : ∀ value w₁ v₁, w₁.Trails v₁ → Echo kind' (next value) w₁ v₁)
    (hq : ∀ value, kind value → Quits kind' (next value)) : Echo kind' (first >>= next) w v := by
  intro w' v' ending ending' hw calm ends hv fired
  rw [perform_bind] at hw hv
  rcases hpw : perform w first with ⟨ending₁, w₁⟩
  rcases hpv : perform v first with ⟨ending₁', v₁⟩
  rw [hpw] at hw
  rw [hpv] at hv
  cases ending₁ with
  | returned value =>
    have hw₁ := (later_of_perform hw).calm calm
    rcases hf.same_or_quits trails hpw hw₁ nofun hpv with
      ⟨rfl, trails₁⟩ | ⟨fired₁, value', rfl, hk⟩
    · exact hn value w₁ v₁ trails₁ hw calm ends hv fired
    · exact .inr (hq value' hk fired₁ hv)
  | panicked payload =>
    cases hw
    rcases hf.same_or_quits trails hpw calm nofun hpv with ⟨rfl, _⟩ | ⟨fired₁, value', rfl, hk⟩
    · cases hv
      exact .inl rfl
    · exact .inr (hq value' hk fired₁ hv)
  | stuck =>
    cases hw
    exact absurd rfl ends

/-- What is done unless the token has fired is only done where it has not. -/
theorem of_looks {look : RunWork Bool} (looks : Looks look) {yes no : RunWork α}
    (trails : w.Trails v) (hy : Quits kind yes)
    (hn : ∀ w₁ v₁, w₁.Akin v₁ → v₁.cancelled = false → Echo kind no w₁ v₁) :
    Echo kind (do if ← look then yes else no) w v := by
  intro w' v' ending ending' hw calm ends hv fired
  obtain ⟨w₁, hpw⟩ := looks w
  obtain ⟨v₁, hpv⟩ := looks v
  rw [perform_bind_of_returned hpw] at hw
  rw [perform_bind_of_returned hpv] at hv
  have hw₁ : w₁.cancelled = false := (later_of_perform hw).calm calm
  rw [if_neg (by simp [hw₁])] at hw
  cases hv₁ : v₁.cancelled with
  | true =>
    rw [if_pos hv₁] at hv
    exact .inr (hy hv₁ hv)
  | false =>
    rw [if_neg (by simp [hv₁])] at hv
    have akin := trails.resolve_right (by simp [(later_of_perform hpv).calm hv₁])
    obtain ⟨_, akin₁⟩ := perform_akin akin hpw hpv hw₁ hv₁
    exact hn w₁ v₁ akin₁ hv₁ hw calm ends hv fired

end Echo

end RunWork

section Node

variable {node : Node} {ctx : Context} {limit : Option Nat} {policy : Option RetryPolicy}
  {w v : World}

theorem abandoned_echo (outcome : Except Failure Output) :
    Echo (· = true) (abandoned outcome) w v := by
  unfold abandoned
  split
  · intro w' v' ending ending' _ _ _ hv fired
    cases hv
    exact .inr ⟨_, rfl, fired⟩
  · exact .pure false

/-- The token has an attempt given up, if it has a part in it at all. -/
theorem guarded_echo {limit : Option Limit} {code : Work Node.Ask.Reply (Except Failure α)}
    (unswayed : Unswayed limit code) (akin : w.Akin v) (hv : v.cancelled = false) :
    Echo (· = .error .cancelled) (guarded limit code) w v := by
  intro w' v' ending ending' hw calm _ hv' _
  have silent := World.silent_silenced hv
  have he : ending = outcome limit v.silenced code :=
    guarded_calm (akin.trans (.silenced v)) silent code hw calm
  rcases guarded_foreseen (.silenced v) hv silent code hv' with ⟨hc, _⟩ | ⟨k, hk, _⟩
  · exact .inr ⟨_, hc, rfl⟩
  · rcases unswayed (v.silenced.firesAt k) hv with same | hc
    · exact .inl (hk.trans (same.trans he.symm))
    · exact .inr ⟨_, hk.trans hc, rfl⟩

variable (steadfast : Steadfast node ctx limit)
include steadfast

theorem call_echo (akin : w.Akin v) (hv : v.cancelled = false) (index number : Nat) :
    Echo (· = .error .cancelled) (call node ctx limit index number) w v := by
  intro w' v' ending ending' hw calm ends hv' fired
  exact guarded_echo (steadfast.attempt index number) (akin.note _) hv hw calm ends hv' fired

theorem attempt_echo (trails : w.Trails v) (index number : Nat) :
    Echo (· = .error .cancelled) (attempt node ctx limit index number) w v :=
  .of_looks .isCancelled trails (.pure rfl) fun _ _ akin calm =>
    call_echo steadfast akin calm index number

theorem persist_echo (trails : w.Trails v) (policy : RetryPolicy) (index number more : Nat) :
    Echo (· = .error .cancelled) (persist node ctx limit policy index number more) w v := by
  induction more generalizing w v number with
  | zero => exact attempt_echo steadfast trails index number
  | succ more ih =>
    refine (attempt_echo steadfast trails index number).bind trails ?_ ?_
    · intro outcome w₁ v₁ trails
      split
      · exact .pure _
      · exact .pure _
      · exact .of_looks (.awaitCancel _) trails (.pure rfl) fun w₂ v₂ akin _ =>
          ih (.inl akin) (number + 1)
    · rintro _ rfl
      exact .pure rfl

theorem item_echo (trails : w.Trails v) (index : Nat) :
    Echo (· = .error .cancelled) (item node ctx limit policy index) w v := by
  cases policy with
  | none => exact attempt_echo steadfast trails index 1
  | some policy => exact persist_echo steadfast trails policy index 1 _

theorem items_echo (trails : w.Trails v) (indices : List Nat) (ports : Ports) :
    Echo (· = .error .cancelled) (items node ctx limit policy indices ports) w v := by
  induction indices generalizing w v ports with
  | nil => exact .pure _
  | cons index rest ih =>
    refine .of_looks .isCancelled trails (.pure rfl) fun w₁ v₁ akin _ => ?_
    refine (item_echo steadfast (.inl akin) index).bind (.inl akin) ?_ ?_
    · intro outcome w₂ v₂ trails
      refine (abandoned_echo outcome).bind trails ?_ ?_
      · intro given w₃ v₃ trails
        cases given with
        | true => exact .pure _
        | false =>
          cases hc : contribute ctx index outcome ports with
          | none => exact .panic none
          | some filled => exact ih trails filled
      · rintro _ rfl
        exact .pure rfl
    · rintro _ rfl
      exact .of_looks .isCancelled (.pure rfl)

/-- What a node puts out is what it puts out where the token does not fire, or nothing at all. -/
theorem node_echo (akin : w.Akin v) :
    Echo (· = .error .cancelled) (RunWork.node node ctx limit policy) w v := by
  have setup : Asks Run.Ask.Blind True (prepare node ctx) :=
    (Asks.question trivial).bind fun _ => steadfast.setup.asks
  have same : Echo (fun _ => False) (prepare node ctx) w v := .of_blind setup akin
  unfold RunWork.node
  split
  · exact .panic none
  · refine same.bind (.inl akin) ?_ nofun
    intro outcome w₁ v₁ trails
    cases outcome with
    | ok => exact items_echo steadfast trails _ _
    | error e => exact .pure _

end Node

/-- The turn of a node that is steadfast ends as it does where the token does not fire, or the run
is cancelled. -/
theorem Executor.turn_echo {executor : Executor} {id : Uuid} {workflow : Workflow} {plan : Plan}
    {trigger : List Item} {cast : List (Placed × Node)} {w v : World}
    (steadfast : ∀ member ∈ cast, ∀ given,
      Steadfast member.2 (executor.context id member.1 member.2 given) executor.itemTimeout)
    (trails : w.Trails v) (position : Nat) (finished : Finished) :
    Echo (fun outcome => ∃ node, outcome = .error ⟨node, .cancelled⟩)
      (executor.turn id workflow plan trigger cast position finished) w v := by
  refine .of_looks .isCancelled trails (.pure ⟨none, rfl⟩) fun w₁ v₁ akin _ => ?_
  split
  · exact .panic none
  next placed node hm =>
    split
    · exact .panic none
    next given _ =>
      have hs := steadfast (placed, node) (List.mem_of_getElem? hm) given
      refine (node_echo hs akin).bind (.inl akin) ?_ ?_
      · intro outcome w₂ v₂ trails
        cases outcome with
        | error fault => exact .pure _
        | ok output =>
          have told : Echo (fun _ => False) (notify (.nodeFinished placed.id placed.type output
              !output.anyError)) w₂ v₂ := .notify _
          exact told.bind trails (fun _ _ _ _ => .pure _) nofun
      · rintro _ rfl
        exact .pure ⟨some placed.id, rfl⟩

end Conveyor
