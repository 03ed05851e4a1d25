import Conveyor.Proofs.Cancellation
import Conveyor.Proofs.Outcome
import Conveyor.Proofs.Rounds

namespace Conveyor
open RunWork

namespace World

/-- The same surroundings after a wait in which the token did not fire. -/
def waited (millis : Nat) (w : World) : World :=
  { w with asked := w.asked + 1, clock := w.clock + millis }

theorem moment_of_calm {w : World} (h : w.moment.cancelled = false) :
    w.moment = { w with asked := w.asked + 1 } := by
  unfold moment fireIf at h ⊢
  split at h
  · simp at h
  next hn => rw [if_neg hn]

end World

/-- A wait in which the token does not fire lasts as long as it should, and all it does is last. -/
theorem awaitCancel_waited {w w' : World} {fired : Node.Fired} {millis : Nat}
    (h : perform w (awaitCancel (some millis)) = (.returned fired, w')) (calm : w'.cancelled = false) :
    w' = w.waited millis := by
  obtain ⟨waited, ha, hp⟩ := perform_awaitCancel w millis
  cases hp.symm.trans h
  obtain ⟨_, _, he, rfl⟩ := World.awaitCancel_calm ha calm
  cases he
  rw [World.moment_of_calm (w := w) calm]
  rfl

theorem World.Later.waited (millis : Nat) (w : World) : w.Later (w.waited millis) :=
  of_past_eq rfl rfl

/-- An attempt at an item: where it began, how it ended and where. -/
structure RunWork.Trial where
  before : World
  ending : Ending (Except Failure Output)
  after : World

/-- The attempts at an item from one with a given number on, where the token does not fire. -/
structure RunWork.Retries (node : Node) (ctx : Context) (limit : Option Nat)
    (policy : Option RetryPolicy) (index number : Nat) (w : World) (trials : List Trial)
    (ending : Ending (Except Failure Output)) (w' : World) : Prop where
  begins : trials.head?.map Trial.before = some w
  tried : ∀ j t, trials[j]? = some t →
    perform t.before (attempt node ctx limit index (number + j)) = (t.ending, t.after) ∧
      t.after.cancelled = false
  /-- Only an error other than being cancelled is followed by another attempt, after a wait. -/
  waits : ∀ j t t', trials[j]? = some t → trials[j + 1]? = some t' →
    ∃ e p, t.ending = .returned (.error e) ∧ e ≠ .cancelled ∧ policy = some p ∧
      t'.before = t.after.waited (Node.nap (p.delayFor (number + j)))
  ends : trials.getLast?.map (fun t => (t.ending, t.after)) = some (ending, w')
  within : number + trials.length ≤ RetryPolicy.allowed policy + 1
  spent : ∀ e, ending = .returned (.error e) → e ≠ .cancelled →
    number + trials.length = RetryPolicy.allowed policy + 1
  calls : w.callsSince w' = (List.range' number trials.length).map
    (.attempt ctx.nodeId ctx.inputs index ·)

section Item

variable {node : Node} {ctx : Context} {limit : Option Nat} {policy : Option RetryPolicy}
  {index number : Nat} {w w' : World} {ending : Ending (Except Failure Output)}

namespace RunWork.Retries

theorem last (tried : perform w (attempt node ctx limit index number) = (ending, w'))
    (calm : w'.cancelled = false) (room : number ≤ RetryPolicy.allowed policy)
    (final : ∀ e, ending = .returned (.error e) → e ≠ .cancelled →
      number = RetryPolicy.allowed policy) :
    Retries node ctx limit policy index number w [⟨w, ending, w'⟩] ending w' where
  begins := rfl
  tried j t h := by
    obtain ⟨rfl, rfl⟩ : j = 0 ∧ _ := by simpa [List.getElem?_singleton] using h
    exact ⟨tried, calm⟩
  waits j t t' _ h := by simp at h
  ends := rfl
  within := by simpa using room
  spent e he hne := by simpa using final e he hne
  calls := attempt_calls tried calm

theorem again {e : Failure} {p : RetryPolicy} {failed : World} {trials : List Trial}
    (tried : perform w (attempt node ctx limit index number) = (.returned (.error e), failed))
    (calm : failed.cancelled = false) (retryable : e ≠ .cancelled)
    (later : (failed.waited (Node.nap (p.delayFor number))).Later w')
    (others : Retries node ctx limit (some p) index (number + 1)
      (failed.waited (Node.nap (p.delayFor number))) trials ending w') :
    Retries node ctx limit (some p) index number w
      (⟨w, .returned (.error e), failed⟩ :: trials) ending w' where
  begins := rfl
  tried j t h := by
    cases j with
    | zero =>
      cases h
      exact ⟨tried, calm⟩
    | succ j => simpa [Nat.add_right_comm, Nat.add_assoc] using others.tried j t h
  waits j t t' h h' := by
    cases j with
    | zero =>
      cases h
      obtain ⟨t'', ht, hb⟩ := Option.map_eq_some_iff.mp others.begins
      rw [List.head?_eq_getElem?] at ht
      cases h'.symm.trans ht
      exact ⟨e, p, rfl, retryable, rfl, hb⟩
    | succ j => simpa [Nat.add_right_comm, Nat.add_assoc] using others.waits j t t' h h'
  ends := by
    obtain ⟨t, ht, _⟩ := Option.map_eq_some_iff.mp others.ends
    rw [List.getLast?_cons, ht]
    exact ht ▸ others.ends
  within := by
    have := others.within
    rw [List.length_cons]
    omega
  spent e he hne := by
    have := others.spent e he hne
    rw [List.length_cons]
    omega
  calls := by
    have waits := World.Later.waited (Node.nap (p.delayFor number)) failed
    rw [(later_of_perform tried).callsSince_trans (waits.trans later),
      waits.callsSince_trans later, attempt_calls tried calm, waits.callsSince_eq_nil rfl,
      others.calls]
    rfl

end RunWork.Retries

theorem persist_retries {p : RetryPolicy} {more : Nat}
    (all : number + more = RetryPolicy.allowed (some p))
    (h : perform w (persist node ctx limit p index number more) = (ending, w'))
    (calm : w'.cancelled = false) :
    ∃ trials, Retries node ctx limit (some p) index number w trials ending w' := by
  induction more generalizing w number with
  | zero => exact ⟨_, .last h calm (by omega) fun _ _ _ => by omega⟩
  | succ more ih =>
    obtain ⟨first, failed, tried, ⟨rfl, rfl, final⟩ | ⟨e, waited, rfl, hne, pause, h⟩⟩ :=
      persist_cases h
    · exact ⟨_, .last tried calm (by omega) fun e he hne => absurd (final e he) hne⟩
    · obtain ⟨fired, -, rfl⟩ | ⟨patient, h⟩ := h
      · cases calm.symm.trans fired
      · obtain rfl := awaitCancel_waited pause patient
        obtain ⟨trials, others⟩ := ih (by omega) h
        have later := later_of_perform h
        exact ⟨_, .again tried (later.calm calm) hne later others⟩

theorem item_retries (h : perform w (item node ctx limit policy index) = (ending, w'))
    (calm : w'.cancelled = false) :
    ∃ trials, Retries node ctx limit policy index 1 w trials ending w' := by
  cases policy with
  | none => exact ⟨_, .last h calm (Nat.le_refl 1) fun _ _ _ => rfl⟩
  | some p =>
    refine persist_retries ?_ h calm
    rw [RetryPolicy.allowed]
    omega

/-- An attempt comes to what its code comes to by itself, unless that takes longer than the limit. -/
theorem attempt_eq_curtailed
    (h : perform w (attempt node ctx limit index number) = (ending, w'))
    (calm : w'.cancelled = false) :
    let alone := course (w.moment.note (.began (.attempt ctx.nodeId ctx.inputs index number)))
      (node.run ctx index number)
    ending = curtailed (limit.map Limit.of) alone.1 alone.2 := by
  unfold attempt at h
  rw [perform_bind_of_returned (perform_isCancelled w)] at h
  rw [if_neg (by simp [(later_of_perform h).calm calm])] at h
  exact call_eq_curtailed h calm

/-- An item is attempted until an attempt succeeds or says that it was cancelled, or as often as the
policy allows, and at least once; the last attempt is what it comes to. Between two attempts there is
a wait of as many milliseconds as the policy says, or of thirty years if that is less. An attempt
that takes longer than the limit has timed out, and one that breaks down has failed. -/
theorem item_retried (h : perform w (item node ctx limit policy index) = (ending, w'))
    (calm : w'.cancelled = false) :
    ∃ trials, Retries node ctx limit policy index 1 w trials ending w' ∧
      (∀ j t, trials[j]? = some t →
        let alone := course (t.before.moment.note
          (.began (.attempt ctx.nodeId ctx.inputs index (1 + j)))) (node.run ctx index (1 + j))
        t.ending = curtailed (limit.map Limit.of) alone.1 alone.2) ∧
      ((∀ p, policy = some p → p.maxAttempts < 1 <<< 32) → trials.length < 1 <<< 32) := by
  obtain ⟨trials, retries⟩ := item_retries h calm
  refine ⟨trials, retries, fun j t ht => ?_, fun representable => ?_⟩
  · obtain ⟨tried, calm⟩ := retries.tried j t ht
    exact attempt_eq_curtailed tried calm
  · have := retries.within
    cases policy with
    | none =>
      rw [RetryPolicy.allowed] at this
      omega
    | some p =>
      have := representable p rfl
      rw [RetryPolicy.allowed] at *
      omega

end Item

/-- A node that is late, breaks down, and puts an item out, in turn. -/
def Node.faltering : Node where
  description := { displayName := "Faltering", name := "faltering" }
  run _ _ attempt :=
    match attempt with
    | 1 => do
      NodeWork.sleep 20
      pure {}
    | 2 => NodeWork.panic (some "boom")
    | _ => pure { items := [.str "c"] }

theorem item_retried_faltering :
    let policy : RetryPolicy := { maxAttempts := 5, delayMillis := 100 }
    let run := perform {} (item .faltering (.sample .faltering 1) (some 10) (some policy) 0)
    ∃ trials, Retries .faltering (.sample .faltering 1) (some 10) (some policy) 0 1 {} trials
      (.returned (.ok { items := [.str "c"] })) run.2 ∧ trials.length = 3 := by
  intro policy run
  have hrun : run = (.returned (.ok { items := [.str "c"] }), run.2) := rfl
  obtain ⟨trials, retries, -⟩ := item_retried hrun rfl
  refine ⟨trials, retries, ?_⟩
  have hcalls : (({} : World).callsSince run.2).length = 3 := rfl
  simpa [retries.calls] using hcalls

/-- No wait is longer than thirty years. -/
theorem waits_thirty_years :
    let policy : RetryPolicy := { maxAttempts := 2, delayMillis := 1000000000000 }
    let after := (perform {} (item .mixed (.sample .mixed 2) none (some policy) 1)).2
    (({} : World).callsSince after).length = 2 ∧ after.clock = 946080000000 ∧
      policy.delayFor 1 = 1000000000000 := by
  decide +kernel

end Conveyor
