import Conveyor.Proofs.Agenda
import Mathlib.Data.List.Basic

namespace Conveyor

/-- The place in an order of the last of some entries; -1 for none. -/
def lastPlace {α : Type} [BEq α] (order entries : List α) : Int :=
  (entries.map fun x => (order.idxOf x : Int)).foldl max (-1)

theorem foldl_max_le_iff {numbers : List Int} {a b : Int} :
    numbers.foldl max a ≤ b ↔ a ≤ b ∧ ∀ x ∈ numbers, x ≤ b := by
  induction numbers generalizing a with
  | nil => simp
  | cons x rest ih => rw [List.foldl_cons, ih, max_le_iff, List.forall_mem_cons, and_assoc]

section LastPlace

variable {α : Type} [BEq α] {order entries : List α}

theorem lastPlace_le_iff {b : Int} :
    lastPlace order entries ≤ b ↔ -1 ≤ b ∧ ∀ x ∈ entries, (order.idxOf x : Int) ≤ b := by
  rw [lastPlace, foldl_max_le_iff, List.forall_mem_map]

theorem lastPlace_of_places_eq {order' : List α}
    (h : ∀ x ∈ entries, order.idxOf x = order'.idxOf x) :
    lastPlace order entries = lastPlace order' entries := by
  unfold lastPlace
  congr 1
  apply List.map_congr_left
  intro x hx
  rw [h x hx]

/-- How often an entry stands, and where, does not matter. -/
theorem lastPlace_of_mem_iff {entries' : List α} (h : ∀ x, x ∈ entries ↔ x ∈ entries') :
    lastPlace order entries = lastPlace order entries' := by
  apply le_antisymm
  · exact lastPlace_le_iff.mpr ⟨(lastPlace_le_iff.mp le_rfl).1, fun x hx =>
      (lastPlace_le_iff.mp le_rfl).2 x ((h x).mp hx)⟩
  · exact lastPlace_le_iff.mpr ⟨(lastPlace_le_iff.mp le_rfl).1, fun x hx =>
      (lastPlace_le_iff.mp le_rfl).2 x ((h x).mpr hx)⟩

end LastPlace

/-- In a list that is sorted by a strict order, places compare as entries do. -/
theorem idxOf_lt_iff_of_pairwise {r : Nat → Nat → Prop} {entries : List Nat}
    (sorted : entries.Pairwise r) (asymm : ∀ a b, r a b → ¬r b a) {a b : Nat}
    (ha : a ∈ entries) (hb : b ∈ entries) : entries.idxOf a < entries.idxOf b ↔ r a b := by
  have forward {a b : Nat} (ha : a ∈ entries) (hb : b ∈ entries)
      (h : entries.idxOf a < entries.idxOf b) : r a b := by
    have hr := List.pairwise_iff_getElem.mp sorted _ _ (List.idxOf_lt_length_of_mem ha)
      (List.idxOf_lt_length_of_mem hb) h
    simpa using hr
  refine ⟨forward ha hb, fun hr => ?_⟩
  by_contra hn
  rcases Nat.lt_or_eq_of_le (Nat.le_of_not_lt hn) with hlt | heq
  · exact asymm a b hr (forward hb ha hlt)
  · obtain rfl := (List.idxOf_inj hb).mp heq
    exact asymm _ _ hr hr

namespace Plan

variable {plan : Plan} {order : List Nat} {u v : Nat}

/-- Where the edges to a position come from, one entry per edge. -/
def sources (plan : Plan) (v : Nat) : List Nat := (plan.edges.filter (·.2 = v)).map Prod.fst

theorem mem_sources : u ∈ plan.sources v ↔ plan.Leads u v := by
  simp [sources, Leads]

/-- The place of the last of the positions that lead to one, in an order in which they are
processed; -1 where none does. -/
def rank (plan : Plan) (order : List Nat) (v : Nat) : Int := lastPlace order (plan.sources v)

/-- What becomes ready earlier comes first, and of what becomes ready together what is
declared earlier. -/
def Before (plan : Plan) (order : List Nat) (u v : Nat) : Prop :=
  plan.rank order u < plan.rank order v ∨ plan.rank order u = plan.rank order v ∧ u < v

theorem Before.asymm (h : plan.Before order u v) : ¬plan.Before order v u := by
  unfold Before at *
  omega

theorem rank_le_iff {b : Int} :
    plan.rank order v ≤ b ↔ -1 ≤ b ∧ ∀ u, plan.Leads u v → (order.idxOf u : Int) ≤ b := by
  simp only [rank, lastPlace_le_iff, mem_sources]

theorem le_rank (order : List Nat) (h : plan.Leads u v) :
    (order.idxOf u : Int) ≤ plan.rank order v :=
  (rank_le_iff.mp (Int.le_refl _)).2 u h

theorem neg_one_le_rank (plan : Plan) (order : List Nat) (v : Nat) : -1 ≤ plan.rank order v :=
  (rank_le_iff.mp (Int.le_refl _)).1

/-- Only the places of what leads to a position count for its rank. -/
theorem rank_append {later : List Nat} (h : ∀ u, plan.Leads u v → u ∈ order) :
    plan.rank (order ++ later) v = plan.rank order v := by
  refine lastPlace_of_places_eq fun u hu => ?_
  rw [List.idxOf_append_of_mem (h u (mem_sources.mp hu))]

theorem rank_lt_length (h : ∀ u, plan.Leads u v → u ∈ order) :
    plan.rank order v < order.length := by
  have hle : plan.rank order v ≤ order.length - 1 := by
    refine rank_le_iff.mpr ⟨by omega, fun u hu => ?_⟩
    have := List.idxOf_lt_length_of_mem (h u hu)
    omega
  omega

end Plan

namespace Agenda

variable {plan : Plan} {agenda after : Agenda} {u v : Nat}

/-- What is more, where a run of the agenda stands: what is processed comes after all it depends
on, and the processed and the queued positions together stand in the order of their ranks. -/
structure Ordered (plan : Plan) (agenda : Agenda) : Prop extends Consistent plan agenda where
  early : ∀ u v, plan.Leads u v → v ∈ agenda.processed →
    agenda.processed.idxOf u < agenda.processed.idxOf v
  ranked : (agenda.processed ++ agenda.ready).Pairwise (plan.Before agenda.processed)

/-- All that a processed or queued position depends on is processed. -/
theorem Consistent.sources (h : Consistent plan agenda) (hv : v ∈ agenda.processed ++ agenda.ready)
    (u : Nat) (hu : plan.Leads u v) : u ∈ agenda.processed := by
  rcases List.mem_append.mp hv with hm | hm
  · exact Plan.pending_eq_zero_iff.mp (h.settled v hm).2 u hu
  · exact Plan.pending_eq_zero_iff.mp ((h.ready v).mp hm).2.2 u hu

theorem Ordered.start (inside : plan.Inside) : Ordered plan (Agenda.start plan) where
  toConsistent := Consistent.start inside
  early := by simp [Agenda.start]
  ranked := by
    have hc := Consistent.start inside
    have hrank : ∀ v ∈ (Agenda.start plan).ready, plan.rank [] v = -1 := by
      intro v hv
      have hle : plan.rank [] v ≤ -1 := Plan.rank_le_iff.mpr ⟨Int.le_refl _, fun u hu => by
        have := hc.sources (List.mem_append_right _ hv) u hu
        simp [Agenda.start] at this⟩
      have := plan.neg_one_le_rank [] v
      omega
    have hlt : (Agenda.start plan).ready.Pairwise (· < ·) := List.pairwise_lt_range.filter _
    refine hlt.imp_of_mem fun {a b} ha hb hab => .inr ⟨?_, hab⟩
    exact (hrank a ha).trans (hrank b hb).symm

theorem pairwise_ascending {positions : List Nat} (unique : positions.Nodup) :
    (ascending positions).Pairwise (· < ·) := by
  have hle : (ascending positions).Pairwise (fun a b => decide (a ≤ b) = true) :=
    List.pairwise_mergeSort (by simpa using fun a b c => Nat.le_trans)
      (by simpa using Nat.le_total) _
  have hne : (ascending positions).Nodup := (List.mergeSort_perm _ _).nodup_iff.mpr unique
  refine (hle.and hne).imp fun {a b} h => ?_
  have := of_decide_eq_true h.1
  omega

theorem Ordered.next (inside : plan.Inside) (h : Ordered plan agenda)
    (hn : agenda.next? plan = some (u, after)) : Ordered plan after := by
  obtain ⟨_, hu, hsources⟩ := h.of_next hn
  have hafter := h.toConsistent.next inside hn
  obtain ⟨ready, hr, rfl⟩ := next?_eq_some_iff.mp hn
  obtain ⟨_, _, hnodup, _⟩ := serveAll_spec (h.enough hu)
  have hnewly := h.mem_newly hu
  refine ⟨hafter, fun s v hl hv => ?_, ?_⟩
  · rcases List.mem_append.mp hv with hm | hm
    · rw [List.idxOf_append_of_mem hm,
        List.idxOf_append_of_mem (h.sources (List.mem_append_left _ hm) s hl)]
      exact h.early s v hl hm
    · obtain rfl := List.mem_singleton.mp hm
      rw [List.idxOf_append_of_mem (hsources s hl), List.idxOf_append_of_notMem hu]
      exact Nat.lt_add_right _ (List.idxOf_lt_length_of_mem (hsources s hl))
  · have hold := h.ranked
    rw [hr] at hold
    -- Ranks settled before stay, below that of what becomes ready now.
    have hkeep : ∀ v ∈ agenda.processed ++ u :: ready,
        plan.rank (agenda.processed ++ [u]) v = plan.rank agenda.processed v ∧
          plan.rank agenda.processed v < agenda.processed.length := by
      intro v hv
      have hs := h.sources (hr ▸ hv)
      exact ⟨Plan.rank_append hs, Plan.rank_lt_length hs⟩
    have hnew : ∀ v ∈ ascending (serveAll agenda.waiting (plan.successors u)).2,
        plan.rank (agenda.processed ++ [u]) v = agenda.processed.length := by
      intro v hv
      obtain ⟨hl, hz⟩ := (hnewly v).mp (List.mem_mergeSort.mp hv)
      have hlow := Plan.le_rank (agenda.processed ++ [u]) hl
      have hhigh := Plan.rank_lt_length (Plan.pending_eq_zero_iff.mp hz)
      rw [List.idxOf_append_of_notMem hu] at hlow
      simp at hlow hhigh
      omega
    rw [← List.append_assoc, List.append_assoc agenda.processed]
    refine List.pairwise_append.mpr ⟨?_, ?_, ?_⟩
    · refine hold.imp_of_mem fun {a b} ha hb hab => ?_
      rw [Plan.Before, (hkeep a ha).1, (hkeep b hb).1]
      exact hab
    · refine (pairwise_ascending hnodup).imp_of_mem fun {a b} ha hb hab => .inr ⟨?_, hab⟩
      rw [hnew a ha, hnew b hb]
    · intro a ha b hb
      left
      rw [(hkeep a ha).1, hnew b hb]
      exact (hkeep a ha).2

theorem follow_ordered (inside : plan.Inside) (steps : Nat) :
    Ordered plan ((Agenda.start plan).follow plan steps) :=
  follow_of_next (fun _ _ _ h hn => h.next inside hn) steps (Ordered.start inside)

end Agenda

namespace Plan

theorem schedule_early {plan : Plan} (inside : plan.Inside) {u v : Nat} (hl : plan.Leads u v)
    (hv : v ∈ plan.schedule) : plan.schedule.idxOf u < plan.schedule.idxOf v :=
  (Agenda.follow_ordered inside plan.size).early u v hl hv

theorem schedule_idxOf_lt_iff {plan : Plan} (inside : plan.Inside) {u v : Nat}
    (hu : u ∈ plan.schedule) (hv : v ∈ plan.schedule) :
    plan.schedule.idxOf u < plan.schedule.idxOf v ↔ plan.Before plan.schedule u v :=
  idxOf_lt_iff_of_pairwise
    (List.pairwise_append.mp (Agenda.follow_ordered inside plan.size).ranked).1
    (fun _ _ => Before.asymm) hu hv

end Plan

end Conveyor
