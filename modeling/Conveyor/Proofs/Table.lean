import Conveyor.Table
import Mathlib.Data.List.Perm.Basic

namespace Conveyor.Table

variable {α : Type}

theorem get?_insert (name other : String) (value : α) (table : Table α) :
    get? other (insert name value table) =
      if name = other then some value else get? other table := by
  induction table with
  | nil => rfl
  | cons entry rest ih =>
    obtain ⟨n, v⟩ := entry
    unfold insert
    split
    next hn =>
      subst n
      by_cases hk : name = other <;> simp [get?, hk]
    next hn =>
      split
      · simp [get?]
      · by_cases hk : n = other
        · subst other
          simp [get?, Ne.symm hn]
        · simp [get?, hk, ih]

theorem get?_eq_none_iff {name : String} {table : Table α} :
    get? name table = none ↔ name ∉ names table := by
  induction table with
  | nil => simp [get?, names]
  | cons entry rest ih =>
    obtain ⟨n, v⟩ := entry
    by_cases hn : n = name
    · simp [get?, names, hn]
    · simpa [get?, names, hn, Ne.symm hn] using ih

theorem mem_of_get? {name : String} {value : α} {table : Table α}
    (h : get? name table = some value) : (name, value) ∈ table := by
  induction table with
  | nil => cases h
  | cons entry rest ih =>
    obtain ⟨n, v⟩ := entry
    unfold get? at h
    split at h
    next hn =>
      cases h
      exact hn ▸ List.mem_cons_self
    · exact List.mem_cons_of_mem _ (ih h)

theorem get?_of_mem {name : String} {value : α} {table : Table α} (unique : (names table).Nodup)
    (h : (name, value) ∈ table) : get? name table = some value := by
  induction table with
  | nil => cases h
  | cons entry rest ih =>
    obtain ⟨n, v⟩ := entry
    obtain ⟨fresh, unique⟩ := List.nodup_cons.mp unique
    rcases List.mem_cons.mp h with he | hm
    · cases he
      simp [get?]
    · have hname : name ∈ names rest := List.mem_map_of_mem (f := Prod.fst) hm
      have hn : n ≠ name := fun he => fresh (he ▸ hname)
      rw [get?, if_neg hn, ih unique hm]

theorem get?_append (name : String) (first second : Table α) :
    get? name (first ++ second) = (get? name first).or (get? name second) := by
  induction first with
  | nil => rfl
  | cons entry rest ih =>
    obtain ⟨n, v⟩ := entry
    by_cases hn : n = name <;> simp [get?, hn, ih]

theorem names_insert {name : String} {table : Table α} (fresh : name ∉ names table) (value : α) :
    (names (insert name value table)).Perm (name :: names table) := by
  induction table with
  | nil => exact .refl _
  | cons entry rest ih =>
    obtain ⟨n, v⟩ := entry
    simp only [names, List.map_cons, List.mem_cons, not_or] at fresh
    unfold insert
    rw [if_neg (Ne.symm fresh.1)]
    split
    · exact .refl _
    · exact ((ih fresh.2).cons n).trans (.swap name n _)

theorem get?_mapValues {β : Type} (f : α → β) (name : String) (table : Table α) :
    get? name (mapValues f table) = (get? name table).map f := by
  induction table with
  | nil => rfl
  | cons entry rest ih =>
    obtain ⟨n, v⟩ := entry
    by_cases hn : n = name
    · simp [mapValues, get?, hn]
    · simpa [mapValues, get?, hn] using ih

/-- A table that takes in entries with new names has one entry for each, besides its own. -/
theorem foldl_insert (entries : List (String × α)) (table : Table α)
    (unique : (names table ++ entries.map Prod.fst).Nodup) :
    (names (entries.foldl (fun table (name, value) => table.insert name value) table)).Perm
        (names table ++ entries.map Prod.fst) ∧
      ∀ name, get? name (entries.foldl (fun table (name, value) => table.insert name value) table) =
        (get? name table).or (get? name entries) := by
  induction entries generalizing table with
  | nil => simp [get?]
  | cons entry rest ih =>
    obtain ⟨n, v⟩ := entry
    have hn : n ∉ names table := by
      intro hm
      exact (List.nodup_append.mp unique).2.2 n hm n (by simp) rfl
    have hp : (names (table.insert n v) ++ rest.map Prod.fst).Perm
        (names table ++ ((n, v) :: rest).map Prod.fst) :=
      ((names_insert hn v).append_right _).trans List.perm_middle.symm
    obtain ⟨hnames, hget⟩ := ih (table.insert n v) (hp.nodup_iff.mpr unique)
    refine ⟨hnames.trans hp, fun name => ?_⟩
    rw [List.foldl_cons, hget, get?_insert]
    by_cases hk : n = name
    · subst name
      simp [get?, get?_eq_none_iff.mpr hn]
    · simp [get?, hk]

theorem names_ofList {entries : List (String × α)} (unique : (entries.map Prod.fst).Nodup) :
    (names (ofList entries)).Perm (entries.map Prod.fst) :=
  (foldl_insert entries empty (by simpa [names, empty] using unique)).1

theorem get?_ofList {entries : List (String × α)} (unique : (entries.map Prod.fst).Nodup)
    (name : String) : get? name (ofList entries) = get? name entries :=
  (foldl_insert entries empty (by simpa [names, empty] using unique)).2 name

theorem get?_ofList_of_mem {entries : List (String × α)} (unique : (entries.map Prod.fst).Nodup)
    {name : String} {value : α} (h : (name, value) ∈ entries) :
    get? name (ofList entries) = some value :=
  (get?_ofList unique name).trans (get?_of_mem unique h)

end Conveyor.Table
