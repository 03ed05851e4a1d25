import Conveyor.Nodes.SetFields
import Conveyor.Proofs.Parameters

namespace Conveyor

namespace Table

variable {α : Type} {name : String} {table other : Table α}

theorem ascending_iff_pairwise : Ascending table ↔ (names table).Pairwise (· < ·) := by
  induction table with
  | nil => simp [Ascending, names]
  | cons entry rest ih =>
    obtain ⟨n, v⟩ := entry
    rw [Ascending, ih]
    simp [names]

/-- A table is known by what is found in it. -/
theorem Ascending.ext (h : Ascending table) (hother : Ascending other)
    (same : ∀ name, get? name table = get? name other) : table = other := by
  induction table generalizing other with
  | nil =>
    cases other with
    | nil => rfl
    | cons entry rest => simpa [get?] using same entry.1
  | cons entry rest ih =>
    obtain ⟨n, v⟩ := entry
    cases other with
    | nil => simpa [get?] using same n
    | cons entry' rest' =>
      obtain ⟨n', v'⟩ := entry'
      obtain ⟨below, hrest⟩ := h
      obtain ⟨below', hrest'⟩ := hother
      have hn : n = n' := by
        by_contra hne
        have hm : n ∈ names rest' := by
          have hsome := same n
          rw [get?, if_pos rfl, get?, if_neg (Ne.symm hne)] at hsome
          exact mem_names_iff.mpr (hsome ▸ rfl)
        have hm' : n' ∈ names rest := by
          have hsome := same n'
          rw [get?, if_neg hne, get?, if_pos rfl] at hsome
          exact mem_names_iff.mpr (hsome ▸ rfl)
        exact String.lt_asymm (below n' hm') (below' n hm)
      subst n'
      have hv : v = v' := by simpa [get?] using same n
      subst v'
      rw [ih hrest hrest' fun name => ?_]
      by_cases hname : n = name
      · subst name
        have fresh : n ∉ names rest := fun hm => String.lt_irrefl n (below n hm)
        have fresh' : n ∉ names rest' := fun hm => String.lt_irrefl n (below' n hm)
        rw [get?_eq_none_iff.mpr fresh, get?_eq_none_iff.mpr fresh']
      · simpa [get?, hname] using same name

end Table

namespace Nodes.SetFields

variable {source : Json} {index : Nat} {values order out fields : Table Json} {e : Failure}

/-- A value that can be had from the item. -/
def Resolves (source : Json) (index : Nat) (value : Json) : Prop :=
  ∃ resolved, (Parameter.ofJson value).resolve source index = .ok resolved

/-- Fields that are set all at once: each is what its value is for the item, and all others are
what they were. -/
structure Sets (source : Json) (index : Nat) (values out fields : Table Json) : Prop where
  set : ∀ name value, (name, value) ∈ values →
    ∃ resolved, (Parameter.ofJson value).resolve source index = .ok resolved ∧
      fields.get? name = some resolved
  kept : ∀ name, name ∉ values.names → fields.get? name = out.get? name

/-- The first field that cannot be set, by the order of names. -/
structure FailsFirst (source : Json) (index : Nat) (values : Table Json) (e : Failure)
    (name : String) : Prop where
  fails : ∃ value, (name, value) ∈ values ∧
    (Parameter.ofJson value).resolve source index = .error e
  before : ∀ other value, (other, value) ∈ values → other < name → Resolves source index value

theorem Sets.perm (h : Sets source index values out fields) (perm : order.Perm values) :
    Sets source index order out fields where
  set name value hm := h.set name value (perm.mem_iff.mp hm)
  kept name hm := h.kept name fun named => hm ((perm.map Prod.fst).mem_iff.mpr named)

/-- There is one way to set them all. -/
theorem Sets.unique {other : Table Json} (h : Sets source index values out fields)
    (hother : Sets source index values out other) (ascending : fields.Ascending)
    (ascending' : other.Ascending) : fields = other := by
  apply ascending.ext ascending'
  intro name
  by_cases named : name ∈ values.names
  · obtain ⟨⟨name, value⟩, hm, rfl⟩ := List.mem_map.mp named
    obtain ⟨resolved, hr, hget⟩ := h.set name value hm
    obtain ⟨resolved', hr', hget'⟩ := hother.set name value hm
    cases hr.symm.trans hr'
    rw [hget, hget']
  · rw [h.kept name named, hother.kept name named]

theorem assign_cons {name : String} {value resolved : Json}
    (h : (Parameter.ofJson value).resolve source index = .ok resolved) (rest out : Table Json) :
    assign source index ((name, value) :: rest) out =
      assign source index rest (out.insert name resolved) := by
  rw [assign, h]
  rfl

theorem assign_cons_error {name : String} {value : Json}
    (h : (Parameter.ofJson value).resolve source index = .error e) (rest out : Table Json) :
    assign source index ((name, value) :: rest) out = .error e := by
  rw [assign, h]
  rfl

theorem ascending_assign (ascending : out.Ascending)
    (h : assign source index values out = .ok fields) : fields.Ascending := by
  induction values generalizing out with
  | nil =>
    cases h
    exact ascending
  | cons entry rest ih =>
    obtain ⟨resolved, -, h⟩ := bind_eq_ok.mp h
    exact ih (Table.ascending_insert ascending) h

/-- Setting fields one by one sets them all at once, for no value is resolved against what was
set before. -/
theorem sets_of_assign (unique : values.names.Nodup)
    (h : assign source index values out = .ok fields) : Sets source index values out fields := by
  induction values generalizing out with
  | nil =>
    cases h
    exact ⟨nofun, fun _ _ => rfl⟩
  | cons entry rest ih =>
    obtain ⟨name, value⟩ := entry
    obtain ⟨fresh, unique⟩ := List.nodup_cons.mp unique
    obtain ⟨resolved, hr, h⟩ := bind_eq_ok.mp h
    have sets := ih unique h
    constructor
    · intro other given hm
      rcases List.mem_cons.mp hm with he | hm
      · cases he
        refine ⟨resolved, hr, ?_⟩
        rw [sets.kept name fresh, Table.get?_insert, if_pos rfl]
      · exact sets.set other given hm
    · intro other hm
      obtain ⟨hne, hm⟩ := not_or.mp (mt List.mem_cons.mpr hm)
      rw [sets.kept other hm, Table.get?_insert, if_neg (Ne.symm hne)]

/-- It fails at the first value that does not resolve. -/
theorem assign_eq_error_iff :
    assign source index values out = .error e ↔
      ∃ front name value back, values = front ++ (name, value) :: back ∧
        (∀ entry ∈ front, Resolves source index entry.2) ∧
        (Parameter.ofJson value).resolve source index = .error e := by
  induction values generalizing out with
  | nil => simp [assign]
  | cons entry rest ih =>
    obtain ⟨name, value⟩ := entry
    cases hr : (Parameter.ofJson value).resolve source index with
    | error reason =>
      rw [assign_cons_error hr]
      constructor
      · intro h
        cases h
        exact ⟨[], name, value, rest, rfl, nofun, hr⟩
      · rintro ⟨front, other, given, back, parts, before, fails⟩
        cases front with
        | nil =>
          cases parts
          cases hr.symm.trans fails
          rfl
        | cons first more =>
          cases parts
          obtain ⟨resolved, resolves⟩ := before (name, value) List.mem_cons_self
          cases hr.symm.trans resolves
    | ok resolved =>
      rw [assign_cons hr, ih]
      constructor
      · rintro ⟨front, other, given, back, rfl, before, fails⟩
        refine ⟨(name, value) :: front, other, given, back, rfl, ?_, fails⟩
        rw [List.forall_mem_cons]
        exact ⟨⟨resolved, hr⟩, before⟩
      · rintro ⟨front, other, given, back, parts, before, fails⟩
        cases front with
        | nil =>
          cases parts
          cases hr.symm.trans fails
        | cons first more =>
          cases parts
          exact ⟨more, other, given, back, rfl, (List.forall_mem_cons.mp before).2, fails⟩

theorem failsFirst_iff (ascending : values.Ascending) :
    (∃ name, FailsFirst source index values e name) ↔
      ∃ front name value back, values = front ++ (name, value) :: back ∧
        (∀ entry ∈ front, Resolves source index entry.2) ∧
        (Parameter.ofJson value).resolve source index = .error e := by
  constructor
  · rintro ⟨name, ⟨value, hm, fails⟩, before⟩
    obtain ⟨front, back, rfl⟩ := List.append_of_mem hm
    refine ⟨front, name, value, back, rfl, fun entry hentry => ?_, fails⟩
    have order := Table.ascending_iff_pairwise.mp ascending
    rw [Table.names, List.map_append, List.pairwise_append] at order
    refine before entry.1 entry.2 (List.mem_append_left _ hentry) ?_
    exact order.2.2 entry.1 (List.mem_map_of_mem hentry) name List.mem_cons_self
  · rintro ⟨front, name, value, back, rfl, before, fails⟩
    refine ⟨name, ⟨value, by simp, fails⟩, fun other given hm hlt => ?_⟩
    have order := Table.ascending_iff_pairwise.mp ascending
    rw [Table.names, List.map_append, List.pairwise_append, List.map_cons, List.pairwise_cons] at order
    rcases List.mem_append.mp hm with hm | hm
    · exact before (other, given) hm
    rcases List.mem_cons.mp hm with he | hm
    · cases he
      exact absurd hlt (String.lt_irrefl name)
    · have behind := order.2.1.1 other (List.mem_map_of_mem (f := Prod.fst) hm)
      exact absurd hlt (String.lt_asymm behind)

theorem assign_eq_ok_iff (unique : values.names.Nodup) (ascending : out.Ascending) :
    assign source index values out = .ok fields ↔
      fields.Ascending ∧ Sets source index values out fields := by
  constructor
  · intro h
    exact ⟨ascending_assign ascending h, sets_of_assign unique h⟩
  · rintro ⟨ascending', sets⟩
    cases h : assign source index values out with
    | error e =>
      obtain ⟨front, name, value, back, rfl, -, fails⟩ := assign_eq_error_iff.mp h
      obtain ⟨resolved, resolves, -⟩ := sets.set name value (by simp)
      cases fails.symm.trans resolves
    | ok other =>
      rw [(sets_of_assign unique h).unique sets (ascending_assign ascending h) ascending']

section Item

variable {ctx : Context} {keepOnlySet : Bool}

theorem get?_kept (source : Json) (keepOnlySet : Bool) (name : String) :
    (kept source keepOnlySet).get? name = if keepOnlySet then none else source.get? name := by
  cases keepOnlySet with
  | true => cases source <;> rfl
  | false => cases source <;> rfl

theorem ascending_kept (ordered : ∀ fields : Table Json, source = .obj fields → fields.Ascending)
    (keepOnlySet : Bool) : (kept source keepOnlySet).Ascending := by
  cases keepOnlySet with
  | true => cases source <;> trivial
  | false =>
    cases source with
    | obj fields => exact ordered fields rfl
    | null | bool | num | str | arr => trivial

theorem run_eq (given : ctx.parameter "values" index = .ok (.obj values))
    (flag : ctx.flag "keepOnlySet" index = .ok keepOnlySet) :
    run ctx index = do
      let fields ←
        assign (ctx.payload index) index values (kept (ctx.payload index) keepOnlySet)
      return { items := [.obj fields] } := by
  rw [run, given, flag]
  rfl

theorem run_eq_ok_iff (given : ctx.parameter "values" index = .ok (.obj values))
    (flag : ctx.flag "keepOnlySet" index = .ok keepOnlySet) {output : Output} :
    run ctx index = .ok output ↔ ∃ fields : Table Json,
      assign (ctx.payload index) index values (kept (ctx.payload index) keepOnlySet) =
        .ok fields ∧ output = { items := [.obj fields] } := by
  rw [run_eq given flag, bind_eq_ok]
  simp only [pure, Except.pure, Except.ok.injEq, eq_comm]

theorem run_eq_error_iff (given : ctx.parameter "values" index = .ok (.obj values))
    (flag : ctx.flag "keepOnlySet" index = .ok keepOnlySet) :
    run ctx index = .error e ↔
      assign (ctx.payload index) index values (kept (ctx.payload index) keepOnlySet) =
        .error e := by
  rw [run_eq given flag]
  cases assign (ctx.payload index) index values (kept (ctx.payload index) keepOnlySet) <;>
    simp [bind, Except.bind, pure, Except.pure]

/-- The fields of an item are set all at once. Each is what its value is for the item as it came
in, so that the order in which they are set does not matter. If a value does not resolve,
nothing is put out, and of several such the first by its name is the reason. -/
theorem sets_at_once (given : ctx.parameter "values" index = .ok (.obj values))
    (flag : ctx.flag "keepOnlySet" index = .ok keepOnlySet) (ascending : values.Ascending)
    (ordered : ∀ fields : Table Json, ctx.payload index = .obj fields → fields.Ascending) :
    (∀ output, run ctx index = .ok output ↔
      ∃ fields : Table Json, (fields.Ascending ∧
        Sets (ctx.payload index) index values (kept (ctx.payload index) keepOnlySet) fields) ∧
        output = { items := [.obj fields] }) ∧
    (∀ name, (kept (ctx.payload index) keepOnlySet).get? name =
      if keepOnlySet then none else (ctx.payload index).get? name) ∧
    (∀ e, run ctx index = .error e ↔
      ∃ name, FailsFirst (ctx.payload index) index values e name) ∧
    ∀ order : Table Json, order.Perm values → ∀ fields,
      assign (ctx.payload index) index order (kept (ctx.payload index) keepOnlySet) = .ok fields ↔
        run ctx index = .ok { items := [.obj fields] } := by
  have unique : values.names.Nodup := ascending.nodup
  have ascending_out := ascending_kept ordered keepOnlySet
  refine ⟨fun output => ?_, get?_kept _ _, fun e => ?_, fun order perm fields => ?_⟩
  · rw [run_eq_ok_iff given flag]
    simp only [assign_eq_ok_iff unique ascending_out]
  · rw [run_eq_error_iff given flag, assign_eq_error_iff, failsFirst_iff ascending]
  · have unique_order : order.names.Nodup := (perm.map Prod.fst).nodup_iff.mpr unique
    have alone : run ctx index = .ok { items := [.obj fields] } ↔
        assign (ctx.payload index) index values (kept (ctx.payload index) keepOnlySet) =
          .ok fields := by
      simp [run_eq_ok_iff given flag]
    rw [alone, assign_eq_ok_iff unique_order ascending_out, assign_eq_ok_iff unique ascending_out]
    constructor
    · rintro ⟨ascending', sets⟩
      exact ⟨ascending', sets.perm perm.symm⟩
    · rintro ⟨ascending', sets⟩
      exact ⟨ascending', sets.perm perm⟩

end Item

/-- Two fields of an item are to change places. -/
def swap : Table Json := [("a", .str "={{ $json.b }}"), ("b", .str "={{ $json.a }}")]

def swapping : Context where
  executionId := ⟨0⟩
  nodeId := "s"
  description := description
  parameters := [("values", .literal (.obj swap))]
  inputs := [[.new (.obj [("a", .nat 1), ("b", .nat 2), ("c", .nat 3)])]]

def swapped : Table Json := [("a", .nat 2), ("b", .nat 1), ("c", .nat 3)]

theorem swapped_sets :
    Sets (swapping.payload 0) 0 swap (kept (swapping.payload 0) false) swapped := by
  constructor
  · intro name value hm
    simp only [swap, List.mem_cons, List.not_mem_nil, or_false] at hm
    rcases hm with hm | hm
    · cases hm
      exact ⟨.nat 2, rfl, rfl⟩
    · cases hm
      exact ⟨.nat 1, rfl, rfl⟩
  · intro name hm
    simp only [swap, Table.names, List.map_cons, List.map_nil, List.mem_cons, List.not_mem_nil,
      or_false, not_or] at hm
    simp [swapped, swapping, kept, Context.payload, Context.item?, Context.inputItems, Ports.on,
      Item.new, Table.get?, Ne.symm hm.1, Ne.symm hm.2]

theorem sets_at_once_swapping :
    run swapping 0 = .ok { items := [.obj swapped] } ∧
      assign (swapping.payload 0) 0 swap.reverse (kept (swapping.payload 0) false) =
        .ok swapped := by
  have given : swapping.parameter "values" 0 = .ok (.obj swap) := rfl
  have flag : swapping.flag "keepOnlySet" 0 = .ok false := rfl
  have ordered : ∀ fields : Table Json, swapping.payload 0 = .obj fields → fields.Ascending := by
    intro fields h
    cases h
    exact ⟨by decide, by decide, by decide, trivial⟩
  obtain ⟨answers, -, -, reordered⟩ :=
    sets_at_once given flag ⟨by decide, by decide, trivial⟩ ordered
  have ascending : swapped.Ascending := ⟨by decide, by decide, by decide, trivial⟩
  have answer := (answers _).mpr ⟨swapped, ⟨ascending, swapped_sets⟩, rfl⟩
  exact ⟨answer, (reordered _ (List.reverse_perm swap) swapped).mpr answer⟩

end Nodes.SetFields

end Conveyor
