import Conveyor.Nodes.Scale
import Conveyor.Proofs.Finite
import Conveyor.Proofs.Parameters

namespace Conveyor

namespace Table

variable {α : Type} {table : Table α} {name : String}

/-- A name that is present keeps its place. -/
theorem names_insert_of_mem (ascending : Ascending table) (present : name ∈ names table)
    (value : α) : names (insert name value table) = names table := by
  induction table with
  | nil => cases present
  | cons entry rest ih =>
    obtain ⟨n, v⟩ := entry
    obtain ⟨below, hrest⟩ := ascending
    by_cases hn : n = name
    · rw [insert, if_pos hn, ← hn]
      rfl
    · have present : name ∈ names rest := (List.mem_cons.mp present).resolve_left (Ne.symm hn)
      have later : ¬name < n := String.lt_asymm (below name present)
      rw [insert, if_neg hn, if_neg later]
      exact congrArg (n :: ·) (ih hrest present)

theorem mem_names_insert_iff {other : String} {value : α} :
    other ∈ names (insert name value table) ↔ other = name ∨ other ∈ names table := by
  rw [mem_names_iff, mem_names_iff, get?_insert]
  by_cases hn : name = other
  · simp [hn]
  · simp [hn, Ne.symm hn]

end Table

namespace Json

variable {name : String} {item value : Json} {x : Float}

theorem get?_eq_some_iff :
    item.get? name = some value ↔
      ∃ fields : Table Json, item = .obj fields ∧ fields.get? name = some value := by
  cases item <;> simp [Json.get?]

theorem get?_eq_none_iff :
    item.get? name = none ↔ ∀ fields : Table Json, item = .obj fields → name ∉ fields.names := by
  cases item <;> simp [Json.get?, Table.get?_eq_none_iff]

theorem toFloat?_eq_some_iff :
    value.toFloat? = some x ↔ ∃ n : Number, value = .num n ∧ n.toFloat = x := by
  cases value <;> simp [Json.toFloat?]

theorem toFloat?_eq_none_iff : value.toFloat? = none ↔ ∀ n, value ≠ .num n := by
  cases value <;> simp [Json.toFloat?]

end Json

namespace Nodes.Scale

variable {factor : Float} {field : String} {fields : Table Json}

/-- One of the fields has a new value, and nothing else is changed. -/
structure Rewrites (field : String) (value : Json) (fields after : Table Json) : Prop where
  written : after.get? field = some value
  kept : ∀ other, other ≠ field → after.get? other = fields.get? other
  same : ∀ name, name ∈ after.names ↔ name ∈ fields.names
  order : fields.Ascending → after.names = fields.names

/-- What becomes of an item whose field is to be multiplied. -/
inductive Scales (factor : Float) (field : String) : Json → Except Failure Output → Prop
  | scaled {fields after : Table Json} {n : Number} (has : fields.get? field = some (.num n))
      (finite : (n.toFloat * factor).isFinite = true)
      (rewrites : Rewrites field (.num (.real (n.toFloat * factor))) fields after) :
      Scales factor field (.obj fields) (.ok { items := [.obj after] })
  /-- The product of two finite numbers is too large for a double. -/
  | lost {fields after : Table Json} {n : Number} (has : fields.get? field = some (.num n))
      (unrepresentable : (n.toFloat * factor).isFinite = false)
      (overflow : n.toFloat.isFinite = true → factor.isFinite = true →
        (n.toFloat * factor).isInf = true)
      (rewrites : Rewrites field .null fields after) :
      Scales factor field (.obj fields) (.ok { items := [.obj after] })
  | missing {item : Json}
      (lacks : ∀ fields : Table Json, item = .obj fields → field ∉ fields.names) :
      Scales factor field item (.error (.execution s!"item has no field '{field}'"))
  | unfit {fields : Table Json} {value : Json} (has : fields.get? field = some value)
      (odd : ∀ n, value ≠ .num n) :
      Scales factor field (.obj fields)
        (.error (.execution s!"field '{field}' is {value.typeName}, not a number"))

theorem rewrites_insert {old : Json} (has : fields.get? field = some old) (value : Json) :
    Rewrites field value fields (fields.insert field value) := by
  have present : field ∈ fields.names := Table.mem_names_iff.mpr (by rw [has]; rfl)
  constructor
  · simp [Table.get?_insert]
  · intro other hne
    simp [Table.get?_insert, Ne.symm hne]
  · intro name
    rw [Table.mem_names_insert_iff]
    constructor
    · rintro (rfl | hm)
      · exact present
      · exact hm
    · exact .inr
  · intro ascending
    exact Table.names_insert_of_mem ascending present value

theorem scales_number {n : Number} (has : fields.get? field = some (.num n)) :
    Scales factor field (.obj fields)
      (.ok { items := [.obj (fields.insert field (.real (n.toFloat * factor)))] }) := by
  have rewrites := rewrites_insert has (.real (n.toFloat * factor))
  cases hfinite : (n.toFloat * factor).isFinite with
  | true =>
    rw [Json.real, if_pos hfinite] at rewrites ⊢
    exact .scaled has hfinite rewrites
  | false =>
    rw [Json.real, if_neg (by simp [hfinite])] at rewrites ⊢
    refine .lost has hfinite (fun hn hfactor => ?_) rewrites
    cases hinf : (n.toFloat * factor).isInf with
    | true => rfl
    | false =>
      have finite := Doubles.isFinite_mul hn hfactor hinf
      simp [hfinite] at finite

theorem scales (factor : Float) (field : String) (item : Json) :
    ∃ outcome, scale factor field item = .done outcome ∧ Scales factor field item outcome := by
  cases hget : item.get? field with
  | none =>
    refine ⟨_, ?_, .missing (Json.get?_eq_none_iff.mp hget)⟩
    rw [scale, number, hget]
    rfl
  | some value =>
    obtain ⟨fields, rfl, has⟩ := Json.get?_eq_some_iff.mp hget
    cases hfloat : value.toFloat? with
    | none =>
      refine ⟨_, ?_, .unfit has (Json.toFloat?_eq_none_iff.mp hfloat)⟩
      rw [scale, number, hget]
      simp only [hfloat]
      rfl
    | some x =>
      obtain ⟨n, rfl, rfl⟩ := Json.toFloat?_eq_some_iff.mp hfloat
      refine ⟨_, ?_, scales_number has⟩
      rw [scale, number, hget]
      rfl

/-- An item is multiplied in one of its fields, and in no other. It fails if it has no such field
or the field is not a number. It never panics, for what has a field to read has a place to write
it. But a product that is too large is not reported: the field is null from then on. -/
theorem touches_only_its_field (ctx : Context) (index attempt : Nat) :
    ∃ outcome, node.run ctx index attempt = .done outcome ∧
      (∀ e, ctx.float "factor" index = .error e → outcome = .error e) ∧
      ∀ factor, ctx.float "factor" index = .ok factor →
        (∀ e, ctx.text "field" index = .error e → outcome = .error e) ∧
        ∀ field, ctx.text "field" index = .ok field →
          Scales factor field (payload ctx index) outcome := by
  change ∃ outcome, run ctx index = .done outcome ∧ _
  unfold run
  cases ctx.float "factor" index with
  | error e =>
    refine ⟨.error e, rfl, ?_, nofun⟩
    intro other he
    cases he
    rfl
  | ok factor =>
    cases ctx.text "field" index with
    | error e =>
      refine ⟨.error e, rfl, nofun, fun _ _ => ⟨?_, nofun⟩⟩
      intro other he
      cases he
      rfl
    | ok field =>
      obtain ⟨outcome, hrun, hscales⟩ := scales factor field (payload ctx index)
      refine ⟨outcome, hrun, nofun, ?_⟩
      intro factor' hfactor
      cases hfactor
      refine ⟨nofun, ?_⟩
      intro field' hfield
      cases hfield
      exact hscales

/-- One item with one numeric field, by a given factor. -/
def scaling (x factor : Number) : Context where
  executionId := ⟨0⟩
  nodeId := "s"
  description := description
  parameters := [("factor", .literal (.num factor))]
  inputs := [[.new (.obj [("unit", .str "m"), ("value", .num x)])]]

theorem run_scaling (x factor : Number) :
    node.run (scaling x factor) 0 1 =
      let product := Json.real (x.toFloat * factor.toFloat)
      .done (.ok { items := [.obj [("unit", .str "m"), ("value", product)]] }) := rfl

theorem touches_only_its_field_doubling :
    let item : Json := .obj [("unit", .str "m"), ("value", .num (.int 21))]
    let output : Output := { items := [.obj [("unit", .str "m"), ("value", .num (.real 42))]] }
    node.run (scaling (.int 21) (.int 2)) 0 1 = .done (.ok output) ∧
      Scales 2 "value" item (.ok output) := by
  intro item output
  have made : node.run (scaling (.int 21) (.int 2)) 0 1 = .done (.ok output) := by
    rw [run_scaling]
    have product : (Number.int 21).toFloat * (Number.int 2).toFloat = 42 := by decide +kernel
    rw [product]
    rfl
  have factor : (scaling (.int 21) (.int 2)).float "factor" 0 = .ok 2 := by rfl
  obtain ⟨outcome, hrun, -, h⟩ := touches_only_its_field (scaling (.int 21) (.int 2)) 0 1
  cases hrun.symm.trans made
  exact ⟨made, (h 2 factor).2 "value" rfl⟩

/-- Ten times the largest power of ten that a double can hold is not reported. -/
theorem product_lost :
    node.run (scaling (.real (Numeral.powerOfTen 308)) (.int 10)) 0 1 =
      .done (.ok { items := [.obj [("unit", .str "m"), ("value", .null)]] }) := by
  have infinite : ((Number.real (Numeral.powerOfTen 308)).toFloat *
      (Number.int 10).toFloat).isFinite = false := by decide +kernel
  rw [run_scaling, Json.real, if_neg (Bool.eq_false_iff.mp infinite)]

end Nodes.Scale

end Conveyor
