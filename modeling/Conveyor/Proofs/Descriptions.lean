import Conveyor.Description.Document
import Conveyor.Proofs.Documents
import Conveyor.Proofs.Parameters

namespace Conveyor

/-- A declaration that has lost its default if that was null. -/
def Spec.withoutNull (spec : Spec) : Spec :=
  { spec with default := spec.default.filter (!·.isNull) }

def Description.withoutNulls (description : Description) : Description :=
  { description with parameters := description.parameters.map Spec.withoutNull }

section Building

/-- A declaration that was made with the builders, with any value as its default. -/
inductive Spec.Built : Spec → Prop
  | new (name : String) (kind : Kind) : Built (.new name kind)
  | asRequired {spec : Spec} (built : Built spec) : Built spec.asRequired
  | withDefault {spec : Spec} (built : Built spec) {fits : Number → Prop} {default : Json}
      (regular : default.Regular fits) : Built (spec.withDefault default)
  | withDisplayName {spec : Spec} (built : Built spec) (displayName : String) :
      Built (spec.withDisplayName displayName)
  | withDescription {spec : Spec} (built : Built spec) (description : String) :
      Built (spec.withDescription description)

inductive Description.Built : Description → Prop
  | new (name displayName : String) : Built (.new name displayName)
  | withDescription {description : Description} (built : Built description) (text : String) :
      Built (description.withDescription text)
  | withCategory {description : Description} (built : Built description) (category : String) :
      Built (description.withCategory category)
  | withOutputs {description : Description} (built : Built description) {outputs : Nat}
      (fit : outputs < 2 ^ 64) : Built (description.withOutputs outputs)
  | withParameter {description : Description} (built : Built description) {parameter : Spec}
      (declared : parameter.Built) : Built (description.withParameter parameter)

/-- A declaration that a document holds, but for a default that is null. -/
structure Spec.Regular (spec : Spec) : Prop where
  default : ∀ value, spec.default = some value → ∃ fits, value.Regular fits

structure Description.Regular (description : Description) : Prop where
  inputs : description.inputs < 2 ^ 64
  outputs : description.outputs < 2 ^ 64
  parameters : ∀ spec ∈ description.parameters, spec.Regular

theorem Spec.Built.regular {spec : Spec} (h : spec.Built) : spec.Regular := by
  induction h with
  | new name kind => exact ⟨by simp [Spec.new]⟩
  | withDefault built regular ih =>
    constructor
    intro value hvalue
    cases hvalue
    exact ⟨_, regular⟩
  | asRequired built ih => exact ⟨ih.default⟩
  | withDisplayName built displayName ih => exact ⟨ih.default⟩
  | withDescription built description ih => exact ⟨ih.default⟩

theorem Description.Built.regular {description : Description} (h : description.Built) :
    description.Regular := by
  induction h with
  | new name displayName =>
    constructor <;> simp [Description.new]
  | withDescription built text ih => exact ⟨ih.inputs, ih.outputs, ih.parameters⟩
  | withCategory built category ih => exact ⟨ih.inputs, ih.outputs, ih.parameters⟩
  | withOutputs built fit ih => exact ⟨ih.inputs, fit, ih.parameters⟩
  | withParameter built declared ih =>
    refine ⟨ih.inputs, ih.outputs, ?_⟩
    intro spec hm
    rcases List.mem_append.mp hm with hm | hm
    · exact ih.parameters spec hm
    · cases List.mem_singleton.mp hm
      exact declared.regular

end Building

section Reading

variable {levels : Tree.Levels}

@[simp] theorem Kind.ofTree?_name (kind : Kind) :
    Kind.ofTree? (.ofJson (.str kind.name)) = some kind := by
  cases kind <;> rfl

namespace Tree

@[simp] theorem bool?_bool (b : Bool) : bool? (ofJson (.bool b)) = some b := rfl

theorem unsigned?_nat {n : Nat} (width : Nat) (h : n < 2 ^ width) :
    unsigned? width (ofJson (.nat n)) = some n :=
  unsigned?_int width h

/-- A field may be read where the record around it may. -/
theorem Levels.Admit.field {entries : List (String × Json)} (name : String) (value : Json)
    (admits : levels.Admit (Json.ofFields entries).depth) (unique : (entries.map Prod.fst).Nodup)
    (hm : (name, value) ∈ entries) :
    ∃ inner, Tree.enter levels = some inner ∧ inner.Admit value.depth := by
  obtain ⟨inner, hinner, admits⟩ := Levels.Admit.enter admits
  have hget := Table.get?_ofList_of_mem unique hm
  exact ⟨inner, hinner, admits.mono (depth_le_fieldsDepth (Table.mem_of_get? hget))⟩

/-- A null where a value may be missing is read as none. -/
theorem optional_ofJson {value : Json} (h : (ofJson value).toJson? levels = some value) :
    optional (toJson? levels) (some (ofJson value)) = some ((some value).filter (!·.isNull)) := by
  cases value with
  | null => rfl
  | bool | num | str => rfl
  | arr | obj =>
    rw [optional_some (by rfl), h]
    rfl

end Tree

/-- A declaration is read back as it was, but for a default that is null. -/
theorem Spec.Regular.ofTree?_toJson {spec : Spec} (h : spec.Regular)
    (admits : levels.Admit spec.toJson.depth) :
    Spec.ofTree? levels (.ofJson spec.toJson) = some spec.withoutNull := by
  obtain ⟨name, displayName, kind, default, required, description⟩ := spec
  cases default with
  | none =>
    obtain ⟨inner, hinner, -⟩ := Tree.Levels.Admit.enter admits
    rw [Spec.ofTree?, Spec.toJson, Tree.slots?_ofFields (by simp), hinner]
    simp [Table.get?, Spec.withoutNull]
  | some value =>
    obtain ⟨fits, regular⟩ := h.default value rfl
    obtain ⟨inner, hinner, admits⟩ := admits.field "default" value (by simp) (by simp)
    have hdefault := Tree.optional_ofJson (Tree.toJson?_ofJson regular admits)
    rw [Spec.ofTree?, Spec.toJson, Tree.slots?_ofFields (by simp), hinner]
    simp [Table.get?, Spec.withoutNull, hdefault]

theorem Description.Regular.ofTree?_toJson {description : Description} (h : description.Regular)
    (admits : levels.Admit description.toJson.depth) :
    Description.ofTree? levels (.ofJson description.toJson) = some description.withoutNulls := by
  obtain ⟨displayName, name, text, category, inputs, outputs, parameters⟩ := description
  obtain ⟨inner, hinner, admits⟩ :=
    admits.field "parameters" (.arr (parameters.map Spec.toJson)) (by simp) (by simp)
  obtain ⟨innermost, hinnermost, admits⟩ := Tree.Levels.Admit.enter admits
  have hparameters : Tree.list? inner Spec.ofTree? (.ofJson (.arr (parameters.map Spec.toJson))) =
      some (parameters.map Spec.withoutNull) := by
    refine Tree.list?_map hinnermost ?_
    intro spec hm
    have hwritten : spec.toJson ∈ parameters.map Spec.toJson := List.mem_map_of_mem hm
    exact (h.parameters spec hm).ofTree?_toJson (admits.mono (Tree.depth_le_itemsDepth hwritten))
  rw [Description.ofTree?, Description.toJson, Tree.slots?_ofFields (by simp), hinner]
  simp [Table.get?, Description.withoutNulls, hparameters, Tree.unsigned?_nat 64 h.inputs,
    Tree.unsigned?_nat 64 h.outputs]

end Reading

section Nulls

variable {description : Description}

theorem Spec.withoutNull_eq_iff {spec : Spec} :
    spec.withoutNull = spec ↔ spec.default ≠ some .null := by
  obtain ⟨name, displayName, kind, default, required, description⟩ := spec
  cases default with
  | none => simp [withoutNull]
  | some value => cases value <;> simp [withoutNull, Json.isNull]

theorem Description.withoutNulls_eq_iff :
    description.withoutNulls = description ↔
      ∀ spec ∈ description.parameters, spec.default ≠ some .null := by
  have each : description.parameters.map Spec.withoutNull = description.parameters ↔
      ∀ spec ∈ description.parameters, spec.withoutNull = spec := by
    simpa using @List.map_inj_left _ _ description.parameters Spec.withoutNull id
  constructor
  · intro h spec hm
    exact Spec.withoutNull_eq_iff.mp (each.mp (congrArg Description.parameters h) spec hm)
  · intro h
    rw [withoutNulls, each.mpr]
    intro spec hm
    exact Spec.withoutNull_eq_iff.mpr (h spec hm)

theorem Description.parameter?_withoutNulls (name : String) :
    description.withoutNulls.parameter? name = (description.parameter? name).map Spec.withoutNull := by
  rw [parameter?, withoutNulls, List.find?_map]
  rfl

end Nulls

namespace Context

variable {ctx : Context} {name : String} {index : Nat} {fallback : Option Json}

/-- The same invocation, of a node whose description was written and read back. -/
def reread (ctx : Context) : Context := { ctx with description := ctx.description.withoutNulls }

/-- The node has no value of its own for a parameter, and the declared default is null. -/
structure Nulled (ctx : Context) (name : String) : Prop where
  bare : ctx.parameters.get? name = none
  declared : ∃ spec, ctx.description.parameter? name = some spec ∧ spec.default = some .null

theorem parameter?_reread :
    ctx.reread.description.parameter? name = (ctx.description.parameter? name).map Spec.withoutNull :=
  Description.parameter?_withoutNulls name

theorem isRequired_reread : ctx.reread.isRequired name = ctx.isRequired name := by
  rw [isRequired, parameter?_reread, Option.any_map]
  rfl

theorem resolve_reread (h : ¬ctx.Nulled name) :
    ctx.reread.resolve name index fallback = ctx.resolve name index fallback := by
  have bare : ctx.reread.parameters.get? name = ctx.parameters.get? name := rfl
  have payload : ctx.reread.payload index = ctx.payload index := rfl
  cases own : ctx.parameters.get? name with
  | some given =>
    simp only [resolve, parameter?_reread, bare, payload, own]
    cases given.resolve (ctx.payload index) index with
    | error e => rfl
    | ok value => cases ctx.description.parameter? name <;> rfl
  | none =>
    simp only [resolve, parameter?_reread, bare, own]
    cases declared : ctx.description.parameter? name with
    | none => rfl
    | some spec =>
      have kept : spec.withoutNull = spec := by
        rw [Spec.withoutNull_eq_iff]
        intro default
        exact h ⟨own, spec, declared, default⟩
      rw [Option.map_some, kept]

theorem Nulled.lacks (h : ctx.Nulled name) : ctx.reread.Lacks name none := by
  obtain ⟨bare, spec, declared, default⟩ := h
  refine ⟨bare, ?_, rfl⟩
  intro again hagain
  rw [parameter?_reread, declared] at hagain
  cases hagain
  simp [Spec.withoutNull, default, Json.isNull]

theorem Nulled.not_lacks (h : ctx.Nulled name) : ¬ctx.Lacks name fallback := by
  obtain ⟨bare, spec, declared, default⟩ := h
  intro lacks
  simp [lacks.undefaulted spec declared] at default

theorem parameterOr_reread (h : ¬ctx.Nulled name) :
    ctx.reread.parameterOr name index fallback = ctx.parameterOr name index fallback := by
  rw [parameterOr, resolve_reread h, parameterOr]

theorem Nulled.parameter_reread (h : ctx.Nulled name) :
    ctx.reread.parameter name index = .error (.missingParameter name) :=
  parameterOr_eq_error_iff.mpr (.inr (.inr ⟨h.lacks, rfl⟩))

theorem Nulled.parameter_ne (h : ctx.Nulled name) :
    ctx.parameter name index ≠ .error (.missingParameter name) := by
  intro missing
  rcases parameterOr_eq_error_iff.mp missing with
    ⟨given, own, -⟩ | ⟨value, spec, -, -, -, mismatched⟩ | ⟨lacks, -⟩
  · simp [h.bare] at own
  · simp [mismatch] at mismatched
  · exact h.not_lacks lacks

theorem resolve_reread_iff :
    (∀ fallback, ctx.reread.resolve name index fallback = ctx.resolve name index fallback) ↔
      ¬ctx.Nulled name := by
  constructor
  · intro same nulled
    have missing := (@lacks_iff ctx.reread name index none).mp nulled.lacks
    exact nulled.not_lacks (lacks_iff.mpr ((same none).symm.trans missing))
  · intro kept fallback
    exact resolve_reread kept

theorem parameter_reread_iff :
    ctx.reread.parameter name index = ctx.parameter name index ↔ ¬ctx.Nulled name := by
  constructor
  · intro same nulled
    exact nulled.parameter_ne (same.symm.trans nulled.parameter_reread)
  · exact parameterOr_reread

/-- Null is allowed for what is not required. -/
theorem Nulled.resolve_eq (h : ctx.Nulled name) (free : ctx.isRequired name = false) :
    ctx.resolve name index none = .ok (some .null) := by
  obtain ⟨bare, spec, declared, default⟩ := h
  have unneeded : spec.required = false := by simpa [isRequired, declared] using free
  refine (Settles.allowed (.declared bare declared default) ?_).resolve_eq
  rw [allows_iff_fits declared, fits_iff]
  exact .inr ⟨rfl, unneeded⟩

/-- Where null and none are not told apart, nothing is lost. -/
theorem optional_reread (h : ctx.isRequired name = false ∨ ¬ctx.Nulled name) :
    ctx.reread.optional name index = ctx.optional name index := by
  by_cases nulled : ctx.Nulled name
  · have free := h.resolve_right (not_not_intro nulled)
    have missing := (@lacks_iff ctx.reread name index none).mp nulled.lacks
    rw [optional, optional, isRequired_reread, free, missing, nulled.resolve_eq free]
    rfl
  · rw [optional, optional, isRequired_reread, parameter, parameterOr_reread nulled,
      resolve_reread nulled]
    rfl

end Context

/-- A description that was made with the builders is read back as it was, but for the defaults that
are null: they are written, and read as none. So a parameter comes to the same with the description
that was read back, unless its declared default is null and the node has no value of its own; then it
is missing. -/
theorem Description.read_back_without_nulls {description : Description} (built : description.Built) :
    (∀ levels : Tree.Levels, levels.Admit description.toJson.depth →
      Description.ofTree? levels (.ofJson description.toJson) = some description.withoutNulls) ∧
    (description.withoutNulls = description ↔
      ∀ spec ∈ description.parameters, spec.default ≠ some .null) ∧
    ∀ ctx : Context, ctx.description = description → ∀ name index,
      ((∀ fallback, ctx.reread.resolve name index fallback = ctx.resolve name index fallback) ↔
        ¬ctx.Nulled name) ∧
      (ctx.reread.parameter name index = ctx.parameter name index ↔ ¬ctx.Nulled name) ∧
      (ctx.Nulled name → ctx.reread.parameter name index = .error (.missingParameter name)) ∧
      (ctx.isRequired name = false ∨ ¬ctx.Nulled name →
        ctx.reread.optional name index = ctx.optional name index) := by
  refine ⟨?_, withoutNulls_eq_iff, ?_⟩
  · intro levels admits
    exact built.regular.ofTree?_toJson admits
  · intro ctx _ name index
    exact ⟨Context.resolve_reread_iff, Context.parameter_reread_iff, Context.Nulled.parameter_reread,
      Context.optional_reread⟩

/-- A parameter that is null unless it is given. -/
def Description.nullable : Description :=
  (Description.new "t" "T").withParameter ((Spec.new "p" .any).withDefault .null)

theorem Description.nullable_built : nullable.Built := by
  have regular : Json.Regular (fun _ => True) .null := .null
  exact .withParameter (.new "t" "T") (.withDefault (.new "p" .any) regular)

theorem Description.read_back_without_nulls_nullable :
    nullable.Built ∧
      Description.ofTree? none (.ofJson nullable.toJson) = some nullable.withoutNulls :=
  ⟨nullable_built, (read_back_without_nulls nullable_built).1 none trivial⟩

/-- Its null is found until the description is written and read back. -/
theorem Description.null_default_lost :
    nullable.Built ∧
      ∃ again, Description.ofTree? none (.ofJson nullable.toJson) = some again ∧ again ≠ nullable ∧
        Context.parameter ⟨⟨0⟩, "n", nullable, .empty, [], .none⟩ "p" 0 = .ok .null ∧
        Context.parameter ⟨⟨0⟩, "n", again, .empty, [], .none⟩ "p" 0 =
          .error (.missingParameter "p") := by
  refine ⟨nullable_built, nullable.withoutNulls, ?_, ?_, rfl, rfl⟩
  · exact nullable_built.regular.ofTree?_toJson trivial
  · intro same
    exact withoutNulls_eq_iff.mp same _ (List.mem_singleton.mpr rfl) rfl

end Conveyor
