import Conveyor.Context
import Conveyor.Proofs.Dealings
import Conveyor.Proofs.Values

namespace Conveyor

namespace Table

variable {α : Type} {f : String → Option α}

/-- A table with what is found for some names, put in name by name. -/
def fill (f : String → Option α) (names : List String) (table : Table α) : Table α :=
  names.foldl (fun table name => (f name).elim table (insert name · table)) table

theorem mem_names_iff {name : String} {table : Table α} :
    name ∈ names table ↔ (get? name table).isSome := by
  rw [← not_iff_not, ← get?_eq_none_iff, Option.not_isSome_iff_eq_none]

end Table

/-- A description that declares the same parameters, none of them with a default. -/
def Description.withoutDefaults (description : Description) : Description :=
  { description with parameters := description.parameters.map ({ · with default := none }) }

theorem Description.parameter?_withoutDefaults (name : String) (description : Description) :
    description.withoutDefaults.parameter? name =
      (description.parameter? name).map ({ · with default := none }) := by
  rw [parameter?, withoutDefaults, List.find?_map]
  rfl

namespace Context

/-- What a parameter may be, by its declaration: a value of its kind, or null if it is not required.
A parameter that is not declared may be anything. -/
def Allows (ctx : Context) (name : String) (value : Json) : Prop :=
  ∀ spec, ctx.description.parameter? name = some spec →
    spec.kind.accepts value = true ∨ value = .null ∧ spec.required = false

/-- Where the value of a parameter comes from: the node has one of its own, or else the declaration
has a default, or else the caller has. -/
inductive Supplied (ctx : Context) (name : String) (index : Nat) (fallback : Option Json) :
    Json → Prop
  | given {given : Parameter} {value : Json} (own : ctx.parameters.get? name = some given)
      (resolves : given.resolve (ctx.payload index) index = .ok value) :
      Supplied ctx name index fallback value
  | declared {spec : Spec} {value : Json} (bare : ctx.parameters.get? name = none)
      (declared : ctx.description.parameter? name = some spec)
      (default : spec.default = some value) : Supplied ctx name index fallback value
  | caller {value : Json} (bare : ctx.parameters.get? name = none)
      (undefaulted : ∀ spec, ctx.description.parameter? name = some spec → spec.default = none)
      (default : fallback = some value) : Supplied ctx name index fallback value

/-- There is no value for a parameter anywhere. -/
structure Lacks (ctx : Context) (name : String) (fallback : Option Json) : Prop where
  bare : ctx.parameters.get? name = none
  undefaulted : ∀ spec, ctx.description.parameter? name = some spec → spec.default = none
  caller : fallback = none

/-- What can become of a parameter. -/
inductive Settles (ctx : Context) (name : String) (index : Nat) (fallback : Option Json) :
    Except Failure (Option Json) → Prop
  | unresolved {given : Parameter} {e : Failure} (own : ctx.parameters.get? name = some given)
      (fails : given.resolve (ctx.payload index) index = .error e) :
      Settles ctx name index fallback (.error e)
  | allowed {value : Json} (supplied : ctx.Supplied name index fallback value)
      (allowed : ctx.Allows name value) : Settles ctx name index fallback (.ok (some value))
  | mismatched {spec : Spec} {value : Json} (supplied : ctx.Supplied name index fallback value)
      (declared : ctx.description.parameter? name = some spec) (unfit : ¬ctx.Allows name value) :
      Settles ctx name index fallback (.error (mismatch name spec.kind.name value))
  | missing (lacks : ctx.Lacks name fallback) : Settles ctx name index fallback (.ok none)

variable {ctx : Context} {name : String} {index : Nat} {fallback : Option Json} {value : Json}

theorem fits_iff {spec : Spec} :
    fits spec value = true ↔
      spec.kind.accepts value = true ∨ value = .null ∧ spec.required = false := by
  rw [fits, Bool.or_eq_true, Bool.and_eq_true, Bool.not_eq_true', or_comm]
  cases value <;> simp [Json.isNull]

theorem allows_iff_fits {spec : Spec} (declared : ctx.description.parameter? name = some spec) :
    ctx.Allows name value ↔ fits spec value = true := by
  rw [fits_iff]
  constructor
  · intro h
    exact h spec declared
  · intro h other hother
    cases declared.symm.trans hother
    exact h

/-- Only what is declared can be unfit. -/
theorem declared_of_unfit (unfit : ¬ctx.Allows name value) :
    ∃ spec, ctx.description.parameter? name = some spec := by
  by_contra undeclared
  apply unfit
  intro spec declared
  exact absurd ⟨spec, declared⟩ undeclared

/-- A value is checked against the declaration, wherever it comes from. -/
theorem resolve_of_supplied (supplied : ctx.Supplied name index fallback value) :
    ctx.resolve name index fallback =
      match ctx.description.parameter? name with
      | some spec =>
        if fits spec value then .ok (some value) else .error (mismatch name spec.kind.name value)
      | none => .ok (some value) := by
  cases supplied with
  | given own resolves =>
    simp only [resolve, own, resolves]
    cases ctx.description.parameter? name <;> rfl
  | declared bare declared default =>
    simp only [resolve, bare, declared, Option.bind_some, default]
    rfl
  | caller bare undefaulted default =>
    cases hs : ctx.description.parameter? name with
    | none =>
      simp only [resolve, bare, hs, default]
      rfl
    | some spec =>
      simp only [resolve, bare, hs, Option.bind_some, undefaulted spec hs, default]
      rfl

/-- One of these becomes of it. -/
theorem Settles.resolve_eq {outcome : Except Failure (Option Json)}
    (h : ctx.Settles name index fallback outcome) : ctx.resolve name index fallback = outcome := by
  cases h with
  | unresolved own fails =>
    simp only [resolve, own, fails]
    rfl
  | allowed supplied allowed =>
    rw [resolve_of_supplied supplied]
    split
    next spec declared => rw [if_pos ((allows_iff_fits declared).mp allowed)]
    · rfl
  | mismatched supplied declared unfit =>
    rw [resolve_of_supplied supplied, declared]
    simp only
    rw [if_neg fun h => unfit ((allows_iff_fits declared).mpr h)]
  | missing lacks =>
    cases hs : ctx.description.parameter? name with
    | none =>
      simp only [resolve, lacks.bare, hs, lacks.caller]
      rfl
    | some spec =>
      simp only [resolve, lacks.bare, hs, Option.bind_some, lacks.undefaulted spec hs, lacks.caller]
      rfl

theorem unresolved_or_supplied_or_lacks (ctx : Context) (name : String) (index : Nat)
    (fallback : Option Json) :
    (∃ given e, ctx.parameters.get? name = some given ∧
        given.resolve (ctx.payload index) index = .error e) ∨
      (∃ value, ctx.Supplied name index fallback value) ∨ ctx.Lacks name fallback := by
  cases hown : ctx.parameters.get? name with
  | some given =>
    cases hresolve : given.resolve (ctx.payload index) index with
    | error e => exact .inl ⟨given, e, rfl, hresolve⟩
    | ok value => exact .inr (.inl ⟨value, .given hown hresolve⟩)
  | none =>
    right
    cases hdefault : (ctx.description.parameter? name).bind Spec.default with
    | some value =>
      obtain ⟨spec, declared, default⟩ := Option.bind_eq_some_iff.mp hdefault
      exact .inl ⟨value, .declared hown declared default⟩
    | none =>
      have undefaulted := Option.bind_eq_none_iff.mp hdefault
      cases fallback with
      | some value => exact .inl ⟨value, .caller hown undefaulted rfl⟩
      | none => exact .inr ⟨hown, undefaulted, rfl⟩

theorem settles_resolve (ctx : Context) (name : String) (index : Nat) (fallback : Option Json) :
    ctx.Settles name index fallback (ctx.resolve name index fallback) := by
  have settled {outcome : Except Failure (Option Json)}
      (h : ctx.Settles name index fallback outcome) :
      ctx.Settles name index fallback (ctx.resolve name index fallback) := h.resolve_eq.symm ▸ h
  rcases unresolved_or_supplied_or_lacks ctx name index fallback with
    ⟨given, e, own, fails⟩ | ⟨value, supplied⟩ | lacks
  · exact settled (.unresolved own fails)
  · by_cases allowed : ctx.Allows name value
    · exact settled (.allowed supplied allowed)
    · obtain ⟨spec, declared⟩ := declared_of_unfit allowed
      exact settled (.mismatched supplied declared allowed)
  · exact settled (.missing lacks)

theorem parameterOr_eq_ok_iff :
    ctx.parameterOr name index fallback = .ok value ↔
      ctx.Supplied name index fallback value ∧ ctx.Allows name value := by
  constructor
  · intro h
    have settles := settles_resolve ctx name index fallback
    unfold parameterOr at h
    generalize ctx.resolve name index fallback = outcome at h settles
    cases settles with
    | allowed supplied allowed =>
      cases h
      exact ⟨supplied, allowed⟩
    | unresolved | mismatched | missing => cases h
  · rintro ⟨supplied, allowed⟩
    rw [parameterOr, (Settles.allowed supplied allowed).resolve_eq]
    rfl

theorem parameterOr_eq_error_iff {e : Failure} :
    ctx.parameterOr name index fallback = .error e ↔
      (∃ given, ctx.parameters.get? name = some given ∧
        given.resolve (ctx.payload index) index = .error e) ∨
      (∃ value spec, ctx.Supplied name index fallback value ∧
        ctx.description.parameter? name = some spec ∧ ¬ctx.Allows name value ∧
        e = mismatch name spec.kind.name value) ∨
      ctx.Lacks name fallback ∧ e = .missingParameter name := by
  constructor
  · intro h
    have settles := settles_resolve ctx name index fallback
    unfold parameterOr at h
    generalize ctx.resolve name index fallback = outcome at h settles
    cases settles with
    | unresolved own fails =>
      cases h
      exact .inl ⟨_, own, fails⟩
    | allowed => cases h
    | mismatched supplied declared unfit =>
      cases h
      exact .inr (.inl ⟨_, _, supplied, declared, unfit, rfl⟩)
    | missing lacks =>
      cases h
      exact .inr (.inr ⟨lacks, rfl⟩)
  · rintro (⟨given, own, fails⟩ | ⟨value, spec, supplied, declared, unfit, rfl⟩ | ⟨lacks, rfl⟩)
    · rw [parameterOr, (Settles.unresolved own fails).resolve_eq]
      rfl
    · rw [parameterOr, (Settles.mismatched supplied declared unfit).resolve_eq]
      rfl
    · rw [parameterOr, (Settles.missing lacks).resolve_eq]
      rfl

theorem lacks_iff : ctx.Lacks name fallback ↔ ctx.resolve name index fallback = .ok none := by
  constructor
  · intro lacks
    exact (Settles.missing lacks).resolve_eq
  · intro h
    have settles := settles_resolve ctx name index fallback
    rw [h] at settles
    cases settles with
    | missing lacks => exact lacks

/-- A node's own value is all that counts: it is the same without any default. -/
theorem resolve_withoutDefaults {given : Parameter} (own : ctx.parameters.get? name = some given) :
    { ctx with description := ctx.description.withoutDefaults }.resolve name index none =
      ctx.resolve name index fallback := by
  have same : { ctx with description := ctx.description.withoutDefaults }.payload index =
      ctx.payload index := rfl
  simp only [resolve, own, same, Description.parameter?_withoutDefaults]
  cases given.resolve (ctx.payload index) index with
  | error e => rfl
  | ok value => cases ctx.description.parameter? name <;> rfl

theorem isRequired_withoutDefaults :
    { ctx with description := ctx.description.withoutDefaults }.isRequired name =
      ctx.isRequired name := by
  simp only [isRequired, Description.parameter?_withoutDefaults]
  cases ctx.description.parameter? name <;> rfl

theorem optional_eq_ok_iff {answer : Option Json} :
    ctx.optional name index = .ok answer ↔
      (∃ value, answer = some value ∧ ctx.parameter name index = .ok value ∧
        (value = .null → ctx.isRequired name = true)) ∨
      answer = none ∧ ctx.isRequired name = false ∧
        (ctx.parameter name index = .ok .null ∨ ctx.Lacks name none) := by
  cases hr : ctx.isRequired name with
  | true =>
    rw [optional, if_pos hr]
    cases ctx.parameter name index with
    | error e => simp [Functor.map, Except.map]
    | ok value => simp [Functor.map, Except.map, eq_comm]
  | false =>
    rw [@lacks_iff ctx name index none, optional, if_neg (by simp [hr]), parameter, parameterOr]
    cases ctx.resolve name index none with
    | error e => simp [Functor.map, Except.map, bind, Except.bind]
    | ok found =>
      cases found with
      | none => simp [Functor.map, Except.map, bind, Except.bind, throw, throwThe,
          MonadExceptOf.throw, eq_comm]
      | some value =>
        cases value <;> simp [Functor.map, Except.map, bind, Except.bind, pure, Except.pure,
          Option.filter, Json.isNull, eq_comm]

theorem text_eq_ok_iff {text : String} :
    ctx.text name index = .ok text ↔ ctx.parameter name index = .ok (.str text) := by
  rw [Context.text, bind_eq_ok]
  constructor
  · rintro ⟨value, h, read⟩
    cases value <;> cases read
    exact h
  · intro h
    exact ⟨_, h, rfl⟩

theorem float_eq_ok_iff {x : Float} :
    ctx.float name index = .ok x ↔
      ∃ n : Number, ctx.parameter name index = .ok (.num n) ∧ n.toFloat = x := by
  rw [Context.float, bind_eq_ok]
  constructor
  · rintro ⟨value, h, read⟩
    cases value <;> cases read
    exact ⟨_, h, rfl⟩
  · rintro ⟨n, h, rfl⟩
    exact ⟨_, h, rfl⟩

theorem flag_eq_ok_iff {b : Bool} :
    ctx.flag name index = .ok b ↔ ctx.parameter name index = .ok (.bool b) := by
  rw [Context.flag, bind_eq_ok]
  constructor
  · rintro ⟨value, h, read⟩
    cases value <;> cases read
    exact h
  · intro h
    exact ⟨_, h, rfl⟩

/-- A parameter has the value that it is supplied with, and only if its declaration allows that.
What a node was given is never replaced by a default, whatever is wrong with it. -/
theorem parameters_as_declared (ctx : Context) (name : String) (index : Nat)
    (fallback : Option Json) :
    (∀ value, ctx.parameterOr name index fallback = .ok value ↔
      ctx.Supplied name index fallback value ∧ ctx.Allows name value) ∧
    (∀ e, ctx.parameterOr name index fallback = .error e ↔
      (∃ given, ctx.parameters.get? name = some given ∧
        given.resolve (ctx.payload index) index = .error e) ∨
      (∃ value spec, ctx.Supplied name index fallback value ∧
        ctx.description.parameter? name = some spec ∧ ¬ctx.Allows name value ∧
        e = mismatch name spec.kind.name value) ∨
      ctx.Lacks name fallback ∧ e = .missingParameter name) ∧
    (∀ given, ctx.parameters.get? name = some given →
      let bare := { ctx with description := ctx.description.withoutDefaults }
      ctx.parameterOr name index fallback = bare.parameter name index ∧
        ctx.optional name index = bare.optional name index) ∧
    (∀ answer, ctx.optional name index = .ok answer ↔
      (∃ value, answer = some value ∧ ctx.parameter name index = .ok value ∧
        (value = .null → ctx.isRequired name = true)) ∨
      answer = none ∧ ctx.isRequired name = false ∧
        (ctx.parameter name index = .ok .null ∨ ctx.Lacks name none)) ∧
    (∀ text, ctx.text name index = .ok text ↔ ctx.parameter name index = .ok (.str text)) ∧
    (∀ x, ctx.float name index = .ok x ↔
      ∃ n : Number, ctx.parameter name index = .ok (.num n) ∧ n.toFloat = x) ∧
    ∀ b, ctx.flag name index = .ok b ↔ ctx.parameter name index = .ok (.bool b) := by
  refine ⟨fun _ => parameterOr_eq_ok_iff, fun _ => parameterOr_eq_error_iff, ?_,
    fun _ => optional_eq_ok_iff, fun _ => text_eq_ok_iff, fun _ => float_eq_ok_iff,
    fun _ => flag_eq_ok_iff⟩
  intro given own
  constructor
  · unfold parameter parameterOr
    rw [resolve_withoutDefaults own]
  · unfold optional parameter parameterOr
    rw [resolve_withoutDefaults own, isRequired_withoutDefaults]

/-! What is reported of all of them. -/

end Context

end Conveyor
