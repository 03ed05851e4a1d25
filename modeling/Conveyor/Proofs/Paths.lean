import Conveyor.Expression
import Conveyor.Proofs.Selection

namespace Conveyor.Expression

/-- A path leads from a value to one within it: by its name in an object, by its number in an array.
Below any other value there is nothing. -/
inductive Leads : List String → Json → Json → Prop
  | here (value : Json) : Leads [] value value
  | field {name : String} {rest : List String} {fields : Table Json} {value found : Json}
      (named : fields.get? name = some value) (further : Leads rest value found) :
      Leads (name :: rest) (.obj fields) found
  | element {segment : String} {rest : List String} {items : List Json} {place : Nat}
      {value found : Json} (written : Text.Writes 64 segment place)
      (placed : items[place]? = some value) (further : Leads rest value found) :
      Leads (segment :: rest) (.arr items) found

section Walk

variable {segment : String} {path rest : List String} {value next found : Json}

theorem walk_cons (segment : String) (rest : List String) (value : Json) :
    walk (segment :: rest) value = (step segment value).bind (walk rest) := rfl

theorem walk_append (path rest : List String) (value : Json) :
    walk (path ++ rest) value = (walk path value).bind (walk rest) := by
  induction path generalizing value with
  | nil => rfl
  | cons segment path ih =>
    rw [List.cons_append, walk_cons, walk_cons, Option.bind_assoc]
    congr 1
    funext next
    exact ih next

/-- A step into an object goes by name, and one into an array by number. -/
theorem step_eq_some_iff :
    step segment value = some next ↔
      (∃ fields : Table Json, value = .obj fields ∧ fields.get? segment = some next) ∨
      ∃ (items : List Json) (place : Nat), value = .arr items ∧ Text.Writes 64 segment place ∧
        items[place]? = some next := by
  cases value with
  | obj fields => simp [step]
  | arr items => simp [step, Option.bind_eq_some_iff, Text.unsigned?_eq_some_iff]
  | null | bool | num | str => simp [step]

theorem walk_eq_some_iff : walk path value = some found ↔ Leads path value found := by
  induction path generalizing value with
  | nil =>
    constructor
    · intro h
      cases h
      exact .here _
    · intro h
      cases h
      rfl
  | cons segment rest ih =>
    simp only [walk_cons, Option.bind_eq_some_iff, step_eq_some_iff, ih]
    constructor
    · intro h
      obtain ⟨next, first, further⟩ := h
      obtain ⟨fields, rfl, named⟩ | ⟨items, place, rfl, written, placed⟩ := first
      · exact .field named further
      · exact .element written placed further
    · intro h
      cases h with
      | field named further => exact ⟨_, .inl ⟨_, rfl, named⟩, further⟩
      | element written placed further =>
        exact ⟨_, .inr ⟨_, _, rfl, written, placed⟩, further⟩

theorem walk_eq_none_iff : walk path value = none ↔ ∀ found, ¬Leads path value found := by
  simp only [Option.eq_none_iff_forall_ne_some, ne_eq, walk_eq_some_iff]

end Walk

section Segments

/-- Names and numbers as a path has them, with a dot between any two. -/
def dotted (parts : List String) : List Char := ['.'].intercalate (parts.map String.toList)

/-- The parts in front of a dot and those behind it. -/
theorem segments_append (front back : List Char) :
    segments (front ++ '.' :: back) = segments front ++ segments back := by
  unfold segments
  rw [List.splitOn_append_cons_self, List.filter_append, List.map_append]

theorem segments_of_not_mem {part : String} (h : '.' ∉ part.toList) :
    segments part.toList = [part].filter (· ≠ "") := by
  unfold segments
  rw [List.splitOn_eq_singleton h]
  by_cases hempty : part = ""
  · subst part
    rfl
  · have hlist : part.toList ≠ [] := fun he => hempty (String.toList_eq_nil_iff.mp he)
    simp [hempty, hlist]

/-- What stands between the dots is read again, but for what is empty. -/
theorem segments_dotted {parts : List String} (h : ∀ part ∈ parts, '.' ∉ part.toList) :
    segments (dotted parts) = parts.filter (· ≠ "") := by
  induction parts with
  | nil => rfl
  | cons part rest ih =>
    obtain ⟨hpart, hrest⟩ := List.forall_mem_cons.mp h
    cases rest with
    | nil =>
      rw [dotted, List.map_singleton, List.intercalate_singleton]
      exact segments_of_not_mem hpart
    | cons other more =>
      have hsplit : dotted (part :: other :: more) =
          part.toList ++ '.' :: dotted (other :: more) := by
        simp [dotted, List.intercalate_cons_cons]
      rw [hsplit, segments_append, ih hrest, segments_of_not_mem hpart, ← List.filter_append]
      rfl

end Segments

section Lookup

variable {path : List Char} {item found : Json} {index : Nat} {e : Error}

/-- The reference to what a path leads to. -/
def below (path : List Char) : List Char := "$json.".toList ++ path

theorem lookup_below (path : List Char) (item : Json) (index : Nat) :
    lookup (below path) item index =
      match walk (segments path) item with
      | some value => .ok value
      | none => .error (.notFound (String.ofList (below path)) index) := rfl

theorem lookup_below_eq_ok_iff :
    lookup (below path) item index = .ok found ↔ Leads (segments path) item found := by
  rw [lookup_below, ← walk_eq_some_iff]
  cases walk (segments path) item <;> simp

theorem lookup_below_eq_error_iff :
    lookup (below path) item index = .error e ↔
      e = .notFound (String.ofList (below path)) index ∧
        ∀ found, ¬Leads (segments path) item found := by
  rw [lookup_below, ← walk_eq_none_iff]
  cases walk (segments path) item <;> simp [eq_comm]

theorem toOption_lookup_below (path : List Char) (item : Json) (index : Nat) :
    (lookup (below path) item index).toOption = walk (segments path) item := by
  rw [lookup_below]
  cases walk (segments path) item <;> rfl

/-- Beside the index, the item and paths into it there is nothing to refer to. -/
theorem lookup_unsupported_iff {reference : List Char} :
    lookup reference item index = .error (.unsupported (String.ofList reference)) ↔
      reference ≠ "$index".toList ∧ reference ≠ "$json".toList ∧
        ∀ path, reference ≠ below path := by
  constructor
  · intro h
    refine ⟨?_, ?_, ?_⟩
    · rintro rfl
      cases h
    · rintro rfl
      cases h
    · rintro path rfl
      cases (lookup_below_eq_error_iff.mp h).1
  · rintro ⟨hindex, hitem, hpath⟩
    have hfront : ¬"$json.".toList.isPrefixOf reference = true := by
      intro hprefix
      obtain ⟨path, rfl⟩ := List.isPrefixOf_iff_prefix.mp hprefix
      exact hpath path rfl
    rw [lookup, if_neg hindex, if_neg hitem, if_neg hfront]

/-- A reference into an item finds what its path leads to, and nothing where it leads nowhere; the
empty parts of a path do not count. What is found behind one path and then another is what the two
find one after the other. Beside the item and its index there is nothing else to refer to. -/
theorem lookup_leads (item : Json) (index : Nat) :
    (∀ parts : List String, (∀ part ∈ parts, '.' ∉ part.toList) →
      (∀ found, lookup (below (dotted parts)) item index = .ok found ↔
        Leads (parts.filter (· ≠ "")) item found) ∧
      ∀ e, lookup (below (dotted parts)) item index = .error e ↔
        e = .notFound (String.ofList (below (dotted parts))) index ∧
          ∀ found, ¬Leads (parts.filter (· ≠ "")) item found) ∧
    (∀ (front back : List Char) (later : Nat),
      (lookup (below (front ++ '.' :: back)) item index).toOption =
        (lookup (below front) item index).toOption.bind fun between =>
          (lookup (below back) between later).toOption) ∧
    lookup "$index".toList item index = .ok (.nat index) ∧
    lookup "$json".toList item index = .ok item ∧
    ∀ reference, lookup reference item index = .error (.unsupported (String.ofList reference)) ↔
      reference ≠ "$index".toList ∧ reference ≠ "$json".toList ∧
        ∀ path, reference ≠ below path := by
  refine ⟨?_, ?_, rfl, rfl, fun _ => lookup_unsupported_iff⟩
  · intro parts h
    rw [← segments_dotted h]
    exact ⟨fun _ => lookup_below_eq_ok_iff, fun _ => lookup_below_eq_error_iff⟩
  · intro front back later
    simp only [toOption_lookup_below]
    rw [segments_append, walk_append]

/-- An array within an object, with a field that is a number. -/
def nested : Json := .obj [("a", .arr [.null, .obj [("1", .str "x")]])]

theorem lookup_leads_nested :
    lookup "$json.a..+01.1.".toList nested 0 = .ok (.str "x") ∧
      lookup "$json.a.2".toList nested 0 = .error (.notFound "$json.a.2" 0) := by
  obtain ⟨found, -⟩ := lookup_leads nested 0
  constructor
  · refine ((found ["a", "", "+01", "1", ""] (by simp)).1 _).mpr ?_
    have written : Text.Writes 64 "+01" 1 :=
      ⟨['0', '1'], .inr rfl, by simp, by simp, by decide, by decide⟩
    exact .field rfl (.element written rfl (.field rfl (.here _)))
  · refine ((found ["a", "2"] (by simp)).2 _).mpr ⟨rfl, ?_⟩
    rw [← walk_eq_none_iff]
    rfl

end Lookup

end Conveyor.Expression
