import Conveyor.Json.Record
import Conveyor.Proofs.Table
import Mathlib.Algebra.Group.Nat.Defs
import Mathlib.Data.List.Nodup

namespace Conveyor

namespace Table

variable {α β : Type} {table : Table α} {name : String}

theorem Ascending.nodup (h : Ascending table) : (names table).Nodup := by
  induction table with
  | nil => exact List.nodup_nil
  | cons entry rest ih =>
    obtain ⟨below, hrest⟩ := h
    refine List.nodup_cons.mpr ⟨fun hm => ?_, ih hrest⟩
    exact String.lt_irrefl _ (below _ hm)

/-- What is in a table was put in last, or was there before. -/
theorem mem_insert {value : α} {entry : String × α} (h : entry ∈ insert name value table) :
    entry = (name, value) ∨ entry ∈ table := by
  induction table with
  | nil => exact .inl (List.mem_singleton.mp h)
  | cons first rest ih =>
    obtain ⟨n, v⟩ := first
    unfold insert at h
    split at h
    · exact (List.mem_cons.mp h).imp_right (List.mem_cons_of_mem _)
    · split at h
      · exact List.mem_cons.mp h
      · rcases List.mem_cons.mp h with rfl | hm
        · exact .inr List.mem_cons_self
        · exact (ih hm).imp_right (List.mem_cons_of_mem _)

theorem mem_names_insert {value : α} {other : String} (h : other ∈ names (insert name value table)) :
    other = name ∨ other ∈ names table := by
  obtain ⟨entry, hm, rfl⟩ := List.mem_map.mp h
  rcases mem_insert hm with rfl | hm
  · exact .inl rfl
  · exact .inr (List.mem_map_of_mem hm)

theorem ascending_insert {value : α} (h : Ascending table) : Ascending (insert name value table) := by
  induction table with
  | nil => exact ⟨nofun, trivial⟩
  | cons entry rest ih =>
    obtain ⟨n, v⟩ := entry
    obtain ⟨below, hrest⟩ := h
    unfold insert
    split
    next hn =>
      subst n
      exact ⟨below, hrest⟩
    next hn =>
      split
      next hlt =>
        refine ⟨fun m hm => ?_, below, hrest⟩
        rcases List.mem_cons.mp hm with rfl | hm
        · exact hlt
        · exact String.lt_trans hlt (below m hm)
      next hlt =>
        refine ⟨fun m hm => ?_, ih hrest⟩
        rcases mem_names_insert hm with rfl | hm
        · refine Decidable.byContradiction fun hge => hn ?_
          exact String.le_antisymm (String.not_lt.mp hlt) (String.not_lt.mp hge)
        · exact below m hm

theorem ascending_foldl_insert (entries : List (String × α)) (h : Ascending table) :
    Ascending (entries.foldl (fun table (name, value) => table.insert name value) table) := by
  induction entries generalizing table with
  | nil => exact h
  | cons entry rest ih => exact ih (ascending_insert h)

theorem ascending_ofList (entries : List (String × α)) : Ascending (ofList entries) :=
  ascending_foldl_insert entries trivial

theorem mem_foldl_insert {entries : List (String × α)} {entry : String × α}
    (h : entry ∈ entries.foldl (fun table (name, value) => table.insert name value) table) :
    entry ∈ table ∨ entry ∈ entries := by
  induction entries generalizing table with
  | nil => exact .inl h
  | cons first rest ih =>
    rcases ih h with hm | hm
    · rcases mem_insert hm with rfl | hm
      · exact .inr List.mem_cons_self
      · exact .inl hm
    · exact .inr (List.mem_cons_of_mem _ hm)

theorem mem_ofList {entries : List (String × α)} {entry : String × α} (h : entry ∈ ofList entries) :
    entry ∈ entries :=
  (mem_foldl_insert h).resolve_left (List.not_mem_nil)

/-- A name above all others comes last. -/
theorem insert_of_above {value : α} (h : ∀ n ∈ names table, n < name) :
    insert name value table = table ++ [(name, value)] := by
  induction table with
  | nil => rfl
  | cons entry rest ih =>
    obtain ⟨n, v⟩ := entry
    have hlt : n < name := h n List.mem_cons_self
    have hne : n ≠ name := fun he => String.lt_irrefl name (he ▸ hlt)
    rw [insert, if_neg hne, if_neg (String.lt_asymm hlt), ih fun m hm => h m (List.mem_cons_of_mem n hm)]
    rfl

theorem foldl_insert_of_ascending {entries : List (String × α)}
    (h : Ascending entries) (above : ∀ n ∈ names table, ∀ m ∈ names entries, n < m) :
    entries.foldl (fun table (name, value) => table.insert name value) table = table ++ entries := by
  induction entries generalizing table with
  | nil => simp
  | cons entry rest ih =>
    obtain ⟨name, value⟩ := entry
    obtain ⟨below, hrest⟩ := h
    rw [List.foldl_cons]
    show List.foldl _ (insert name value table) rest = _
    rw [insert_of_above fun n hn => above n hn name List.mem_cons_self, ih hrest,
      List.append_assoc, List.singleton_append]
    intro n hn m hm
    simp only [names, List.map_append, List.mem_append, List.map_cons, List.map_nil,
      List.mem_singleton] at hn
    rcases hn with hn | rfl
    · exact above n hn m (List.mem_cons_of_mem name hm)
    · exact below m hm

/-- A table lists its own entries. -/
theorem ofList_of_ascending (h : Ascending table) : ofList table = table :=
  foldl_insert_of_ascending h nofun

theorem names_mapValues (f : α → β) : names (mapValues f table) = names table := by
  simp [names, mapValues, Function.comp_def]

theorem Ascending.mapValues (f : α → β) (h : Ascending table) : Ascending (mapValues f table) := by
  induction table with
  | nil => trivial
  | cons entry rest ih =>
    obtain ⟨below, hrest⟩ := h
    refine ⟨?_, ih hrest⟩
    show ∀ m ∈ names (Table.mapValues f rest), _
    rw [names_mapValues]
    exact below

end Table

section Each

variable {α β : Type} {f : α → Option β} {xs : List α}

theorem mapM_eq_some {g : α → β} (h : ∀ x ∈ xs, f x = some (g x)) : xs.mapM f = some (xs.map g) := by
  induction xs with
  | nil => rfl
  | cons x rest ih =>
    rw [List.mapM_cons, h x List.mem_cons_self, ih fun y hy => h y (List.mem_cons_of_mem x hy)]
    rfl

theorem exists_of_mapM {ys : List β} {y : β} (h : xs.mapM f = some ys) (hm : y ∈ ys) :
    ∃ x ∈ xs, f x = some y := by
  induction xs generalizing ys with
  | nil =>
    cases h
    cases hm
  | cons x rest ih =>
    rw [List.mapM_cons] at h
    obtain ⟨first, hfirst, h⟩ := Option.bind_eq_some_iff.mp h
    obtain ⟨others, hothers, h⟩ := Option.bind_eq_some_iff.mp h
    cases h
    rcases List.mem_cons.mp hm with rfl | hm
    · exact ⟨x, List.mem_cons_self, hfirst⟩
    · obtain ⟨z, hz, hy⟩ := ih hothers hm
      exact ⟨z, List.mem_cons_of_mem x hz, hy⟩

end Each

namespace Json

/-- Objects list their fields in order, each name once, and numbers fit, on every level. -/
inductive Regular (fits : Number → Prop) : Json → Prop
  | null : Regular fits .null
  | bool (b : Bool) : Regular fits (.bool b)
  | num {n : Number} (fit : fits n) : Regular fits (.num n)
  | str (s : String) : Regular fits (.str s)
  | arr {items : List Json} (each : ∀ item ∈ items, Regular fits item) : Regular fits (.arr items)
  | obj {fields : List (String × Json)} (ascending : Table.Ascending fields)
      (each : ∀ field ∈ fields, Regular fits field.2) : Regular fits (.obj fields)

mutual

/-- How many arrays and objects stand inside each other. -/
def depth : Json → Nat
  | .arr items => itemsDepth items + 1
  | .obj fields => fieldsDepth fields + 1
  | _ => 0

def itemsDepth : List Json → Nat
  | [] => 0
  | item :: rest => max item.depth (itemsDepth rest)

def fieldsDepth : List (String × Json) → Nat
  | [] => 0
  | (_, value) :: rest => max value.depth (fieldsDepth rest)

end

end Json

namespace Tree

/-- Whether so many arrays and objects may stand inside each other. -/
def Levels.Admit : Levels → Nat → Prop
  | none, _ => True
  | some most, depth => depth ≤ most

variable {levels inner : Levels} {fits : Number → Prop}

theorem Levels.Admit.mono {depth less : Nat} (h : levels.Admit depth) (hle : less ≤ depth) :
    levels.Admit less := by
  cases levels with
  | none => trivial
  | some most => exact Nat.le_trans hle h

theorem Levels.Admit.enter {depth : Nat} (h : levels.Admit (depth + 1)) :
    ∃ inner, enter levels = some inner ∧ inner.Admit depth := by
  cases levels with
  | none => exact ⟨none, rfl, trivial⟩
  | some most =>
    cases most with
    | zero => exact absurd h (Nat.not_succ_le_zero depth)
    | succ most => exact ⟨some most, rfl, Nat.le_of_succ_le_succ h⟩

theorem itemsToJson?_eq_mapM (trees : List Tree) :
    itemsToJson? levels trees = trees.mapM (toJson? levels) := by
  induction trees with
  | nil => rfl
  | cons tree rest ih =>
    rw [itemsToJson?, List.mapM_cons, ih]

theorem fieldsToJson?_eq_mapM (fields : List (Option String × Tree)) :
    fieldsToJson? levels fields =
      fields.mapM fun (name, value) => do return (← name, ← value.toJson? levels) := by
  induction fields with
  | nil => rfl
  | cons field rest ih =>
    obtain ⟨name, value⟩ := field
    rw [fieldsToJson?, List.mapM_cons, ih]
    simp [Option.bind_assoc]

theorem ofItems_eq_map (items : List Json) : ofItems items = items.map ofJson := by
  induction items with
  | nil => rfl
  | cons item rest ih => rw [ofItems, ih, List.map_cons]

theorem ofFields_eq_map (fields : List (String × Json)) :
    ofFields fields = fields.map fun (name, value) => (some name, ofJson value) := by
  induction fields with
  | nil => rfl
  | cons field rest ih =>
    obtain ⟨name, value⟩ := field
    rw [ofFields, ih, List.map_cons]

theorem depth_le_itemsDepth {items : List Json} {item : Json} (hm : item ∈ items) :
    item.depth ≤ Json.itemsDepth items := by
  induction items with
  | nil => cases hm
  | cons first rest ih =>
    rcases List.mem_cons.mp hm with rfl | hm
    · exact Nat.le_max_left _ _
    · exact Nat.le_trans (ih hm) (Nat.le_max_right _ _)

theorem depth_le_fieldsDepth {fields : List (String × Json)} {field : String × Json}
    (hm : field ∈ fields) : field.2.depth ≤ Json.fieldsDepth fields := by
  induction fields with
  | nil => cases hm
  | cons first rest ih =>
    rcases List.mem_cons.mp hm with rfl | hm
    · exact Nat.le_max_left _ _
    · exact Nat.le_trans (ih hm) (Nat.le_max_right _ _)

/-- A value that is not nested too deep is read back as it is. -/
theorem toJson?_ofJson {json : Json} (regular : json.Regular fits) (h : levels.Admit json.depth) :
    (ofJson json).toJson? levels = some json := by
  induction regular generalizing levels with
  | null | bool | num | str => rfl
  | @arr items each ih =>
    obtain ⟨inner, hinner, h⟩ := h.enter
    have hitems : itemsToJson? inner (ofItems items) = some items := by
      rw [itemsToJson?_eq_mapM, ofItems_eq_map, List.mapM_map, mapM_eq_some (g := id), List.map_id]
      exact fun item hm => ih item hm (h.mono (depth_le_itemsDepth hm))
    rw [ofJson, toJson?, hinner]
    simp [hitems]
  | @obj fields ascending each ih =>
    obtain ⟨inner, hinner, h⟩ := h.enter
    have hfields : fieldsToJson? inner (ofFields fields) = some fields := by
      rw [fieldsToJson?_eq_mapM, ofFields_eq_map, List.mapM_map, mapM_eq_some (g := id), List.map_id]
      intro field hm
      simp [ih field hm (h.mono (depth_le_fieldsDepth hm))]
    rw [ofJson, toJson?, hinner]
    simp [hfields, Json.ofFields, Table.ofList_of_ascending ascending]

/-- The fields of an object with their names, as they come to be looked up. -/
theorem mapM_ofFields (fields : List (String × Json)) :
    ((ofFields fields).mapM fun (name, value) => do return (← name, value)) =
      some (Table.mapValues ofJson fields) := by
  rw [ofFields_eq_map, List.mapM_map]
  exact mapM_eq_some fun field hm => rfl

theorem length_filter_name_le_one {entries : Table Tree} (h : entries.names.Nodup) (name : String) :
    (entries.filter (·.1 = name)).length ≤ 1 := by
  have hcount := List.nodup_iff_count_le_one.mp h name
  rwa [Table.names, List.count, List.countP_map, List.countP_eq_length_filter] at hcount

/-- An object with distinct names gives its fields by name. -/
theorem slots?_obj {fields : List (String × Json)} (unique : (Table.names fields).Nodup)
    (names : List String) : (ofJson (.obj fields)).slots? names =
      some ⟨false, names.map fun name => (Table.get? name fields).map ofJson⟩ := by
  have hnames : (Table.mapValues ofJson fields).names.Nodup := by rwa [Table.names_mapValues]
  rw [ofJson, slots?, mapM_ofFields]
  simp [length_filter_name_le_one hnames, Table.get?_mapValues]

/-- So does a record, in whatever order its fields were given. -/
theorem slots?_ofFields {entries : List (String × Json)} (unique : (entries.map Prod.fst).Nodup)
    (names : List String) : (ofJson (.ofFields entries)).slots? names =
      some ⟨false, names.map fun name => (Table.get? name entries).map ofJson⟩ := by
  rw [Json.ofFields, slots?_obj (Table.ascending_ofList entries).nodup]
  simp [Table.get?_ofList unique]

section Slots

variable {α : Type} {read : Tree → Option α} {tree : Tree}

@[simp] theorem required_some : required read (some tree) = read tree := rfl

@[simp] theorem orElse_some {absent : α} : orElse read absent (some tree) = read tree := rfl

@[simp] theorem optional_none : optional read none = some none := rfl

theorem optional_some (h : tree.isNull = false) : optional read (some tree) = some <$> read tree := by
  cases tree with
  | null => cases h
  | bool | num | str | arr | obj => rfl

end Slots

@[simp] theorem string?_str (s : String) : string? (ofJson (.str s)) = some s := rfl

@[simp] theorem optional_str (s : String) :
    optional string? (some (ofJson (.str s))) = some (some s) := rfl

theorem unsigned?_int {n : Nat} (width : Nat) (h : n < 2 ^ width) :
    unsigned? width (.num (some (.int n))) = some n := by
  have h : n < 1 <<< width := by rwa [Nat.shiftLeft_eq, Nat.one_mul]
  simp [unsigned?, h]

theorem float?_real (x : Float) : float? (.num (some (.real x))) = some x := rfl

end Tree

section Reading

/-- What a text spelled has numbers that fit, where they have a value at all. -/
inductive Tree.Holds (fits : Number → Prop) : Tree → Prop
  | null : Holds fits .null
  | bool (b : Bool) : Holds fits (.bool b)
  | num {n : Option Number} (fit : ∀ value, n = some value → fits value) : Holds fits (.num n)
  | str (s : Option String) : Holds fits (.str s)
  | arr {items : List Tree} (each : ∀ item ∈ items, Holds fits item) : Holds fits (.arr items)
  | obj {fields : List (Option String × Tree)} (each : ∀ field ∈ fields, Holds fits field.2) :
    Holds fits (.obj fields)

namespace Tree

variable {levels : Levels} {fits : Number → Prop} {tree : Tree}

/-- A value that was read has its objects in order. -/
theorem Holds.regular {json : Json} (holds : tree.Holds fits) (h : tree.toJson? levels = some json) :
    json.Regular fits := by
  induction holds generalizing levels json with
  | null =>
    cases h
    exact .null
  | bool b =>
    cases h
    exact .bool b
  | num fit =>
    obtain ⟨n, rfl, rfl⟩ := Option.map_eq_some_iff.mp h
    exact .num (fit n rfl)
  | str s =>
    obtain ⟨text, rfl, rfl⟩ := Option.map_eq_some_iff.mp h
    exact .str text
  | arr each ih =>
    rw [toJson?] at h
    obtain ⟨inner, hinner, h⟩ := Option.bind_eq_some_iff.mp h
    obtain ⟨items, hitems, h⟩ := Option.bind_eq_some_iff.mp h
    cases h
    refine .arr fun item hm => ?_
    rw [itemsToJson?_eq_mapM] at hitems
    obtain ⟨tree, htree, hitem⟩ := exists_of_mapM hitems hm
    exact ih tree htree hitem
  | obj each ih =>
    rw [toJson?] at h
    obtain ⟨inner, hinner, h⟩ := Option.bind_eq_some_iff.mp h
    obtain ⟨fields, hfields, h⟩ := Option.bind_eq_some_iff.mp h
    cases h
    refine .obj (Table.ascending_ofList fields) fun field hm => ?_
    rw [fieldsToJson?_eq_mapM] at hfields
    obtain ⟨entry, hentry, hfield⟩ := exists_of_mapM hfields (Table.mem_ofList hm)
    obtain ⟨name, -, hfield⟩ := Option.bind_eq_some_iff.mp hfield
    obtain ⟨value, hvalue, hfield⟩ := Option.bind_eq_some_iff.mp hfield
    cases hfield
    exact ih entry hentry hvalue

/-- The fields of a record are parts of it. -/
theorem Holds.slot {names : List String} {slots : Slots} (holds : tree.Holds fits)
    (h : tree.slots? names = some slots) {part : Tree} (hm : some part ∈ slots.given) :
    part.Holds fits := by
  cases holds with
  | null | bool | num | str => cases h
  | arr each =>
    simp only [slots?] at h
    split at h
    · cases h
      refine each part ?_
      simpa using hm
    · cases h
  | @obj fields each =>
    simp only [slots?] at h
    obtain ⟨named, hnamed, h⟩ := Option.bind_eq_some_iff.mp h
    split at h
    · cases h
      obtain ⟨name, -, hpart⟩ := List.mem_map.mp hm
      obtain ⟨entry, hentry, heq⟩ := exists_of_mapM hnamed (Table.mem_of_get? hpart)
      obtain ⟨found, -, heq⟩ := Option.bind_eq_some_iff.mp heq
      cases heq
      exact each entry hentry
    · cases h

end Tree

end Reading

end Conveyor
