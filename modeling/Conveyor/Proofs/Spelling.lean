import Conveyor.Proofs.Numerals
import Conveyor.Proofs.Values

namespace Conveyor
open Text

/-- An integer of the readable range, or a real that is read as it is written. -/
def Number.Survives : Number → Prop
  | .int n => -2 ^ 63 ≤ n ∧ n < 2 ^ 64
  | .real x => (Number.real x).ReadsBack

theorem Number.Survives.readsBack {n : Number} (h : n.Survives) : n.ReadsBack := by
  cases n with
  | int n => exact Number.readsBack_int h.1 h.2
  | real x => exact h

namespace Tree

variable {json : Json} {bytes rest : List UInt8} {fuel : Nat}

/-- The bytes a value is written as. -/
def spelled (json : Json) : List UInt8 := Utf8.encode json.text

theorem skip_of_not_blank {b : UInt8} (h : isBlank b = false) : skip (b :: rest) = b :: rest := by
  simp [skip, h]

/-- What a number may start with. -/
def Leads (b : UInt8) : Prop := b = 0x2d ∨ isDigit b = true

theorem Leads.ne {b c : UInt8} (h : Leads b) (hminus : 0x2d ≠ c) (hdigit : isDigit c = false) :
    b ≠ c := by
  rintro rfl
  rcases h with rfl | h
  · exact hminus rfl
  · cases hdigit.symm.trans h

theorem Leads.not_blank {b : UInt8} (h : Leads b) : isBlank b = false := by
  simp [isBlank, h.ne (c := 0x20) (by decide) (by decide), h.ne (c := 0x09) (by decide) (by decide),
    h.ne (c := 0x0a) (by decide) (by decide), h.ne (c := 0x0d) (by decide) (by decide)]

theorem number_head {tree : Tree} (h : number bytes = some (tree, rest)) :
    ∃ b left, bytes = b :: left ∧ Leads b := by
  by_cases hminus : bytes.head? = some 0x2d
  · obtain ⟨left, rfl⟩ := List.head?_eq_some_iff.mp hminus
    exact ⟨_, left, rfl, .inl rfl⟩
  · rw [number_of_ne hminus] at h
    obtain ⟨found, hfound, -⟩ := Option.map_eq_some_iff.mp h
    obtain ⟨⟨w, after⟩, hw, -⟩ := Option.bind_eq_some_iff.mp hfound
    cases bytes with
    | nil => cases hw
    | cons b left =>
      refine ⟨b, left, rfl, .inr ?_⟩
      cases hb : isDigit b with
      | true => rfl
      | false =>
        have hnone : digits (b :: left) = [] := by simp [digits, hb]
        rw [whole, hnone] at hw
        cases hw

theorem value_of_number {b : UInt8} {left : List UInt8} (h : Leads b) :
    value (fuel + 1) (b :: left) = number (b :: left) := by
  rw [value, skip_of_not_blank h.not_blank]
  split
  next he => exact absurd (List.cons.inj he).1 (h.ne (by decide) (by decide))
  next he => exact absurd (List.cons.inj he).1 (h.ne (by decide) (by decide))
  next he => exact absurd (List.cons.inj he).1 (h.ne (by decide) (by decide))
  next he => exact absurd (List.cons.inj he).1 (h.ne (by decide) (by decide))
  next he => exact absurd (List.cons.inj he).1 (h.ne (by decide) (by decide))
  next he => exact absurd (List.cons.inj he).1 (h.ne (by decide) (by decide))
  · rfl

section Marks

theorem encode_mark : Utf8.encode "[" = [0x5b] ∧ Utf8.encode "]" = [0x5d] ∧ Utf8.encode "," = [0x2c] ∧
    Utf8.encode ":" = [0x3a] ∧ Utf8.encode Json.openBrace = [0x7b] ∧
    Utf8.encode Json.closeBrace = [0x7d] := by
  decide

theorem spelled_arr (items : List Json) :
    spelled (.arr items) = 0x5b :: (Utf8.encode (Json.itemsText items) ++ [0x5d]) := by
  obtain ⟨hopen, hclose, -⟩ := encode_mark
  rw [spelled, Json.text, Utf8.encode_append, Utf8.encode_append, hopen, hclose]
  rfl

theorem spelled_obj (fields : List (String × Json)) :
    spelled (.obj fields) = 0x7b :: (Utf8.encode (Json.fieldsText fields) ++ [0x7d]) := by
  obtain ⟨-, -, -, -, hopen, hclose⟩ := encode_mark
  rw [spelled, Json.text, Utf8.encode_append, Utf8.encode_append, hopen, hclose]
  rfl

end Marks

theorem spelled_null : spelled .null = [0x6e, 0x75, 0x6c, 0x6c] := rfl

theorem spelled_true : spelled (.bool true) = [0x74, 0x72, 0x75, 0x65] := rfl

theorem spelled_false : spelled (.bool false) = [0x66, 0x61, 0x6c, 0x73, 0x65] := rfl

/-- A value starts with a byte of its own, neither a blank nor a closing bracket. -/
theorem spelled_head (regular : json.Regular Number.Survives) :
    ∃ b left, spelled json = b :: left ∧ isBlank b = false ∧ b ≠ 0x5d := by
  cases regular with
  | null => exact ⟨_, _, spelled_null, by decide, by decide⟩
  | bool b =>
    cases b with
    | true => exact ⟨_, _, spelled_true, by decide, by decide⟩
    | false => exact ⟨_, _, spelled_false, by decide, by decide⟩
  | num fit =>
    obtain ⟨b, left, hspelled, leads⟩ := number_head fit.readsBack
    exact ⟨b, left, hspelled, leads.not_blank, leads.ne (by decide) (by decide)⟩
  | str s =>
    obtain ⟨opened, _, hquote, -⟩ := pieces_quote s
    exact ⟨_, _, hquote, by decide, by decide⟩
  | arr => exact ⟨_, _, spelled_arr _, by decide, by decide⟩
  | obj => exact ⟨_, _, spelled_obj _, by decide, by decide⟩

/-- Wherever it is written, a value is read as itself, if the fuel lasts. -/
def Regained (json : Json) : Prop :=
  ∀ (fuel : Nat) (rest : List UInt8), 2 * (spelled json).length ≤ fuel → Delimited rest →
    value fuel (spelled json ++ rest) = some (ofJson json, rest)

/-- A step into a value leaves fuel for what follows its first byte. -/
theorem Regained.of_cons {b : UInt8} {left : List UInt8} (hspelled : spelled json = b :: left)
    (h : ∀ fuel rest, 2 * left.length + 1 ≤ fuel → Delimited rest →
      value (fuel + 1) (b :: (left ++ rest)) = some (ofJson json, rest)) : Regained json := by
  intro fuel rest hfuel hrest
  rw [hspelled] at hfuel ⊢
  rw [List.length_cons] at hfuel
  obtain ⟨fuel, rfl⟩ : ∃ less, fuel = less + 1 := ⟨fuel - 1, by omega⟩
  exact h fuel rest (by omega) hrest

theorem delimited_mark {b : UInt8} (h : b = 0x2c ∨ b = 0x5d ∨ b = 0x7d) : Delimited (b :: rest) := by
  intro c hc
  cases Option.some.inj hc
  rcases h with rfl | rfl | rfl <;> decide

theorem itemsText_cons (item other : Json) (more : List Json) :
    Utf8.encode (Json.itemsText (item :: other :: more)) =
      spelled item ++ 0x2c :: Utf8.encode (Json.itemsText (other :: more)) := by
  have hcomma : Utf8.encode "," = [0x2c] := encode_mark.2.2.1
  rw [Json.itemsText, Utf8.encode_append, Utf8.encode_append, hcomma, spelled, List.append_assoc]
  · rfl
  · exact List.cons_ne_nil _ _

theorem items_regained {found : List Json} (hne : found ≠ []) (each : ∀ item ∈ found, Regained item)
    (hfuel : 2 * (Utf8.encode (Json.itemsText found)).length + 1 ≤ fuel) :
    items fuel (Utf8.encode (Json.itemsText found) ++ 0x5d :: rest) = some (ofItems found, rest) := by
  induction found generalizing fuel with
  | nil => exact absurd rfl hne
  | cons item more ih =>
    obtain ⟨fuel, rfl⟩ : ∃ left, fuel = left + 1 := ⟨fuel - 1, by omega⟩
    have hitem : Regained item := each item List.mem_cons_self
    cases more with
    | nil =>
      have hvalue : value fuel (spelled item ++ 0x5d :: rest) = some (ofJson item, 0x5d :: rest) :=
        hitem _ _ (by simpa [spelled, Json.itemsText] using hfuel) (delimited_mark (by decide))
      rw [Json.itemsText, items, ← spelled, hvalue]
      rfl
    | cons other more =>
      rw [itemsText_cons] at hfuel ⊢
      simp only [List.length_append, List.length_cons] at hfuel
      generalize hothers : Utf8.encode (Json.itemsText (other :: more)) = others at *
      have hvalue : value fuel (spelled item ++ 0x2c :: (others ++ 0x5d :: rest)) =
          some (ofJson item, 0x2c :: (others ++ 0x5d :: rest)) :=
        hitem _ _ (by omega) (delimited_mark (.inl rfl))
      have hmore : items fuel (others ++ 0x5d :: rest) = some (ofItems (other :: more), rest) := by
        refine ih (List.cons_ne_nil _ _) (fun next hm => each next (List.mem_cons_of_mem item hm)) ?_
        omega
      rw [List.append_assoc, List.cons_append, items, hvalue, ofItems]
      simp [skip, isBlank, hmore]

theorem fieldsText_single (name : String) (value : Json) :
    Utf8.encode (Json.fieldsText [(name, value)]) =
      Utf8.encode (Json.quote name) ++ 0x3a :: spelled value := by
  have hcolon : Utf8.encode ":" = [0x3a] := encode_mark.2.2.2.1
  rw [Json.fieldsText, Utf8.encode_append, Utf8.encode_append, hcolon, List.append_assoc]
  rfl

theorem fieldsText_cons (name : String) (value : Json) (other : String × Json)
    (more : List (String × Json)) :
    Utf8.encode (Json.fieldsText ((name, value) :: other :: more)) =
      Utf8.encode (Json.quote name) ++ 0x3a :: (spelled value ++
        0x2c :: Utf8.encode (Json.fieldsText (other :: more))) := by
  obtain ⟨-, -, hcomma, hcolon, -⟩ := encode_mark
  rw [Json.fieldsText, Utf8.encode_append, Utf8.encode_append, Utf8.encode_append,
    Utf8.encode_append, hcomma, hcolon]
  · simp [spelled]
  · exact List.cons_ne_nil _ _

section Members

variable {name : String} {bytes left : List UInt8} {tree : Tree}

theorem members_last (hvalue : value fuel bytes = some (tree, 0x7d :: left)) :
    members (fuel + 1) (Utf8.encode (Json.quote name) ++ 0x3a :: bytes) =
      some ([(some name, tree)], left) := by
  obtain ⟨opened, found, hquote, hfound, htext⟩ := pieces_quote name
  rw [members, hquote, List.cons_append, skip_of_not_blank (by decide)]
  simp [hfound, htext, hvalue, skip, isBlank]

theorem members_more {found : List (Option String × Tree)}
    (hvalue : value fuel bytes = some (tree, 0x2c :: left))
    (hmore : members fuel left = some (found, rest)) :
    members (fuel + 1) (Utf8.encode (Json.quote name) ++ 0x3a :: bytes) =
      some ((some name, tree) :: found, rest) := by
  obtain ⟨opened, pieces, hquote, hpieces, htext⟩ := pieces_quote name
  rw [members, hquote, List.cons_append, skip_of_not_blank (by decide)]
  simp [hpieces, htext, hvalue, hmore, skip, isBlank]

end Members

theorem members_regained {found : List (String × Json)} (hne : found ≠ [])
    (each : ∀ field ∈ found, Regained field.2)
    (hfuel : 2 * (Utf8.encode (Json.fieldsText found)).length + 1 ≤ fuel) :
    members fuel (Utf8.encode (Json.fieldsText found) ++ 0x7d :: rest) =
      some (ofFields found, rest) := by
  induction found generalizing fuel with
  | nil => exact absurd rfl hne
  | cons field more ih =>
    obtain ⟨name, json⟩ := field
    obtain ⟨fuel, rfl⟩ : ∃ left, fuel = left + 1 := ⟨fuel - 1, by omega⟩
    have hjson : Regained json := each (name, json) List.mem_cons_self
    cases more with
    | nil =>
      rw [fieldsText_single] at hfuel ⊢
      simp only [List.length_append, List.length_cons] at hfuel
      have hvalue : value fuel (spelled json ++ 0x7d :: rest) = some (ofJson json, 0x7d :: rest) :=
        hjson _ _ (by omega) (delimited_mark (.inr (.inr rfl)))
      rw [List.append_assoc, List.cons_append]
      exact members_last hvalue
    | cons other more =>
      rw [fieldsText_cons] at hfuel ⊢
      simp only [List.length_append, List.length_cons] at hfuel
      generalize hothers : Utf8.encode (Json.fieldsText (other :: more)) = others at *
      have hvalue : value fuel (spelled json ++ 0x2c :: (others ++ 0x7d :: rest)) =
          some (ofJson json, 0x2c :: (others ++ 0x7d :: rest)) :=
        hjson _ _ (by omega) (delimited_mark (.inl rfl))
      have hmore : members fuel (others ++ 0x7d :: rest) = some (ofFields (other :: more), rest) := by
        refine ih (List.cons_ne_nil _ _) (fun next hm => each next (List.mem_cons_of_mem _ hm)) ?_
        omega
      rw [List.append_assoc, List.cons_append, List.append_assoc, List.cons_append, ofFields]
      exact members_more hvalue hmore

theorem value_arr {b : UInt8} {left : List UInt8} (blank : isBlank b = false) (hne : b ≠ 0x5d) :
    value (fuel + 1) (0x5b :: b :: left) =
      (items fuel (b :: left)).map fun (found, rest) => (.arr found, rest) := by
  rw [value, skip_of_not_blank (by decide)]
  simp only [skip_of_not_blank blank]
  split
  next he => exact absurd (List.cons.inj he).1 hne
  · cases items fuel (b :: left) <;> rfl

theorem value_obj {b : UInt8} {left : List UInt8} (blank : isBlank b = false) (hne : b ≠ 0x7d) :
    value (fuel + 1) (0x7b :: b :: left) =
      (members fuel (b :: left)).map fun (found, rest) => (.obj found, rest) := by
  rw [value, skip_of_not_blank (by decide)]
  simp only [skip_of_not_blank blank]
  split
  next he => exact absurd (List.cons.inj he).1 hne
  · cases members fuel (b :: left) <;> rfl

theorem itemsText_head {item : Json} (regular : item.Regular Number.Survives) (more : List Json) :
    ∃ b left, Utf8.encode (Json.itemsText (item :: more)) = b :: left ∧ isBlank b = false ∧
      b ≠ 0x5d := by
  obtain ⟨b, left, hspelled, blank, hne⟩ := spelled_head regular
  cases more with
  | nil => exact ⟨b, left, hspelled, blank, hne⟩
  | cons other more => exact ⟨b, _, by rw [itemsText_cons, hspelled, List.cons_append], blank, hne⟩

theorem fieldsText_head (field : String × Json) (more : List (String × Json)) :
    ∃ left, Utf8.encode (Json.fieldsText (field :: more)) = 0x22 :: left := by
  obtain ⟨name, value⟩ := field
  obtain ⟨opened, _, hquote, -⟩ := pieces_quote name
  cases more with
  | nil => exact ⟨_, by rw [fieldsText_single, hquote, List.cons_append]⟩
  | cons other more => exact ⟨_, by rw [fieldsText_cons, hquote, List.cons_append]⟩

theorem regained_arr {found : List Json} (each : ∀ item ∈ found, item.Regular Number.Survives)
    (regained : ∀ item ∈ found, Regained item) : Regained (.arr found) := by
  refine .of_cons (spelled_arr found) fun fuel rest hfuel _ => ?_
  rw [List.length_append, List.length_singleton] at hfuel
  cases found with
  | nil =>
    have hnone : Utf8.encode (Json.itemsText []) = [] := rfl
    simp [hnone, value, skip, isBlank, ofJson, ofItems]
  | cons item more =>
    have hitems : items fuel (Utf8.encode (Json.itemsText (item :: more)) ++ 0x5d :: rest) =
        some (ofItems (item :: more), rest) :=
      items_regained (List.cons_ne_nil _ _) regained (by omega)
    obtain ⟨b, left, htext, blank, hne⟩ := itemsText_head (each item List.mem_cons_self) more
    rw [htext, List.cons_append] at hitems
    rw [htext, List.append_assoc, List.singleton_append, List.cons_append, value_arr blank hne,
      hitems]
    rfl

theorem regained_obj {found : List (String × Json)} (regained : ∀ field ∈ found, Regained field.2) :
    Regained (.obj found) := by
  refine .of_cons (spelled_obj found) fun fuel rest hfuel _ => ?_
  rw [List.length_append, List.length_singleton] at hfuel
  cases found with
  | nil =>
    have hnone : Utf8.encode (Json.fieldsText []) = [] := rfl
    simp [hnone, value, skip, isBlank, ofJson, ofFields]
  | cons field more =>
    have hmembers : members fuel (Utf8.encode (Json.fieldsText (field :: more)) ++ 0x7d :: rest) =
        some (ofFields (field :: more), rest) :=
      members_regained (List.cons_ne_nil _ _) regained (by omega)
    obtain ⟨left, htext⟩ := fieldsText_head field more
    rw [htext, List.cons_append] at hmembers
    rw [htext, List.append_assoc, List.singleton_append, List.cons_append,
      value_obj (by decide) (by decide), hmembers]
    rfl

/-- Every value whose numbers survive is read as it is written. -/
theorem regained (regular : json.Regular Number.Survives) : Regained json := by
  induction regular with
  | null => exact .of_cons spelled_null fun _ _ _ _ => by simp [value, skip, isBlank, ofJson]
  | bool b =>
    cases b with
    | true => exact .of_cons spelled_true fun _ _ _ _ => by simp [value, skip, isBlank, ofJson]
    | false => exact .of_cons spelled_false fun _ _ _ _ => by simp [value, skip, isBlank, ofJson]
  | @num n fit =>
    have hread : number (spelled (.num n)) = some (.num (some n), []) := fit.readsBack
    obtain ⟨b, left, hspelled, leads⟩ := number_head hread
    refine .of_cons hspelled fun fuel rest _ hrest => ?_
    have hnumber := number_append hrest hread
    rw [hspelled, List.cons_append] at hnumber
    rw [value_of_number leads]
    exact hnumber
  | str s =>
    obtain ⟨opened, found, hquote, hfound, htext⟩ := pieces_quote s
    refine .of_cons hquote fun fuel rest _ _ => ?_
    simp [value, skip, isBlank, hfound, htext, ofJson]
  | arr each ih => exact regained_arr each ih
  | obj ascending each ih => exact regained_obj ih

theorem ofBytes?_spelled (h : Regained json) : ofBytes? (spelled json) = some (ofJson json) := by
  have hend : Delimited [] := nofun
  have hvalue : value (2 * (spelled json).length + 1) (spelled json ++ []) = some (ofJson json, []) :=
    h _ _ (Nat.le_succ _) hend
  rw [List.append_nil] at hvalue
  rw [ofBytes?, hvalue]
  rfl

end Tree

end Conveyor
