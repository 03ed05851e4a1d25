import Conveyor.Proofs.Interpolation

namespace Conveyor.Expression

/-- A text that starts with a placeholder: what stands between its braces, as the scan from the left
finds it, and what follows them. -/
def Starts (text reference rest : List Char) : Prop :=
  ∃ opened, cut '{' text = some ([], opened) ∧ cut '}' opened = some (reference, rest)

/-- A last character that would be written twice is one that the text ends in already. -/
theorem not_doubled_concat_iff {c : Char} {s : List Char} :
    ¬[c, c] <:+: s ++ [c] ↔ Clear c s := by
  have hlast : [c, c] <:+ s ++ [c] ↔ s.getLast? = some c := by
    rw [List.suffix_concat_iff, ← List.singleton_suffix_iff_getLast?_eq_some]
    constructor
    · rintro (h | ⟨front, hfront, h⟩)
      · cases h
      · have doubled : [c] ++ [c] = front ++ [c] := hfront
        obtain ⟨rfl, -⟩ := List.append_inj' doubled rfl
        exact h
    · intro h
      exact .inr ⟨[c], rfl, h⟩
  rw [List.infix_concat_iff, hlast, not_or]
  exact ⟨fun h => ⟨h.2, h.1⟩, fun h => ⟨h.last, h.inside⟩⟩

section Starts

variable {text reference rest : List Char}

theorem starts_iff :
    Starts text reference rest ↔
      text = '{' :: '{' :: (reference ++ '}' :: '}' :: rest) ∧ Clear '}' reference := by
  constructor
  · rintro ⟨opened, hopen, hclose⟩
    obtain ⟨htext, -⟩ := eq_append_of_cut hopen
    obtain ⟨hopened, closed⟩ := eq_append_of_cut hclose
    exact ⟨by rw [htext, hopened]; rfl, closed⟩
  · rintro ⟨rfl, closed⟩
    exact ⟨_, cut_append (.nil _) _, cut_append closed rest⟩

theorem Starts.unique {reference' rest' : List Char} (h : Starts text reference rest)
    (h' : Starts text reference' rest') : reference = reference' ∧ rest = rest' := by
  obtain ⟨opened, hopen, hclose⟩ := h
  obtain ⟨opened', hopen', hclose'⟩ := h'
  cases hopen.symm.trans hopen'
  cases hclose.symm.trans hclose'
  exact ⟨rfl, rfl⟩

/-- A text counts as one placeholder if the scan sees one and nothing behind it, and also if it sees
one brace more behind it: that brace then goes into the reference. There must be no other opening
within. -/
theorem onlyPlaceholder_iff_starts :
    onlyPlaceholder text = some reference ↔
      ∃ inner, ¬['{', '{'] <:+: inner ∧
        (Starts text inner [] ∧ reference = Text.trim inner ∨
          Starts text inner ['}'] ∧ reference = Text.trim (inner ++ ['}'])) := by
  rw [onlyPlaceholder_eq_some_iff]
  constructor
  · rintro ⟨inner, htext, hopen, hclose, href⟩
    by_cases hlast : inner.getLast? = some '}'
    · obtain ⟨front, rfl⟩ := List.getLast?_eq_some_iff.mp hlast
      refine ⟨front, fun hi => hopen (hi.trans (List.prefix_append _ _).isInfix), ?_⟩
      refine .inr ⟨starts_iff.mpr ⟨?_, not_doubled_concat_iff.mp hclose⟩, href⟩
      rw [htext]
      simp
    · exact ⟨inner, hopen, .inl ⟨starts_iff.mpr ⟨htext, hclose, hlast⟩, href⟩⟩
  · rintro ⟨inner, hopen, ⟨starts, href⟩ | ⟨starts, href⟩⟩
    · obtain ⟨htext, closed⟩ := starts_iff.mp starts
      exact ⟨inner, htext, hopen, closed.inside, href⟩
    · obtain ⟨htext, closed⟩ := starts_iff.mp starts
      refine ⟨inner ++ ['}'], ?_, not_doubled_append hopen (by simp),
        not_doubled_concat_iff.mpr closed, href⟩
      rw [htext]
      simp

theorem not_mem_of_blank {s : List Char} (h : ∀ c ∈ s, Text.isBlank c) : '{' ∉ s :=
  fun hm => absurd (h _ hm) (by decide)

/-- Where no other placeholder follows, the loop fills the one a text starts with, and all around it
stays. -/
theorem interpolate_starts {source : String} {item : Json} {index : Nat} {front back : List Char}
    (starts : Starts text reference rest) (last : ¬['{', '{'] <:+: rest)
    (hfront : ∀ c ∈ front, Text.isBlank c) (hback : ∀ c ∈ back, Text.isBlank c) :
    interpolate source item index (front ++ text ++ back) =
      (fun value => front ++ spelled value ++ (rest ++ back)) <$>
        lookup (Text.trim reference) item index := by
  obtain ⟨rfl, closed⟩ := starts_iff.mp starts
  have hopen := not_mem_of_blank hfront
  have clear : Clear '{' front :=
    ⟨fun hi => hopen (hi.subset List.mem_cons_self), fun hl => hopen (List.mem_of_getLast? hl)⟩
  have plain : ¬['{', '{'] <:+: rest ++ back := not_doubled_append last (not_mem_of_blank hback)
  have hsource : front ++ '{' :: '{' :: (reference ++ '}' :: '}' :: rest) ++ back =
      (Piece.mk front reference clear closed).source ++ (rest ++ back) := by
    simp [Piece.source]
  rw [hsource, interpolate_piece, interpolate_plain plain]
  cases hv : lookup (Text.trim reference) item index with
  | error e => simp [Piece.value, hv]; rfl
  | ok value => simp [Piece.value, Piece.fill, hv]; rfl

end Starts

/-- What keeps its type is what the scan sees as one placeholder and nothing else, with no other
opening within, and what has but one brace more behind it. In the first case the reference is the
one the scan finds, and the loop would put its value between the blanks; in the second the brace
goes into the reference, where the loop would leave it in the text. -/
theorem evaluates_as_scanned (source : String) (item : Json) (index : Nat) :
    (∀ reference, onlyPlaceholder (Text.trim source.toList) = some reference →
      evaluate source item index = lookup reference item index) ∧
    (onlyPlaceholder (Text.trim source.toList) = none →
      evaluate source item index =
        (fun text => .str (String.ofList text)) <$> interpolate source item index source.toList) ∧
    (∀ reference, onlyPlaceholder (Text.trim source.toList) = some reference ↔
      ∃ inner, ¬['{', '{'] <:+: inner ∧
        (Starts (Text.trim source.toList) inner [] ∧ reference = Text.trim inner ∨
          Starts (Text.trim source.toList) inner ['}'] ∧
            reference = Text.trim (inner ++ ['}']))) ∧
    ∃ front back, source.toList = front ++ Text.trim source.toList ++ back ∧
      (∀ c ∈ front, Text.isBlank c) ∧ (∀ c ∈ back, Text.isBlank c) ∧
      ∀ inner rest, Starts (Text.trim source.toList) inner rest → ¬['{', '{'] <:+: rest →
        interpolate source item index source.toList =
          (fun value => front ++ spelled value ++ (rest ++ back)) <$>
            lookup (Text.trim inner) item index := by
  obtain ⟨front, back, hsource, hfront, hback⟩ := trim_eq_append source.toList
  refine ⟨?_, evaluate_of_not_only item index, fun _ => onlyPlaceholder_iff_starts,
    front, back, hsource, hfront, hback, ?_⟩
  · intro reference h
    rw [evaluate, h]
  · intro inner rest starts last
    generalize Text.trim source.toList = text at hsource starts
    rw [hsource]
    exact interpolate_starts starts last hfront hback

/-- A placeholder whose reference has an opening within. -/
def reopened : String := "\x7b\x7b$json.\x7b\x7b\x7d\x7d"

theorem evaluates_as_scanned_reopened :
    evaluate "\n\x7b\x7b $json.a \x7d\x7d " (.obj [("a", .nat 5)]) 0 = .ok (.nat 5) ∧
    evaluate "\x7b\x7b$json.a\x7d\x7d\x7d" (.obj [("a", .nat 5), ("a\x7d", .null)]) 0 =
      .ok .null ∧
    evaluate reopened (.obj [("\x7b\x7b", .nat 5)]) 0 = .ok (.str "5") := by
  refine ⟨?_, ?_, ?_⟩
  · exact ((evaluates_as_scanned _ _ _).1 "$json.a".toList (by decide)).trans rfl
  · exact ((evaluates_as_scanned _ _ _).1 "$json.a\x7d".toList (by decide)).trans rfl
  · obtain ⟨-, declined, -, front, back, hsource, -, -, filled⟩ :=
      evaluates_as_scanned reopened (.obj [("\x7b\x7b", .nat 5)]) 0
    have htrim : Text.trim reopened.toList = reopened.toList := by decide
    have hlength := congrArg List.length hsource
    rw [htrim, List.length_append, List.length_append] at hlength
    obtain rfl : front = [] := List.length_eq_zero_iff.mp (by omega)
    obtain rfl : back = [] := List.length_eq_zero_iff.mp (by omega)
    have starts : Starts (Text.trim reopened.toList) "$json.\x7b\x7b".toList [] :=
      starts_iff.mpr ⟨by decide, by decide, by decide⟩
    rw [declined (by decide), filled _ _ starts (by decide)]
    rfl

/-- A placeholder with a brace more behind it. -/
def overclosed : String := "\x7b\x7b$json.a\x7d\x7d\x7d"

/-- The brace more goes into the reference, which then names nothing in the item. The loop finds the
value and leaves the brace in the text. -/
theorem brace_swallowed :
    (∀ reference, ¬Starts (Text.trim overclosed.toList) reference []) ∧
      onlyPlaceholder (Text.trim overclosed.toList) = some "$json.a\x7d".toList ∧
      evaluate overclosed (.obj [("a", .nat 1)]) 0 = .error (.notFound "$json.a\x7d" 0) ∧
      interpolate overclosed (.obj [("a", .nat 1)]) 0 overclosed.toList = .ok "1\x7d".toList := by
  have starts : Starts overclosed.toList "$json.a".toList ['}'] :=
    starts_iff.mpr ⟨by decide, by decide, by decide⟩
  refine ⟨?_, by decide, rfl, ?_⟩
  · intro reference alone
    obtain ⟨-, hrest⟩ := starts.unique alone
    cases hrest
  · have bare : ∀ c ∈ ([] : List Char), Text.isBlank c := nofun
    exact (interpolate_starts starts (by decide) bare bare).trans rfl

end Conveyor.Expression
