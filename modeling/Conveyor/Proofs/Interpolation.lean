import Conveyor.Parameter
import Mathlib.Data.List.Infix

namespace Conveyor.Expression

/-- A text behind which a character written twice is the first one that is: there is none in the
text, and the text does not end in the character. -/
structure Clear (c : Char) (s : List Char) : Prop where
  inside : ¬[c, c] <:+: s
  last : s.getLast? ≠ some c

theorem doubled_cons_iff {c a b : Char} {s : List Char} :
    [c, c] <:+: a :: b :: s ↔ (a = c ∧ b = c) ∨ [c, c] <:+: b :: s := by
  have hfirst : [c, c] <+: a :: b :: s ↔ a = c ∧ b = c := by
    simp [List.cons_prefix_cons, eq_comm]
  rw [List.infix_cons_iff, hfirst]

namespace Clear

variable {c a b : Char} {s : List Char}

theorem nil (c : Char) : Clear c [] := ⟨by simp, by simp⟩

theorem singleton (h : a ≠ c) : Clear c [a] := by
  refine ⟨fun hi => ?_, by simpa using h⟩
  simpa using hi.length_le

theorem cons_iff : Clear c (a :: b :: s) ↔ ¬(a = c ∧ b = c) ∧ Clear c (b :: s) := by
  have hlast : (a :: b :: s).getLast? = (b :: s).getLast? := List.getLast?_cons_cons
  constructor
  · intro h
    have hn := h.inside
    rw [doubled_cons_iff, not_or] at hn
    exact ⟨hn.1, hn.2, hlast ▸ h.last⟩
  · rintro ⟨hab, h⟩
    refine ⟨?_, hlast ▸ h.last⟩
    rw [doubled_cons_iff, not_or]
    exact ⟨hab, h.inside⟩

end Clear

theorem not_doubled_append {c : Char} {s t : List Char} (hs : ¬[c, c] <:+: s) (ht : c ∉ t) :
    ¬[c, c] <:+: s ++ t := by
  induction s with
  | nil => exact fun h => ht (h.subset List.mem_cons_self)
  | cons a s ih =>
    cases s with
    | nil =>
      cases t with
      | nil => exact hs
      | cons b t =>
        rw [List.singleton_append, doubled_cons_iff, not_or]
        exact ⟨fun h => ht (h.2 ▸ List.mem_cons_self), fun h => ht (h.subset List.mem_cons_self)⟩
    | cons b s =>
      rw [doubled_cons_iff, not_or] at hs
      rw [List.cons_append, List.cons_append, doubled_cons_iff, not_or]
      exact ⟨hs.1, ih hs.2⟩

section Cut

variable {c : Char} {s before after : List Char}

theorem cut_eq_none_iff : cut c s = none ↔ ¬[c, c] <:+: s := by
  fun_induction cut c s with
  | case1 a b rest h => simp [doubled_cons_iff, h]
  | case2 a b rest h ih =>
    rw [Option.map_eq_none_iff, ih, doubled_cons_iff, not_or]
    exact ⟨fun hn => ⟨h, hn⟩, And.right⟩
  | case3 s hs =>
    simp only [true_iff]
    rintro ⟨front, back, rfl⟩
    cases front with
    | nil => exact hs _ _ _ rfl
    | cons a front => cases front <;> exact hs _ _ _ rfl

/-- A text is cut at the first place where the character is written twice. -/
theorem cut_append (h : Clear c before) (after : List Char) :
    cut c (before ++ c :: c :: after) = some (before, after) := by
  induction before with
  | nil => simp [cut]
  | cons a before ih =>
    cases before with
    | nil =>
      have ha : a ≠ c := by simpa using h.last
      simp [cut, ha]
    | cons b before =>
      obtain ⟨hab, hrest⟩ := Clear.cons_iff.mp h
      have hcut : cut c (b :: (before ++ c :: c :: after)) = some (b :: before, after) := ih hrest
      change cut c (a :: b :: (before ++ c :: c :: after)) = _
      rw [cut, if_neg hab, hcut]
      rfl

theorem eq_append_of_cut (h : cut c s = some (before, after)) :
    s = before ++ c :: c :: after ∧ Clear c before := by
  fun_induction cut c s generalizing before with
  | case1 a b rest hab =>
    obtain ⟨rfl, rfl⟩ := hab
    cases h
    exact ⟨rfl, .nil _⟩
  | case2 a b rest hab ih =>
    obtain ⟨⟨front, back⟩, hcut, he⟩ := Option.map_eq_some_iff.mp h
    cases he
    obtain ⟨hs, clear⟩ := ih hcut
    refine ⟨by rw [hs]; rfl, ?_⟩
    cases front with
    | nil =>
      obtain ⟨rfl, _⟩ := List.cons.inj hs
      exact .singleton fun ha => hab ⟨ha, rfl⟩
    | cons b' front =>
      obtain ⟨rfl, _⟩ := List.cons.inj hs
      exact Clear.cons_iff.mpr ⟨hab, clear⟩
  | case3 s hs => cases h

end Cut

/-- A text, and the reference of the placeholder behind it. -/
structure Piece where
  before : List Char
  reference : List Char
  clear : Clear '{' before
  closed : Clear '}' reference

namespace Piece

/-- How a piece is written. -/
def source (piece : Piece) : List Char :=
  piece.before ++ '{' :: '{' :: (piece.reference ++ ['}', '}'])

/-- What the reference of a piece stands for. -/
def value (item : Json) (index : Nat) (piece : Piece) : Except Error Json :=
  lookup (Text.trim piece.reference) item index

/-- A piece with a value in the place of its reference. -/
def fill (piece : Piece) (value : Json) : List Char := piece.before ++ spelled value

theorem source_append (piece : Piece) (rest : List Char) :
    piece.source ++ rest = piece.before ++ '{' :: '{' :: (piece.reference ++ '}' :: '}' :: rest) := by
  simp [source]

end Piece

/-- Pieces with values in the places of their references. -/
def fillAll (pieces : List Piece) (values : List Json) : List Char :=
  (List.zipWith Piece.fill pieces values).flatten

/-- The references of the pieces stand for the values. -/
def Filled (item : Json) (index : Nat) (pieces : List Piece) (values : List Json) : Prop :=
  List.Forall₂ (fun piece value => piece.value item index = .ok value) pieces values

/-- The error is that of the first piece whose reference stands for nothing. -/
def FirstError (item : Json) (index : Nat) (pieces : List Piece) (e : Error) : Prop :=
  ∃ before piece after, pieces = before ++ piece :: after ∧
    (∃ values, Filled item index before values) ∧ piece.value item index = .error e

theorem filled_or_firstError (item : Json) (index : Nat) (pieces : List Piece) :
    (∃ values, Filled item index pieces values) ∨ ∃ e, FirstError item index pieces e := by
  induction pieces with
  | nil => exact .inl ⟨[], .nil⟩
  | cons piece pieces ih =>
    cases hv : piece.value item index with
    | error e => exact .inr ⟨e, [], piece, pieces, rfl, ⟨[], .nil⟩, hv⟩
    | ok value =>
      obtain ⟨values, hvs⟩ | ⟨e, before, failing, after, rfl, ⟨values, hvs⟩, he⟩ := ih
      · exact .inl ⟨value :: values, .cons hv hvs⟩
      · exact .inr ⟨e, piece :: before, failing, after, rfl, ⟨value :: values, .cons hv hvs⟩, he⟩

section Interpolate

variable {whole : String} {item : Json} {index : Nat} {rest before opened reference after : List Char}

theorem interpolate_of_uncut (h : cut '{' rest = none) :
    interpolate whole item index rest = .ok rest := by
  rw [interpolate]
  split
  · rfl
  · simp_all

theorem interpolate_of_unclosed (ho : cut '{' rest = some (before, opened))
    (hc : cut '}' opened = none) :
    interpolate whole item index rest = .error (.unterminated whole) := by
  rw [interpolate]
  split
  · simp_all
  · rename_i hs
    obtain ⟨rfl, rfl⟩ := Prod.mk.inj (Option.some.inj (ho.symm.trans hs))
    split
    · rfl
    · simp_all

theorem interpolate_of_cut (ho : cut '{' rest = some (before, opened))
    (hc : cut '}' opened = some (reference, after)) :
    interpolate whole item index rest = do
      let value ← lookup (Text.trim reference) item index
      let tail ← interpolate whole item index after
      return before ++ spelled value ++ tail := by
  rw [interpolate]
  split
  · simp_all
  · rename_i hs
    obtain ⟨rfl, rfl⟩ := Prod.mk.inj (Option.some.inj (ho.symm.trans hs))
    split
    · simp_all
    · rename_i hs'
      obtain ⟨rfl, rfl⟩ := Prod.mk.inj (Option.some.inj (hc.symm.trans hs'))
      cases lookup (Text.trim reference) item index with
      | error e => rfl
      | ok value =>
        cases interpolate whole item index after <;> rfl

theorem interpolate_plain (h : ¬['{', '{'] <:+: rest) :
    interpolate whole item index rest = .ok rest :=
  interpolate_of_uncut (cut_eq_none_iff.mpr h)

theorem interpolate_unclosed (clear : Clear '{' before) (h : ¬['}', '}'] <:+: rest) :
    interpolate whole item index (before ++ '{' :: '{' :: rest) = .error (.unterminated whole) :=
  interpolate_of_unclosed (cut_append clear rest) (cut_eq_none_iff.mpr h)

theorem interpolate_piece (piece : Piece) (rest : List Char) :
    interpolate whole item index (piece.source ++ rest) = do
      let value ← piece.value item index
      let tail ← interpolate whole item index rest
      return piece.fill value ++ tail := by
  rw [piece.source_append]
  exact interpolate_of_cut (cut_append piece.clear _) (cut_append piece.closed _)

/-- Pieces whose references all stand for something are filled, and the rest goes on from there. -/
theorem interpolate_filled {pieces : List Piece} {values : List Json}
    (h : Filled item index pieces values) :
    interpolate whole item index (pieces.flatMap Piece.source ++ rest) =
      (fillAll pieces values ++ ·) <$> interpolate whole item index rest := by
  induction h with
  | nil =>
    rw [List.flatMap_nil, List.nil_append]
    cases interpolate whole item index rest <;> rfl
  | @cons piece value pieces values hv _ ih =>
    rw [List.flatMap_cons, List.append_assoc, interpolate_piece, hv, ih]
    cases interpolate whole item index rest with
    | error e => rfl
    | ok tail => simp [fillAll, bind, Except.bind, pure, Except.pure]

theorem interpolate_firstError {pieces : List Piece} {e : Error}
    (h : FirstError item index pieces e) :
    interpolate whole item index (pieces.flatMap Piece.source ++ rest) = .error e := by
  obtain ⟨before, piece, after, rfl, ⟨values, hfilled⟩, he⟩ := h
  rw [List.flatMap_append, List.append_assoc, interpolate_filled hfilled, List.flatMap_cons,
    List.append_assoc, interpolate_piece, he]
  rfl

end Interpolate

/-- Every text is pieces up to a last text without a placeholder, or up to a placeholder that is
never closed. -/
theorem pieces_or_unclosed (s : List Char) :
    (∃ (pieces : List Piece) (last : List Char),
      s = pieces.flatMap Piece.source ++ last ∧ ¬['{', '{'] <:+: last) ∨
    ∃ (pieces : List Piece) (last rest : List Char),
      s = pieces.flatMap Piece.source ++ (last ++ '{' :: '{' :: rest) ∧
        Clear '{' last ∧ ¬['}', '}'] <:+: rest := by
  match ho : cut '{' s with
  | none => exact .inl ⟨[], s, rfl, cut_eq_none_iff.mp ho⟩
  | some (before, opened) =>
    obtain ⟨hs, clear⟩ := eq_append_of_cut ho
    match hc : cut '}' opened with
    | none => exact .inr ⟨[], before, opened, hs, clear, cut_eq_none_iff.mp hc⟩
    | some (reference, after) =>
      obtain ⟨hr, closed⟩ := eq_append_of_cut hc
      let piece : Piece := ⟨before, reference, clear, closed⟩
      have hpiece : s = piece.source ++ after := by rw [hs, hr, piece.source_append]
      have shorter : after.length < s.length := by
        have := cut_length ho
        have := cut_length hc
        omega
      obtain ⟨pieces, last, hafter, h⟩ | ⟨pieces, last, rest, hafter, h⟩ := pieces_or_unclosed after
      · exact .inl ⟨piece :: pieces, last, by simp [hpiece, hafter], h⟩
      · exact .inr ⟨piece :: pieces, last, rest, by simp [hpiece, hafter], h⟩
termination_by s.length

section OnlyPlaceholder

variable {s t inner : List Char}

theorem trimLeft_eq_append (s : List Char) :
    ∃ front, s = front ++ Text.trimLeft s ∧ ∀ c ∈ front, Text.isBlank c :=
  ⟨s.takeWhile Text.isBlank, List.takeWhile_append_dropWhile.symm,
    List.all_eq_true.mp List.all_takeWhile⟩

theorem trim_eq_append (s : List Char) :
    ∃ front back, s = front ++ Text.trim s ++ back ∧
      (∀ c ∈ front, Text.isBlank c) ∧ ∀ c ∈ back, Text.isBlank c := by
  obtain ⟨front, hs, hfront⟩ := trimLeft_eq_append s
  obtain ⟨back, hr, hback⟩ := trimLeft_eq_append (Text.trimLeft s).reverse
  refine ⟨front, back.reverse, ?_, hfront, by simpa using hback⟩
  have ht : Text.trimLeft s = Text.trim s ++ back.reverse := by
    rw [← List.reverse_reverse (Text.trimLeft s), hr, List.reverse_append]
    rfl
  rw [List.append_assoc, ← ht]
  exact hs

theorem onlyPlaceholder_eq_some_iff {reference : List Char} :
    onlyPlaceholder t = some reference ↔
      ∃ inner, t = '{' :: '{' :: (inner ++ ['}', '}']) ∧ ¬['{', '{'] <:+: inner ∧
        ¬['}', '}'] <:+: inner ∧ reference = Text.trim inner := by
  constructor
  · intro h
    unfold onlyPlaceholder at h
    split at h
    next opened =>
      split at h
      next reversed hr =>
        dsimp only at h
        split at h
        · cases h
        next hnone =>
          cases h
          rw [Bool.or_eq_true, Option.isSome_iff_ne_none, Option.isSome_iff_ne_none, not_or,
            not_not, not_not, cut_eq_none_iff, cut_eq_none_iff] at hnone
          refine ⟨reversed.reverse, ?_, hnone.1, hnone.2, rfl⟩
          rw [← List.reverse_reverse opened, hr]
          simp
      · cases h
    · cases h
  · rintro ⟨inner, rfl, hopen, hclose, rfl⟩
    simp [onlyPlaceholder, cut_eq_none_iff.mpr hopen, cut_eq_none_iff.mpr hclose]

theorem evaluate_of_not_only {source : String} (item : Json) (index : Nat)
    (h : onlyPlaceholder (Text.trim source.toList) = none) :
    evaluate source item index =
      (fun text => .str (String.ofList text)) <$> interpolate source item index source.toList := by
  rw [evaluate, h]

/-- A text with a placeholder that is never closed is not a single placeholder. -/
theorem onlyPlaceholder_unclosed {pieces : List Piece} {last rest : List Char}
    (clear : Clear '{' last) (h : ¬['}', '}'] <:+: rest) :
    onlyPlaceholder (Text.trim (pieces.flatMap Piece.source ++ (last ++ '{' :: '{' :: rest))) =
      none := by
  generalize hs : pieces.flatMap Piece.source ++ (last ++ '{' :: '{' :: rest) = s
  rw [Option.eq_none_iff_forall_ne_some]
  intro reference hp
  obtain ⟨front, back, hsplit, hfront, hback⟩ := trim_eq_append s
  obtain ⟨inner, ht, hinner, -, -⟩ := onlyPlaceholder_eq_some_iff.mp hp
  have notBlank : ∀ {t : List Char}, (∀ c ∈ t, Text.isBlank c) → '{' ∉ t :=
    fun ht hm => absurd (ht _ hm) (by decide)
  have hopen : Clear '{' front :=
    ⟨fun hi => notBlank hfront (hi.subset List.mem_cons_self),
      fun hl => notBlank hfront (List.mem_of_getLast? hl)⟩
  -- The placeholder opened first is the only one that is opened.
  have hcut : cut '{' s = some (front, inner ++ ('}' :: '}' :: back)) := by
    rw [hsplit, ht]
    simpa using cut_append hopen (inner ++ '}' :: '}' :: back)
  have honce : ¬['{', '{'] <:+: inner ++ ('}' :: '}' :: back) :=
    not_doubled_append hinner (by simpa using notBlank hback)
  cases pieces with
  | nil =>
    rw [← hs, List.flatMap_nil, List.nil_append, cut_append clear] at hcut
    obtain ⟨rfl, rfl⟩ := Prod.mk.inj (Option.some.inj hcut)
    exact h ⟨inner, back, by simp⟩
  | cons piece pieces =>
    rw [← hs, List.flatMap_cons, List.append_assoc, piece.source_append,
      cut_append piece.clear] at hcut
    obtain ⟨-, hrest⟩ := Prod.mk.inj (Option.some.inj hcut)
    rw [← hrest] at honce
    exact honce ⟨piece.reference ++ '}' :: '}' :: (pieces.flatMap Piece.source ++ last), rest,
      by simp⟩

end OnlyPlaceholder

/-- A text that ends in an opening brace is as good as one that does not: its last brace then
stands behind the placeholder it opens. -/
theorem exists_clear {last rest : List Char} (hl : ¬['{', '{'] <:+: last)
    (hr : ¬['}', '}'] <:+: rest) :
    ∃ before rest', last ++ '{' :: '{' :: rest = before ++ '{' :: '{' :: rest' ∧
      Clear '{' before ∧ ¬['}', '}'] <:+: rest' := by
  by_cases hlast : last.getLast? = some '{'
  · obtain ⟨before, rfl⟩ := List.getLast?_eq_some_iff.mp hlast
    refine ⟨before, '{' :: rest, by simp, ⟨fun hi => hl ?_, fun he => hl ?_⟩, ?_⟩
    · exact hi.trans (List.prefix_append _ _).isInfix
    · obtain ⟨front, rfl⟩ := List.getLast?_eq_some_iff.mp he
      exact ⟨front, [], by simp⟩
    · rw [List.infix_cons_iff, not_or]
      exact ⟨by simp [List.cons_prefix_cons], hr⟩
  · exact ⟨last, rest, rfl, ⟨hl, hlast⟩, hr⟩

/-- An expression is text in which the references stand in double braces. If it is not a single
placeholder, what its references stand for takes their places and is not read again, and the first
that stands for nothing is its error. What is not so written has, behind such a text, a placeholder
that is never closed, and that is its error unless a reference before it has one. -/
theorem fills_placeholders (source : String) (item : Json) (index : Nat) :
    (∀ pieces last, source.toList = pieces.flatMap Piece.source ++ last → ¬['{', '{'] <:+: last →
      onlyPlaceholder (Text.trim source.toList) = none →
        (∀ values, Filled item index pieces values →
          (Parameter.expression source).resolve item index =
            .ok (.str (String.ofList (fillAll pieces values ++ last)))) ∧
        ∀ e, FirstError item index pieces e →
          (Parameter.expression source).resolve item index = .error (.expression e.message)) ∧
    (∀ pieces last rest,
      source.toList = pieces.flatMap Piece.source ++ (last ++ '{' :: '{' :: rest) →
      ¬['{', '{'] <:+: last → ¬['}', '}'] <:+: rest →
        (∀ values, Filled item index pieces values →
          (Parameter.expression source).resolve item index =
            .error (.expression (Error.unterminated source).message)) ∧
        ∀ e, FirstError item index pieces e →
          (Parameter.expression source).resolve item index = .error (.expression e.message)) ∧
    ∃ pieces,
      ((∃ values, Filled item index pieces values) ∨ ∃ e, FirstError item index pieces e) ∧
      ((∃ last, source.toList = pieces.flatMap Piece.source ++ last ∧ ¬['{', '{'] <:+: last) ∨
        ∃ last rest, source.toList = pieces.flatMap Piece.source ++ (last ++ '{' :: '{' :: rest) ∧
          ¬['{', '{'] <:+: last ∧ ¬['}', '}'] <:+: rest) := by
  refine ⟨fun pieces last hs hlast hnone => ?_, fun pieces last rest hs hlast hrest => ?_, ?_⟩
  · have heval := evaluate_of_not_only item index hnone
    refine ⟨fun values hv => ?_, fun e he => ?_⟩
    · rw [Parameter.resolve, heval, hs, interpolate_filled hv, interpolate_plain hlast]
      rfl
    · rw [Parameter.resolve, heval, hs, interpolate_firstError he]
      rfl
  · obtain ⟨before, rest', hopen, clear, hrest⟩ := exists_clear hlast hrest
    rw [hopen] at hs
    have heval := evaluate_of_not_only item index (hs ▸ onlyPlaceholder_unclosed clear hrest)
    refine ⟨fun values hv => ?_, fun e he => ?_⟩
    · rw [Parameter.resolve, heval, hs, interpolate_filled hv, interpolate_unclosed clear hrest]
      rfl
    · rw [Parameter.resolve, heval, hs, interpolate_firstError he]
      rfl
  · obtain ⟨pieces, last, h⟩ | ⟨pieces, last, rest, hs, clear, hrest⟩ :=
      pieces_or_unclosed source.toList
    · exact ⟨pieces, filled_or_firstError item index pieces, .inl ⟨last, h⟩⟩
    · exact ⟨pieces, filled_or_firstError item index pieces,
        .inr ⟨last, rest, hs, clear.inside, hrest⟩⟩

theorem fills_placeholders_inert :
    (Parameter.expression "a \x7b\x7b$json.x\x7d\x7d #\x7b\x7b $index \x7d\x7d!").resolve
        (.obj [("x", .str "\x7b\x7b$index\x7d\x7d")]) 7 =
      .ok (.str "a \x7b\x7b$index\x7d\x7d #7!") ∧
    (Parameter.expression "\x7b\x7b $index \x7d\x7d\x7b\x7b\x7b").resolve .null 7 =
      .error (.expression (Error.unterminated "\x7b\x7b $index \x7d\x7d\x7b\x7b\x7b").message) := by
  let first : Piece := ⟨"a ".toList, "$json.x".toList, ⟨by decide, by decide⟩, by decide, by decide⟩
  let second : Piece := ⟨" #".toList, " $index ".toList, ⟨by decide, by decide⟩, by decide, by decide⟩
  let lone : Piece := ⟨[], " $index ".toList, .nil _, by decide, by decide⟩
  constructor
  · exact ((fills_placeholders _ _ _).1 [first, second] ['!'] (by decide) (by decide)
      (by decide)).1 [.str "\x7b\x7b$index\x7d\x7d", .nat 7] (.cons rfl (.cons rfl .nil))
  · exact ((fills_placeholders _ _ _).2.1 [lone] [] ['{'] (by decide) (by decide) (by decide)).1
      [.nat 7] (.cons rfl .nil)

end Conveyor.Expression
