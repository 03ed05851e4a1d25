import Conveyor.Json.Reader
import Conveyor.Proofs.Finite
import Conveyor.Proofs.Values

namespace Conveyor

/-- Whether it has a place among the reals. -/
def Number.Finite (n : Number) : Prop := n.toFloat.isFinite = true

namespace Tree

variable {bytes rest : List UInt8} {tree : Tree} {fuel : Nat}

/-- What a spelled number comes to. -/
def ofNumeral (spelled : Numeral × List UInt8) : Tree × List UInt8 :=
  (.num spelled.1.value?, spelled.2)

theorem number_minus (bytes : List UInt8) :
    number (0x2d :: bytes) = (numeral true bytes).map ofNumeral := by
  simp only [number]
  cases numeral true bytes <;> rfl

theorem number_of_ne (h : bytes.head? ≠ some 0x2d) :
    number bytes = (numeral false bytes).map ofNumeral := by
  unfold number
  split
  · cases h rfl
  · cases numeral false bytes <;> rfl

theorem number_holds (h : number bytes = some (tree, rest)) : tree.Holds Number.Finite := by
  obtain ⟨negative, spelled, hspelled⟩ :
      ∃ negative spelled, number bytes = (numeral negative spelled).map ofNumeral := by
    by_cases hminus : bytes.head? = some 0x2d
    · obtain ⟨left, rfl⟩ := List.head?_eq_some_iff.mp hminus
      exact ⟨true, left, number_minus left⟩
    · exact ⟨false, bytes, number_of_ne hminus⟩
  rw [hspelled] at h
  obtain ⟨found, -, h⟩ := Option.map_eq_some_iff.mp h
  cases h
  exact .num fun n hn => Numeral.isFinite_of_value hn

/-- With so much fuel, whatever is read holds finite numbers. -/
structure ReadsFinite (fuel : Nat) : Prop where
  value : ∀ {bytes tree rest}, Tree.value fuel bytes = some (tree, rest) → tree.Holds Number.Finite
  items : ∀ {bytes found rest}, Tree.items fuel bytes = some (found, rest) →
    ∀ tree ∈ found, tree.Holds Number.Finite
  members : ∀ {bytes found rest}, Tree.members fuel bytes = some (found, rest) →
    ∀ field ∈ found, field.2.Holds Number.Finite

namespace ReadsFinite

variable (reads : ReadsFinite fuel)
include reads

theorem value_succ (h : Tree.value (fuel + 1) bytes = some (tree, rest)) :
    tree.Holds Number.Finite := by
  rw [Tree.value] at h
  split at h
  · cases h
    exact .null
  · cases h
    exact .bool true
  · cases h
    exact .bool false
  · obtain ⟨⟨text, left⟩, -, h⟩ := Option.bind_eq_some_iff.mp h
    cases h
    exact .str _
  · split at h
    · cases h
      exact .arr nofun
    · obtain ⟨⟨found, left⟩, hfound, h⟩ := Option.bind_eq_some_iff.mp h
      cases h
      exact .arr (reads.items hfound)
  · split at h
    · cases h
      exact .obj nofun
    · obtain ⟨⟨found, left⟩, hfound, h⟩ := Option.bind_eq_some_iff.mp h
      cases h
      exact .obj (reads.members hfound)
  · exact number_holds h

theorem items_succ {found : List Tree} (h : Tree.items (fuel + 1) bytes = some (found, rest)) :
    ∀ tree ∈ found, tree.Holds Number.Finite := by
  rw [Tree.items] at h
  obtain ⟨⟨first, left⟩, hfirst, h⟩ := Option.bind_eq_some_iff.mp h
  simp only at h
  split at h
  · obtain ⟨⟨others, last⟩, hothers, h⟩ := Option.bind_eq_some_iff.mp h
    cases h
    exact List.forall_mem_cons.mpr ⟨reads.value hfirst, reads.items hothers⟩
  · cases h
    exact List.forall_mem_singleton.mpr (reads.value hfirst)
  · cases h

theorem members_succ {found : List (Option String × Tree)}
    (h : Tree.members (fuel + 1) bytes = some (found, rest)) :
    ∀ field ∈ found, field.2.Holds Number.Finite := by
  rw [Tree.members] at h
  split at h
  · obtain ⟨⟨name, left⟩, -, h⟩ := Option.bind_eq_some_iff.mp h
    simp only at h
    split at h
    · obtain ⟨⟨first, left⟩, hfirst, h⟩ := Option.bind_eq_some_iff.mp h
      simp only at h
      split at h
      · obtain ⟨⟨others, last⟩, hothers, h⟩ := Option.bind_eq_some_iff.mp h
        cases h
        exact List.forall_mem_cons.mpr ⟨reads.value hfirst, reads.members hothers⟩
      · cases h
        exact List.forall_mem_singleton.mpr (reads.value hfirst)
      · cases h
    · cases h
  · cases h

end ReadsFinite

theorem readsFinite (fuel : Nat) : ReadsFinite fuel := by
  induction fuel with
  | zero => exact ⟨nofun, nofun, nofun⟩
  | succ fuel ih => exact ⟨ih.value_succ, ih.items_succ, ih.members_succ⟩

theorem ofBytes?_holds (h : ofBytes? bytes = some tree) : tree.Holds Number.Finite := by
  obtain ⟨⟨found, left⟩, hfound, h⟩ := Option.bind_eq_some_iff.mp h
  simp only at h
  split at h
  · cases h
    exact (readsFinite _).value hfound
  · cases h

end Tree
end Conveyor
