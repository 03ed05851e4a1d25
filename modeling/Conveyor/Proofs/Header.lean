import Conveyor.Payment.Document
import Conveyor.Proofs.Base64
import Conveyor.Proofs.Spelling

namespace Conveyor.Payment.Proof
open Text

/-- A payment as a wallet may sign it: its payload is a value that can be read, nested no deeper
than a text may be. -/
structure Portable (proof : Proof) : Prop where
  version : proof.version < 2 ^ 32
  payload : proof.payload.Regular Number.Survives
  depth : proof.payload.depth ≤ 126

variable {proof : Proof}

/-- The fields in the order in which they are written. -/
def fields (proof : Proof) : List (String × Json) :=
  [("x402Version", .nat proof.version), ("scheme", .str proof.scheme),
    ("network", .str proof.network), ("payload", proof.payload)]

theorem Portable.regained (h : proof.Portable) : Tree.Regained (.obj proof.fields) := by
  have hversion : (Json.nat proof.version).Regular Number.Survives :=
    .num ⟨by have := h.version; omega, by have := h.version; omega⟩
  refine Tree.regained_obj fun field hm => ?_
  simp only [fields, List.mem_cons, List.not_mem_nil, or_false] at hm
  rcases hm with rfl | rfl | rfl | rfl
  · exact Tree.regained hversion
  · exact Tree.regained (.str _)
  · exact Tree.regained (.str _)
  · exact Tree.regained h.payload

theorem Portable.ofTree? (h : proof.Portable) :
    Proof.ofTree? Tree.textLevels (Tree.ofJson (.obj proof.fields)) = some proof := by
  have hpayload : (Tree.ofJson proof.payload).toJson? (some 126) = some proof.payload :=
    Tree.toJson?_ofJson h.payload h.depth
  rw [Proof.ofTree?, Tree.slots?_obj (by simp [fields, Table.names])]
  simp only [Tree.textLevels, Tree.enter, List.map_cons, List.map_nil, Option.bind_eq_bind,
    Option.bind_some]
  simp [fields, Table.get?, Json.nat, Tree.ofJson, Tree.string?, Tree.unsigned?_int 32 h.version,
    hpayload]

/-- A payment that was put in a header is read from it again. -/
theorem Portable.ofHeader_toHeader (h : proof.Portable) : ofHeader proof.toHeader = .ok proof := by
  have hbytes : Tree.ofBytes? (Utf8.encode proof.text) = some (Tree.ofJson (.obj proof.fields)) :=
    Tree.ofBytes?_spelled h.regained
  simp only [ofHeader, toHeader, String.toList_ofList, Base64.decode?_encode, hbytes,
    Option.bind_some, h.ofTree?]

/-- So no two payments share a header. -/
theorem header_faithful (h : proof.Portable) :
    ofHeader proof.toHeader = .ok proof ∧
      ∀ other : Proof, other.Portable → other.toHeader = proof.toHeader → other = proof := by
  refine ⟨h.ofHeader_toHeader, fun other hother heq => ?_⟩
  have hread := hother.ofHeader_toHeader
  rw [heq, h.ofHeader_toHeader] at hread
  exact (Except.ok.inj hread).symm

/-- A payment with something of every kind in it. -/
def motley : Proof where
  version := 1
  scheme := "exact"
  network := "sol\"ana\n\x01é"
  payload := .obj
    [("amount", .num (.real 2.5)), ("signatures", .arr [.num (.int (-7)), .str "AQAB", .null])]

theorem motley_amount_readsBack : (Number.real 2.5).ReadsBack := by
  have hspelled : Utf8.encode (Number.real 2.5).text = [0x32, 0x2e, 0x35] := by decide +kernel
  have hvalue : Numeral.value? ⟨false, [2], some [5], none⟩ = some (.real 2.5) := by decide +kernel
  rw [Number.ReadsBack, hspelled, Tree.number_of_ne (by decide)]
  show some (Tree.num (Numeral.value? ⟨false, [2], some [5], none⟩), []) = _
  rw [hvalue]

theorem motley_portable : motley.Portable where
  version := by decide
  payload := by
    refine .obj ⟨by decide, by decide, trivial⟩ fun field hm => ?_
    simp only [List.mem_cons, List.not_mem_nil, or_false] at hm
    rcases hm with rfl | rfl
    · exact .num motley_amount_readsBack
    · refine .arr fun item hm => ?_
      simp only [List.mem_cons, List.not_mem_nil, or_false] at hm
      rcases hm with rfl | rfl | rfl
      · exact .num ⟨by decide, by decide⟩
      · exact .str _
      · exact .null
  depth := by decide

theorem header_faithful_motley :
    ofHeader motley.toHeader = .ok motley ∧
      ∀ other : Proof, other.Portable → other.toHeader = motley.toHeader → other = motley :=
  header_faithful motley_portable

end Conveyor.Payment.Proof
