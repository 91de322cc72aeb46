import RayScene.Json.Reader

namespace RayScene.Json

open Cursor (charOf isBlank)

def solids (text : List UInt8) : List UInt8 := text.filter fun byte => !isBlank byte

theorem solids_blank {b : UInt8} (blank : isBlank b = true) (text : List UInt8) :
    solids (b :: text) = solids text := by
  simp [solids, blank]

theorem solids_solid {b : UInt8} (solid : isBlank b = false) (text : List UInt8) :
    solids (b :: text) = b :: solids text := by
  simp [solids, solid]

theorem solids_append (first second : List UInt8) :
    solids (first ++ second) = solids first ++ solids second := List.filter_append ..

theorem solids_eq_nil {text : List UInt8} : solids text = [] ↔ ∀ b ∈ text, isBlank b = true := by
  simp [solids]

theorem solids_dropWhile (text : List UInt8) : solids (text.dropWhile isBlank) = solids text := by
  induction text with
  | nil => rfl
  | cons b text ih =>
      cases blank : isBlank b with
      | true => simp [blank, solids_blank, ih]
      | false => simp [blank]

theorem solids_length_le {first second : List UInt8} (shorter : first <:+ second) :
    (solids first).length ≤ (solids second).length := (shorter.filter _).length_le

def lineEnds : List Char := ['\n', '\r']

theorem mem_lineEnds {ch : Char} : ch ∈ lineEnds ↔ ch = '\n' ∨ ch = '\r' := by
  simp [lineEnds]

theorem charOf_toNat (b : UInt8) : (charOf b).toNat = b.toNat := by
  have valid : b.toNat.isValidChar := .inl (Nat.lt_trans b.toNat_lt (by decide))
  rw [charOf, Char.ofNat, dif_pos valid]
  rfl

theorem control_of_lineEnd {b : UInt8} (ends : charOf b ∈ lineEnds) : b < 0x20 := by
  have control : ∀ c ∈ lineEnds, c.toNat < 32 := by simp [lineEnds]
  have small := control _ ends
  rw [charOf_toNat] at small
  exact UInt8.lt_iff_toNat_lt.mpr small

def IsGap : List UInt8 → Prop
  | [] => False
  | b :: blanks => charOf b ∈ lineEnds ∧ ∀ blank ∈ blanks, isBlank blank = true

inductive Laid (tail : List UInt8) : List UInt8 → List UInt8 → Prop where
  | done {text' : List UInt8} (ends : solids text' = tail) : Laid tail [] text'
  | same {text text' : List UInt8} (b : UInt8) (rest : Laid tail text text') :
      Laid tail (b :: text) (b :: text')
  | gap {gap gap' text text' : List UInt8} (first : IsGap gap) (second : IsGap gap')
      (rest : Laid tail text text') : Laid tail (gap ++ text) (gap' ++ text')

theorem isBlank_of_lineEnd {b : UInt8} (ends : charOf b ∈ lineEnds) : isBlank b = true := by
  have blank : ∀ c ∈ lineEnds, [' ', '\n', '\t', '\r'].contains c = true := by
    simp [lineEnds]
  exact blank _ ends

theorem IsGap.blank {gap : List UInt8} (isGap : IsGap gap) : ∀ b ∈ gap, isBlank b = true := by
  cases gap with
  | nil => cases isGap
  | cons b blanks => exact List.forall_mem_cons.mpr ⟨isBlank_of_lineEnd isGap.1, isGap.2⟩

variable {tail text text' : List UInt8}

theorem IsGap.solids_append {gap : List UInt8} (isGap : IsGap gap) (text : List UInt8) :
    solids (gap ++ text) = solids text := by
  rw [Json.solids_append, solids_eq_nil.mpr isGap.blank, List.nil_append]

theorem IsGap.dropWhile_append {gap : List UInt8} (isGap : IsGap gap) (text : List UInt8) :
    (gap ++ text).dropWhile isBlank = text.dropWhile isBlank := by
  rw [List.dropWhile_append_of_pos isGap.blank]

theorem Laid.solids_eq (laid : Laid tail text text') : solids text' = solids text ++ tail := by
  induction laid with
  | done ends => exact ends
  | same b rest ih =>
      cases blank : isBlank b with
      | true => rw [solids_blank blank, solids_blank blank, ih]
      | false => rw [solids_solid blank, solids_solid blank, ih, List.cons_append]
  | gap first second rest ih => rw [first.solids_append, second.solids_append, ih]

theorem Laid.append (text rest : List UInt8) : Laid (solids rest) text (text ++ rest) := by
  induction text with
  | nil => exact .done rfl
  | cons b text ih => exact .same b ih

theorem Laid.prepend (same : List UInt8)
    (laid : Laid tail text text') : Laid tail (same ++ text) (same ++ text') := by
  induction same with
  | nil => exact laid
  | cons b same ih => exact .same b ih

theorem Laid.solid (laid : Laid tail text text') (inside : tail.length < (solids text').length) :
    ∃ b rest rest', text.dropWhile isBlank = b :: rest ∧ text'.dropWhile isBlank = b :: rest' ∧
      isBlank b = false ∧ Laid tail rest rest' := by
  induction laid with
  | done ends =>
      rw [ends] at inside
      exact absurd inside (Nat.lt_irrefl _)
  | @same text text' b rest ih =>
      cases blank : isBlank b with
      | true =>
          rw [solids_blank blank] at inside
          simpa [blank] using ih inside
      | false => exact ⟨b, text, text', by simp [blank], by simp [blank], blank, rest⟩
  | gap first second rest ih =>
      rw [second.solids_append] at inside
      rw [first.dropWhile_append, second.dropWhile_append]
      exact ih inside

theorem Laid.uncons {rest' : List UInt8} {b : UInt8} (laid : Laid tail text (b :: rest'))
    (solid : charOf b ∉ lineEnds) (inside : tail.length < (solids (b :: rest')).length) :
    ∃ rest, text = b :: rest ∧ Laid tail rest rest' := by
  generalize here : b :: rest' = text' at laid inside
  cases laid with
  | done ends =>
      rw [ends] at inside
      exact absurd inside (Nat.lt_irrefl _)
  | @same text text' c rest =>
      cases here
      exact ⟨text, rfl, rest⟩
  | @gap gap gap' text text' first second rest =>
      cases gap' with
      | nil => cases second
      | cons c blanks =>
          cases here
          exact absurd second.1 solid

theorem Laid.append_left {digits rest' : List UInt8} (laid : Laid tail text (digits ++ rest'))
    (solid : ∀ b ∈ digits, charOf b ∉ lineEnds) (inside : tail.length < (solids rest').length) :
    ∃ rest, text = digits ++ rest ∧ Laid tail rest rest' := by
  induction digits generalizing text with
  | nil => exact ⟨text, rfl, laid⟩
  | cons b digits ih =>
      have ⟨own, others⟩ := List.forall_mem_cons.mp solid
      have before : tail.length < (solids (b :: (digits ++ rest'))).length :=
        Nat.lt_of_lt_of_le inside (solids_length_le ⟨b :: digits, rfl⟩)
      obtain ⟨more, rfl, laid'⟩ := Laid.uncons laid own before
      obtain ⟨rest, rfl, behind⟩ := ih laid' others
      exact ⟨rest, rfl, behind⟩

end RayScene.Json
