import RayScene.Proofs.Json.Places
import RayScene.Proofs.SceneFile.Envelope

/-!
Where errors are placed. The envelope is taken back from every place, so that an error stands in
one of the author's lines; but a text that is cut short is read on into the end of the envelope,
and its error stands behind the last line.
-/

namespace RayScene.SceneFile

open Json
open Cursor (charOf isBlank Leads)

theorem camera_walks {levels : Nat} :
    ∀ field ∈ (camera levels).fields, ∀ draft, Walks (field.read draft) := by
  have vector := vector_walks levels
  have single : Walks single := numberAs_walks _ _
  intro field member draft
  simp only [camera, List.mem_cons, List.not_mem_nil, or_false] at member
  rcases member with rfl | rfl | rfl | rfl | rfl | rfl | rfl
  · exact Field.of_walks _ _ _ vector draft
  · exact Field.of_walks _ _ _ vector draft
  · exact Field.of_walks _ _ _ vector draft
  · exact Field.of_walks _ _ _ single draft
  · exact Field.of_walks _ _ _ single draft
  · exact Field.of_walks _ _ _ single draft
  · exact Field.of_walks _ _ _ (optional_walks single) draft

theorem gradient_walks (levels : Nat) : Walks (gradient levels) := by
  refine (tuple_walks levels vector_walks _ _).bind fun colors => ?_
  split
  next => exact .pure _
  next => exact reject_walks _

theorem rendererSettings_walks {levels : Nat} :
    ∀ field ∈ (rendererSettings levels).fields, ∀ draft, Walks (field.read draft) := by
  intro field member draft
  simp only [rendererSettings, List.mem_cons, List.not_mem_nil, or_false] at member
  rcases member with rfl | rfl | rfl
  · exact Field.of_walks _ _ _ (optional_walks (choice_walks levels _)) draft
  · exact Field.of_walks _ _ _ (optional_walks (numberAs_walks _ _)) draft
  · exact Field.of_walks _ _ _ (optional_walks (gradient_walks levels)) draft

theorem exportOverrides_walks {levels : Nat} :
    ∀ field ∈ (exportOverrides levels).fields, ∀ draft, Walks (field.read draft) := by
  have corner := optional_walks (vector_walks levels)
  intro field member draft
  simp only [exportOverrides, List.mem_cons, List.not_mem_nil, or_false] at member
  rcases member with rfl | rfl | rfl
  · exact Field.of_walks _ _ _ (optional_walks (numberAs_walks _ _)) draft
  · exact Field.of_walks _ _ _ corner draft
  · exact Field.of_walks _ _ _ corner draft

theorem material_walks : Walks material := by
  refine string_walks.bind fun tag => ?_
  split
  next => exact .pure _
  next => exact reject_walks _

theorem color_walks (levels : Nat) : Walks (color levels) := by
  intro c
  have located := value_walks levels c
  unfold SceneFile.color
  cases read : value levels c with
  | ok v d =>
      rw [read] at located
      exact (ofExcept_walks _ d).from located
  | error failure d =>
      rw [read] at located
      exact ⟨located.1, nofun⟩

theorem objectMember_walks (levels : Nat) (draft : ObjectDraft) (key : String) :
    Walks (objectMember levels draft key) := by
  unfold objectMember
  split
  next =>
    split
    next => exact (reject_walks _).never (reject_never _)
    next => exact colon_walks.bind fun _ => material_walks.bind fun _ => .pure _
  next =>
    split
    next => exact (reject_walks _).never (reject_never _)
    next => exact colon_walks.bind fun _ => (color_walks levels).bind fun _ => .pure _
  next => exact colon_walks.bind fun _ => (value_walks levels).bind fun _ => .pure _

theorem object_walks (levels : Nat) : Walks (object levels) := by
  refine valueStart_walks.bind fun ch => ?_
  split
  next =>
    refine inObject_walks levels fun inner => ?_
    refine (members_walks (objectMember_walks inner) _).bind fun draft => ?_
    exact (ofExcept_walks _).bind fun _ => (ofExcept_walks _).bind fun _ => .pure _
  next => exact mistyped_walks _

theorem document_walks (levels : Nat) : Walks (Record.read document levels) := by
  refine Record.read_walks levels fun inner field member draft => ?_
  simp only [document, List.mem_cons, List.not_mem_nil, or_false] at member
  rcases member with rfl | rfl | rfl | rfl
  · exact Field.of_walks _ _ _ (list_walks inner object_walks) draft
  · exact Field.of_walks _ _ _
      (optional_walks (Record.read_walks inner fun _ => camera_walks)) draft
  · exact Field.of_walks _ _ _
      (optional_walks (Record.read_walks inner fun _ => rendererSettings_walks)) draft
  · exact Field.of_walks _ _ _
      (optional_walks (Record.read_walks inner fun _ => exportOverrides_walks)) draft

theorem envelope_walks (levels : Nat) :
    ∀ field ∈ (envelope levels).fields, ∀ draft, Walks (field.read draft) := by
  intro field member draft
  obtain rfl := List.mem_singleton.mp member
  exact Field.of_walks _ _ _ (document_walks levels) draft

theorem endOfText_walks {α : Type} (v : α) : Walks (endOfText v) := by
  refine peekSolid_walks.bind fun ch => ?_
  split
  next => exact .pure v
  next => exact failNext_walks _

theorem colon_scene (rest : List UInt8) :
    colon ⟨[58] ++ rest, 2, 7⟩ = .ok () ⟨rest, 2, 8⟩ := rfl

/-- The head of an envelope is read without a fault. -/
theorem wrapped_located (body : List UInt8) :
    Located ⟨body, 3, 0⟩ ((Record.read envelope maxLevels >>= endOfText)
      (Cursor.start (envelopeHead ++ body))) := by
  have own : Located ⟨body, 3, 0⟩
      ((envelope 126).member none "scene" ⟨[58] ++ newline :: body, 2, 7⟩) := by
    have same : (Cursor.mk (newline :: body) 2 8).solid = (Cursor.mk body 3 0).solid := rfl
    rw [member_scene]
    refine .behind (colon_scene _) ?_
    rw [map_eq_pure_bind]
    refine Located.bind ?_ fun _ => .pure _
    rw [read_solid document 126 same]
    exact document_walks 126 _
  have gathered (count : Nat) : Located ⟨body, 3, 0⟩
      (membersFrom (envelope 126).member (count + 1) true none
        ⟨[10, 34, 115, 99, 101, 110, 101, 34] ++ ([58] ++ newline :: body), 1, 1⟩) :=
    .behind (nextKey_scene _) (own.bind fun draft =>
      membersFrom_walks (Record.member_walks (envelope_walks 126)) _ _ draft)
  refine Located.bind ?_ endOfText_walks
  rw [envelopeHead_eq]
  refine Eq.subst (read_envelope_open _).symm ?_
  refine .placed (.closedBy closeObject_walks ?_)
  exact Located.bind (gathered _) fun _ => ofExcept_walks _

theorem leads_end {line column : Nat} {d : Cursor} (leads : Leads ⟨[], line, column⟩ d) :
    d = ⟨[], line, column⟩ := by
  generalize start : Cursor.mk [] line column = c at leads
  induction leads with
  | here => rfl
  | step _ ih =>
      subst start
      exact ih rfl

theorem leads_line {line : List UInt8} (one : ∀ b ∈ line, charOf b ≠ '\n') {rest : List UInt8}
    {n column : Nat} {d : Cursor} (leads : Leads ⟨line ++ newline :: rest, n, column⟩ d) :
    d.line = n ∧ d.column ≤ column + line.length ∨ Leads ⟨rest, n + 1, 0⟩ d := by
  induction line generalizing column with
  | nil =>
      cases leads with
      | here => exact .inl ⟨rfl, Nat.le_refl _⟩
      | step further => exact .inr further
  | cons b line ih =>
      have ⟨own, others⟩ := List.forall_mem_cons.mp one
      cases leads with
      | here => exact .inl ⟨rfl, Nat.le_add_right _ _⟩
      | step further =>
          have advanced : Cursor.advance ⟨b :: line ++ newline :: rest, n, column⟩ =
              ⟨line ++ newline :: rest, n, column + 1⟩ := by simp [Cursor.advance, Cursor.step, own]
          rw [advanced] at further
          rcases ih others further with ⟨here, within⟩ | behind
          · refine .inl ⟨here, Nat.le_trans within (Nat.le_of_eq ?_)⟩
            rw [List.length_cons]
            omega
          · exact .inr behind

theorem charOf_newline : charOf newline = '\n' := by decide

theorem solid_trimReturn {line : List UInt8} (one : ∀ b ∈ line, charOf b ≠ '\n') :
    ∀ b ∈ trimReturn line, charOf b ≠ '\n' := by
  unfold trimReturn
  split
  next => exact fun b member => one b ((List.dropLast_subset line) member)
  next => exact one

theorem linesFrom_solid {line : List UInt8} (one : ∀ b ∈ line, charOf b ≠ '\n')
    (text : List UInt8) : ∀ l ∈ linesFrom line text, ∀ b ∈ l, charOf b ≠ '\n' := by
  have turned : ∀ b ∈ line.reverse, charOf b ≠ '\n' := fun b member =>
    one b (List.mem_reverse.mp member)
  induction text generalizing line with
  | nil =>
      unfold linesFrom
      split
      next => exact List.forall_mem_nil _
      next => exact List.forall_mem_singleton.mpr turned
  | cons b text ih =>
      unfold linesFrom
      split
      next =>
        exact List.forall_mem_cons.mpr
          ⟨solid_trimReturn turned, ih (List.forall_mem_nil _) (List.forall_mem_nil _)⟩
      next other =>
        have own : charOf b ≠ '\n' := fun same =>
          other (charOf_injective (same.trans charOf_newline.symm))
        have begun : ∀ c ∈ b :: line, charOf c ≠ '\n' := List.forall_mem_cons.mpr ⟨own, one⟩
        exact ih begun fun c member => begun c (List.mem_reverse.mp member)

/-- Indented lines are as many lines, each two columns longer. -/
theorem leads_lines {own : List (List UInt8)} (one : ∀ l ∈ own, ∀ b ∈ l, charOf b ≠ '\n')
    {rest : List UInt8} {n : Nat} {d : Cursor}
    (leads : Leads ⟨own.flatMap indentLine ++ rest, n, 0⟩ d) :
    (∃ (i : Nat) (line : List UInt8), own[i]? = some line ∧ d.line = n + i ∧
        d.column ≤ line.length + envelopeOffset) ∨
      Leads ⟨rest, n + own.length, 0⟩ d := by
  induction own generalizing n with
  | nil => exact .inr leads
  | cons line own ih =>
      have ⟨first, others⟩ := List.forall_mem_cons.mp one
      have indented : ∀ b ∈ List.replicate envelopeOffset space ++ line, charOf b ≠ '\n' := by
        intro b member
        rcases List.mem_append.mp member with blank | member
        · rw [List.eq_of_mem_replicate blank]
          decide
        · exact first b member
      have split : (line :: own).flatMap indentLine ++ rest =
          (List.replicate envelopeOffset space ++ line) ++
            newline :: (own.flatMap indentLine ++ rest) := by
        simp [indentLine]
      rw [split] at leads
      rcases leads_line indented leads with ⟨here, within⟩ | behind
      · refine .inl ⟨0, line, rfl, here, Nat.le_trans within (Nat.le_of_eq ?_)⟩
        rw [List.length_append, List.length_replicate]
        omega
      · rcases ih others behind with ⟨i, found, same, here, within⟩ | behind
        · refine .inl ⟨i + 1, found, same, ?_, within⟩
          omega
        · refine .inr ?_
          rwa [List.length_cons, Nat.add_comm own.length, ← Nat.add_assoc]

theorem leads_tail {n : Nat} {d : Cursor} (leads : Leads ⟨envelopeTail, n, 0⟩ d) :
    (d.line = n ∨ d.line = n + 1) ∧ d.column ≤ 1 := by
  rw [envelopeTail_eq] at leads
  have one : ∀ b ∈ [closingBrace], charOf b ≠ '\n' := List.forall_mem_singleton.mpr (by decide)
  rcases leads_line one leads with ⟨here, within⟩ | behind
  · exact ⟨.inl here, within⟩
  · obtain rfl := leads_end behind
    exact ⟨.inr rfl, Nat.zero_le 1⟩

/-- Checks behind the parser give errors without a place. -/
theorem assemble_unlocated {document : Document} {e : SceneError}
    (failed : assemble document = .error e) : e.position = none := by
  have one {id : Nat} {entry : ObjectEntry} (failed : checkObject id entry = .error e) :
      e.position = none := by
    unfold checkObject at failed
    split at failed
    next =>
      cases failed
      rfl
    next =>
      split at failed
      next =>
        cases failed
        rfl
      next => cases failed
  have all {id : Nat} {entries : List ObjectEntry}
      (failed : checkObjects id entries = .error e) : e.position = none := by
    induction entries generalizing id with
    | nil => cases failed
    | cons entry entries ih =>
        rcases Outcome.bind_eq_error.mp failed with first | ⟨o, -, failed⟩
        · exact one first
        · rcases Outcome.bind_eq_error.mp failed with others | ⟨os, -, failed⟩
          · exact ih others
          · cases failed
  rcases Outcome.bind_eq_error.mp failed with checked | ⟨os, -, failed⟩
  · exact all checked
  · cases failed

theorem readText_error {α : Type} {reader : Nat → Reader α} {text : List UInt8}
    {failure : Failure} (failed : readText reader text = .error failure) :
    ∃ d, (reader maxLevels >>= endOfText) (Cursor.start text) = .error failure d := by
  unfold readText at failed
  dsimp only at failed
  split at failed
  next => cases failed
  next other d whole =>
    cases failed
    exact ⟨d, whole⟩

theorem readDocument_error {text : List UInt8} {e : SceneError}
    (failed : readDocument text = .error e) :
    ∃ failure, readText (Record.read envelope) (wrap text) = .error failure ∧
      SceneError.ofFailure failure = e := by
  unfold readDocument at failed
  split at failed
  next => cases failed
  next failure read => exact ⟨failure, read, Except.error.inj failed⟩

/-- A place that an error names is one in the author's lines or in the end of the envelope. -/
theorem compile_located {text : String} {e : SceneError} (failed : compile text = .error e)
    {place : Int × Int} (located : e.position = some place) :
    ∃ d : Cursor,
      Leads ⟨(lines text.toUTF8.toList).flatMap indentLine ++ envelopeTail, 3, 0⟩ d ∧
      place = ((d.line : Int) - envelopeOffset, max ((d.column : Int) - envelopeOffset) 0) := by
  rcases Outcome.bind_eq_error.mp failed with unread | ⟨document, -, unsound⟩
  · obtain ⟨failure, read, rfl⟩ := readDocument_error unread
    obtain ⟨d, read⟩ := readText_error read
    have walked :=
      wrapped_located ((lines text.toUTF8.toList).flatMap indentLine ++ envelopeTail)
    rw [wrap, List.append_assoc] at read
    rw [read] at walked
    obtain ⟨position, placed, rfl⟩ := Option.map_eq_some_iff.mp located
    obtain ⟨c, leads, rfl⟩ := walked.2 position placed
    exact ⟨c, leads, rfl⟩
  · rw [assemble_unlocated unsound] at located
    cases located

/--
An error with a place stands in a line of the text, at most at the end of it, unless its text is
cut short: then it stands in front of one of the two lines behind the last one.
-/
theorem located_error_places (text : String) (e : SceneError) (failed : compile text = .error e)
    (located : ¬ (e.row = -1 ∧ e.column = -1)) :
    (∃ (i : Nat) (line : List UInt8), (lines text.toUTF8.toList)[i]? = some line ∧ e.row = i + 1 ∧
        0 ≤ e.column ∧ e.column ≤ line.length) ∨
      (e.row = (lines text.toUTF8.toList).length + 1 ∨
        e.row = (lines text.toUTF8.toList).length + 2) ∧ e.column = 0 := by
  cases position : e.position with
  | none => simp [SceneError.row, SceneError.column, position] at located
  | some place =>
      obtain ⟨d, leads, rfl⟩ := compile_located failed position
      have row : e.row = (d.line : Int) - envelopeOffset := by simp [SceneError.row, position]
      have column : e.column = max ((d.column : Int) - envelopeOffset) 0 := by
        simp [SceneError.column, position]
      have one := linesFrom_solid (List.forall_mem_nil _) text.toUTF8.toList
      rw [row, column]
      unfold envelopeOffset
      rcases leads_lines one leads with ⟨i, line, found, here, within⟩ | behind
      · refine .inl ⟨i, line, found, ?_, ?_, ?_⟩ <;> unfold envelopeOffset at * <;> omega
      · obtain ⟨here, within⟩ := leads_tail behind
        refine .inr ⟨?_, ?_⟩
        · unfold lines
          omega
        · omega

def refusal? (text : String) : Option (Int × Int) :=
  match compile text with
  | .ok _ => none
  | .error e => some (e.row, e.column)

theorem refusal?_eq_some {text : String} {place : Int × Int}
    (refused : refusal? text = some place) :
    ∃ e, compile text = .error e ∧ e.row = place.1 ∧ e.column = place.2 := by
  unfold refusal? at refused
  split at refused
  next => cases refused
  next e failed =>
    obtain rfl := Option.some.inj refused
    exact ⟨e, failed, rfl, rfl⟩

def strayLetter : String := "\x7b\"objectList\": [\n] x\x7d"

theorem strayLetter_placed :
    ∃ e, compile strayLetter = .error e ∧ ¬ (e.row = -1 ∧ e.column = -1) ∧
      e.row = 2 ∧ e.column = 3 ∧
      ∃ line, (lines strayLetter.toUTF8.toList)[1]? = some line ∧ e.column ≤ line.length := by
  have refused : refusal? strayLetter = some (2, 3) := by decide +kernel
  have count : (lines strayLetter.toUTF8.toList).length = 2 := by decide +kernel
  obtain ⟨e, failed, row, column⟩ := refusal?_eq_some refused
  have located : ¬ (e.row = -1 ∧ e.column = -1) := by simp [row]
  refine ⟨e, failed, located, row, column, ?_⟩
  rcases located_error_places strayLetter e failed located with
    ⟨i, line, found, here, -, within⟩ | ⟨behind, -⟩
  · obtain rfl : i = 1 := by omega
    exact ⟨line, found, within⟩
  · omega

/-- One line that ends inside of a list. -/
def cutShort : String := "\x7b\"objectList\": ["

/-- The same line with the list closed, but not the object. -/
def openObject : String := "\x7b\"objectList\": []"

/-- Texts of one line, with errors in the second and in the third row. -/
theorem errors_behind_the_text :
    (∃ e, compile cutShort = .error e ∧ (lines cutShort.toUTF8.toList).length = 1 ∧
        e.row = 2 ∧ e.column = 0) ∧
      (∃ e, compile openObject = .error e ∧ (lines openObject.toUTF8.toList).length = 1 ∧
        e.row = 3 ∧ e.column = 0) ∧
      ¬ ∀ text e, compile text = .error e → ¬ (e.row = -1 ∧ e.column = -1) →
        1 ≤ e.row ∧ e.row ≤ max 1 (lines text.toUTF8.toList).length := by
  have refused : refusal? cutShort = some (2, 0) := by decide +kernel
  have further : refusal? openObject = some (3, 0) := by decide +kernel
  have one : (lines cutShort.toUTF8.toList).length = 1 := by decide +kernel
  have single : (lines openObject.toUTF8.toList).length = 1 := by decide +kernel
  obtain ⟨e, failed, row, column⟩ := refusal?_eq_some refused
  refine ⟨⟨e, failed, one, row, column⟩, ?_, fun within => ?_⟩
  · obtain ⟨e, failed, row, column⟩ := refusal?_eq_some further
    exact ⟨e, failed, single, row, column⟩
  · obtain ⟨-, small⟩ := within cutShort e failed (by simp [row])
    rw [one, row] at small
    exact absurd small (by decide)

end RayScene.SceneFile
