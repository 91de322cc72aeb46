import RayScene.Proofs.SceneFile.Places

/-!
Rows and columns of texts, before and after a text is put into its envelope. Every byte of the
author's lines stands two rows and two columns further on in the envelope, whatever ends the lines;
and the place of an error is moved back by as much.
-/

namespace RayScene.SceneFile

open Json
open Cursor (charOf Leads)

/-- What stands between the newlines of a text. -/
def rows (text : List UInt8) : List (List UInt8) := text.splitOn newline

def byteAt (rows : List (List UInt8)) : Nat → Nat → Option UInt8
  | row + 1, column + 1 => rows[row]?.bind (·[column]?)
  | _, _ => none

theorem rows_cons {row : List UInt8} (one : newline ∉ row) (rest : List UInt8) :
    rows (row ++ newline :: rest) = row :: rows rest :=
  List.splitOn_append_cons_self_of_not_mem one rest

theorem rows_single {row : List UInt8} (one : newline ∉ row) : rows row = [row] :=
  List.splitOn_eq_singleton one

theorem rows_ended {ended : List (List UInt8)} (one : ∀ row ∈ ended, newline ∉ row)
    (rest : List UInt8) : rows (ended.flatMap (· ++ [newline]) ++ rest) = ended ++ rows rest := by
  induction ended with
  | nil => rfl
  | cons row ended ih =>
      have ⟨own, others⟩ := List.forall_mem_cons.mp one
      calc
        rows ((row :: ended).flatMap (· ++ [newline]) ++ rest) =
            rows (row ++ newline :: (ended.flatMap (· ++ [newline]) ++ rest)) := by simp
        _ = row :: (ended ++ rows rest) := by rw [rows_cons own, ih others]

theorem rows_begun {row : List UInt8} (one : newline ∉ row) (rest : List UInt8) :
    ∃ more others, rows (row ++ rest) = (row ++ more) :: others := by
  induction row with
  | nil =>
      obtain ⟨more, others, split⟩ := List.exists_cons_of_ne_nil (List.splitOn_ne_nil newline rest)
      exact ⟨more, others, split⟩
  | cons b row ih =>
      have other : b ≠ newline := fun same => one (same ▸ List.mem_cons_self)
      obtain ⟨more, others, split⟩ := ih fun member => one (List.mem_cons_of_mem b member)
      refine ⟨more, others, ?_⟩
      rw [rows] at split ⊢
      rw [List.cons_append, List.splitOn_cons_eq_if_modifyHead, split]
      simp [other]

def trimmed : List (List UInt8) → List (List UInt8)
  | [] => []
  | [last] => if last = [] then [] else [last]
  | row :: rows => trimReturn row :: trimmed rows

theorem trimmed_cons (row : List UInt8) {others : List (List UInt8)} (more : others ≠ []) :
    trimmed (row :: others) = trimReturn row :: trimmed others := by
  cases others with
  | nil => exact absurd rfl more
  | cons => rfl

theorem linesFrom_eq {line : List UInt8} (one : newline ∉ line) (text : List UInt8) :
    linesFrom line text = trimmed (rows (line.reverse ++ text)) := by
  have turned {line : List UInt8} (one : newline ∉ line) : newline ∉ line.reverse := by
    simpa using one
  induction text generalizing line with
  | nil =>
      rw [List.append_nil, rows_single (turned one)]
      simp [linesFrom, trimmed]
  | cons b text ih =>
      by_cases ends : b = newline
      · have more : rows text ≠ [] := List.splitOn_ne_nil newline text
        rw [linesFrom, if_pos ends, ends, rows_cons (turned one), trimmed_cons _ more]
        exact congrArg _ (ih List.not_mem_nil)
      · have begun : newline ∉ b :: line := by
          simp [one, Ne.symm ends]
        rw [linesFrom, if_neg ends, ih begun]
        simp

theorem lines_eq (text : List UInt8) : lines text = trimmed (rows text) :=
  linesFrom_eq List.not_mem_nil text

theorem trimReturn_cases (row : List UInt8) :
    trimReturn row = row ∨ row = trimReturn row ++ [carriageReturn] := by
  unfold trimReturn
  split
  next returned =>
    obtain ⟨front, rfl⟩ := List.getLast?_eq_some_iff.mp returned
    simp
  next => exact .inl rfl

/-- A line is a row, or the front of a row that ends with a carriage return and a newline. -/
theorem trimmed_get {all : List (List UInt8)} {i : Nat} {line : List UInt8}
    (found : (trimmed all)[i]? = some line) :
    all[i]? = some line ∨ all[i]? = some (line ++ [carriageReturn]) ∧ i + 1 < all.length := by
  induction all generalizing i with
  | nil => simp [trimmed] at found
  | cons row all ih =>
      cases all with
      | nil =>
          by_cases empty : row = []
          · simp [trimmed, empty] at found
          · exact .inl (by simpa [trimmed, empty] using found)
      | cons next all =>
          rw [trimmed_cons row (List.cons_ne_nil next all)] at found
          cases i with
          | zero =>
              obtain rfl : trimReturn row = line := by simpa using found
              rcases trimReturn_cases row with same | returned
              · exact .inl (by simp [same])
              · exact .inr ⟨by simpa using returned, by simp⟩
          | succ i => simpa using ih found

/-- A row is a line but for its end, or the nothing behind the last newline. -/
theorem get_trimmed {all : List (List UInt8)} {i : Nat} {row : List UInt8}
    (found : all[i]? = some row) :
    (∃ line, (trimmed all)[i]? = some line ∧
        (row = line ∨ row = line ++ [carriageReturn] ∧ i + 1 < all.length)) ∨ row = [] := by
  induction all generalizing i with
  | nil => simp at found
  | cons first all ih =>
      cases all with
      | nil =>
          by_cases empty : first = []
          · right
            simp_all [List.getElem?_singleton]
          · left
            simp_all [trimmed, List.getElem?_singleton]
      | cons next all =>
          rw [trimmed_cons first (List.cons_ne_nil next all)]
          cases i with
          | zero =>
              obtain rfl : first = row := by simpa using found
              refine .inl ⟨trimReturn first, by simp, ?_⟩
              rcases trimReturn_cases first with same | returned
              · exact .inl same.symm
              · exact .inr ⟨returned, by simp⟩
          | succ i => simpa using ih found

theorem byteAt_eq_some {all : List (List UInt8)} {row column : Nat} {b : UInt8} :
    byteAt all row column = some b ↔
      ∃ i j bytes, row = i + 1 ∧ column = j + 1 ∧ all[i]? = some bytes ∧ bytes[j]? = some b := by
  unfold byteAt
  split
  next i j => simp [Option.bind_eq_some_iff]
  next outside =>
    constructor
    · intro none
      cases none
    · rintro ⟨i, j, -, rfl, rfl, -⟩
      exact (outside i j rfl rfl).elim

variable {text : List UInt8} {row column : Nat} {b : UInt8}

theorem byteAt_lines (here : byteAt (lines text) row column = some b) :
    byteAt (rows text) row column = some b := by
  obtain ⟨i, j, line, rfl, rfl, found, byte⟩ := byteAt_eq_some.mp here
  rw [lines_eq] at found
  rcases trimmed_get found with same | ⟨returned, -⟩
  · exact byteAt_eq_some.mpr ⟨i, j, line, rfl, rfl, same, byte⟩
  · refine byteAt_eq_some.mpr ⟨i, j, _, rfl, rfl, returned, ?_⟩
    rw [List.getElem?_append_left (List.getElem?_eq_some_iff.mp byte).1]
    exact byte

/-- Whatever stands in no line is the carriage return of the end of a line. -/
theorem byteAt_rows (here : byteAt (rows text) row column = some b) :
    byteAt (lines text) row column = some b ∨
      b = carriageReturn ∧ row < (rows text).length ∧
        byteAt (rows text) row (column + 1) = none := by
  obtain ⟨i, j, whole, rfl, rfl, found, byte⟩ := byteAt_eq_some.mp here
  rcases get_trimmed found with ⟨line, trimmed, rfl | ⟨rfl, more⟩⟩ | rfl
  · left
    rw [lines_eq]
    exact byteAt_eq_some.mpr ⟨i, j, _, rfl, rfl, trimmed, byte⟩
  · by_cases inside : j < line.length
    · left
      rw [List.getElem?_append_left inside] at byte
      rw [lines_eq]
      exact byteAt_eq_some.mpr ⟨i, j, _, rfl, rfl, trimmed, byte⟩
    · right
      have last : j = line.length := by
        have within := (List.getElem?_eq_some_iff.mp byte).1
        rw [List.length_append, List.length_singleton] at within
        omega
      subst last
      refine ⟨by simpa using byte.symm, more, ?_⟩
      simp [byteAt, found]
  · simp at byte

def headRows : List (List UInt8) := ["\x7b".toUTF8.toList, "\"scene\":".toUTF8.toList]

theorem newline_not_mem_lines {line : List UInt8} (member : line ∈ lines text) :
    newline ∉ line := by
  intro inside
  exact linesFrom_solid (List.forall_mem_nil _) text line member newline inside charOf_newline

theorem rows_wrap (text : List UInt8) :
    rows (wrap text) = headRows ++ (lines text).map (indent ++ ·) ++ [[closingBrace], []] := by
  have head : envelopeHead = headRows.flatMap (· ++ [newline]) := by decide +kernel
  have indented : (lines text).flatMap indentLine =
      ((lines text).map (indent ++ ·)).flatMap (· ++ [newline]) := by
    rw [List.flatMap_map]
    rfl
  have one : ∀ row ∈ headRows ++ (lines text).map (indent ++ ·) ++ [[closingBrace]],
      newline ∉ row := by
    simp only [List.mem_append, List.mem_map, List.mem_singleton]
    rintro row ((own | ⟨line, member, rfl⟩) | rfl)
    · revert row
      decide +kernel
    · have blank : newline ∉ indent := by decide
      simp [blank, newline_not_mem_lines member]
    · decide
  calc
    rows (wrap text) = rows ((headRows ++ (lines text).map (indent ++ ·) ++
        [[closingBrace]]).flatMap (· ++ [newline]) ++ []) := by
      rw [wrap, head, indented, envelopeTail_eq]
      simp
    _ = headRows ++ (lines text).map (indent ++ ·) ++ [[closingBrace]] ++ rows [] :=
      rows_ended one []
    _ = _ := by simp [rows]

/-- The envelope moves a byte by as many rows as columns. -/
theorem byteAt_wrap (here : byteAt (lines text) row column = some b) :
    byteAt (rows (wrap text)) (row + envelopeOffset) (column + envelopeOffset) = some b := by
  obtain ⟨i, j, line, rfl, rfl, found, byte⟩ := byteAt_eq_some.mp here
  refine byteAt_eq_some.mpr ⟨i + envelopeOffset, j + envelopeOffset, indent ++ line, ?_, ?_, ?_, ?_⟩
  · omega
  · omega
  · have head : headRows.length = envelopeOffset := rfl
    have inside := (List.getElem?_eq_some_iff.mp found).1
    rw [rows_wrap, List.append_assoc, List.getElem?_append_right (by omega), head,
      Nat.add_sub_cancel, List.getElem?_append_left (by simpa using inside), List.getElem?_map,
      found]
    rfl
  · have blanks : indent.length = envelopeOffset := rfl
    rw [List.getElem?_append_right (by omega), blanks, Nat.add_sub_cancel, byte]

def Stands (text : List UInt8) (c : Cursor) : Prop :=
  ∃ (ended : List (List UInt8)) (row : List UInt8),
    text = ended.flatMap (· ++ [newline]) ++ (row ++ c.rest) ∧
    (∀ l ∈ row :: ended, newline ∉ l) ∧ c.line = ended.length + 1 ∧ c.column = row.length

theorem stands_start (text : List UInt8) : Stands text (Cursor.start text) :=
  ⟨[], [], rfl, by simp, rfl, rfl⟩

theorem Stands.advance {c : Cursor} (stands : Stands text c) : Stands text c.advance := by
  obtain ⟨ended, row, split, one, line, column⟩ := stands
  obtain ⟨rest, n, k⟩ := c
  cases rest with
  | nil => exact ⟨ended, row, split, one, line, column⟩
  | cons b rest =>
      by_cases ends : b = newline
      · refine ⟨ended ++ [row], [], ?_, ?_, ?_, ?_⟩
        · simp [split, ends, Cursor.advance]
        · intro l member
          simp only [List.mem_cons, List.mem_append, List.not_mem_nil, or_false] at member
          rcases member with rfl | own | rfl
          · exact List.not_mem_nil
          · exact one l (List.mem_cons_of_mem row own)
          · exact one l List.mem_cons_self
        · simp_all [Cursor.advance, Cursor.step, charOf_newline]
        · simp [ends, Cursor.advance, Cursor.step, charOf_newline]
      · have solid : charOf b ≠ '\n' := fun same =>
          ends (charOf_injective (same.trans charOf_newline.symm))
        refine ⟨ended, row ++ [b], ?_, ?_, ?_, ?_⟩
        · simp [split, Cursor.advance]
        · simp_all [Ne.symm ends]
        · simp_all [Cursor.advance, Cursor.step]
        · simp_all [Cursor.advance, Cursor.step]

theorem Stands.leads {c d : Cursor} (stands : Stands text c) (leads : Leads c d) :
    Stands text d := by
  induction leads with
  | here => exact stands
  | step _ ih => exact ih stands.advance

theorem Stands.byteAt {c : Cursor} (stands : Stands text c)
    (here : byteAt (rows text) c.line c.column = some b) :
    ∃ front, text = front ++ b :: c.rest := by
  obtain ⟨ended, row, split, one, line, column⟩ := stands
  have ⟨own, others⟩ := List.forall_mem_cons.mp one
  obtain ⟨more, behind, begun⟩ := rows_begun own c.rest
  rcases List.eq_nil_or_concat' row with rfl | ⟨front, last, rfl⟩
  · rw [column] at here
    simp [SceneFile.byteAt] at here
  · have same : last = b := by
      rw [split, rows_ended others, begun, line, column, List.length_append] at here
      simpa [SceneFile.byteAt] using here
    exact ⟨ended.flatMap (· ++ [newline]) ++ front, by simp [split, same]⟩

/-- A place in the author's lines, as the reader of the envelope counts. -/
structure Within (text : List UInt8) (place : Position) : Prop where
  row : envelopeOffset < place.line
  column : envelopeOffset < place.column
  inside : ∃ line, (lines text)[place.line - envelopeOffset - 1]? = some line ∧
    place.column ≤ line.length + envelopeOffset

theorem Within.byteAt {place : Position} (within : Within text place) :
    ∃ row column b, place.line = row + envelopeOffset ∧ place.column = column + envelopeOffset ∧
      byteAt (lines text) row column = some b := by
  obtain ⟨bytes, found, short⟩ := within.inside
  have below := within.row
  have behind := within.column
  obtain ⟨j, column⟩ : ∃ j, place.column = j + 1 + envelopeOffset :=
    ⟨place.column - envelopeOffset - 1, by omega⟩
  have inside : j < bytes.length := by omega
  refine ⟨place.line - envelopeOffset - 1 + 1, j + 1, bytes[j], by omega, column, ?_⟩
  exact byteAt_eq_some.mpr ⟨_, j, bytes, rfl, rfl, found, List.getElem?_eq_getElem inside⟩

/--
In the envelope the author's lines are indented and keep their order, so that every byte of them is
moved by two rows and two columns. An error that the parser places among them is reported with the
row and the column of the byte that the parser has read last, as its author counts them.
-/
theorem envelope_shifts_places (text : List UInt8) :
    rows (wrap text) = headRows ++ (lines text).map (indent ++ ·) ++ [[closingBrace], []] ∧
      (∀ row column b, byteAt (lines text) row column = some b →
        byteAt (rows text) row column = some b ∧
          byteAt (rows (wrap text)) (row + 2) (column + 2) = some b) ∧
      (∀ row column b, byteAt (rows text) row column = some b →
        byteAt (lines text) row column = some b ∨
          b = carriageReturn ∧ row < (rows text).length ∧
            byteAt (rows text) row (column + 1) = none) ∧
      ∀ (failure : Failure) (place : Position), failure.position = some place →
        Within text place →
        ∃ (row column : Nat) (b : UInt8), (SceneError.ofFailure failure).row = row ∧
          (SceneError.ofFailure failure).column = column ∧
          byteAt (lines text) row column = some b ∧
          byteAt (rows (wrap text)) place.line place.column = some b ∧
          ∀ c, Leads (Cursor.start (wrap text)) c → c.position = place →
            ∃ front, wrap text = front ++ b :: c.rest := by
  refine ⟨rows_wrap text, fun _ _ _ here => ⟨byteAt_lines here, byteAt_wrap here⟩,
    fun _ _ _ here => byteAt_rows here, ?_⟩
  intro failure place placed within
  obtain ⟨row, column, b, line, columns, here⟩ := within.byteAt
  have wrapped : byteAt (rows (wrap text)) place.line place.column = some b := by
    rw [line, columns]
    exact byteAt_wrap here
  refine ⟨row, column, b, ?_, ?_, here, wrapped, ?_⟩
  · simp [SceneError.row, SceneError.ofFailure, placed, line]
  · simp [SceneError.column, SceneError.ofFailure, placed, columns]
  · rintro c leads rfl
    exact ((stands_start _).leads leads).byteAt wrapped

def returnedLines : List UInt8 := "[1,\r\n\"é\" x".toUTF8.toList

theorem returnedLines_shifted :
    let failure : Failure := ⟨.expectedCommaOrBracket, some ⟨4, 8⟩⟩
    (SceneError.ofFailure failure).row = 2 ∧ (SceneError.ofFailure failure).column = 6 ∧
      ∃ b, byteAt (lines returnedLines) 2 6 = some b ∧
        byteAt (rows (wrap returnedLines)) 4 8 = some b := by
  have within : Within returnedLines ⟨4, 8⟩ := by
    refine ⟨by decide, by decide, "\"é\" x".toUTF8.toList, ?_, ?_⟩
    · decide +kernel
    · decide +kernel
  obtain ⟨-, -, -, shifted⟩ := envelope_shifts_places returnedLines
  obtain ⟨row, column, b, here, there, own, wrapped, -⟩ :=
    shifted ⟨.expectedCommaOrBracket, some ⟨4, 8⟩⟩ ⟨4, 8⟩ rfl within
  have second : (2 : Int) = row := here
  have sixth : (6 : Int) = column := there
  obtain rfl : row = 2 := by omega
  obtain rfl : column = 6 := by omega
  exact ⟨here, there, b, own, wrapped⟩

end RayScene.SceneFile
