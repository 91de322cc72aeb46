import RayScene.Proofs.Outcome
import RayScene.Proofs.SceneFile.Layout

/-!
The envelope that a text is read in. It changes nothing about the value that the text starts with;
but it does not keep the text from going on, behind a comma, with members of the envelope.
-/

namespace RayScene.SceneFile

open Json
open Cursor (charOf isBlank)

/-- The one byte of the envelope behind a text that is no blank. -/
def closingBrace : UInt8 := 125

def comma : UInt8 := 44

theorem envelopeHead_eq :
    envelopeHead = [123, 10, 34, 115, 99, 101, 110, 101, 34, 58, 10] := by decide +kernel

theorem envelopeTail_eq : envelopeTail = [closingBrace, newline] := by decide +kernel

theorem solids_tail : solids envelopeTail = [closingBrace] := by
  rw [envelopeTail_eq]
  decide

def indent : List UInt8 := List.replicate envelopeOffset space

theorem isBlank_indent : ∀ b ∈ indent, isBlank b = true := by
  intro b member
  rw [List.eq_of_mem_replicate member]
  decide

theorem isGap_newline {blanks : List UInt8} (blank : ∀ b ∈ blanks, isBlank b = true) :
    IsGap (newline :: blanks) := ⟨by decide, blank⟩

theorem isGap_returned : IsGap [carriageReturn, newline] :=
  ⟨by decide, List.forall_mem_singleton.mpr (by decide)⟩

theorem trimReturn_gap (line : List UInt8) :
    ∃ gap, line ++ [newline] = trimReturn line ++ gap ∧ IsGap gap := by
  unfold trimReturn
  split
  next returned =>
    refine ⟨[carriageReturn, newline], ?_, isGap_returned⟩
    obtain ⟨front, rfl⟩ := List.getLast?_eq_some_iff.mp returned
    simp
  next => exact ⟨[newline], rfl, isGap_newline (List.forall_mem_nil _)⟩

/-- A text, the line that has begun in front of it included, keeps its values when its lines are
indented and closed by a brace. -/
theorem linesFrom_laid (line text : List UInt8) (some : line ≠ [] ∨ text ≠ []) :
    ∃ text', (linesFrom line text).flatMap indentLine ++ envelopeTail = indent ++ text' ∧
      Laid [closingBrace] (line.reverse ++ text) text' := by
  induction text generalizing line with
  | nil =>
      have begun : line ≠ [] := some.resolve_right (fun h => h rfl)
      refine ⟨line.reverse ++ newline :: envelopeTail, ?_, Laid.prepend _ (.done ?_)⟩
      · simp [linesFrom, begun, indentLine, indent]
      · exact (solids_blank (by decide) _).trans solids_tail
  | cons b text ih =>
      by_cases ends : b = newline
      · obtain ⟨gap, trimmed, isGap⟩ := trimReturn_gap line.reverse
        have source : line.reverse ++ b :: text = trimReturn line.reverse ++ (gap ++ text) := by
          rw [ends, ← List.append_assoc, ← trimmed, List.append_assoc]
          rfl
        rw [linesFrom, if_pos ends, source, List.flatMap_cons, List.append_assoc]
        cases text with
        | nil =>
            refine ⟨trimReturn line.reverse ++ ([newline] ++ envelopeTail), ?_, ?_⟩
            · simp [indentLine, indent, linesFrom]
            · have last : IsGap [newline] := isGap_newline (List.forall_mem_nil _)
              exact Laid.prepend _ (.gap isGap last (.done solids_tail))
        | cons c text =>
            obtain ⟨text', rest, laid⟩ := ih [] (.inr (List.cons_ne_nil _ _))
            rw [rest]
            refine ⟨trimReturn line.reverse ++ (newline :: indent ++ text'), ?_, ?_⟩
            · simp [indentLine, indent]
            · exact Laid.prepend _ (.gap isGap (isGap_newline isBlank_indent) laid)
      · obtain ⟨text', rest, laid⟩ := ih (b :: line) (.inl (List.cons_ne_nil _ _))
        rw [linesFrom, if_neg ends]
        exact ⟨text', rest, by simpa using laid⟩

theorem wrap_laid (text : List UInt8) :
    ∃ blanks text', wrap text = envelopeHead ++ (blanks ++ text') ∧
      (∀ b ∈ blanks, isBlank b = true) ∧ Laid [closingBrace] text text' := by
  rw [wrap, List.append_assoc]
  cases text with
  | nil =>
      exact ⟨[], envelopeTail, rfl, List.forall_mem_nil _, .done solids_tail⟩
  | cons b text =>
      obtain ⟨text', rest, laid⟩ := linesFrom_laid [] (b :: text) (.inr (List.cons_ne_nil _ _))
      exact ⟨indent, text', by rw [lines, rest], isBlank_indent, laid⟩

theorem read_envelope_open (rest : List UInt8) :
    Record.read envelope maxLevels ⟨123 :: rest, 1, 0⟩ =
      placed (closedBy closeObject do
        ofExcept ((envelope 126).finish Record.missingMember
          (← members (envelope 126).member (envelope 126).draft))) ⟨rest, 1, 1⟩ := rfl

theorem nextKey_scene (rest : List UInt8) :
    nextKey true ⟨[10, 34, 115, 99, 101, 110, 101, 34] ++ rest, 1, 1⟩ =
      .ok (some "scene") ⟨rest, 2, 7⟩ := by
  have name : (String.fromUTF8? ⟨[115, 99, 101, 110, 101].toArray⟩).getD "" = "scene" := by
    decide
  have bytes (n : Nat) : stringBytes (n + 7) ⟨[115, 99, 101, 110, 101, 34] ++ rest, 2, 1⟩ =
      .ok [115, 99, 101, 110, 101] ⟨rest, 2, 7⟩ := rfl
  have string : stringRest ⟨[115, 99, 101, 110, 101, 34] ++ rest, 2, 1⟩ =
      .ok "scene" ⟨rest, 2, 7⟩ := by
    rw [← name]
    exact bind_ok.mpr ⟨_, _, rfl, bind_ok.mpr ⟨_, _, bytes rest.length, rfl⟩⟩
  show (some <$> stringRest) ⟨[115, 99, 101, 110, 101, 34] ++ rest, 2, 1⟩ = _
  rw [map_eq_pure_bind]
  exact bind_ok.mpr ⟨_, _, string, rfl⟩

theorem member_scene (c : Cursor) : (envelope 126).member none "scene" c =
    (colon >>= fun _ => some <$> Record.read document 126) c := by
  rw [map_eq_pure_bind]
  rfl

theorem later_members (inside : Document) (draft : Option Document) (key : String)
    (same : draft = some inside) :
    Yields (· = some inside) ((envelope 126).member draft key) := by
  subst same
  unfold Record.member
  split
  next field found =>
    have only : field ∈ (envelope 126).fields := List.mem_of_find?_eq_some found
    obtain rfl := List.mem_singleton.mp only
    exact Yields.bind (reject_never _) fun _ no => no.elim
  next => exact .last fun _ => .last fun _ => .pure rfl

theorem charOf_injective {a b : UInt8} (same : charOf a = charOf b) : a = b := by
  rw [← UInt8.toNat_inj, ← charOf_toNat a, ← charOf_toNat b, same]

theorem nextKey_head {c d : Cursor} {key : Option String} (read : nextKey false c = .ok key d) :
    ∃ b, c.solid.rest.head? = some b ∧
      (charOf b = ',' ∨ charOf b = '\x7d' ∧ key = none ∧ d = c.solid) := by
  rw [nextKey_eq, peekSolid_bind] at read
  cases here : c.solid.rest.head? with
  | none =>
      rw [here] at read
      exact (failNext_never _ _ _ _ read).elim
  | some b =>
      rw [here, Option.map_some] at read
      refine ⟨b, rfl, ?_⟩
      generalize charOf b = ch at read ⊢
      by_cases brace : ch = '\x7d'
      · subst brace
        cases read
        exact .inr ⟨rfl, rfl, rfl⟩
      · by_cases found : ch = ','
        · exact .inl found
        · simp only [found, Bool.false_eq_true, if_false] at read
          exact (failNext_never _ _ _ _ read).elim

/-- Behind its first member the envelope either ends or goes on. -/
theorem members_end {inside : Document} {count : Nat} {d f e : Cursor} {made : Option Document}
    (gathered : membersFrom (envelope 126).member (count + 1) false (some inside) d = .ok made f)
    (closed : closeObject f = .ok () e) :
    (solids d.rest).head? = some comma ∨ solids d.rest = closingBrace :: solids e.rest := by
  obtain ⟨key, h, named, rest⟩ := bind_ok.mp gathered
  obtain ⟨b, here, found | ⟨-, rfl, rfl⟩⟩ := nextKey_head named
  · left
    obtain rfl : b = comma := charOf_injective found
    rw [d.solids_of_head here]
    rfl
  · right
    cases rest
    obtain ⟨here, rfl⟩ := (closeObject_ok _ _).mp closed
    obtain ⟨c, first, brace⟩ := Option.map_eq_some_iff.mp here
    obtain rfl : c = closingBrace := charOf_injective brace
    rw [← d.solid.solids_of_head first, Cursor.solid_rest, solids_dropWhile]

/-- The document of an envelope is read from what stands behind its key. -/
theorem read_envelope {rest : List UInt8} {inside : Document} {e : Cursor}
    (read : Record.read envelope maxLevels (Cursor.start (envelopeHead ++ rest)) = .ok inside e) :
    ∃ c d, c.rest = newline :: rest ∧ Record.read document 126 c = .ok inside d ∧
      ((solids d.rest).head? = some comma ∨
        solids d.rest = closingBrace :: solids e.rest) := by
  rw [envelopeHead_eq] at read
  replace read := (read_envelope_open _).symm.trans read
  obtain ⟨f, body, closed⟩ := closedBy_ok.mp (placed_ok.mp read)
  obtain ⟨draft, g, gathered, finished⟩ := bind_ok.mp body
  obtain ⟨n, c₁, left, steps⟩ := bind_ok.mp gathered
  cases left
  obtain ⟨key, c₂, named, steps⟩ := bind_ok.mp steps
  cases (nextKey_scene _).symm.trans named
  obtain ⟨first, d, own, steps⟩ := bind_ok.mp steps
  replace own := (member_scene _).symm.trans own
  obtain ⟨_, c, coloned, own⟩ := bind_ok.mp own
  cases coloned
  rw [map_eq_pure_bind] at own
  obtain ⟨first, e', own, made⟩ := bind_ok.mp own
  cases made
  have kept : draft = some first :=
    membersFrom_yields (later_members first) _ false rfl _ _ _ steps
  subst kept
  cases finished
  exact ⟨_, d, rfl, own, members_end steps closed⟩

theorem read_solid {σ α : Type} (record : Nat → Record σ α) (levels : Nat) {c d : Cursor}
    (same : c.solid = d.solid) : Record.read record levels c = Record.read record levels d := by
  unfold Record.read
  rw [valueStart_bind, peekSolid_bind, peekSolid_bind, same]

theorem solid_of_blanks {blanks : List UInt8} (blank : ∀ b ∈ blanks, isBlank b = true)
    (text : List UInt8) (line column : Nat) :
    ∃ c : Cursor, c.rest = text ∧ c.solid = (Cursor.mk (blanks ++ text) line column).solid := by
  induction blanks generalizing line column with
  | nil => exact ⟨⟨text, line, column⟩, rfl, rfl⟩
  | cons b blanks ih =>
      have ⟨own, others⟩ := List.forall_mem_cons.mp blank
      obtain ⟨c, rest, solid⟩ :=
        ih others (Cursor.step b line column).1 (Cursor.step b line column).2
      refine ⟨c, rest, solid.trans ?_⟩
      simp [Cursor.solid, Cursor.skipBlanks, own]

theorem solids_split {text more : List UInt8} {b : UInt8} (solid : solids text = b :: more) :
    ∃ blanks rest, text = blanks ++ b :: rest ∧ ∀ blank ∈ blanks, isBlank blank = true := by
  induction text with
  | nil => cases solid
  | cons c text ih =>
      cases blank : isBlank c with
      | true =>
          rw [solids_blank blank] at solid
          obtain ⟨blanks, rest, rfl, each⟩ := ih solid
          exact ⟨c :: blanks, rest, rfl, List.forall_mem_cons.mpr ⟨blank, each⟩⟩
      | false =>
          rw [solids_solid blank] at solid
          obtain ⟨rfl, -⟩ := List.cons.inj solid
          exact ⟨[], text, rfl, List.forall_mem_nil _⟩

theorem document_alone {text : List UInt8} {inside : Document} {d : Cursor}
    (read : Record.read document maxLevels (Cursor.start text) = .ok inside d) :
    ∃ value, text = value ++ d.rest ∧ readText (Record.read document) value = .ok inside := by
  have closes : Closes (solids d.rest) (Aligned (solids d.rest)) (Record.read document maxLevels)
      (Record.read document maxLevels) := document_closes (Nat.le_refl _)
  obtain ⟨value, rfl⟩ := closes.shrinks _ _ _ read
  have aligned : Aligned (solids d.rest) (Cursor.start value) (Cursor.start (value ++ d.rest)) :=
    Laid.append value d.rest
  obtain ⟨e, alone, -, laid⟩ := closes.tracks _ _ _ _ aligned read (Nat.le_refl _)
  have blank : solids e.rest = [] := by
    have same := Laid.solids_eq laid
    simpa using same
  exact ⟨value, rfl, readText_ok.mpr ⟨e, alone, blank⟩⟩

/-- A document that an envelope holds is read from the text as well, up to its end or a comma. -/
theorem document_of_envelope {text : List UInt8} {inside : Document}
    (read : readDocument text = .ok inside) :
    ∃ d, Record.read document maxLevels (Cursor.start text) = .ok inside d ∧
      (solids d.rest = [] ∨ (solids d.rest).head? = some comma) := by
  obtain ⟨blanks, laidOut, wrapped, blank, laid⟩ := wrap_laid text
  have whole : readText (Record.read envelope) (wrap text) = .ok inside := by
    unfold readDocument at read
    split at read
    next same =>
      cases read
      exact same
    next => cases read
  obtain ⟨e, enveloped, ended⟩ := readText_ok.mp whole
  rw [wrapped] at enveloped
  obtain ⟨⟨_, line, column⟩, d', rfl, read', follows⟩ := read_envelope enveloped
  have newlines : ∀ b ∈ newline :: blanks, isBlank b = true :=
    List.forall_mem_cons.mpr ⟨by decide, blank⟩
  -- the wrapped text behind its first blanks is laid out like the text
  obtain ⟨c, start, same⟩ := solid_of_blanks newlines laidOut line column
  rw [List.cons_append] at same
  rw [← read_solid document 126 same] at read'
  have aligned : Aligned [closingBrace] (Cursor.start text) c := by
    rw [Aligned, start]
    exact laid
  have closes : Closes [closingBrace] (Aligned [closingBrace])
      (Record.read document maxLevels) (Record.read document 126) := document_closes (by decide)
  have enough : [closingBrace].length ≤ (solids d'.rest).length := by
    rcases follows with found | found
    · obtain ⟨rest, found⟩ := List.head?_eq_some_iff.mp found
      simp [found]
    · simp [found]
  obtain ⟨d, read, -, behind⟩ := closes.tracks _ c inside d' aligned read' enough
  refine ⟨d, read, ?_⟩
  have left : solids d'.rest = solids d.rest ++ [closingBrace] := Laid.solids_eq behind
  rw [left, ended] at follows
  cases solid : solids d.rest with
  | nil => exact .inl rfl
  | cons b more =>
      right
      rw [solid] at follows
      rcases follows with found | found
      · exact found
      · simp at found

/--
An accepted text starts with a value that gives the scene by itself. If nothing but blanks follows,
the text is that value; otherwise a comma follows, and what the envelope holds behind it.
-/
theorem compile_reads_value {text : String} {scene : Scene Single}
    (compiled : compile text = .ok scene) :
    ∃ value rest inside, text.toUTF8.toList = value ++ rest ∧
      readText (Record.read document) value = .ok inside ∧ assemble inside = .ok scene ∧
      ((∀ b ∈ rest, isBlank b = true) ∧
          readText (Record.read document) text.toUTF8.toList = .ok inside ∨
        ∃ blanks more, rest = blanks ++ comma :: more ∧ ∀ b ∈ blanks, isBlank b = true) := by
  obtain ⟨inside, read, made⟩ := Outcome.bind_eq_ok.mp compiled
  obtain ⟨d, read, follows⟩ := document_of_envelope read
  obtain ⟨value, split, alone⟩ := document_alone read
  refine ⟨value, d.rest, inside, split, alone, made, ?_⟩
  rcases follows with blank | found
  · exact .inl ⟨solids_eq_nil.mp blank, readText_ok.mpr ⟨d, read, blank⟩⟩
  · obtain ⟨more, solid⟩ := List.head?_eq_some_iff.mp found
    exact .inr (solids_split solid)

def trailingMember : String := "\x7b\"objectList\":[]\x7d, \"x\": 1"

theorem trailingMember_accepted :
    ∃ scene, compile trailingMember = .ok scene ∧
      (∀ inside, readText (Record.read document) trailingMember.toUTF8.toList ≠ .ok inside) ∧
      ∃ value blanks more inside,
        trailingMember.toUTF8.toList = value ++ (blanks ++ comma :: more) ∧
        readText (Record.read document) value = .ok inside ∧ assemble inside = .ok scene := by
  have accepted : (compile trailingMember).toOption.map (·.objects.length) = some 0 := by
    decide +kernel
  obtain ⟨scene, accepted, -⟩ := Option.map_eq_some_iff.mp accepted
  have compiled := Outcome.toOption_eq_some.mp accepted
  have none : (readText (Record.read document) trailingMember.toUTF8.toList).toOption.isSome =
      false := by
    decide +kernel
  have refused (inside : Document) :
      readText (Record.read document) trailingMember.toUTF8.toList ≠ .ok inside := by
    intro read
    rw [read] at none
    cases none
  obtain ⟨value, rest, inside, split, alone, made, whole | ⟨blanks, more, rfl, -⟩⟩ :=
    compile_reads_value compiled
  · exact absurd whole.2 (refused inside)
  · exact ⟨scene, compiled, refused, value, blanks, more, inside, split, alone, made⟩

end RayScene.SceneFile
