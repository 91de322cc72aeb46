import RayScene.Proofs.Json.Records

namespace RayScene.Json

open Cursor (charOf isBlank)

variable {α β σ : Type}

namespace Cursor

/-- The second cursor is reached by stepping on from the first one. -/
inductive Leads : Cursor → Cursor → Prop
  | here (c : Cursor) : Leads c c
  | step {c d : Cursor} : Leads c.advance d → Leads c d

theorem Leads.trans {c d e : Cursor} (first : c.Leads d) (second : d.Leads e) : c.Leads e := by
  induction first with
  | here => exact second
  | step _ ih => exact .step (ih second)

theorem leads_advance (c : Cursor) : c.Leads c.advance := .step (.here _)

theorem leads_skipBlanks (rest : List UInt8) (line column : Nat) :
    Leads ⟨rest, line, column⟩ (skipBlanks rest line column) := by
  induction rest generalizing line column with
  | nil => exact .here _
  | cons b rest ih =>
      unfold skipBlanks
      split
      next => exact .step (ih _ _)
      next => exact .here _

theorem leads_solid (c : Cursor) : c.Leads c.solid := leads_skipBlanks _ _ _

/-- Bytes on one line are as many columns. -/
theorem leads_behind {bytes : List UInt8} (line : ∀ b ∈ bytes, charOf b ≠ '\n')
    (rest : List UInt8) (n column : Nat) :
    Leads ⟨bytes ++ rest, n, column⟩ ⟨rest, n, column + bytes.length⟩ := by
  induction bytes generalizing column with
  | nil => exact .here _
  | cons b bytes ih =>
      have ⟨own, others⟩ := List.forall_mem_cons.mp line
      have advanced : advance ⟨b :: (bytes ++ rest), n, column⟩ =
          ⟨bytes ++ rest, n, column + 1⟩ := by simp [advance, step, own]
      have more := ih others (column + 1)
      rw [← advanced, Nat.add_assoc, Nat.add_comm 1] at more
      exact .step more

end Cursor

open Cursor (Leads)

def Located (c : Cursor) : EStateM.Result Failure Cursor α → Prop
  | .ok _ d => c.Leads d
  | .error failure d =>
    c.Leads d ∧ ∀ p, failure.position = some p → ∃ e : Cursor, c.Leads e ∧ e.position = p

theorem Located.from {c d : Cursor} {result : EStateM.Result Failure Cursor α}
    (located : Located d result) (leads : c.Leads d) : Located c result := by
  cases result with
  | ok v e => exact leads.trans located
  | error failure e =>
      refine ⟨leads.trans located.1, fun p placed => ?_⟩
      obtain ⟨e, further, same⟩ := located.2 p placed
      exact ⟨e, leads.trans further, same⟩

def Walks (p : Reader α) : Prop := ∀ c, Located c (p c)

variable {p : Reader α}

theorem Located.bind {f : α → Reader β} {c : Cursor} {x : Cursor} (first : Located x (p c))
    (rest : ∀ v, Walks (f v)) : Located x ((p >>= f) c) := by
  show Located x (EStateM.bind p f c)
  unfold EStateM.bind
  cases read : p c with
  | ok v d =>
      rw [read] at first
      exact (rest v d).from first
  | error failure d =>
      rw [read] at first
      exact first

/-- What is read without a fault does not count. -/
theorem Located.behind {f : α → Reader β} {c x d : Cursor} {v : α} (read : p x = .ok v d)
    (rest : Located c (f v d)) : Located c ((p >>= f) x) := by
  show Located c (EStateM.bind p f x)
  unfold EStateM.bind
  rw [read]
  exact rest

theorem Located.placed {c x : Cursor} (located : Located x (p c)) : Located x (placed p c) := by
  unfold Json.placed
  cases read : p c with
  | ok v d =>
      rw [read] at located
      exact located
  | error failure d =>
      rw [read] at located
      obtain ⟨fault, position⟩ := failure
      cases position with
      | none =>
          refine ⟨located.1, fun p here => ?_⟩
          cases here
          exact ⟨d, located.1, rfl⟩
      | some position => exact located

theorem Located.closedBy {close : Reader Unit} {c x : Cursor} (closes : Walks close)
    (located : Located x (p c)) : Located x (closedBy close p c) := by
  unfold Json.closedBy
  cases read : p c with
  | ok v d =>
      rw [read] at located
      have behind := (closes d).from located
      dsimp only
      cases closed : close d with
      | ok u e =>
          rw [closed] at behind
          exact behind
      | error failure e =>
          rw [closed] at behind
          exact behind
  | error failure d =>
      rw [read] at located
      have behind := (closes d).from located.1
      dsimp only
      cases closed : close d with
      | ok u e =>
          rw [closed] at behind
          exact ⟨behind, located.2⟩
      | error other e =>
          rw [closed] at behind
          exact ⟨behind.1, located.2⟩

namespace Walks

theorem pure (v : α) : Walks (Pure.pure v) := fun c => .here c

theorem bind {f : α → Reader β} (first : Walks p) (rest : ∀ v, Walks (f v)) :
    Walks (p >>= f) := fun c => (first c).bind rest

theorem map {f : α → β} (walks : Walks p) : Walks (f <$> p) := by
  rw [map_eq_pure_bind]
  exact walks.bind fun v => .pure (f v)

theorem never {f : α → Reader β} (walks : Walks p) (never : Never p) : Walks (p >>= f) := by
  intro c
  have located := walks c
  show Located c (EStateM.bind p f c)
  unfold EStateM.bind
  cases read : p c with
  | ok v d => exact (never c v d read).elim
  | error failure d =>
      rw [read] at located
      exact located

theorem placed (walks : Walks p) : Walks (Json.placed p) := fun c => (walks c).placed

theorem closedBy {close : Reader Unit} (closes : Walks close) (walks : Walks p) :
    Walks (Json.closedBy close p) := fun c => (walks c).closedBy closes

end Walks

theorem reject_walks (fault : Fault) : Walks (reject fault : Reader α) :=
  fun c => ⟨.here c, nofun⟩

theorem failHere_walks (fault : Fault) : Walks (failHere fault : Reader α) := by
  refine fun c => ⟨.here c, fun p here => ?_⟩
  exact ⟨c, .here c, Option.some.inj here⟩

theorem failNext_walks (fault : Fault) : Walks (failNext fault : Reader α) := by
  refine fun c => ⟨.here c, fun p here => ?_⟩
  exact ⟨c.advance, c.leads_advance, Option.some.inj here⟩

theorem failHere_bind_walks (fault : Fault) (f : β → Reader α) : Walks (failHere fault >>= f) :=
  (failHere_walks fault).never (failHere_never fault)

theorem failNext_bind_walks (fault : Fault) (f : β → Reader α) : Walks (failNext fault >>= f) :=
  (failNext_walks fault).never (failNext_never fault)

theorem get_walks : Walks (get : Reader Cursor) := fun c => .here c

theorem peek_walks : Walks peek := by
  rintro ⟨rest, line, column⟩
  cases rest <;> exact .here _

theorem skip_walks : Walks skip := fun c => c.leads_advance

theorem next_walks : Walks next := peek_walks.bind fun _ => skip_walks.bind fun _ => .pure _

theorem peekSolid_walks : Walks peekSolid := fun c => (peek_walks c.solid).from c.leads_solid

theorem bytesLeft_walks : Walks bytesLeft := fun c => .here c

theorem word_walks (letters : List Char) : Walks (word letters) := by
  induction letters with
  | nil => exact .pure ()
  | cons letter letters ih =>
      refine next_walks.bind fun ch => ?_
      split
      next => exact failHere_walks _
      next =>
        split
        next => exact ih
        next => exact failHere_walks _

theorem peekInString_walks : Walks peekInString := by
  refine peek_walks.bind fun ch => ?_
  split
  next => exact .pure _
  next => exact failHere_walks _

theorem nextInString_walks : Walks nextInString :=
  peekInString_walks.bind fun ch => skip_walks.bind fun _ => .pure ch

theorem expectInPair_walks (expected : Char) : Walks (expectInPair expected) := by
  refine peekInString_walks.bind fun ch => skip_walks.bind fun _ => ?_
  split
  next => exact failHere_walks _
  next => exact .pure ()

theorem hexCode_walks (digits : List UInt8) : Walks (hexCode digits) := by
  unfold hexCode
  split
  next => exact .pure _
  next => exact failHere_walks _

theorem hexEscape_walks : Walks hexEscape := by
  have short {c d : Cursor} (leads : c.Leads d) :
      Located c (failHere .endInString d : EStateM.Result Failure Cursor Nat) :=
    (failHere_walks _ d).from leads
  have two (c : Cursor) : c.Leads c.advance.advance :=
    c.leads_advance.trans c.advance.leads_advance
  have three (c : Cursor) : c.Leads c.advance.advance.advance := c.leads_advance.trans (two _)
  rintro ⟨text, line, column⟩
  match text with
  | [] => exact short (.here _)
  | [_] => exact short (Cursor.leads_advance _)
  | [_, _] => exact short (two _)
  | [_, _, _] => exact short (three _)
  | a :: b :: e :: f :: rest => exact (hexCode_walks [a, b, e, f] _).from ((two _).trans (two _))

theorem codePoint_walks : Walks codePoint := by
  refine hexEscape_walks.bind fun code => ?_
  split
  next =>
    split
    next => exact failHere_bind_walks _ _
    next =>
      refine (expectInPair_walks _).bind fun _ => (expectInPair_walks _).bind fun _ => ?_
      refine hexEscape_walks.bind fun low => ?_
      split
      next => exact failHere_bind_walks _ _
      next => exact .pure _
  next =>
    split
    next => exact failHere_bind_walks _ _
    next => exact .pure _

theorem escape_walks : Walks escape := by
  refine nextInString_walks.bind fun ch => ?_
  split
  next => exact codePoint_walks
  next =>
    split
    next => exact .pure _
    next => exact failHere_walks _

theorem stringBytes_walks (count : Nat) : Walks (stringBytes count) := by
  induction count with
  | zero => exact failHere_walks _
  | succ count ih =>
      refine get_walks.bind fun c => ?_
      split
      next => exact failHere_walks _
      next =>
        refine skip_walks.bind fun _ => ?_
        dsimp only
        split
        next => exact .pure _
        next =>
          split
          next => exact escape_walks.bind fun _ => ih.bind fun _ => .pure _
          next =>
            split
            next => exact failHere_walks _
            next => exact ih.bind fun _ => .pure _

theorem stringRest_walks : Walks stringRest :=
  bytesLeft_walks.bind fun _ => (stringBytes_walks _).bind fun _ => .pure _

theorem skipEscape_walks : Walks skipEscape := by
  refine nextInString_walks.bind fun ch => ?_
  split
  next => exact hexEscape_walks.bind fun _ => .pure ()
  next =>
    split
    next => exact failHere_walks _
    next => exact .pure ()

theorem skipString_walks (count : Nat) : Walks (skipString count) := by
  induction count with
  | zero => exact failHere_walks _
  | succ count ih =>
      refine get_walks.bind fun c => ?_
      split
      next => exact failHere_walks _
      next byte _ _ =>
        have more : Walks (skipStringStep (skipString count) byte) := by
          unfold skipStringStep
          by_cases control : byte < 0x20
          · rw [if_pos control]
            exact failHere_bind_walks _ _
          · rw [if_neg control]
            refine skip_walks.bind fun _ => ?_
            split
            next => exact .pure ()
            next =>
              split
              next => exact skipEscape_walks.bind fun _ => ih
              next => exact ih
        exact more

theorem isDigit_newline {b : UInt8} (digit : (digitOf? b).isSome = true) : charOf b ≠ '\n' := by
  intro newline
  rw [digitOf?_lineEnd (mem_lineEnds.mpr (.inl newline))] at digit
  cases digit

theorem appendDigits_split (bound n count : Nat) (text : List UInt8) :
    ∃ digits, text = digits ++ (appendDigits bound n count text).2.2 ∧
      (∀ b ∈ digits, charOf b ≠ '\n') ∧
      (appendDigits bound n count text).2.1 = count + digits.length := by
  induction text generalizing n count with
  | nil => exact ⟨[], rfl, List.forall_mem_nil _, rfl⟩
  | cons b text ih =>
      unfold appendDigits
      split
      next m taken =>
        obtain ⟨digit, own, -⟩ := Option.bind_eq_some_iff.mp taken
        obtain ⟨digits, split, line, length⟩ := ih m (count + 1)
        have first : charOf b ≠ '\n' := isDigit_newline (own ▸ rfl)
        refine ⟨b :: digits, congrArg (b :: ·) split, List.forall_mem_cons.mpr ⟨first, line⟩, ?_⟩
        rw [length, List.length_cons]
        omega
      next => exact ⟨[], rfl, List.forall_mem_nil _, rfl⟩

theorem takeDigits_walks (bound n : Nat) : Walks (takeDigits bound n) := by
  rintro ⟨text, line, column⟩
  obtain ⟨digits, split, one, length⟩ := appendDigits_split bound n 0 text
  rw [Nat.zero_add] at length
  have behind := Cursor.leads_behind one (appendDigits bound n 0 text).2.2 line column
  rw [← split, ← length] at behind
  exact behind

theorem countDigits_walks : Walks countDigits := by
  rintro ⟨text, line, column⟩
  let digits := text.takeWhile fun b => (digitOf? b).isSome
  have one : ∀ b ∈ digits, charOf b ≠ '\n' := fun b member =>
    isDigit_newline (List.all_eq_true.mp List.all_takeWhile b member)
  have behind := Cursor.leads_behind one (text.drop digits.length) line column
  rw [List.prefix_iff_eq_append.mp (List.takeWhile_prefix _)] at behind
  exact behind

theorem float_walks (negative : Bool) (significand : Nat) (e : Int) :
    Walks (float negative significand e) := by
  unfold float
  split
  next => exact .pure _
  next => exact failHere_walks _

theorem exponentDigits_walks (negative : Bool) (significand : Nat) (place : Int) (below : Bool) :
    Walks (exponentDigits negative significand place below) := by
  refine peek_walks.bind fun ch => ?_
  cases ch with
  | none => exact failHere_bind_walks _ _
  | some ch =>
      by_cases digit : ch.isDigit
      · simp only [digit, if_true]
        refine (takeDigits_walks _ _).bind fun taken => peek_walks.bind fun ch => ?_
        cases ch with
        | none => exact float_walks _ _ _
        | some ch =>
            dsimp only
            split
            next =>
              refine skip_walks.bind fun _ => ?_
              split
              next => exact failHere_bind_walks _ _
              next => exact countDigits_walks.bind fun _ => .pure _
            next => exact float_walks _ _ _
      · simp only [digit, Bool.false_eq_true, if_false]
        exact skip_walks.bind fun _ => failHere_bind_walks _ _

theorem exponent_walks (negative : Bool) (significand : Nat) (place : Int) :
    Walks (exponent negative significand place) := by
  rw [exponent_eq]
  refine skip_walks.bind fun _ => peek_walks.bind fun ch => ?_
  split
  next => exact skip_walks.bind fun _ => exponentDigits_walks _ _ _ _
  next => exact skip_walks.bind fun _ => exponentDigits_walks _ _ _ _
  next => exact exponentDigits_walks _ _ _ _

theorem fraction_walks (negative : Bool) (significand : Nat) (place : Int) :
    Walks (fraction negative significand place) := by
  refine (takeDigits_walks _ _).bind fun taken => countDigits_walks.bind fun dropped => ?_
  have rest : Walks (exponentOrEnd negative taken.1 (place - taken.2)) := by
    refine peek_walks.bind fun ch => ?_
    split
    next => exact exponent_walks _ _ _
    next => exact exponent_walks _ _ _
    next => exact float_walks _ _ _
  dsimp only
  split
  next =>
    refine peek_walks.bind fun ch => ?_
    split <;> exact failNext_bind_walks _ _
  next => exact rest

theorem fractionAndExponent_walks (negative : Bool) (significand : Nat) (place : Int) :
    Walks (fractionAndExponent negative significand place) := by
  rw [fractionAndExponent_eq]
  refine peek_walks.bind fun ch => ?_
  split
  next => exact skip_walks.bind fun _ => fraction_walks _ _ _
  next => exact exponent_walks _ _ _
  next => exact exponent_walks _ _ _
  next => exact float_walks _ _ _

theorem wholeOrFraction_walks (negative : Bool) (significand : Nat) :
    Walks (wholeOrFraction negative significand) := by
  refine countDigits_walks.bind fun dropped => peek_walks.bind fun ch => ?_
  split
  next =>
    split
    next => exact .pure _
    next => split <;> exact .pure _
  next => exact fractionAndExponent_walks _ _ _

theorem unsignedNumber_walks (negative : Bool) : Walks (unsignedNumber negative) := by
  have rest (significand : Nat) : Walks (wholeOrFraction negative significand) :=
    wholeOrFraction_walks negative significand
  refine peek_walks.bind fun ch => ?_
  cases ch with
  | none => exact failHere_walks _
  | some ch =>
      by_cases digit : ch.isDigit
      · simp only [digit, if_true]
        split
        next =>
          refine skip_walks.bind fun _ => peek_walks.bind fun ch => ?_
          cases ch with
          | none =>
              simp only [pure_bind]
              exact rest 0
          | some ch =>
              dsimp only
              split
              next => exact failNext_bind_walks _ _
              next =>
                simp only [pure_bind]
                exact rest 0
        next => exact (takeDigits_walks _ _).map.bind rest
      · simp only [digit, Bool.false_eq_true, if_false]
        exact skip_walks.bind fun _ => failHere_bind_walks _ _

theorem number_walks : Walks number := by
  refine peek_walks.bind fun ch => ?_
  split
  next => exact skip_walks.bind fun _ => unsignedNumber_walks _
  next => exact unsignedNumber_walks _

theorem skipDigits_walks : Walks skipDigits := by
  refine next_walks.bind fun ch => ?_
  cases ch with
  | none => exact failHere_bind_walks _ _
  | some ch =>
      dsimp only
      split
      next => exact countDigits_walks.bind fun _ => .pure ()
      next => exact failHere_bind_walks _ _

theorem skipExponent_walks : Walks skipExponent := by
  rw [skipExponent_eq]
  refine skip_walks.bind fun _ => peek_walks.bind fun ch => ?_
  split
  next => exact skip_walks.bind fun _ => skipDigits_walks
  next => exact skip_walks.bind fun _ => skipDigits_walks
  next => exact skipDigits_walks

theorem skipFraction_walks : Walks skipFraction := by
  refine skip_walks.bind fun _ => countDigits_walks.bind fun count => ?_
  split
  next => exact failNext_bind_walks _ _
  next =>
    refine peek_walks.bind fun ch => ?_
    split
    next => exact skipExponent_walks
    next => exact skipExponent_walks
    next => exact .pure ()

theorem skipFractionOrExponent_walks : Walks skipFractionOrExponent := by
  refine peek_walks.bind fun ch => ?_
  split
  next => exact skipFraction_walks
  next => exact skipExponent_walks
  next => exact skipExponent_walks
  next => exact .pure ()

theorem skipBehind_walks (first : Option Char) : Walks (skipBehind first) := by
  have rest : Walks skipFractionOrExponent := skipFractionOrExponent_walks
  unfold skipBehind
  split
  next =>
    refine peek_walks.bind fun ch => ?_
    split
    next => exact failNext_bind_walks _ _
    next => exact rest
  next =>
    split
    next => exact countDigits_walks.bind fun _ => rest
    next => exact failHere_bind_walks _ _
  next => exact failHere_bind_walks _ _

theorem skipNumber_walks : Walks skipNumber := next_walks.bind skipBehind_walks

theorem skipWord_walks (letters : List Char) (v : α) :
    Walks (skip >>= fun _ => word letters >>= fun _ => pure v) :=
  skip_walks.bind fun _ => (word_walks letters).bind fun _ => .pure v

theorem skipRest_walks (f : Unit → Reader α) (rest : Walks (f ())) :
    Walks (bytesLeft >>= fun n => skipString (n + 1) >>= f) :=
  bytesLeft_walks.bind fun _ => (skipString_walks _).bind fun _ => rest

theorem skipStart_walks : Walks skipStart := by
  refine peekSolid_walks.bind fun ch => ?_
  split
  next => exact failNext_walks _
  next => exact skipWord_walks _ _
  next => exact skipWord_walks _ _
  next => exact skipWord_walks _ _
  next => exact skip_walks.bind fun _ => skipNumber_walks.bind fun _ => .pure _
  next => exact skip_walks.bind fun _ => skipRest_walks _ (.pure _)
  next => exact skip_walks.bind fun _ => .pure _
  next => exact skip_walks.bind fun _ => .pure _
  next =>
    split
    next => exact skipNumber_walks.bind fun _ => .pure _
    next => exact failNext_walks _

theorem skipClosings_walks (between : Bool) (stack : List Bracket) :
    Walks (skipClosings between stack) := by
  induction stack generalizing between with
  | nil => exact .pure _
  | cons bracket outer ih =>
      refine peekSolid_walks.bind fun ch => ?_
      split
      next => exact failNext_walks _
      next =>
        split
        next => exact skip_walks.bind fun _ => ih true
        next =>
          split
          next => exact .pure _
          next =>
            split
            next => exact skip_walks.bind fun _ => .pure _
            next => exact failNext_walks _

theorem colon_walks : Walks colon := by
  refine peekSolid_walks.bind fun ch => ?_
  split
  next => exact skip_walks
  next => exact failNext_walks _
  next => exact failNext_walks _

theorem skipKey_walks : Walks skipKey := by
  refine peekSolid_walks.bind fun ch => ?_
  split
  next => exact skip_walks.bind fun _ => skipRest_walks _ colon_walks
  next => exact failNext_bind_walks _ _
  next => exact failNext_bind_walks _ _

theorem skipInside_walks (count : Nat) (stack : List Bracket) : Walks (skipInside count stack) := by
  induction count generalizing stack with
  | zero => exact .pure ()
  | succ count ih =>
      refine skipStart_walks.bind fun entered => ?_
      split
      all_goals
        refine (skipClosings_walks _ _).bind fun stack => ?_
        cases stack with
        | nil => exact .pure ()
        | cons bracket outer =>
            dsimp only
            split
            next => exact skipKey_walks.bind fun _ => ih _
            next => exact ih _

theorem skipValue_walks : Walks skipValue :=
  bytesLeft_walks.bind fun _ => skipInside_walks _ _

theorem closeList_walks : Walks closeList := by
  refine peekSolid_walks.bind fun ch => ?_
  split
  next => exact skip_walks
  next =>
    refine skip_walks.bind fun _ => peekSolid_walks.bind fun ch => ?_
    split <;> exact failNext_walks _
  next => exact failNext_walks _
  next => exact failNext_walks _

theorem closeObject_walks : Walks closeObject := by
  refine peekSolid_walks.bind fun ch => ?_
  split
  next => exact skip_walks
  next => exact failNext_walks _
  next => exact failNext_walks _
  next => exact failNext_walks _

theorem nextElement_walks (first : Bool) : Walks (nextElement first) := by
  refine peekSolid_walks.bind fun ch => ?_
  split
  next => exact failNext_walks _
  next => exact .pure _
  next =>
    split
    next => exact .pure _
    next =>
      split
      next =>
        refine skip_walks.bind fun _ => peekSolid_walks.bind fun ch => ?_
        split
        next => exact failNext_walks _
        next => exact .pure _
        next => exact failNext_walks _
      next => exact failNext_walks _

theorem keyFrom_walks (ch : Char) : Walks (keyFrom ch) := by
  unfold keyFrom
  split
  next => exact skip_walks.bind fun _ => stringRest_walks.map
  next => exact failNext_walks _

theorem nextKey_walks (first : Bool) : Walks (nextKey first) := by
  rw [nextKey_eq]
  refine peekSolid_walks.bind fun ch => ?_
  split
  next => exact failNext_walks _
  next => exact .pure _
  next ch _ =>
    split
    next => exact keyFrom_walks ch
    next =>
      split
      next =>
        refine skip_walks.bind fun _ => peekSolid_walks.bind fun ch => ?_
        split
        next => exact failNext_walks _
        next ch _ => exact keyFrom_walks ch
        next => exact failNext_walks _
      next => exact failNext_walks _

theorem elements_walks (element : Walks p) : Walks (elements p) := by
  have each (count : Nat) (first : Bool) : Walks (elementsFrom p count first) := by
    induction count generalizing first with
    | zero => exact .pure _
    | succ count ih =>
        refine (nextElement_walks first).bind fun more => ?_
        split
        next => exact element.bind fun _ => (ih false).bind fun _ => .pure _
        next => exact .pure _
  exact bytesLeft_walks.bind fun _ => each _ _

section Members

variable {member : σ → String → Reader σ} (each : ∀ gathered key, Walks (member gathered key))

include each

theorem membersFrom_walks (count : Nat) (first : Bool) (gathered : σ) :
    Walks (membersFrom member count first gathered) := by
  induction count generalizing first gathered with
  | zero => exact .pure _
  | succ count ih =>
      refine (nextKey_walks first).bind fun key => ?_
      split
      next key => exact (each gathered key).bind fun more => ih false more
      next => exact .pure _

theorem members_walks (empty : σ) : Walks (members member empty) :=
  bytesLeft_walks.bind fun _ => membersFrom_walks each _ true empty

end Members

theorem value_walks (levels : Nat) : Walks (value levels) := by
  have atom {nested : Option (Reader Value)} (deeper : ∀ q, nested = some q → Walks q) :
      Walks (valueStep nested) := by
    have enters : Walks (enterWith nested) := by
      cases nested with
      | none => exact failNext_walks _
      | some q => exact skip_walks.bind fun _ => .pure q
    refine peekSolid_walks.bind fun ch => ?_
    split
    next => exact failNext_walks _
    next => exact skipWord_walks _ _
    next => exact skipWord_walks _ _
    next => exact skipWord_walks _ _
    next => exact skip_walks.bind fun _ => stringRest_walks.bind fun _ => .pure _
    next =>
      cases nested with
      | none => exact failNext_bind_walks _ _
      | some q =>
          simp only [enterWith, bind_assoc, pure_bind]
          have items := Walks.closedBy closeList_walks (elements_walks (deeper q rfl))
          exact skip_walks.bind fun _ => items.placed.map
    next =>
      cases nested with
      | none => exact failNext_bind_walks _ _
      | some q =>
          simp only [enterWith, bind_assoc, pure_bind]
          refine skip_walks.bind fun _ => (Walks.placed (.closedBy closeObject_walks
            (members_walks (fun pairs key => ?_) _))).bind fun _ => .pure _
          exact colon_walks.bind fun _ => (deeper q rfl).bind fun _ => .pure _
    next =>
      split
      next => exact number_walks.map
      next => exact failNext_walks _
  induction levels with
  | zero =>
      refine atom fun q same => ?_
      cases same
  | succ levels ih =>
      refine atom fun q same => ?_
      cases same
      exact ih

theorem valueStart_walks : Walks valueStart := by
  refine peekSolid_walks.bind fun ch => ?_
  split
  next => exact .pure _
  next => exact failNext_walks _

theorem skipWord_reject_walks (letters : List Char) (fault : Fault) :
    Walks (skip >>= fun _ => word letters >>= fun _ => reject fault : Reader α) :=
  skip_walks.bind fun _ => (word_walks letters).bind fun _ => reject_walks _

theorem mistyped_walks (expected : String) : Walks (mistyped expected : Reader α) := by
  refine .placed (peek_walks.bind fun ch => ?_)
  split
  next => exact skipWord_reject_walks _ _
  next => exact skipWord_reject_walks _ _
  next => exact skipWord_reject_walks _ _
  next => exact skip_walks.bind fun _ => stringRest_walks.bind fun _ => reject_walks _
  next => exact reject_walks _
  next => exact reject_walks _
  next =>
    split
    next => exact number_walks.bind fun _ => reject_walks _
    next => exact failNext_walks _
  next => exact failNext_walks _

theorem ofExcept_walks (result : Except Fault α) : Walks (ofExcept result) := by
  cases result with
  | ok v => exact .pure v
  | error fault => exact reject_walks fault

theorem numberAs_walks (expected : String) (convert : Number → Except Fault α) :
    Walks (numberAs expected convert) := by
  refine valueStart_walks.bind fun ch => ?_
  split
  next => exact .placed (number_walks.bind fun _ => ofExcept_walks _)
  next => exact mistyped_walks _

theorem string_walks : Walks string := by
  refine valueStart_walks.bind fun ch => ?_
  split
  next => exact skip_walks.bind fun _ => stringRest_walks
  next => exact mistyped_walks _

theorem optional_walks (walks : Walks p) : Walks (optional p) := by
  refine peekSolid_walks.bind fun ch => ?_
  split
  next => exact skipWord_walks _ _
  next => exact walks.map

theorem choiceName_walks (names : List (String × α)) : Walks (choiceName names) := by
  refine .placed (valueStart_walks.bind fun ch => ?_)
  split
  next =>
    refine skip_walks.bind fun _ => stringRest_walks.bind fun text => ?_
    split
    next => exact .pure _
    next => exact reject_walks _
  next => exact mistyped_walks _

theorem choiceEnd_walks (v : α) : Walks (choiceEnd v) := by
  refine peekSolid_walks.bind fun ch => ?_
  split
  next => exact skip_walks.bind fun _ => .pure v
  next => exact failHere_walks _
  next => exact failHere_walks _

theorem choice_walks (levels : Nat) (names : List (String × α)) : Walks (choice levels names) := by
  have name : Walks (choiceName names) := choiceName_walks names
  refine peekSolid_walks.bind fun ch => ?_
  split
  next => exact name
  next =>
    cases levels with
    | zero => exact failNext_walks _
    | succ inner =>
        refine skip_walks.bind fun _ => name.bind fun v => colon_walks.bind fun _ => ?_
        refine valueStart_walks.bind fun ch => ?_
        split
        next =>
          exact skip_walks.bind fun _ => (word_walks _).bind fun _ => choiceEnd_walks v
        next => exact (mistyped_walks _).never (mistyped_never _)
  next => exact failNext_walks _
  next => exact failNext_walks _

section Brackets

variable (levels : Nat) {body : Nat → Reader α} (each : ∀ inner, Walks (body inner))

include each

theorem bracketed_walks {close : Reader Unit} (closes : Walks close) :
    Walks (bracketed close levels body) := by
  cases levels with
  | zero => exact failNext_walks _
  | succ inner => exact skip_walks.bind fun _ => .placed (.closedBy closes (each inner))

theorem inList_walks : Walks (inList levels body) := bracketed_walks levels each closeList_walks

theorem inObject_walks : Walks (inObject levels body) :=
  bracketed_walks levels each closeObject_walks

theorem list_walks : Walks (list levels body) := by
  refine valueStart_walks.bind fun ch => ?_
  split
  next => exact inList_walks levels fun inner => elements_walks (each inner)
  next => exact mistyped_walks _

theorem tuple_walks (expected : String) (count : Nat) :
    Walks (tuple levels expected count body) := by
  have exactly (inner index count : Nat) :
      Walks (exactElements expected (body inner) index count) := by
    induction count generalizing index with
    | zero => exact .pure _
    | succ count ih =>
        refine (nextElement_walks _).bind fun more => ?_
        split
        next => exact (each inner).bind fun _ => (ih (index + 1)).bind fun _ => .pure _
        next => exact reject_walks _
  refine valueStart_walks.bind fun ch => ?_
  split
  next => exact inList_walks levels fun inner => exactly inner 0 count
  next => exact mistyped_walks _

end Brackets

theorem vector_walks (levels : Nat) : Walks (vector levels) := by
  refine (tuple_walks levels (fun _ => numberAs_walks _ _) _ _).bind fun components => ?_
  split
  next => exact .pure _
  next => exact reject_walks _

theorem Field.of_walks (name : String) (get : σ → Option β) (set : σ → β → σ) {reader : Reader β}
    (walks : Walks reader) (draft : σ) : Walks ((Field.of name get set reader).read draft) :=
  walks.bind fun _ => .pure _

namespace Record

theorem member_walks {record : Record σ α}
    (reads : ∀ field ∈ record.fields, ∀ draft, Walks (field.read draft)) (draft : σ)
    (key : String) : Walks (record.member draft key) := by
  unfold Record.member
  split
  next field found =>
    have own := reads field (List.mem_of_find?_eq_some found) draft
    split
    next => exact (reject_walks _).never (reject_never _)
    next => exact colon_walks.bind fun _ => own
  next =>
    split
    next => exact (reject_walks _).never (reject_never _)
    next => exact colon_walks.bind fun _ => skipValue_walks.bind fun _ => .pure _

theorem fieldsInOrder_walks {fields : List (Field σ)}
    (reads : ∀ field ∈ fields, ∀ draft, Walks (field.read draft)) (first : Bool) (draft : σ) :
    Walks (fieldsInOrder fields first draft) := by
  induction fields generalizing first draft with
  | nil => exact .pure _
  | cons field fields ih =>
      have ⟨own, others⟩ := List.forall_mem_cons.mp reads
      refine (nextElement_walks first).bind fun more => ?_
      split
      next => exact (own draft).bind fun draft => ih others false draft
      next => exact .pure _

theorem read_walks {record : Nat → Record σ α} (levels : Nat)
    (reads : ∀ inner, ∀ field ∈ (record inner).fields, ∀ draft, Walks (field.read draft)) :
    Walks (Record.read record levels) := by
  refine valueStart_walks.bind fun ch => ?_
  split
  next =>
    refine inList_walks levels fun inner => ?_
    exact (fieldsInOrder_walks (reads inner) true _).bind fun _ => ofExcept_walks _
  next =>
    refine inObject_walks levels fun inner => ?_
    exact (members_walks (member_walks (reads inner)) _).bind fun _ => ofExcept_walks _
  next => exact mistyped_walks _

end Record

end RayScene.Json
