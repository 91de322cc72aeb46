import Mathlib.Data.List.Forall2
import RayScene.Json.Typed
import RayScene.Proofs.Json.Values

namespace RayScene.Json

variable {tail : List UInt8} {α β σ : Type} {p p' : Reader α} {R : Cursor → Cursor → Prop}

theorem Follows.placed (follows : Follows tail R p p') : Follows tail R (placed p) (placed p') where
  shrinks c v d read := follows.shrinks c v d (placed_ok.mp read)
  tracks := by
    intro c c' v d' related read inside
    obtain ⟨d, read, rest⟩ := follows.tracks c c' v d' related (placed_ok.mp read) inside
    exact ⟨d, placed_ok.mpr read, rest⟩

theorem mistyped_never (expected : String) : Never (mistyped expected : Reader α) :=
  mistyped_yields expected

theorem ofExcept_keeps (result : Except Fault α) : Keeps tail (ofExcept result) := by
  cases result with
  | ok v => exact pure_keeps v
  | error fault => exact (reject_never fault).follows

theorem valueStart_bind (f : Char → Reader β) :
    (valueStart >>= f) = peekSolid >>= fun
      | some c => f c
      | none => failNext .endInValue := by
  unfold valueStart
  rw [bind_assoc]
  congr 1
  funext c
  cases c with
  | none => rfl
  | some c => rfl

theorem Follows.valueStart {f f' : Char → Reader β}
    (same : ∀ ch, Follows tail (Headed tail ch) (f ch) (f' ch)) :
    Follows tail (Aligned tail) (valueStart >>= f) (valueStart >>= f') := by
  rw [valueStart_bind, valueStart_bind]
  exact .peekSolid same (failNext_never _).shrinks

theorem Closes.valueStart {f f' : Char → Reader β}
    (same : ∀ ch, Closes tail (Headed tail ch) (f ch) (f' ch)) :
    Closes tail (Aligned tail) (valueStart >>= f) (valueStart >>= f') := by
  rw [valueStart_bind, valueStart_bind]
  exact .peekSolid same (failNext_never _)

theorem numberAs_keeps (expected : String) (convert : Number → Except Fault α) :
    Keeps tail (numberAs expected convert) := by
  refine .valueStart fun ch => ?_
  split
  next => exact Follows.headed (Follows.placed (number_keeps.bind fun _ => ofExcept_keeps _))
  next => exact (mistyped_never _).follows

theorem single_keeps : Keeps tail single := numberAs_keeps _ _

theorem string_keeps : Keeps tail string := by
  refine .valueStart fun ch => ?_
  split
  next => exact .skipHead stringRest_keeps
  next => exact (mistyped_never _).follows

theorem optional_follows (follows : Follows tail (Aligned tail) p p') :
    Follows tail (Aligned tail) (optional p) (optional p') := by
  have one : Follows tail (Aligned tail) (some <$> p) (some <$> p') := follows.map
  refine .peekSolid ?_ one.shrinks
  intro ch
  split
  next => exact .skipHead ((word_keeps (by simp [lineEnds])).bind fun _ => pure_keeps _)
  next => exact one.headed

def choiceName (names : List (String × α)) : Reader α := placed do
  if (← valueStart) = '"' then
    skip
    let text ← stringRest
    match names.lookup text with
    | some value => return value
    | none => reject (.unknownVariant text (names.map (·.1)))
  else mistyped "variant identifier"

theorem choiceName_keeps (names : List (String × α)) : Keeps tail (choiceName names) := by
  refine Follows.placed (.valueStart fun ch => ?_)
  split
  next =>
    refine .skipHead (stringRest_keeps.bind fun text => ?_)
    split
    next => exact pure_keeps _
    next => exact (reject_never _).follows
  next => exact (mistyped_never _).follows

def choiceEnd (value : α) : Reader α := do
  match ← peekSolid with
  | some '\x7d' =>
    skip
    return value
  | some _ => failHere .expectedValue
  | none => failHere .endInObject

theorem choiceEnd_keeps (value : α) : Keeps tail (choiceEnd value) := by
  refine .peekSolid ?_ (failHere_never _).shrinks
  intro ch
  split
  next => exact .skipHead (pure_keeps _)
  next => exact (failHere_never _).follows
  next h => cases h

section Brackets

variable {levels levels' : Nat} (fits : levels' ≤ levels) {body body' : Nat → Reader α}

include fits

theorem bracketed_closes {close : Reader Unit} {ch : Char}
    (closing : Closes tail (Aligned tail) close close) (each : ∀ inner inner', inner' ≤ inner →
      Follows tail (Aligned tail) (body inner) (body' inner')) :
    Closes tail (Headed tail ch) (bracketed close levels body) (bracketed close levels' body') := by
  cases levels' with
  | zero => exact (failNext_never _).closes
  | succ inner' =>
      cases levels with
      | zero => exact absurd fits (Nat.not_succ_le_zero _)
      | succ inner =>
          have inside := each inner inner' (Nat.le_of_succ_le_succ fits)
          exact .skipHead (closing.closedBy inside).placed

theorem inList_closes {ch : Char} (each : ∀ inner inner', inner' ≤ inner →
    Follows tail (Aligned tail) (body inner) (body' inner')) :
    Closes tail (Headed tail ch) (inList levels body) (inList levels' body') :=
  bracketed_closes fits closeList_closes each

theorem inObject_closes {ch : Char} (each : ∀ inner inner', inner' ≤ inner →
    Follows tail (Aligned tail) (body inner) (body' inner')) :
    Closes tail (Headed tail ch) (inObject levels body) (inObject levels' body') :=
  bracketed_closes fits closeObject_closes each

theorem list_follows (each : ∀ inner inner', inner' ≤ inner →
    Follows tail (Aligned tail) (body inner) (body' inner')) :
    Follows tail (Aligned tail) (list levels body) (list levels' body') := by
  refine .valueStart fun ch => ?_
  split
  next =>
    refine Closes.follows (inList_closes fits fun inner inner' fits => ?_)
    exact elements_follows (each inner inner' fits)
  next => exact (mistyped_never _).follows

omit fits in
theorem exactElements_follows (expected : String) (element : Follows tail (Aligned tail) p p')
    (index count : Nat) : Follows tail (Aligned tail) (exactElements expected p index count)
      (exactElements expected p' index count) := by
  induction count generalizing index with
  | zero => exact pure_keeps _
  | succ count ih =>
      refine (nextElement_keeps _).bind fun more => ?_
      split
      next => exact element.bind fun _ => (ih (index + 1)).bind fun _ => pure_keeps _
      next => exact (reject_never _).follows

theorem tuple_follows (expected : String) (count : Nat) (each : ∀ inner inner', inner' ≤ inner →
    Follows tail (Aligned tail) (body inner) (body' inner')) :
    Follows tail (Aligned tail) (tuple levels expected count body)
      (tuple levels' expected count body') := by
  refine .valueStart fun ch => ?_
  split
  next =>
    refine Closes.follows (inList_closes fits fun inner inner' fits => ?_)
    exact exactElements_follows _ (each inner inner' fits) 0 count
  next => exact (mistyped_never _).follows

theorem vector_follows : Follows tail (Aligned tail) (vector levels) (vector levels') := by
  refine (tuple_follows fits _ _ fun _ _ _ => single_keeps).bind fun components => ?_
  split
  next => exact pure_keeps _
  next => exact (reject_never _).follows

theorem choice_follows (names : List (String × α)) :
    Follows tail (Aligned tail) (choice levels names) (choice levels' names) := by
  have name : Keeps tail (choiceName names) := choiceName_keeps names
  refine .peekSolid ?_ (failNext_never _).shrinks
  intro ch
  split
  next => exact name.headed
  next =>
    cases levels' with
    | zero => exact (failNext_never _).follows
    | succ inner' =>
        cases levels with
        | zero => exact absurd fits (Nat.not_succ_le_zero _)
        | succ inner =>
            refine .skipHead (name.bind fun value => colon_keeps.bind fun _ => ?_)
            have closing : Keeps tail (choiceEnd value) := choiceEnd_keeps value
            refine .valueStart fun ch => ?_
            split
            next => exact .skipHead ((word_keeps (by simp [lineEnds])).bind fun _ => closing)
            next => exact (mistyped_never _).bind.follows
  next => exact (failNext_never _).follows
  next h => cases h

end Brackets

structure Field.Alike (tail : List UInt8) (f f' : Field σ) : Prop where
  name : f.name = f'.name
  isSet : f.isSet = f'.isSet
  reads : ∀ draft, Follows tail (Aligned tail) (f.read draft) (f'.read draft)

theorem Field.Alike.of (name : String) (get : σ → Option β) (set : σ → β → σ)
    {reader reader' : Reader β} (follows : Follows tail (Aligned tail) reader reader') :
    Field.Alike tail (.of name get set reader) (.of name get set reader') where
  name := rfl
  isSet := rfl
  reads _ := follows.bind fun _ => pure_keeps _

structure Record.Alike (tail : List UInt8) (r r' : Record σ α) : Prop where
  title : r.title = r'.title
  rejectsUnknown : r.rejectsUnknown = r'.rejectsUnknown
  fields : List.Forall₂ (Field.Alike tail) r.fields r'.fields
  draft : r.draft = r'.draft
  finish : r.finish = r'.finish

namespace Record

theorem fieldsInOrder_follows {fields fields' : List (Field σ)}
    (alike : List.Forall₂ (Field.Alike tail) fields fields') (first : Bool) (draft : σ) :
    Follows tail (Aligned tail) (fieldsInOrder fields first draft)
      (fieldsInOrder fields' first draft) := by
  induction alike generalizing first draft with
  | nil => exact pure_keeps _
  | cons own _ ih =>
      refine (nextElement_keeps first).bind fun more => ?_
      split
      next => exact (own.reads draft).bind fun draft => ih false draft
      next => exact pure_keeps _

theorem find?_alike {fields fields' : List (Field σ)}
    (alike : List.Forall₂ (Field.Alike tail) fields fields') (key : String) :
    Option.Rel (Field.Alike tail) (fields.find? (·.name == key))
      (fields'.find? (·.name == key)) := by
  induction alike with
  | nil => exact .none
  | cons own others ih =>
      rw [List.find?_cons, List.find?_cons, own.name]
      split
      next => exact .some own
      next => exact ih

variable {record record' : Record σ α} (alike : record.Alike tail record')

include alike

theorem member_follows (draft : σ) (key : String) :
    Follows tail (Aligned tail) (record.member draft key) (record'.member draft key) := by
  have found := find?_alike alike.fields key
  unfold Record.member
  generalize record.fields.find? (·.name == key) = here at found ⊢
  generalize record'.fields.find? (·.name == key) = here' at found ⊢
  cases found with
  | some own =>
      dsimp only
      rw [own.isSet]
      split
      next => exact Never.follows (reject_never _).bind
      next => exact colon_keeps.bind fun _ => own.reads draft
  | none =>
      dsimp only
      rw [alike.rejectsUnknown]
      split
      next => exact Never.follows (reject_never _).bind
      next => exact colon_keeps.bind fun _ => skipValue_keeps.bind fun _ => pure_keeps _

omit alike in
/-- A record in front of the tail is read the same, with more levels as well. -/
theorem read_closes {record record' : Nat → Record σ α} {levels levels' : Nat}
    (fits : levels' ≤ levels)
    (alike : ∀ inner inner', inner' ≤ inner → (record inner).Alike tail (record' inner')) :
    Closes tail (Aligned tail) (Record.read record levels) (Record.read record' levels') := by
  refine .valueStart fun ch => ?_
  split
  next =>
    refine inList_closes fits fun inner inner' fits => ?_
    have same := alike inner inner' fits
    have missing : (record inner).missingElement = (record' inner').missingElement := by
      funext index name
      rw [missingElement, missingElement, same.title, same.fields.length_eq]
    dsimp only
    rw [← same.finish, ← same.draft, ← missing]
    exact (fieldsInOrder_follows same.fields true _).bind fun draft => ofExcept_keeps _
  next =>
    refine inObject_closes fits fun inner inner' fits => ?_
    have same := alike inner inner' fits
    dsimp only
    rw [← same.finish, ← same.draft]
    exact (members_follows (member_follows same) _).bind fun draft => ofExcept_keeps _
  next => exact (mistyped_never _).closes

end Record

def endOfText (v : α) : Reader α := do
  match ← peekSolid with
  | none => return v
  | some _ => failNext .trailingCharacters

theorem endOfText_ok {v w : α} {c d : Cursor} :
    endOfText v c = .ok w d ↔ solids c.rest = [] ∧ v = w ∧ c.solid = d := by
  rw [endOfText, peekSolid_bind]
  cases here : c.solid.rest.head? with
  | none =>
      have blank : solids c.rest = [] := by
        rw [← solids_dropWhile, ← Cursor.solid_rest, List.head?_eq_none_iff.mp here]
        rfl
      constructor
      · intro read
        cases read
        exact ⟨blank, rfl, rfl⟩
      · rintro ⟨-, rfl, rfl⟩
        rfl
  | some b =>
      refine iff_of_false (failNext_never _ _ _ _) ?_
      rintro ⟨blank, -⟩
      rw [c.solids_of_head here] at blank
      cases blank

/-- A text holds one value if nothing but blanks follows what is read from it. -/
theorem readText_ok {reader : Nat → Reader α} {text : List UInt8} {v : α} :
    readText reader text = .ok v ↔
      ∃ d, reader maxLevels (Cursor.start text) = .ok v d ∧ solids d.rest = [] := by
  have outcome : readText reader text = .ok v ↔
      ∃ e, (reader maxLevels >>= endOfText) (Cursor.start text) = .ok v e := by
    unfold readText
    dsimp only
    split
    next w e whole =>
      constructor
      · intro same
        cases same
        exact ⟨e, whole⟩
      · rintro ⟨d, same⟩
        cases whole.symm.trans same
        rfl
    next failure e whole =>
      refine iff_of_false nofun ?_
      rintro ⟨d, same⟩
      cases whole.symm.trans same
  rw [outcome]
  constructor
  · rintro ⟨e, whole⟩
    obtain ⟨w, d, one, rest⟩ := bind_ok.mp whole
    obtain ⟨blank, rfl, -⟩ := endOfText_ok.mp rest
    exact ⟨d, one, blank⟩
  · rintro ⟨d, one, blank⟩
    exact ⟨d.solid, bind_ok.mpr ⟨v, d, one, endOfText_ok.mpr ⟨blank, rfl, rfl⟩⟩⟩

end RayScene.Json
