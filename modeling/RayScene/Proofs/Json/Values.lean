import RayScene.Json.Skip
import RayScene.Json.Value
import RayScene.Proofs.Json.Atoms

namespace RayScene.Json

open Cursor (charOf isBlank)

variable {tail : List UInt8} {α β σ : Type} {p p' : Reader α}

def TakesHead (P : α → Prop) (p : Reader α) : Prop :=
  ∀ c v d, c.rest ≠ [] → p c = .ok v d → P v → d.rest.length < c.rest.length

namespace TakesHead

variable {P : α → Prop}

theorem pure {v : α} (other : ¬ P v) : TakesHead P (Pure.pure v) := by
  intro c w d _ read holds
  cases read
  exact absurd holds other

theorem never (never : Never p) : TakesHead P p := fun c v d _ read _ => (never c v d read).elim

theorem skip {g : Unit → Reader α} (rest : Shrinks (g ())) : TakesHead P (Json.skip >>= g) := by
  intro c v d some read _
  have less := (rest c.advance v d read).length_le
  rw [Cursor.advance_rest, List.length_tail] at less
  have positive := List.length_pos_iff.mpr some
  omega

theorem next {g : Option Char → Reader α} (rest : ∀ c, Shrinks (g c)) :
    TakesHead P (Json.next >>= g) := by
  have expand : (Json.next >>= g) = Json.peek >>= fun c => Json.skip >>= fun _ => g c := by
    simp only [Json.next, bind_assoc, pure_bind]
  intro c v d some read holds
  rw [expand] at read
  obtain ⟨ch, e, peeked, others⟩ := bind_ok.mp read
  have stays : e = c := by
    unfold Json.peek at peeked
    obtain ⟨text, line, column⟩ := c
    cases text <;> cases peeked <;> rfl
  exact skip (rest ch) c v d some (stays ▸ others) holds

theorem bind {f : β → Reader α} {q : Reader β} (first : TakesHead (fun _ => True) q)
    (rest : ∀ v, Shrinks (f v)) : TakesHead P (q >>= f) := by
  intro c v d some read _
  obtain ⟨w, e, one, others⟩ := bind_ok.mp read
  exact Nat.lt_of_le_of_lt (rest w e v d others).length_le (first c w e some one trivial)

end TakesHead

theorem Takes.peekSolid {P : α → Prop} {g : Option Char → Reader α}
    (rest : ∀ ch, TakesHead P (g (some ch))) (atEnd : Never (g none)) :
    Takes P (Json.peekSolid >>= g) := by
  intro c v d read holds
  rw [peekSolid_bind] at read
  cases here : c.solid.rest.head? with
  | none =>
      rw [here] at read
      exact (atEnd _ v d read).elim
  | some b =>
      rw [here] at read
      have some : c.solid.rest ≠ [] := by
        intro none
        rw [none] at here
        cases here
      exact Nat.lt_of_lt_of_le (rest _ _ v d some read holds) c.solid_suffix.length_le

def skipDigits : Reader Unit := do
  match ← next with
  | some c => unless c.isDigit do failHere .invalidNumber
  | none => failHere .invalidNumber
  let _ ← countDigits

theorem skipDigits_keeps : Keeps tail skipDigits := by
  refine .next ?_ ?_ ?_
  · intro ch
    dsimp only
    split
    next => exact countDigits_keeps.bind fun _ => pure_keeps ()
    next => exact (failHere_never _).bind.follows
  · intro ch gap
    simp only [isDigit_lineEnd gap, Bool.false_eq_true, if_false]
    exact (failHere_never _).bind
  · exact (failHere_never _).bind

theorem skipExponent_eq : skipExponent = (do
    skip
    match ← peek with
    | some '+' | some '-' =>
      skip
      skipDigits
    | _ => skipDigits) := rfl

theorem skipExponent_follows (ch : Char) :
    Follows tail (Headed tail ch) skipExponent skipExponent := by
  have digits : Keeps tail skipDigits := skipDigits_keeps
  rw [skipExponent_eq]
  refine .skipHead ?_
  refine .peekOr ?_ digits rfl digits.shrinks
  intro ch
  split
  next => exact .skipHead digits
  next => exact .skipHead digits
  next => exact digits.headed

theorem skipFraction_follows (ch : Char) :
    Follows tail (Headed tail ch) skipFraction skipFraction := by
  have done : Keeps tail (pure ()) := pure_keeps ()
  refine .skipHead (countDigits_keeps.bind fun count => ?_)
  split
  next => exact (failNext_never _).bind.follows
  next =>
    refine .peekOr ?_ done rfl done.shrinks
    intro ch
    split
    next => exact skipExponent_follows _
    next => exact skipExponent_follows _
    next => exact done.headed

def skipFractionOrExponent : Reader Unit := do
  match ← peek with
  | some '.' => skipFraction
  | some 'e' | some 'E' => skipExponent
  | _ => pure ()

theorem skipFractionOrExponent_keeps : Keeps tail skipFractionOrExponent := by
  have done : Keeps tail (pure ()) := pure_keeps ()
  refine .peekOr ?_ done rfl done.shrinks
  intro ch
  split
  next => exact skipFraction_follows _
  next => exact skipExponent_follows _
  next => exact skipExponent_follows _
  next => exact done.headed

def skipBehind (first : Option Char) : Reader Unit := do
  match first with
  | some '0' =>
    if ((← peek).map Char.isDigit).getD false then failNext .invalidNumber
  | some c =>
    unless c.isDigit do failHere .invalidNumber
    let _ ← countDigits
  | none => failHere .invalidNumber
  skipFractionOrExponent

theorem skipBehind_keeps (first : Option Char) : Keeps tail (skipBehind first) := by
  have rest : Keeps tail skipFractionOrExponent := skipFractionOrExponent_keeps
  unfold skipBehind
  split
  next =>
    refine .peekOr ?_ rest rfl rest.shrinks
    intro ch
    dsimp only
    split
    next => exact (failNext_never _).bind.follows
    next => exact Follows.headed rest
  next =>
    split
    next => exact countDigits_keeps.bind fun _ => rest
    next => exact (failHere_never _).bind.follows
  next => exact (failHere_never _).bind.follows

theorem skipNumber_keeps : Keeps tail skipNumber := by
  refine .next (fun ch => skipBehind_keeps (some ch)) ?_ (failHere_never _).bind
  intro ch gap
  rcases mem_lineEnds.mp gap with rfl | rfl <;> exact (failHere_never _).bind

theorem skipNumber_takes {P : Unit → Prop} : TakesHead P skipNumber :=
  .next fun first => (skipBehind_keeps first : Keeps [] _).shrinks

theorem skipString_keeps : Keeps tail (bytesLeft >>= fun n => skipString (n + 1)) := by
  refine .bytesLeft fun n n' => ?_
  exact (skipString_follows (n + 1) (n' + 1)).mono fun _ _ bounded => bounded.succ

theorem skipStart_keeps : Keeps tail skipStart := by
  refine .peekSolid ?_ (failNext_never _).shrinks
  intro ch
  split
  next h => cases h
  next => exact .skipHead ((word_keeps (by simp [lineEnds])).bind fun _ => pure_keeps _)
  next => exact .skipHead ((word_keeps (by simp [lineEnds])).bind fun _ => pure_keeps _)
  next => exact .skipHead ((word_keeps (by simp [lineEnds])).bind fun _ => pure_keeps _)
  next => exact .skipHead (skipNumber_keeps.bind fun _ => pure_keeps _)
  next => exact .skipHead (skipString_keeps.bind fun _ => pure_keeps _)
  next => exact .skipHead (pure_keeps _)
  next => exact .skipHead (pure_keeps _)
  next =>
    split
    next => exact Follows.headed (skipNumber_keeps.bind fun _ => pure_keeps _)
    next => exact (failNext_never _).follows

theorem skipStart_takes {P : Option Bracket → Prop} : Takes P skipStart := by
  have name {letters : List Char} (solid : ∀ c ∈ letters, c ∉ lineEnds) :
      Shrinks (word letters >>= fun _ => pure (none : Option Bracket)) :=
    (Follows.bind (word_keeps solid) fun _ => pure_keeps _ : Keeps [] _).shrinks
  have number : Shrinks (skipNumber >>= fun _ => pure (none : Option Bracket)) :=
    (Follows.bind skipNumber_keeps fun _ => pure_keeps _ : Keeps [] _).shrinks
  have string : Shrinks (bytesLeft >>= fun n => skipString (n + 1) >>= fun _ =>
      pure (none : Option Bracket)) :=
    (Follows.bind skipString_keeps fun _ => pure_keeps _ : Keeps [] _).shrinks
  have entered (bracket : Bracket) : Shrinks (pure (some bracket)) :=
    (pure_keeps _ : Keeps [] _).shrinks
  refine .peekSolid ?_ (failNext_never _)
  intro ch
  split
  next h => cases h
  next => exact .skip (name (by simp [lineEnds]))
  next => exact .skip (name (by simp [lineEnds]))
  next => exact .skip (name (by simp [lineEnds]))
  next => exact .skip number
  next => exact .skip string
  next => exact .skip (entered .list)
  next => exact .skip (entered .object)
  next =>
    split
    next => exact skipNumber_takes.bind fun _ => (pure_keeps _ : Keeps [] _).shrinks
    next => exact .never (failNext_never _)

theorem skipClosings_keeps (between : Bool) (stack : List Bracket) :
    Keeps tail (skipClosings between stack) := by
  induction stack generalizing between with
  | nil => exact pure_keeps _
  | cons bracket outer ih =>
      refine .peekSolid ?_ (failNext_never _).shrinks
      intro ch
      dsimp only
      split
      next => exact .skipHead (ih true)
      next =>
        split
        next => exact Follows.headed (pure_keeps _)
        next =>
          split
          next => exact .skipHead (pure_keeps _)
          next => exact (failNext_never _).follows

theorem colon_keeps : Keeps tail colon := by
  refine .peekSolid ?_ (failNext_never _).shrinks
  intro ch
  split
  next => exact .skipHead (pure_keeps ())
  next => exact (failNext_never _).follows
  next h => cases h

theorem skipKey_keeps : Keeps tail skipKey := by
  refine .peekSolid ?_ (failNext_never _).bind.shrinks
  intro ch
  split
  next => exact .skipHead (skipString_keeps.bind fun _ => colon_keeps)
  next => exact (failNext_never _).bind.follows
  next h => cases h

theorem skipInside_follows (count count' : Nat) (stack : List Bracket) :
    Follows tail (Bounded tail count count') (skipInside count stack)
      (skipInside count' stack) := by
  refine Follows.loop skipInside skipInside ?_ ?_ count count' stack
  · exact fun _ => (pure_keeps () : Keeps [] _).shrinks
  · intro count count' ih stack
    unfold skipInside
    refine Follows.bindTaking skipStart_keeps skipStart_takes skipStart_takes
      (P := fun _ => True) ?_ fun _ no => absurd trivial no
    intro entered _
    split
    all_goals
      refine (skipClosings_keeps _ _).bindBounded fun stack => ?_
      cases stack with
      | nil => exact .pure (fun _ _ bounded => bounded.1) ()
      | cons bracket outer =>
          dsimp only
          split
          next => exact skipKey_keeps.bindBounded fun _ => ih _
          next => exact ih _

theorem skipValue_keeps : Keeps tail skipValue := by
  refine .bytesLeft fun n n' => ?_
  exact (skipInside_follows (n + 1) (n' + 1) []).mono fun _ _ bounded => bounded.succ

theorem closeList_ok (c d : Cursor) : closeList c = .ok () d ↔
    c.solid.rest.head?.map charOf = some ']' ∧ c.solid.advance = d := by
  refine Closes.bracket_ok rfl ?_ c d
  intro next other
  split
  next => exact absurd rfl other
  next =>
    refine .last fun _ => .last fun next => ?_
    split <;> exact failNext_never _
  next => exact failNext_never _
  next => exact failNext_never _

theorem closeObject_ok (c d : Cursor) : closeObject c = .ok () d ↔
    c.solid.rest.head?.map charOf = some '\x7d' ∧ c.solid.advance = d := by
  refine Closes.bracket_ok rfl ?_ c d
  intro next other
  split
  next => exact absurd rfl other
  next => exact failNext_never _
  next => exact failNext_never _
  next => exact failNext_never _

theorem closeList_closes : Closes tail (Aligned tail) closeList closeList :=
  .bracket closeList_ok

theorem closeObject_closes : Closes tail (Aligned tail) closeObject closeObject :=
  .bracket closeObject_ok

theorem nextElement_keeps (first : Bool) : Keeps tail (nextElement first) := by
  refine .peekSolid ?_ (failNext_never _).shrinks
  intro ch
  split
  next h => cases h
  next => exact Follows.headed (pure_keeps _)
  next =>
    split
    next => exact Follows.headed (pure_keeps _)
    next =>
      split
      next =>
        refine .skipHead ?_
        refine .peekSolid ?_ (failNext_never _).shrinks
        intro ch
        split
        next => exact (failNext_never _).follows
        next => exact Follows.headed (pure_keeps _)
        next h => cases h
      next => exact (failNext_never _).follows

theorem nextElement_takes : Takes (· = true) (nextElement false) := by
  refine .peekSolid ?_ (failNext_never _)
  intro ch
  split
  next h => cases h
  next => exact .pure Bool.false_ne_true
  next =>
    split
    next h => cases h
    next =>
      split
      next =>
        refine .skip (.peekSolid fun ch => ?_)
        split
        next => exact (failNext_never _).shrinks
        next => exact (pure_keeps _ : Keeps [] _).shrinks
        next => exact (failNext_never _).shrinks
      next => exact .never (failNext_never _)

def keyFrom (c : Char) : Reader (Option String) := do
  if c = '"' then
    skip
    some <$> stringRest
  else failNext .keyNoString

theorem keyFrom_follows (ch : Char) : Follows tail (Headed tail ch) (keyFrom ch) (keyFrom ch) := by
  unfold keyFrom
  split
  next => exact .skipHead stringRest_keeps.map
  next => exact (failNext_never _).follows

theorem keyFrom_takes {P : Option String → Prop} (ch : Char) : TakesHead P (keyFrom ch) := by
  unfold keyFrom
  split
  next => exact .skip (Follows.map stringRest_keeps : Follows [] (Aligned []) _ _).shrinks
  next => exact .never (failNext_never _)

def keyBehindComma : Reader (Option String) := do
  match ← peekSolid with
  | some '\x7d' => failNext .trailingComma
  | some c => keyFrom c
  | none => failNext .endInValue

theorem keyBehindComma_keeps : Keeps tail keyBehindComma := by
  refine .peekSolid ?_ (failNext_never _).shrinks
  intro ch
  split
  next => exact (failNext_never _).follows
  next same =>
    cases same
    exact keyFrom_follows ch
  next h => cases h

theorem nextKey_eq (first : Bool) : nextKey first = (do
    match ← peekSolid with
    | none => failNext .endInObject
    | some '\x7d' => return none
    | some c =>
      if first then keyFrom c
      else if c = ',' then
        skip
        keyBehindComma
      else failNext .expectedCommaOrBrace) := rfl

theorem nextKey_keeps (first : Bool) : Keeps tail (nextKey first) := by
  rw [nextKey_eq]
  refine .peekSolid ?_ (failNext_never _).shrinks
  intro ch
  split
  next h => cases h
  next => exact Follows.headed (pure_keeps _)
  next same =>
    cases same
    split
    next => exact keyFrom_follows ch
    next =>
      split
      next => exact .skipHead keyBehindComma_keeps
      next => exact (failNext_never _).follows

theorem nextKey_takes (first : Bool) : Takes (·.isSome = true) (nextKey first) := by
  rw [nextKey_eq]
  refine .peekSolid ?_ (failNext_never _)
  intro ch
  split
  next h => cases h
  next => exact .pure Bool.false_ne_true
  next c _ _ =>
    split
    next => exact keyFrom_takes c
    next =>
      split
      next => exact .skip (keyBehindComma_keeps : Keeps [] _).shrinks
      next => exact .never (failNext_never _)

theorem elementsFrom_follows (element : Follows tail (Aligned tail) p p') (count count' : Nat) :
    Follows tail (Bounded tail count count') (elementsFrom p count false)
      (elementsFrom p' count' false) := by
  let body (p : Reader α) (count : Nat) (_ : Unit) := elementsFrom p count false
  refine Follows.loop (body p) (body p') ?_ ?_ count count' ()
  · exact fun _ => (pure_keeps _ : Keeps [] _).shrinks
  · intro count count' ih _
    refine Follows.bindTaking (nextElement_keeps false) nextElement_takes nextElement_takes ?_ ?_
    · rintro _ rfl
      exact element.bindBounded fun _ => (ih ()).bind fun _ => pure_keeps _
    · intro more none
      rw [if_neg none, if_neg none]
      exact pure_keeps _

theorem elements_follows (element : Follows tail (Aligned tail) p p') :
    Follows tail (Aligned tail) (elements p) (elements p') := by
  refine .bytesLeft fun n n' => ?_
  have more := elementsFrom_follows element n n'
  refine (nextElement_keeps true).bindBounded fun next => ?_
  split
  next => exact element.bindBounded fun _ => more.bind fun _ => pure_keeps _
  next => exact .pure (fun _ _ bounded => bounded.1) _

theorem membersFrom_follows {member member' : σ → String → Reader σ}
    (each : ∀ gathered key,
      Follows tail (Aligned tail) (member gathered key) (member' gathered key))
    (count count' : Nat) (first : Bool) (gathered : σ) :
    Follows tail (Bounded tail count count') (membersFrom member count first gathered)
      (membersFrom member' count' first gathered) := by
  let body (member : σ → String → Reader σ) (count : Nat) (s : Bool × σ) :=
    membersFrom member count s.1 s.2
  refine Follows.loop (body member) (body member') ?_ ?_ count count' (first, gathered)
  · exact fun _ => (pure_keeps _ : Keeps [] _).shrinks
  · rintro count count' ih ⟨first, gathered⟩
    have takes := nextKey_takes first
    refine Follows.bindTaking (nextKey_keeps first) takes takes ?_ ?_
    · intro key some
      cases key with
      | none => cases some
      | some key => exact (each gathered key).bindBounded fun more => ih (false, more)
    · intro key none
      cases key with
      | none => exact pure_keeps _
      | some key => exact absurd rfl none

theorem members_follows {member member' : σ → String → Reader σ}
    (each : ∀ gathered key,
      Follows tail (Aligned tail) (member gathered key) (member' gathered key))
    (empty : σ) : Follows tail (Aligned tail) (members member empty) (members member' empty) := by
  refine .bytesLeft fun n n' => ?_
  exact (membersFrom_follows each (n + 1) (n' + 1) true empty).mono fun _ _ bounded => bounded.succ

theorem valueStep_follows {nested nested' : Option (Reader Value)}
    (deeper : ∀ q', nested' = some q' → ∃ q, nested = some q ∧ Follows tail (Aligned tail) q q') :
    Follows tail (Aligned tail) (valueStep nested) (valueStep nested') := by
  refine .peekSolid ?_ (failNext_never _).shrinks
  intro ch
  split
  next h => cases h
  next => exact .skipHead ((word_keeps (by simp [lineEnds])).bind fun _ => pure_keeps _)
  next => exact .skipHead ((word_keeps (by simp [lineEnds])).bind fun _ => pure_keeps _)
  next => exact .skipHead ((word_keeps (by simp [lineEnds])).bind fun _ => pure_keeps _)
  next => exact .skipHead (stringRest_keeps.bind fun _ => pure_keeps _)
  next =>
    cases nested' with
    | none => exact Never.follows (failNext_never _).bind
    | some q' =>
        obtain ⟨q, rfl, follows⟩ := deeper q' rfl
        simp only [enterWith, bind_assoc, pure_bind]
        have items := closeList_closes.closedBy (elements_follows follows)
        exact .skipHead items.placed.follows.map
  next =>
    cases nested' with
    | none => exact Never.follows (failNext_never _).bind
    | some q' =>
        obtain ⟨q, rfl, follows⟩ := deeper q' rfl
        simp only [enterWith, bind_assoc, pure_bind]
        refine .skipHead (Follows.bind (Closes.follows (Closes.placed
          (closeObject_closes.closedBy (members_follows ?_ [])))) fun _ => pure_keeps _)
        intro pairs key
        exact colon_keeps.bind fun _ => follows.bind fun _ => pure_keeps _
  next =>
    split
    next => exact Follows.headed number_keeps.map
    next => exact (failNext_never _).follows

theorem value_follows {levels levels' : Nat} (fits : levels' ≤ levels) :
    Follows tail (Aligned tail) (value levels) (value levels') := by
  induction levels' generalizing levels with
  | zero =>
      cases levels <;>
        refine valueStep_follows ?_ <;>
        intro q' none <;>
        cases none
  | succ levels' ih =>
      cases levels with
      | zero => exact absurd fits (Nat.not_succ_le_zero _)
      | succ levels =>
          refine valueStep_follows ?_
          intro q' same
          cases same
          exact ⟨_, rfl, ih (Nat.le_of_succ_le_succ fits)⟩

end RayScene.Json
