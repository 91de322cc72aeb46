import RayScene.Proofs.Json.Layout
import RayScene.Proofs.Json.Yields

namespace RayScene.Json

open Cursor (charOf isBlank)

namespace Cursor

/-- The cursor in front of the next byte that is no blank. -/
def solid (c : Cursor) : Cursor := skipBlanks c.rest c.line c.column

theorem skipBlanks_rest (rest : List UInt8) (line column : Nat) :
    (skipBlanks rest line column).rest = rest.dropWhile isBlank := by
  induction rest generalizing line column with
  | nil => rfl
  | cons b rest ih =>
      unfold skipBlanks
      cases blank : isBlank b with
      | true => simp [blank, ih]
      | false => simp [blank]

@[simp] theorem solid_rest (c : Cursor) : c.solid.rest = c.rest.dropWhile isBlank :=
  skipBlanks_rest _ _ _

theorem solid_suffix (c : Cursor) : c.solid.rest <:+ c.rest := by
  rw [solid_rest]
  exact List.dropWhile_suffix _

@[simp] theorem advance_rest (c : Cursor) : c.advance.rest = c.rest.tail := by
  unfold advance
  split
  next here => simp [here]
  next here => simp [here]

theorem solids_of_head (c : Cursor) {b : UInt8} (here : c.solid.rest.head? = some b) :
    solids c.rest = b :: solids c.solid.advance.rest := by
  have solid := c.rest.head?_dropWhile_not isBlank
  rw [← solid_rest, here] at solid
  obtain ⟨rest, here⟩ := List.head?_eq_some_iff.mp here
  rw [← solids_dropWhile c.rest, ← solid_rest, advance_rest, here, solids_solid solid,
    List.tail_cons]

theorem advance_suffix (c : Cursor) : c.advance.rest <:+ c.rest := by
  rw [advance_rest]
  exact List.tail_suffix _

end Cursor

variable {tail text text' : List UInt8} {α β : Type} {R : Cursor → Cursor → Prop} {p p' : Reader α}

/-- Whether a cursor stands in front of the tail. -/
def Inside (tail : List UInt8) (c : Cursor) : Prop := tail.length < (solids c.rest).length

theorem Inside.of_suffix {c d : Cursor} (inside : Inside tail d) (shrinks : d.rest <:+ c.rest) :
    Inside tail c :=
  Nat.lt_of_lt_of_le inside (solids_length_le shrinks)

def Aligned (tail : List UInt8) (c c' : Cursor) : Prop := Laid tail c.rest c'.rest

def Headed (tail : List UInt8) (ch : Char) (c c' : Cursor) : Prop :=
  ∃ b rest rest', charOf b = ch ∧ c.rest = b :: rest ∧ c'.rest = b :: rest' ∧ Laid tail rest rest'

theorem Headed.aligned {ch : Char} {c c' : Cursor} (headed : Headed tail ch c c') :
    Aligned tail c c' := by
  obtain ⟨b, rest, rest', -, here, here', laid⟩ := headed
  rw [Aligned, here, here']
  exact .same b laid

def Shrinks (p : Reader α) : Prop := ∀ c v d, p c = .ok v d → d.rest <:+ c.rest

structure Follows (tail : List UInt8) (R : Cursor → Cursor → Prop) (p p' : Reader α) : Prop where
  shrinks : Shrinks p'
  tracks : ∀ c c' v d', R c c' → p' c' = .ok v d' → Inside tail d' →
    ∃ d, p c = .ok v d ∧ d.rest <:+ c.rest ∧ Aligned tail d d'

def Keeps (tail : List UInt8) (p : Reader α) : Prop := Follows tail (Aligned tail) p p

def Never (p : Reader α) : Prop := Yields (fun _ => False) p

theorem Never.shrinks (never : Never p) : Shrinks p := fun c v d read =>
  (never c v d read).elim

theorem Never.follows (never : Never p') : Follows tail R p p' where
  shrinks := never.shrinks
  tracks _ c' v d' _ read _ := (never c' v d' read).elim

theorem Never.bind {f : α → Reader β} (never : Never p) : Never (p >>= f) :=
  Yields.bind never fun _ no => no.elim

theorem Shrinks.bind {f : α → Reader β} (first : Shrinks p) (rest : ∀ v, Shrinks (f v)) :
    Shrinks (p >>= f) := by
  intro c b d read
  obtain ⟨a, e, one, others⟩ := bind_ok.mp read
  exact (rest a e b d others).trans (first c a e one)

theorem peek_bind (f : Option Char → Reader β) (c : Cursor) :
    (peek >>= f) c = f (c.rest.head?.map charOf) c := by
  obtain ⟨rest, line, column⟩ := c
  cases rest <;> rfl

theorem peekSolid_bind (f : Option Char → Reader β) (c : Cursor) :
    (peekSolid >>= f) c = f (c.solid.rest.head?.map charOf) c.solid := peek_bind f c.solid

theorem Shrinks.peek {f : Option Char → Reader β} (each : ∀ ch, Shrinks (f ch)) :
    Shrinks (Json.peek >>= f) := by
  intro c v d read
  rw [peek_bind] at read
  exact each _ c v d read

theorem Shrinks.peekSolid {f : Option Char → Reader β} (each : ∀ ch, Shrinks (f ch)) :
    Shrinks (Json.peekSolid >>= f) := by
  intro c v d read
  rw [peekSolid_bind] at read
  exact (each _ c.solid v d read).trans c.solid_suffix

namespace Follows

theorem mono {R' : Cursor → Cursor → Prop} (follows : Follows tail R p p')
    (weaker : ∀ c c', R' c c' → R c c') : Follows tail R' p p' where
  shrinks := follows.shrinks
  tracks c c' v d' related := follows.tracks c c' v d' (weaker c c' related)

theorem headed {ch : Char} (follows : Follows tail (Aligned tail) p p') :
    Follows tail (Headed tail ch) p p' :=
  follows.mono fun _ _ headed => headed.aligned

theorem pure (aligned : ∀ c c', R c c' → Aligned tail c c') (v : α) :
    Follows tail R (Pure.pure v) (Pure.pure v) where
  shrinks := by
    intro c v d read
    cases read
    exact List.suffix_rfl
  tracks := by
    intro c c' v d' related read inside
    cases read
    exact ⟨c, rfl, List.suffix_rfl, aligned c c' related⟩

/-- The relation in between may depend on what both readers have done. -/
theorem bindWith {R' : α → Cursor → Cursor → Prop} {f f' : α → Reader β}
    (first : Follows tail R p p') (rest : ∀ v, Follows tail (R' v) (f v) (f' v))
    (link : ∀ v c c' e e', R c c' → p c = .ok v e → p' c' = .ok v e' → e.rest <:+ c.rest →
      e'.rest <:+ c'.rest → Aligned tail e e' → R' v e e') :
    Follows tail R (p >>= f) (p' >>= f') where
  shrinks := first.shrinks.bind fun v => (rest v).shrinks
  tracks := by
    intro c c' w d' related read inside
    obtain ⟨v, e', one', others'⟩ := bind_ok.mp read
    have less' := first.shrinks c' v e' one'
    have between : Inside tail e' := inside.of_suffix ((rest v).shrinks e' w d' others')
    obtain ⟨e, one, less, aligned⟩ := first.tracks c c' v e' related one' between
    have related' := link v c c' e e' related one one' less less' aligned
    obtain ⟨d, others, fewer, aligned⟩ := (rest v).tracks e e' w d' related' others' inside
    exact ⟨d, bind_ok.mpr ⟨v, e, one, others⟩, fewer.trans less, aligned⟩

theorem bind {f f' : α → Reader β} (first : Follows tail R p p')
    (rest : ∀ v, Follows tail (Aligned tail) (f v) (f' v)) : Follows tail R (p >>= f) (p' >>= f') :=
  first.bindWith rest fun _ _ _ _ _ _ _ _ _ _ aligned => aligned

theorem map {f : α → β} (first : Follows tail R p p') : Follows tail R (f <$> p) (f <$> p') := by
  rw [map_eq_pure_bind, map_eq_pure_bind]
  exact first.bind fun v => .pure (fun _ _ aligned => aligned) (f v)

theorem skip {R' : Cursor → Cursor → Prop} {f f' : Unit → Reader β}
    (rest : Follows tail R' (f ()) (f' ())) (link : ∀ c c', R c c' → R' c.advance c'.advance) :
    Follows tail R (Json.skip >>= f) (Json.skip >>= f') := by
  constructor
  · intro c v d read
    exact (rest.shrinks c.advance v d read).trans c.advance_suffix
  · intro c c' v d' related read inside
    obtain ⟨d, read, less, aligned⟩ := rest.tracks _ _ v d' (link c c' related) read inside
    exact ⟨d, read, less.trans c.advance_suffix, aligned⟩

end Follows

theorem Headed.advance {ch : Char} {c c' : Cursor} (headed : Headed tail ch c c') :
    Aligned tail c.advance c'.advance := by
  obtain ⟨b, rest, rest', -, here, here', laid⟩ := headed
  rw [Aligned, Cursor.advance_rest, Cursor.advance_rest, here, here']
  exact laid

namespace Follows

variable {f f' : Option Char → Reader β}

theorem skipHead {ch : Char} {g g' : Unit → Reader β}
    (rest : Follows tail (Aligned tail) (g ()) (g' ())) :
    Follows tail (Headed tail ch) (Json.skip >>= g) (Json.skip >>= g') :=
  .skip rest fun _ _ headed => headed.advance

/-- A line may end where a reader looks, but not in the same way in both texts. -/
theorem peek (same : ∀ ch, Follows tail (Headed tail ch) (f (some ch)) (f' (some ch)))
    (atGap : ∀ ch ∈ lineEnds, ∀ ch' ∈ lineEnds,
      Follows tail (Aligned tail) (f (some ch)) (f' (some ch')))
    (atEnd : Shrinks (f' none)) :
    Follows tail (Aligned tail) (Json.peek >>= f) (Json.peek >>= f') := by
  have shrinks : Shrinks (Json.peek >>= f') := .peek fun
    | none => atEnd
    | some ch => (same ch).shrinks
  refine ⟨shrinks, ?_⟩
  intro c c' v d' aligned read inside
  have before : Inside tail c' := inside.of_suffix (shrinks c' v d' read)
  rw [peek_bind] at read ⊢
  have laid : Laid tail c.rest c'.rest := aligned
  generalize here : c.rest = text at laid ⊢
  generalize here' : c'.rest = text' at laid read
  cases laid with
  | done ends =>
      rw [Inside, here', ends] at before
      exact absurd before (Nat.lt_irrefl _)
  | same b rest =>
      rw [← here]
      have headed : Headed tail (charOf b) c c' := ⟨b, _, _, rfl, here, here', rest⟩
      have tracked := (same (charOf b)).tracks c c' v d' headed read inside
      rwa [show some (charOf b) = c.rest.head?.map charOf by simp [here]] at tracked
  | @gap gap gap' text text' first second rest =>
      cases gap with
      | nil => cases first
      | cons b blanks =>
          cases gap' with
          | nil => cases second
          | cons b' blanks' =>
              rw [← here]
              have tracked := (atGap _ first.1 _ second.1).tracks c c' v d' aligned read inside
              rwa [show some (charOf b) = c.rest.head?.map charOf by simp [here]] at tracked

end Follows

/-- Both ends of a line mean the same to a reader. -/
theorem Follows.peekOr {f : Option Char → Reader β}
    (same : ∀ ch, Follows tail (Headed tail ch) (f (some ch)) (f (some ch)))
    (gap : Keeps tail (f (some '\n'))) (returned : f (some '\r') = f (some '\n'))
    (atEnd : Shrinks (f none)) : Keeps tail (Json.peek >>= f) := by
  have either (ch : Char) (ends : ch ∈ lineEnds) : f (some ch) = f (some '\n') := by
    rcases mem_lineEnds.mp ends with rfl | rfl
    · rfl
    · exact returned
  refine .peek same ?_ atEnd
  intro ch ends ch' ends'
  rw [either ch ends, either ch' ends']
  exact gap

theorem Aligned.solid {c c' : Cursor} (aligned : Aligned tail c c') (inside : Inside tail c') :
    ∃ b, c.solid.rest.head? = some b ∧ c'.solid.rest.head? = some b ∧
      Headed tail (charOf b) c.solid c'.solid := by
  obtain ⟨b, rest, rest', here, here', -, laid⟩ := Laid.solid aligned inside
  rw [← Cursor.solid_rest] at here here'
  exact ⟨b, by rw [here]; rfl, by rw [here']; rfl, b, rest, rest', rfl, here, here', laid⟩

namespace Follows

theorem peekSolid {f f' : Option Char → Reader β}
    (same : ∀ ch, Follows tail (Headed tail ch) (f (some ch)) (f' (some ch)))
    (atEnd : Shrinks (f' none)) :
    Follows tail (Aligned tail) (Json.peekSolid >>= f) (Json.peekSolid >>= f') := by
  have shrinks : Shrinks (Json.peekSolid >>= f') := .peekSolid fun
    | none => atEnd
    | some ch => (same ch).shrinks
  refine ⟨shrinks, ?_⟩
  intro c c' v d' aligned read inside
  have before : Inside tail c' := inside.of_suffix (shrinks c' v d' read)
  obtain ⟨b, here, here', headed⟩ := aligned.solid before
  rw [peekSolid_bind, here'] at read
  rw [peekSolid_bind, here]
  obtain ⟨d, read, less, aligned⟩ := (same (charOf b)).tracks _ _ v d' headed read inside
  exact ⟨d, read, less.trans c.solid_suffix, aligned⟩

/-- Takes the next character, which is none that ends a line. -/
theorem next {f f' : Option Char → Reader β}
    (same : ∀ ch, Follows tail (Aligned tail) (f (some ch)) (f' (some ch)))
    (atGap : ∀ ch ∈ lineEnds, Never (f' (some ch))) (atEnd : Never (f' none)) :
    Follows tail (Aligned tail) (Json.next >>= f) (Json.next >>= f') := by
  have expand (g : Option Char → Reader β) :
      (Json.next >>= g) = Json.peek >>= fun c => Json.skip >>= fun _ => g c := by
    simp only [Json.next, bind_assoc, pure_bind]
  rw [expand, expand]
  refine .peek (fun ch => .skipHead (same ch)) ?_ ?_
  · intro ch _ ch' ends'
    exact Never.follows fun c v d read => atGap ch' ends' c.advance v d read
  · exact Never.shrinks fun c v d read => atEnd c.advance v d read

end Follows

/-- No text has more bytes than its bound. -/
def Bounded (tail : List UInt8) (count count' : Nat) (c c' : Cursor) : Prop :=
  Aligned tail c c' ∧ c.rest.length ≤ count ∧ c'.rest.length ≤ count'

def Takes (P : α → Prop) (p : Reader α) : Prop :=
  ∀ c v d, p c = .ok v d → P v → d.rest.length < c.rest.length

theorem Bounded.succ {count count' : Nat} {c c' : Cursor}
    (bounded : Bounded tail count count' c c') : Bounded tail (count + 1) (count' + 1) c c' :=
  ⟨bounded.1, Nat.le_succ_of_le bounded.2.1, Nat.le_succ_of_le bounded.2.2⟩

theorem Aligned.ne_nil {c c' : Cursor} (aligned : Aligned tail c c') (inside : Inside tail c') :
    c.rest ≠ [] ∧ c'.rest ≠ [] := by
  constructor
  · intro here
    have ends := Laid.solids_eq aligned
    rw [here] at ends
    rw [Inside, ends] at inside
    exact absurd inside (Nat.lt_irrefl _)
  · intro here
    rw [Inside, here] at inside
    exact absurd inside (Nat.not_lt_zero _)

namespace Follows

theorem bindBounded {count count' : Nat} {f f' : α → Reader β}
    (first : Follows tail (Aligned tail) p p')
    (rest : ∀ v, Follows tail (Bounded tail count count') (f v) (f' v)) :
    Follows tail (Bounded tail count count') (p >>= f) (p' >>= f') := by
  refine (first.mono fun _ _ bounded => bounded.1).bindWith rest ?_
  intro v c c' e e' ⟨_, few, few'⟩ _ _ less less' aligned
  exact ⟨aligned, Nat.le_trans less.length_le few, Nat.le_trans less'.length_le few'⟩

/-- A step that takes a byte leaves one step less to be taken. -/
theorem bindTaking {P : α → Prop} {count count' : Nat} {f f' : α → Reader β}
    (first : Follows tail (Aligned tail) p p') (takes : Takes P p) (takes' : Takes P p')
    (rest : ∀ v, P v → Follows tail (Bounded tail count count') (f v) (f' v))
    (others : ∀ v, ¬ P v → Follows tail (Aligned tail) (f v) (f' v)) :
    Follows tail (Bounded tail (count + 1) (count' + 1)) (p >>= f) (p' >>= f') := by
  have either (v : α) : Follows tail
      (fun c c' => Aligned tail c c' ∧ (P v → Bounded tail count count' c c')) (f v) (f' v) := by
    by_cases taken : P v
    · exact (rest v taken).mono fun _ _ both => both.2 taken
    · exact (others v taken).mono fun _ _ both => both.1
  refine (first.mono fun _ _ bounded => bounded.1).bindWith either ?_
  intro v c c' e e' ⟨_, few, few'⟩ one one' _ _ aligned
  refine ⟨aligned, fun taken => ⟨aligned, ?_, ?_⟩⟩
  · exact Nat.le_of_lt_succ (Nat.lt_of_lt_of_le (takes c v e one taken) few)
  · exact Nat.le_of_lt_succ (Nat.lt_of_lt_of_le (takes' c' v e' one' taken) few')

theorem bytesLeft {f f' : Nat → Reader β}
    (rest : ∀ n n', Follows tail (Bounded tail n n') (f n) (f' n')) :
    Follows tail (Aligned tail) (Json.bytesLeft >>= f) (Json.bytesLeft >>= f') where
  shrinks c v d read := (rest 0 c.rest.length).shrinks c v d read
  tracks c c' v d' aligned read inside :=
    (rest c.rest.length c'.rest.length).tracks c c' v d'
      ⟨aligned, Nat.le_refl _, Nat.le_refl _⟩ read inside

/-- In front of the tail a loop whose steps take bytes does not run out of them. -/
theorem loop {σ : Type} (body body' : Nat → σ → Reader β) (stop : ∀ s, Shrinks (body' 0 s))
    (step : ∀ count count',
      (∀ s, Follows tail (Bounded tail count count') (body count s) (body' count' s)) →
      ∀ s, Follows tail (Bounded tail (count + 1) (count' + 1)) (body (count + 1) s)
        (body' (count' + 1) s))
    (count count' : Nat) (s : σ) :
    Follows tail (Bounded tail count count') (body count s) (body' count' s) := by
  induction count' generalizing count s with
  | zero =>
      refine ⟨stop s, ?_⟩
      intro c c' v d' ⟨aligned, _, few⟩ read inside
      have before := inside.of_suffix (stop s c' v d' read)
      exact absurd (List.length_eq_zero_iff.mp (Nat.le_zero.mp few)) (aligned.ne_nil before).2
  | succ count' ih =>
      cases count with
      | zero =>
          have shrinks := (step 0 count' (ih 0) s).shrinks
          refine ⟨shrinks, ?_⟩
          intro c c' v d' ⟨aligned, few, _⟩ read inside
          have before := inside.of_suffix (shrinks c' v d' read)
          exact absurd (List.length_eq_zero_iff.mp (Nat.le_zero.mp few)) (aligned.ne_nil before).1
      | succ count => exact step count count' (ih count) s

/-- Readers that go on according to the next byte, which is none that ends a line. -/
theorem ahead {g g' : UInt8 → Reader α} {count count' : Nat}
    (here : ∀ c b rest, c.rest = b :: rest → p c = g b c)
    (here' : ∀ c b rest, c.rest = b :: rest → p' c = g' b c)
    (atEnd : ∀ c v d, c.rest = [] → p' c ≠ .ok v d)
    (atGap : ∀ b, charOf b ∈ lineEnds → Never (g' b))
    (same : ∀ b, Follows tail (fun c c' => Bounded tail count count' c c' ∧
      Headed tail (charOf b) c c') (g b) (g' b)) :
    Follows tail (Bounded tail count count') p p' := by
  have shrinks : Shrinks p' := by
    intro c v d read
    cases first : c.rest with
    | nil => exact (atEnd c v d first read).elim
    | cons b rest =>
        rw [here' c b rest first] at read
        exact first ▸ (same b).shrinks c v d read
  refine ⟨shrinks, ?_⟩
  intro c c' v d' related read inside
  have before : Inside tail c' := inside.of_suffix (shrinks c' v d' read)
  cases first' : c'.rest with
  | nil => exact (atEnd c' v d' first' read).elim
  | cons b rest' =>
      rw [here' c' b rest' first'] at read
      have solid : charOf b ∉ lineEnds := fun ends => atGap b ends c' v d' read
      have laid : Laid tail c.rest (b :: rest') := first' ▸ related.1
      rw [Inside, first'] at before
      obtain ⟨rest, first, laid⟩ := laid.uncons solid before
      rw [here c b rest first]
      have headed : Headed tail (charOf b) c c' := ⟨b, rest, rest', rfl, first, first', laid⟩
      exact (same b).tracks c c' v d' ⟨related, headed⟩ read inside

end Follows

theorem Bounded.advance {ch : Char} {count count' : Nat} {c c' : Cursor}
    (bounded : Bounded tail (count + 1) (count' + 1) c c') (headed : Headed tail ch c c') :
    Bounded tail count count' c.advance c'.advance := by
  refine ⟨headed.advance, ?_⟩
  obtain ⟨-, few, few'⟩ := bounded
  simp only [Cursor.advance_rest, List.length_tail]
  omega

structure Closes (tail : List UInt8) (R : Cursor → Cursor → Prop) (p p' : Reader α) : Prop where
  shrinks : Shrinks p'
  takes : ∀ c v d, p' c = .ok v d → (solids d.rest).length < (solids c.rest).length
  tracks : ∀ c c' v d', R c c' → p' c' = .ok v d' → tail.length ≤ (solids d'.rest).length →
    ∃ d, p c = .ok v d ∧ d.rest <:+ c.rest ∧ Aligned tail d d'

theorem Never.closes (never : Never p') : Closes tail R p p' where
  shrinks := never.shrinks
  takes c v d read := (never c v d read).elim
  tracks _ c' v d' _ read _ := (never c' v d' read).elim

theorem placed_ok {c d : Cursor} {v : α} : placed p c = .ok v d ↔ p c = .ok v d := by
  unfold placed
  split
  next same => simp [same]
  next => exact Iff.rfl

theorem closedBy_ok {close : Reader Unit} {c d : Cursor} {v : α} :
    closedBy close p c = .ok v d ↔ ∃ e, p c = .ok v e ∧ close e = .ok () d := by
  unfold closedBy
  cases p c with
  | ok w e =>
      dsimp only
      constructor
      · intro read
        split at read
        next f closed =>
          cases read
          exact ⟨e, rfl, closed⟩
        next => cases read
      · rintro ⟨e, one, closed⟩
        cases one
        rw [closed]
  | error failure e =>
      dsimp only
      constructor
      · intro read
        split at read <;> cases read
      · rintro ⟨e, one, -⟩
        cases one

namespace Closes

theorem follows (closes : Closes tail R p p') : Follows tail R p p' where
  shrinks := closes.shrinks
  tracks c c' v d' related read inside := closes.tracks c c' v d' related read (Nat.le_of_lt inside)

theorem placed (closes : Closes tail R p p') : Closes tail R (placed p) (placed p') where
  shrinks c v d read := closes.shrinks c v d (placed_ok.mp read)
  takes c v d read := closes.takes c v d (placed_ok.mp read)
  tracks := by
    intro c c' v d' related read enough
    obtain ⟨d, read, rest⟩ := closes.tracks c c' v d' related (placed_ok.mp read) enough
    exact ⟨d, placed_ok.mpr read, rest⟩

theorem closedBy {close close' : Reader Unit} (closes : Closes tail (Aligned tail) close close')
    (body : Follows tail R p p') :
    Closes tail R (Json.closedBy close p) (Json.closedBy close' p') := by
  have shrinks : Shrinks (Json.closedBy close' p') := by
    intro c v d read
    obtain ⟨e, one, closed⟩ := closedBy_ok.mp read
    exact (closes.shrinks e () d closed).trans (body.shrinks c v e one)
  have takes : ∀ c v d, Json.closedBy close' p' c = .ok v d →
      (solids d.rest).length < (solids c.rest).length := by
    intro c v d read
    obtain ⟨e, one, closed⟩ := closedBy_ok.mp read
    exact Nat.lt_of_lt_of_le (closes.takes e () d closed)
      (solids_length_le (body.shrinks c v e one))
  refine ⟨shrinks, takes, ?_⟩
  intro c c' v d' related read enough
  obtain ⟨e', one', closed'⟩ := closedBy_ok.mp read
  have inside : Inside tail e' := Nat.lt_of_le_of_lt enough (closes.takes e' () d' closed')
  obtain ⟨e, one, less, aligned⟩ := body.tracks c c' v e' related one' inside
  obtain ⟨d, closed, fewer, aligned⟩ := closes.tracks e e' () d' aligned closed' enough
  exact ⟨d, closedBy_ok.mpr ⟨e, one, closed⟩, fewer.trans less, aligned⟩

theorem skipHead {ch : Char} {g g' : Unit → Reader β}
    (rest : Closes tail (Aligned tail) (g ()) (g' ())) :
    Closes tail (Headed tail ch) (skip >>= g) (skip >>= g') := by
  constructor
  · intro c v d read
    exact (rest.shrinks c.advance v d read).trans c.advance_suffix
  · intro c v d read
    exact Nat.lt_of_lt_of_le (rest.takes c.advance v d read) (solids_length_le c.advance_suffix)
  · intro c c' v d' headed read enough
    obtain ⟨d, read, less, aligned⟩ := rest.tracks _ _ v d' headed.advance read enough
    exact ⟨d, read, less.trans c.advance_suffix, aligned⟩

theorem peekSolid {f f' : Option Char → Reader β}
    (same : ∀ ch, Closes tail (Headed tail ch) (f (some ch)) (f' (some ch)))
    (atEnd : Never (f' none)) :
    Closes tail (Aligned tail) (Json.peekSolid >>= f) (Json.peekSolid >>= f') := by
  have shrinks := (Follows.peekSolid (fun ch => (same ch).follows) atEnd.shrinks).shrinks
  have takes : ∀ c v d, (Json.peekSolid >>= f') c = .ok v d →
      (solids d.rest).length < (solids c.rest).length := by
    intro c v d read
    rw [peekSolid_bind] at read
    rw [← solids_dropWhile c.rest, ← Cursor.solid_rest]
    cases here : c.solid.rest.head? with
    | none =>
        rw [here] at read
        exact (atEnd _ v d read).elim
    | some b =>
        rw [here] at read
        exact (same (charOf b)).takes _ v d read
  refine ⟨shrinks, takes, ?_⟩
  intro c c' v d' aligned read enough
  have inside : Inside tail c' := Nat.lt_of_le_of_lt enough (takes c' v d' read)
  obtain ⟨b, here, here', headed⟩ := aligned.solid inside
  rw [peekSolid_bind, here'] at read
  rw [peekSolid_bind, here]
  obtain ⟨d, read, less, aligned⟩ := (same (charOf b)).tracks _ _ v d' headed read enough
  exact ⟨d, read, less.trans c.solid_suffix, aligned⟩

/-- A reader of a bracket and nothing else. -/
theorem bracket_ok {f : Option Char → Reader Unit} {ch : Char} (closing : f (some ch) = skip)
    (others : ∀ next, next ≠ some ch → Never (f next)) (c d : Cursor) :
    (Json.peekSolid >>= f) c = .ok () d ↔
      c.solid.rest.head?.map charOf = some ch ∧ c.solid.advance = d := by
  rw [peekSolid_bind]
  by_cases here : c.solid.rest.head?.map charOf = some ch
  · rw [here, closing, eq_self_iff_true, true_and]
    constructor
    · intro read
      cases read
      rfl
    · rintro rfl
      rfl
  · exact iff_of_false (fun read => others _ here _ () d read) fun both => here both.1

theorem bracket {close : Reader Unit} {ch : Char} (taken : ∀ c d, close c = .ok () d ↔
    c.solid.rest.head?.map charOf = some ch ∧ c.solid.advance = d) :
    Closes tail (Aligned tail) close close := by
  have takes : ∀ c v d, close c = .ok v d → (solids d.rest).length < (solids c.rest).length := by
    intro c v d read
    obtain ⟨here, rfl⟩ := (taken c d).mp read
    obtain ⟨b, first, rfl⟩ := Option.map_eq_some_iff.mp here
    rw [c.solids_of_head first, List.length_cons]
    exact Nat.lt_succ_self _
  refine ⟨?_, takes, ?_⟩
  · intro c v d read
    obtain ⟨-, rfl⟩ := (taken c d).mp read
    exact c.solid.advance_suffix.trans c.solid_suffix
  · intro c c' v d' aligned read enough
    have inside : Inside tail c' := Nat.lt_of_le_of_lt enough (takes c' v d' read)
    obtain ⟨here', rfl⟩ := (taken c' d').mp read
    obtain ⟨b, here, same, headed⟩ := aligned.solid inside
    rw [same, ← here] at here'
    exact ⟨_, (taken c _).mpr ⟨here', rfl⟩, c.solid.advance_suffix.trans c.solid_suffix,
      headed.advance⟩

end Closes

end RayScene.Json
