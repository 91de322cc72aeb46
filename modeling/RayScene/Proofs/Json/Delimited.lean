import RayScene.Proofs.Json.Atoms

namespace RayScene.Json

open Cursor (charOf)

variable {behind : List UInt8} {α β : Type} {p : Reader α} {R : Cursor → Cursor → Prop}

def Delimits (behind : List UInt8) : Prop :=
  ∃ b rest, behind = b :: rest ∧ (charOf b = ',' ∨ charOf b = ']')

def Longer (behind : List UInt8) (c c' : Cursor) : Prop := c'.rest = c.rest ++ behind

def LongerAhead (behind : List UInt8) (c c' : Cursor) : Prop := Longer behind c c' ∧ c.rest ≠ []

def Extends (behind : List UInt8) (R : Cursor → Cursor → Prop) (p : Reader α) : Prop :=
  ∀ c c' v d, R c c' → p c = .ok v d → ∃ d', p c' = .ok v d' ∧ Longer behind d d'

theorem Never.extends (never : Never p) : Extends behind R p :=
  fun c _ v d _ read => (never c v d read).elim

namespace Extends

theorem ahead (longer : Extends behind (Longer behind) p) : Extends behind (LongerAhead behind) p :=
  fun c c' v d related => longer c c' v d related.1

theorem pure (v : α) : Extends behind (Longer behind) (Pure.pure v) := by
  intro c c' w d related read
  cases read
  exact ⟨c', rfl, related⟩

theorem bind {f : α → Reader β} (first : Extends behind R p)
    (rest : ∀ v, Extends behind (Longer behind) (f v)) : Extends behind R (p >>= f) := by
  intro c c' w d related read
  obtain ⟨v, e, one, others⟩ := bind_ok.mp read
  obtain ⟨e', one', between⟩ := first c c' v e related one
  obtain ⟨d', others', longer⟩ := rest v e e' w d between others
  exact ⟨d', bind_ok.mpr ⟨v, e', one', others'⟩, longer⟩

theorem map {f : α → β} (first : Extends behind R p) : Extends behind R (f <$> p) := by
  rw [map_eq_pure_bind]
  exact first.bind fun v => .pure (f v)

theorem skip {g : Unit → Reader β} (rest : Extends behind (Longer behind) (g ())) :
    Extends behind (LongerAhead behind) (Json.skip >>= g) := by
  intro c c' v d related read
  refine rest c.advance c'.advance v d ?_ read
  rw [Longer, Cursor.advance_rest, Cursor.advance_rest, related.1,
    List.tail_append_of_ne_nil related.2]

/-- At the end of the text a reader does the same as in front of a delimiter, or fails. -/
theorem peek (delimits : Delimits behind) {f : Option Char → Reader β}
    (each : ∀ ch, Extends behind (LongerAhead behind) (f (some ch)))
    (atEnd : Never (f none) ∨ Extends behind (Longer behind) (f none) ∧
      ∀ ch ∈ [',', ']'], f (some ch) = f none) :
    Extends behind (Longer behind) (Json.peek >>= f) := by
  intro c c' v d related read
  rw [peek_bind] at read ⊢
  cases here : c.rest with
  | nil =>
      rw [here] at read
      obtain ⟨b, rest, rfl, delimiter⟩ := delimits
      have here' : c'.rest.head?.map charOf = some (charOf b) := by
        rw [related, here]
        rfl
      rw [here']
      rcases atEnd with never | ⟨ends, same⟩
      · exact (never c v d read).elim
      · rw [same (charOf b) (by simpa using delimiter)]
        exact ends c c' v d related read
  | cons b rest =>
      have here' : c'.rest.head?.map charOf = some (charOf b) := by
        rw [related, here]
        rfl
      rw [here] at read
      rw [here']
      exact each (charOf b) c c' v d ⟨related, by simp [here]⟩ read

end Extends

theorem float_extends (negative : Bool) (significand : Nat) (e : Int) :
    Extends behind (Longer behind) (float negative significand e) := by
  unfold float
  split
  next => exact .pure _
  next => exact (failHere_never _).extends

section Digits

variable (delimits : Delimits behind)

include delimits

theorem Delimits.no_digit : ∃ b rest, behind = b :: rest ∧ digitOf? b = none := by
  obtain ⟨b, rest, rfl, delimiter⟩ := delimits
  refine ⟨b, rest, rfl, if_neg ?_⟩
  rcases delimiter with comma | bracket
  · rw [comma]
    decide
  · rw [bracket]
    decide

theorem appendDigits_append (bound n count : Nat) (text : List UInt8) :
    appendDigits bound n count (text ++ behind) =
      ((appendDigits bound n count text).1, (appendDigits bound n count text).2.1,
        (appendDigits bound n count text).2.2 ++ behind) := by
  induction text generalizing n count with
  | nil =>
      obtain ⟨b, rest, rfl, stops⟩ := delimits.no_digit
      have stop : appendDigits bound n count (b :: rest) = (n, count, b :: rest) := by
        rw [appendDigits, stops]
        rfl
      exact stop
  | cons b text ih =>
      rw [List.cons_append, appendDigits, appendDigits]
      cases (digitOf? b).bind (appendDigit? bound n) with
      | some n => exact ih n (count + 1)
      | none => rfl

theorem takeDigits_extends (bound n : Nat) :
    Extends behind (Longer behind) (takeDigits bound n) := by
  rintro ⟨text, line, column⟩ ⟨text', line', column'⟩ v d related read
  cases read
  obtain rfl : text' = text ++ behind := related
  have same := appendDigits_append delimits bound n 0 text
  let taken := (appendDigits bound n 0 text).2.1
  refine ⟨⟨(appendDigits bound n 0 text).2.2 ++ behind, line', column' + taken⟩, ?_, rfl⟩
  have taken_eq : takeDigits bound n ⟨text ++ behind, line', column'⟩ =
      .ok ((appendDigits bound n 0 (text ++ behind)).1,
          (appendDigits bound n 0 (text ++ behind)).2.1)
        ⟨(appendDigits bound n 0 (text ++ behind)).2.2, line',
          column' + (appendDigits bound n 0 (text ++ behind)).2.1⟩ := rfl
  rw [taken_eq, same]

theorem countDigits_extends : Extends behind (Longer behind) countDigits := by
  rintro ⟨text, line, column⟩ ⟨text', line', column'⟩ v d related read
  cases read
  obtain rfl : text' = text ++ behind := related
  let digit (b : UInt8) := (digitOf? b).isSome
  have same : (text ++ behind).takeWhile digit = text.takeWhile digit := by
    obtain ⟨b, rest, rfl, stops⟩ := delimits.no_digit
    have none : (b :: rest).takeWhile digit = [] := by
      simp [digit, stops]
    rw [List.takeWhile_append, none, List.append_nil]
    split
    next whole => exact ((List.takeWhile_prefix digit).eq_of_length whole).symm
    next => rfl
  have fewer : (text.takeWhile digit).length ≤ text.length := (List.takeWhile_prefix _).length_le
  have counted : countDigits ⟨text ++ behind, line', column'⟩ =
      .ok ((text ++ behind).takeWhile digit).length
        ⟨(text ++ behind).drop ((text ++ behind).takeWhile digit).length, line',
          column' + ((text ++ behind).takeWhile digit).length⟩ := rfl
  rw [counted, same, List.drop_append_of_le_length fewer]
  exact ⟨_, rfl, rfl⟩

/-- A reader that stops at a delimiter goes on there as at the end of the text. -/
theorem Extends.peekOr {f : Option Char → Reader β}
    (each : ∀ ch, Extends behind (LongerAhead behind) (f (some ch)))
    (atEnd : Extends behind (Longer behind) (f none))
    (comma : f (some ',') = f none) (bracket : f (some ']') = f none) :
    Extends behind (Longer behind) (Json.peek >>= f) := by
  refine .peek delimits each (.inr ⟨atEnd, ?_⟩)
  simp [comma, bracket]

theorem exponentDigits_extends (negative : Bool) (significand : Nat) (place : Int) (below : Bool) :
    Extends behind (Longer behind) (exponentDigits negative significand place below) := by
  refine .peek delimits ?_ (.inl (failHere_never _).bind)
  intro ch
  dsimp only
  split
  next =>
    refine Extends.ahead ((takeDigits_extends delimits _ _).bind ?_)
    rintro ⟨n, -⟩
    refine .peekOr delimits ?_ (float_extends _ _ _) rfl rfl
    intro ch
    dsimp only
    split
    next =>
      refine .skip ?_
      split
      next => exact (failHere_never _).bind.extends
      next => exact (countDigits_extends delimits).bind fun _ => .pure _
    next => exact (float_extends _ _ _).ahead
  next => exact .skip (failHere_never _).bind.extends

theorem exponent_extends (negative : Bool) (significand : Nat) (place : Int) :
    Extends behind (LongerAhead behind) (exponent negative significand place) := by
  have digits (below : Bool) :
      Extends behind (Longer behind) (exponentDigits negative significand place below) :=
    exponentDigits_extends delimits negative significand place below
  rw [exponent_eq]
  refine .skip (.peekOr delimits ?_ (digits false) rfl rfl)
  intro ch
  split
  next => exact .skip (digits false)
  next => exact .skip (digits true)
  next => exact (digits false).ahead

theorem exponentOrEnd_extends (negative : Bool) (significand : Nat) (place : Int) :
    Extends behind (Longer behind) (exponentOrEnd negative significand place) := by
  refine .peekOr delimits ?_ (float_extends _ _ _) rfl rfl
  intro ch
  split
  next => exact exponent_extends delimits _ _ _
  next => exact exponent_extends delimits _ _ _
  next => exact (float_extends _ _ _).ahead

theorem fraction_extends (negative : Bool) (significand : Nat) (place : Int) :
    Extends behind (Longer behind) (fraction negative significand place) := by
  refine (takeDigits_extends delimits _ _).bind ?_
  rintro ⟨significand, count⟩
  refine (countDigits_extends delimits).bind fun dropped => ?_
  dsimp only
  split
  next =>
    refine Never.extends (.last fun ahead => ?_)
    split <;> exact (failNext_never _).bind
  next => exact exponentOrEnd_extends delimits _ _ _

theorem fractionAndExponent_extends (negative : Bool) (significand : Nat) (place : Int) :
    Extends behind (Longer behind) (fractionAndExponent negative significand place) := by
  rw [fractionAndExponent_eq]
  refine .peekOr delimits ?_ (float_extends _ _ _) rfl rfl
  intro ch
  split
  next => exact .skip (fraction_extends delimits _ _ _)
  next => exact exponent_extends delimits _ _ _
  next => exact exponent_extends delimits _ _ _
  next => exact (float_extends _ _ _).ahead

theorem wholeOrFraction_extends (negative : Bool) (significand : Nat) :
    Extends behind (Longer behind) (wholeOrFraction negative significand) := by
  refine (countDigits_extends delimits).bind fun dropped => ?_
  have whole : Extends behind (Longer behind) (if !negative then return .natural significand
      else if 1 ≤ significand ∧ significand ≤ Nat.pow 2 63 then return .negative significand
      else return .float (Json.signed true (Double.ofDecimal ⟨false, significand, 0⟩)) :
        Reader Number) := by
    split
    next => exact .pure _
    next => split <;> exact .pure _
  have parts : Extends behind (Longer behind) (fractionAndExponent negative significand dropped) :=
    fractionAndExponent_extends delimits _ _ _
  refine .peekOr delimits ?_ ?_ rfl rfl
  · intro ch
    split
    next => exact whole.ahead
    next => exact parts.ahead
  · split
    next => exact whole
    next => exact parts

theorem unsignedNumber_extends (negative : Bool) :
    Extends behind (Longer behind) (unsignedNumber negative) := by
  have rest (significand : Nat) :
      Extends behind (Longer behind) (wholeOrFraction negative significand) :=
    wholeOrFraction_extends delimits negative significand
  refine .peek delimits ?_ (.inl (failHere_never _))
  intro ch
  dsimp only
  split
  next =>
    split
    next =>
      refine .skip ?_
      simp only [pure_bind]
      refine .peekOr delimits ?_ (rest 0) rfl rfl
      intro ch
      dsimp only
      split
      next => exact (failNext_never _).bind.extends
      next => exact Extends.ahead (rest 0)
    next => exact Extends.ahead ((takeDigits_extends delimits _ _).map.bind rest)
  next => exact .skip (failHere_never _).bind.extends

theorem number_extends : Extends behind (Longer behind) number := by
  have unsigned : Extends behind (Longer behind) (unsignedNumber false) :=
    unsignedNumber_extends delimits _
  refine .peekOr delimits ?_ unsigned rfl rfl
  intro ch
  split
  next => exact .skip (unsignedNumber_extends delimits _)
  next => exact unsigned.ahead

end Digits

end RayScene.Json
