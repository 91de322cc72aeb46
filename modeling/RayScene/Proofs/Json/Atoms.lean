import RayScene.Json.Number
import RayScene.Json.String
import RayScene.Proofs.Json.Follows

namespace RayScene.Json

open Cursor (charOf isBlank)

variable {tail : List UInt8} {α β : Type}

theorem failHere_never (fault : Fault) : Never (failHere fault : Reader α) := failHere_yields fault

theorem failNext_never (fault : Fault) : Never (failNext fault : Reader α) := failNext_yields fault

theorem reject_never (fault : Fault) : Never (reject fault : Reader α) := reject_yields fault

theorem pure_keeps (v : α) : Keeps tail (pure v) := .pure (fun _ _ aligned => aligned) v

theorem word_keeps {letters : List Char} (solid : ∀ c ∈ letters, c ∉ lineEnds) :
    Keeps tail (word letters) := by
  induction letters with
  | nil => exact pure_keeps ()
  | cons letter letters ih =>
      have ⟨own, others⟩ := List.forall_mem_cons.mp solid
      refine .next ?_ ?_ (failHere_never _)
      · intro ch
        dsimp only
        split
        next => exact ih others
        next => exact (failHere_never _).follows
      · intro ch ends
        have other : ch ≠ letter := by
          rintro rfl
          exact own ends
        dsimp only
        rw [if_neg other]
        exact failHere_never _

theorem Follows.peekInString {f f' : Char → Reader β}
    (same : ∀ ch, Follows tail (Headed tail ch) (f ch) (f' ch))
    (atGap : ∀ ch ∈ lineEnds, Never (f' ch)) :
    Follows tail (Aligned tail) (Json.peekInString >>= f) (Json.peekInString >>= f') := by
  unfold Json.peekInString
  rw [bind_assoc, bind_assoc]
  refine .peek ?_ ?_ ?_
  · intro ch
    simpa only [pure_bind] using same ch
  · intro ch _ ch' ends'
    simp only [pure_bind]
    exact (atGap ch' ends').follows
  · exact (failHere_never _).bind.shrinks

theorem Follows.nextInString {f f' : Char → Reader β}
    (same : ∀ ch, Follows tail (Aligned tail) (f ch) (f' ch))
    (atGap : ∀ ch ∈ lineEnds, Never (f' ch)) :
    Follows tail (Aligned tail) (Json.nextInString >>= f) (Json.nextInString >>= f') := by
  unfold Json.nextInString
  simp only [bind_assoc, pure_bind]
  refine .peekInString ?_ ?_
  · intro ch
    exact .skipHead (same ch)
  · intro ch ends
    exact .last fun _ => atGap ch ends

theorem expectInPair_keeps {expected : Char} (solid : expected ∉ lineEnds) :
    Keeps tail (expectInPair expected) := by
  refine .peekInString ?_ ?_
  · intro ch
    refine .skipHead ?_
    split
    next => exact (failHere_never _).follows
    next => exact pure_keeps ()
  · intro ch ends
    have other : ch ≠ expected := by
      rintro rfl
      exact solid ends
    refine .last fun _ => ?_
    rw [if_pos other]
    exact failHere_never _

def hexCode (digits : List UInt8) : Reader Nat :=
  match hexNumber? digits with
  | some n => pure n
  | none => failHere .invalidEscape

theorem hexEscape_eq (a b e f : UInt8) (rest : List UInt8) (line column : Nat) :
    ∃ d : Cursor, d.rest = rest ∧ hexEscape ⟨a :: b :: e :: f :: rest, line, column⟩ =
      (hexNumber? [a, b, e, f]).elim (failHere .invalidEscape d) fun n => .ok n d := by
  let c : Cursor := ⟨a :: b :: e :: f :: rest, line, column⟩
  refine ⟨c.advance.advance.advance.advance, ?_, ?_⟩
  · simp [c]
  · show hexCode [a, b, e, f] _ = _
    unfold hexCode
    cases hexNumber? [a, b, e, f] <;> rfl

theorem hexEscape_short {c : Cursor} (short : c.rest.length < 4) (v : Nat) (d : Cursor) :
    hexEscape c ≠ .ok v d := by
  obtain ⟨rest, line, column⟩ := c
  intro read
  match rest, short with
  | [], _ | [a], _ | [a, b], _ | [a, b, e], _ => cases read

theorem hexValue?_lineEnd {b : UInt8} (ends : charOf b ∈ lineEnds) : hexValue? b = none := by
  have none : ∀ c ∈ lineEnds,
      c.isDigit = false ∧ ¬ ('a' ≤ c ∧ c ≤ 'f') ∧ ¬ ('A' ≤ c ∧ c ≤ 'F') := by
    simp [lineEnds]
  obtain ⟨digit, small, large⟩ := none _ ends
  simp only [hexValue?, digit, small, large, if_false, Bool.false_eq_true]

theorem hexNumber?_solid {digits : List UInt8} {start n : Nat}
    (folded : digits.foldlM (fun n byte => (hexValue? byte).map (16 * n + ·)) start = some n) :
    ∀ b ∈ digits, charOf b ∉ lineEnds := by
  induction digits generalizing start with
  | nil => simp
  | cons b digits ih =>
      rw [List.foldlM_cons] at folded
      obtain ⟨next, own, others⟩ := Option.bind_eq_some_iff.mp folded
      refine List.forall_mem_cons.mpr ⟨?_, ih others⟩
      intro ends
      rw [hexValue?_lineEnd ends] at own
      cases own

theorem hexEscape_keeps : Keeps tail hexEscape := by
  have taken (c d : Cursor) (n : Nat) (read : hexEscape c = .ok n d) : ∃ digits,
      digits.length = 4 ∧ c.rest = digits ++ d.rest ∧ hexNumber? digits = some n := by
    obtain ⟨whole, line, column⟩ := c
    match whole with
    | [] | [_] | [_, _] | [_, _, _] => exact (hexEscape_short (by simp) n d read).elim
    | a :: b :: e :: f :: rest =>
      obtain ⟨g, left, same⟩ := hexEscape_eq a b e f rest line column
      rw [same] at read
      cases number : hexNumber? [a, b, e, f] with
      | none =>
          rw [number] at read
          cases read
      | some m =>
          rw [number] at read
          cases read
          exact ⟨[a, b, e, f], rfl, by rw [left]; rfl, number⟩
  constructor
  · intro c v d read
    obtain ⟨digits, -, here, -⟩ := taken c d v read
    exact ⟨digits, here.symm⟩
  · intro c c' n d' aligned read inside
    obtain ⟨digits, four, here, number⟩ := taken c' d' n read
    obtain ⟨text, line, column⟩ := c
    have laid : Laid tail text (digits ++ d'.rest) := here ▸ aligned
    obtain ⟨rest, rfl, laid⟩ := laid.append_left (hexNumber?_solid number) inside
    match digits, four with
    | [a, b, e, f], _ =>
      obtain ⟨d, left, same⟩ := hexEscape_eq a b e f rest line column
      refine ⟨d, ?_, ?_, ?_⟩
      · exact same.trans (by rw [number]; rfl)
      · exact left ▸ ⟨[a, b, e, f], rfl⟩
      · rwa [Aligned, left]

theorem codePoint_keeps : Keeps tail codePoint := by
  refine hexEscape_keeps.bind fun code => ?_
  split
  next =>
    split
    next => exact (failHere_never _).bind.follows
    next =>
      refine (expectInPair_keeps (by decide)).bind fun _ => ?_
      refine (expectInPair_keeps (by decide)).bind fun _ => ?_
      refine hexEscape_keeps.bind fun low => ?_
      split
      next => exact (failHere_never _).bind.follows
      next => exact pure_keeps _
  next =>
    split
    next => exact (failHere_never _).bind.follows
    next => exact pure_keeps _

theorem simpleEscapes_lineEnd {ch : Char} (ends : ch ∈ lineEnds) :
    simpleEscapes.lookup ch = none := by
  have none : ∀ ch ∈ lineEnds, simpleEscapes.lookup ch = none := by
    simp [lineEnds, simpleEscapes]
  exact none ch ends

/-- What follows a backslash: a code behind `u`, else a letter, which no end of a line is. -/
theorem escaped_keeps {code : Reader β} {letter : Char → Reader β} (coded : Keeps tail code)
    (lettered : ∀ ch, Keeps tail (letter ch))
    (refused : ∀ ch, simpleEscapes.lookup ch = none → letter ch = failHere .invalidEscape) :
    Keeps tail (nextInString >>= fun ch => if ch = 'u' then code else letter ch) := by
  refine .nextInString ?_ ?_
  · intro ch
    split
    next => exact coded
    next => exact lettered ch
  · intro ch ends
    have other : ch ≠ 'u' := by
      rintro rfl
      revert ends
      decide
    rw [if_neg other, refused ch (simpleEscapes_lineEnd ends)]
    exact failHere_never _

theorem escape_keeps : Keeps tail escape := by
  refine escaped_keeps codePoint_keeps (fun ch => ?_) fun ch unknown => by rw [unknown]
  split
  next => exact pure_keeps _
  next => exact (failHere_never _).follows

def stringStep (more : Reader (List UInt8)) (byte : UInt8) : Reader (List UInt8) := do
  skip
  if charOf byte = '"' then return []
  else if charOf byte = '\\' then
    let bytes ← escape
    return bytes ++ (← more)
  else if byte < 0x20 then failHere .controlCharacter
  else return byte :: (← more)

theorem stringBytes_succ (count : Nat) {c : Cursor} {byte : UInt8} {rest : List UInt8}
    (here : c.rest = byte :: rest) :
    stringBytes (count + 1) c = stringStep (stringBytes count) byte c := by
  obtain ⟨text, line, column⟩ := c
  cases here
  rfl

theorem stringBytes_follows (count count' : Nat) :
    Follows tail (Bounded tail count count') (stringBytes count) (stringBytes count') := by
  let body (count : Nat) (_ : Unit) := stringBytes count
  refine Follows.loop body body ?_ ?_ count count' ()
  · exact fun _ => (failHere_never _).shrinks
  · intro count count' ih _
    refine .ahead (fun _ _ _ => stringBytes_succ count) (fun _ _ _ => stringBytes_succ count')
      ?_ ?_ ?_
    · intro c v d none read
      obtain ⟨text, line, column⟩ := c
      cases none
      cases read
    · intro b ends
      have others : charOf b ≠ '"' ∧ charOf b ≠ '\\' := by
        have each : ∀ c ∈ lineEnds, c ≠ '"' ∧ c ≠ '\\' := by simp [lineEnds]
        exact each _ ends
      refine .last fun _ => ?_
      rw [if_neg others.1, if_neg others.2, if_pos (control_of_lineEnd ends)]
      exact failHere_never _
    · intro b
      refine .skip ?_ fun c c' both => both.1.advance both.2
      split
      next => exact .pure (fun _ _ bounded => bounded.1) _
      next =>
        split
        next => exact escape_keeps.bindBounded fun _ => (ih ()).bind fun _ => pure_keeps _
        next =>
          split
          next => exact (failHere_never _).follows
          next => exact (ih ()).bind fun _ => pure_keeps _

theorem stringRest_keeps : Keeps tail stringRest := by
  refine .bytesLeft fun n n' => ?_
  refine ((stringBytes_follows (n + 1) (n' + 1)).mono fun _ _ bounded => bounded.succ).bind ?_
  exact fun _ => pure_keeps _

theorem skipEscape_keeps : Keeps tail skipEscape := by
  refine escaped_keeps (hexEscape_keeps.bind fun _ => pure_keeps ()) (fun ch => ?_)
    fun ch unknown => by rw [unknown]; rfl
  split
  next => exact (failHere_never _).follows
  next => exact pure_keeps ()

def skipStringStep (more : Reader Unit) (byte : UInt8) : Reader Unit := do
  if byte < 0x20 then failHere .controlCharacter
  skip
  if charOf byte = '"' then return ()
  if charOf byte = '\\' then skipEscape
  more

theorem skipString_succ (count : Nat) {c : Cursor} {byte : UInt8} {rest : List UInt8}
    (here : c.rest = byte :: rest) :
    skipString (count + 1) c = skipStringStep (skipString count) byte c := by
  obtain ⟨text, line, column⟩ := c
  cases here
  rfl

theorem skipString_follows (count count' : Nat) :
    Follows tail (Bounded tail count count') (skipString count) (skipString count') := by
  let body (count : Nat) (_ : Unit) := skipString count
  refine Follows.loop body body ?_ ?_ count count' ()
  · exact fun _ => (failHere_never _).shrinks
  · intro count count' ih _
    refine .ahead (fun _ _ _ => skipString_succ count) (fun _ _ _ => skipString_succ count')
      ?_ ?_ ?_
    · intro c v d none read
      obtain ⟨text, line, column⟩ := c
      cases none
      cases read
    · intro b ends
      unfold skipStringStep
      rw [if_pos (control_of_lineEnd ends)]
      exact (failHere_never _).bind
    · intro b
      unfold skipStringStep
      by_cases control : b < 0x20
      · rw [if_pos control, if_pos control]
        exact (failHere_never _).bind.follows
      · rw [if_neg control, if_neg control]
        refine .skip ?_ fun c c' both => both.1.advance both.2
        split
        next => exact .pure (fun _ _ bounded => bounded.1) _
        next =>
          split
          next => exact skipEscape_keeps.bindBounded fun _ => ih ()
          next => exact ih ()

theorem isDigit_lineEnd {ch : Char} (ends : ch ∈ lineEnds) : ch.isDigit = false := by
  have none : ∀ ch ∈ lineEnds, ch.isDigit = false := by simp [lineEnds]
  exact none ch ends

theorem digitOf?_lineEnd {b : UInt8} (ends : charOf b ∈ lineEnds) : digitOf? b = none := by
  simp [digitOf?, isDigit_lineEnd ends]

theorem appendDigits_suffix (bound n count : Nat) (text : List UInt8) :
    (appendDigits bound n count text).2.2 <:+ text := by
  induction text generalizing n count with
  | nil => exact List.suffix_rfl
  | cons b text ih =>
      unfold appendDigits
      split
      next n _ => exact (ih n (count + 1)).trans (List.suffix_cons b text)
      next => exact List.suffix_rfl

theorem appendDigits_gap (bound n count : Nat) {gap : List UInt8} (isGap : IsGap gap)
    (text : List UInt8) : appendDigits bound n count (gap ++ text) = (n, count, gap ++ text) := by
  cases gap with
  | nil => cases isGap
  | cons b blanks =>
      rw [List.cons_append, appendDigits, digitOf?_lineEnd isGap.1]
      rfl

theorem Laid.appendDigits {text text' rest' : List UInt8} (laid : Laid tail text text')
    {bound n count m taken : Nat}
    (read : Json.appendDigits bound n count text' = (m, taken, rest'))
    (inside : tail.length < (solids rest').length) :
    ∃ rest, Json.appendDigits bound n count text = (m, taken, rest) ∧ Laid tail rest rest' := by
  induction laid generalizing n count with
  | @done text' ends =>
      have less := solids_length_le (appendDigits_suffix bound n count text')
      rw [read, ends] at less
      exact absurd inside (Nat.not_lt_of_le less)
  | @same text text' b rest ih =>
      unfold Json.appendDigits at read ⊢
      cases digit : (digitOf? b).bind (appendDigit? bound n) with
      | some next =>
          rw [digit] at read
          exact ih read
      | none =>
          rw [digit] at read
          cases read
          exact ⟨b :: text, rfl, .same b rest⟩
  | @gap gap gap' text text' first second rest ih =>
      rw [appendDigits_gap _ _ _ second] at read
      cases read
      exact ⟨gap ++ text, appendDigits_gap _ _ _ first text, .gap first second rest⟩

theorem takeDigits_keeps (bound n : Nat) : Keeps tail (takeDigits bound n) where
  shrinks := by
    intro c v d read
    cases read
    exact appendDigits_suffix bound n 0 c.rest
  tracks := by
    intro c c' v d' aligned read inside
    cases read
    obtain ⟨rest, read, laid⟩ := Laid.appendDigits aligned rfl inside
    have less : rest <:+ c.rest := by
      have suffix := appendDigits_suffix bound n 0 c.rest
      rwa [read] at suffix
    let taken := (appendDigits bound n 0 c'.rest).2.1
    refine ⟨{ c with rest, column := c.column + taken }, ?_, less, laid⟩
    have taken_eq : takeDigits bound n c =
        .ok ((appendDigits bound n 0 c.rest).1, (appendDigits bound n 0 c.rest).2.1)
          { c with
            rest := (appendDigits bound n 0 c.rest).2.2
            column := c.column + (appendDigits bound n 0 c.rest).2.1 } := rfl
    rw [taken_eq, read]

theorem IsGap.takeWhile_append {digit : UInt8 → Bool}
    (solid : ∀ b, charOf b ∈ lineEnds → digit b = false) {gap : List UInt8} (isGap : IsGap gap)
    (text : List UInt8) : (gap ++ text).takeWhile digit = [] := by
  cases gap with
  | nil => cases isGap
  | cons b blanks => simp [solid b isGap.1]

theorem Laid.takeWhile {digit : UInt8 → Bool} (solid : ∀ b, charOf b ∈ lineEnds → digit b = false)
    {text text' : List UInt8} (laid : Laid tail text text')
    (inside : tail.length < (solids (text'.drop (text'.takeWhile digit).length)).length) :
    text.takeWhile digit = text'.takeWhile digit ∧
      Laid tail (text.drop (text.takeWhile digit).length)
        (text'.drop (text'.takeWhile digit).length) := by
  induction laid with
  | @done text' ends =>
      have less := solids_length_le (text'.drop_suffix (text'.takeWhile digit).length)
      rw [ends] at less
      exact absurd inside (Nat.not_lt_of_le less)
  | @same text text' b rest ih =>
      cases own : digit b with
      | true =>
          rw [List.takeWhile_cons_of_pos own] at inside
          rw [List.takeWhile_cons_of_pos own, List.takeWhile_cons_of_pos own]
          obtain ⟨same, laid⟩ := ih inside
          exact ⟨by rw [same], laid⟩
      | false =>
          have stops (text : List UInt8) : (b :: text).takeWhile digit = [] := by simp [own]
          rw [stops, stops]
          exact ⟨rfl, .same b rest⟩
  | gap first second rest =>
      rw [first.takeWhile_append solid, second.takeWhile_append solid]
      exact ⟨rfl, .gap first second rest⟩

theorem countDigits_keeps : Keeps tail countDigits where
  shrinks := by
    intro c v d read
    cases read
    exact c.rest.drop_suffix _
  tracks := by
    intro c c' v d' aligned read inside
    cases read
    have solid : ∀ b, charOf b ∈ lineEnds → (digitOf? b).isSome = false := by
      intro b ends
      rw [digitOf?_lineEnd ends]
      rfl
    obtain ⟨same, laid⟩ := Laid.takeWhile solid aligned inside
    let digits := c.rest.takeWhile fun byte => (digitOf? byte).isSome
    refine ⟨⟨c.rest.drop digits.length, c.line, c.column + digits.length⟩, ?_,
      c.rest.drop_suffix _, laid⟩
    rw [← same]
    rfl

theorem float_keeps (negative : Bool) (significand : Nat) (e : Int) :
    Keeps tail (float negative significand e) := by
  unfold float
  split
  next => exact pure_keeps _
  next => exact (failHere_never _).follows

def exponentDigits (negative : Bool) (significand : Nat) (place : Int) (below : Bool) :
    Reader Number := do
  match ← peek with
  | none => failHere .endInValue
  | some c =>
    unless c.isDigit do
      skip
      failHere .invalidNumber
  let (n, _) ← takeDigits exponentBound 0
  match ← peek with
  | some c =>
    if c.isDigit then
      skip
      if significand ≠ 0 ∧ !below then failHere .numberOutOfRange
      let _ ← countDigits
      return .float (signed negative 0)
  | none => pure ()
  float negative significand (if below then place - n else place + n)

theorem exponent_eq (negative : Bool) (significand : Nat) (place : Int) :
    exponent negative significand place = (do
      skip
      match ← peek with
      | some '+' =>
        skip
        exponentDigits negative significand place false
      | some '-' =>
        skip
        exponentDigits negative significand place true
      | _ => exponentDigits negative significand place false) := rfl

theorem exponentDigits_keeps (negative : Bool) (significand : Nat) (place : Int) (below : Bool) :
    Keeps tail (exponentDigits negative significand place below) := by
  refine .peekOr ?_ ?_ rfl ?_
  · intro ch
    dsimp only
    split
    next =>
      refine Follows.headed ((takeDigits_keeps _ _).bind ?_)
      rintro ⟨n, -⟩
      have ends (place : Int) : Keeps tail (float negative significand place) := float_keeps _ _ _
      refine .peekOr ?_ (ends _) rfl (ends _).shrinks
      intro ch
      dsimp only
      split
      next =>
        refine .skipHead ?_
        split
        next => exact (failHere_never _).bind.follows
        next => exact countDigits_keeps.bind fun _ => pure_keeps _
      next => exact (ends _).headed
    next => exact .skipHead (failHere_never _).bind.follows
  · exact Never.follows (.last fun _ => (failHere_never _).bind)
  · exact (failHere_never _).bind.shrinks

theorem exponent_follows (negative : Bool) (significand : Nat) (place : Int) (ch : Char) :
    Follows tail (Headed tail ch) (exponent negative significand place)
      (exponent negative significand place) := by
  have digits (below : Bool) : Keeps tail (exponentDigits negative significand place below) :=
    exponentDigits_keeps negative significand place below
  rw [exponent_eq]
  refine .skipHead ?_
  refine .peekOr ?_ (digits false) rfl (digits false).shrinks
  intro ch
  split
  next => exact .skipHead (digits false)
  next => exact .skipHead (digits true)
  next => exact (digits false).headed

def exponentOrEnd (negative : Bool) (significand : Nat) (place : Int) : Reader Number := do
  match ← peek with
  | some 'e' | some 'E' => exponent negative significand place
  | _ => float negative significand place

theorem exponentOrEnd_keeps (negative : Bool) (significand : Nat) (place : Int) :
    Keeps tail (exponentOrEnd negative significand place) := by
  have ends : Keeps tail (float negative significand place) := float_keeps _ _ _
  refine .peekOr ?_ ends rfl ends.shrinks
  intro ch
  split
  next => exact exponent_follows _ _ _ _
  next => exact exponent_follows _ _ _ _
  next => exact ends.headed

def fraction (negative : Bool) (significand : Nat) (place : Int) : Reader Number := do
  let (significand, count) ← takeDigits significandBound significand
  let dropped ← countDigits
  if count + dropped = 0 then
    match ← peek with
    | some _ => failNext .invalidNumber
    | none => failNext .endInValue
  exponentOrEnd negative significand (place - count)

theorem fraction_keeps (negative : Bool) (significand : Nat) (place : Int) :
    Keeps tail (fraction negative significand place) := by
  refine (takeDigits_keeps _ _).bind ?_
  rintro ⟨significand, count⟩
  refine countDigits_keeps.bind fun dropped => ?_
  dsimp only
  split
  next =>
    refine Never.follows (.last fun ahead => ?_)
    split <;> exact (failNext_never _).bind
  next => exact exponentOrEnd_keeps _ _ _

theorem fractionAndExponent_eq (negative : Bool) (significand : Nat) (place : Int) :
    fractionAndExponent negative significand place = (do
      match ← peek with
      | some '.' =>
        skip
        fraction negative significand place
      | some 'e' | some 'E' => exponent negative significand place
      | _ => float negative significand place) := rfl

theorem fractionAndExponent_keeps (negative : Bool) (significand : Nat) (place : Int) :
    Keeps tail (fractionAndExponent negative significand place) := by
  have ends : Keeps tail (float negative significand place) := float_keeps _ _ _
  rw [fractionAndExponent_eq]
  refine .peekOr ?_ ends rfl ends.shrinks
  intro ch
  split
  next => exact .skipHead (fraction_keeps _ _ _)
  next => exact exponent_follows _ _ _ _
  next => exact exponent_follows _ _ _ _
  next => exact ends.headed

def wholeOrFraction (negative : Bool) (significand : Nat) : Reader Number := do
  let dropped ← countDigits
  if dropped = 0 ∧ endsWhole (← peek) then
    if !negative then return .natural significand
    else if 1 ≤ significand ∧ significand ≤ Nat.pow 2 63 then return .negative significand
    else return .float (Json.signed true (Double.ofDecimal ⟨false, significand, 0⟩))
  else fractionAndExponent negative significand dropped

theorem wholeOrFraction_keeps (negative : Bool) (significand : Nat) :
    Keeps tail (wholeOrFraction negative significand) := by
  refine countDigits_keeps.bind fun dropped => ?_
  have whole : Keeps tail (if !negative then return .natural significand
      else if 1 ≤ significand ∧ significand ≤ Nat.pow 2 63 then return .negative significand
      else return .float (Json.signed true (Double.ofDecimal ⟨false, significand, 0⟩)) :
        Reader Number) := by
    split
    next => exact pure_keeps _
    next => split <;> exact pure_keeps _
  have parts : Keeps tail (fractionAndExponent negative significand dropped) :=
    fractionAndExponent_keeps _ _ _
  refine .peekOr ?_ ?_ rfl ?_
  · intro ch
    split
    next => exact whole.headed
    next => exact parts.headed
  · split
    next => exact whole
    next => exact parts
  · split
    next => exact whole.shrinks
    next => exact parts.shrinks

theorem unsignedNumber_keeps (negative : Bool) : Keeps tail (unsignedNumber negative) := by
  have rest (significand : Nat) : Keeps tail (wholeOrFraction negative significand) :=
    wholeOrFraction_keeps negative significand
  refine .peekOr ?_ ?_ rfl ?_
  · intro ch
    dsimp only
    split
    next =>
      split
      next =>
        refine .skipHead ?_
        simp only [pure_bind]
        refine .peekOr ?_ (rest 0) rfl (rest 0).shrinks
        intro ch
        dsimp only
        split
        next => exact (failNext_never _).bind.follows
        next => exact Follows.headed (rest 0)
      next => exact Follows.headed ((takeDigits_keeps _ _).map.bind rest)
    next => exact .skipHead (failHere_never _).bind.follows
  · exact Never.follows (.last fun _ => (failHere_never _).bind)
  · exact (failHere_never _).shrinks

theorem number_keeps : Keeps tail number := by
  have unsigned : Keeps tail (unsignedNumber false) := unsignedNumber_keeps _
  refine .peekOr ?_ unsigned rfl unsigned.shrinks
  intro ch
  split
  next => exact .skipHead (unsignedNumber_keeps _)
  next => exact unsigned.headed

end RayScene.Json
