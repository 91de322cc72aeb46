import RayScene.Color.Token
import RayScene.Proofs.Number.Literal
import RayScene.Proofs.Outcome

/-!
How a text is cut into tokens. The kinds of the tokens do not depend on where the text starts, and
a token is taken off whatever follows it, as long as that does not go on with the same token.
-/

namespace RayScene.Color

def Lexes (afterOperand : Bool) (text : List Char) (kinds : List TokenKind) : Prop :=
  ∀ count column, text.length ≤ count → ∃ tokens,
    tokensFrom count column afterOperand text = .ok tokens ∧ tokens.map (·.kind) = kinds

theorem Lexes.tokenize {text : List Char} {kinds : List TokenKind}
    (lexes : Lexes false text kinds) :
    ∃ tokens, tokenize text = .ok tokens ∧ tokens.map (·.kind) = kinds :=
  lexes text.length 1 le_rfl

section Steps

variable {afterOperand : Bool} {text : List Char} {kinds : List TokenKind}

theorem lexes_nil : Lexes afterOperand [] [] := by
  intro count column _
  cases count <;> exact ⟨[], rfl, rfl⟩

theorem Lexes.blank (lexes : Lexes afterOperand text kinds) :
    Lexes afterOperand (' ' :: text) kinds := by
  intro count column enough
  obtain ⟨less, rfl⟩ : ∃ less, count = less + 1 := ⟨count - 1, by
    simp only [List.length_cons] at enough; omega⟩
  rw [tokensFrom, if_pos (by decide)]
  exact lexes less (column + 1) (by simpa using enough)

/-- A token in front of a text. -/
theorem Lexes.cons {kind : TokenKind} {c : Char} {front : List Char} (visible : isBlank c = false)
    (first : ∀ column, firstToken column afterOperand (c :: front ++ text) =
      .ok (kind, front.length + 1))
    (lexes : Lexes kind.endsOperand text kinds) :
    Lexes afterOperand (c :: front ++ text) (kind :: kinds) := by
  intro count column enough
  obtain ⟨less, rfl⟩ : ∃ less, count = less + 1 := ⟨count - 1, by
    simp only [List.cons_append, List.length_cons] at enough; omega⟩
  have rest : (c :: front ++ text).drop (front.length + 1) = text := by
    rw [← List.length_cons (a := c), List.drop_left]
  obtain ⟨tokens, ran, spelled⟩ := lexes less (column + (front.length + 1)) (by
    simp only [List.cons_append, List.length_cons, List.length_append] at enough; omega)
  refine ⟨⟨kind, column⟩ :: tokens, ?_, by rw [List.map_cons, spelled]⟩
  have found := first column
  rw [List.cons_append] at found rest ⊢
  rw [tokensFrom, visible, if_neg Bool.false_ne_true, found, Outcome.ok_bind]
  simp only [rest, ran, Outcome.ok_bind]
  rfl

/-- A symbol that does not start a number. -/
theorem Lexes.symbol {sign : Char} (member : sign ∈ symbols)
    (no_number : startsNumber afterOperand (sign :: text) = false)
    (lexes : Lexes (sign == ')') text kinds) :
    Lexes afterOperand (sign :: text) (.symbol sign :: kinds) := by
  obtain ⟨visible, no_name⟩ : isBlank sign = false ∧ isNameStart sign = false := by
    simp only [symbols, List.mem_cons, List.not_mem_nil, or_false] at member
    rcases member with rfl | rfl | rfl | rfl | rfl | rfl | rfl | rfl <;> exact ⟨rfl, rfl⟩
  have first (column : Nat) :
      firstToken column afterOperand (sign :: [] ++ text) = .ok (.symbol sign, 1) := by
    rw [List.cons_append, List.nil_append]
    simp [firstToken, no_number, no_name, member]
    rfl
  exact Lexes.cons visible first lexes

theorem Lexes.sign {sign : Char} (member : sign ∈ ['+', '-', '*', '/', '(', ','])
    (lexes : Lexes false text kinds) :
    Lexes afterOperand (sign :: text) (.symbol sign :: kinds) := by
  simp only [List.mem_cons, List.not_mem_nil, or_false] at member
  rcases member with rfl | rfl | rfl | rfl | rfl | rfl <;>
    exact Lexes.symbol (by decide) rfl lexes

theorem Lexes.close (lexes : Lexes true text kinds) :
    Lexes afterOperand (')' :: text) (.symbol ')' :: kinds) :=
  Lexes.symbol (by decide) rfl lexes

/-- A point behind an operand starts no number, whatever follows it. -/
theorem Lexes.point (lexes : Lexes false text kinds) :
    Lexes true ('.' :: text) (.symbol '.' :: kinds) := by
  refine Lexes.symbol (by decide) ?_ lexes
  cases text <;> rfl

def Avoids (refused : Char → Bool) (text : List Char) : Prop :=
  ∀ c ∈ text.head?, refused c = false

theorem takeWhile_avoids {p : Char → Bool} (avoids : Avoids p text) : text.takeWhile p = [] := by
  cases text with
  | nil => rfl
  | cons c rest => rw [List.takeWhile_cons, avoids c rfl, if_neg Bool.false_ne_true]

theorem isNameStart_rest {c : Char} (start : isNameStart c = true) : isNameRest c = true := by
  simp only [isNameStart, isNameRest, Char.isAlphanum, Bool.or_eq_true] at start ⊢
  rcases start with alpha | line
  · exact .inl (.inl alpha)
  · exact .inr line

theorem isNameStart_visible {c : Char} (start : isNameStart c = true) :
    isBlank c = false ∧ c.isDigit = false ∧ c ≠ '.' := by
  have place : 65 ≤ c.toNat ∧ c.toNat ≤ 122 := by
    simp only [isNameStart, Char.isAlpha, Char.isUpper, Char.isLower, Bool.or_eq_true,
      Bool.and_eq_true, decide_eq_true_eq, beq_iff_eq, ge_iff_le, UInt32.le_iff_toNat_le] at start
    rcases start with (upper | lower) | rfl
    · exact ⟨upper.1, upper.2.trans (by decide)⟩
    · exact ⟨(by decide : 65 ≤ 97).trans lower.1, lower.2⟩
    · decide
  refine ⟨?_, ?_, ?_⟩
  · simp [isBlank]
    omega
  · simp only [Char.isDigit, Bool.and_eq_false_iff, decide_eq_false_iff_not, ge_iff_le,
      UInt32.le_iff_toNat_le]
    right
    exact fun most => absurd (place.1.trans most) (by decide)
  · rintro rfl
    exact absurd place.1 (by decide)

theorem startsNumber_name {c : Char} (start : isNameStart c = true) (rest : List Char) :
    startsNumber afterOperand (c :: rest) = false := by
  obtain ⟨_, no_digit, no_point⟩ := isNameStart_visible start
  unfold startsNumber
  split
  next same => exact absurd (List.cons.inj same).1 no_point
  next same => rw [← (List.cons.inj same).1, no_digit]
  next => rfl

def isName : List Char → Bool
  | c :: rest => isNameStart c && rest.all isNameRest
  | [] => false

theorem Lexes.name {name : String} (spelled : isName name.toList = true)
    (avoids : Avoids isNameRest text) (lexes : Lexes true text kinds) :
    Lexes afterOperand (name.toList ++ text) (.name name :: kinds) := by
  rcases split : name.toList with _ | ⟨c, letters⟩
  · rw [split] at spelled
    cases spelled
  · rw [split, isName, Bool.and_eq_true, List.all_eq_true] at spelled
    obtain ⟨start, others⟩ := spelled
    have all : ∀ d ∈ c :: letters, isNameRest d = true :=
      List.forall_mem_cons.mpr ⟨isNameStart_rest start, others⟩
    have run : (c :: letters ++ text).takeWhile isNameRest = c :: letters := by
      rw [List.takeWhile_append_of_pos all, takeWhile_avoids avoids, List.append_nil]
    have written : String.ofList (c :: letters) = name := by rw [← split, String.ofList_toList]
    refine Lexes.cons (isNameStart_visible start).1 (fun column => ?_) lexes
    rw [List.cons_append] at run ⊢
    rw [firstToken.eq_def, startsNumber_name start, if_neg Bool.false_ne_true]
    simp only [start, if_true, run, written, List.length_cons]
    rfl

def isNumeric (c : Char) : Bool := c.isDigit || c == '.' || c == 'e' || c == 'E'

theorem exponentLength_avoids (avoids : Avoids isNumeric text) : exponentLength text = 0 := by
  cases text with
  | nil => rfl
  | cons c rest =>
    have other := avoids c rfl
    simp only [isNumeric, Bool.or_eq_false_iff, beq_eq_false_iff_ne] at other
    unfold exponentLength
    exact if_neg (not_or.mpr ⟨other.1.2, other.2⟩)

theorem takeWhile_isDigit (n : Nat) (avoids : Avoids isNumeric text) :
    (Nat.toDigits 10 n ++ text).takeWhile Char.isDigit = Nat.toDigits 10 n := by
  have stops : Avoids Char.isDigit text := by
    intro c first
    have other := avoids c first
    simp only [isNumeric, Bool.or_eq_false_iff] at other
    exact other.1.1.1
  rw [List.takeWhile_append_of_pos (Numeral.isDigit_toDigits n), takeWhile_avoids stops,
    List.append_nil]

theorem toDigits_append_ne (n : Nat) {sign : Char} (other : sign.isDigit = false)
    (tail : List Char) : Nat.toDigits 10 n ++ text ≠ sign :: tail := by
  have digits := Numeral.isDigit_toDigits n
  rcases split : Nat.toDigits 10 n with _ | ⟨c, rest⟩
  · exact absurd split Nat.toDigits_ne_nil
  · intro same
    rw [split, (List.cons.inj same).1] at digits
    rw [digits sign List.mem_cons_self] at other
    cases other

theorem exponentLength_powerChars (power : Option Int) (avoids : Avoids isNumeric text) :
    exponentLength (Numeral.powerChars power ++ text) = (Numeral.powerChars power).length := by
  cases power with
  | none => exact exponentLength_avoids avoids
  | some power =>
    have digits := takeWhile_isDigit power.natAbs avoids
    have some : (Nat.toDigits 10 power.natAbs).length ≠ 0 := Nat.length_toDigits_pos.ne'
    rw [Numeral.powerChars, Numeral.toList_toString]
    by_cases negative : power < 0
    · rw [if_pos negative]
      simp [exponentLength, digits, some]
      omega
    · rw [if_neg negative, List.nil_append, List.cons_append, exponentLength, if_pos (.inl rfl)]
      · simp [digits, some]
        omega
      · exact fun tail => toDigits_append_ne _ rfl tail
      · exact fun tail => toDigits_append_ne _ rfl tail

theorem numberLength_chars (n : Numeral) (avoids : Avoids isNumeric text) :
    numberLength (n.chars ++ text) = n.chars.length := by
  have front : ∀ c ∈ n.whole ++ Numeral.pointChars n.fraction, (c.isDigit || c == '.') = true := by
    intro c member
    rw [Bool.or_eq_true, beq_iff_eq]
    rcases List.mem_append.mp member with whole | fraction
    · exact .inl (n.isDigit c (List.mem_append_left _ whole))
    · unfold Numeral.pointChars at fraction
      split at fraction
      · cases fraction
      · rcases List.mem_cons.mp fraction with point | digit
        · exact .inr point
        · exact .inl (n.isDigit c (List.mem_append_right _ digit))
  have back : Avoids (fun c => c.isDigit || c == '.') (Numeral.powerChars n.power ++ text) := by
    intro c first
    cases power : n.power with
    | none =>
      rw [power] at first
      have other := avoids c first
      simp only [isNumeric, Bool.or_eq_false_iff] at other ⊢
      exact other.1.1
    | some power' =>
      rw [power] at first
      cases first
      rfl
  have run : ((n.chars ++ text).takeWhile fun c => c.isDigit || c == '.') =
      n.whole ++ Numeral.pointChars n.fraction := by
    rw [Numeral.chars, List.append_assoc, List.takeWhile_append_of_pos front, takeWhile_avoids back,
      List.append_nil]
  unfold numberLength
  rw [run]
  simp only [Numeral.chars, List.append_assoc (n.whole ++ Numeral.pointChars n.fraction),
    List.drop_left, exponentLength_powerChars _ avoids, ← List.length_append]

theorem chars_cons (n : Numeral) : ∃ c rest, n.chars = c :: rest ∧ c.isDigit = true := by
  rcases split : n.whole with _ | ⟨c, rest⟩
  · exact absurd split n.nonempty
  · refine ⟨c, _, by rw [Numeral.chars, split, List.cons_append, List.cons_append], ?_⟩
    exact n.isDigit c (List.mem_append_left _ (split ▸ List.mem_cons_self))

theorem startsNumber_digit (afterOperand : Bool) {c : Char} (digit : c.isDigit = true)
    (rest : List Char) : startsNumber afterOperand (c :: rest) = true := by
  unfold startsNumber
  split
  next same =>
    rw [(List.cons.inj same).1] at digit
    cases digit
  next same =>
    rw [← (List.cons.inj same).1]
    exact digit
  next same => cases same

theorem isBlank_digit {c : Char} (digit : c.isDigit = true) : isBlank c = false := by
  simp only [Char.isDigit, Bool.and_eq_true, decide_eq_true_eq, ge_iff_le,
    UInt32.le_iff_toNat_le] at digit
  have place : 48 ≤ c.toNat ∧ c.toNat ≤ 57 := digit
  simp [isBlank]
  omega

theorem readNumber_chars {n : Numeral} {value : Single}
    (read : Single.ofDecimal n.decimal = value) (finite : Scalar.isFinite value = true)
    (column : Nat) : readNumber column n.chars = .ok (.number value) := by
  simp only [readNumber, Numeral.ofChars?_chars, read, finite, if_true]

theorem Lexes.number {n : Numeral} {value : Single} (read : Single.ofDecimal n.decimal = value)
    (finite : Scalar.isFinite value = true) (avoids : Avoids isNumeric text)
    (lexes : Lexes true text kinds) :
    Lexes afterOperand (n.chars ++ text) (.number value :: kinds) := by
  obtain ⟨c, rest, split, digit⟩ := chars_cons n
  have starts : startsNumber afterOperand (n.chars ++ text) = true := by
    rw [split]
    exact startsNumber_digit afterOperand digit _
  have first (column : Nat) : firstToken column afterOperand (n.chars ++ text) =
      .ok (.number value, n.chars.length) := by
    rw [firstToken.eq_def, starts, if_pos rfl, numberLength_chars n avoids]
    simp only [List.take_left, readNumber_chars read finite]
    rfl
  rw [split] at first ⊢
  exact Lexes.cons (isBlank_digit digit) first lexes

end Steps

def IsReadable (value : Single) : Prop := value.IsMagnitude ∧ Scalar.isFinite value = true

theorem splitSign_unsigned {text : List Char} (unsigned : ∀ rest, text ≠ '-' :: rest) :
    (Decimal.splitSign text).1 = false := by
  unfold Decimal.splitSign
  split
  next => rfl
  next rest => exact absurd rfl (unsigned rest)
  next => rfl

theorem ofChars?_unsigned {text : List Char} {d : Decimal} (read : Decimal.ofChars? text = some d)
    (unsigned : ∀ rest, text ≠ '-' :: rest) : d.negative = false := by
  have sign := splitSign_unsigned unsigned
  unfold Decimal.ofChars? at read
  simp only at read
  split at read
  all_goals
    split at read
    · cases read
    · obtain ⟨_, _, rfl⟩ := Option.map_eq_some_iff.mp read
      exact sign

theorem readNumber_readable {column : Nat} {text : List Char} {kind : TokenKind}
    (read : readNumber column text = .ok kind) (unsigned : ∀ rest, text ≠ '-' :: rest) :
    ∀ value, kind = .number value → IsReadable value := by
  rintro value rfl
  unfold readNumber at read
  split at read
  next => cases read
  next d decimal =>
    simp only at read
    split at read
    next finite =>
      cases read
      exact ⟨Single.ofDecimal_isMagnitude (ofChars?_unsigned decimal unsigned) finite, finite⟩
    next => cases read

theorem startsNumber_unsigned {afterOperand : Bool} {text : List Char}
    (starts : startsNumber afterOperand text = true) (length : Nat) (rest : List Char) :
    text.take length ≠ '-' :: rest := by
  intro same
  cases text with
  | nil => simp at same
  | cons c others =>
    cases length with
    | zero => simp at same
    | succ length =>
      obtain ⟨rfl, _⟩ := List.cons.inj same
      cases starts

theorem firstToken_readable {column length : Nat} {afterOperand : Bool} {text : List Char}
    {kind : TokenKind} (read : firstToken column afterOperand text = .ok (kind, length)) :
    ∀ value, kind = .number value → IsReadable value := by
  rw [firstToken.eq_def] at read
  split at read
  next starts =>
    obtain ⟨number, taken, read⟩ := Outcome.bind_eq_ok.mp read
    cases read
    exact readNumber_readable taken (startsNumber_unsigned starts _)
  next =>
    split at read
    next c rest =>
      split at read
      next =>
        cases read
        exact fun _ same => absurd same TokenKind.noConfusion
      next =>
        split at read
        next =>
          cases read
          exact fun _ same => absurd same TokenKind.noConfusion
        next => cases read
    next => cases read

theorem tokensFrom_readable {count column : Nat} {afterOperand : Bool} {text : List Char}
    {tokens : List Token} (read : tokensFrom count column afterOperand text = .ok tokens) :
    ∀ value, .number value ∈ tokens.map (·.kind) → IsReadable value := by
  fun_induction tokensFrom count column afterOperand text generalizing tokens with
  | case1 =>
    cases read
    simp
  | case2 =>
    cases read
    simp
  | case3 count column afterOperand c rest blank ih => exact ih read
  | case4 count column afterOperand c rest visible ih =>
    obtain ⟨⟨kind, length⟩, first, read⟩ := Outcome.bind_eq_ok.mp read
    obtain ⟨others, later, read⟩ := Outcome.bind_eq_ok.mp read
    cases read
    intro value member
    rcases List.mem_cons.mp member with same | behind
    · exact firstToken_readable first value same.symm
    · exact ih kind length later value behind

end RayScene.Color
