import RayScene.Proofs.Number.Reading

namespace RayScene

open Decimal

structure Numeral where
  whole : List Char
  fraction : List Char
  power : Option Int
  nonempty : whole ≠ []
  isDigit : ∀ c ∈ whole ++ fraction, c.isDigit = true

namespace Numeral

def pointChars (fraction : List Char) : List Char :=
  if fraction = [] then [] else '.' :: fraction

def powerChars : Option Int → List Char
  | none => []
  | some power => 'e' :: (toString power).toList

def chars (n : Numeral) : List Char := n.whole ++ pointChars n.fraction ++ powerChars n.power

def decimal (n : Numeral) : Decimal :=
  ⟨false, ofDigits (n.whole ++ n.fraction), n.power.getD 0 - n.fraction.length⟩

theorem isDigit_toDigits (n : Nat) : ∀ c ∈ Nat.toDigits 10 n, c.isDigit = true :=
  fun _ => Nat.isDigit_of_mem_toDigits (by decide) (by decide)

theorem toList_toString (power : Int) :
    (toString power).toList =
      (if power < 0 then ['-'] else []) ++ Nat.toDigits 10 power.natAbs := by
  cases power with
  | ofNat n =>
    have whole : ¬ Int.ofNat n < 0 := (Int.natCast_nonneg n).not_gt
    show (Nat.repr n).toList = _
    rw [Nat.toList_repr, if_neg whole]
    rfl
  | negSucc n =>
    show ("-" ++ Nat.repr (n + 1)).toList = _
    rw [String.toList_append, Nat.toList_repr, if_pos (Int.negSucc_lt_zero n)]
    rfl

theorem splitSign_digit {c : Char} (digit : c.isDigit = true) (rest : List Char) :
    splitSign (c :: rest) = (false, c :: rest) := by
  unfold splitSign
  split
  next same =>
    cases same
    cases digit
  next same =>
    cases same
    cases digit
  next => rfl

theorem splitSign_digits (n : Nat) :
    splitSign (Nat.toDigits 10 n) = (false, Nat.toDigits 10 n) := by
  have digits := isDigit_toDigits n
  rcases split : Nat.toDigits 10 n with _ | ⟨c, rest⟩
  · exact absurd split Nat.toDigits_ne_nil
  · rw [split] at digits
    exact splitSign_digit (digits c List.mem_cons_self) rest

theorem splitSign_toString (power : Int) :
    splitSign (toString power).toList = (decide (power < 0), Nat.toDigits 10 power.natAbs) := by
  rw [toList_toString]
  by_cases negative : power < 0
  · rw [if_pos negative, decide_eq_true negative]
    rfl
  · rw [if_neg negative, decide_eq_false negative, List.nil_append, splitSign_digits]

theorem readExponent?_powerChars (power : Option Int) :
    readExponent? (powerChars power) = some (power.getD 0) := by
  cases power with
  | none => rfl
  | some power =>
    have digits := List.all_eq_true.mpr (isDigit_toDigits power.natAbs)
    have value : ofDigits (Nat.toDigits 10 power.natAbs) = power.natAbs :=
      Nat.ofDigitChars_ten_toDigits
    simp only [powerChars, readExponent?, splitSign_toString, value, digits, Nat.toDigits_ne_nil,
      ne_eq, not_false_eq_true, true_or, and_self, if_true, decide_eq_true_eq, Option.getD_some]
    congr 1
    split <;> omega

/-- An exponent does not go on with digits or a point. -/
theorem powerChars_split (power : Option Int) :
    (powerChars power).takeWhile Char.isDigit = [] ∧
      (powerChars power).dropWhile Char.isDigit = powerChars power ∧
      ∀ rest, powerChars power ≠ '.' :: rest := by
  cases power with
  | none => exact ⟨rfl, rfl, fun _ => List.cons_ne_nil _ _ |>.symm⟩
  | some power => exact ⟨rfl, rfl, fun _ same => absurd (List.cons.inj same).1 (by decide)⟩

theorem ofChars?_chars (n : Numeral) : Decimal.ofChars? n.chars = some n.decimal := by
  obtain ⟨noDigits, all, noPoint⟩ := powerChars_split n.power
  have whole : ∀ c ∈ n.whole, c.isDigit = true := fun c member =>
    n.isDigit c (List.mem_append_left _ member)
  have fraction : ∀ c ∈ n.fraction, c.isDigit = true := fun c member =>
    n.isDigit c (List.mem_append_right _ member)
  have unsigned : splitSign n.chars = (false, n.chars) := by
    rcases split : n.whole with _ | ⟨c, rest⟩
    · exact absurd split n.nonempty
    · rw [chars, split, List.append_assoc, List.cons_append]
      exact splitSign_digit (whole c (split ▸ List.mem_cons_self)) _
  unfold Decimal.ofChars?
  rw [unsigned, chars, List.append_assoc]
  simp only [List.takeWhile_append_of_pos whole, List.dropWhile_append_of_pos whole]
  by_cases empty : n.fraction = []
  · rw [pointChars, if_pos empty, List.nil_append, noDigits, all]
    split
    next rest point => exact absurd point (noPoint rest)
    next =>
      simp [n.nonempty, empty, readExponent?_powerChars, decimal]
  · rw [pointChars, if_neg empty, List.cons_append]
    have stop : ('.' :: (n.fraction ++ powerChars n.power)).takeWhile Char.isDigit = [] := rfl
    have keep : ('.' :: (n.fraction ++ powerChars n.power)).dropWhile Char.isDigit =
      '.' :: (n.fraction ++ powerChars n.power) := rfl
    simp [stop, keep, List.takeWhile_append_of_pos fraction, List.dropWhile_append_of_pos fraction,
      noDigits, all, n.nonempty, readExponent?_powerChars, decimal]

structure Worth (n : Numeral) (digits : Nat) (place : Int) : Prop where
  value : (n.decimal.digits : ℚ) * 10 ^ n.decimal.exponent = digits * 10 ^ place
  place : n.decimal.exponent = place ∨ n.decimal.exponent = -1

theorem worth_of_decimal {n : Numeral} {digits : Nat} {place : Int}
    (same : n.decimal = ⟨false, digits, place⟩) : n.Worth digits place :=
  ⟨by rw [same], .inl (by rw [same])⟩

end Numeral

theorem toList_pushn (c : Char) (count : Nat) :
    ("".pushn c count).toList = List.replicate count c := by
  rw [String.pushn_eq_repeat_push]
  induction count with
  | zero => rfl
  | succ count ih => rw [Nat.repeat, String.toList_push, ih, List.replicate_succ']

namespace NumberStyle

open Numeral

theorem toList_zeros (count : Nat) : (zeros count).toList = List.replicate count '0' :=
  toList_pushn '0' count

theorem ofDigits_toDigits (n : Nat) : ofDigits (Nat.toDigits 10 n) = n :=
  Nat.ofDigitChars_ten_toDigits

theorem ofDigits_zeros_behind (digits : List Char) (count : Nat) :
    ofDigits (digits ++ List.replicate count '0') = 10 ^ count * ofDigits digits :=
  (Nat.ofDigitChars_append 0).trans Nat.ofDigitChars_replicate_zero

theorem ofDigits_zeros_before (digits : List Char) (count : Nat) :
    ofDigits (List.replicate count '0' ++ digits) = ofDigits digits := by
  have zero : Nat.ofDigitChars 10 (List.replicate count '0') 0 = 0 :=
    Nat.ofDigitChars_replicate_zero
  calc ofDigits (List.replicate count '0' ++ digits)
      = Nat.ofDigitChars 10 digits (Nat.ofDigitChars 10 (List.replicate count '0') 0) :=
        Nat.ofDigitChars_append 0
    _ = ofDigits digits := by rw [zero]; rfl

theorem isDigit_replicate (count : Nat) : ∀ c ∈ List.replicate count '0', c.isDigit = true := by
  intro c member
  rw [List.eq_of_mem_replicate member]
  rfl

theorem isDigit_append {front back : List Char} (first : ∀ c ∈ front, c.isDigit = true)
    (second : ∀ c ∈ back, c.isDigit = true) : ∀ c ∈ front ++ back, c.isDigit = true :=
  fun c member => (List.mem_append.mp member).elim (first c) (second c)

section Digits

variable {text : String} {digits : Nat} (same : text.toList = Nat.toDigits 10 digits)

include same

theorem length_digits : text.length = (Nat.toDigits 10 digits).length := by
  rw [← same, String.length_toList]

theorem whole_numeral (count : Nat) :
    ∃ n : Numeral, (positional true text count).toList = n.chars ∧ n.Worth digits count := by
  have zeros_behind : Nat.toDigits 10 digits ++ List.replicate count '0' ++ ['0'] =
      Nat.toDigits 10 digits ++ List.replicate (count + 1) '0' := by
    rw [List.append_assoc, List.replicate_succ']
  refine ⟨⟨Nat.toDigits 10 digits ++ List.replicate count '0', ['0'], none, ?_, ?_⟩, ?_, ?_,
    .inr rfl⟩
  · simp [Nat.toDigits_ne_nil]
  · rw [zeros_behind]
    exact isDigit_append (isDigit_toDigits digits) (isDigit_replicate _)
  · simp [positional, same, toList_zeros, chars, pointChars, powerChars]
  · simp only [decimal, zeros_behind, ofDigits_zeros_behind, ofDigits_toDigits, Option.getD_none,
      List.length_singleton]
    push_cast
    rw [zpow_natCast]
    ring

theorem small_numeral {places : Nat} (short : text.length ≤ places) (some : 0 < places) :
    ∃ n : Numeral, (positional true text (-places)).toList = n.chars ∧
      n.decimal = ⟨false, digits, -places⟩ := by
  have length := length_digits same
  have zeros_before (count : Nat) : ['0'] ++ (List.replicate count '0' ++ Nat.toDigits 10 digits) =
      List.replicate (count + 1) '0' ++ Nat.toDigits 10 digits := rfl
  refine ⟨⟨['0'], List.replicate (places - text.length) '0' ++ Nat.toDigits 10 digits, none,
    by decide, ?_⟩, ?_, ?_⟩
  · rw [zeros_before]
    exact isDigit_append (isDigit_replicate _) (isDigit_toDigits digits)
  · simp [positional, some.ne', short, same, toList_zeros, chars, pointChars, powerChars,
      Nat.toDigits_ne_nil]
  · simp only [decimal, zeros_before, ofDigits_zeros_before, ofDigits_toDigits, Option.getD_none,
      List.length_append, List.length_replicate, ← length]
    congr 1
    omega

theorem split_numeral {places : Nat} (long : places < text.length) (some : 0 < places) :
    ∃ n : Numeral, (positional true text (-places)).toList = n.chars ∧
      n.decimal = ⟨false, digits, -places⟩ := by
  have length := length_digits same
  refine ⟨⟨(Nat.toDigits 10 digits).take (text.length - places),
    (Nat.toDigits 10 digits).drop (text.length - places), none, ?_, ?_⟩, ?_, ?_⟩
  · rw [ne_eq, List.take_eq_nil_iff, not_or]
    exact ⟨by omega, Nat.toDigits_ne_nil⟩
  · rw [List.take_append_drop]
    exact isDigit_toDigits digits
  · have nonempty : (Nat.toDigits 10 digits).drop (text.length - places) ≠ [] := by
      rw [ne_eq, List.drop_eq_nil_iff]
      omega
    simp [positional, some.ne', long.not_ge, same, chars, pointChars, powerChars, nonempty]
  · simp only [decimal, List.take_append_drop, ofDigits_toDigits, Option.getD_none,
      List.length_drop, ← length]
    congr 1
    omega

theorem positional_numeral (place : Int) :
    ∃ n : Numeral, (positional true text place).toList = n.chars ∧ n.Worth digits place := by
  rcases place with count | below
  · exact whole_numeral same count
  · by_cases short : text.length ≤ below + 1
    · obtain ⟨n, chars, decimal⟩ := small_numeral same short below.succ_pos
      exact ⟨n, chars, worth_of_decimal decimal⟩
    · obtain ⟨n, chars, decimal⟩ := split_numeral same (not_le.mp short) below.succ_pos
      exact ⟨n, chars, worth_of_decimal decimal⟩

theorem scientific_numeral (place : Int) :
    ∃ n : Numeral, (scientific false text (place + text.length - 1)).toList = n.chars ∧
      n.decimal = ⟨false, digits, place⟩ := by
  have length := length_digits same
  have isDigit := isDigit_toDigits digits
  have value := ofDigits_toDigits digits
  rcases split : Nat.toDigits 10 digits with _ | ⟨first, rest⟩
  · exact absurd split Nat.toDigits_ne_nil
  · rw [split, List.length_cons] at length
    rw [split] at isDigit value
    refine ⟨⟨[first], rest, some (place + text.length - 1), List.cons_ne_nil _ _, isDigit⟩, ?_, ?_⟩
    · cases rest with
      | nil => simp [scientific, same, split, chars, pointChars, powerChars]
      | cons second rest => simp [scientific, same, split, chars, pointChars, powerChars]
    · simp only [decimal, List.singleton_append, value, Option.getD_some, length]
      congr 1
      omega

end Digits

theorem literal_numeral (digits : Nat) (place : Int) :
    ∃ n : Numeral, (literal.magnitude digits place).toList = n.chars ∧ n.Worth digits place := by
  have same : (toString digits).toList = Nat.toDigits 10 digits := Nat.toList_repr
  simp only [magnitude]
  split
  next zero =>
    subst zero
    refine ⟨⟨['0'], ['0'], none, List.cons_ne_nil _ _, isDigit_replicate 2⟩, ?_,
      by simp [decimal, ofDigits], .inr rfl⟩
    simp [positional, literal, toList_zeros, chars, pointChars, powerChars]
  next =>
    split
    next => exact positional_numeral same place
    next =>
      obtain ⟨n, chars, decimal⟩ := scientific_numeral same place
      exact ⟨n, chars, worth_of_decimal decimal⟩

end NumberStyle

theorem Single.IsMagnitude.literal {x : Single} (magnitude : x.IsMagnitude) :
    ∃ n : Numeral, x.literal.toList = n.chars ∧ Single.ofDecimal n.decimal = x := by
  obtain ⟨m, e, decoded, reads⟩ := magnitude.reads_back
  obtain ⟨n, chars, worth⟩ := NumberStyle.literal_numeral
    (Shortest.digits .single m e).1 (Shortest.digits .single m e).2
  refine ⟨n, ?_, reads n.decimal rfl worth.value worth.place⟩
  rw [← chars, Single.literal, Single.write, decoded]
  simp [NumberStyle.write]

end RayScene
