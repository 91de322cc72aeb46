import RayScene.Proofs.Number.Literal
import RayScene.Proofs.Shader.Reading

namespace RayScene.Wgsl

theorem run_append {letters : List Char} (all : ∀ c ∈ letters, isWordChar c = true)
    (before rest : List Char) :
    (Cutting.word before).run (letters ++ rest) =
      (Cutting.word (letters.reverse ++ before)).run rest := by
  induction letters generalizing before with
  | nil => rfl
  | cons c letters ih =>
      obtain ⟨first, others⟩ := List.forall_mem_cons.mp all
      rw [List.cons_append, Cutting.run, Cutting.step, Cutting.behindWord, if_pos first,
        List.nil_append, ih others, List.reverse_cons, List.append_assoc, List.singleton_append]

def Apart (rest : List Char) : Prop := rest.head?.any isWordChar = false

theorem apart_cons {c : Char} (other : isWordChar c = false) (rest : List Char) :
    Apart (c :: rest) := other

theorem run_apart {rest : List Char} (apart : Apart rest) (letters : List Char) :
    (Cutting.word letters).run rest = Cutting.ended letters ++ tokens rest := by
  cases rest with
  | nil => rw [tokens, Cutting.run, Cutting.run, Cutting.finish, Cutting.finish, Cutting.ended,
      List.append_nil]
  | cons c rest =>
      have other : isWordChar c = false := apart
      simp only [tokens, Cutting.run, Cutting.step, Cutting.behindWord, other, Bool.false_eq_true,
        if_false]
      split <;> simp [Cutting.ended]

theorem tokens_word {letters rest : List Char} (nonempty : letters ≠ [])
    (all : ∀ c ∈ letters, isWordChar c = true) (apart : Apart rest) :
    tokens (letters ++ rest) = .word (String.ofList letters) :: tokens rest := by
  have reversed : letters.reverse ≠ [] := List.reverse_ne_nil_iff.mpr nonempty
  rw [tokens, run_append all, run_apart apart, List.append_nil]
  rcases back : letters.reverse with _ | ⟨c, others⟩
  · exact absurd back reversed
  · rw [Cutting.ended, ← back, List.reverse_reverse, List.singleton_append]
    simp

def isWord (word : String) : Bool := !word.toList.isEmpty && word.toList.all isWordChar

def isName (word : String) : Bool := isWord word && (keyword? word).isNone && !isNumber word

def isVariable (word : String) : Bool := isName word && !typeWords.contains word

def isCallable (function : String) : Bool := isName function || function = "bitcast<vec2u>"

theorem isWord_iff {word : String} :
    isWord word = true ↔ word.toList ≠ [] ∧ ∀ c ∈ word.toList, isWordChar c = true := by
  simp only [isWord, Bool.and_eq_true, Bool.not_eq_true', List.isEmpty_eq_false_iff,
    List.all_eq_true, ne_eq]

def uses (mentions : List Mention) : List Event := mentions.map .uses

section Pieces

variable {r : Reader} {role : Role} {t : List Char}

@[simp] theorem Reader.inRole_inRole (r : Reader) (first second : Role) :
    (r.inRole first).inRole second = r.inRole second := rfl

@[simp] theorem Reader.scope_inRole (r : Reader) (role : Role) :
    (r.inRole role).scope = r.scope := rfl

def Role.Open (role : Role) : Prop := role = plain ∨ role = minus

structure Ends (t : List Char) : Prop where
  apart : Apart t
  symbol : ∃ c, Reader.nextSymbol (tokens t) = some c ∧ c ≠ '(' ∧ c ≠ ':'

theorem ends_symbol {c : Char} (listed : c ∈ [')', ',', ';', ']', '.', '[']) (t : List Char) :
    Ends (c :: t) := by
  simp only [List.mem_cons, List.not_mem_nil, or_false] at listed
  rcases listed with rfl | rfl | rfl | rfl | rfl | rfl <;> exact ⟨rfl, _, rfl, by decide⟩

theorem tokens_blanks {blanks : List Char} (all : ∀ c ∈ blanks, c = ' ' ∨ c = '\n') :
    tokens (blanks ++ t) = tokens t := by
  induction blanks with
  | nil => rfl
  | cons c blanks ih =>
      obtain ⟨first, others⟩ := List.forall_mem_cons.mp all
      rw [← ih others]
      rcases first with rfl | rfl <;> rfl

theorem reading_blanks {blanks : List Char} (all : ∀ c ∈ blanks, c = ' ' ∨ c = '\n') :
    reading r (blanks ++ t) = reading r t := congrArg r.read (tokens_blanks all)

theorem reading_word {letters : List Char} (nonempty : letters ≠ [])
    (all : ∀ c ∈ letters, isWordChar c = true) (apart : Apart t) :
    reading r (letters ++ t) =
      (r.word (String.ofList letters) (Reader.nextSymbol (tokens t))).2 ++
        reading (r.word (String.ofList letters) (Reader.nextSymbol (tokens t))).1 t := by
  rw [reading, tokens_word nonempty all apart, Reader.read]
  rfl

theorem reading_name {name : String} (word : isWord name = true) (apart : Apart t) :
    reading r (name.toList ++ t) =
      (r.word name (Reader.nextSymbol (tokens t))).2 ++
        reading (r.word name (Reader.nextSymbol (tokens t))).1 t := by
  obtain ⟨nonempty, all⟩ := isWord_iff.mp word
  rw [reading_word nonempty all apart, String.ofList_toList]

theorem word_open (isOpen : role.Open) (word : String) (next : Option Char) :
    (r.inRole role).word word next = r.plainWord word next := by
  rcases isOpen with rfl | rfl <;> rfl

theorem keyword?_number {word : String} (number : isNumber word = true) :
    keyword? word = none := by
  refine List.lookup_eq_none_iff.mpr fun entry listed => bne_iff_ne.mpr ?_
  rintro rfl
  have other : ∀ entry ∈ keywords, isNumber entry.1 = false := by decide
  rw [other entry listed] at number
  cases number

theorem plainWord_number {word : String} (number : isNumber word = true) (next : Option Char) :
    r.plainWord word next = (r.inRole .plain, []) := by
  simp only [Reader.plainWord, keyword?_number number, number, if_true]

theorem plainWord_call {word : String} (name : isName word = true) :
    r.plainWord word (some '(') = (r.inRole .plain, [.uses (callee r.scope word)]) := by
  simp only [isName, Bool.and_eq_true, Option.isNone_iff_eq_none, Bool.not_eq_true'] at name
  simp [Reader.plainWord, name]

theorem plainWord_slot {word : String} (name : isName word = true) :
    r.plainWord word (some ':') = ((r.inRole .plain).bind word, []) := by
  simp only [isName, Bool.and_eq_true, Option.isNone_iff_eq_none, Bool.not_eq_true'] at name
  simp [Reader.plainWord, name]

theorem plainWord_variable {word : String} (named : isVariable word = true) (ends : Ends t) :
    r.plainWord word (Reader.nextSymbol (tokens t)) =
      (r.inRole .plain, uses (variableMentions r.scope word)) := by
  obtain ⟨c, next, no_call, no_slot⟩ := ends.symbol
  simp only [isVariable, isName, Bool.and_eq_true, Option.isNone_iff_eq_none,
    Bool.not_eq_true'] at named
  simp only [Reader.plainWord, named, next, Option.some.injEq, no_call, no_slot,
    Bool.false_eq_true, if_false]
  rfl

theorem isWordChar_of_isDigit {c : Char} (digit : c.isDigit = true) : isWordChar c = true := by
  simp [isWordChar, Char.isAlphanum, digit]

theorem toList_natural (n : Nat) : (toString n).toList = Nat.toDigits 10 n := Nat.toList_repr

theorem isWordChar_natural (n : Nat) : ∀ c ∈ (toString n).toList, isWordChar c = true := by
  intro c member
  rw [toList_natural] at member
  exact isWordChar_of_isDigit (Numeral.isDigit_toDigits n c member)

/-- Digits, and whatever letters the number goes on with. -/
theorem reading_digits {digits letters : List Char} (isOpen : role.Open) (nonempty : digits ≠ [])
    (all : ∀ c ∈ digits, c.isDigit = true) (others : ∀ c ∈ letters, isWordChar c = true)
    (apart : Apart t) :
    reading (r.inRole role) (digits ++ letters ++ t) = reading (r.inRole .plain) t := by
  have each : ∀ c ∈ digits ++ letters, isWordChar c = true :=
    List.forall_mem_append.mpr ⟨fun c member => isWordChar_of_isDigit (all c member), others⟩
  have number : isNumber (String.ofList (digits ++ letters)) = true := by
    obtain ⟨c, more, rfl⟩ := List.exists_cons_of_ne_nil nonempty
    simp [isNumber, all c List.mem_cons_self]
  rw [reading_word (List.append_ne_nil_of_left_ne_nil nonempty _) each apart, word_open isOpen,
    plainWord_number number]
  rfl

theorem reading_member {name : String} (word : isWord name = true) (apart : Apart t) :
    reading (r.inRole .member) (name.toList ++ t) = reading (r.inRole .plain) t := by
  rw [reading_name word apart]
  rfl

theorem isWord_of_isVariable {name : String} (named : isVariable name = true) :
    isWord name = true := by
  simp only [isVariable, isName, Bool.and_eq_true] at named
  exact named.1.1.1

theorem reading_variable {name : String} (isOpen : role.Open) (named : isVariable name = true)
    (ends : Ends t) :
    reading (r.inRole role) (name.toList ++ t) =
      uses (variableMentions r.scope name) ++ reading (r.inRole .plain) t := by
  rw [reading_name (isWord_of_isVariable named) ends.apart, word_open isOpen,
    plainWord_variable named ends]

theorem reading_call {function : String} (isOpen : role.Open)
    (callable : isCallable function = true) :
    reading (r.inRole role) (function.toList ++ '(' :: t) =
      .uses (callee r.scope function) :: reading (r.inRole .plain) t := by
  rw [isCallable, Bool.or_eq_true, decide_eq_true_eq] at callable
  rcases callable with named | rfl
  · have word : isWord function = true := by
      simp only [isName, Bool.and_eq_true] at named
      exact named.1.1
    have apart : Apart ('(' :: t) := apart_cons rfl t
    have next : Reader.nextSymbol (tokens ('(' :: t)) = some '(' := rfl
    rw [reading_name word apart, word_open isOpen, next, plainWord_call named]
    rfl
  · rcases isOpen with rfl | rfl <;> rfl

/-- Digits and an exponent, on their own or behind a point. -/
theorem reading_power {digits : List Char} (placed : role.Open ∨ role = .member)
    (nonempty : digits ≠ []) (all : ∀ c ∈ digits, c.isDigit = true) (power : Option Int)
    (apart : Apart t) :
    reading (r.inRole role) (digits ++ (Numeral.powerChars power ++ t)) =
      reading (r.inRole .plain) t := by
  have word {letters behind : List Char} (others : ∀ c ∈ letters, isWordChar c = true)
      (ended : Apart behind) :
      reading (r.inRole role) (digits ++ letters ++ behind) =
        reading (r.inRole .plain) behind := by
    rcases placed with isOpen | rfl
    · exact reading_digits isOpen nonempty all others ended
    · rw [reading_word (List.append_ne_nil_of_left_ne_nil nonempty _) _ ended]
      · rfl
      · exact List.forall_mem_append.mpr
          ⟨fun c member => isWordChar_of_isDigit (all c member), others⟩
  cases power with
  | none =>
      rw [← List.append_assoc]
      exact word (List.forall_mem_nil _) apart
  | some power =>
      have exponent := Numeral.isDigit_toDigits power.natAbs
      rw [Numeral.powerChars, Numeral.toList_toString]
      by_cases negative : power < 0
      · have behind := reading_digits (r := r) (.inr rfl) Nat.toDigits_ne_nil exponent
          (List.forall_mem_nil _) apart
        rw [List.append_nil] at behind
        have letter : ∀ c ∈ ['e'], isWordChar c = true := List.forall_mem_singleton.mpr rfl
        have front := word letter
          (apart_cons (by decide : isWordChar '-' = false) (Nat.toDigits 10 power.natAbs ++ t))
        rw [List.append_assoc] at front
        rw [if_pos negative, ← behind]
        exact front
      · rw [if_neg negative, List.nil_append, ← List.append_assoc]
        refine word (List.forall_mem_cons.mpr ⟨by decide, fun c member => ?_⟩) apart
        exact isWordChar_of_isDigit (exponent c member)

theorem reading_numeral (n : Numeral) (isOpen : role.Open) (apart : Apart t) :
    reading (r.inRole role) (n.chars ++ t) = reading (r.inRole .plain) t := by
  have whole : ∀ c ∈ n.whole, c.isDigit = true := fun c member =>
    n.isDigit c (List.mem_append_left _ member)
  have fraction : ∀ c ∈ n.fraction, c.isDigit = true := fun c member =>
    n.isDigit c (List.mem_append_right _ member)
  rw [Numeral.chars, Numeral.pointChars, List.append_assoc, List.append_assoc]
  by_cases empty : n.fraction = []
  · rw [if_pos empty, List.nil_append]
    exact reading_power (.inl isOpen) n.nonempty whole n.power apart
  · rw [if_neg empty]
    have front := reading_digits (r := r) (t := '.' :: (n.fraction ++
      (Numeral.powerChars n.power ++ t))) isOpen n.nonempty whole (List.forall_mem_nil _) rfl
    rw [List.append_nil] at front
    exact front.trans (reading_power (.inr rfl) empty fraction n.power apart)

theorem reading_literal (x : Single) (isOpen : role.Open) (apart : Apart t) :
    reading (r.inRole role) (x.literal.toList ++ t) = reading (r.inRole .plain) t := by
  have special {word : String} (spelled : isWord word = true) (number : isNumber word = true)
      {role : Role} (isOpen : role.Open) :
      reading (r.inRole role) (word.toList ++ t) = reading (r.inRole .plain) t := by
    rw [reading_name spelled apart, word_open isOpen, plainWord_number number]
    rfl
  have signed (text : List Char) :
      reading (r.inRole role) ('-' :: text) = reading (r.inRole .minus) text := by
    rcases isOpen with rfl | rfl <;> rfl
  rw [Single.literal, Single.write, NumberStyle.write.eq_def]
  split
  next => exact special (by decide) (by decide) isOpen
  next negative _ =>
      cases negative with
      | false => exact special (by decide) (by decide) isOpen
      | true =>
          have infinite := signed ("inf".toList ++ t)
          exact infinite.trans (special (by decide) (by decide) (.inr rfl))
  next negative m e _ =>
      obtain ⟨n, chars, -⟩ := NumberStyle.literal_numeral
        (Shortest.digits .single m e).1 (Shortest.digits .single m e).2
      rw [String.toList_append, chars]
      cases negative with
      | false => exact reading_numeral n isOpen apart
      | true => exact (signed _).trans (reading_numeral n (.inr rfl) apart)

end Pieces

end RayScene.Wgsl
