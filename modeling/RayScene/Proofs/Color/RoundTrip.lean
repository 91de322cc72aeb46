import RayScene.Proofs.Color.Budget
import RayScene.Proofs.Color.Lexing

/-!
Printing a color expression and parsing the text again. The printer's own parentheses cost nesting,
so the text is parsed to the same expression exactly if the budget covers them.
-/

namespace RayScene.Color

mutual

/-- The nesting of the written expression. -/
def Expr.cost : Expr Single → Nat
  | .number _ | .input _ => 0
  | .negate operand => 2 + operand.cost
  | .binary _ left right => 1 + max left.cost right.cost
  | .call _ arguments => 1 + greatestCost arguments
  | .swizzle base _ => base.cost

def greatestCost : List (Expr Single) → Nat
  | [] => 0
  | e :: es => max e.cost (greatestCost es)

end

mutual

def Expr.spelled : Expr Single → List TokenKind
  | .number value => [.number value]
  | .input source => [.name source.name]
  | .negate operand => .symbol '(' :: .symbol '-' :: (operand.spelled ++ [.symbol ')'])
  | .binary op left right =>
    .symbol '(' :: (left.spelled ++ .symbol op.symbol :: (right.spelled ++ [.symbol ')']))
  | .call function arguments =>
    .name function.name :: .symbol '(' :: (spelledAll arguments ++ [.symbol ')'])
  | .swizzle base components => base.spelled ++ [.symbol '.', .name components]

def spelledAll : List (Expr Single) → List TokenKind
  | [] => []
  | e :: es => e.spelled ++ spelledMore es

def spelledMore : List (Expr Single) → List TokenKind
  | [] => []
  | e :: es => .symbol ',' :: (e.spelled ++ spelledMore es)

end

theorem Derives.grouped {root : Expr Single} {depth : Nat} {tokens : List TokenKind}
    (derived : Derives (.sum root) depth tokens) :
    Derives (.operand root) (1 + depth) (.symbol '(' :: (tokens ++ [.symbol ')'])) := by
  rw [Nat.add_comm]
  exact .primary derived.parentheses

theorem Derives.binary {left right : Expr Single} {m n : Nat} {front back : List TokenKind}
    (op : BinaryOp) (first : Derives (.operand left) m front)
    (second : Derives (.operand right) n back) :
    Derives (.sum (.binary op left right)) (max m n) (front ++ .symbol op.symbol :: back) := by
  cases op with
  | add => exact .sum (by decide) first.operand.signed.product second.operand.signed
  | sub => exact .sum (by decide) first.operand.signed.product second.operand.signed
  | mul => exact .product (.times (by decide) first.operand.signed second.operand)
  | div => exact .product (.times (by decide) first.operand.signed second.operand)

mutual

theorem spelled_derives : ∀ {e : Expr Single} {width : Nat}, e.width? = some width →
    Derives (.operand e) e.cost e.spelled
  | .number value, _, _ => .primary (.number value)
  | .input source, _, _ => .primary (.input source)
  | .negate operand, _, wide => by
    rw [Expr.width?] at wide
    have inner := spelled_derives wide
    have grouped := inner.operand.negate.signed.product.grouped
    rw [Expr.cost, Expr.spelled, Nat.add_comm 2, ← Nat.add_comm 1]
    exact grouped
  | .binary op left right, _, wide => by
    rw [Expr.width?] at wide
    obtain ⟨_, first, wide⟩ := Option.bind_eq_some_iff.mp wide
    obtain ⟨_, second, _⟩ := Option.bind_eq_some_iff.mp wide
    have grouped := (Derives.binary op (spelled_derives first) (spelled_derives second)).grouped
    rw [List.append_assoc, List.cons_append] at grouped
    exact grouped
  | .call function arguments, _, wide => by
    rw [Expr.width?] at wide
    obtain ⟨widths, parts, wide⟩ := Option.bind_eq_some_iff.mp wide
    have nonempty : arguments ≠ [] := by
      rintro rfl
      cases parts
      rcases result : function.signature.resultWidth [] with _ | width
      · rw [result] at wide
        cases wide
      · exact resultWidth_nil _ _ result
    have called := (spelledAll_derives nonempty parts).call function
    rw [Expr.cost, Nat.add_comm]
    exact .primary called
  | .swizzle base components, _, wide => by
    rw [Expr.width?] at wide
    obtain ⟨_, inner, _⟩ := Option.bind_eq_some_iff.mp wide
    exact (spelled_derives inner).swizzle components

theorem spelledAll_derives : ∀ {es : List (Expr Single)} {widths : List Nat}, es ≠ [] →
    widths? es = some widths → Derives (.arguments es) (greatestCost es) (spelledAll es)
  | [], _, nonempty, _ => absurd rfl nonempty
  | [e], _, _, parts => by
    rw [widths_single] at parts
    obtain ⟨_, wide, _⟩ := Option.bind_eq_some_iff.mp parts
    have single := (spelled_derives wide).operand.signed.product.argument
    simpa [greatestCost, spelledAll, spelledMore] using single
  | e :: next :: es, _, _, parts => by
    rw [widths_cons] at parts
    obtain ⟨_, wide, parts⟩ := Option.bind_eq_some_iff.mp parts
    obtain ⟨_, others, _⟩ := Option.bind_eq_some_iff.mp parts
    have first := (spelled_derives wide).operand.signed.product
    exact first.more (spelledAll_derives (List.cons_ne_nil _ _) others)

end

mutual

def Expr.numbers : Expr Single → List Single
  | .number value => [value]
  | .input _ => []
  | .negate operand => operand.numbers
  | .binary _ left right => left.numbers ++ right.numbers
  | .call _ arguments => numbersOfAll arguments
  | .swizzle base _ => base.numbers

def numbersOfAll : List (Expr Single) → List Single
  | [] => []
  | e :: es => e.numbers ++ numbersOfAll es

end

def Phrase.numbers : Phrase → List Single
  | .sum root | .product root | .signed root | .operand root | .primary root => root.numbers
  | .arguments roots => numbersOfAll roots

theorem Derives.numbers_spelled {phrase : Phrase} {depth : Nat} {kinds : List TokenKind}
    (derived : Derives phrase depth kinds) :
    ∀ value ∈ phrase.numbers, .number value ∈ kinds := by
  induction derived with
  | product _ ih | signed _ ih | operand _ ih | primary _ ih => exact ih
  | sum _ _ _ first second | times _ _ _ first second | more _ _ first second =>
    intro value member
    rcases List.mem_append.mp member with left | right
    · exact List.mem_append_left _ (first value left)
    · exact List.mem_append_right _ (List.mem_cons_of_mem _ (second value right))
  | negate _ ih => exact fun value member => List.mem_cons_of_mem _ (ih value member)
  | swizzle components _ ih => exact fun value member => List.mem_append_left _ (ih value member)
  | number value =>
    intro other member
    rw [List.mem_singleton.mp member]
    exact List.mem_cons_self
  | input source => exact fun value member => absurd member List.not_mem_nil
  | call function _ ih =>
    exact fun value member => List.mem_cons_of_mem _ (List.mem_cons_of_mem _
      (List.mem_append_left _ (ih value member)))
  | parentheses _ ih =>
    exact fun value member => List.mem_cons_of_mem _ (List.mem_append_left _ (ih value member))
  | argument _ ih =>
    intro value member
    exact ih value (by simpa [Phrase.numbers, numbersOfAll] using member)

/-- What may stand behind a written expression; a point only behind a vector. -/
def Follows (e : Expr Single) (text : List Char) : Prop :=
  ∀ c ∈ text.head?, c ∈ [' ', ')', ','] ∨ c = '.' ∧ e.width? ≠ some 1

theorem Follows.avoids_name {e : Expr Single} {text : List Char} (follows : Follows e text) :
    Avoids isNameRest text := by
  intro c first
  rcases follows c first with other | ⟨rfl, _⟩
  · simp only [List.mem_cons, List.not_mem_nil, or_false] at other
    rcases other with rfl | rfl | rfl <;> rfl
  · rfl

theorem Follows.avoids_numeric {value : Single} {text : List Char}
    (follows : Follows (.number value) text) : Avoids isNumeric text := by
  intro c first
  rcases follows c first with other | ⟨_, vector⟩
  · simp only [List.mem_cons, List.not_mem_nil, or_false] at other
    rcases other with rfl | rfl | rfl <;> rfl
  · exact absurd rfl vector

theorem follows_cons (e : Expr Single) {c : Char} (text : List Char) (other : c ∈ [' ', ')', ',']) :
    Follows e (c :: text) := by
  intro d first
  cases first
  exact .inl other

theorem input_isName (source : Input) : isName source.name.toList = true := by
  cases source <;> rfl

theorem builtin_isName (function : Builtin) : isName function.name.toList = true := by
  cases function <;> rfl

/-- Letters that select components are a name, and only a vector has components. -/
theorem swizzle_isName {components : List Char} {base width : Nat}
    (valid : swizzleWidth? components base = some width) : 1 < base ∧ isName components = true := by
  have letter : ∀ letters ∈ letterSets, ∀ c ∈ letters, isNameStart c = true := by
    simp only [letterSets, List.mem_cons, List.not_mem_nil, or_false]
    rintro _ (rfl | rfl) c member <;>
      simp only [List.mem_cons, List.not_mem_nil, or_false] at member <;>
      rcases member with rfl | rfl | rfl | rfl <;> rfl
  unfold swizzleWidth? at valid
  simp only [Option.ite_none_right_eq_some] at valid
  obtain ⟨⟨vector, nonempty, _, named⟩, _⟩ := valid
  obtain ⟨letters, member, all⟩ := List.any_eq_true.mp named
  have starts : ∀ c ∈ components, isNameStart c = true := fun c inside =>
    letter letters member c (List.mem_of_mem_take
      (List.contains_iff_mem.mp (List.all_eq_true.mp all c inside)))
  cases components with
  | nil => exact absurd rfl nonempty
  | cons c rest =>
    refine ⟨vector, ?_⟩
    rw [isName, Bool.and_eq_true, List.all_eq_true]
    exact ⟨starts c List.mem_cons_self,
      fun d inside => isNameStart_rest (starts d (List.mem_cons_of_mem _ inside))⟩

theorem write_binary (op : BinaryOp) (left right : Expr Single) :
    (Expr.binary op left right).write.toList =
      '(' :: (left.write.toList ++ ' ' :: op.symbol :: ' ' :: (right.write.toList ++ [')'])) := by
  have spaced : (s!" {op.symbol} ").toList = [' ', op.symbol, ' '] := by cases op <;> rfl
  rw [Expr.write, String.toList_append, String.toList_append, String.toList_append,
    String.toList_append, spaced]
  simp

-- Induction on the expression. What stands behind it is cut already, and stays arbitrary because
-- it holds the rest of the expressions around.
mutual

/-- The text of an expression is cut into its tokens, whatever may follow it. -/
theorem write_lexes : ∀ {e : Expr Single} {width : Nat} {text : List Char}
    {kinds : List TokenKind} (afterOperand : Bool), e.width? = some width →
    (∀ value ∈ e.numbers, IsReadable value) → Follows e text → Lexes true text kinds →
    Lexes afterOperand (e.write.toList ++ text) (e.spelled ++ kinds)
  | .number value, _, _, _, _, _, readable, follows, behind => by
    obtain ⟨magnitude, finite⟩ := readable value List.mem_cons_self
    obtain ⟨n, chars, reads⟩ := magnitude.literal
    rw [Expr.write, chars]
    exact Lexes.number reads finite follows.avoids_numeric behind
  | .input source, _, _, _, _, _, _, follows, behind =>
    Lexes.name (input_isName source) follows.avoids_name behind
  | .negate operand, _, _, _, after, wide, readable, _, behind => by
    rw [Expr.width?] at wide
    have inner := write_lexes false wide readable (follows_cons _ _ (by decide)) behind.close
    have signed : Lexes false _ _ := inner.sign (by decide : '-' ∈ _)
    have whole : Lexes after _ _ := signed.sign (by decide : '(' ∈ _)
    simpa [Expr.write, Expr.spelled] using whole
  | .binary op left right, _, _, _, after, wide, readable, _, behind => by
    rw [Expr.width?] at wide
    obtain ⟨_, first, wide⟩ := Option.bind_eq_some_iff.mp wide
    obtain ⟨_, second, _⟩ := Option.bind_eq_some_iff.mp wide
    obtain ⟨readable, readable'⟩ := List.forall_mem_append.mp readable
    have operator : op.symbol ∈ ['+', '-', '*', '/', '(', ','] := by cases op <;> decide
    have back := write_lexes false second readable' (follows_cons _ _ (by decide)) behind.close
    have front := write_lexes false first readable (follows_cons _ _ (by decide))
      (back.blank.sign operator).blank
    have whole : Lexes after _ _ := front.sign (by decide : '(' ∈ _)
    rw [write_binary]
    simpa [Expr.spelled] using whole
  | .call function arguments, _, _, _, after, wide, readable, _, behind => by
    rw [Expr.width?] at wide
    obtain ⟨widths, parts, _⟩ := Option.bind_eq_some_iff.mp wide
    have inner := writeAll_lexes parts readable behind
    have opened : Lexes true _ _ := inner.sign (by decide : '(' ∈ _)
    have whole : Lexes after _ _ :=
      Lexes.name (builtin_isName function) (fun _ first => by cases first; rfl) opened
    simpa [Expr.write, Expr.spelled] using whole
  | .swizzle base components, _, text, _, after, wide, readable, follows, behind => by
    rw [Expr.width?] at wide
    obtain ⟨parts, inner, valid⟩ := Option.bind_eq_some_iff.mp wide
    obtain ⟨vector, letters⟩ := swizzle_isName valid
    have selected : Lexes false _ _ := Lexes.name letters follows.avoids_name behind
    have point : Follows base ('.' :: (components.toList ++ text)) := by
      intro c first
      cases first
      refine .inr ⟨rfl, fun scalar => ?_⟩
      rw [inner] at scalar
      cases scalar
      omega
    have whole := write_lexes after inner readable point selected.point
    simpa [Expr.write, Expr.spelled] using whole

theorem writeAll_lexes : ∀ {es : List (Expr Single)} {widths : List Nat} {text : List Char}
    {kinds : List TokenKind}, widths? es = some widths →
    (∀ value ∈ numbersOfAll es, IsReadable value) → Lexes true text kinds →
    Lexes false ((", ".intercalate (writeAll es)).toList ++ ')' :: text)
      (spelledAll es ++ .symbol ')' :: kinds)
  | [], _, _, _, _, _, behind => behind.close
  | [e], _, _, _, parts, readable, behind => by
    rw [widths_single] at parts
    obtain ⟨_, wide, _⟩ := Option.bind_eq_some_iff.mp parts
    obtain ⟨readable, _⟩ := List.forall_mem_append.mp readable
    have single := write_lexes false wide readable (follows_cons _ _ (by decide)) behind.close
    simpa [writeAll, spelledAll, spelledMore] using single
  | e :: next :: es, _, _, _, parts, readable, behind => by
    rw [widths_cons] at parts
    obtain ⟨_, wide, parts⟩ := Option.bind_eq_some_iff.mp parts
    obtain ⟨_, others, _⟩ := Option.bind_eq_some_iff.mp parts
    obtain ⟨readable, readable'⟩ := List.forall_mem_append.mp readable
    have back := writeAll_lexes others readable' behind
    have comma : Lexes true _ _ := back.blank.sign (by decide : ',' ∈ _)
    have whole := write_lexes false wide readable (follows_cons _ _ (by decide)) comma
    simpa [writeAll, spelledAll, spelledMore] using whole

end

/-- The tokens of the written expression, if its numbers came from a text. -/
theorem tokenize_write {root : Expr Single} {width : Nat} (wide : root.width? = some width)
    (readable : ∀ value ∈ root.numbers, IsReadable value) :
    ∃ tokens, tokenize root.write.toList = .ok tokens ∧ tokens.map (·.kind) = root.spelled := by
  have follows : Follows root [] := fun _ first => by cases first
  have lexes := write_lexes false wide readable follows lexes_nil
  rw [List.append_nil, List.append_nil] at lexes
  exact lexes.tokenize

theorem parse_numbers_readable {text : String} {root : Expr Single}
    (parses : parse text = .ok root) : ∀ value ∈ root.numbers, IsReadable value := by
  obtain ⟨read, tokenized, parses⟩ := Outcome.bind_eq_ok.mp parses
  obtain ⟨⟨depth, -, derived⟩, -⟩ := parseTokens_sound parses
  intro value member
  exact tokensFrom_readable tokenized value (derived.numbers_spelled value member)

theorem parse_width {text : String} {root : Expr Single} (parses : parse text = .ok root) :
    ∃ width, root.width? = some width := by
  obtain ⟨read, -, parses⟩ := Outcome.bind_eq_ok.mp parses
  obtain ⟨-, color⟩ := parseTokens_sound parses
  exact color.elim (⟨1, ·⟩) (⟨3, ·⟩)

/--
Parsing what is printed for a parsed expression returns the expression if the nesting budget
covers the parentheses of the print, and otherwise fails because of the nesting alone.
-/
theorem parse_write {text : String} {root : Expr Single} (parses : parse text = .ok root) :
    (root.cost ≤ maxNesting → parse root.write = .ok root) ∧
      (maxNesting < root.cost →
        ∃ column, parse root.write = .error ⟨column, .nestedTooDeeply⟩) := by
  obtain ⟨width, wide⟩ := parse_width parses
  have readable := parse_numbers_readable parses
  obtain ⟨_, _, parses⟩ := Outcome.bind_eq_ok.mp parses
  obtain ⟨-, color⟩ := parseTokens_sound parses
  obtain ⟨tokens, printed, spelled⟩ := tokenize_write wide readable
  have derived : Derives (.sum root) root.cost (tokens.map (·.kind)) :=
    spelled ▸ (spelled_derives wide).operand.signed.product
  have reparsed : parse root.write = parseTokens (root.write.length + 1) tokens := by
    rw [parse, printed, Outcome.ok_bind]
  rw [reparsed]
  exact ⟨fun shallow => parseTokens_complete ⟨_, shallow, derived⟩ color,
    fun deep => parseTokens_exhausted _ derived wide deep⟩

def scaledPoint : Expr Single :=
  .binary .mul (.number (Single.ofDecimal ⟨false, 5, -1⟩)) (.input .point)

def negations : Expr Single := Nat.repeat .negate 33 (.input .point)

theorem printed_parsed :
    parse "0.5*p" = .ok scaledPoint ∧ parse scaledPoint.write = .ok scaledPoint ∧
      parse "---------------------------------p" = .ok negations ∧
      ∃ column, parse negations.write = .error ⟨column, .nestedTooDeeply⟩ := by
  have scaled : tokenize "0.5*p".toList =
      .ok [⟨.number (Single.ofDecimal ⟨false, 5, -1⟩), 1⟩, ⟨.symbol '*', 4⟩, ⟨.name "p", 5⟩] := by
    decide +kernel
  have negated : tokenize "---------------------------------p".toList =
      .ok ((List.range 33).map (fun n => ⟨.symbol '-', n + 1⟩) ++ [⟨.name "p", 34⟩]) := by
    decide +kernel
  have first : parse "0.5*p" = .ok scaledPoint := by
    rw [parse, scaled, Outcome.ok_bind]
    rfl
  have second : parse "---------------------------------p" = .ok negations := by
    rw [parse, negated, Outcome.ok_bind]
    rfl
  exact ⟨first, (parse_write first).1 (by decide), second, (parse_write second).2 (by decide)⟩

end RayScene.Color
