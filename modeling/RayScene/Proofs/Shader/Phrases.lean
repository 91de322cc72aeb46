import RayScene.Proofs.Shader.Words
import RayScene.Shader.WgslText

namespace RayScene.Wgsl

section Trees

variable {S : Type}

mutual

def Expr.spelled : Expr S → Bool
  | .float _ | .whole _ | .unsigned _ | .signed _ | .bool _ => true
  | .var name => isVariable name
  | .member base name => base.spelled && isWord name
  | .index base position => base.spelled && position.spelled
  | .neg operand | .paren operand => operand.spelled
  | .binary _ left right => left.spelled && right.spelled
  | .call function arguments | .tallCall function arguments =>
    isCallable function && allSpelled arguments

def allSpelled : List (Expr S) → Bool
  | [] => true
  | e :: es => e.spelled && allSpelled es

end

def Ty.spelled : Ty → Bool
  | struct name => isVariable name
  | _ => true

mutual

def Stmt.spelled : Stmt S → Bool
  | .bind name value | .declare name value => isVariable name && value.spelled
  | .declareEmpty name type => isVariable name && type.spelled
  | .assign target _ value => target.spelled && value.spelled
  | .ret value | .effect value => value.spelled
  | .stop | .leave => true
  | .branch condition yes no => condition.spelled && blockSpelled yes && blockSpelled no
  | .count counter bound body => isVariable counter && bound.spelled && blockSpelled body
  | .switch value cases => value.spelled && casesSpelled cases

def blockSpelled : List (Stmt S) → Bool
  | [] => true
  | s :: rest => s.spelled && blockSpelled rest

def casesSpelled : List (Nat × List (Stmt S)) → Bool
  | [] => true
  | (_, body) :: rest => blockSpelled body && casesSpelled rest

end

mutual

def Stmt.events (scope : List String) : Stmt S → List Event
  | .bind _ value | .declare _ value | .ret value | .effect value => uses (value.mentions scope)
  | .declareEmpty _ type => uses type.mentions
  | .assign target _ value => uses (target.mentions scope ++ value.mentions scope)
  | .stop | .leave => []
  | .branch condition yes no =>
    uses (condition.mentions scope) ++ blockEvents scope yes ++ blockEvents scope no
  | .count counter bound body =>
    uses (bound.mentions (counter :: scope)) ++ blockEvents (counter :: scope) body
  | .switch value cases => uses (value.mentions scope) ++ caseEvents scope cases

def blockEvents (scope : List String) : List (Stmt S) → List Event
  | [] => []
  | s :: rest => s.events scope ++ blockEvents (s.binds ++ scope) rest

def caseEvents (scope : List String) : List (Nat × List (Stmt S)) → List Event
  | [] => []
  | (number, body) :: rest => .label number :: (blockEvents scope body ++ caseEvents scope rest)

end

end Trees

section Pieces

variable {r : Reader} {role : Role} {t : List Char}

def BinaryOp.behind : BinaryOp → Role
  | sub => .minus
  | _ => .plain

theorem BinaryOp.behind_open (op : BinaryOp) : op.behind.Open := by
  cases op <;> first | exact .inl rfl | exact .inr rfl

theorem ends_operator (op : BinaryOp) (t : List Char) :
    Ends (' ' :: (op.write.toList ++ ' ' :: t)) := by
  cases op <;> exact ⟨rfl, _, rfl, by decide⟩

theorem reading_operator (op : BinaryOp) :
    reading (r.inRole .plain) (' ' :: (op.write.toList ++ ' ' :: t)) =
      reading (r.inRole op.behind) t := by
  cases op <;> rfl

theorem uses_append (first second : List Mention) :
    uses (first ++ second) = uses first ++ uses second := List.map_append

def Separates (separator : String) : Prop :=
  ∃ blanks : List Char, separator.toList = ',' :: blanks ∧ ∀ c ∈ blanks, c = ' ' ∨ c = '\n'

theorem reading_natural (n : Nat) (letters : List Char) (isOpen : role.Open)
    (others : ∀ c ∈ letters, isWordChar c = true) (apart : Apart t) :
    reading (r.inRole role) ((toString n).toList ++ letters ++ t) =
      reading (r.inRole .plain) t := by
  rw [toList_natural]
  exact reading_digits isOpen Nat.toDigits_ne_nil (Numeral.isDigit_toDigits n) others apart

theorem indentation_blank (depth : Nat) :
    ∀ c ∈ (indentation depth).toList, c = ' ' ∨ c = '\n' := by
  intro c member
  rw [indentation, toList_pushn] at member
  exact .inl (List.eq_of_mem_replicate member)

theorem newLine_blank (depth : Nat) :
    ∀ c ∈ '\n' :: (indentation depth).toList, c = ' ' ∨ c = '\n' :=
  List.forall_mem_cons.mpr ⟨.inr rfl, indentation_blank depth⟩

theorem reading_newLine (r : Reader) (depth : Nat) (t : List Char) :
    reading r ('\n' :: ((indentation depth).toList ++ t)) = reading r t := by
  rw [← List.cons_append]
  exact reading_blanks (newLine_blank depth)

theorem ends_closing (depth : Nat) (t : List Char) :
    Ends ('\n' :: ((indentation depth).toList ++ ')' :: t)) := by
  refine ⟨apart_cons rfl _, ')', ?_, by decide⟩
  exact congrArg Reader.nextSymbol (tokens_blanks (newLine_blank depth))

-- What stands behind an expression stays arbitrary, because it holds the rest of the expressions
-- around; it only has to end the last word.
mutual

/-- An expression uses in its text what it mentions. -/
theorem Expr.reads (e : Expr Single) (spelled : e.spelled = true) (depth : Nat) {r : Reader}
    {role : Role} {t : List Char} (isOpen : role.Open) (ends : Ends t) :
    reading (r.inRole role) ((e.write depth).toList ++ t) =
      uses (e.mentions r.scope) ++ reading (r.inRole .plain) t := by
  match e with
  | .float value => exact reading_literal value isOpen ends.apart
  | .whole value =>
      have point := reading_natural (r := r) value [] isOpen (List.forall_mem_nil _)
        (apart_cons (by decide : isWordChar '.' = false) ('0' :: t))
      have fraction := reading_member (r := r) (by decide : isWord "0" = true) ends.apart
      rw [List.append_nil] at point
      simp only [Expr.write, String.toList_append, List.append_assoc]
      exact point.trans fraction
  | .unsigned value =>
      simp only [Expr.write, String.toList_append]
      exact reading_natural value ['u'] isOpen (List.forall_mem_singleton.mpr rfl) ends.apart
  | .signed value =>
      have digits := reading_natural (r := r) value [] isOpen (List.forall_mem_nil _)
        ends.apart
      rw [List.append_nil] at digits
      exact digits
  | .bool value =>
      have word : isWord (toString value) = true := by cases value <;> decide
      rw [Expr.write, reading_name word ends.apart, word_open isOpen]
      cases value <;> rfl
  | .var name => exact reading_variable isOpen spelled ends
  | .member base name =>
      rw [Expr.spelled, Bool.and_eq_true] at spelled
      have first := base.reads spelled.1 depth (r := r) isOpen
        (ends_symbol (by decide : '.' ∈ _) (name.toList ++ t))
      have second := reading_member (r := r) spelled.2 ends.apart
      simp only [Expr.write, String.toList_append, List.append_assoc]
      rw [Expr.mentions, ← second]
      exact first
  | .index base position =>
      rw [Expr.spelled, Bool.and_eq_true] at spelled
      have second := position.reads spelled.2 depth (r := r) (.inl rfl)
        (ends_symbol (by decide : ']' ∈ _) t)
      have first := base.reads spelled.1 depth (r := r) isOpen (ends_symbol (by decide : '[' ∈ _)
        ((position.write depth).toList ++ ']' :: t))
      simp only [Expr.write, String.toList_append, List.append_assoc]
      rw [Expr.mentions, uses_append, List.append_assoc]
      exact first.trans (congrArg _ second)
  | .neg operand =>
      have inner := operand.reads spelled depth (r := r) (.inr rfl) ends
      simp only [Expr.write, String.toList_append, List.append_assoc]
      rw [Expr.mentions, ← inner]
      rcases isOpen with rfl | rfl <;> rfl
  | .binary op left right =>
      rw [Expr.spelled, Bool.and_eq_true] at spelled
      have second := right.reads spelled.2 depth (r := r) op.behind_open ends
      have first := left.reads spelled.1 depth (r := r) isOpen
        (ends_operator op ((right.write depth).toList ++ t))
      rw [reading_operator, second, ← List.append_assoc, ← uses_append] at first
      simp only [Expr.write, String.toList_append, List.append_assoc]
      exact first
  | .paren inner =>
      have inside := inner.reads spelled depth (r := r) isOpen (ends_symbol (by decide : ')' ∈ _) t)
      simp only [Expr.write, String.toList_append, List.append_assoc]
      rcases isOpen with rfl | rfl <;> exact inside
  | .call function arguments =>
      rw [Expr.spelled, Bool.and_eq_true] at spelled
      have separates : Separates ", " := ⟨[' '], rfl, by simp⟩
      have inside := reads_all arguments spelled.2 depth (r := r) separates
        (ends_symbol (by decide : ')' ∈ _) t)
      have called := reading_call (r := r)
        (t := (", ".intercalate (writeAll depth arguments)).toList ++ ')' :: t) isOpen spelled.1
      simp only [Expr.write, String.toList_append, List.append_assoc]
      exact called.trans (congrArg _ inside)
  | .tallCall function arguments =>
      rw [Expr.spelled, Bool.and_eq_true] at spelled
      have separates : Separates ("," ++ ("\n" ++ indentation (depth + 1))) := by
        refine ⟨_, ?_, newLine_blank (depth + 1)⟩
        rw [String.toList_append, String.toList_append]
        rfl
      have inside := reads_all arguments spelled.2 depth (r := r) separates (ends_closing depth t)
      have called := reading_call (r := r) (t := '\n' :: ((indentation (depth + 1)).toList ++
        ((("," ++ ("\n" ++ indentation (depth + 1))).intercalate
          (writeAll depth arguments)).toList ++
        '\n' :: ((indentation depth).toList ++ ')' :: t)))) isOpen spelled.1
      rw [reading_newLine, inside, reading_newLine] at called
      simp only [Expr.write, String.toList_append, List.append_assoc]
      exact called

theorem reads_all (es : List (Expr Single)) (spelled : allSpelled es = true) (depth : Nat)
    {r : Reader} {t : List Char} {separator : String} (separates : Separates separator)
    (ends : Ends t) :
    reading (r.inRole .plain) ((separator.intercalate (writeAll depth es)).toList ++ t) =
      uses (mentionsOfAll r.scope es) ++ reading (r.inRole .plain) t := by
  match es with
  | [] => rfl
  | [e] =>
      rw [allSpelled, Bool.and_eq_true] at spelled
      have single := e.reads spelled.1 depth (r := r) (.inl rfl) ends
      rw [writeAll, writeAll, String.intercalate_singleton, mentionsOfAll, mentionsOfAll,
        List.append_nil]
      exact single
  | e :: next :: es =>
      rw [allSpelled, Bool.and_eq_true] at spelled
      obtain ⟨blanks, comma, blank⟩ := separates
      have others := reads_all (next :: es) spelled.2 depth (r := r) ⟨blanks, comma, blank⟩ ends
      have first := e.reads spelled.1 depth (r := r) (.inl rfl) (ends_symbol (by decide : ',' ∈ _)
        (blanks ++ ((separator.intercalate (writeAll depth (next :: es))).toList ++ t)))
      have behind : reading (r.inRole .plain) (',' :: (blanks ++
          ((separator.intercalate (writeAll depth (next :: es))).toList ++ t))) =
          uses (mentionsOfAll r.scope (next :: es)) ++ reading (r.inRole .plain) t :=
        (reading_blanks (r := r.inRole .plain) blank).trans others
      rw [writeAll, writeAll, String.intercalate_cons_cons, ← writeAll, mentionsOfAll,
        uses_append, List.append_assoc]
      simp only [String.toList_append, comma, List.append_assoc, List.cons_append]
      exact first.trans (congrArg _ behind)

end

theorem Ty.reads (type : Ty) (spelled : type.spelled = true) (ends : Ends t) :
    reading (r.inRole .type) (type.write.toList ++ t) =
      uses type.mentions ++ reading (r.inRole .plain) t := by
  cases type with
  | struct name =>
      have other : typeWords.contains name = false := by
        rw [Ty.spelled, isVariable, Bool.and_eq_true, Bool.not_eq_true'] at spelled
        exact spelled.2
      have word : (r.inRole .type).word name (Reader.nextSymbol (tokens t)) =
          (r.inRole .plain, [.uses (.struct name)]) := by
        simp only [Reader.word, Reader.inRole, other, Bool.false_eq_true, if_false]
      rw [Ty.write, reading_name (isWord_of_isVariable spelled) ends.apart, word]
      rfl
  | texture | floats => rfl
  | _ =>
      rw [Ty.write, reading_name (by decide) ends.apart]
      rfl

/-- The start of a statement in a block. -/
def inside (names : List String) (outer : List (List String)) : Reader :=
  ⟨.plain, none, names :: outer, none⟩

def naming (name : String) (r : Reader) : Reader := { r with role := .plain, pending := some name }

theorem reading_local {name : String} (named : isVariable name = true) (apart : Apart t)
    (next : Reader.nextSymbol (tokens t) = some ':' ∨ Reader.nextSymbol (tokens t) = some '=')
    (inner : ¬(r.header = none ∧ r.blocks = [])) :
    reading (r.inRole .variable) (name.toList ++ t) = reading (naming name r) t := by
  rw [reading_name (isWord_of_isVariable named) apart]
  have word : (r.inRole .variable).word name (Reader.nextSymbol (tokens t)) =
      (naming name r, []) := by
    simp only [Reader.word, Reader.inRole, next, if_true, inner, if_false]
    rfl
  rw [word]
  rfl

theorem reading_indentation (r : Reader) (depth : Nat) (t : List Char) :
    reading r ((indentation depth).toList ++ t) = reading r t :=
  reading_blanks (indentation_blank depth)

theorem wholeNumber_toString (n : Nat) (letters : List Char)
    (others : letters.takeWhile Char.isDigit = []) :
    wholeNumber (String.ofList ((toString n).toList ++ letters)) = n := by
  rw [wholeNumber, String.toList_ofList, toList_natural,
    List.takeWhile_append_of_pos (Numeral.isDigit_toDigits n), others, List.append_nil]
  exact Nat.ofDigitChars_ten_toDigits

theorem reading_label (n : Nat) (t : List Char) :
    reading (r.inRole .label) ((toString n).toList ++ 'u' :: ':' :: t) =
      .label n :: reading (r.inRole .type) t := by
  have all : ∀ c ∈ (toString n).toList ++ ['u'], isWordChar c = true :=
    List.forall_mem_append.mpr ⟨isWordChar_natural n, List.forall_mem_singleton.mpr rfl⟩
  have word := reading_word (r := r.inRole .label) (by simp) all
    (apart_cons (by decide : isWordChar ':' = false) t)
  rw [List.append_assoc] at word
  refine word.trans ?_
  show .label (wholeNumber _) :: reading (r.inRole .plain) (':' :: t) = _
  rw [wholeNumber_toString n ['u'] rfl]
  rfl

section Statements

theorem toList_line (depth : Nat) (text : String) :
    (Stmt.write.line depth text).toList =
      (indentation depth).toList ++ (text.toList ++ ['\n']) := by
  rw [Stmt.write.line, String.toList_append, String.toList_append, List.append_assoc]
  rfl

variable {names : List String} {outer : List (List String)}

theorem reading_binding {name : String} {value : Expr Single} (named : isVariable name = true)
    (spelled : value.spelled = true) (depth : Nat) :
    reading ((inside names outer).inRole .variable)
        (name.toList ++ (" = ".toList ++ ((value.write depth).toList ++ ';' :: '\n' :: t))) =
      uses (value.mentions (names ++ outer.flatten)) ++
        reading (inside (name :: names) outer) t := by
  have bound := reading_local (r := inside names outer) (t := ' ' :: '=' :: ' ' ::
    ((value.write depth).toList ++ ';' :: '\n' :: t)) named rfl (.inr rfl) (by simp [inside])
  have valued := value.reads spelled depth (r := naming name (inside names outer)) (.inl rfl)
    (ends_symbol (by decide : ';' ∈ _) ('\n' :: t))
  exact bound.trans valued

theorem reading_typed {name : String} {type : Ty} (named : isVariable name = true)
    (spelled : type.spelled = true) :
    reading ((inside names outer).inRole .variable)
        (name.toList ++ (": ".toList ++ (type.write.toList ++ ';' :: '\n' :: t))) =
      uses type.mentions ++ reading (inside (name :: names) outer) t := by
  have bound := reading_local (r := inside names outer) (t := ':' :: ' ' ::
    (type.write.toList ++ ';' :: '\n' :: t)) named rfl (.inl rfl) (by simp [inside])
  have typed := type.reads (r := naming name (inside names outer)) spelled
    (ends_symbol (by decide : ';' ∈ _) ('\n' :: t))
  exact bound.trans typed

theorem ends_assignment (op : AssignOp) (t : List Char) :
    Ends (' ' :: (op.write.toList ++ ' ' :: t)) := by
  cases op <;> exact ⟨rfl, _, rfl, by decide⟩

theorem reading_assignment (op : AssignOp) (t : List Char) :
    reading (inside names outer) (' ' :: (op.write.toList ++ ' ' :: t)) =
      reading (inside names outer) t := by
  cases op <;> rfl

theorem ends_block (t : List Char) : Ends (' ' :: '\x7b' :: t) :=
  ⟨rfl, _, rfl, by decide⟩

theorem reading_close (inner names : List String) (outer : List (List String)) (depth : Nat)
    (t : List Char) :
    reading (inside inner (names :: outer))
        ((indentation depth).toList ++ '\x7d' :: '\n' :: t) =
      reading (inside names outer) t := by
  rw [reading_indentation]
  rfl

def looping (counter : String) (names : List String) (outer : List (List String)) : Reader :=
  ⟨.plain, some [counter], names :: outer, none⟩

theorem reading_counter (names : List String) (outer : List (List String)) {counter : String}
    (named : isVariable counter = true) (ends : Ends t) :
    reading (looping counter names outer) (counter.toList ++ t) =
      reading (looping counter names outer) t := by
  have read := reading_variable (r := looping counter names outer) (.inl rfl) named ends
  have bound : counter ∈ (looping counter names outer).scope := List.mem_cons_self
  rw [variableMentions_bound bound] at read
  exact read

theorem reading_loop {counter : String} (named : isVariable counter = true) :
    reading (inside names outer) ("for (var ".toList ++ (counter.toList ++
        (" = 0u; ".toList ++ (counter.toList ++ (" < ".toList ++ t))))) =
      reading (looping counter names outer) t := by
  have declared := reading_local (r := ⟨.plain, some [], names :: outer, none⟩)
    (t := " = 0u; ".toList ++ (counter.toList ++ (" < ".toList ++ t))) named rfl (.inr rfl)
    (by simp)
  have compared := reading_counter names outer (t := " < ".toList ++ t) named
    ⟨rfl, _, rfl, by decide⟩
  exact declared.trans compared

theorem reading_step {counter : String} (named : isVariable counter = true) :
    reading (looping counter names outer) ("; ".toList ++ (counter.toList ++
        (" += 1u) \x7b".toList ++ '\n' :: t))) =
      reading (inside [counter] (names :: outer)) t := by
  exact reading_counter names outer (t := " += 1u) \x7b".toList ++ '\n' :: t) named
    ⟨rfl, _, rfl, by decide⟩

theorem reading_value (names : List String) (outer : List (List String)) {value : Expr Single}
    (spelled : value.spelled = true) (depth : Nat) :
    reading (inside names outer) ((value.write depth).toList ++ ';' :: '\n' :: t) =
      uses (value.mentions (names ++ outer.flatten)) ++ reading (inside names outer) t :=
  value.reads spelled depth (r := inside names outer) (.inl rfl)
    (ends_symbol (by decide : ';' ∈ _) ('\n' :: t))

-- The reader stands at the start of a statement, with the names of its block and of those around.
-- Both stay arbitrary: behind a statement the block has the names that the statement binds.
mutual

/-- A statement says in its text what it says as a tree, and binds the same names. -/
theorem Stmt.reads (s : Stmt Single) (spelled : s.spelled = true) (depth : Nat)
    (names : List String) (outer : List (List String)) (t : List Char) :
    reading (inside names outer) ((s.write depth).toList ++ t) =
      s.events (names ++ outer.flatten) ++ reading (inside (s.binds ++ names) outer) t := by
  match s with
  | .bind name value | .declare name value =>
      rw [Stmt.spelled, Bool.and_eq_true] at spelled
      simp only [Stmt.write, toList_line, String.toList_append, List.append_assoc,
        reading_indentation]
      exact reading_binding spelled.1 spelled.2 depth
  | .declareEmpty name type =>
      rw [Stmt.spelled, Bool.and_eq_true] at spelled
      simp only [Stmt.write, toList_line, String.toList_append, List.append_assoc,
        reading_indentation]
      exact reading_typed spelled.1 spelled.2
  | .assign target op value =>
      rw [Stmt.spelled, Bool.and_eq_true] at spelled
      have assigned := target.reads spelled.1 depth (r := inside names outer) (.inl rfl)
        (ends_assignment op ((value.write depth).toList ++ ';' :: '\n' :: t))
      simp only [Stmt.write, toList_line, String.toList_append, List.append_assoc,
        reading_indentation]
      rw [Stmt.events, uses_append, List.append_assoc]
      exact assigned.trans (congrArg _ ((reading_assignment op _).trans
        (reading_value names outer spelled.2 depth)))
  | .ret value | .effect value =>
      have valued := reading_value (t := t) names outer spelled depth
      simp only [Stmt.write, toList_line, String.toList_append, List.append_assoc,
        reading_indentation]
      exact valued
  | .stop | .leave =>
      simp only [Stmt.write, toList_line, List.append_assoc, reading_indentation]
      rfl
  | .branch condition yes no =>
      simp only [Stmt.spelled, Bool.and_eq_true] at spelled
      obtain ⟨⟨tested, first⟩, second⟩ := spelled
      have test (text : List Char) := condition.reads tested depth (r := inside names outer)
        (.inl rfl) (ends_block ('\n' :: text))
      have chosen (text : List Char) := block_reads yes first (depth + 1) [] (names :: outer) text
      have other (text : List Char) := block_reads no second (depth + 1) [] (names :: outer) text
      have closed (inner : List String) := reading_close inner names outer depth t
      simp only [Stmt.write, toList_line, String.toList_append, List.append_assoc,
        reading_indentation]
      rw [Stmt.events, List.append_assoc, List.append_assoc]
      refine (test _).trans (congrArg _ ((chosen _).trans (congrArg _ ?_)))
      cases no with
      | nil => exact closed _
      | cons s no =>
          simp only [List.isEmpty_cons, Bool.false_eq_true, if_false, String.toList_append,
            toList_line, List.append_assoc, reading_indentation]
          exact (other _).trans (congrArg _ (closed _))
  | .count counter bound body =>
      simp only [Stmt.spelled, Bool.and_eq_true] at spelled
      obtain ⟨⟨named, bounded⟩, inner⟩ := spelled
      have limit (text : List Char) := bound.reads bounded depth
        (r := looping counter names outer) (.inl rfl) (ends_symbol (by decide : ';' ∈ _) text)
      have repeated (text : List Char) :=
        block_reads body inner (depth + 1) [counter] (names :: outer) text
      have closed := reading_close (scopeAfter [counter] body) names outer depth t
      simp only [Stmt.write, toList_line, String.toList_append, List.append_assoc,
        reading_indentation]
      rw [Stmt.events, List.append_assoc]
      refine (reading_loop named).trans ((limit _).trans (congrArg _ ?_))
      exact (reading_step named).trans ((repeated _).trans (congrArg _ closed))
  | .switch value cases =>
      rw [Stmt.spelled, Bool.and_eq_true] at spelled
      have valued (text : List Char) := value.reads spelled.1 depth (r := inside names outer)
        (.inl rfl) (ends_block ('\n' :: text))
      have handled (text : List Char) :=
        cases_reads cases spelled.2 (depth + 1) [] (names :: outer) text
      have closed := reading_close [] names outer depth t
      simp only [Stmt.write, toList_line, String.toList_append, List.append_assoc,
        reading_indentation]
      rw [Stmt.events, List.append_assoc]
      refine (valued _).trans (congrArg _ ((handled _).trans (congrArg _ ?_)))
      rw [reading_indentation]
      exact closed

theorem block_reads (block : List (Stmt Single)) (spelled : blockSpelled block = true)
    (depth : Nat) (names : List String) (outer : List (List String)) (t : List Char) :
    reading (inside names outer) ((writeBlock depth block).toList ++ t) =
      blockEvents (names ++ outer.flatten) block ++
        reading (inside (scopeAfter names block) outer) t := by
  match block with
  | [] => rfl
  | s :: block =>
      rw [blockSpelled, Bool.and_eq_true] at spelled
      have first := s.reads spelled.1 depth names outer ((writeBlock depth block).toList ++ t)
      have others := block_reads block spelled.2 depth (s.binds ++ names) outer t
      rw [writeBlock, String.toList_append, List.append_assoc, first, others, blockEvents,
        List.append_assoc, List.append_assoc]
      rfl

theorem cases_reads (cases : List (Nat × List (Stmt Single))) (spelled : casesSpelled cases = true)
    (depth : Nat) (names : List String) (outer : List (List String)) (t : List Char) :
    reading (inside names outer) ((writeCases depth cases).toList ++ t) =
      caseEvents (names ++ outer.flatten) cases ++ reading (inside names outer) t := by
  match cases with
  | [] => rfl
  | (label, body) :: cases =>
      rw [casesSpelled, Bool.and_eq_true] at spelled
      have labelled (text : List Char) := reading_label (r := inside names outer) label text
      have handled (text : List Char) :=
        block_reads body spelled.1 (depth + 1) [] (names :: outer) text
      have closed (text : List Char) :=
        reading_close (scopeAfter [] body) names outer depth text
      have others := cases_reads cases spelled.2 depth names outer t
      simp only [writeCases, String.toList_append, List.append_assoc, reading_indentation]
      rw [caseEvents, List.cons_append, List.append_assoc]
      refine (labelled _).trans (congrArg _ ((handled _).trans (congrArg _ ?_)))
      exact (closed _).trans others

end

end Statements

end Pieces

end RayScene.Wgsl
