import RayScene.Proofs.Color.CallBounds
import RayScene.Proofs.Color.ParserComplete

/-!
The machine of calls returns what the parser returns. Each routine is followed from its call to its
return, whatever calls wait below it; so a parse comes to its end on every list of tokens.
-/

namespace RayScene.Color.Calls

section

variable (textEnd : Nat) (tokens : List Token)

def Reaches (c d : Config) : Prop := ∃ n, (Config.step textEnd tokens)^[n] c = d

/-- What a call returns where a parser returns the result. -/
def typed (result : Except ExprError Parsed) : Except ExprError Typed :=
  result.map fun parsed => (parsed.expr, parsed.width)

def Ends (c : Config) (below : List (Wait × Call)) (p : Place) (result : Except ExprError Parsed) :
    Prop :=
  ∃ call q, Reaches textEnd tokens c (.leaving (typed result) call q below) ∧
    ∀ parsed, result = .ok parsed →
      tokens.drop q.position = parsed.rest ∧ q.depth = p.depth ∧ p.position ≤ q.position

def Computes (task : Task) (depth : Nat) (parser : Parser) : Prop :=
  ∀ call position below, Ends textEnd tokens (.active task call ⟨position, depth⟩ below) below
    ⟨position, depth⟩ (parser (tokens.drop position))

inductive Nests : Option Parser → Nat → Prop
  | exhausted {depth : Nat} (full : maxNesting ≤ depth) : Nests none depth
  | room {parser : Parser} {depth : Nat} (shallow : depth < maxNesting)
      (computes : Computes textEnd tokens .signed (depth + 1) parser) : Nests (some parser) depth

end

section Steps

variable {textEnd : Nat} {tokens : List Token} {c d e : Config} {below : List (Wait × Call)}
  {call : Call} {p q : Place} {result : Except ExprError Parsed}

theorem Reaches.trans (first : Reaches textEnd tokens c d) (second : Reaches textEnd tokens d e) :
    Reaches textEnd tokens c e := by
  obtain ⟨m, rfl⟩ := first
  obtain ⟨n, rfl⟩ := second
  exact ⟨n + m, Function.iterate_add_apply _ n m c⟩

theorem reaches_step (c : Config) : Reaches textEnd tokens c (c.step textEnd tokens) := ⟨1, rfl⟩

theorem Ends.behind (reaches : Reaches textEnd tokens c d)
    (ends : Ends textEnd tokens d below p result) : Ends textEnd tokens c below p result := by
  obtain ⟨call, q, further, behind⟩ := ends
  exact ⟨call, q, reaches.trans further, behind⟩

theorem Ends.step (ends : Ends textEnd tokens (c.step textEnd tokens) below p result) :
    Ends textEnd tokens c below p result := ends.behind (reaches_step c)

theorem ends_ok (parsed : Parsed) (rest : tokens.drop q.position = parsed.rest)
    (depth : q.depth = p.depth) (ahead : p.position ≤ q.position) :
    Ends textEnd tokens (.proceed call below (.finish (.ok (parsed.expr, parsed.width)), q)) below p
      (.ok parsed) := by
  refine ⟨call, q, ⟨0, rfl⟩, fun other same => ?_⟩
  cases same
  exact ⟨rest, depth, ahead⟩

theorem ends_here (parsed : Parsed) (rest : tokens.drop q.position = parsed.rest) :
    Ends textEnd tokens (.proceed call below (.finish (.ok (parsed.expr, parsed.width)), q)) below q
      (.ok parsed) :=
  ends_ok parsed rest rfl (Nat.le_refl _)

theorem ends_error (e : ExprError) :
    Ends textEnd tokens (.leaving (.error e) call q below) below p (.error e) :=
  ⟨call, q, ⟨0, rfl⟩, nofun⟩

theorem Ends.again {task : Task}
    (ends : Ends textEnd tokens
      (.active task { call with marks := q.position :: call.marks } q below) below q result)
    (depth : q.depth = p.depth) (ahead : p.position ≤ q.position) :
    Ends textEnd tokens (.proceed call below (.again task, q)) below p result := by
  obtain ⟨call, r, reaches, behind⟩ := ends
  refine ⟨call, r, reaches, fun parsed same => ?_⟩
  obtain ⟨rest, level, further⟩ := behind parsed same
  exact ⟨rest, level.trans depth, Nat.le_trans ahead further⟩

/-- A call of another routine: a failure of its parser is passed on, and with its value the call
that has waited for it goes on. -/
theorem Ends.called {callee : Task} {wait : Wait} {parser : Parser}
    {next : Parsed → Except ExprError Parsed}
    (computes : Computes textEnd tokens callee q.depth parser)
    (resumed : ∀ parsed r, tokens.drop r.position = parsed.rest → r.depth = q.depth →
      q.position ≤ r.position →
      Ends textEnd tokens (.proceed call below
        (resume textEnd tokens wait (parsed.expr, parsed.width) r)) below p (next parsed)) :
    Ends textEnd tokens (.proceed call below (.call callee wait, q)) below p
      (parser (tokens.drop q.position) >>= next) := by
  obtain ⟨inner, r, reaches, behind⟩ :=
    computes ⟨callee.routine, q, []⟩ q.position ((wait, call) :: below)
  refine Ends.behind reaches (Ends.step ?_)
  cases read : parser (tokens.drop q.position) with
  -- one more step: the call that waits fails as well
  | error e => exact ends_error e
  | ok parsed =>
      obtain ⟨rest, depth, ahead⟩ := behind parsed read
      exact resumed parsed r rest depth ahead

/-- A call behind one more level of nesting, if there is one. -/
theorem Ends.nested {callee : Task} {wait : Wait} {nested : Option Parser}
    {inside : Parser → Parser} {next : Parsed → Except ExprError Parsed} (column : Nat)
    (nests : Nests textEnd tokens nested q.depth)
    (computes : ∀ parser, Computes textEnd tokens .signed (q.depth + 1) parser →
      Computes textEnd tokens callee (q.depth + 1) (inside parser))
    (resumed : ∀ parsed r, tokens.drop r.position = parsed.rest → r.depth = q.depth + 1 →
      q.position ≤ r.position →
      Ends textEnd tokens (.proceed call below
        (resume textEnd tokens wait (parsed.expr, parsed.width) r)) below p (next parsed)) :
    Ends textEnd tokens (.proceed call below (nest column callee wait q)) below p
      (enter nested column >>= fun parser => inside parser (tokens.drop q.position) >>= next) := by
  cases nests with
  | exhausted full =>
      have beyond : maxNesting < q.enter.depth := Nat.lt_succ_of_le full
      rw [nest, if_pos beyond]
      exact ends_error _
  | room shallow inner =>
      have room : ¬ maxNesting < q.enter.depth := Nat.not_lt.mpr shallow
      rw [nest, if_neg room]
      exact Ends.called (q := q.enter) (computes _ inner) resumed

theorem look_nil {i : Nat} (rest : tokens.drop i = []) : tokens[i]? = none := by
  rw [← List.head?_drop, rest]
  rfl

theorem look_cons {i : Nat} {token : Token} {more : List Token}
    (rest : tokens.drop i = token :: more) :
    tokens[i]? = some token ∧ tokens.drop (i + 1) = more := by
  constructor
  · rw [← List.head?_drop, rest]
    rfl
  · rw [← List.tail_drop, rest]
    rfl

theorem look_some {i : Nat} {token : Token} (here : tokens[i]? = some token) :
    tokens.drop i = token :: tokens.drop (i + 1) := by
  obtain ⟨within, rfl⟩ := List.getElem?_eq_some_iff.mp here
  exact List.drop_eq_getElem_cons within

theorem Ends.expected {symbol : Char} {next : List Token → Except ExprError Parsed}
    {goes : Place → Move × Place}
    (found : Ends textEnd tokens (.proceed call below (goes (q.skip 1))) below p
      (next (tokens.drop (q.position + 1)))) :
    Ends textEnd tokens (.proceed call below (expect textEnd tokens symbol q goes)) below p
      (expectSymbol textEnd symbol (tokens.drop q.position) >>= next) := by
  unfold expect
  split
  next token here =>
    rw [look_some here, expectSymbol]
    split
    next => exact found
    next => exact ends_error _
  next none =>
    rw [List.drop_eq_nil_of_le (List.getElem?_eq_none_iff.mp none)]
    exact ends_error _

/-- The counter of the parser lasts, as each turn takes an operator. -/
theorem operators_ends {level : Precedence} {operand : Parser} {count : Nat} (left : Parsed)
    (computes : Computes textEnd tokens level.operand q.depth operand)
    (enough : tokens.length - q.position ≤ count) (rest : tokens.drop q.position = left.rest) :
    Ends textEnd tokens (.active (.operators level (left.expr, left.width)) call q below) below q
      (chainFrom level.ops operand count left) := by
  induction count generalizing left q call with
  | zero =>
      have beyond : tokens.drop q.position = [] := List.drop_eq_nil_of_le (by omega)
      apply Ends.step
      rw [Config.step, act, seekOperator, look_nil beyond]
      exact ends_here left rest
  | succ count ih =>
      apply Ends.step
      rw [Config.step, act]
      cases more : left.rest with
      | nil =>
          rw [seekOperator, look_nil (rest.trans more), chainFrom, more]
          exact ends_here left rest
      | cons token behind =>
          obtain ⟨here, after⟩ := look_cons (rest.trans more)
          simp only [seekOperator, here, chainFrom, more]
          cases operator? level.ops token.kind with
          | none => exact ends_here left rest
          | some op =>
              subst after
              refine Ends.called (q := q.skip 1) computes fun right r rest depth ahead => ?_
              cases widths : commonWidth? left.width right.width with
              | none =>
                  simp only [resume, combine, widths]
                  exact ends_error _
              | some width =>
                  have further : q.position + 1 ≤ r.position := ahead
                  have less : tokens.length - r.position ≤ count := by omega
                  have computes : Computes textEnd tokens level.operand r.depth operand := by
                    rwa [depth]
                  simp only [resume, combine, widths]
                  refine Ends.again (ih ⟨_, width, _⟩ computes less rest) depth ?_
                  exact Nat.le_of_lt further

theorem chain_computes {level : Precedence} {operand : Parser} {depth : Nat}
    (computes : Computes textEnd tokens level.operand depth operand) :
    Computes textEnd tokens (.chain level) depth (chain level.ops operand) := by
  intro call position below
  apply Ends.step
  refine Ends.called (q := ⟨position, depth⟩) computes fun left r rest same ahead => ?_
  rw [resume]
  have computes : Computes textEnd tokens level.operand r.depth operand := by
    rwa [same]
  refine Ends.again (operators_ends left computes ?_ rest) same ahead
  rw [List.length_drop]
  exact Nat.sub_le_sub_left ahead _

theorem swizzles_ends {base : Expr Single} {width : Nat} {remaining : List Token}
    (rest : tokens.drop q.position = remaining) :
    Ends textEnd tokens (.active (.swizzles (base, width)) call q below) below q
      (swizzles textEnd base width remaining) := by
  apply Ends.step
  rw [Config.step, act]
  fun_induction swizzles textEnd base width remaining generalizing q call with
  | case1 base width dot components column remaining wider valid ih =>
      obtain ⟨here, after⟩ := look_cons rest
      obtain ⟨behind, after⟩ := look_cons after
      simp only [seekSwizzle, here, behind, valid]
      exact Ends.again (Ends.step (ih after)) rfl (Nat.le_add_right _ _)
  | case2 base width dot components column remaining invalid =>
      obtain ⟨here, after⟩ := look_cons rest
      obtain ⟨behind, after⟩ := look_cons after
      simp only [seekSwizzle, here, behind, invalid]
      exact ends_error _
  | case3 base width dot remaining other =>
      obtain ⟨here, after⟩ := look_cons rest
      cases remaining with
      | nil =>
          simp only [seekSwizzle, here, look_nil after]
          exact ends_error _
      | cons token remaining =>
          obtain ⟨behind, _⟩ := look_cons after
          obtain ⟨kind, column⟩ := token
          simp only [seekSwizzle, here, behind]
          cases kind with
          | name components => exact (other _ _ _ rfl).elim
          | number value | symbol character => exact ends_error _
  | case4 base width remaining named other =>
      unfold seekSwizzle
      split
      next dot here => exact (other _ _ (rest.symm.trans (look_some here))).elim
      next => exact ends_here ⟨base, width, remaining⟩ rest

theorem closing_ends {function : Builtin} {column : Nat} (read : List Typed)
    {remaining : List Token} (rest : tokens.drop q.position = remaining) :
    Ends textEnd tokens (.active (.closing function column read) call q below) below q
      (closeCall textEnd function column (read.map (·.1), read.map (·.2), remaining)) := by
  subst rest
  apply Ends.step
  refine Ends.expected ?_
  rw [applied]
  cases function.signature.resultWidth (read.map (·.2)) with
  | ok width => exact ends_ok ⟨_, width, _⟩ rfl rfl (Nat.le_succ _)
  | error reason => exact ends_error _

/-- The machine keeps the arguments that it has read, which the parser puts in front later. -/
theorem arguments_ends {function : Builtin} {column : Nat} {argument : Parser} {count : Nat}
    (read : List Typed) (computes : Computes textEnd tokens (.chain .sum) q.depth argument)
    (enough : tokens.length - q.position < count) :
    Ends textEnd tokens (.active (.arguments function column read) call q below) below q
      (argumentsFrom argument count (tokens.drop q.position) >>= fun (exprs, widths, rest) =>
        closeCall textEnd function column
          (read.map (·.1) ++ exprs, read.map (·.2) ++ widths, rest)) := by
  induction count generalizing read q call with
  | zero => cases enough
  | succ count ih =>
      rw [argumentsFrom_succ, bind_assoc]
      apply Ends.step
      refine Ends.called computes fun first r rest depth ahead => ?_
      rw [resume, seekArgument]
      split
      next comma here =>
        have less : tokens.length - (r.skip 1).position < count := by
          have within := position_lt here
          simp only [Place.skip]
          omega
        have computes : Computes textEnd tokens (.chain .sum) (r.skip 1).depth argument := by
          show Computes textEnd tokens (.chain .sum) r.depth argument
          rwa [depth]
        have split : first.rest = ⟨.symbol ',', comma⟩ :: tokens.drop (r.position + 1) := by
          rw [← rest, look_some here]
        simp only [moreArguments, split, bind_assoc, pure_bind]
        refine Ends.again ?_ depth (Nat.le_succ_of_le ahead)
        simpa [Place.skip] using ih (read ++ [(first.expr, first.width)]) computes less
      next other =>
        have stops : Stops [','] first.rest := by
          intro token more split c member same
          obtain ⟨kind, column⟩ := token
          obtain rfl := List.mem_singleton.mp member
          cases same
          exact other _ (look_cons (rest.trans split)).1
        rw [moreArguments_stops stops, Outcome.ok_bind]
        refine Ends.again ?_ depth ahead
        simpa using closing_ends (read ++ [(first.expr, first.width)]) rest

theorem call_computes {depth : Nat} {argument : Parser} (name : String) (column : Nat)
    (computes : Computes textEnd tokens (.chain .sum) depth argument) :
    Computes textEnd tokens (.call name column) depth
      (Color.call textEnd argument name column) := by
  intro call position below
  apply Ends.step
  rw [Config.step, act, openCall]
  cases found : Builtin.ofName? name with
  | none =>
      simp only [Color.call, found]
      exact ends_error _
  | some function =>
      rw [call_eq _ _ _ _ found]
      simp only
      split
      next closed here =>
        simp only [argumentList, look_some here, Outcome.ok_bind]
        exact Ends.again (closing_ends [] (look_some here)) rfl (Nat.le_refl _)
      next other =>
        rw [argumentList_open _ _ fun column rest split => other column (look_cons split).1]
        refine Ends.again (arguments_ends [] computes ?_) rfl (Nat.le_refl _)
        rw [List.length_drop]
        exact Nat.lt_succ_self _

variable {depth : Nat} {nested : Option Parser}

theorem sum_computes {signed : Parser} (computes : Computes textEnd tokens .signed depth signed) :
    Computes textEnd tokens (.chain .sum) depth (sum signed) :=
  chain_computes (chain_computes computes)

/-- An input is a name without an argument list. -/
theorem primary_name {name : String} {column : Nat} {rest : List Token}
    (alone : ∀ column more, rest = ⟨.symbol '(', column⟩ :: more → False) :
    primary textEnd nested (⟨.name name, column⟩ :: rest) =
      (input name column).map fun value => ⟨value.1, value.2, rest⟩ := by
  unfold input
  split
  all_goals simp [primary, Except.map]

theorem primary_computes (nests : Nests textEnd tokens nested depth) :
    Computes textEnd tokens .primary depth (primary textEnd nested) := by
  intro call position below
  apply Ends.step
  rw [Config.step, act, takePrimary]
  split
  next value column here =>
    rw [look_some here, primary]
    exact ends_ok ⟨_, 1, _⟩ rfl rfl (Nat.le_succ _)
  next column here =>
    rw [look_some here, primary]
    refine Ends.nested (q := Place.skip ⟨position, depth⟩ 1) column nests
      (fun _ computes => sum_computes computes) fun inner r rest deeper ahead => ?_
    rw [resume, ← rest]
    refine Ends.expected (ends_ok ⟨inner.expr, inner.width, _⟩ rfl ?_ ?_)
    · exact congrArg (· - 1) deeper
    · exact Nat.le_succ_of_le (Nat.le_of_succ_le ahead)
  next name column here =>
    rw [look_some here]
    split
    next behind =>
      -- the call leaves its nesting and adds nothing to the value
      rw [look_some behind, primary, ← bind_pure (_ >>= _), bind_assoc]
      refine Ends.nested (q := Place.skip ⟨position, depth⟩ 2) column nests
        (fun _ computes => call_computes name column (sum_computes computes))
        fun called r rest deeper ahead => ?_
      have further : position ≤ r.position := Nat.le_trans (Nat.le_add_right _ 2) ahead
      rw [resume]
      exact ends_ok called rest (congrArg (· - 1) deeper) further
    next other =>
      rw [primary_name fun column rest split => other column (look_cons split).1]
      cases input name column with
      | ok value => exact ends_ok ⟨_, _, _⟩ rfl rfl (Nat.le_succ _)
      | error e => exact ends_error e
  next kind column numberless unparenthesized unnamed here =>
    rw [look_some here, primary]
    · exact ends_error _
    · exact numberless
    · exact unparenthesized
    · exact fun name _ _ _ named => unnamed name named
    · exact unnamed _
    · exact unnamed _
    · exact unnamed
  next here =>
    rw [List.drop_eq_nil_of_le (List.getElem?_eq_none_iff.mp here)]
    exact ends_error _

theorem operand_computes (nests : Nests textEnd tokens nested depth) :
    Computes textEnd tokens .operand depth fun tokens => primary textEnd nested tokens >>=
      fun base => swizzles textEnd base.expr base.width base.rest := by
  intro call position below
  apply Ends.step
  refine Ends.called (q := ⟨position, depth⟩) (primary_computes nests)
    fun base r rest same ahead => ?_
  exact Ends.again (swizzles_ends rest) same ahead

theorem signedStep_computes (nests : Nests textEnd tokens nested depth) :
    Computes textEnd tokens .signed depth (signedStep textEnd nested) := by
  intro call position below
  apply Ends.step
  rw [Config.step, act, seekSign]
  split
  next column here =>
    rw [look_some here, signedStep]
    refine Ends.nested (q := Place.skip ⟨position, depth⟩ 1) column nests
      (fun _ computes => computes) fun inner r rest deeper ahead => ?_
    rw [resume]
    exact ends_ok ⟨_, inner.width, _⟩ rest (congrArg (· - 1) deeper) (Nat.le_of_succ_le ahead)
  next other =>
    have unsigned : signedStep textEnd nested (tokens.drop position) =
        (primary textEnd nested (tokens.drop position) >>= fun base =>
          swizzles textEnd base.expr base.width base.rest) >>= pure := by
      rw [bind_pure]
      unfold signedStep
      split
      next column rest split => exact (other column (look_cons split).1).elim
      next => rfl
    rw [unsigned]
    refine Ends.called (q := ⟨position, depth⟩) (operand_computes nests)
      fun parsed r rest same ahead => ?_
    exact ends_ok parsed rest same ahead

theorem signed_computes {budget : Nat} (split : depth + budget = maxNesting) :
    Computes textEnd tokens .signed depth (signed textEnd budget) := by
  induction budget generalizing depth with
  | zero => exact signedStep_computes (.exhausted (Nat.le_of_eq split.symm))
  | succ budget ih =>
      have inside : depth + 1 + budget = maxNesting := by omega
      exact signedStep_computes (.room (by omega) (ih inside))

end Steps

theorem run_ends (textEnd : Nat) (tokens : List Token) :
    Ends textEnd tokens .start [] ⟨0, 0⟩ (sum (signed textEnd maxNesting) tokens) :=
  sum_computes (signed_computes (Nat.zero_add _)) _ 0 []

/--
However many tokens there are, the parser gets along with a bounded stack of calls, where each call
that returns a value has taken tokens and left its nesting; and it comes to its end, with the value
or the error of the parser.
-/
theorem parser_calls_bounded (textEnd : Nat) (tokens : List Token) :
    (∀ n, Bounded tokens ((Config.step textEnd tokens)^[n] Config.start)) ∧
      ∃ n place, (Config.step textEnd tokens)^[n] Config.start =
          .done (typed (sum (signed textEnd maxNesting) tokens)) place ∧
        ∀ parsed, sum (signed textEnd maxNesting) tokens = .ok parsed →
          tokens.drop place.position = parsed.rest ∧ place.depth = 0 := by
  refine ⟨fun n => (run_sound n).bounded, ?_⟩
  obtain ⟨call, place, ⟨n, run⟩, behind⟩ := run_ends textEnd tokens
  refine ⟨n + 1, place, ?_, fun parsed same => ?_⟩
  · rw [Function.iterate_succ_apply', run, Config.step]
  · obtain ⟨rest, depth, _⟩ := behind parsed same
    exact ⟨rest, depth⟩

end RayScene.Color.Calls
