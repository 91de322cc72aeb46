import RayScene.Proofs.Color.Grammar
import RayScene.Proofs.Outcome

namespace RayScene.Color

structure Level (ops : List BinaryOp) (inner outer : Expr Single → Phrase) : Prop where
  start {root : Expr Single} {depth : Nat} {tokens : List TokenKind} :
    Derives (inner root) depth tokens → Derives (outer root) depth tokens
  step {op : BinaryOp} {left right : Expr Single} {m n : Nat} {front back : List TokenKind} :
    op ∈ ops → Derives (outer left) m front → Derives (inner right) n back →
    Derives (outer (.binary op left right)) (max m n) (front ++ .symbol op.symbol :: back)

theorem productLevel : Level [.mul, .div] .signed .product := ⟨.signed, .times⟩

theorem sumLevel : Level [.add, .sub] .product .sum := ⟨.product, .sum⟩

def Spans (phrase : Expr Single → Phrase) (budget : Nat) (tokens : List Token) (parsed : Parsed) :
    Prop :=
  ∃ used depth, tokens = used ++ parsed.rest ∧ depth ≤ budget ∧
    Derives (phrase parsed.expr) depth (used.map (·.kind)) ∧
    parsed.expr.width? = some parsed.width

def Sound (phrase : Expr Single → Phrase) (budget : Nat) (parser : Parser) : Prop :=
  ∀ tokens parsed, parser tokens = .ok parsed → Spans phrase budget tokens parsed

theorem operator?_some {ops : List BinaryOp} {kind : TokenKind} {op : BinaryOp}
    (found : operator? ops kind = some op) : op ∈ ops ∧ kind = .symbol op.symbol :=
  ⟨List.mem_of_find?_eq_some found, by simpa using List.find?_some found⟩

section Chain

variable {ops : List BinaryOp} {inner outer : Expr Single → Phrase} {budget : Nat}
  {operand : Parser}

theorem chainFrom_sound (level : Level ops inner outer) (sound : Sound inner budget operand)
    (tokens : List Token) (count : Nat) (left parsed : Parsed)
    (spans : Spans outer budget tokens left)
    (parses : chainFrom ops operand count left = .ok parsed) :
    Spans outer budget tokens parsed := by
  induction count generalizing left with
  | zero =>
      cases parses
      exact spans
  | succ count ih =>
      rw [chainFrom] at parses
      split at parses
      next =>
        cases parses
        exact spans
      next token rest more =>
        split at parses
        next =>
          cases parses
          exact spans
        next op found =>
          obtain ⟨right, ran, parses⟩ := Outcome.bind_eq_ok.mp parses
          split at parses
          next => cases parses
          next width common =>
            refine ih _ ?_ parses
            obtain ⟨member, kind⟩ := operator?_some found
            obtain ⟨front, m, split, shallow, derived, wide⟩ := spans
            obtain ⟨back, n, rest_eq, shallow', derived', wide'⟩ := sound _ _ ran
            refine ⟨front ++ token :: back, max m n, ?_, Nat.max_le.mpr ⟨shallow, shallow'⟩, ?_, ?_⟩
            · rw [split, more, rest_eq, List.append_assoc, List.cons_append]
            · rw [List.map_append, List.map_cons, kind]
              exact level.step member derived derived'
            · simp only [Expr.width?, wide, wide', common, bind, Option.bind]

theorem chain_sound (level : Level ops inner outer) (sound : Sound inner budget operand) :
    Sound outer budget (chain ops operand) := by
  intro tokens parsed parses
  obtain ⟨first, ran, parses⟩ := Outcome.bind_eq_ok.mp parses
  obtain ⟨used, depth, split, shallow, derived, wide⟩ := sound _ _ ran
  exact chainFrom_sound level sound tokens _ first parsed
    ⟨used, depth, split, shallow, level.start derived, wide⟩ parses

end Chain

theorem sum_sound {budget : Nat} {signed : Parser} (sound : Sound .signed budget signed) :
    Sound .sum budget (sum signed) :=
  chain_sound sumLevel (chain_sound productLevel sound)

theorem expectSymbol_ok {textEnd : Nat} {symbol : Char} {tokens rest : List Token}
    (expected : expectSymbol textEnd symbol tokens = .ok rest) :
    ∃ token, tokens = token :: rest ∧ token.kind = .symbol symbol := by
  cases tokens with
  | nil => cases expected
  | cons token tokens =>
      rw [expectSymbol] at expected
      split at expected
      next kind =>
        cases expected
        exact ⟨token, rfl, kind⟩
      next => cases expected

theorem swizzles_sound {textEnd budget : Nat} {tokens rest : List Token} {base : Expr Single}
    {width : Nat} {parsed : Parsed} (spans : Spans .operand budget tokens ⟨base, width, rest⟩)
    (parses : swizzles textEnd base width rest = .ok parsed) :
    Spans .operand budget tokens parsed := by
  fun_induction swizzles textEnd base width rest with
  | case1 base width dot components column rest wider valid ih =>
      apply ih _ parses
      obtain ⟨used, depth, split, shallow, derived, wide⟩ := spans
      refine ⟨used ++ [⟨.symbol '.', dot⟩, ⟨.name components, column⟩], depth, ?_, shallow, ?_, ?_⟩
      · simpa using split
      · simpa using derived.swizzle components
      · simp only [Expr.width?, wide, bind, Option.bind, valid]
  | case2 => cases parses
  | case3 base width dot rest other =>
      unfold failAt at parses
      split at parses <;> cases parses
  | case4 base width rest =>
      cases parses
      exact spans

def SpansArguments (budget : Nat) (tokens : List Token) (roots : List (Expr Single))
    (widths : List Nat) (rest : List Token) : Prop :=
  ∃ used depth, tokens = used ++ rest ∧ depth ≤ budget ∧
    Derives (.arguments roots) depth (used.map (·.kind)) ∧ widths? roots = some widths

/-- Reading stops early only where the tokens end, which no call gets past. -/
theorem argumentsFrom_sound {budget : Nat} {argument : Parser}
    (sound : Sound .sum budget argument) {count : Nat} {tokens rest : List Token}
    {roots : List (Expr Single)} {widths : List Nat} (enough : tokens.length ≤ count)
    (ended : rest ≠ []) (parses : argumentsFrom argument count tokens = .ok (roots, widths, rest)) :
    SpansArguments budget tokens roots widths rest := by
  induction count generalizing tokens roots widths with
  | zero =>
      cases parses
      exact absurd (List.eq_nil_of_length_eq_zero (Nat.le_zero.mp enough)) ended
  | succ count ih =>
      rw [argumentsFrom] at parses
      obtain ⟨first, ran, parses⟩ := Outcome.bind_eq_ok.mp parses
      obtain ⟨used, m, front, shallow, derived, wide⟩ := sound _ _ ran
      split at parses
      next column more comma =>
        obtain ⟨⟨roots', widths', rest'⟩, others, parses⟩ := Outcome.bind_eq_ok.mp parses
        cases parses
        have fewer : more.length ≤ count := by
          have lengths := congrArg List.length front
          simp only [comma, List.length_append, List.length_cons] at lengths
          omega
        obtain ⟨back, n, tail, shallow', derived', wide'⟩ := ih fewer others
        refine ⟨used ++ ⟨.symbol ',', column⟩ :: back, max m n, ?_,
          Nat.max_le.mpr ⟨shallow, shallow'⟩, ?_, ?_⟩
        · rw [front, comma, tail, List.append_assoc, List.cons_append]
        · rw [List.map_append, List.map_cons]
          exact derived.more derived'
        · simp only [widths?, wide, wide', bind, Option.bind, pure]
      next =>
        cases parses
        exact ⟨used, m, front, shallow, derived.argument, by
          simp only [widths?, wide, bind, Option.bind, pure]⟩

theorem resultWidth_nil (signature : Signature) (width : Nat) :
    signature.resultWidth [] ≠ .ok width := by
  cases signature with
  | uniform count =>
      simp only [Signature.resultWidth]
      split <;> simp
  | _ => simp [Signature.resultWidth]

theorem ofName?_some {name : String} {function : Builtin}
    (found : Builtin.ofName? name = some function) : function.name = name := by
  simpa using List.find?_some found

def argumentList (argument : Parser) (tokens : List Token) :
    Except ExprError (List (Expr Single) × List Nat × List Token) :=
  match tokens with
  | ⟨.symbol ')', _⟩ :: _ => .ok ([], [], tokens)
  | _ => argumentsFrom argument (tokens.length + 1) tokens

def closeCall (textEnd : Nat) (function : Builtin) (column : Nat) :
    List (Expr Single) × List Nat × List Token → Except ExprError Parsed
  | (roots, widths, rest) => do
    let rest ← expectSymbol textEnd ')' rest
    match function.signature.resultWidth widths with
    | .ok width => return ⟨.call function roots, width, rest⟩
    | .error reason => throw ⟨column, .arguments function reason⟩

theorem argumentList_open (argument : Parser) (tokens : List Token)
    (not_closed : ∀ column rest, tokens = ⟨.symbol ')', column⟩ :: rest → False) :
    argumentList argument tokens = argumentsFrom argument (tokens.length + 1) tokens := by
  unfold argumentList
  split
  next column rest => exact (not_closed column rest rfl).elim
  next => rfl

theorem call_eq (textEnd : Nat) (argument : Parser) {name : String} (column : Nat)
    (tokens : List Token) {function : Builtin} (found : Builtin.ofName? name = some function) :
    call textEnd argument name column tokens =
      argumentList argument tokens >>= closeCall textEnd function column := by
  unfold call
  simp only [found]
  split
  next => rfl
  next not_closed =>
    rw [argumentList_open argument tokens not_closed]
    rfl

theorem call_sound {textEnd budget : Nat} {argument : Parser} (sound : Sound .sum budget argument)
    {name : String} {column : Nat} (opening : Token) (paren : opening.kind = .symbol '(')
    {tokens : List Token} {parsed : Parsed}
    (parses : call textEnd argument name column tokens = .ok parsed) :
    Spans .primary (budget + 1) (⟨.name name, column⟩ :: opening :: tokens) parsed := by
  rcases found : Builtin.ofName? name with _ | function
  · simp only [call, found] at parses
    cases parses
  · rw [call_eq _ _ _ _ found] at parses
    obtain ⟨⟨roots, widths, rest⟩, inside, parses⟩ := Outcome.bind_eq_ok.mp parses
    obtain ⟨after, expected, parses⟩ := Outcome.bind_eq_ok.mp parses
    obtain ⟨closing, rest_eq, kind⟩ := expectSymbol_ok expected
    split at parses
    next width fits =>
      cases parses
      have spans : SpansArguments budget tokens roots widths rest := by
        unfold argumentList at inside
        split at inside
        next =>
          cases inside
          exact absurd fits (resultWidth_nil _ _)
        next =>
          refine argumentsFrom_sound sound (Nat.le_succ _) ?_ inside
          rw [rest_eq]
          exact List.cons_ne_nil _ _
      obtain ⟨used, depth, split, shallow, derived, wide⟩ := spans
      refine ⟨⟨.name name, column⟩ :: opening :: (used ++ [closing]), depth + 1, ?_,
        Nat.succ_le_succ shallow, ?_, ?_⟩
      · simp [split, rest_eq]
      · simp only [List.map_cons, List.map_append, List.map_nil, paren, kind]
        rw [← ofName?_some found]
        exact derived.call function
      · simp only [Expr.width?, wide, bind, Option.bind, fits, Except.toOption]
    next => cases parses

theorem enter_ok {nested : Option Parser} {column : Nat} {parser : Parser}
    (entered : enter nested column = .ok parser) : nested = some parser := by
  cases nested with
  | none => cases entered
  | some other =>
      cases entered
      rfl

theorem primary_sound {textEnd budget : Nat} {nested : Option Parser}
    (sound : ∀ parser, nested = some parser → ∃ inner, budget = inner + 1 ∧
      Sound .signed inner parser) :
    Sound .primary budget (primary textEnd nested) := by
  intro tokens parsed parses
  unfold primary at parses
  split at parses
  next value column rest =>
    cases parses
    exact ⟨[⟨.number value, column⟩], 0, rfl, Nat.zero_le _, .number value, rfl⟩
  next column rest =>
    obtain ⟨signed, entered, parses⟩ := Outcome.bind_eq_ok.mp parses
    obtain ⟨inner, rfl, reads⟩ := sound signed (enter_ok entered)
    obtain ⟨within, ran, parses⟩ := Outcome.bind_eq_ok.mp parses
    obtain ⟨after, expected, parses⟩ := Outcome.bind_eq_ok.mp parses
    obtain ⟨closing, rest_eq, kind⟩ := expectSymbol_ok expected
    cases parses
    obtain ⟨used, depth, split, shallow, derived, wide⟩ := sum_sound reads _ _ ran
    refine ⟨⟨.symbol '(', column⟩ :: (used ++ [closing]), depth + 1, ?_,
      Nat.succ_le_succ shallow, ?_, wide⟩
    · simp [split, rest_eq]
    · simpa [kind] using derived.parentheses
  next name column paren rest =>
    obtain ⟨signed, entered, parses⟩ := Outcome.bind_eq_ok.mp parses
    obtain ⟨inner, rfl, reads⟩ := sound signed (enter_ok entered)
    exact call_sound (sum_sound reads) ⟨.symbol '(', paren⟩ rfl parses
  next column rest _ =>
    cases parses
    exact ⟨[⟨.name "p", column⟩], 0, rfl, Nat.zero_le _, .input .point, rfl⟩
  next column rest _ =>
    cases parses
    exact ⟨[⟨.name "n", column⟩], 0, rfl, Nat.zero_le _, .input .normal, rfl⟩
  next => cases parses
  next => cases parses
  next => cases parses

theorem signedStep_sound {textEnd budget : Nat} {nested : Option Parser}
    (sound : ∀ parser, nested = some parser → ∃ inner, budget = inner + 1 ∧
      Sound .signed inner parser) :
    Sound .signed budget (signedStep textEnd nested) := by
  intro tokens parsed parses
  unfold signedStep at parses
  split at parses
  next column rest =>
    obtain ⟨signed, entered, parses⟩ := Outcome.bind_eq_ok.mp parses
    obtain ⟨inner, rfl, reads⟩ := sound signed (enter_ok entered)
    obtain ⟨operand, ran, parses⟩ := Outcome.bind_eq_ok.mp parses
    cases parses
    obtain ⟨used, depth, split, shallow, derived, wide⟩ := reads _ _ ran
    refine ⟨⟨.symbol '-', column⟩ :: used, depth + 1, ?_, Nat.succ_le_succ shallow,
      derived.negate, ?_⟩
    · simp [split]
    · simp only [Expr.width?, wide]
  next =>
    obtain ⟨base, ran, parses⟩ := Outcome.bind_eq_ok.mp parses
    obtain ⟨used, depth, split, shallow, derived, wide⟩ := primary_sound sound _ _ ran
    have operand : Spans .operand budget tokens parsed :=
      swizzles_sound ⟨used, depth, split, shallow, derived.primary, wide⟩ parses
    obtain ⟨used, depth, split, shallow, derived, wide⟩ := operand
    exact ⟨used, depth, split, shallow, derived.operand, wide⟩

theorem signed_sound (textEnd budget : Nat) : Sound .signed budget (signed textEnd budget) := by
  induction budget with
  | zero =>
      apply signedStep_sound
      intro parser none
      cases none
  | succ budget ih =>
      apply signedStep_sound
      intro parser some
      cases some
      exact ⟨budget, rfl, ih⟩

end RayScene.Color
