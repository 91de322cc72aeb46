import RayScene.Proofs.Color.ParserSound

/-!
What the parser does with a phrase, whatever follows it: it returns the tree of the phrase if the
budget covers the depth and the widths fit, and nothing else in any case. Precedence levels are
told apart by the symbols that must not follow a phrase.
-/

namespace RayScene.Color

/-- A value that is there only if the budget covers the depth. -/
def within {α : Type} (budget depth : Nat) (value : Option α) : Option α :=
  if depth ≤ budget then value else none

section Within

variable {α β γ : Type}

@[simp] theorem within_zero (budget : Nat) (value : Option α) : within budget 0 value = value :=
  if_pos (Nat.zero_le budget)

@[simp] theorem within_succ_succ (budget depth : Nat) (value : Option α) :
    within (budget + 1) (depth + 1) value = within budget depth value := by
  simp only [within, Nat.add_le_add_iff_right]

theorem within_bind (budget depth : Nat) (value : Option α) (f : α → Option β) :
    within budget depth (value.bind f) = (within budget depth value).bind f := by
  unfold within
  split <;> rfl

theorem within_max (budget m n : Nat) (first : Option α) (second : Option β)
    (f : α → β → Option γ) :
    within budget (max m n) (first.bind fun a => second.bind (f a)) =
      (within budget m first).bind fun a => (within budget n second).bind (f a) := by
  simp only [within, Nat.max_le]
  by_cases left : m ≤ budget
  · by_cases right : n ≤ budget
    · simp [left, right]
    · simp [left, right]
  · simp [left]

theorem within_binary (budget m n : Nat) (op : BinaryOp) (left right : Expr Single) :
    within budget (max m n) (Expr.binary op left right).width? =
      (within budget m left.width?).bind fun a =>
        (within budget n right.width?).bind (commonWidth? a) := by
  rw [Expr.width?]
  exact within_max budget m n left.width? right.width? commonWidth?

end Within

section Outcome

variable {α β : Type}

@[simp] theorem toOption_bind (x : Except ExprError α) (f : α → Except ExprError β) :
    (x >>= f).toOption = x.toOption.bind fun a => (f a).toOption := by
  cases x <;> rfl

@[simp] theorem toOption_ok (a : α) : (Except.ok a : Except ExprError α).toOption = some a := rfl

@[simp] theorem toOption_pure (a : α) : (pure a : Except ExprError α).toOption = some a := rfl

end Outcome

def Stops (symbols : List Char) (tokens : List Token) : Prop :=
  ∀ token rest, tokens = token :: rest → ∀ c ∈ symbols, token.kind ≠ .symbol c

theorem Stops.mono {few many : List Char} {tokens : List Token} (stops : Stops many tokens)
    (subset : few ⊆ many) : Stops few tokens :=
  fun token rest split c member => stops token rest split c (subset member)

theorem stops_cons {symbols : List Char} {token : Token} {c : Char} (rest : List Token)
    (kind : token.kind = .symbol c) (other : c ∉ symbols) : Stops symbols (token :: rest) := by
  intro _ _ split d member same
  obtain ⟨rfl, rfl⟩ := List.cons.inj split
  rw [kind, TokenKind.symbol.injEq] at same
  exact other (same ▸ member)

def Takes (parser : Parser) (symbols : List Char) (root : Expr Single) (width : Option Nat)
    (tokens : List Token) : Prop :=
  ∀ rest, Stops symbols rest →
    (parser (tokens ++ rest)).toOption = width.map fun width => ⟨root, width, rest⟩

def Chains (ops : List BinaryOp) (operand : Parser) (symbols : List Char) (root : Expr Single)
    (width : Option Nat) (tokens : List Token) : Prop :=
  ∀ rest, Stops symbols rest → ∃ count, rest.length ≤ count ∧
    (chain ops operand (tokens ++ rest)).toOption =
      width.bind fun width => (chainFrom ops operand count ⟨root, width, rest⟩).toOption

theorem operator?_symbol {ops : List BinaryOp} {op : BinaryOp} (member : op ∈ ops) :
    operator? ops (.symbol op.symbol) = some op := by
  have injective : ∀ other : BinaryOp, op.symbol = other.symbol → op = other := by
    intro other
    cases op <;> cases other <;> decide
  rcases found : operator? ops (.symbol op.symbol) with _ | other
  · have missing := List.find?_eq_none.mp found op member
    simp at missing
  · obtain ⟨_, same⟩ := operator?_some found
    rw [injective other (TokenKind.symbol.inj same)]

section Chain

variable {ops : List BinaryOp} {operand : Parser} {symbols : List Char}

theorem Takes.chains {root : Expr Single} {width : Option Nat} {tokens : List Token}
    (takes : Takes operand symbols root width tokens) :
    Chains ops operand symbols root width tokens := by
  intro rest stops
  refine ⟨(tokens ++ rest).length, by simp, ?_⟩
  rw [chain, toOption_bind, takes rest stops]
  cases width <;> rfl

theorem Chains.step {left right : Expr Single} {first second : Option Nat}
    {front back : List Token} {op : BinaryOp} {token : Token} (member : op ∈ ops)
    (kind : token.kind = .symbol op.symbol) (other : op.symbol ∉ symbols)
    (chains : Chains ops operand symbols left first front)
    (takes : Takes operand symbols right second back) :
    Chains ops operand symbols (.binary op left right)
      (first.bind fun a => second.bind (commonWidth? a)) (front ++ token :: back) := by
  intro rest stops
  obtain ⟨count, enough, reads⟩ := chains (token :: (back ++ rest)) (stops_cons _ kind other)
  obtain ⟨count, rfl⟩ : ∃ less, count = less + 1 := by
    refine ⟨count - 1, ?_⟩
    simp only [List.length_cons] at enough
    omega
  refine ⟨count, ?_, ?_⟩
  · simp only [List.length_cons, List.length_append] at enough
    omega
  · rw [List.append_assoc, List.cons_append, reads, Option.bind_assoc]
    congr 1
    funext a
    simp only [chainFrom, kind, operator?_symbol member, toOption_bind, takes rest stops,
      Option.bind_assoc, Option.bind_map, Function.comp_def]
    congr 1
    funext b
    cases commonWidth? a b <;> rfl

theorem Chains.takes {root : Expr Single} {width : Option Nat} {tokens : List Token}
    (chains : Chains ops operand symbols root width tokens) :
    Takes (chain ops operand) (ops.map BinaryOp.symbol ++ symbols) root width tokens := by
  intro rest stops
  obtain ⟨count, enough, reads⟩ := chains rest (stops.mono (List.subset_append_right _ _))
  rw [reads, Option.map_eq_bind]
  congr 1
  funext w
  cases count with
  | zero => rfl
  | succ count =>
      cases rest with
      | nil => rfl
      | cons token rest =>
          have none_found : operator? ops token.kind = none := by
            rcases found : operator? ops token.kind with _ | op
            · rfl
            · obtain ⟨member, kind⟩ := operator?_some found
              exact absurd kind (stops token rest rfl _
                (List.mem_append_left _ (List.mem_map_of_mem member)))
          simp only [chainFrom, none_found]
          rfl

end Chain

def nestedIn (textEnd : Nat) : Nat → Option Parser
  | 0 => none
  | budget + 1 => some (signed textEnd budget)

theorem signed_eq (textEnd budget : Nat) :
    signed textEnd budget = signedStep textEnd (nestedIn textEnd budget) := by
  cases budget <;> rfl

def Phrase.opensWith : Phrase → TokenKind → Prop
  | .operand _, kind | .primary _, kind => kind ≠ .symbol ')' ∧ kind ≠ .symbol '-'
  | _, kind => kind ≠ .symbol ')'

theorem Derives.opens {phrase : Phrase} {depth : Nat} {kinds : List TokenKind}
    (derived : Derives phrase depth kinds) :
    ∃ kind rest, kinds = kind :: rest ∧ phrase.opensWith kind := by
  induction derived with
  | product _ ih | signed _ ih | argument _ ih => exact ih
  | operand _ ih =>
      obtain ⟨kind, rest, split, opens⟩ := ih
      exact ⟨kind, rest, split, opens.1⟩
  | primary _ ih => exact ih
  | sum _ _ _ ih _ | times _ _ _ ih _ | more _ _ ih _ =>
      obtain ⟨kind, rest, rfl, opens⟩ := ih
      exact ⟨kind, _, rfl, opens⟩
  | swizzle components _ ih =>
      obtain ⟨kind, rest, rfl, opens⟩ := ih
      exact ⟨kind, _, rfl, opens⟩
  | negate _ _ => exact ⟨_, _, rfl, by simp [Phrase.opensWith]⟩
  | number _ | input _ | call _ _ _ | parentheses _ _ =>
      exact ⟨_, _, rfl, by simp [Phrase.opensWith]⟩

theorem expectSymbol_cons {textEnd : Nat} {symbol : Char} {token : Token} (rest : List Token)
    (kind : token.kind = .symbol symbol) :
    expectSymbol textEnd symbol (token :: rest) = .ok rest := by
  simp only [expectSymbol, kind, if_true]

def sumStops : List Char := ['+', '-', '*', '/', '.', '(']

/-- What the parsers of a kind of phrase do with the tokens of one, whatever the budget. -/
def Reads (textEnd : Nat) (depth : Nat) (kinds : List TokenKind) : Phrase → Prop
  | .sum root => ∀ budget tokens, tokens.map (·.kind) = kinds →
      Chains [.add, .sub] (product (signed textEnd budget)) ['*', '/', '.', '('] root
        (within budget depth root.width?) tokens
  | .product root => ∀ budget tokens, tokens.map (·.kind) = kinds →
      Chains [.mul, .div] (signed textEnd budget) ['.', '('] root
        (within budget depth root.width?) tokens
  | .signed root => ∀ budget tokens, tokens.map (·.kind) = kinds →
      Takes (signed textEnd budget) ['.', '('] root (within budget depth root.width?) tokens
  | .operand root => ∀ budget tokens, tokens.map (·.kind) = kinds → ∀ rest, Stops ['('] rest →
      (signed textEnd budget (tokens ++ rest)).toOption =
        (within budget depth root.width?).bind fun width =>
          (swizzles textEnd root width rest).toOption
  | .primary root => ∀ budget tokens, tokens.map (·.kind) = kinds →
      Takes (primary textEnd (nestedIn textEnd budget)) ['('] root
        (within budget depth root.width?) tokens
  | .arguments roots => ∀ budget tokens, tokens.map (·.kind) = kinds → ∀ rest,
      Stops (',' :: sumStops) rest → ∀ count, tokens.length ≤ count →
      (argumentsFrom (sum (signed textEnd budget)) count (tokens ++ rest)).toOption =
        (within budget depth (widths? roots)).map fun widths => (roots, widths, rest)

theorem sum_takes {textEnd depth : Nat} {kinds : List TokenKind} {root : Expr Single}
    (reads : Reads textEnd depth kinds (.sum root)) (budget : Nat) {tokens : List Token}
    (spelled : tokens.map (·.kind) = kinds) :
    Takes (sum (signed textEnd budget)) sumStops root (within budget depth root.width?) tokens :=
  (reads budget tokens spelled).takes

theorem swizzles_stops {textEnd : Nat} {base : Expr Single} {width : Nat} {rest : List Token}
    (stops : Stops ['.'] rest) : swizzles textEnd base width rest = .ok ⟨base, width, rest⟩ := by
  fun_cases swizzles textEnd base width rest with
  | case1 => exact absurd rfl (stops _ _ rfl '.' (by simp))
  | case2 => exact absurd rfl (stops _ _ rfl '.' (by simp))
  | case3 => exact absurd rfl (stops _ _ rfl '.' (by simp))
  | case4 => rfl

theorem signedStep_operand {textEnd : Nat} {nested : Option Parser} {token : Token}
    {tokens : List Token} (unsigned : token.kind ≠ .symbol '-') :
    signedStep textEnd nested (token :: tokens) =
      primary textEnd nested (token :: tokens) >>= fun base =>
        swizzles textEnd base.expr base.width base.rest := by
  unfold signedStep
  split
  next column rest same =>
    cases same
    exact absurd rfl unsigned
  next => rfl

theorem primary_input (textEnd : Nat) (nested : Option Parser) (source : Input) (column : Nat)
    {rest : List Token} (stops : Stops ['('] rest) :
    primary textEnd nested (⟨.name source.name, column⟩ :: rest) =
      .ok ⟨.input source, 3, rest⟩ := by
  have uncalled : ∀ paren more, rest = ⟨.symbol '(', paren⟩ :: more → False :=
    fun _ _ split => stops _ _ split '(' (by simp) rfl
  cases source with
  | point =>
      rw [Input.name, primary]
      exact uncalled
  | normal =>
      rw [Input.name, primary]
      exact uncalled

/-- Tokens of given kinds differ from them by their columns only. -/
theorem spelled_cons {tokens : List Token} {kind : TokenKind} {kinds : List TokenKind}
    (spelled : tokens.map (·.kind) = kind :: kinds) :
    ∃ column rest, tokens = ⟨kind, column⟩ :: rest ∧ rest.map (·.kind) = kinds := by
  obtain ⟨⟨_, column⟩, rest, rfl, rfl, tail⟩ := List.map_eq_cons_iff.mp spelled
  exact ⟨column, rest, rfl, tail⟩

theorem spelled_append {tokens : List Token} {front back : List TokenKind}
    (spelled : tokens.map (·.kind) = front ++ back) :
    ∃ first second, tokens = first ++ second ∧ first.map (·.kind) = front ∧
      second.map (·.kind) = back :=
  List.map_eq_append_iff.mp spelled

def moreArguments (argument : Parser) (count : Nat) (first : Parsed) :
    Except ExprError (List (Expr Single) × List Nat × List Token) :=
  match first.rest with
  | ⟨.symbol ',', _⟩ :: rest => do
    let (exprs, widths, rest) ← argumentsFrom argument count rest
    return (first.expr :: exprs, first.width :: widths, rest)
  | rest => return ([first.expr], [first.width], rest)

theorem argumentsFrom_succ (argument : Parser) (count : Nat) (tokens : List Token) :
    argumentsFrom argument (count + 1) tokens =
      argument tokens >>= moreArguments argument count := rfl

theorem moreArguments_stops {argument : Parser} {count : Nat} {root : Expr Single} {width : Nat}
    {rest : List Token} (stops : Stops [','] rest) :
    moreArguments argument count ⟨root, width, rest⟩ = .ok ([root], [width], rest) := by
  unfold moreArguments
  split
  next column more split => exact absurd rfl (stops _ _ split ',' (by simp))
  next => rfl

theorem widths_single (root : Expr Single) :
    widths? [root] = root.width?.bind fun width => some [width] := by
  cases value : root.width? <;> simp [widths?, value]

theorem widths_cons (root : Expr Single) (roots : List (Expr Single)) :
    widths? (root :: roots) =
      root.width?.bind fun width => (widths? roots).bind fun widths => some (width :: widths) := by
  rfl

section Steps

variable {textEnd depth : Nat} {kinds : List TokenKind} {root : Expr Single}

theorem reads_negate (reads : Reads textEnd depth kinds (.signed root)) :
    Reads textEnd (depth + 1) (.symbol '-' :: kinds) (.signed (.negate root)) := by
  intro budget tokens spelled rest stops
  obtain ⟨column, inner, rfl, within⟩ := spelled_cons spelled
  rw [signed_eq, List.cons_append, signedStep]
  cases budget with
  | zero => rfl
  | succ budget =>
      have operand := reads budget inner within rest stops
      simp only [nestedIn, enter, Outcome.ok_bind, toOption_bind, operand, toOption_pure,
        within_succ_succ, Expr.width?, Option.map_eq_bind, Option.bind_assoc, Function.comp_def,
        Option.bind_some]

theorem reads_operand (reads : Reads textEnd depth kinds (.operand root)) :
    Reads textEnd depth kinds (.signed root) := by
  intro budget tokens spelled rest stops
  rw [reads budget tokens spelled rest (stops.mono (by simp))]
  have ends (width : Nat) : swizzles textEnd root width rest = .ok ⟨root, width, rest⟩ :=
    swizzles_stops (stops.mono (by simp))
  simp only [ends, Option.map_eq_bind, Function.comp_def, toOption_ok]

theorem reads_swizzle (components : String) (reads : Reads textEnd depth kinds (.operand root)) :
    Reads textEnd depth (kinds ++ [.symbol '.', .name components])
      (.operand (.swizzle root components)) := by
  intro budget tokens spelled rest stops
  obtain ⟨front, back, rfl, before, behind⟩ := spelled_append spelled
  obtain ⟨dot, named, rfl, name⟩ := spelled_cons behind
  obtain ⟨column, last, rfl, ended⟩ := spelled_cons name
  obtain rfl := List.map_eq_nil_iff.mp ended
  have base := reads budget front before (⟨.symbol '.', dot⟩ :: ⟨.name components, column⟩ :: rest)
    (stops_cons (c := '.') _ rfl (by decide))
  rw [List.append_assoc]
  simp only [List.cons_append, List.nil_append, base, swizzles, Expr.width?]
  show _ = (within budget depth (root.width?.bind fun width =>
    swizzleWidth? components.toList width)).bind _
  rw [within_bind, Option.bind_assoc]
  congr 1
  funext width
  cases swizzleWidth? components.toList width <;> rfl

theorem reads_primary (derived : Derives (.primary root) depth kinds)
    (reads : Reads textEnd depth kinds (.primary root)) :
    Reads textEnd depth kinds (.operand root) := by
  intro budget tokens spelled rest stops
  obtain ⟨kind, others, split, opens⟩ := derived.opens
  rw [split] at spelled
  obtain ⟨token, tail, rfl, same, _⟩ := List.map_eq_cons_iff.mp spelled
  have taken := reads budget (token :: tail) (by rw [spelled, split]) rest stops
  rw [List.cons_append] at taken
  rw [signed_eq, List.cons_append, signedStep_operand (by rw [same]; exact opens.2), toOption_bind,
    taken, Option.bind_map]
  rfl

theorem reads_number (value : Single) :
    Reads textEnd 0 [.number value] (.primary (.number value)) := by
  intro budget tokens spelled rest _
  obtain ⟨column, last, rfl, ended⟩ := spelled_cons spelled
  obtain rfl := List.map_eq_nil_iff.mp ended
  simp only [within_zero]
  rfl

theorem reads_input (source : Input) :
    Reads textEnd 0 [.name source.name] (.primary (.input source)) := by
  intro budget tokens spelled rest stops
  obtain ⟨column, last, rfl, ended⟩ := spelled_cons spelled
  obtain rfl := List.map_eq_nil_iff.mp ended
  simp only [within_zero, List.cons_append, List.nil_append,
    primary_input _ _ source column (stops.mono (List.Subset.refl _))]
  rfl

theorem reads_parentheses (reads : Reads textEnd depth kinds (.sum root)) :
    Reads textEnd (depth + 1) (.symbol '(' :: (kinds ++ [.symbol ')'])) (.primary root) := by
  intro budget tokens spelled rest _
  obtain ⟨column, inner, rfl, inside⟩ := spelled_cons spelled
  obtain ⟨within, back, rfl, spelled', behind⟩ := spelled_append inside
  obtain ⟨closing, last, rfl, ended⟩ := spelled_cons behind
  obtain rfl := List.map_eq_nil_iff.mp ended
  cases budget with
  | zero => rfl
  | succ budget =>
      have summed := sum_takes reads budget spelled' (⟨.symbol ')', closing⟩ :: rest)
        (stops_cons (c := ')') _ rfl (by decide))
      simp only [nestedIn, List.cons_append, List.append_assoc, List.nil_append, primary, enter,
        Outcome.ok_bind, toOption_bind, summed, within_succ_succ, Option.map_eq_bind,
        Option.bind_assoc, Function.comp_def, Option.bind_some, expectSymbol_cons, toOption_ok,
        toOption_pure]

theorem reads_argument (derived : Derives (.sum root) depth kinds)
    (reads : Reads textEnd depth kinds (.sum root)) :
    Reads textEnd depth kinds (.arguments [root]) := by
  intro budget tokens spelled rest stops count enough
  obtain ⟨count, rfl⟩ : ∃ less, count = less + 1 := by
    obtain ⟨kind, others, split, _⟩ := derived.opens
    obtain ⟨column, tail, rfl, _⟩ := spelled_cons (spelled.trans split)
    refine ⟨count - 1, ?_⟩
    simp only [List.length_cons] at enough
    omega
  have summed := sum_takes reads budget spelled rest (stops.mono (by simp))
  rw [argumentsFrom_succ, toOption_bind, summed, Option.bind_map, widths_single, within_bind,
    Option.map_bind]
  congr 1
  funext width
  have only : [','] ⊆ ',' :: sumStops := by simp
  simp only [Function.comp_def, moreArguments_stops (stops.mono only)]
  rfl

theorem reads_more {roots : List (Expr Single)} {m n : Nat} {front back : List TokenKind}
    (reads : Reads textEnd m front (.sum root)) (others : Reads textEnd n back (.arguments roots)) :
    Reads textEnd (max m n) (front ++ .symbol ',' :: back) (.arguments (root :: roots)) := by
  intro budget tokens spelled rest stops count enough
  obtain ⟨first, tail, rfl, before, behind⟩ := spelled_append spelled
  obtain ⟨comma, second, rfl, after⟩ := spelled_cons behind
  obtain ⟨count, rfl⟩ : ∃ less, count = less + 1 := by
    refine ⟨count - 1, ?_⟩
    simp only [List.length_append, List.length_cons] at enough
    omega
  have fewer : second.length ≤ count := by
    simp only [List.length_append, List.length_cons] at enough
    omega
  have summed := sum_takes reads budget before (⟨.symbol ',', comma⟩ :: (second ++ rest))
    (stops_cons (c := ',') _ rfl (by decide))
  have listed := others budget second after rest stops count fewer
  rw [argumentsFrom_succ, List.append_assoc, List.cons_append, toOption_bind, summed,
    Option.bind_map, widths_cons, within_max, Option.map_bind]
  congr 1
  funext width
  simp only [Function.comp_def, moreArguments, toOption_bind, listed, Option.map_eq_bind,
    Option.bind_assoc, Option.bind_some, toOption_pure]

theorem ofName?_name (function : Builtin) : Builtin.ofName? function.name = some function := by
  cases function <;> decide

theorem closeCall_closes {function : Builtin} {column : Nat} {roots : List (Expr Single)}
    {widths : List Nat} {closing : Token} (rest : List Token) (kind : closing.kind = .symbol ')') :
    (closeCall textEnd function column (roots, widths, closing :: rest)).toOption =
      (function.signature.resultWidth widths).toOption.map fun width =>
        ⟨.call function roots, width, rest⟩ := by
  simp only [closeCall, expectSymbol_cons rest kind, Outcome.ok_bind]
  cases function.signature.resultWidth widths <;> rfl

theorem reads_call (function : Builtin) {roots : List (Expr Single)}
    (derived : Derives (.arguments roots) depth kinds)
    (reads : Reads textEnd depth kinds (.arguments roots)) :
    Reads textEnd (depth + 1) (.name function.name :: .symbol '(' :: (kinds ++ [.symbol ')']))
      (.primary (.call function roots)) := by
  intro budget tokens spelled rest _
  obtain ⟨column, called, rfl, calledAs⟩ := spelled_cons spelled
  obtain ⟨opening, inner, rfl, innerAs⟩ := spelled_cons calledAs
  obtain ⟨listed, back, rfl, listedAs, behind⟩ := spelled_append innerAs
  obtain ⟨closing, last, rfl, ended⟩ := spelled_cons behind
  obtain rfl := List.map_eq_nil_iff.mp ended
  cases budget with
  | zero => rfl
  | succ budget =>
      obtain ⟨kind, others, split, opens⟩ := derived.opens
      have unclosed : kind ≠ .symbol ')' := opens
      obtain ⟨start, tail, rfl, _⟩ := spelled_cons (listedAs.trans split)
      have whole (tokens : List Token) :=
        argumentList_open (sum (signed textEnd budget)) (⟨kind, start⟩ :: tokens)
          fun _ _ same => by
            cases same
            exact unclosed rfl
      have stops : Stops (',' :: sumStops) (⟨.symbol ')', closing⟩ :: rest) :=
        stops_cons _ rfl (by decide)
      have read := reads budget _ listedAs _ stops
      simp only [List.cons_append, List.append_assoc, List.nil_append] at read ⊢
      simp only [nestedIn, primary, enter, Outcome.ok_bind, call_eq _ _ _ _ (ofName?_name function),
        whole, toOption_bind]
      rw [read _ (by simp only [List.length_cons, List.length_append]; omega)]
      simp only [within_succ_succ, Expr.width?]
      show _ = Option.map _ (within budget depth ((widths? roots).bind fun widths =>
        (function.signature.resultWidth widths).toOption))
      rw [within_bind, Option.bind_map, Option.map_bind]
      congr 1
      funext widths
      exact closeCall_closes rest rfl

end Steps

theorem Derives.reads (textEnd : Nat) {phrase : Phrase} {depth : Nat} {kinds : List TokenKind}
    (derived : Derives phrase depth kinds) : Reads textEnd depth kinds phrase := by
  induction derived with
  | product _ ih => exact fun budget tokens spelled => (ih budget tokens spelled).takes.chains
  | signed _ ih => exact fun budget tokens spelled => (ih budget tokens spelled).chains
  | sum member _ _ left right =>
      intro budget tokens spelled
      obtain ⟨first, tail, rfl, before, behind⟩ := spelled_append spelled
      obtain ⟨column, second, rfl, after⟩ := spelled_cons behind
      rw [within_binary]
      exact (left budget first before).step member rfl (by
        simp only [List.mem_cons, List.not_mem_nil, or_false] at member
        rcases member with rfl | rfl <;> decide) (right budget second after).takes
  | times member _ _ left right =>
      intro budget tokens spelled
      obtain ⟨first, tail, rfl, before, behind⟩ := spelled_append spelled
      obtain ⟨column, second, rfl, after⟩ := spelled_cons behind
      rw [within_binary]
      exact (left budget first before).step member rfl (by
        simp only [List.mem_cons, List.not_mem_nil, or_false] at member
        rcases member with rfl | rfl <;> decide) (right budget second after)
  | negate _ ih => exact reads_negate ih
  | operand _ ih => exact reads_operand ih
  | swizzle components _ ih => exact reads_swizzle components ih
  | primary derived ih => exact reads_primary derived ih
  | number value => exact reads_number value
  | input source => exact reads_input source
  | call function derived ih => exact reads_call function derived ih
  | parentheses _ ih => exact reads_parentheses ih
  | argument derived ih => exact reads_argument derived ih
  | more _ _ first others => exact reads_more first others

end RayScene.Color
