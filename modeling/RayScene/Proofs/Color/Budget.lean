import RayScene.Proofs.Color.Acceptance

namespace RayScene.Color

def Outdone {α : Type} (x y : Except ExprError α) : Prop :=
  x = y ∨ ∃ column, x = .error ⟨column, .nestedTooDeeply⟩

section Outdone

variable {α β : Type}

theorem Outdone.refl (x : Except ExprError α) : Outdone x x := .inl rfl

theorem Outdone.bind {x y : Except ExprError α} {f g : α → Except ExprError β}
    (first : Outdone x y) (second : ∀ a, Outdone (f a) (g a)) : Outdone (x >>= f) (y >>= g) := by
  rcases first with rfl | ⟨column, rfl⟩
  · cases x with
    | error => exact .refl _
    | ok a => exact second a
  · exact .inr ⟨column, rfl⟩

/-- Where the greater budget succeeds and the smaller one does not, nesting is the reason. -/
theorem Outdone.exhausted {x y : Except ExprError α} (outdone : Outdone x y) {a : α}
    (succeeds : y = .ok a) (fails : x.toOption = none) :
    ∃ column, x = .error ⟨column, .nestedTooDeeply⟩ := by
  rcases outdone with rfl | exhausted
  · rw [succeeds] at fails
    cases fails
  · exact exhausted

end Outdone

def Poorer (small large : Parser) : Prop := ∀ tokens, Outdone (small tokens) (large tokens)

section Parsers

variable {small large : Parser} (poorer : Poorer small large)

include poorer

theorem chainFrom_poorer (ops : List BinaryOp) (count : Nat) (left : Parsed) :
    Outdone (chainFrom ops small count left) (chainFrom ops large count left) := by
  induction count generalizing left with
  | zero => exact .refl _
  | succ count ih =>
    rw [chainFrom.eq_def, chainFrom.eq_def]
    simp only
    split
    next => exact .refl _
    next token rest _ =>
      split
      next => exact .refl _
      next op _ =>
        refine (poorer rest).bind fun right => ?_
        split
        next => exact .refl _
        next => exact ih _

theorem sum_poorer : Poorer (sum small) (sum large) := by
  have chained {inner outer : Parser} (operands : Poorer inner outer) (ops : List BinaryOp) :
      Poorer (chain ops inner) (chain ops outer) :=
    fun tokens => (operands tokens).bind fun left => chainFrom_poorer operands ops _ left
  exact chained (chained poorer _) _

theorem argumentsFrom_poorer (count : Nat) (tokens : List Token) :
    Outdone (argumentsFrom small count tokens) (argumentsFrom large count tokens) := by
  induction count generalizing tokens with
  | zero => exact .refl _
  | succ count ih =>
    rw [argumentsFrom_succ, argumentsFrom_succ]
    refine (poorer tokens).bind fun first => ?_
    unfold moreArguments
    split
    next => exact (ih _).bind fun _ => .refl _
    next => exact .refl _

theorem call_poorer (textEnd : Nat) (name : String) (column : Nat) :
    Poorer (call textEnd small name column) (call textEnd large name column) := by
  intro tokens
  rcases found : Builtin.ofName? name with _ | function
  · simp only [call, found]
    exact .refl _
  · rw [call_eq _ _ _ _ found, call_eq _ _ _ _ found]
    refine Outdone.bind ?_ fun _ => .refl _
    unfold argumentList
    split
    next => exact .refl _
    next => exact argumentsFrom_poorer poorer _ _

end Parsers

def PoorerNested (small large : Option Parser) : Prop :=
  ∀ parser, small = some parser → ∃ other, large = some other ∧ Poorer parser other

section Nested

variable {small large : Option Parser} (poorer : PoorerNested small large)

include poorer

theorem enter_poorer {α : Type} {column : Nat} {f g : Parser → Except ExprError α}
    (inner : ∀ parser other, Poorer parser other → Outdone (f parser) (g other)) :
    Outdone (enter small column >>= f) (enter large column >>= g) := by
  cases small with
  | none => exact .inr ⟨column, rfl⟩
  | some parser =>
    obtain ⟨other, rfl, less⟩ := poorer parser rfl
    exact inner parser other less

theorem primary_poorer (textEnd : Nat) :
    Poorer (primary textEnd small) (primary textEnd large) := by
  intro tokens
  rw [primary.eq_def, primary.eq_def]
  split
  case h_2 =>
    exact enter_poorer poorer fun parser other less =>
      (sum_poorer less _).bind fun _ => .refl _
  case h_3 =>
    exact enter_poorer poorer fun parser other less => call_poorer (sum_poorer less) _ _ _ _
  all_goals exact .refl _

theorem signedStep_poorer (textEnd : Nat) :
    Poorer (signedStep textEnd small) (signedStep textEnd large) := by
  intro tokens
  rw [signedStep.eq_def, signedStep.eq_def]
  split
  next => exact enter_poorer poorer fun parser other less => (less _).bind fun _ => .refl _
  next => exact (primary_poorer poorer textEnd _).bind fun _ => .refl _

end Nested

theorem signed_poorer (textEnd : Nat) {budget more : Nat} (less : budget ≤ more) :
    Poorer (signed textEnd budget) (signed textEnd more) := by
  induction budget generalizing more with
  | zero =>
    rw [signed_eq, signed_eq]
    exact signedStep_poorer (fun _ none => absurd none (by simp [nestedIn])) textEnd
  | succ budget ih =>
    obtain ⟨more, rfl⟩ : ∃ k, more = k + 1 := ⟨more - 1, by omega⟩
    rw [signed_eq, signed_eq]
    refine signedStep_poorer (fun parser same => ?_) textEnd
    cases same
    exact ⟨_, rfl, ih (by omega)⟩

/-- Tokens that a color derives but only from deeper nesting fail for that reason alone. -/
theorem parseTokens_exhausted (textEnd : Nat) {tokens : List Token} {root : Expr Single}
    {depth width : Nat} (derived : Derives (.sum root) depth (tokens.map (·.kind)))
    (wide : root.width? = some width) (deep : maxNesting < depth) :
    ∃ column, parseTokens textEnd tokens = .error ⟨column, .nestedTooDeeply⟩ := by
  have nothing : Stops sumStops [] := fun _ _ split => by cases split
  have read (budget : Nat) := sum_takes (derived.reads textEnd) budget rfl [] nothing
  simp only [List.append_nil] at read
  have succeeds : sum (signed textEnd depth) tokens = .ok ⟨root, width, []⟩ := by
    rw [← Outcome.toOption_eq_some, read, within, if_pos (Nat.le_refl depth), wide, Option.map_some]
  have fails : (sum (signed textEnd maxNesting) tokens).toOption = none := by
    rw [read, within, if_neg (Nat.not_le.mpr deep), Option.map_none]
  obtain ⟨column, failed⟩ :=
    (sum_poorer (signed_poorer textEnd (Nat.le_of_lt deep)) tokens).exhausted succeeds fails
  exact ⟨column, by rw [parseTokens, failed]; rfl⟩

end RayScene.Color
