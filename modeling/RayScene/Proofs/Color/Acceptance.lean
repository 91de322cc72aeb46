import RayScene.Proofs.Color.ParserComplete

/-!
The texts that the parser accepts, and the trees that it returns for them: those of the grammar,
within the nesting budget, whose widths fit together to that of a color.
-/

namespace RayScene.Color

/-- A scalar or three components, which is what a color is made from. -/
def IsColor (root : Expr Single) : Prop := root.width? = some 1 ∨ root.width? = some 3

/-- The tokens have a derivation within the nesting budget. -/
def InGrammar (tokens : List Token) (root : Expr Single) : Prop :=
  ∃ depth ≤ maxNesting, Derives (.sum root) depth (tokens.map (·.kind))

theorem parseTokens_sound {textEnd : Nat} {tokens : List Token} {root : Expr Single}
    (parses : parseTokens textEnd tokens = .ok root) : InGrammar tokens root ∧ IsColor root := by
  obtain ⟨parsed, ran, parses⟩ := Outcome.bind_eq_ok.mp parses
  obtain ⟨used, depth, split, shallow, derived, wide⟩ :=
    sum_sound (signed_sound textEnd maxNesting) _ _ ran
  split at parses
  next => cases parses
  next ended =>
    split at parses
    next fits =>
      cases parses
      rw [ended, List.append_nil] at split
      subst split
      refine ⟨⟨depth, shallow, derived⟩, ?_⟩
      simpa only [IsColor, wide, Option.some.injEq] using fits
    next => cases parses

/-- The outcome of parsing a derived list, which the tree of the derivation decides. -/
theorem parseTokens_derived (textEnd : Nat) {tokens : List Token} {root : Expr Single}
    {depth : Nat} (derived : Derives (.sum root) depth (tokens.map (·.kind))) :
    (parseTokens textEnd tokens).toOption =
      (within maxNesting depth root.width?).bind fun width =>
        if width = 1 ∨ width = 3 then some root else none := by
  have nothing : Stops sumStops [] := fun _ _ split => by cases split
  have read := sum_takes (derived.reads textEnd) maxNesting rfl [] nothing
  rw [List.append_nil] at read
  simp only [parseTokens, toOption_bind, read, Option.bind_map, Function.comp_def]
  congr 1
  funext width
  split <;> rfl

theorem parseTokens_complete {textEnd : Nat} {tokens : List Token} {root : Expr Single}
    (derived : InGrammar tokens root) (color : IsColor root) :
    parseTokens textEnd tokens = .ok root := by
  obtain ⟨depth, shallow, derived⟩ := derived
  rw [← Outcome.toOption_eq_some, parseTokens_derived textEnd derived, within, if_pos shallow]
  rcases color with wide | wide <;> rw [wide] <;> rfl

theorem parseTokens_unique {textEnd depth : Nat} {tokens : List Token} {root other : Expr Single}
    (parses : parseTokens textEnd tokens = .ok root)
    (derived : Derives (.sum other) depth (tokens.map (·.kind))) : other = root := by
  have read := parseTokens_derived textEnd derived
  rw [parses, toOption_ok] at read
  obtain ⟨width, _, chosen⟩ := Option.bind_eq_some_iff.mp read.symm
  split at chosen
  next => exact Option.some.inj chosen
  next => cases chosen

/-- The parser is the grammar: it accepts the derivations within its budget of a color's width,
and a text that it accepts has no other tree. -/
theorem parse_ok_iff_derives {text : String} {tokens : List Token}
    (tokenized : tokenize text.toList = .ok tokens) (root : Expr Single) :
    (parse text = .ok root ↔ InGrammar tokens root ∧ IsColor root) ∧
      (parse text = .ok root → ∀ other depth,
        Derives (.sum other) depth (tokens.map (·.kind)) → other = root) := by
  have parsed : parse text = parseTokens (text.length + 1) tokens := by
    rw [parse, tokenized, Outcome.ok_bind]
  rw [parsed]
  exact ⟨⟨parseTokens_sound, fun ⟨derived, color⟩ => parseTokens_complete derived color⟩,
    fun parses _ _ derived => parseTokens_unique parses derived⟩

def mixedSum : Expr Single :=
  .binary .add
    (.binary .mul (.negate (.swizzle (.input .point) "x")) (.swizzle (.input .normal) "y"))
    (.call .dot [.input .point, .input .normal])

def mixedTokens : List Token :=
  [⟨.symbol '-', 1⟩, ⟨.name "p", 2⟩, ⟨.symbol '.', 3⟩, ⟨.name "x", 4⟩, ⟨.symbol '*', 6⟩,
    ⟨.name "n", 8⟩, ⟨.symbol '.', 9⟩, ⟨.name "y", 10⟩, ⟨.symbol '+', 12⟩, ⟨.name "dot", 14⟩,
    ⟨.symbol '(', 17⟩, ⟨.name "p", 18⟩, ⟨.symbol ',', 19⟩, ⟨.name "n", 21⟩, ⟨.symbol ')', 22⟩]

theorem mixedSum_derives : Derives (.sum mixedSum) 1 (mixedTokens.map (·.kind)) := by
  have input (source : Input) : Derives (.sum (.input source)) 0 [.name source.name] :=
    .product (.signed (.operand (.primary (.input source))))
  have height : Derives (.signed (.swizzle (.input .normal) "y")) 0
      [.name "n", .symbol '.', .name "y"] :=
    .operand (.swizzle "y" (.primary (.input .normal)))
  have turned : Derives (.signed (.negate (.swizzle (.input .point) "x"))) 1
      [.symbol '-', .name "p", .symbol '.', .name "x"] :=
    .negate (.operand (.swizzle "x" (.primary (.input .point))))
  have scaled :=
    Derives.times (List.mem_cons_self : .mul ∈ [BinaryOp.mul, .div]) turned.signed height
  have angle := Derives.call .dot ((input .point).more (input .normal).argument)
  exact .sum (List.mem_cons_self : .add ∈ [BinaryOp.add, .sub]) scaled.product
    (.signed (.operand angle.primary))

theorem mixedSum_parsed :
    tokenize "-p.x * n.y + dot(p, n)".toList = .ok mixedTokens ∧
      parse "-p.x * n.y + dot(p, n)" = .ok mixedSum ∧
      ∀ other depth, Derives (.sum other) depth (mixedTokens.map (·.kind)) → other = mixedSum := by
  have tokenized : tokenize "-p.x * n.y + dot(p, n)".toList = .ok mixedTokens := by rfl
  obtain ⟨accepts, unique⟩ := parse_ok_iff_derives tokenized mixedSum
  have parses := accepts.mpr ⟨⟨1, by decide, mixedSum_derives⟩, .inl rfl⟩
  exact ⟨tokenized, parses, unique parses⟩

end RayScene.Color
