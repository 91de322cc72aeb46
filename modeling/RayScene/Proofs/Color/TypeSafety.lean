import RayScene.Proofs.Color.Evaluation
import RayScene.Proofs.Number.Finite

/-!
What a parsed expression is made of: every part of it has a width from one to four, and a value of
that width wherever the expression is evaluated; its numbers, functions and swizzles are those of
the grammar.
-/

namespace RayScene.Color

def Expr.children : Expr Single → List (Expr Single)
  | .number _ | .input _ => []
  | .negate operand => [operand]
  | .binary _ left right => [left, right]
  | .call _ arguments => arguments
  | .swizzle base _ => [base]

/-- An expression itself, the parts that it is put together from, the parts of those, and so on. -/
inductive Expr.Part (root : Expr Single) : Expr Single → Prop where
  | self : root.Part root
  | child {e inner : Expr Single} : root.Part e → inner ∈ e.children → root.Part inner

theorem width_of_mem {es : List (Expr Single)} {widths : List Nat}
    (parts : widths? es = some widths) {e : Expr Single} (member : e ∈ es) :
    ∃ width ∈ widths, e.width? = some width := by
  induction es generalizing widths with
  | nil => cases member
  | cons first es ih =>
      rw [widths_cons] at parts
      obtain ⟨width, wide, parts⟩ := Option.bind_eq_some_iff.mp parts
      obtain ⟨others, rest, same⟩ := Option.bind_eq_some_iff.mp parts
      cases same
      rcases List.mem_cons.mp member with rfl | member
      · exact ⟨width, List.mem_cons_self, wide⟩
      · obtain ⟨other, inside, wide⟩ := ih rest member
        exact ⟨other, .tail _ inside, wide⟩

theorem width_of_child {e inner : Expr Single} {width : Nat} (wide : e.width? = some width)
    (member : inner ∈ e.children) : ∃ width, inner.width? = some width := by
  cases e with
  | number value => cases member
  | input source => cases member
  | negate operand =>
      obtain rfl := List.mem_singleton.mp member
      rw [Expr.width?] at wide
      exact ⟨width, wide⟩
  | binary op left right =>
      rw [Expr.width?] at wide
      obtain ⟨_, first, wide⟩ := Option.bind_eq_some_iff.mp wide
      obtain ⟨_, second, _⟩ := Option.bind_eq_some_iff.mp wide
      simp only [Expr.children, List.mem_cons, List.not_mem_nil, or_false] at member
      rcases member with rfl | rfl
      · exact ⟨_, first⟩
      · exact ⟨_, second⟩
  | call function arguments =>
      rw [Expr.width?] at wide
      obtain ⟨_, parts, _⟩ := Option.bind_eq_some_iff.mp wide
      obtain ⟨_, _, wide⟩ := width_of_mem parts member
      exact ⟨_, wide⟩
  | swizzle base components =>
      obtain rfl := List.mem_singleton.mp member
      rw [Expr.width?] at wide
      obtain ⟨_, wide, _⟩ := Option.bind_eq_some_iff.mp wide
      exact ⟨_, wide⟩

theorem numbersOfAll_of_mem {es : List (Expr Single)} {e : Expr Single} (member : e ∈ es) :
    ∀ value ∈ e.numbers, value ∈ numbersOfAll es := by
  induction es with
  | nil => cases member
  | cons first es ih =>
      intro value inside
      rcases List.mem_cons.mp member with rfl | member
      · exact List.mem_append_left _ inside
      · exact List.mem_append_right _ (ih member value inside)

theorem numbers_of_child {e inner : Expr Single} (member : inner ∈ e.children) :
    ∀ value ∈ inner.numbers, value ∈ e.numbers := by
  cases e with
  | number value => cases member
  | input source => cases member
  | negate operand =>
      obtain rfl := List.mem_singleton.mp member
      exact fun _ inside => inside
  | binary op left right =>
      simp only [Expr.children, List.mem_cons, List.not_mem_nil, or_false] at member
      rcases member with rfl | rfl
      · exact fun _ inside => List.mem_append_left _ inside
      · exact fun _ inside => List.mem_append_right _ inside
  | call function arguments => exact numbersOfAll_of_mem member
  | swizzle base components =>
      obtain rfl := List.mem_singleton.mp member
      exact fun _ inside => inside

section Parts

variable {root part : Expr Single}

theorem Expr.Part.width (inside : root.Part part) {width : Nat} (wide : root.width? = some width) :
    ∃ width, part.width? = some width := by
  induction inside with
  | self => exact ⟨width, wide⟩
  | child _ member ih =>
      obtain ⟨_, wide⟩ := ih
      exact width_of_child wide member

theorem Expr.Part.numbers (inside : root.Part part) :
    ∀ value ∈ part.numbers, value ∈ root.numbers := by
  induction inside with
  | self => exact fun _ member => member
  | child _ member ih => exact fun value inner => ih value (numbers_of_child member value inner)

end Parts

def IsWidth (width : Nat) : Prop := 1 ≤ width ∧ width ≤ 4

theorem resultWidth_ok {signature : Signature} {widths : List Nat} {width : Nat}
    (fits : signature.resultWidth widths = .ok width) :
    width ∈ widths ∨ width = 1 ∨ width = 3 ∨ signature = .construct width := by
  cases signature <;> unfold Signature.resultWidth at fits <;> grind

theorem resultWidth_isWidth (function : Builtin) {widths : List Nat}
    (each : ∀ width ∈ widths, IsWidth width) {width : Nat}
    (fits : function.signature.resultWidth widths = .ok width) : IsWidth width := by
  rcases resultWidth_ok fits with member | rfl | rfl | built
  · exact each width member
  · exact ⟨by decide, by decide⟩
  · exact ⟨by decide, by decide⟩
  · cases function <;> cases built <;> exact ⟨by decide, by decide⟩

theorem swizzleWidth_isWidth {letters : List Char} {base width : Nat}
    (valid : swizzleWidth? letters base = some width) : IsWidth width := by
  unfold swizzleWidth? at valid
  simp only [Option.ite_none_right_eq_some, Option.some.injEq] at valid
  obtain ⟨⟨-, some, few, -⟩, rfl⟩ := valid
  exact ⟨List.length_pos_iff.mpr some, few⟩

mutual

theorem width_isWidth : ∀ {e : Expr Single} {width : Nat}, e.width? = some width → IsWidth width
  | .number value, _, wide => by
    cases wide
    exact ⟨by decide, by decide⟩
  | .input source, _, wide => by
    cases wide
    exact ⟨by decide, by decide⟩
  | .negate operand, _, wide => by
    rw [Expr.width?] at wide
    exact width_isWidth wide
  | .binary op left right, width, wide => by
    rw [Expr.width?] at wide
    obtain ⟨a, first, wide⟩ := Option.bind_eq_some_iff.mp wide
    obtain ⟨b, second, common⟩ := Option.bind_eq_some_iff.mp wide
    have either : width = a ∨ width = b := by
      rw [commonWidth?_eq_some_iff] at common
      omega
    rcases either with rfl | rfl
    · exact width_isWidth first
    · exact width_isWidth second
  | .call function arguments, _, wide => by
    rw [Expr.width?] at wide
    obtain ⟨_, parts, fits⟩ := Option.bind_eq_some_iff.mp wide
    exact resultWidth_isWidth function (widths_isWidth parts) (Outcome.toOption_eq_some.mp fits)
  | .swizzle base components, _, wide => by
    rw [Expr.width?] at wide
    obtain ⟨_, _, valid⟩ := Option.bind_eq_some_iff.mp wide
    exact swizzleWidth_isWidth valid

theorem widths_isWidth : ∀ {es : List (Expr Single)} {widths : List Nat},
    widths? es = some widths → ∀ width ∈ widths, IsWidth width
  | [], _, parts => by
    cases parts
    exact fun _ none => by cases none
  | e :: es, _, parts => by
    rw [widths_cons] at parts
    obtain ⟨_, wide, parts⟩ := Option.bind_eq_some_iff.mp parts
    obtain ⟨_, others, same⟩ := Option.bind_eq_some_iff.mp parts
    cases same
    exact List.forall_mem_cons.mpr ⟨width_isWidth wide, widths_isWidth others⟩

end

theorem builtin_listed (function : Builtin) :
    function ∈ Builtin.all ∧ Builtin.ofName? function.name = some function := by
  cases function <;> exact ⟨by decide, rfl⟩

theorem swizzle_letters {letters : List Char} {base width : Nat}
    (valid : swizzleWidth? letters base = some width) :
    IsWidth letters.length ∧ ∃ set ∈ letterSets, ∀ letter ∈ letters, letter ∈ set := by
  have few := swizzleWidth_isWidth valid
  unfold swizzleWidth? at valid
  simp only [Option.ite_none_right_eq_some, Option.some.injEq] at valid
  obtain ⟨⟨-, -, -, named⟩, rfl⟩ := valid
  obtain ⟨set, known, all⟩ := List.any_eq_true.mp named
  exact ⟨few, set, known, fun letter member =>
    List.mem_of_mem_take (List.contains_iff_mem.mp (List.all_eq_true.mp all letter member))⟩

/-- What the grammar promises of a part, whatever it is put together from. -/
def Expr.Lawful : Expr Single → Prop
  | .number value => Scalar.isFinite value = true ∧ Scalar.zero ≤ value
  | .call function _ =>
    function ∈ Builtin.all ∧ Builtin.ofName? function.name = some function
  | .swizzle _ components =>
    IsWidth components.toList.length ∧
      ∃ set ∈ letterSets, ∀ letter ∈ components.toList, letter ∈ set
  | .input _ | .negate _ | .binary .. => True

theorem lawful_of_width {e : Expr Single} {width : Nat} (wide : e.width? = some width)
    (readable : ∀ value ∈ e.numbers, IsReadable value) : e.Lawful := by
  cases e with
  | number value =>
      obtain ⟨magnitude, finite⟩ := readable value List.mem_cons_self
      exact ⟨finite, magnitude.nonneg finite⟩
  | call function arguments => exact builtin_listed function
  | swizzle base components =>
      rw [Expr.width?] at wide
      obtain ⟨_, _, valid⟩ := Option.bind_eq_some_iff.mp wide
      exact swizzle_letters valid
  | input source => trivial
  | negate operand => trivial
  | binary op left right => trivial

/-- Evaluating an expression that was parsed is never stuck, and gives a number or three components;
no part of it is stuck either, and each of them is as the grammar has it. -/
theorem parse_type_safe {C : Type} [Arithmetic C] {text : String} {root : Expr Single}
    (parses : parse text = .ok root) (p n : Vec3 C) :
    (Yields (root.eval p n) 1 ∨ Yields (root.eval p n) 3) ∧
      ∀ part, root.Part part → part.Lawful ∧
        ∃ width, part.width? = some width ∧ IsWidth width ∧ Yields (part.eval p n) width := by
  constructor
  · obtain ⟨read, -, parsed⟩ := Outcome.bind_eq_ok.mp parses
    obtain ⟨-, color⟩ := parseTokens_sound parsed
    exact color.imp (eval_yields p n) (eval_yields p n)
  · intro part inside
    obtain ⟨total, whole⟩ := parse_width parses
    obtain ⟨width, wide⟩ := inside.width whole
    have readable : ∀ value ∈ part.numbers, IsReadable value := fun value member =>
      parse_numbers_readable parses value (inside.numbers value member)
    exact ⟨lawful_of_width wide readable, width, wide, width_isWidth wide, eval_yields p n wide⟩

def spread : Expr Single :=
  .call .vec3f
    [.binary .div (.swizzle (.input .point) "xy") (.number (Single.ofDecimal ⟨false, 2, 0⟩)),
      .call .dot [.swizzle (.input .normal) "bgrr", .swizzle (.input .point) "xyzz"]]

theorem spread_type_safe :
    parse "vec3f(p.xy / 2, dot(n.bgrr, p.xyzz))" = .ok spread ∧
      let p : Vec3 Single := ⟨1.0, 2.0, 3.0⟩
      let n : Vec3 Single := ⟨0.0, 1.0, 0.0⟩
      (Yields (spread.eval p n) 1 ∨ Yields (spread.eval p n) 3) ∧
        ∀ part, spread.Part part → part.Lawful ∧
          ∃ width, part.width? = some width ∧ IsWidth width ∧ Yields (part.eval p n) width := by
  have parses : parse "vec3f(p.xy / 2, dot(n.bgrr, p.xyzz))" = .ok spread := by
    have tokenized : tokenize "vec3f(p.xy / 2, dot(n.bgrr, p.xyzz))".toList =
        .ok [⟨.name "vec3f", 1⟩, ⟨.symbol '(', 6⟩, ⟨.name "p", 7⟩, ⟨.symbol '.', 8⟩,
          ⟨.name "xy", 9⟩, ⟨.symbol '/', 12⟩, ⟨.number (Single.ofDecimal ⟨false, 2, 0⟩), 14⟩,
          ⟨.symbol ',', 15⟩, ⟨.name "dot", 17⟩, ⟨.symbol '(', 20⟩, ⟨.name "n", 21⟩,
          ⟨.symbol '.', 22⟩, ⟨.name "bgrr", 23⟩, ⟨.symbol ',', 27⟩, ⟨.name "p", 29⟩,
          ⟨.symbol '.', 30⟩, ⟨.name "xyzz", 31⟩, ⟨.symbol ')', 35⟩, ⟨.symbol ')', 36⟩] := by
      decide +kernel
    rw [parse, tokenized, Outcome.ok_bind]
    rfl
  exact ⟨parses, parse_type_safe parses _ _⟩

end RayScene.Color
