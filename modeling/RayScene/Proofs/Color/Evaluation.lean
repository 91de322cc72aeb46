import RayScene.Geometry.Vec3
import RayScene.Proofs.SceneFile.Colors

/-!
The value of an expression at a point of a surface, whatever its components are made of. The
evaluator knows nothing of the table of widths: every operation looks at the values that it is given
and is stuck if it cannot use them. An expression that was parsed is never stuck.
-/

namespace RayScene.Color

inductive Stuck where
  | arity (function : Builtin) (found : Nat)
  /-- Values of these widths do not go together, or with what is done to them. -/
  | widths (found : List Nat)
  | component (index width : Nat)
  | letter (letter : Char)
  deriving DecidableEq, Repr

/-- What can be done with single components. -/
class Arithmetic (C : Type) where
  number : Single → C
  negate : C → C
  binary : BinaryOp → C → C → C
  /-- A function that works on components one by one, at one of each argument. -/
  apply : Builtin → List C → C

instance : Arithmetic Single where
  number value := value
  negate x := -x
  binary op x y :=
    match op with
    | .add => x + y
    | .sub => x - y
    | .mul => x * y
    | .div => x / y
  apply
    | .abs, [x] => Scalar.abs x
    | .ceil, [x] => -Scalar.floor (-x)
    | .clamp, [x, low, high] => Scalar.min (Scalar.max x low) high
    | .cos, [x] => Scalar.cos x
    | .exp, [x] => x.exp
    | .floor, [x] => Scalar.floor x
    | .fract, [x] => x - Scalar.floor x
    | .max, [x, y] => Scalar.max x y
    | .min, [x, y] => Scalar.min x y
    | .mix, [x, y, factor] => x * (1.0 - factor) + y * factor
    | .pow, [x, y] => x.pow y
    | .sign, [x] => if Scalar.zero < x then 1.0 else if x < Scalar.zero then -1.0 else x
    | .sin, [x] => Scalar.sin x
    | .smoothstep, [low, high, x] =>
      let part := Scalar.clamp ((x - low) / (high - low)) 0.0 1.0
      part * part * (3.0 - 2.0 * part)
    | .sqrt, [x] => Scalar.sqrt x
    | .step, [edge, x] => if edge ≤ x then 1.0 else 0.0
    | .tan, [x] => Scalar.tan x
    | _, _ => Scalar.zero

abbrev Evaluated := Except Stuck

variable {C : Type}

/-- There is a value, of so many components. -/
def Yields (outcome : Evaluated (List C)) (width : Nat) : Prop :=
  ∃ value, outcome = .ok value ∧ value.length = width

theorem yields_ok (value : List C) : Yields (.ok value) value.length := ⟨value, rfl, rfl⟩

namespace Arithmetic

def component (value : List C) (index : Nat) : Evaluated C :=
  match value[index]? with
  | some c => .ok c
  | none => .error (.component index value.length)

def letterIndex? (letter : Char) : Option Nat := letterSets.findSome? (·.idxOf? letter)

def select (value : List C) (letters : List Char) : Evaluated (List C) :=
  if value.length < 2 then .error (.widths [value.length])
  else
    letters.mapM fun letter =>
      match letterIndex? letter with
      | some index => component value index
      | none => .error (.letter letter)

theorem component_ok {value : List C} {index : Nat} (inside : index < value.length) :
    ∃ c, component value index = .ok c := by
  unfold component
  rw [List.getElem?_eq_getElem inside]
  exact ⟨_, rfl⟩

theorem letterIndex?_of_mem {letters : List Char} (known : letters ∈ letterSets) {width : Nat}
    {letter : Char} (names : letter ∈ letters.take width) :
    ∃ index < width, letterIndex? letter = some index := by
  have table : ∀ letters ∈ letterSets, ∀ index : Fin letters.length,
      letterIndex? (letters.get index) = some index.val := by decide
  obtain ⟨index, inside, rfl⟩ := List.mem_take_iff_getElem.mp names
  exact ⟨index, by omega, table letters known ⟨index, by omega⟩⟩

theorem select_yields {value : List C} {letters : List Char} {width : Nat}
    (valid : swizzleWidth? letters value.length = some width) :
    Yields (select value letters) width := by
  unfold swizzleWidth? at valid
  simp only [Option.ite_none_right_eq_some, Option.some.injEq] at valid
  obtain ⟨⟨vector, -, -, named⟩, rfl⟩ := valid
  obtain ⟨set, known, all⟩ := List.any_eq_true.mp named
  unfold select
  rw [if_neg (by omega)]
  refine Outcome.mapM_ok fun letter member => ?_
  obtain ⟨index, inside, found⟩ := letterIndex?_of_mem known
    (List.contains_iff_mem.mp (List.all_eq_true.mp all letter member))
  rw [found]
  exact component_ok inside

def one (function : Builtin) (use : List C → Evaluated (List C)) :
    List (List C) → Evaluated (List C)
  | [a] => use a
  | arguments => .error (.arity function arguments.length)

def two (function : Builtin) (use : List C → List C → Evaluated (List C)) :
    List (List C) → Evaluated (List C)
  | [a, b] => use a b
  | arguments => .error (.arity function arguments.length)

def construct (function : Builtin) (width : Nat) : List (List C) → Evaluated (List C)
  | [] => .error (.arity function 0)
  | [[x]] => .ok (List.replicate width x)
  | arguments =>
    if arguments.flatten.length = width then .ok arguments.flatten
    else .error (.widths (arguments.map List.length))

variable {arguments : List (List C)} {width : Nat}

theorem construct_yields (function : Builtin) {size : Nat}
    (fits : (Signature.construct size).resultWidth (arguments.map List.length) = .ok width) :
    Yields (construct function size arguments) width := by
  unfold construct
  split
  next => exact absurd fits (resultWidth_nil _ _)
  next x =>
    obtain rfl : size = width := Except.ok.inj fits
    exact ⟨_, rfl, List.length_replicate⟩
  next some not_single =>
    have other : arguments.map List.length ≠ [1] := by
      intro same
      obtain ⟨a, rfl, single⟩ := List.map_eq_singleton_iff.mp same
      obtain ⟨x, rfl⟩ := List.length_eq_one_iff.mp single
      exact not_single x rfl
    have total : arguments.flatten.length = (arguments.map List.length).foldl (· + ·) 0 := by
      rw [List.length_flatten, List.sum_eq_foldl_nat]
    obtain ⟨a, rest, rfl⟩ := List.exists_cons_of_ne_nil some
    rw [List.map_cons] at fits other total
    unfold Signature.resultWidth at fits
    dsimp only at fits
    split at fits
    next adds =>
      cases fits
      have exactly := total.trans (adds.resolve_left other)
      rw [if_pos exactly]
      exact ⟨_, rfl, exactly⟩
    next => cases fits

structure Matching (count : Nat) (arguments : List (List C)) (width : Nat) : Prop where
  some : arguments ≠ []
  count : arguments.length = count
  width : ∀ a ∈ arguments, a.length = width

theorem matching_of_uniform {count : Nat}
    (fits : (Signature.uniform count).resultWidth (arguments.map List.length) = .ok width) :
    Matching count arguments width := by
  unfold Signature.resultWidth at fits
  dsimp only at fits
  split at fits
  next => cases fits
  next enough =>
    cases arguments with
    | nil => cases fits
    | cons a rest =>
        rw [List.map_cons] at fits
        dsimp only at fits
        split at fits
        next same =>
          cases fits
          refine ⟨List.cons_ne_nil _ _, by simpa using enough, ?_⟩
          rw [List.forall_mem_cons]
          simpa using same
        next => cases fits

theorem matching_of_componentwise
    (fits : Signature.componentwise.resultWidth (arguments.map List.length) = .ok width) :
    Matching 1 arguments width := by
  apply matching_of_uniform
  rcases arguments with _ | ⟨a, _ | ⟨b, rest⟩⟩
  · cases fits
  · exact fits
  · cases fits

theorem vector_of_measure
    (fits : Signature.measure.resultWidth (arguments.map List.length) = .ok width) :
    ∃ a, arguments = [a] ∧ 2 ≤ a.length ∧ width = 1 := by
  rcases arguments with _ | ⟨a, _ | ⟨b, rest⟩⟩
  case cons.nil =>
    simp only [List.map_cons, List.map_nil, Signature.resultWidth] at fits
    split at fits
    next => cases fits
    next vector =>
      cases fits
      exact ⟨a, rfl, Nat.not_lt.mp vector, rfl⟩
  all_goals cases fits

theorem vector_of_vectorwise
    (fits : Signature.vectorwise.resultWidth (arguments.map List.length) = .ok width) :
    ∃ a, arguments = [a] ∧ 2 ≤ a.length ∧ width = a.length := by
  rcases arguments with _ | ⟨a, _ | ⟨b, rest⟩⟩
  case cons.nil =>
    simp only [List.map_cons, List.map_nil, Signature.resultWidth] at fits
    split at fits
    next => cases fits
    next vector =>
      cases fits
      exact ⟨a, rfl, Nat.not_lt.mp vector, rfl⟩
  all_goals cases fits

theorem vectors_of_reduce
    (fits : Signature.reduce.resultWidth (arguments.map List.length) = .ok width) :
    ∃ a b, arguments = [a, b] ∧ a.length = b.length ∧ 2 ≤ a.length ∧ width = 1 := by
  rcases arguments with _ | ⟨a, _ | ⟨b, _ | ⟨c, rest⟩⟩⟩
  case cons.cons.nil =>
    simp only [List.map_cons, List.map_nil, Signature.resultWidth] at fits
    split at fits
    next => cases fits
    next same =>
      split at fits
      next => cases fits
      next vector =>
        cases fits
        exact ⟨a, b, rfl, not_not.mp same, Nat.not_lt.mp vector, rfl⟩
  all_goals cases fits

theorem vectors_of_cross
    (fits : Signature.cross.resultWidth (arguments.map List.length) = .ok width) :
    ∃ a b, arguments = [a, b] ∧ a.length = 3 ∧ b.length = 3 ∧ width = 3 := by
  rcases arguments with _ | ⟨a, _ | ⟨b, _ | ⟨c, rest⟩⟩⟩
  case cons.cons.nil =>
    simp only [List.map_cons, List.map_nil, Signature.resultWidth] at fits
    split at fits
    next spatial =>
      cases fits
      exact ⟨a, b, rfl, spatial.1, spatial.2, rfl⟩
    next => cases fits
  all_goals cases fits

section Operations

variable [Arithmetic C]

def combine (op : BinaryOp) : List C → List C → Evaluated (List C)
  | [x], b => .ok (b.map (binary op x))
  | a, [y] => .ok (a.map (binary op · y))
  | a, b =>
    if a.length = b.length then .ok (List.zipWith (binary op) a b)
    else .error (.widths [a.length, b.length])

theorem combine_yields (op : BinaryOp) {a b : List C}
    (common : commonWidth? a.length b.length = some width) :
    Yields (combine op a b) width := by
  rw [commonWidth?_eq_some_iff] at common
  unfold combine
  split
  next x b =>
    refine ⟨_, rfl, ?_⟩
    rw [List.length_map]
    rw [List.length_singleton] at common
    omega
  next a y _ =>
    refine ⟨_, rfl, ?_⟩
    rw [List.length_map]
    rw [List.length_singleton] at common
    omega
  next not_left not_right =>
    have left : a.length ≠ 1 := by
      intro single
      obtain ⟨x, same⟩ := List.length_eq_one_iff.mp single
      exact not_left x same
    have right : b.length ≠ 1 := by
      intro single
      obtain ⟨y, same⟩ := List.length_eq_one_iff.mp single
      exact not_right y same
    obtain ⟨same, rfl⟩ : a.length = b.length ∧ width = a.length := by omega
    rw [if_pos same]
    exact ⟨_, rfl, by rw [List.length_zipWith, ← same, Nat.min_self]⟩

def each (function : Builtin) (count : Nat) : List (List C) → Evaluated (List C)
  | [] => .error (.arity function 0)
  | a :: rest =>
    if (a :: rest).length ≠ count then .error (.arity function (rest.length + 1))
    else if rest.all (·.length = a.length) then
      (List.range a.length).mapM fun index => do
        return apply function (← (a :: rest).mapM (component · index))
    else .error (.widths ((a :: rest).map List.length))

theorem each_yields (function : Builtin) {count : Nat} (matching : Matching count arguments width) :
    Yields (each function count arguments) width := by
  obtain ⟨a, rest, rfl⟩ := List.exists_cons_of_ne_nil matching.some
  obtain ⟨rfl, others⟩ := List.forall_mem_cons.mp matching.width
  have all : rest.all (·.length = a.length) = true := by simpa using others
  have column (index : Nat) (inside : index < a.length) :
      ∃ c, (do return apply function (← (a :: rest).mapM (component · index)) : Evaluated C) =
        .ok c := by
    have present (b : List C) (member : b ∈ a :: rest) : ∃ c, component b index = .ok c :=
      component_ok (by rwa [matching.width b member])
    obtain ⟨taken, found, -⟩ := Outcome.mapM_ok present
    rw [found]
    exact ⟨_, rfl⟩
  unfold each
  dsimp only
  rw [if_neg (not_not.mpr matching.count), if_pos all]
  have columns := Outcome.mapM_ok fun index member => column index (List.mem_range.mp member)
  rw [List.length_range] at columns
  exact columns

def blend (a b factor : List C) : Evaluated (List C) :=
  match factor with
  | [x] => each .mix 3 [a, b, List.replicate a.length x]
  | _ => each .mix 3 [a, b, factor]

theorem blend_yields {a b factor : List C}
    (fits : Signature.blend.resultWidth [a.length, b.length, factor.length] = .ok width) :
    Yields (blend a b factor) width := by
  unfold Signature.resultWidth at fits
  dsimp only at fits
  split at fits
  next => cases fits
  next same =>
    split at fits
    next => cases fits
    next scaled =>
      cases fits
      unfold blend
      split
      next x =>
        refine each_yields .mix ⟨List.cons_ne_nil _ _, rfl, ?_⟩
        simpa using (not_not.mp same).symm
      next not_single =>
        refine each_yields .mix ⟨List.cons_ne_nil _ _, rfl, ?_⟩
        have other : factor.length ≠ 1 := by
          intro single
          obtain ⟨x, same⟩ := List.length_eq_one_iff.mp single
          exact not_single x same
        have matching : factor.length = a.length := by tauto
        simpa using ⟨(not_not.mp same).symm, matching⟩

def inner (a b : List C) : C :=
  match List.zipWith (binary .mul) a b with
  | [] => number Scalar.zero
  | c :: rest => rest.foldl (binary .add) c

def norm (a : List C) : C := apply .sqrt [inner a a]

def cross : List C → List C → Evaluated (List C)
  | [a, b, c], [x, y, z] =>
    let area (p q r s : C) : C := binary .sub (binary .mul p s) (binary .mul r q)
    .ok [area b c y z, area c a z x, area a b x y]
  | a, b => .error (.widths [a.length, b.length])

def invoke (function : Builtin) : List (List C) → Evaluated (List C) :=
  match function with
  | .abs | .ceil | .cos | .exp | .floor | .fract | .sign | .sin | .sqrt | .tan => each function 1
  | .max | .min | .pow | .step => each function 2
  | .clamp | .smoothstep => each function 3
  | .length => one function fun a => .ok [norm a]
  | .normalize => one function fun a =>
    if a.length < 2 then .error (.widths [a.length])
    else .ok (a.map (binary .div · (norm a)))
  | .distance => two function fun a b =>
    if a.length ≠ b.length then .error (.widths [a.length, b.length])
    else .ok [norm (List.zipWith (binary .sub) a b)]
  | .dot => two function fun a b =>
    if a.length ≠ b.length ∨ a.length < 2 then .error (.widths [a.length, b.length])
    else .ok [inner a b]
  | .cross => two function cross
  | .mix => fun
    | [a, b, factor] => blend a b factor
    | arguments => .error (.arity function arguments.length)
  | .vec2f => construct function 2
  | .vec3f => construct function 3

theorem invoke_yields (function : Builtin)
    (fits : function.signature.resultWidth (arguments.map List.length) = .ok width) :
    Yields (invoke function arguments) width := by
  cases function with
  | abs | ceil | cos | exp | floor | fract | sign | sin | sqrt | tan =>
      exact each_yields _ (matching_of_componentwise fits)
  | max | min | pow | step => exact each_yields _ (matching_of_uniform fits)
  | clamp | smoothstep => exact each_yields _ (matching_of_uniform fits)
  | vec2f | vec3f => exact construct_yields _ fits
  | length =>
      obtain ⟨a, rfl, -, rfl⟩ := vector_of_measure fits
      exact yields_ok [norm a]
  | normalize =>
      obtain ⟨a, rfl, vector, rfl⟩ := vector_of_vectorwise fits
      show Yields (if a.length < 2 then _ else _) _
      rw [if_neg (Nat.not_lt.mpr vector)]
      exact ⟨_, rfl, List.length_map _⟩
  | distance =>
      obtain ⟨a, b, rfl, same, -, rfl⟩ := vectors_of_reduce fits
      show Yields (if a.length ≠ b.length then _ else _) _
      rw [if_neg (not_not.mpr same)]
      exact yields_ok [_]
  | dot =>
      obtain ⟨a, b, rfl, same, vector, rfl⟩ := vectors_of_reduce fits
      show Yields (if a.length ≠ b.length ∨ a.length < 2 then _ else _) _
      rw [if_neg (by omega)]
      exact yields_ok [_]
  | cross =>
      obtain ⟨a, b, rfl, three, three', rfl⟩ := vectors_of_cross fits
      obtain ⟨_, _, _, rfl⟩ := List.length_eq_three.mp three
      obtain ⟨_, _, _, rfl⟩ := List.length_eq_three.mp three'
      exact yields_ok [_, _, _]
  | mix =>
      rcases arguments with _ | ⟨a, _ | ⟨b, _ | ⟨factor, _ | ⟨d, rest⟩⟩⟩⟩
      case cons.cons.cons.nil => exact blend_yields fits
      all_goals cases fits

end Operations

end Arithmetic

variable [Arithmetic C]

def Input.of (source : Input) (p n : Vec3 C) : List C :=
  match source with
  | .point => p.toList
  | .normal => n.toList

mutual

/-- The value at the point `p` of a surface with the normal `n`. -/
def Expr.eval (p n : Vec3 C) : Expr Single → Evaluated (List C)
  | .number value => .ok [Arithmetic.number value]
  | .input source => .ok (source.of p n)
  | .negate operand => do return (← operand.eval p n).map Arithmetic.negate
  | .binary op left right => do Arithmetic.combine op (← left.eval p n) (← right.eval p n)
  | .call function arguments => do Arithmetic.invoke function (← evalAll p n arguments)
  | .swizzle base components => do Arithmetic.select (← base.eval p n) components.toList

def evalAll (p n : Vec3 C) : List (Expr Single) → Evaluated (List (List C))
  | [] => .ok []
  | e :: es => do return (← e.eval p n) :: (← evalAll p n es)

end

-- Induction on the expression and its width: every operation finds the widths that the table has
-- been asked about.
mutual

theorem eval_yields (p n : Vec3 C) : ∀ {e : Expr Single} {width : Nat}, e.width? = some width →
    Yields (e.eval p n) width
  | .number value, _, wide => by
    cases wide
    exact yields_ok [_]
  | .input source, _, wide => by
    cases wide
    exact ⟨_, rfl, by cases source <;> rfl⟩
  | .negate operand, _, wide => by
    rw [Expr.width?] at wide
    obtain ⟨value, found, length⟩ := eval_yields p n wide
    rw [Expr.eval, found, Outcome.ok_bind]
    exact ⟨_, rfl, (List.length_map _).trans length⟩
  | .binary op left right, _, wide => by
    rw [Expr.width?] at wide
    obtain ⟨_, first, wide⟩ := Option.bind_eq_some_iff.mp wide
    obtain ⟨_, second, common⟩ := Option.bind_eq_some_iff.mp wide
    obtain ⟨a, found, rfl⟩ := eval_yields p n first
    obtain ⟨b, found', rfl⟩ := eval_yields p n second
    rw [Expr.eval, found, Outcome.ok_bind, found', Outcome.ok_bind]
    exact Arithmetic.combine_yields op common
  | .call function arguments, _, wide => by
    rw [Expr.width?] at wide
    obtain ⟨_, parts, fits⟩ := Option.bind_eq_some_iff.mp wide
    obtain ⟨values, found, rfl⟩ := evalAll_yields p n parts
    rw [Expr.eval, found, Outcome.ok_bind]
    exact Arithmetic.invoke_yields function (Outcome.toOption_eq_some.mp fits)
  | .swizzle base components, _, wide => by
    rw [Expr.width?] at wide
    obtain ⟨_, inner, valid⟩ := Option.bind_eq_some_iff.mp wide
    obtain ⟨value, found, rfl⟩ := eval_yields p n inner
    rw [Expr.eval, found, Outcome.ok_bind]
    exact Arithmetic.select_yields valid

theorem evalAll_yields (p n : Vec3 C) : ∀ {es : List (Expr Single)} {widths : List Nat},
    widths? es = some widths →
    ∃ values, evalAll p n es = .ok values ∧ values.map List.length = widths
  | [], _, parts => by
    cases parts
    exact ⟨[], rfl, rfl⟩
  | e :: es, _, parts => by
    rw [widths_cons] at parts
    obtain ⟨_, wide, parts⟩ := Option.bind_eq_some_iff.mp parts
    obtain ⟨_, others, same⟩ := Option.bind_eq_some_iff.mp parts
    cases same
    obtain ⟨value, found, rfl⟩ := eval_yields p n wide
    obtain ⟨values, found', rfl⟩ := evalAll_yields p n others
    rw [evalAll, found, Outcome.ok_bind, found', Outcome.ok_bind]
    exact ⟨_, rfl, rfl⟩

end

end RayScene.Color
