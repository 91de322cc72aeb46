import RayScene.Proofs.Color.Calls

/-!
What holds at every step of the parser. A call that returns has taken tokens and left all the
nesting that it entered; every turn of a loop takes tokens. As every way back to a routine enters
nesting, which is limited, so is the number of active calls, however many tokens there are.
-/

namespace RayScene.Color.Calls

namespace Task

def Begins : Task → Prop
  | chain _ | signed | operand | primary | call .. => True
  | operators .. | swizzles _ | arguments .. | closing .. => False

def Gains : Task → Prop
  | operators .. | swizzles _ => True
  | chain _ | signed | operand | primary | call .. | arguments .. | closing .. => False

theorem Begins.not_gains {task : Task} (begins : task.Begins) : ¬ task.Gains := by
  cases task <;> simp_all [Begins, Gains]

end Task

namespace Wait

def routine : Wait → Routine
  | first level | right level .. => level.routine
  | negate | pass => .signed
  | base => .operand
  | group | enclosed => .primary
  | argument .. => .call

def callee : Wait → Routine
  | first level | right level .. => level.operand.routine
  | negate => .signed
  | pass => .operand
  | base => .primary
  | group | argument .. => .sum
  | enclosed => .call

def held : Wait → Nat
  | negate | group | enclosed => 1
  | first _ | right .. | pass | base | argument .. => 0

end Wait

/-- Who calls whom, and how many levels of nesting are entered for it. There is no way back to a
routine that enters none. -/
def links : List (Routine × Routine × Nat) :=
  [(.sum, .product, 0), (.product, .signed, 0), (.signed, .signed, 1), (.signed, .operand, 0),
    (.operand, .primary, 0), (.primary, .sum, 1), (.primary, .call, 1), (.call, .sum, 0)]

theorem Wait.link_mem (wait : Wait) : (wait.routine, wait.callee, wait.held) ∈ links := by
  have chained (level : Precedence) : (level.routine, level.operand.routine, 0) ∈ links := by
    cases level <;> decide
  cases wait with
  | first level | right level => exact chained level
  | _ => simp [links, routine, callee, held]

theorem Precedence.operand_begins (level : Precedence) : level.operand.Begins := by
  cases level <;> trivial

structure Waits (wait : Wait) (call : Call) (routine : Routine) (start : Place) : Prop where
  own : wait.routine = call.routine
  callee : routine = wait.callee
  depth : start.depth = call.start.depth + wait.held
  shallow : start.depth ≤ maxNesting
  ahead : call.start.position ≤ start.position
  marked : ∀ mark ∈ call.marks, mark ≤ start.position

inductive Linked : Routine → Place → List (Wait × Call) → Prop
  | bottom : Linked .sum ⟨0, 0⟩ []
  | call {wait : Wait} {call : Call} {routine : Routine} {start : Place}
      {below : List (Wait × Call)} (waits : Waits wait call routine start)
      (rest : Linked call.routine call.start below) :
      Linked routine start ((wait, call) :: below)

theorem Linked.shallow {routine : Routine} {start : Place} {below : List (Wait × Call)}
    (linked : Linked routine start below) : start.depth ≤ maxNesting := by
  cases linked with
  | bottom => exact Nat.zero_le _
  | call waits => exact waits.shallow

theorem Linked.frame {routine : Routine} {start : Place} {frame : Wait × Call}
    {below : List (Wait × Call)} (linked : Linked routine start (frame :: below)) :
    Waits frame.1 frame.2 routine start ∧ Linked frame.2.routine frame.2.start below := by
  cases linked with
  | call waits rest => exact ⟨waits, rest⟩

/--
A size of the stack is bounded by the depth and by what the routine on top may add to it, if no call
adds more than its routine may, and more only for the levels of nesting that it enters.
-/
theorem Linked.size_le (size : List Routine → Nat) (weight credit : Routine → Nat) (step : Nat)
    (none : size [] = 0)
    (one : ∀ routine others, size (routine :: others) = weight routine + size others)
    (first : weight .sum ≤ credit .sum)
    (rises : ∀ link ∈ links, credit link.1 + weight link.2.1 ≤ credit link.2.1 + step * link.2.2)
    {routine : Routine} {start : Place} {below : List (Wait × Call)}
    (linked : Linked routine start below) :
    size (routine :: below.map (·.2.routine)) ≤ credit routine + step * start.depth := by
  induction linked with
  | bottom => simpa [one, none] using first
  | @call wait call routine start below waits _ ih =>
      have rise : credit call.routine + weight wait.callee ≤
          credit wait.callee + step * wait.held := by
        rw [← waits.own]
        exact rises _ wait.link_mem
      calc
        size (routine :: call.routine :: below.map (·.2.routine)) =
            weight routine + size (call.routine :: below.map (·.2.routine)) := one _ _
        _ ≤ weight routine + (credit call.routine + step * call.start.depth) :=
          Nat.add_le_add_left ih _
        _ ≤ credit routine + (step * wait.held + step * call.start.depth) := by
          rw [waits.callee]
          omega
        _ = credit routine + step * start.depth := by
          rw [waits.depth, ← Nat.mul_add, Nat.add_comm wait.held]

section Sizes

variable {routine : Routine} {start : Place} {below : List (Wait × Call)}
  (linked : Linked routine start below)

include linked

theorem Linked.sums_le :
    (routine :: below.map (·.2.routine)).count .sum ≤ maxNesting + 1 := by
  have bounded := linked.size_le (List.count .sum) (fun r => if r = .sum then 1 else 0)
    (fun r => if r = .call then 0 else 1) 1
    List.count_nil (by simp [List.count_cons, Nat.add_comm]) (by decide) (by decide)
  have most : (if routine = .call then 0 else 1) ≤ 1 := by split <;> decide
  have shallow := linked.shallow
  omega

theorem Linked.signs_le :
    (routine :: below.map (·.2.routine)).count .signed ≤ maxNesting + 1 := by
  have bounded := linked.size_le (List.count .signed) (fun r => if r = .signed then 1 else 0)
    (fun r => if r ∈ [Routine.signed, .operand, .primary] then 1 else 0) 1
    List.count_nil (by simp [List.count_cons, Nat.add_comm]) (by decide) (by decide)
  have most : (if routine ∈ [Routine.signed, .operand, .primary] then 1 else 0) ≤ 1 := by
    split <;> decide
  have shallow := linked.shallow
  omega

/-- The greatest number of calls without another level of nesting, up to one of the routine. -/
def Routine.rank : Routine → Nat
  | call => 1
  | sum => 2
  | product => 3
  | signed => 4
  | operand => 5
  | primary => 6

theorem Linked.length_le : below.length + 1 ≤ 6 * (maxNesting + 1) := by
  have bounded := linked.size_le List.length (fun _ => 1) Routine.rank 6
    List.length_nil (by simp [Nat.add_comm]) (by decide) (by decide)
  have most : routine.rank ≤ 6 := by cases routine <;> decide
  have shallow := linked.shallow
  rw [List.length_cons, List.length_map] at bounded
  omega

end Sizes

section Moves

variable (tokens : List Token)

structure Stands (call : Call) (p : Place) : Prop where
  depth : p.depth = call.start.depth
  within : p.position ≤ tokens.length
  ahead : call.start.position ≤ p.position
  marked : ∀ mark ∈ call.marks, mark ≤ p.position

structure Ready (task : Task) (call : Call) (p : Place) : Prop extends Stands tokens call p where
  own : task.routine = call.routine
  gained : task.Gains → call.start.position < p.position
  fresh : task.Begins → call.marks = []

structure Served (wait : Wait) (call : Call) (p : Place) : Prop where
  own : wait.routine = call.routine
  depth : p.depth = call.start.depth + wait.held
  within : p.position ≤ tokens.length
  gained : call.start.position < p.position
  marked : ∀ mark ∈ call.marks, mark < p.position

/-- A call is about to return. If it succeeds, it has taken tokens and left its nesting. -/
structure Left (outcome : Except ExprError Typed) (call : Call) (p : Place) : Prop where
  within : p.position ≤ tokens.length
  depth : p.depth ≤ maxNesting + 1
  returned : ∀ value, outcome = .ok value →
    call.start.position < p.position ∧ p.depth = call.start.depth

def Fits (call : Call) : Move × Place → Prop
  | (.call callee wait, p) =>
    callee.Begins ∧ p.position ≤ tokens.length ∧ Waits wait call callee.routine p
  | (.again task, p) =>
    (∀ mark ∈ call.marks, mark < p.position) ∧
      Ready tokens task { call with marks := p.position :: call.marks } p
  | (.finish outcome, p) => Left tokens outcome call p

end Moves

section Decisions

variable {textEnd : Nat} {tokens : List Token} {call : Call} {p : Place}

theorem position_lt {token : Token} {i : Nat} (found : tokens[i]? = some token) :
    i < tokens.length := (List.getElem?_eq_some_iff.mp found).1

theorem Stands.skip (stands : Stands tokens call p) (count : Nat)
    (room : p.position + count ≤ tokens.length) : Stands tokens call (p.skip count) where
  depth := stands.depth
  within := room
  ahead := Nat.le_add_right_of_le stands.ahead
  marked mark member := Nat.le_add_right_of_le (stands.marked mark member)

variable (shallow : call.start.depth ≤ maxNesting)

theorem fits_again {task : Task} (later : ¬ task.Begins) (own : task.routine = call.routine)
    (depth : p.depth = call.start.depth) (within : p.position ≤ tokens.length)
    (ahead : call.start.position ≤ p.position)
    (gained : task.Gains → call.start.position < p.position)
    (marked : ∀ mark ∈ call.marks, mark < p.position) : Fits tokens call (.again task, p) := by
  refine ⟨marked, ⟨depth, within, ahead, ?_⟩, own, gained, fun begins => absurd begins later⟩
  intro mark member
  rcases List.mem_cons.mp member with rfl | member
  · exact Nat.le_refl _
  · exact Nat.le_of_lt (marked mark member)

theorem fits_error (e : ExprError) (within : p.position ≤ tokens.length)
    (depth : p.depth ≤ maxNesting + 1) : Fits tokens call (.finish (.error e), p) :=
  ⟨within, depth, fun _ same => by cases same⟩

include shallow

theorem fits_call {callee : Task} {wait : Wait} (stands : Stands tokens call p)
    (begins : callee.Begins) (own : wait.routine = call.routine)
    (called : callee.routine = wait.callee) (none : wait.held = 0) :
    Fits tokens call (.call callee wait, p) := by
  have same : p.depth = call.start.depth + wait.held := by
    rw [none]
    exact stands.depth
  exact ⟨begins, stands.within, own, called, same, stands.depth ▸ shallow, stands.ahead,
    stands.marked⟩

theorem fits_ok (value : Typed) (within : p.position ≤ tokens.length)
    (gained : call.start.position < p.position) (depth : p.depth = call.start.depth) :
    Fits tokens call (.finish (.ok value), p) :=
  ⟨within, by omega, fun _ _ => ⟨gained, depth⟩⟩

theorem Stands.fits_error (stands : Stands tokens call p) (e : ExprError) :
    Fits tokens call (.finish (.error e), p) :=
  Calls.fits_error e stands.within (by have := stands.depth; omega)

theorem fits_nest {callee : Task} {wait : Wait} (stands : Stands tokens call p) (column : Nat)
    (begins : callee.Begins) (own : wait.routine = call.routine)
    (called : callee.routine = wait.callee) (held : wait.held = 1) :
    Fits tokens call (nest column callee wait p) := by
  have entered : p.enter.depth = call.start.depth + 1 := congrArg (· + 1) stands.depth
  unfold nest
  split
  next => exact Calls.fits_error _ stands.within (by omega)
  next room =>
    refine ⟨begins, stands.within, own, called, ?_, by omega, stands.ahead, stands.marked⟩
    rw [entered, held]

omit shallow in
theorem fits_expect (symbol : Char) {behind : Place → Move × Place}
    (within : p.position ≤ tokens.length) (depth : p.depth ≤ maxNesting + 1)
    (fits : p.position < tokens.length → Fits tokens call (behind (p.skip 1))) :
    Fits tokens call (expect textEnd tokens symbol p behind) := by
  unfold expect
  split
  next token here =>
    split
    next => exact fits (position_lt here)
    next => exact fits_error _ (position_lt here) depth
  next => exact fits_error _ within depth

theorem seekOperator_fits {level : Precedence} {left : Typed}
    (ready : Ready tokens (.operators level left) call p) :
    Fits tokens call (seekOperator tokens level left p) := by
  have stop : Fits tokens call (.finish (.ok left), p) :=
    fits_ok shallow left ready.within (ready.gained trivial) ready.depth
  unfold seekOperator
  split
  next token here =>
    split
    next =>
      have taken := ready.skip 1 (position_lt here)
      exact fits_call shallow taken level.operand_begins ready.own rfl rfl
    next => exact stop
  next => exact stop

theorem seekSign_fits (ready : Ready tokens .signed call p) :
    Fits tokens call (seekSign tokens p) := by
  unfold seekSign
  split
  next here =>
    exact fits_nest shallow (ready.skip 1 (position_lt here)) _ trivial ready.own rfl rfl
  next => exact fits_call shallow ready.toStands trivial ready.own rfl rfl

theorem seekSwizzle_fits {base : Typed} (ready : Ready tokens (.swizzles base) call p) :
    Fits tokens call (seekSwizzle textEnd tokens base p) := by
  unfold seekSwizzle
  split
  next here =>
    split
    next behind =>
      have stands := ready.skip 2 (position_lt behind)
      split
      next =>
        refine fits_again id ready.own stands.depth stands.within stands.ahead
          (fun _ => Nat.lt_add_right 2 (ready.gained trivial)) fun mark member => ?_
        exact Nat.lt_of_le_of_lt (ready.marked mark member) (Nat.lt_add_of_pos_right Nat.two_pos)
      next => exact stands.fits_error shallow _
    next behind => exact (ready.skip 2 (position_lt behind)).fits_error shallow _
    next => exact (ready.skip 1 (position_lt here)).fits_error shallow _
  next => exact fits_ok shallow base ready.within (ready.gained trivial) ready.depth

theorem takePrimary_fits (ready : Ready tokens .primary call p) :
    Fits tokens call (takePrimary textEnd tokens p) := by
  have taken {token : Token} (here : tokens[p.position]? = some token) :
      Stands tokens call (p.skip 1) := ready.skip 1 (position_lt here)
  have further : call.start.position < p.position + 1 := Nat.lt_succ_of_le ready.ahead
  unfold takePrimary
  split
  next here => exact fits_ok shallow _ (taken here).within further ready.depth
  next here => exact fits_nest shallow (taken here) _ trivial ready.own rfl rfl
  next name column here =>
    split
    next behind =>
      exact fits_nest shallow (ready.skip 2 (position_lt behind)) _ trivial ready.own
        rfl rfl
    next =>
      cases input name column with
      | ok value => exact fits_ok shallow value (taken here).within further ready.depth
      | error e => exact (taken here).fits_error shallow e
  next here => exact (taken here).fits_error shallow _
  next => exact ready.fits_error shallow _

theorem openCall_fits {name : String} {column : Nat}
    (ready : Ready tokens (.call name column) call p) :
    Fits tokens call (openCall tokens name column p) := by
  have goes {task : Task} (own : task.routine = .call) (later : ¬ task.Begins)
      (none : ¬ task.Gains) : Fits tokens call (.again task, p) := by
    refine fits_again later (own.trans ready.own) ready.depth ready.within ready.ahead
      (fun gains => absurd gains none) fun mark member => ?_
    rw [ready.fresh trivial] at member
    cases member
  unfold openCall
  split
  next => exact ready.fits_error shallow _
  next =>
    split
    next => exact goes rfl id id
    next => exact goes rfl id id

theorem act_fits {task : Task} (ready : Ready tokens task call p) :
    Fits tokens call (act textEnd tokens task p) := by
  cases task with
  | chain level =>
      exact fits_call shallow ready.toStands level.operand_begins ready.own rfl rfl
  | operators level left => exact seekOperator_fits shallow ready
  | signed => exact seekSign_fits shallow ready
  | operand => exact fits_call shallow ready.toStands trivial ready.own rfl rfl
  | swizzles base => exact seekSwizzle_fits shallow ready
  | primary => exact takePrimary_fits shallow ready
  | call name column => exact openCall_fits shallow ready
  | arguments function column read =>
      exact fits_call shallow ready.toStands trivial ready.own rfl rfl
  | closing function column read =>
      have depth := ready.depth
      refine fits_expect ')' ready.within (by omega) fun room => ?_
      have stands := ready.skip 1 room
      cases applied function column read with
      | ok value =>
          exact fits_ok shallow value stands.within (Nat.lt_succ_of_le ready.ahead) ready.depth
      | error e => exact stands.fits_error shallow e

omit shallow in
theorem Waits.served {wait : Wait} {routine : Routine} {start : Place}
    (waits : Waits wait call routine start) (within : p.position ≤ tokens.length)
    (gained : start.position < p.position) (same : p.depth = start.depth) :
    Served tokens wait call p where
  own := waits.own
  depth := same.trans waits.depth
  within := within
  gained := Nat.lt_of_le_of_lt waits.ahead gained
  marked mark member := Nat.lt_of_le_of_lt (waits.marked mark member) gained

omit shallow in
theorem Served.fits_again {wait : Wait} {task : Task} (served : Served tokens wait call p)
    (none : wait.held = 0) (later : ¬ task.Begins) (own : task.routine = wait.routine) :
    Fits tokens call (.again task, p) := by
  have depth := served.depth
  rw [none] at depth
  exact Calls.fits_again later (own.trans served.own) depth served.within
    (Nat.le_of_lt served.gained) (fun _ => served.gained) served.marked

theorem resume_fits {wait : Wait} (served : Served tokens wait call p) (value : Typed) :
    Fits tokens call (resume textEnd tokens wait value p) := by
  have depth := served.depth
  have left : wait.held = 1 → p.leave.depth = call.start.depth := by
    intro held
    simp only [Place.leave]
    omega
  cases wait with
  | first level => exact served.fits_again rfl id rfl
  | right level left op column =>
      simp only [resume, combine]
      split
      next => exact served.fits_again rfl id rfl
      next => exact fits_error _ served.within (by simp only [Wait.held] at depth; omega)
  | negate => exact fits_ok shallow _ served.within served.gained (left rfl)
  | pass => exact fits_ok shallow value served.within served.gained depth
  | base => exact served.fits_again rfl id rfl
  | group =>
      show Fits tokens call (expect textEnd tokens ')' p fun p => (.finish (.ok value), p.leave))
      refine fits_expect ')' served.within (by simp only [Wait.held] at depth; omega) fun room => ?_
      exact fits_ok shallow value room (Nat.lt_succ_of_lt served.gained) (left rfl)
  | enclosed => exact fits_ok shallow value served.within served.gained (left rfl)
  | argument function column read =>
      simp only [resume, seekArgument]
      split
      next here =>
        refine fits_again id served.own depth (position_lt here)
          (Nat.le_of_lt (Nat.lt_succ_of_lt served.gained)) (fun gains => gains.elim) ?_
        exact fun mark member => Nat.lt_succ_of_lt (served.marked mark member)
      next => exact served.fits_again rfl id rfl

end Decisions

structure Stacked (call : Call) (below : List (Wait × Call)) : Prop where
  linked : Linked call.routine call.start below
  falling : ∀ other ∈ call :: below.map (·.2), other.marks.Pairwise (· > ·)

/-- What holds between two steps. -/
def Config.Sound (tokens : List Token) : Config → Prop
  | .active task call p below => Ready tokens task call p ∧ Stacked call below
  | .leaving outcome call p below => Left tokens outcome call p ∧ Stacked call below
  | .done _ p => p.position ≤ tokens.length ∧ p.depth ≤ maxNesting + 1

section Steps

variable {textEnd : Nat} {tokens : List Token}

theorem proceed_sound {call : Call} {below : List (Wait × Call)} (stacked : Stacked call below)
    {move : Move × Place} (fits : Fits tokens call move) :
    (Config.proceed call below move).Sound tokens := by
  obtain ⟨move, p⟩ := move
  cases move with
  | call callee wait =>
      obtain ⟨begins, within, waits⟩ := fits
      refine ⟨⟨⟨rfl, within, Nat.le_refl _, List.forall_mem_nil _⟩, rfl,
        fun gains => absurd gains begins.not_gains, fun _ => rfl⟩, .call waits stacked.linked, ?_⟩
      exact List.forall_mem_cons.mpr ⟨.nil, stacked.falling⟩
  | again task =>
      obtain ⟨marked, ready⟩ := fits
      have ⟨own, others⟩ := List.forall_mem_cons.mp stacked.falling
      exact ⟨ready, stacked.linked, List.forall_mem_cons.mpr ⟨.cons marked own, others⟩⟩
  | finish outcome => exact ⟨fits, stacked⟩

theorem step_sound {c : Config} (sound : c.Sound tokens) :
    (c.step textEnd tokens).Sound tokens := by
  cases c with
  | active task call p below =>
      obtain ⟨ready, stacked⟩ := sound
      exact proceed_sound stacked (act_fits stacked.linked.shallow ready)
  | leaving outcome call p below =>
      obtain ⟨left, linked, falling⟩ := sound
      have ⟨_, others⟩ := List.forall_mem_cons.mp falling
      cases below with
      | nil => cases outcome <;> exact ⟨left.within, left.depth⟩
      | cons frame below =>
          obtain ⟨waits, rest⟩ := linked.frame
          cases outcome with
          | error e => exact ⟨⟨left.within, left.depth, fun _ same => by cases same⟩, rest, others⟩
          | ok value =>
              obtain ⟨gained, depth⟩ := left.returned value rfl
              exact proceed_sound ⟨rest, others⟩
                (resume_fits rest.shallow (waits.served left.within gained depth) value)
  | done outcome p => exact sound

theorem start_sound : Config.start.Sound tokens :=
  ⟨⟨⟨rfl, Nat.zero_le _, Nat.le_refl _, List.forall_mem_nil _⟩, rfl, fun gains => gains.elim,
    fun _ => rfl⟩, .bottom, List.forall_mem_singleton.mpr .nil⟩

theorem run_sound (n : Nat) : ((Config.step textEnd tokens)^[n] Config.start).Sound tokens := by
  induction n with
  | zero => exact start_sound
  | succ n ih =>
      rw [Function.iterate_succ_apply']
      exact step_sound ih

end Steps

/-- What the stack of calls and the loops of the parser are bounded by. -/
structure Bounded (tokens : List Token) (c : Config) : Prop where
  position : c.place.position ≤ tokens.length
  depth : c.place.depth ≤ maxNesting + 1
  returns : ∀ value call p below, c = .leaving (.ok value) call p below →
    call.start.position < p.position ∧ p.depth = call.start.depth
  turns : ∀ call ∈ c.calls, call.marks.Pairwise (· > ·)
  sums : c.routines.count .sum ≤ maxNesting + 1
  signs : c.routines.count .signed ≤ maxNesting + 1
  calls : c.calls.length ≤ 6 * (maxNesting + 1)

theorem Stacked.bounded {call : Call} {below : List (Wait × Call)} (stacked : Stacked call below)
    {c : Config} (calls : c.calls = call :: below.map (·.2)) :
    (∀ call ∈ c.calls, call.marks.Pairwise (· > ·)) ∧ c.routines.count .sum ≤ maxNesting + 1 ∧
      c.routines.count .signed ≤ maxNesting + 1 ∧ c.calls.length ≤ 6 * (maxNesting + 1) := by
  have routines : c.routines = call.routine :: below.map (·.2.routine) := by
    simp [Config.routines, calls]
  rw [routines, calls]
  refine ⟨stacked.falling, stacked.linked.sums_le, stacked.linked.signs_le, ?_⟩
  simpa using stacked.linked.length_le

theorem Config.Sound.bounded {tokens : List Token} {c : Config} (sound : c.Sound tokens) :
    Bounded tokens c := by
  cases c with
  | active task call p below =>
      obtain ⟨ready, stacked⟩ := sound
      obtain ⟨turns, sums, signs, calls⟩ := stacked.bounded (c := .active task call p below) rfl
      have depth : p.depth ≤ maxNesting := ready.depth ▸ stacked.linked.shallow
      exact ⟨ready.within, Nat.le_succ_of_le depth, nofun, turns, sums, signs, calls⟩
  | leaving outcome call p below =>
      obtain ⟨left, stacked⟩ := sound
      obtain ⟨turns, sums, signs, calls⟩ := stacked.bounded (c := .leaving outcome call p below) rfl
      refine ⟨left.within, left.depth, ?_, turns, sums, signs, calls⟩
      rintro value _ _ _ ⟨⟩
      exact left.returned value rfl
  | done outcome p =>
      exact ⟨sound.1, sound.2, nofun, List.forall_mem_nil _, Nat.zero_le _, Nat.zero_le _,
        Nat.zero_le _⟩

end RayScene.Color.Calls
