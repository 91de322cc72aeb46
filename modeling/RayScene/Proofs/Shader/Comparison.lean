import RayScene.Proofs.Scene.Nearest
import RayScene.Proofs.Shader.Declarations
import RayScene.Proofs.Shader.Execution

namespace RayScene.Shader

open Wgsl

variable {calls : Calls} (globals : String → Option Datum) {p : Vec3 Single}

def tagged (p : Vec3 Single) (o : SceneObject Single) : Datum :=
  .pair (o.shape.distance p) (Single.ofNat o.id.toNat)

structure Answers (calls : Calls) (p : Vec3 Single) (objects : List (SceneObject Single)) :
    Prop where
  field : ∀ o ∈ objects,
    calls (FieldChain.functionName o.id) [.vector p] = some (.number (o.shape.distance p))
  pair : ∀ x y, calls "vec2f" [.number x, .number y] = some (.pair x y)

structure Comparing (p : Vec3 Single) (best : SceneObject Single)
    (remaining : List (SceneObject Single)) (locals : Locals) : Prop where
  point : locals.lookup "p" = some ⟨.vector p, false⟩
  best : locals.lookup "best" = some ⟨tagged p best, true⟩
  fresh : ∀ o ∈ remaining, locals.lookup s!"d{o.id}" = none

theorem distanceName_ne {id : UInt32} {name : String} (initial : name.toList.head? ≠ some 'd') :
    name ≠ s!"d{id}" := by
  rintro rfl
  exact initial (distanceName_initial id)

theorem distanceName_injective {a b : UInt32} (same : s!"d{a}" = s!"d{b}") : a = b :=
  idText_injective ((String.append_right_inj _).mp same)

theorem eval_field {objects : List (SceneObject Single)} (answers : Answers calls p objects)
    {locals : Locals} (point : locals.lookup "p" = some ⟨.vector p, false⟩)
    {o : SceneObject Single} (member : o ∈ objects) :
    (Expr.call (FieldChain.functionName o.id) [.var "p"]).value? calls globals locals =
      some (.number (o.shape.distance p)) := by
  rw [Expr.value?_call (valuesOf?_cons (Expr.value?_var point) rfl)]
  exact answers.field o member

theorem eval_tagged {objects : List (SceneObject Single)} (answers : Answers calls p objects)
    {locals : Locals} {distance : Expr Single} {o : SceneObject Single}
    (evaluated : distance.value? calls globals locals = some (.number (o.shape.distance p))) :
    (Expr.call "vec2f" [distance, .whole o.id.toNat]).value? calls globals locals =
      some (tagged p o) := by
  rw [Expr.value?_call (valuesOf?_cons evaluated (valuesOf?_cons rfl rfl))]
  exact answers.pair _ _

/-- Binding the distance of the next object. -/
theorem Comparing.bind {objects remaining : List (SceneObject Single)}
    {best next : SceneObject Single} (answers : Answers calls p objects) (member : next ∈ objects)
    {locals : Locals} (comparing : Comparing p best (next :: remaining) locals)
    (distinct : ∀ o ∈ remaining, o.id ≠ next.id) :
    (Stmt.bind s!"d{next.id}" (.call (FieldChain.functionName next.id) [.var "p"])).exec? calls
        globals locals =
      some (.onward ((s!"d{next.id}", ⟨.number (next.shape.distance p), false⟩) :: locals)) ∧
    Comparing p best remaining
      ((s!"d{next.id}", ⟨.number (next.shape.distance p), false⟩) :: locals) := by
  have fresh := comparing.fresh next List.mem_cons_self
  constructor
  · simp only [Stmt.exec?, eval_field globals answers comparing.point member, Locals.declare?, fresh]
    rfl
  · refine ⟨?_, ?_, ?_⟩
    · rw [List.lookup_cons, beq_false_of_ne (distanceName_ne (by decide))]
      exact comparing.point
    · rw [List.lookup_cons, beq_false_of_ne (distanceName_ne (by decide))]
      exact comparing.best
    · intro o later
      rw [List.lookup_cons, beq_false_of_ne (mt distanceName_injective (distinct o later))]
      exact comparing.fresh o (List.mem_cons_of_mem next later)

/-- Assigning the next object, where it is closer. -/
theorem Comparing.update {objects remaining : List (SceneObject Single)}
    {best next : SceneObject Single} (answers : Answers calls p objects) {locals : Locals}
    (comparing : Comparing p best remaining locals)
    (bound : locals.lookup s!"d{next.id}" = some ⟨.number (next.shape.distance p), false⟩) :
    ∃ after, Comparing p next remaining after ∧ after.length = locals.length ∧
      (Stmt.assign (.var "best") .set
        (.call "vec2f" [.var s!"d{next.id}", .whole next.id.toNat])).exec? calls globals locals =
        some (.onward after) := by
  obtain ⟨after, assigned, length, updated, kept⟩ :=
    Locals.assign?_of_lookup (tagged p next) comparing.best
  refine ⟨after, ⟨?_, updated, ?_⟩, length, ?_⟩
  · rw [kept "p" (by decide)]
    exact comparing.point
  · intro o later
    rw [kept _ (distanceName_ne (by decide)).symm]
    exact comparing.fresh o later
  · have value := eval_tagged globals answers (Expr.value?_var bound)
    rw [Stmt.exec?, value]
    show (locals.assign? "best" (tagged p next)).bind _ = _
    rw [assigned]
    rfl

theorem closer_exec {objects remaining : List (SceneObject Single)} {best next : SceneObject Single}
    (answers : Answers calls p objects) (member : next ∈ objects) {locals : Locals}
    (comparing : Comparing p best (next :: remaining) locals)
    (distinct : ∀ o ∈ remaining, o.id ≠ next.id) (rest : List (Stmt Single)) :
    ∃ after, Comparing p (closerOf p best next) remaining after ∧
      execBlock? calls globals locals (closer next.id ++ rest) =
        execBlock? calls globals after rest := by
  obtain ⟨bound, inner⟩ := comparing.bind globals answers member distinct
  have named : List.lookup s!"d{next.id}"
      ((s!"d{next.id}", (⟨.number (next.shape.distance p), false⟩ : Local)) :: locals) =
      some ⟨.number (next.shape.distance p), false⟩ := List.lookup_cons_self
  generalize ((s!"d{next.id}", (⟨.number (next.shape.distance p), false⟩ : Local)) :: locals) =
    extended at bound inner named
  have least : (Expr.member (.var "best") "x").value? calls globals extended =
      some (.number (best.shape.distance p)) := by
    rw [Expr.value?, Expr.value?_var inner.best]
    rfl
  have condition : (Expr.lt (.var s!"d{next.id}") (.member (.var "best") "x")).value?
      calls globals extended =
      some (.flag (next.shape.distance p < best.shape.distance p)) := by
    rw [Expr.lt, Expr.value?, Expr.value?_var named, least]
    rfl
  by_cases nearer : next.shape.distance p < best.shape.distance p
  · obtain ⟨after, updated, length, assigned⟩ := inner.update globals answers named
    rw [decide_eq_true nearer] at condition
    refine ⟨after, ?_, ?_⟩
    · rw [closerOf, if_pos nearer]
      exact updated
    · have branch := Stmt.exec?_branch _ [] condition (execBlock?_cons [] assigned) length
      exact (execBlock?_cons _ bound).trans (execBlock?_cons rest branch)
  · rw [decide_eq_false nearer] at condition
    refine ⟨extended, ?_, ?_⟩
    · rw [closerOf, if_neg nearer]
      exact inner
    · have branch := Stmt.exec?_branch
        [.assign (.var "best") .set (.call "vec2f" [.var s!"d{next.id}", .whole next.id.toNat])]
        [] condition rfl rfl
      exact (execBlock?_cons _ bound).trans (execBlock?_cons rest branch)

theorem comparisons_exec {objects remaining : List (SceneObject Single)}
    {best : SceneObject Single} (answers : Answers calls p objects) (members : remaining ⊆ objects)
    (distinct : (remaining.map (·.id)).Nodup) {locals : Locals}
    (comparing : Comparing p best remaining locals) :
    execBlock? calls globals locals
        ((remaining.map (·.id)).flatMap closer ++ [.ret (.var "best")]) =
      some (.returned (tagged p (remaining.foldl (closerOf p) best))) := by
  induction remaining generalizing best locals with
  | nil => exact execBlock?_ret (Expr.value?_var comparing.best)
  | cons next remaining ih =>
      obtain ⟨member, members⟩ := List.cons_subset.mp members
      obtain ⟨apart, distinct⟩ := List.nodup_cons.mp distinct
      have others : ∀ o ∈ remaining, o.id ≠ next.id := by
        intro o later same
        exact apart (List.mem_map.mpr ⟨o, later, same⟩)
      obtain ⟨after, kept, step⟩ := closer_exec globals answers member comparing
        others ((remaining.map (·.id)).flatMap closer ++ [.ret (.var "best")])
      rw [List.map_cons, List.flatMap_cons, List.append_assoc, step]
      exact ih members distinct kept

theorem sceneSdf_run {o : SceneObject Single} {rest : List (SceneObject Single)}
    (answers : Answers calls p (o :: rest)) (distinct : ((o :: rest).map (·.id)).Nodup) :
    (sceneSdf ((o :: rest).map (·.id))).run? calls globals [.vector p] =
      some (tagged p (rest.foldl (closerOf p) o)) := by
  have point : List.lookup "p" [("p", (⟨.vector p, false⟩ : Local))] =
      some ⟨.vector p, false⟩ := rfl
  have value := eval_tagged globals answers
    (eval_field globals answers point List.mem_cons_self)
  have started : (Stmt.declare "best" (.call "vec2f" [.call (FieldChain.functionName o.id)
      [.var "p"], .whole o.id.toNat])).exec? calls globals [("p", ⟨.vector p, false⟩)] =
      some (.onward [("best", ⟨tagged p o, true⟩), ("p", ⟨.vector p, false⟩)]) := by
    rw [Stmt.exec?, value]
    rfl
  have comparing : Comparing p o rest
      [("best", ⟨tagged p o, true⟩), ("p", ⟨.vector p, false⟩)] := by
    refine ⟨rfl, rfl, ?_⟩
    intro other _
    rw [List.lookup_cons, beq_false_of_ne (distanceName_ne (by decide)).symm, List.lookup_cons,
      beq_false_of_ne (distanceName_ne (by decide)).symm]
    rfl
  refine Function.run?_single rfl ?_
  rw [List.map_cons, sceneSdf_body, execBlock?_cons _ started]
  exact comparisons_exec globals answers (List.subset_cons_self o rest) (List.nodup_cons.mp distinct).2
    comparing

theorem gridDistance_run {x y : Single}
    (field : calls "scene_sdf" [.vector p] = some (.pair x y)) :
    (gridDistance true).run? calls globals [.vector p] = some (.number x) := by
  have point : List.lookup "p" [("p", (⟨.vector p, false⟩ : Local))] =
      some ⟨.vector p, false⟩ := rfl
  have call : (Expr.call "scene_sdf" [.var "p"]).value? calls globals
      [("p", ⟨.vector p, false⟩)] = some (.pair x y) := by
    rw [Expr.value?_call (valuesOf?_cons (Expr.value?_var point) rfl)]
    exact field
  have value : (Expr.member (.call "scene_sdf" [.var "p"]) "x").value? calls globals
      [("p", ⟨.vector p, false⟩)] = some (.number x) := by
    rw [Expr.value?, call]
    rfl
  exact Function.run?_single rfl (execBlock?_ret value)

theorem gridDistance_run_empty {value : Datum} (constant : globals "MAX_DISTANCE" = some value) :
    (gridDistance false).run? calls globals [.vector p] = some value := by
  have result : (Expr.var "MAX_DISTANCE").value? calls globals
      [("p", ⟨.vector p, false⟩)] = some value := by
    rw [Expr.value?, constant]
    rfl
  exact Function.run?_single rfl (execBlock?_ret result)

end RayScene.Shader
