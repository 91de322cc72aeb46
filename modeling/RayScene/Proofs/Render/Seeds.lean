import RayScene.Proofs.Render.History

namespace RayScene.Render

namespace Random

def ahead (random : Random) : Nat → Random
  | 0 => random
  | n + 1 => (random.ahead n).next.2

def output (random : Random) (n : Nat) : UInt64 := (random.ahead n).next.1

variable {S : Type} [Scalar S]

def seedAt (random : Random) (draw : Nat) : S × S :=
  (fraction (random.output (2 * draw)), fraction (random.output (2 * draw + 1)))

theorem pair_ahead (random : Random) (draws : Nat) :
    (random.ahead (2 * draws)).pair =
      (random.seedAt (S := S) draws, random.ahead (2 * (draws + 1))) :=
  rfl

end Random

variable {S B : Type}

def Request.drawing? : Request S → Option (DrawInputs S)
  | drawSample inputs | drawDirect inputs => some inputs
  | _ => none

def Event.drawing? (event : Event S) : Option (DrawInputs S) := event.request?.bind Request.drawing?

namespace Engine

def draws (e : Engine S (History S B)) : List (DrawInputs S) :=
  e.backend.events.filterMap Event.drawing?

theorem draws_noting (inner : B) (event : Event S) (e : Engine S (History S B)) :
    (e.noting inner event).draws = e.draws ++ event.drawing?.toList := by
  simp only [draws, noting, List.filterMap_append]
  cases kind : event.drawing? <;> simp [kind]

/-- The engine with the numbers of one more draw used up; closed, or they would be computed. -/
@[irreducible] def reseeded (seed : UInt64) (e : Engine S (History S B)) : Engine S (History S B) :=
  { e with random := Random.ahead ⟨seed⟩ (2 * (e.draws.length + 1)) }

theorem reseeded_random (seed : UInt64) (e : Engine S (History S B)) :
    (e.reseeded seed).random = Random.ahead ⟨seed⟩ (2 * (e.draws.length + 1)) := by
  rw [reseeded]

theorem reseeded_viewport (seed : UInt64) (e : Engine S (History S B)) :
    (e.reseeded seed).viewport = e.viewport := by
  rw [reseeded]

theorem reseeded_backend (seed : UInt64) (e : Engine S (History S B)) :
    (e.reseeded seed).backend = e.backend := by
  rw [reseeded]

theorem reseeded_draws (seed : UInt64) (e : Engine S (History S B)) :
    (e.reseeded seed).draws = e.draws := by
  rw [draws, reseeded_backend, draws]

variable [Scalar S]

structure Seeded (seed : UInt64) (e : Engine S (History S B)) : Prop where
  random : e.random = Random.ahead ⟨seed⟩ (2 * e.draws.length)
  seeds : e.draws.map (·.frame.seed) = (List.range e.draws.length).map (Random.seedAt ⟨seed⟩)

theorem nextFrame_seeded {seed : UInt64} {e : Engine S (History S B)} (seeded : Seeded seed e)
    (scene : Scene S) :
    e.nextFrame scene =
      (.ofScene scene e.viewport (Random.seedAt ⟨seed⟩ e.draws.length), e.reseeded seed) := by
  rw [nextFrame, seeded.random, Random.pair_ahead, reseeded]

theorem Seeded.noting {seed : UInt64} {e : Engine S (History S B)} (seeded : Seeded seed e)
    (inner : B) (event : Event S) (silent : event.drawing? = none) :
    Seeded seed (e.noting inner event) := by
  have same : (e.noting inner event).draws = e.draws := by
    rw [draws_noting, silent]
    exact List.append_nil _
  refine ⟨?_, ?_⟩
  · rw [same]
    exact seeded.random
  · rw [same]
    exact seeded.seeds

theorem Seeded.drawing {seed : UInt64} {e : Engine S (History S B)} (seeded : Seeded seed e)
    (inner : B) {event : Event S} {inputs : DrawInputs S} (drawn : event.drawing? = some inputs)
    (own : inputs.frame.seed = Random.seedAt ⟨seed⟩ e.draws.length) :
    Seeded seed ((e.reseeded seed).noting inner event) := by
  have draws : ((e.reseeded seed).noting inner event).draws = e.draws ++ [inputs] := by
    rw [draws_noting, reseeded_draws, drawn]
    rfl
  refine ⟨?_, ?_⟩
  · rw [draws, List.length_append, List.length_singleton, noting_random, reseeded_random]
  · rw [draws, List.length_append, List.map_append, seeded.seeds, List.length_singleton,
      List.range_succ, List.map_append]
    simp only [List.map_cons, List.map_nil, own]

end Engine
end RayScene.Render
