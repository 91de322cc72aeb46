import RayScene.Proofs.Color.RoundTrip
import RayScene.Proofs.Json.Yields
import RayScene.Proofs.SceneFile.Compiled

namespace RayScene

namespace SceneFile

open Json

theorem decodeColor_parsed {v : Value} {color : SurfaceColor Single}
    (decoded : decodeColor v = .ok color) : color.Parsed := by
  unfold decodeColor at decoded
  split at decoded
  next source =>
    split at decoded
    next parsed same =>
      obtain ⟨root, parses, kept⟩ := Outcome.bind_eq_ok.mp same
      cases kept
      cases decoded
      exact parses
    next => cases decoded
  next =>
    split at decoded
    next =>
      cases decoded
      trivial
    next => cases decoded

theorem color_parsed (levels : Nat) : Yields SurfaceColor.Parsed (color levels) := by
  intro c a d read
  unfold color at read
  split at read
  next e _ => exact ofExcept_yields (fun _ => decodeColor_parsed) e a d read
  next => cases read

def ObjectDraft.Parsed (draft : ObjectDraft) : Prop :=
  ∀ color, draft.color = some color → color.Parsed

theorem objectMember_parsed (levels : Nat) (draft : ObjectDraft) (key : String)
    (parsed : draft.Parsed) : Yields ObjectDraft.Parsed (objectMember levels draft key) := by
  have kept : ∀ other : ObjectDraft, other.color = draft.color → other.Parsed := by
    intro other same color own
    exact parsed color (same ▸ own)
  unfold objectMember
  split
  next =>
    have rest : Yields ObjectDraft.Parsed do
        colon
        return { draft with material := some (← material) } :=
      .last fun _ => .last fun _ => .pure (kept _ rfl)
    split
    next => exact .last fun _ => rest
    next => exact rest
  next =>
    have rest : Yields ObjectDraft.Parsed do
        colon
        return { draft with color := some (← color levels) } := by
      refine .last fun _ => (color_parsed levels).bind fun color parses => .pure ?_
      intro other own
      exact Option.some.inj own ▸ parses
    split
    next => exact .last fun _ => rest
    next => exact rest
  next => exact .last fun _ => .last fun _ => .pure (kept _ rfl)

def ObjectEntry.Parsed (entry : ObjectEntry) : Prop := entry.color.Parsed

theorem object_parsed (levels : Nat) : Yields ObjectEntry.Parsed (object levels) := by
  refine .last fun c => ?_
  split
  next =>
    refine inObject_yields levels fun inner => ?_
    have empty : ObjectDraft.Parsed {} := by
      intro color own
      cases own
    refine (members_yields empty (objectMember_parsed inner)).bind fun draft parsed => ?_
    refine .last fun material => .last fun shape => .pure ?_
    show (draft.color.getD .standard).Parsed
    cases own : draft.color with
    | none => trivial
    | some color => exact parsed color own
  next => exact mistyped_yields _

def Document.Parsed (document : Document) : Prop := ∀ entry ∈ document.objects, entry.Parsed

def DocumentDraft.Parsed (draft : DocumentDraft) : Prop :=
  ∀ objects, draft.objects = some objects → ∀ entry ∈ objects, entry.Parsed

theorem document_parsed (levels : Nat) : Yields Document.Parsed (Record.read document levels) := by
  refine Record.read_yields (D := DocumentDraft.Parsed) levels ?_ ?_ ?_
  · intro inner objects own
    cases own
  · intro inner field member draft parsed
    have kept (other : DocumentDraft) (same : other.objects = draft.objects) : other.Parsed := by
      intro objects own
      exact parsed objects (same ▸ own)
    rcases List.mem_cons.mp member with rfl | member
    · refine (list_yields inner object_parsed).bind fun objects each => .pure ?_
      intro others own
      exact Option.some.inj own ▸ each
    · rcases List.mem_cons.mp member with rfl | member
      · exact .last fun _ => .pure (kept _ rfl)
      · rcases List.mem_cons.mp member with rfl | member
        · exact .last fun _ => .pure (kept _ rfl)
        · obtain rfl := List.mem_singleton.mp member
          exact .last fun _ => .pure (kept _ rfl)
  · intro inner missing draft made parsed finished
    obtain ⟨objects, required, finished⟩ := Outcome.bind_eq_ok.mp finished
    obtain rfl := Except.ok.inj finished
    cases own : draft.objects with
    | none =>
        rw [own] at required
        cases required
    | some listed =>
        rw [own] at required
        cases required
        exact parsed objects own

theorem envelope_parsed (levels : Nat) : Yields Document.Parsed (Record.read envelope levels) := by
  refine Record.read_yields (D := fun draft => ∀ inside, draft = some inside → inside.Parsed)
    levels ?_ ?_ ?_
  · intro inner inside own
    cases own
  · intro inner field member draft _
    obtain rfl := List.mem_singleton.mp member
    refine (document_parsed inner).bind fun inside parsed => .pure ?_
    intro other own
    exact Option.some.inj own ▸ parsed
  · intro inner missing draft made parsed finished
    cases draft with
    | none => cases finished
    | some inside =>
        cases finished
        exact parsed made rfl

theorem readDocument_parsed {text : List UInt8} {inside : Document}
    (read : readDocument text = .ok inside) : inside.Parsed := by
  unfold readDocument readText at read
  dsimp only at read
  split at read
  next same =>
    split at same
    next value d whole =>
      cases same
      cases read
      obtain ⟨a, e, one, rest⟩ := bind_ok.mp whole
      have parsed := envelope_parsed maxLevels _ a e one
      obtain ⟨next, f, -, rest⟩ := bind_ok.mp rest
      cases next with
      | none =>
          cases rest
          exact parsed
      | some c => cases rest
    next => cases same
  next => cases read

theorem checkObjects_colors {first : Nat} {entries : List ObjectEntry}
    {objects : List (SceneObject Single)} (checked : checkObjects first entries = .ok objects) :
    objects.map (·.color) = entries.map (·.color) := by
  induction entries generalizing first objects with
  | nil =>
      obtain rfl := Except.ok.inj checked
      rfl
  | cons entry entries ih =>
      obtain ⟨o, one, checked⟩ := Outcome.bind_eq_ok.mp checked
      obtain ⟨rest, others, checked⟩ := Outcome.bind_eq_ok.mp checked
      obtain rfl := Except.ok.inj checked
      have same : o.color = entry.color := by
        unfold checkObject at one
        split at one
        next => cases one
        next =>
          split at one
          next => cases one
          next =>
            cases one
            rfl
      simp [same, ih others]

theorem compile_parsed {text : String} {scene : Scene Single}
    (compiled : compile text = .ok scene) : ∀ o ∈ scene.objects, o.color.Parsed := by
  obtain ⟨inside, read, checked⟩ := compile_ok compiled
  have colors := checkObjects_colors checked
  intro o member
  have own : o.color ∈ inside.objects.map (·.color) := colors ▸ List.mem_map_of_mem member
  obtain ⟨entry, listed, same⟩ := List.mem_map.mp own
  exact same ▸ readDocument_parsed read entry listed

end SceneFile
end RayScene
