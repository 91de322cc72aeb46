import RayScene.Proofs.Json.Records
import RayScene.SceneFile.Compile

namespace RayScene.SceneFile

open Json

variable {tail : List UInt8} {levels levels' : Nat} (fits : levels' ≤ levels)

include fits

theorem camera_alike : Record.Alike tail (camera levels) (camera levels') where
  title := rfl
  rejectsUnknown := rfl
  draft := rfl
  finish := rfl
  fields :=
    .cons (.of _ _ _ (vector_follows fits)) <|
    .cons (.of _ _ _ (vector_follows fits)) <|
    .cons (.of _ _ _ (vector_follows fits)) <|
    .cons (.of _ _ _ single_keeps) <|
    .cons (.of _ _ _ single_keeps) <|
    .cons (.of _ _ _ single_keeps) <|
    .cons (.of _ _ _ (optional_follows single_keeps)) .nil

theorem gradient_follows : Follows tail (Aligned tail) (gradient levels) (gradient levels') := by
  refine (tuple_follows fits _ _ fun _ _ fits => vector_follows fits).bind fun colors => ?_
  split
  next => exact pure_keeps _
  next => exact (reject_never _).follows

theorem rendererSettings_alike :
    Record.Alike tail (rendererSettings levels) (rendererSettings levels') where
  title := rfl
  rejectsUnknown := rfl
  draft := rfl
  finish := rfl
  fields :=
    .cons (.of _ _ _ (optional_follows (choice_follows fits _))) <|
    .cons (.of _ _ _ (optional_follows (numberAs_keeps _ _))) <|
    .cons (.of _ _ _ (optional_follows (gradient_follows fits))) .nil

theorem exportOverrides_alike :
    Record.Alike tail (exportOverrides levels) (exportOverrides levels') where
  title := rfl
  rejectsUnknown := rfl
  draft := rfl
  finish := rfl
  fields :=
    .cons (.of _ _ _ (optional_follows (numberAs_keeps _ _))) <|
    .cons (.of _ _ _ (optional_follows (vector_follows fits))) <|
    .cons (.of _ _ _ (optional_follows (vector_follows fits))) .nil

omit fits in
theorem material_keeps : Keeps tail material := by
  refine string_keeps.bind fun tag => ?_
  split
  next => exact pure_keeps _
  next => exact (reject_never _).follows

theorem color_follows : Follows tail (Aligned tail) (color levels) (color levels') := by
  have decoded (v : Value) : Keeps tail (ofExcept (decodeColor v)) := ofExcept_keeps _
  have whole := (value_follows fits).bind decoded
  have same (levels : Nat) (c d : Cursor) (color : SurfaceColor Single) :
      SceneFile.color levels c = .ok color d ↔
        (value levels >>= fun v => ofExcept (decodeColor v)) c = .ok color d := by
    rw [bind_ok]
    unfold SceneFile.color
    cases value levels c with
    | ok v e =>
        constructor
        · intro read
          exact ⟨v, e, rfl, read⟩
        · rintro ⟨v, e, one, read⟩
          cases one
          exact read
    | error failure e => simp
  constructor
  · intro c v d read
    exact whole.shrinks c v d ((same levels' c d v).mp read)
  · intro c c' v d' aligned read inside
    have read := (same levels' c' d' v).mp read
    obtain ⟨d, read, rest⟩ := whole.tracks c c' v d' aligned read inside
    exact ⟨d, (same levels c d v).mpr read, rest⟩

theorem objectMember_follows (draft : ObjectDraft) (key : String) : Follows tail (Aligned tail)
    (objectMember levels draft key) (objectMember levels' draft key) := by
  unfold objectMember
  split
  next =>
    split
    next => exact Never.follows (reject_never _).bind
    next => exact colon_keeps.bind fun _ => material_keeps.bind fun _ => pure_keeps _
  next =>
    split
    next => exact Never.follows (reject_never _).bind
    next => exact colon_keeps.bind fun _ => (color_follows fits).bind fun _ => pure_keeps _
  next => exact colon_keeps.bind fun _ => (value_follows fits).bind fun _ => pure_keeps _

theorem object_follows : Follows tail (Aligned tail) (object levels) (object levels') := by
  refine .valueStart fun ch => ?_
  split
  next =>
    refine Closes.follows (inObject_closes fits fun inner inner' fits => ?_)
    refine (members_follows (objectMember_follows fits) _).bind fun draft => ?_
    refine (ofExcept_keeps _).bind fun material => (ofExcept_keeps _).bind fun shape => ?_
    exact pure_keeps _
  next => exact (mistyped_never _).follows

theorem document_alike : Record.Alike tail (document levels) (document levels') where
  title := rfl
  rejectsUnknown := rfl
  draft := rfl
  finish := rfl
  fields :=
    .cons (.of _ _ _ (list_follows fits fun _ _ fits => object_follows fits)) <|
    .cons (.of _ _ _ (optional_follows (Record.read_closes fits fun _ _ fits =>
      camera_alike fits).follows)) <|
    .cons (.of _ _ _ (optional_follows (Record.read_closes fits fun _ _ fits =>
      rendererSettings_alike fits).follows)) <|
    .cons (.of _ _ _ (optional_follows (Record.read_closes fits fun _ _ fits =>
      exportOverrides_alike fits).follows)) .nil

theorem document_closes : Closes tail (Aligned tail) (Record.read document levels)
    (Record.read document levels') :=
  Record.read_closes fits fun _ _ fits => document_alike fits

end RayScene.SceneFile
