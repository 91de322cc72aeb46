import RayScene.Scene.Camera

namespace RayScene.CameraBlock

inductive Field where
  | vector (name : String)
  | scalar (name : String)
  | padding (index : Nat)
  deriving DecidableEq, Repr

def Field.words : Field → Nat
  | vector _ => 4
  | scalar _ | padding _ => 1

def gap (words : Nat) : Nat := (4 - words % 4) % 4

def paddings (first count : Nat) : List Field := (List.range' first count).map .padding

def fieldsFrom (words pads : Nat) : List (String × UniformKind) → List Field
  | [] => paddings pads (gap words)
  | (name, .scalar) :: rest => .scalar name :: fieldsFrom (words + 1) pads rest
  | (name, .vector) :: rest =>
    paddings pads (gap words) ++
      .vector name :: fieldsFrom (words + gap words + 4) (pads + gap words) rest

def fields : List Field := fieldsFrom 0 0 Camera.uniformLayout

def byteSize : Nat := 4 * fields.foldl (fun words field => words + field.words) 0

variable {S : Type} [Scalar S]

/-- The words of a field; a name without a value of its kind leaves zeros. -/
def fieldWords (uniforms : List (String × UniformValue S)) : Field → List S
  | .vector name =>
    match uniforms.lookup name with
    | some (.vector v) => v.toList ++ [Scalar.zero]
    | _ => List.replicate 4 Scalar.zero
  | .scalar name =>
    match uniforms.lookup name with
    | some (.scalar s) => [s]
    | _ => [Scalar.zero]
  | .padding _ => [Scalar.zero]

def filled (camera : Camera S) : List (Field × List S) :=
  fields.map fun field => (field, fieldWords camera.uniforms field)

def words (camera : Camera S) : List S := (filled camera).flatMap (·.2)

end RayScene.CameraBlock
