import RayScene.Json.Typed
import RayScene.Scene.Basic

/-!
Shapes in a scene file. A shape is a value with a tag that decides which fields it has; it is
decoded only after all of it has been read, because its tag may come last.
-/

namespace RayScene.SceneFile

open Json

inductive FieldType where
  | number
  | vector
  | tree
  | trees
  deriving DecidableEq, Repr

inductive FieldValue where
  | number (value : Single)
  | vector (value : Vec3 Single)
  | tree (value : Sdf Single)
  | trees (values : List (Sdf Single))
  deriving Repr, Inhabited

structure FieldSpec where
  name : String
  type : FieldType
  default? : Option FieldValue := none
  deriving Repr

structure Variant (α : Type) where
  tag : String
  title : String
  fields : List FieldSpec
  build : List FieldValue → Option α

structure Family (α : Type) where
  title : String
  tagName : String
  rejectsUnknown : Bool
  variants : List (Variant α)

abbrev Decoder (α : Type) := Value → Except Fault α

variable {α : Type}

def decodeNumber : Decoder Single
  | .number n => .ok n.toSingle
  | v => .error (.invalidType v.found "f32")

def decodeVector : Decoder (Vec3 Single)
  | .array items =>
    match items with
    | x :: y :: z :: rest => do
      let v : Vec3 Single := ⟨← decodeNumber x, ← decodeNumber y, ← decodeNumber z⟩
      if rest.isEmpty then return v
      else throw (.invalidLength items.length "3 elements in sequence")
    | _ => do
      let _ ← items.mapM decodeNumber
      throw (.invalidLength items.length vectorType)
  | v => .error (.invalidType v.found vectorType)

def decodeTrees (tree : Decoder (Sdf Single)) : Decoder (List (Sdf Single))
  | .array items => items.mapM tree
  | v => .error (.invalidType v.found "a sequence")

def decodeField (tree : Decoder (Sdf Single)) : FieldType → Decoder FieldValue
  | .number, v => .number <$> decodeNumber v
  | .vector, v => .vector <$> decodeVector v
  | .tree, v => .tree <$> tree v
  | .trees, v => .trees <$> decodeTrees tree v

namespace Family

def variant (family : Family α) : Decoder (Variant α)
  | .string tag =>
    match family.variants.find? (·.tag == tag) with
    | some variant => .ok variant
    | none => .error (.unknownVariant tag (family.variants.map (·.tag)))
  | .number (.natural n) =>
    match family.variants[n]? with
    | some variant => .ok variant
    | none =>
      .error (.invalidValue (.integer n)
        s!"variant index 0 <= i < {family.variants.length}")
  | v => .error (.invalidType v.found "variant identifier")

def taggedVariant (family : Family α) :
    Option (Variant α) → List (String × Value) → Except Fault (Variant α)
  | found, (key, value) :: members =>
    if key = family.tagName then
      match found with
      | some _ => .error (.duplicateField family.tagName)
      | none => do taggedVariant family (some (← family.variant value)) members
    else taggedVariant family found members
  | some variant, [] => .ok variant
  | none, [] => .error (.missingField family.tagName)

def decodeMembers (family : Family α) (variant : Variant α) (tree : Decoder (Sdf Single)) :
    List (String × FieldValue) → List (String × Value) → Except Fault (List (String × FieldValue))
  | decoded, [] => .ok decoded
  | decoded, (key, value) :: members =>
    if key = family.tagName then decodeMembers family variant tree decoded members
    else
      match variant.fields.find? (·.name == key) with
      | none =>
        if family.rejectsUnknown then
          .error (.unknownField key (variant.fields.map (·.name)))
        else decodeMembers family variant tree decoded members
      | some field => do
        if (decoded.lookup key).isSome then throw (.duplicateField key)
        let value ← decodeField tree field.type value
        decodeMembers family variant tree ((key, value) :: decoded) members

def decodeElements (tree : Decoder (Sdf Single)) :
    List FieldSpec → List Value → Except Fault (List (String × FieldValue))
  | field :: fields, value :: values => do
    let value ← decodeField tree field.type value
    return (field.name, value) :: (← decodeElements tree fields values)
  | _, _ => .ok []

def complete (missing : Nat → String → Fault) (decoded : List (String × FieldValue)) :
    Nat → List FieldSpec → Except Fault (List FieldValue)
  | _, [] => .ok []
  | index, field :: fields => do
    match (decoded.lookup field.name).or field.default? with
    | some value => return value :: (← complete missing decoded (index + 1) fields)
    | none => throw (missing index field.name)

def build (variant : Variant α) (values : List FieldValue) : Except Fault α :=
  require (.other "") (variant.build values)

def ofMembers (family : Family α) (tree : Decoder (Sdf Single)) (members : List (String × Value)) :
    Except Fault α := do
  let variant ← family.taggedVariant none members
  let decoded ← family.decodeMembers variant tree [] members
  build variant (← complete (fun _ name => .missingField name) decoded 0 variant.fields)

def ofElements (family : Family α) (tree : Decoder (Sdf Single)) (variant : Variant α)
    (values : List Value) : Except Fault α := do
  let decoded ← decodeElements tree variant.fields values
  let title := s!"struct variant {family.title}::{variant.title} with " ++
    Record.counted variant.fields.length "element"
  let fields ← complete (fun index _ => .invalidLength index title) decoded 0 variant.fields
  if variant.fields.length < values.length then
    throw (.invalidLength values.length
      (Record.counted variant.fields.length "element" ++ " in sequence"))
  build variant fields

def decode (family : Family α) (tree : Decoder (Sdf Single)) : Decoder α
  | .object members => family.ofMembers tree members
  | .array [] => .error (.missingField family.tagName)
  | .array (tag :: values) => do family.ofElements tree (← family.variant tag) values
  | v => .error (.invalidType v.found ("internally tagged enum " ++ family.title))

end Family

def placedPrimitive (kind : Primitive) : List FieldValue → Option (Sdf Single)
  | [.vector position, .number radius] => some (.primitive kind position (Vec3.splat radius))
  | [.vector position, .vector dimensions] => some (.primitive kind position dimensions)
  | _ => none

def optionalPosition : FieldSpec := ⟨"position", .vector, some (.vector Vec3.zero)⟩

def solidVariant (kind : Primitive) (title : String) : Variant (Sdf Single) where
  tag := kind.name
  title := title
  fields := [optionalPosition, ⟨"dimensions", .vector, none⟩]
  build := placedPrimitive kind

def combinedVariant (tag title : String) (combine : List (Sdf Single) → Sdf Single) :
    Variant (Sdf Single) where
  tag := tag
  title := title
  fields := [⟨"children", .trees, none⟩]
  build
    | [.trees children] => some (combine children)
    | _ => none

def movedVariant (tag title argument : String) (move : Vec3 Single → Sdf Single → Sdf Single) :
    Variant (Sdf Single) where
  tag := tag
  title := title
  fields := [⟨argument, .vector, none⟩, ⟨"child", .tree, none⟩]
  build
    | [.vector v, .tree child] => some (move v child)
    | _ => none

def trees : Family (Sdf Single) where
  title := "SdfNodeDef"
  tagName := "op"
  rejectsUnknown := true
  variants := [
    { tag := "sphere", title := "Sphere"
      fields := [optionalPosition, ⟨"radius", .number, none⟩]
      build := placedPrimitive .sphere },
    solidVariant .box "Box",
    solidVariant .torus "Torus",
    solidVariant .cylinder "Cylinder",
    combinedVariant "union" "Union" .union,
    { tag := "smooth-union", title := "SmoothUnion"
      fields := [⟨"k", .number, none⟩, ⟨"children", .trees, none⟩]
      build := fun
        | [.number k, .trees children] => some (.smoothUnion k children)
        | _ => none },
    combinedVariant "intersection" "Intersection" .intersection,
    { tag := "subtraction", title := "Subtraction"
      fields := [⟨"base", .tree, none⟩, ⟨"cut", .tree, none⟩]
      build := fun
        | [.tree base, .tree cut] => some (.subtraction base cut)
        | _ => none },
    movedVariant "translate" "Translate" "offset" .translate,
    movedVariant "rotate" "Rotate" "angles" .rotate,
    movedVariant "repeat" "Repeat" "period" .repeated]

/-- Decodes a tree of at most so many levels, which a text with fewer brackets keeps to. -/
def decodeTree : Nat → Decoder (Sdf Single)
  | 0 => fun _ => .error .tooManyLevels
  | levels + 1 => trees.decode (decodeTree levels)

def requiredPosition : FieldSpec := ⟨"position", .vector, none⟩

def simpleSolid (tag title : String) (kind : Primitive) (size : FieldSpec) :
    Variant (Shape Single) where
  tag := tag
  title := title
  fields := [requiredPosition, size]
  build values := Shape.solid <$> placedPrimitive kind values

def shapes : Family (Shape Single) where
  title := "ShapeDef"
  tagName := "type"
  rejectsUnknown := false
  variants := [
    { tag := "sphere", title := "Sphere"
      fields := [⟨"center", .vector, none⟩, ⟨"radius", .number, none⟩]
      build := fun
        | [.vector center, .number radius] => some (.sphere center radius)
        | _ => none },
    simpleSolid "sdf-sphere" "SdfSphere" .sphere ⟨"radius", .number, none⟩,
    simpleSolid "sdf-box" "SdfBox" .box ⟨"dimensions", .vector, none⟩,
    simpleSolid "sdf-torus" "SdfTorus" .torus ⟨"dimensions", .vector, none⟩,
    simpleSolid "sdf-cylinder" "SdfCylinder" .cylinder ⟨"dimensions", .vector, none⟩,
    { tag := "sdf", title := "Sdf"
      fields := [⟨"geometry", .tree, none⟩]
      build := fun
        | [.tree tree] => some (.solid tree)
        | _ => none }]

def decodeShape (members : List (String × Value)) : Except Fault (Shape Single) :=
  shapes.ofMembers (decodeTree maxLevels) members

end RayScene.SceneFile
