namespace RayScene

inductive Material where
  | lambert
  | fuzzyMetal
  | shinyMetal
  | glass
  | light
  deriving DecidableEq, Repr, Inhabited

namespace Material

def all : List Material := [lambert, fuzzyMetal, shinyMetal, glass, light]

def words : Material → List String
  | lambert => ["lambert"]
  | fuzzyMetal => ["fuzzy", "metal"]
  | shinyMetal => ["shiny", "metal"]
  | glass => ["glass"]
  | light => ["light"]

def tag (m : Material) : String := "-".intercalate m.words

def isEmissive (m : Material) : Bool := m = light

/-- A tag without its word breaks and in small letters, so that all its spellings are one. -/
def normalize (tag : String) : String :=
  String.ofList ((tag.toList.filter (· ∉ ['-', '_', ' '])).map Char.toLower)

def ofTag? (tag : String) : Option Material :=
  all.find? fun m => String.join m.words = normalize tag

def unknownMessage (tag : String) : String :=
  s!"unknown material variant `{tag}` (expected one of " ++
    ", ".intercalate (all.map Material.tag) ++ ")"

end Material
end RayScene
