import RayScene.Number.Notation
import RayScene.Shader.Wgsl

namespace RayScene.Wgsl

def Ty.write : Ty → String
  | f32 => "f32"
  | u32 => "u32"
  | bool => "bool"
  | vec2f => "vec2f"
  | vec3f => "vec3f"
  | vec4f => "vec4f"
  | vec2u => "vec2u"
  | vec2i => "vec2i"
  | vec3u => "vec3u"
  | struct name => name
  | texture => "texture_2d<f32>"
  | floats => "array<f32>"

def BinaryOp.write : BinaryOp → String
  | add => "+"
  | sub => "-"
  | mul => "*"
  | div => "/"
  | mod => "%"
  | xor => "^"
  | shiftRight => ">>"
  | lt => "<"
  | gt => ">"
  | le => "<="
  | ge => ">="
  | eq => "=="
  | or => "||"

def AssignOp.write : AssignOp → String
  | set => "="
  | add => "+="
  | mul => "*="

def indentation (depth : Nat) : String := "".pushn ' ' (4 * depth)

mutual

/-- Writes an expression inside a statement at the given depth. -/
def Expr.write (depth : Nat) : Expr Single → String
  | .float value => value.literal
  | .whole value => s!"{value}.0"
  | .unsigned value => s!"{value}u"
  | .signed value => toString value
  | .bool value => toString value
  | .var name => name
  | .member base name => base.write depth ++ "." ++ name
  | .index base position => base.write depth ++ "[" ++ position.write depth ++ "]"
  | .neg operand => "-" ++ operand.write depth
  | .binary op left right => left.write depth ++ " " ++ op.write ++ " " ++ right.write depth
  | .paren inner => "(" ++ inner.write depth ++ ")"
  | .call function args => function ++ "(" ++ ", ".intercalate (writeAll depth args) ++ ")"
  | .tallCall function args =>
    let line := "\n" ++ indentation (depth + 1)
    function ++ "(" ++ line ++ ("," ++ line).intercalate (writeAll depth args) ++
      "\n" ++ indentation depth ++ ")"

def writeAll (depth : Nat) : List (Expr Single) → List String
  | [] => []
  | e :: es => e.write depth :: writeAll depth es

end

mutual

/-- Writes a statement on lines of its own. -/
def Stmt.write (depth : Nat) : Stmt Single → String
  | .bind name value => line depth (s!"let {name} = " ++ value.write depth ++ ";")
  | .declare name value => line depth (s!"var {name} = " ++ value.write depth ++ ";")
  | .declareEmpty name type => line depth (s!"var {name}: " ++ type.write ++ ";")
  | .assign target op value =>
    line depth (target.write depth ++ " " ++ op.write ++ " " ++ value.write depth ++ ";")
  | .ret value => line depth ("return " ++ value.write depth ++ ";")
  | .stop => line depth "return;"
  | .effect call => line depth (call.write depth ++ ";")
  | .leave => line depth "break;"
  | .branch condition yes no =>
    line depth ("if " ++ condition.write depth ++ " \x7b") ++ writeBlock (depth + 1) yes ++
      (if no.isEmpty then "" else line depth "\x7d else \x7b" ++ writeBlock (depth + 1) no) ++
      line depth "\x7d"
  | .count counter bound body =>
    line depth (s!"for (var {counter} = 0u; {counter} < " ++ bound.write depth ++
      s!"; {counter} += 1u) \x7b") ++ writeBlock (depth + 1) body ++ line depth "\x7d"
  | .switch value cases =>
    line depth ("switch " ++ value.write depth ++ " \x7b") ++ writeCases (depth + 1) cases ++
      line (depth + 1) "default: \x7b\x7d" ++ line depth "\x7d"
where
  line (depth : Nat) (text : String) : String := indentation depth ++ text ++ "\n"

def writeBlock (depth : Nat) : List (Stmt Single) → String
  | [] => ""
  | s :: rest => s.write depth ++ writeBlock depth rest

def writeCases (depth : Nat) : List (Nat × List (Stmt Single)) → String
  | [] => ""
  | (label, body) :: rest =>
    indentation depth ++ s!"case {label}u: \x7b\n" ++ writeBlock (depth + 1) body ++
      indentation depth ++ "\x7d\n" ++ writeCases depth rest

end

def Attribute.write : Attribute → String
  | vertex => "@vertex"
  | fragment => "@fragment"
  | compute => "@compute"
  | workgroupSize size => s!"@workgroup_size({size})"
  | location index => s!"@location({index})"
  | builtin name => s!"@builtin({name})"
  | group index => s!"@group({index})"
  | binding index => s!"@binding({index})"

def writeAttributes (attributes : List Attribute) : String :=
  String.join (attributes.map fun a => a.write ++ " ")

def Slot.write (slot : Slot) : String :=
  writeAttributes slot.attributes ++ slot.name ++ ": " ++ slot.type.write

def Function.write (f : Function Single) : String :=
  let attributes := if f.attributes.isEmpty then "" else
    " ".intercalate (f.attributes.map Attribute.write) ++ "\n"
  let result := match f.result with
    | some type => " -> " ++ writeAttributes f.resultAttributes ++ type.write
    | none => ""
  attributes ++ s!"fn {f.name}(" ++ ", ".intercalate (f.parameters.map Slot.write) ++ ")" ++
    result ++ " \x7b\n" ++ writeBlock 1 f.body ++ "\x7d\n"

def AddressSpace.write : AddressSpace → String
  | handle => "var"
  | uniform => "var<uniform>"
  | storage => "var<storage, read_write>"
  | private_ => "var<private>"

def Item.write : Item Single → String
  | comment text => "// " ++ text ++ "\n"
  | constant name type value => s!"const {name}: " ++ type.write ++ " = " ++ value.write 0 ++ ";\n"
  | struct name members =>
    s!"struct {name} \x7b\n" ++
      String.join (members.map fun m => indentation 1 ++ m.write ++ ",\n") ++ "\x7d;\n"
  | global attributes space name type =>
    writeAttributes attributes ++ space.write ++ " " ++ name ++ ": " ++ type.write ++ ";\n"
  | function definition => definition.write

/-- Writes a shader, with a blank line behind every paragraph. -/
def Module.write (m : Module Single) : String :=
  String.join (m.paragraphs.map fun items => String.join (items.map Item.write) ++ "\n")

end RayScene.Wgsl
