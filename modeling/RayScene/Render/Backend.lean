import RayScene.Render.Frame
import RayScene.Shader.Generate

namespace RayScene.Render

open Shader

structure Program (S : Type) where
  plan : Plan S
  /-- Draws straight to the output instead of tracing and presenting. -/
  realTime : Bool
  deriving Repr

def Program.source (program : Program Single) : String := program.plan.module.write

/-- The uniform values of one draw. -/
structure DrawInputs (S : Type) where
  camera : Camera S
  frame : Frame S

inductive Request (S : Type) where
  | load (program : Program S)
  | allocate (size : Viewport)
  /-- Draws one sample on top of the accumulated sum, into the trace buffer. -/
  | drawSample (inputs : DrawInputs S)
  | accumulate
  | present (inputs : DrawInputs S)
  | drawDirect (inputs : DrawInputs S)
  | resize (size : Viewport)

def Request.name {S : Type} : Request S → String
  | load _ => "load_program"
  | allocate _ => "allocate_accumulation"
  | drawSample _ => "draw_sample"
  | accumulate => "accumulate"
  | present _ => "present"
  | drawDirect _ => "draw_direct"
  | resize _ => "resize"

class Backend (S : Type) (B : Type) where
  perform : Request S → B → Except String Unit × B
  /-- Gives up the accumulation buffer, if there is one. -/
  release : B → B

end RayScene.Render
