import RayScene.Render.Backend

namespace RayScene.Render

inductive Recorder.Entry (S : Type) where
  | request (request : Request S)
  | release

structure Recorder.Refusal where
  name : String
  times : Nat
  deriving DecidableEq, Repr

structure Recorder (S : Type) where
  entries : List (Recorder.Entry S)
  refusals : List Recorder.Refusal
  maxExtent : Option UInt32

namespace Recorder

variable {S : Type}

def new : Recorder S := ⟨[], [], none⟩

def refuse (r : Recorder S) (name : String) (times : Nat) : Recorder S :=
  { r with refusals := r.refusals ++ [⟨name, times⟩] }

def useRefusal? (name : String) : List Refusal → Option (List Refusal)
  | [] => none
  | refusal :: rest =>
    if refusal.name = name ∧ 0 < refusal.times then
      some ({ refusal with times := refusal.times - 1 } :: rest)
    else (useRefusal? name rest).map (refusal :: ·)

def sizeError? (r : Recorder S) (size : Viewport) : Option String :=
  match r.maxExtent with
  | none => none
  | some extent =>
    if extent < size.width ∨ extent < size.height then
      some s!"{size.width}x{size.height} exceeds {extent}"
    else none

def requestError? (r : Recorder S) : Request S → Option String
  | .allocate size | .resize size => r.sizeError? size
  | _ => none

def record (r : Recorder S) (entry : Entry S) : Recorder S :=
  { r with entries := r.entries ++ [entry] }

def perform (request : Request S) (r : Recorder S) : Except String Unit × Recorder S :=
  let r := r.record (.request request)
  match useRefusal? request.name r.refusals with
  | some refusals => (.error s!"{request.name} refused", { r with refusals })
  | none =>
    match r.requestError? request with
    | some reason => (.error reason, r)
    | none => (.ok (), r)

def cleared (r : Recorder S) : Recorder S := { r with entries := [] }

end Recorder

instance {S : Type} : Backend S (Recorder S) where
  perform := Recorder.perform
  release r := r.record .release

end RayScene.Render
