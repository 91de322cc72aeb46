import RayScene.Render.Backend
import RayScene.Render.Clock
import RayScene.Render.Random

/-!
Render sessions. An offline session adds one sample per tick until it has converged; a real-time
session draws every tick and never ends by itself. Starting a session ends the one before it, and a
request that is refused ends the session that made it.
-/

namespace RayScene.Render

open Shader

inductive SessionMode where
  | offline
  | realTime
  deriving DecidableEq, Repr

structure Session (S : Type) where
  mode : SessionMode
  scene : Scene S
  camera : Camera S
  sampleIndex : UInt32
  maxSamples : UInt32
  /-- The time of the first tick. -/
  started : Option Duration
  elapsed : Duration

namespace Session

variable {S : Type}

def new (mode : SessionMode) (scene : Scene S) (camera : Camera S) (maxSamples : UInt32) :
    Session S := ⟨mode, scene, camera, 0, maxSamples, none, .zero⟩

/-- Forgets the samples and the time; real time has neither. -/
def restarted (s : Session S) : Session S :=
  match s.mode with
  | .offline => { s with sampleIndex := 0, started := none, elapsed := .zero }
  | .realTime => s

/-- The session at the time of a tick. -/
def reached (s : Session S) (time : Duration) : Session S :=
  let started := s.started.getD time
  { s with started := some started, elapsed := time.since started }

end Session

inductive Phase (S : Type) where
  | idle
  | active (session : Session S)
  | converged (session : Session S)

def Phase.session? {S : Type} : Phase S → Option (Session S)
  | idle => none
  | active session | converged session => some session

inductive Command (S : Type) where
  | render (scene : Scene S) (camera : Camera S) (maxSamples : UInt32)
  | realTime (scene : Scene S) (camera : Camera S)
  | cancel
  | resize (size : Viewport)

inductive RenderError (S : Type) where
  | shader (error : ShaderError)
  | camera (error : CameraError S)
  | backend (reason : String)
  deriving Repr

def RenderError.message : RenderError Single → String
  | shader error => "failed to generate shader: " ++ error.message
  | camera error => error.message
  | backend reason => "render backend failed: " ++ reason

inductive Tick where
  | again
  | stop
  deriving DecidableEq, Repr

inductive Status (S : Type) where
  | idle
  | offline (sampleIndex maxSamples : UInt32) (elapsed : Duration)
  | converged (sampleIndex maxSamples : UInt32) (elapsed : Duration)
  | realTime (frameRate : Option S)

/-- The samples of an offline session that is not told otherwise. -/
def defaultMaxSamples : UInt32 := 10

structure Engine (S : Type) (B : Type) where
  backend : B
  /-- Writes the camera into the shader instead of a uniform block. -/
  bakesCamera : Bool
  viewport : Viewport
  phase : Phase S
  queue : List (Command S)
  random : Random
  frames : FrameTimes

namespace Engine

variable {S B : Type}

def new (backend : B) (viewport : Viewport) (bakesCamera : Bool) (seed : UInt64) : Engine S B :=
  ⟨backend, bakesCamera, viewport, .idle, [], ⟨seed⟩, .empty⟩

abbrev Step (S B α : Type) := Except (RenderError S) α × Engine S B

/-- Goes on unless there was an error. -/
def Step.next {α β : Type} (step : Step S B α) (rest : α → Engine S B → Step S B β) : Step S B β :=
  match step with
  | (.ok a, e) => rest a e
  | (.error error, e) => (.error error, e)

def mode (e : Engine S B) : Option SessionMode := e.phase.session?.map (·.mode)

def isIdle (e : Engine S B) : Bool := e.phase.session?.isNone

def isConverged (e : Engine S B) : Bool :=
  match e.phase with
  | .converged _ => true
  | _ => false

def status [Scalar S] (e : Engine S B) : Status S :=
  match e.phase with
  | .idle => .idle
  | .active s =>
    match s.mode with
    | .realTime => .realTime e.frames.rate?
    | .offline => .offline s.sampleIndex s.maxSamples s.elapsed
  | .converged s => .converged s.sampleIndex s.maxSamples s.elapsed

def send (e : Engine S B) (command : Command S) : Engine S B :=
  { e with queue := e.queue ++ [command] }

variable [Backend S B]

/-- Ends whatever session there is. -/
def endSession (e : Engine S B) : Engine S B :=
  { e with phase := .idle, backend := Backend.release S e.backend, frames := .empty }

/-- Makes a request; a refusal ends the session. -/
def attempt (request : Request S) (e : Engine S B) : Step S B Unit :=
  match Backend.perform request e.backend with
  | (.ok (), backend) => (.ok (), { e with backend })
  | (.error reason, backend) => (.error (.backend reason), { e with backend }.endSession)

def cancel (e : Engine S B) : Engine S B :=
  match e.phase with
  | .idle => e
  | .active _ | .converged _ => e.endSession

variable [Scalar S]

def shaderOptions (e : Engine S B) (s : Session S) : Options S where
  realTime := s.mode = .realTime
  numSamples := 1
  renderMode := s.scene.renderMode
  camera := if e.bakesCamera then .baked s.camera else .uniform
  target := .screen

def loadProgram (s : Session S) (e : Engine S B) : Step S B Unit :=
  let options := e.shaderOptions s
  match plan s.scene.objects options with
  | .error error => (.error (.shader error), e)
  | .ok plan => e.attempt (.load ⟨plan, options.realTime⟩)

def allocate (s : Session S) (e : Engine S B) : Step S B Unit :=
  match s.mode with
  | .offline => e.attempt (.allocate e.viewport)
  | .realTime => (.ok (), e)

/-- Ends the session before and starts one; an empty viewport leaves the camera as it is. -/
def start (mode : SessionMode) (scene : Scene S) (camera : Camera S) (maxSamples : UInt32)
    (e : Engine S B) : Step S B Unit :=
  let e := e.cancel
  match if e.viewport.isEmpty then .ok camera else camera.withAspect e.viewport.aspect with
  | .error error => (.error (.camera error), e)
  | .ok camera =>
    let session := Session.new mode scene camera maxSamples
    (e.loadProgram session).next fun _ e =>
      (e.allocate session).next fun _ e => (.ok (), { e with phase := .active session })

def render (scene : Scene S) (camera : Camera S) (maxSamples : UInt32) (e : Engine S B) :
    Step S B Unit :=
  e.start .offline scene camera (max maxSamples 1)

def realTime (scene : Scene S) (camera : Camera S) (e : Engine S B) : Step S B Unit :=
  e.start .realTime scene camera 0

def resume (s : Session S) (e : Engine S B) : Step S B Unit :=
  match s.camera.withAspect e.viewport.aspect with
  | .error error => (.error (.camera error), e.endSession)
  | .ok camera =>
    let session := { s with camera }.restarted
    let loaded := if e.bakesCamera then e.loadProgram session else (.ok (), e)
    loaded.next fun _ e =>
      (e.allocate session).next fun _ e => (.ok (), { e with phase := .active session })

def resize (size : Viewport) (e : Engine S B) : Step S B Unit :=
  if size = e.viewport ∨ size.isEmpty then (.ok (), e)
  else
    (e.attempt (.resize size)).next fun _ e =>
      let e := { e with viewport := size }
      match e.phase.session? with
      | none => (.ok (), e)
      | some session => { e with phase := .idle }.resume session

def apply (command : Command S) (e : Engine S B) : Step S B Unit :=
  match command with
  | .render scene camera maxSamples => e.render scene camera maxSamples
  | .realTime scene camera => e.realTime scene camera
  | .cancel => (.ok (), e.cancel)
  | .resize size => e.resize size

/-- Applies commands in order, all of them; the first error counts. -/
def applyAll : List (Command S) → Engine S B → Step S B Unit
  | [], e => (.ok (), e)
  | command :: commands, e =>
    let (first, e) := e.apply command
    let (rest, e) := applyAll commands e
    (first.bind fun _ => rest, e)

def nextFrame (scene : Scene S) (e : Engine S B) : Frame S × Engine S B :=
  let (seed, random) := e.random.pair (S := S)
  (.ofScene scene e.viewport seed, { e with random })

def drawOffline (s : Session S) (e : Engine S B) : Step S B Tick :=
  let (frame, e) := e.nextFrame s.scene
  let count := s.sampleIndex + 1
  let inputs := ⟨s.camera, frame.withSamples count⟩
  (e.attempt (.drawSample inputs)).next fun _ e =>
    (e.attempt .accumulate).next fun _ e =>
      (e.attempt (.present inputs)).next fun _ e =>
        let session := { s with sampleIndex := count }
        if s.maxSamples ≤ count then (.ok .stop, { e with phase := .converged session })
        else (.ok .again, { e with phase := .active session })

def drawRealTime (s : Session S) (time : Duration) (e : Engine S B) : Step S B Tick :=
  let (frame, e) := e.nextFrame s.scene
  (e.attempt (.drawDirect ⟨s.camera, frame⟩)).next fun _ e =>
    (.ok .again, { e with phase := .active s, frames := e.frames.record time })

def draw (time : Duration) (e : Engine S B) : Step S B Tick :=
  match e.phase with
  | .active session =>
    match session.mode with
    | .offline => e.drawOffline (session.reached time)
    | .realTime => e.drawRealTime (session.reached time) time
  | .idle | .converged _ => (.ok .stop, e)

/-- Applies the queued commands and draws, unless a command failed. -/
def tick (t : FrameTick) (e : Engine S B) : Step S B Tick :=
  (applyAll e.queue { e with queue := [] }).next fun _ e => e.draw t.time

/-- Ticks from a frame on until the engine stops, at most so many times; counts the ticks. -/
def runFrom (clock : Clock) (frame : Nat) : Nat → Engine S B → Step S B Nat
  | 0, e => (.ok frame, e)
  | left + 1, e =>
    (e.tick (clock.tick frame)).next fun
      | .stop, e => (.ok (frame + 1), e)
      | .again, e => runFrom clock (frame + 1) left e

def runHeadless (clock : Clock) (maxFrames : Nat) (e : Engine S B) : Step S B Nat :=
  runFrom clock 0 maxFrames e

end Engine
end RayScene.Render
