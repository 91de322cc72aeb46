import RayScene.Files.Watch
import RayScene.Main
import RayScene.Render.Recorder
import RayScene.Proofs.Color.TypeSafety
import RayScene.Proofs.Geometry.Membership
import RayScene.Proofs.Geometry.Nonexpansive
import RayScene.Proofs.Render.Collapse
import RayScene.Proofs.Shader.FieldChain
import RayScene.Proofs.Shader.FirstObjects
import RayScene.Proofs.Volume.Cancellation
import RayScene.Proofs.SceneFile.Literals
import RayScene.Proofs.Shader.Outlines
import RayScene.Proofs.Shader.SceneField
import RayScene.Proofs.Shader.Selection
import RayScene.Proofs.Shader.Wellformed
import RayScene.Proofs.Viewer.Exports
import RayScene.Proofs.Viewer.Headless
import RayScene.Proofs.Viewer.Samples
import RayScene.Proofs.Scene.Projection
import RayScene.Proofs.Scene.Usability
import RayScene.Proofs.Geometry.Unions
import RayScene.Proofs.Scene.Aspects
import RayScene.Proofs.Volume.Centers
import RayScene.Proofs.Volume.Lookup
import RayScene.Proofs.SceneFile.Places
import RayScene.Proofs.Shader.NearestHit
import RayScene.Proofs.Volume.RoundTrip
import RayScene.Proofs.Shader.Distances
import RayScene.Proofs.Volume.Sampling
import RayScene.Proofs.Render.Pace
import RayScene.Proofs.Geometry.Rotation
import RayScene.Proofs.SceneFile.Rows
import RayScene.Proofs.Color.CallResults
