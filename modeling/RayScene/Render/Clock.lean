import RayScene.Geometry.Scalar

namespace RayScene.Render

/-- A length of time in nanoseconds. -/
structure Duration where
  nanoseconds : Nat
  deriving DecidableEq, Repr

namespace Duration

def second : Nat := 1000000000

def zero : Duration := ⟨0⟩

/-- The greatest length of time, whose seconds still fit in 64 bits. -/
def longest : Duration := ⟨Nat.pow 2 64 * second - 1⟩

def ofParts (seconds nanoseconds : Nat) : Duration := ⟨seconds * second + nanoseconds⟩

def seconds (d : Duration) : Nat := d.nanoseconds / second

def subseconds (d : Duration) : Nat := d.nanoseconds % second

def times (d : Duration) (n : Nat) : Duration := ⟨min (d.nanoseconds * n) longest.nanoseconds⟩

/-- The time from `earlier` to `later`, zero if they are in the wrong order. -/
def since (later earlier : Duration) : Duration := ⟨later.nanoseconds - earlier.nanoseconds⟩

def inSeconds {S : Type} [Scalar S] (d : Duration) : S :=
  Scalar.ofNat d.seconds + Scalar.ofNat d.subseconds / Scalar.ofNat second

end Duration

/-- When to draw a frame, and which one. -/
structure FrameTick where
  time : Duration
  index : Nat
  deriving DecidableEq, Repr

abbrev Clock := Nat → Duration

namespace Clock

/-- Frames at equal intervals; only the first `2 ^ 32` of them lie apart. -/
def fixed (interval : Duration) : Clock :=
  fun index => interval.times (min index (Nat.pow 2 32 - 1))

def tick (clock : Clock) (index : Nat) : FrameTick := ⟨clock index, index⟩

def ticks (clock : Clock) (count : Nat) : List FrameTick := (List.range count).map clock.tick

end Clock

structure FrameTimes where
  times : List Duration
  deriving DecidableEq, Repr

namespace FrameTimes

def window : Nat := 5

def empty : FrameTimes := ⟨[]⟩

def record (frames : FrameTimes) (time : Duration) : FrameTimes :=
  ⟨frames.times.drop (frames.times.length + 1 - window) ++ [time]⟩

def rate? {S : Type} [Scalar S] (frames : FrameTimes) : Option S :=
  match frames.times.head?, frames.times.getLast? with
  | some first, some last =>
    let span : S := (last.since first).inSeconds
    if last.nanoseconds < first.nanoseconds ∨ span ≤ Scalar.zero then none
    else some (Scalar.ofNat (frames.times.length - 1) / span)
  | _, _ => none

end FrameTimes

end RayScene.Render
