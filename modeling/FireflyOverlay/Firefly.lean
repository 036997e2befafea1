import FireflyOverlay.Surface
import FireflyOverlay.Units
import FireflyOverlay.Quad
import FireflyOverlay.Display.Call

/-!
# Fireflies

A firefly is a point of light that drifts along its heading and pulses between full and half
size.  Its heading lasts for one phase; when the phase runs out, the firefly turns to a random
heading and reverses the direction in which it scales.

* `Firefly.phaseScale`   the scale at the present point of the phase;
* `Firefly.reset`        a random place, heading and phase, from two units;
* `Firefly.drift`, `Firefly.tick`   the parts of an update: where it goes, and what is left of
  the phase;
* `Firefly.fade`         the update while fading: only the opacity falls;
* `Firefly.draws`        the calls that draw it.
-/

namespace FireflyOverlay
open Scalar

/-! ## the constants of motion -/

/-- Surface units that a firefly covers in a second. -/
def speed {α : Type} [Scalar α] : α := 50

/-- The length of a phase in milliseconds. -/
def phaseDuration : Nat := 1250

/-- The size at which a firefly stops shrinking. -/
def minScale {α : Type} [Scalar α] : α := 1 / 2

/-- The opacity lost in a millisecond of fading. -/
def fadePerMs {α : Type} [Scalar α] : α := 3 / 1000

/-- The least and the greatest phase time. -/
def phaseFloor : Int := -0x8000000000000000
def phaseCeiling : Int := 0x7fffffffffffffff

/-! ## state -/

structure Firefly (α : Type) where
  x : α
  y : α
  /-- in degrees -/
  heading : α
  shrinking : Bool
  /-- what is left of the phase, in milliseconds -/
  phase : Int
  scale : α
  opacity : α
deriving DecidableEq, Repr

namespace Firefly

variable {α : Type} [Scalar α]

/-- The scale at a point of the phase.  What is left of the phase counts down. -/
def phaseScale (shrinking : Bool) (phase : Int) : α :=
  let fraction := ofInt phase / ofNat phaseDuration
  if shrinking then 1 - fraction * minScale else minScale + fraction * minScale

def ofMotion (x y heading : α) (shrinking : Bool) (phase : Int) : Firefly α :=
  ⟨x, y, heading, shrinking, phase, phaseScale shrinking phase, 1⟩

def origin : Firefly α := ofMotion 0 0 0 false 0

/-- Two units place a firefly: the second gives the row, all else derives from the first. -/
def ofUnits (surface : Surface) (u v : α) : Firefly α :=
  ofMotion (u * ofNat surface.width) (v * ofNat surface.height) (u * 360) (decide (1 / 2 < u))
    (trunc (u * ofNat phaseDuration))

def reset (surface : Surface) (units : Units α) : Firefly α × Units α :=
  let (u, units) := units.next
  let (v, units) := units.next
  (ofUnits surface u v, units)

/-! ## one update -/

/-- The place of a coordinate on a surface that is glued at its edges. -/
def wrap (value : α) (bound : Nat) : α :=
  let rest := rem value (ofNat bound)
  let rest := if rest < 0 then rest + ofNat bound else rest
  if ofNat bound ≤ rest then 0 else rest

def fade (f : Firefly α) (elapsed : Nat) : Firefly α :=
  { f with opacity := greatest (f.opacity - ofNat elapsed * fadePerMs) 0 }

def drift [Trig α] (f : Firefly α) (elapsed : Nat) (surface : Surface) : Firefly α :=
  let distance := ofNat elapsed / 1000 * speed
  { f with
    x := wrap (f.x + Trig.cosDegrees f.heading * distance) surface.width
    y := wrap (f.y + Trig.sinDegrees f.heading * distance) surface.height
    scale := phaseScale f.shrinking f.phase }

/-- What an elapsed time leaves of a phase time, both cut to the range of phase times. -/
def phaseAfter (phase : Int) (elapsed : Nat) : Int :=
  max phaseFloor (phase - min (elapsed : Int) phaseCeiling)

/-- Counts the phase down.  A phase that ran out is replaced by a whole one, whatever it fell
short by. -/
def tick (f : Firefly α) (elapsed : Nat) (units : Units α) : Firefly α × Units α :=
  let phase := phaseAfter f.phase elapsed
  if phase < 0 then
    let (u, units) := units.next
    ({ f with heading := u * 360, shrinking := !f.shrinking, phase := phaseDuration }, units)
  else ({ f with phase }, units)

def update [Trig α] (f : Firefly α) (elapsed : Nat) (fading : Bool) (surface : Surface)
    (units : Units α) : Firefly α × Units α :=
  if fading then (f.fade elapsed, units) else (f.drift elapsed surface).tick elapsed units

/-! ## drawing -/

def modelView (f : Firefly α) : Mat4 α := .place f.x f.y f.scale

/-- The quad at the firefly's place, in white of its opacity.  The color is opaque again
afterwards. -/
def draws (f : Firefly α) : List (DrawCall α) :=
  [.setModelView f.modelView, .setFrontFace .counterClockwise, .enableQuadArrays,
   .setColor (.white f.opacity), .drawElements Quad.indices,
   .setColor .opaqueWhite, .disableQuadArrays]

end Firefly
end FireflyOverlay
