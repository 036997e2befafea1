import FireflyOverlay.Scalar

/-!
# Single-precision floats as scalars

* `Single.decode`   a finite float as a whole number of units of a power of two;
* `Single.floor`, `Single.ceil`   the roundings to whole numbers: a float of 2 ^ 23 or more is
  whole already, a smaller one has its whole part in 32 bits;
* `Single.trunc`    cut to 64 bits, with 0 for a float that is not a number;
* `Single.rem`      exact: on a common unit both floats are whole numbers, and the remainder
  of whole numbers needs no more digits than the floats have.
-/

namespace FireflyOverlay
namespace Single

/-- A finite float is `mantissa` times `2 ^ exponent`, with a sign. -/
structure Digits where
  negative : Bool
  mantissa : Nat
  exponent : Int

def decode (x : Float32) : Digits :=
  let bits := x.toBits.toNat
  let field : Nat := bits / 0x800000 % 0x100
  let fraction : Nat := bits % 0x800000
  if field = 0 then ⟨bits / 0x80000000 = 1, fraction, -149⟩
  else ⟨bits / 0x80000000 = 1, fraction + 0x800000, (field : Int) - 150⟩

/-- The float `2 ^ e`, for an `e` from -149 to 127. -/
def powerOfTwo (e : Int) : Float32 :=
  if -126 ≤ e then .ofBits (((e + 127).toNat * 0x800000).toUInt32)
  else .ofBits ((1 <<< (e + 149).toNat).toUInt32)

def notANumber : Float32 := .ofBits 0x7fc00000

/-- The float nearest to `n`. -/
def ofNat (n : Nat) : Float32 :=
  if n < 0x10000000000000000 then n.toUInt64.toFloat32 else Float32.ofScientific n false 0

def floor (x : Float32) : Float32 :=
  if x.abs < powerOfTwo 23 then
    let whole := if x < ofNat 0 then -(-x).toUInt32.toFloat32 else x.toUInt32.toFloat32
    if x == whole then x else if x < whole then whole - ofNat 1 else whole
  else x

def ceil (x : Float32) : Float32 := -floor (-x)

def trunc (x : Float32) : Int :=
  if x < ofNat 0 then -(min (-x).toUInt64.toNat 0x8000000000000000 : Nat)
  else (min x.toUInt64.toNat 0x7fffffffffffffff : Nat)

def rem (x y : Float32) : Float32 :=
  if !x.isFinite || y.isNaN || y == ofNat 0 then notANumber
  else if y.isInf then x
  else
    let a := decode x
    let b := decode y
    let unit := min a.exponent b.exponent
    let rest := a.mantissa <<< (a.exponent - unit).toNat
      % (b.mantissa <<< (b.exponent - unit).toNat)
    let size := ofNat rest * powerOfTwo unit
    if a.negative then -size else size

instance : Scalar Float32 where
  decLt := Float32.decLt
  decLe := Float32.decLe
  ofNat := ofNat
  isFinite := Float32.isFinite
  floor := floor
  ceil := ceil
  trunc := trunc
  rem := rem

/-- One degree in radians. -/
def degree : Float32 := .ofBits 0x3c8efa35

instance : Trig Float32 where
  cosDegrees x := (x * degree).cos
  sinDegrees x := (x * degree).sin

instance : Root Float32 where
  sqrt := Float32.sqrt

end Single
end FireflyOverlay
