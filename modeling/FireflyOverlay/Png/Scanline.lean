import FireflyOverlay.Png.Header

/-!
# Scan lines

The data of an image is a sequence of rows.  Each row begins with the number of a filter; its bytes
are written as differences to a guess, which the filter makes from the neighbours.

* `Filter.guess`     the guess from the bytes on the left, above, and above on the left;
* `Filter.restore`   the bytes of a row, from the differences and the row above;
* `Pass`             the pixels that are written together: all of them, or one of seven lattices;
* `Pass.restore?`    the rows of a pass.
-/

namespace FireflyOverlay
namespace Png

/-! ## filters -/

inductive Filter where
  | plain
  | left
  | up
  | average
  | nearest
deriving DecidableEq, Repr

namespace Filter

def ofNat? : Nat → Option Filter
  | 0 => some .plain
  | 1 => some .left
  | 2 => some .up
  | 3 => some .average
  | 4 => some .nearest
  | _ => none

/-- Of three bytes the one next to `a + b - c`, the earlier one of two. -/
def nearestOf (a b c : UInt8) : UInt8 :=
  let target : Int := a.toNat + b.toNat - c.toNat
  let pa := (target - a.toNat).natAbs
  let pb := (target - b.toNat).natAbs
  let pc := (target - c.toNat).natAbs
  if pa ≤ pb ∧ pa ≤ pc then a else if pb ≤ pc then b else c

def guess (f : Filter) (left above corner : UInt8) : UInt8 :=
  match f with
  | .plain => 0
  | .left => left
  | .up => above
  | .average => ((left.toNat + above.toNat) / 2).toUInt8
  | .nearest => nearestOf left above corner

/-- The byte some places before the `i`-th; 0 in front of the row. -/
def before (row : Array UInt8) (i stride : Nat) : UInt8 :=
  if i < stride then 0 else row.getD (i - stride) 0

def restore (f : Filter) (stride : Nat) (above : Array UInt8) (written : List UInt8) :
    Array UInt8 :=
  written.foldl (fun row difference =>
    let i := row.size
    row.push (difference + f.guess (before row i stride) (above.getD i 0) (before above i stride)))
    #[]

end Filter

/-! ## passes -/

/-- Every `stepX`-th column from `startX` on, of every `stepY`-th row from `startY` on. -/
structure Pass where
  startX : Nat
  startY : Nat
  stepX : Nat
  stepY : Nat
deriving DecidableEq, Repr

namespace Pass

def whole : List Pass := [⟨0, 0, 1, 1⟩]

/-- Seven lattices which get finer; together they hold every pixel once. -/
def lattices : List Pass :=
  [⟨0, 0, 8, 8⟩, ⟨4, 0, 8, 8⟩, ⟨0, 4, 4, 8⟩, ⟨2, 0, 4, 4⟩, ⟨0, 2, 2, 4⟩, ⟨1, 0, 2, 2⟩,
   ⟨0, 1, 1, 2⟩]

def columns (p : Pass) (width : Nat) : Nat := (width - p.startX + p.stepX - 1) / p.stepX

def rows (p : Pass) (height : Nat) : Nat := (height - p.startY + p.stepY - 1) / p.stepY

def holds (p : Pass) (x y : Nat) : Bool :=
  p.startX ≤ x && p.startY ≤ y && (x - p.startX) % p.stepX == 0 && (y - p.startY) % p.stepY == 0

/-- The bytes that a pass takes: a filter and the samples, for every row. -/
def size (p : Pass) (h : Header) : Nat :=
  let columns := p.columns h.width
  if columns = 0 then 0 else p.rows h.height * (h.rowBytes columns + 1)

/-- The bytes of the rows of a pass, and the data that follows; a pass without columns is left
out. -/
def restoreRows? (h : Header) (width : Nat) : Nat → Array UInt8 → List UInt8 →
    Option (List (Array UInt8) × List UInt8)
  | 0, _, data => some ([], data)
  | _ + 1, _, [] => none
  | n + 1, above, kind :: data => do
    let filter ← Filter.ofNat? kind.toNat
    let (written, data) ← Chunk.take? width data
    let row := filter.restore h.stride above written
    let (rest, data) ← restoreRows? h width n row data
    return (row :: rest, data)

def restore? (h : Header) (p : Pass) (data : List UInt8) :
    Option (Array (Array UInt8) × List UInt8) := do
  let columns := p.columns h.width
  if columns = 0 then return (#[], data)
  else
    let (rows, data) ← restoreRows? h (h.rowBytes columns) (p.rows h.height) #[] data
    return (rows.toArray, data)

/-- The rows of all passes, in turn. -/
def restoreAll? (h : Header) : List Pass → List UInt8 →
    Option (List (Pass × Array (Array UInt8)))
  | [], _ => some []
  | p :: passes, data => do
    let (rows, data) ← p.restore? h data
    return (p, rows) :: (← restoreAll? h passes data)

end Pass
end Png
end FireflyOverlay
