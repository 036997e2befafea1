import FireflyOverlay.Deflate
import FireflyOverlay.Image
import FireflyOverlay.Png.Scanline

/-!
# Image files

* `Png`               what a file says about an image: the header, the palette, what is transparent,
                      and the compressed rows;
* `Png.ofBytes?`      reads the chunks of a file;
* `Png.pixel`         the color of some samples;
* `Png.decode?`       the image of a file.  Every sample becomes a byte, the nearest one.
-/

namespace FireflyOverlay

structure Png where
  header : Png.Header
  /-- three bytes for each color -/
  palette : Option (List UInt8)
  /-- the opacities of the palette, or the samples of the color that is transparent -/
  transparency : Option (List UInt8)
  /-- the meaning of the samples has been given by code points -/
  isCoded : Bool
  /-- the number of the last frame of an animation -/
  frame : Option Nat
  /-- the compressed rows, in parts -/
  data : List (List UInt8)

namespace Png

/-! ## reading chunks -/

/-- A palette has whole colors, and no more than the samples can name. -/
def isPalette (h : Header) (data : List UInt8) : Bool :=
  decide (0 < data.length) && data.length % 3 == 0
    && decide (data.length / 3 ≤ if h.kind = .indexed then 1 <<< h.depth else 256)

/-- A transparency is read only where it can be used: with three or one samples, or behind a
palette. -/
def usesTransparency (p : Png) (length : Nat) : Bool :=
  p.transparency.isNone && decide (length ≤ 256) &&
    match p.header.kind with
    | .gray => decide (2 ≤ length)
    | .rgb => decide (6 ≤ length)
    | .indexed => p.palette.isSome
    | .grayAlpha | .rgba => false

/-- Code points stand in front of a palette, and only the first count.  The third must be 0: the
samples are red, green and blue. -/
def addCodePoints? (p : Png) (data : List UInt8) : Option Png :=
  match data with
  | [_, _, matrix, fullRange] =>
    if p.isCoded ∨ p.palette.isSome ∨ 1 < fullRange then some p
    else if matrix = 0 then some { p with isCoded := true }
    else none
  | _ => some p

/-- The sequence number that comes next in an animation. -/
def nextFrame (p : Png) : Nat := p.frame.elim 0 (· + 1)

/-- A frame in front of the rows is the image itself: it has its size, and no offset. -/
def isFrame (p : Png) (data : List UInt8) : Bool :=
  let field (i : Nat) : Nat := number ((data.drop (4 * i)).take 4)
  data.length == 26 && field 0 == p.nextFrame
    && field 1 == p.header.width && field 2 == p.header.height && field 3 == 0 && field 4 == 0
    && data.getD 24 0 ≤ 2 && data.getD 25 0 ≤ 1

/-- What a chunk before the rows adds.  Chunks that are not critical are left out if they are
unknown or unsound. -/
def add? (p : Png) (c : Chunk) : Option Png :=
  if !c.isSound then (if c.isCritical then none else some p)
  else if c.kind = Chunk.named "PLTE" then
    if p.palette.isNone && isPalette p.header c.data then some { p with palette := some c.data }
    else none
  else if c.kind = Chunk.named "tRNS" then
    if p.usesTransparency c.data.length then some { p with transparency := some c.data }
    else some p
  else if c.kind = Chunk.named "cICP" then p.addCodePoints? c.data
  else if c.kind = Chunk.named "fcTL" then
    if p.isFrame c.data then some { p with frame := some p.nextFrame } else none
  else if c.isCritical then none
  else some p

/-! ## rows -/

def isImage (c : Chunk) : Bool := c.kind == Chunk.named "IDAT"

/-- The rows of a frame of an animation. -/
def isFrameImage (c : Chunk) : Bool := c.kind == Chunk.named "fdAT"

def isRows (c : Chunk) : Bool := isImage c || isFrameImage c

/-- The rows of a frame, each part behind its sequence number. -/
def frameData? (frame : Nat) : List Chunk → Option (List (List UInt8))
  | [] => some []
  | c :: chunks =>
    if 4 ≤ c.data.length ∧ number (c.data.take 4) = frame + 1 then
      (frameData? (frame + 1) chunks).map (c.data.drop 4 :: ·)
    else none

/-- The compressed rows in some chunks of one kind.  Those of a frame stand behind its description. -/
def rowsData? (p : Png) (rows : List Chunk) : Option (List (List UInt8)) :=
  if rows.all isImage then some (rows.map Chunk.data)
  else p.frame.bind (frameData? · rows)

/-- The start of another chunk, of another kind than the rows, closes the rows. -/
def isClosed (kind : List UInt8) (after : List Chunk) (rest : List UInt8) : Bool :=
  !after.isEmpty || (decide (8 ≤ rest.length) && (rest.drop 4).take 4 != kind)

/-- Reads the rows, behind the chunks before them. -/
def addRows? (p : Png) (chunks : List Chunk) (rest : List UInt8) : Option Png :=
  match chunks with
  | [] => none
  | first :: _ => do
    let rows := chunks.takeWhile (·.kind == first.kind)
    let data ← p.rowsData? rows
    if rows.all Chunk.isSound && isClosed first.kind (chunks.dropWhile (·.kind == first.kind)) rest then
      return { p with data := data }
    else none

def ofChunks? (chunks : List Chunk) (rest : List UInt8) : Option Png := do
  match chunks with
  | [] => none
  | first :: chunks =>
    if first.kind = Chunk.named "IHDR" ∧ first.isSound then
      let header ← Header.ofBytes? first.data
      let p ← (chunks.takeWhile (!isRows ·)).foldlM add? ⟨header, none, none, false, none, []⟩
      p.addRows? (chunks.dropWhile (!isRows ·)) rest
    else none

def ofBytes? (bytes : List UInt8) : Option Png :=
  if bytes.take signature.length = signature then
    let (chunks, rest) := Chunk.readAll (bytes.drop signature.length)
    ofChunks? chunks rest
  else none

/-! ## samples -/

/-- The `i`-th sample of a row. -/
def sample (depth : Nat) (row : Array UInt8) (i : Nat) : Nat :=
  if depth = 16 then (row.getD (2 * i) 0).toNat * 256 + (row.getD (2 * i + 1) 0).toNat
  else
    let bit := i * depth
    (row.getD (bit / 8) 0).toNat >>> (8 - depth - bit % 8) % (1 <<< depth)

/-- The byte nearest to a sample, of which the greatest becomes 255. -/
def toByte (depth v : Nat) : UInt8 :=
  let greatest := (1 <<< depth) - 1
  ((2 * 255 * v + greatest) / (2 * greatest)).toUInt8

/-- The transparent sample number `i`; of fewer than 16 bits only the low byte counts. -/
def keySample (depth : Nat) (key : List UInt8) (i : Nat) : Nat :=
  let v := number ((key.drop (2 * i)).take 2)
  if depth = 16 then v else v % 256

/-- Samples of 16 bits are transparent only if the color has no other bytes. -/
def isKey (depth : Nat) (key : Option (List UInt8)) (samples : List Nat) : Bool :=
  key.any fun key => (decide (depth < 16) || key.length == 2 * samples.length)
    && samples.zipIdx.all fun (v, i) => v == keySample depth key i

/-- The opacities of the palette.  Where there are more of them than colors, none counts. -/
def opacities (p : Png) : List UInt8 :=
  let all := p.transparency.getD []
  if 3 * all.length ≤ (p.palette.getD []).length then all else []

/-- The color of an entry of the palette.  An entry beyond the palette is black. -/
def entry (p : Png) (i : Nat) : Pixel :=
  let palette := p.palette.getD []
  let part := fun k => palette.getD (3 * i + k) 0
  ⟨part 0, part 1, part 2, p.opacities.getD i 255⟩

def pixel (p : Png) (samples : List Nat) : Pixel :=
  let byte := toByte p.header.depth
  let opacity := if isKey p.header.depth p.transparency samples then 0 else 255
  match p.header.kind, samples with
  | .gray, [v] => ⟨byte v, byte v, byte v, opacity⟩
  | .rgb, [r, g, b] => ⟨byte r, byte g, byte b, opacity⟩
  | .indexed, [i] => p.entry i
  | .grayAlpha, [v, a] => ⟨byte v, byte v, byte v, byte a⟩
  | .rgba, [r, g, b, a] => ⟨byte r, byte g, byte b, byte a⟩
  | _, _ => default

/-! ## the image -/

def passes (h : Header) : List Pass := if h.interlaced then Pass.lattices else Pass.whole

/-- The pixel at a column and a row: from the pass that holds it. -/
def pixelAt (p : Png) (rows : List (Pass × Array (Array UInt8))) (x y : Nat) : Pixel :=
  match rows.find? fun (pass, _) => pass.holds x y with
  | none => default
  | some (pass, rows) =>
    let row := rows.getD ((y - pass.startY) / pass.stepY) #[]
    let first := (x - pass.startX) / pass.stepX * p.header.kind.samples
    p.pixel ((List.range p.header.kind.samples).map fun k => sample p.header.depth row (first + k))

def image? (p : Png) : Option Image := do
  if p.header.kind = .indexed ∧ p.palette.isNone then none
  else
    let passes := passes p.header
    let size := passes.foldl (fun size pass => size + pass.size p.header) 0
    let data ← Deflate.ofParts? size [] p.data
    let rows ← Pass.restoreAll? p.header passes data.toList
    return Image.ofFn p.header.width p.header.height (p.pixelAt rows)

def decode? (bytes : List UInt8) : Option Image := do (← ofBytes? bytes).image?

/-! ## sizes -/

theorem header_of_addCodePoints? {p q : Png} {data : List UInt8}
    (h : p.addCodePoints? data = some q) : q.header = p.header := by
  unfold addCodePoints? at h
  split at h
  · split at h
    · cases h; rfl
    · split at h <;> cases h
      rfl
  · cases h; rfl

theorem header_of_add? {p q : Png} {c : Chunk} (h : p.add? c = some q) : q.header = p.header := by
  rw [add?] at h
  split at h
  · split at h <;> cases h
    rfl
  · split at h
    · split at h <;> cases h
      rfl
    · split at h
      · split at h <;> cases h <;> rfl
      · split at h
        · exact header_of_addCodePoints? h
        · split at h
          · split at h <;> cases h
            rfl
          · split at h <;> cases h
            rfl

theorem header_of_addRows? {p q : Png} {chunks : List Chunk} {rest : List UInt8}
    (h : p.addRows? chunks rest = some q) : q.header = p.header := by
  unfold addRows? at h
  split at h
  · simp at h
  · simp only [Option.bind_eq_bind, Option.bind_eq_some_iff] at h
    obtain ⟨data, _, h⟩ := h
    split at h
    · simp only [Option.pure_def, Option.some.injEq] at h
      rw [← h]
    · simp at h

theorem header_of_foldlM {chunks : List Chunk} {p q : Png}
    (h : chunks.foldlM add? p = some q) : q.header = p.header := by
  induction chunks generalizing p with
  | nil => simp at h; rw [h]
  | cons c chunks ih =>
    simp only [List.foldlM_cons, Option.bind_eq_bind, Option.bind_eq_some_iff] at h
    obtain ⟨r, hr, h⟩ := h
    rw [ih h, header_of_add? hr]

theorem isValid_of_ofBytes? {bytes : List UInt8} {p : Png} (h : ofBytes? bytes = some p) :
    p.header.isValid := by
  rw [ofBytes?] at h
  split at h
  · dsimp only at h
    unfold ofChunks? at h
    split at h
    · simp at h
    · split at h
      · simp only [Option.bind_eq_bind, Option.bind_eq_some_iff] at h
        obtain ⟨header, hh, q, hq, h⟩ := h
        rw [header_of_addRows? h, header_of_foldlM hq]
        exact Header.isValid_of_ofBytes? hh
      · simp at h
  · simp at h

/-- A decoded image is not empty. -/
theorem size_of_decode? {bytes : List UInt8} {m : Image} (h : decode? bytes = some m) :
    0 < m.width ∧ 0 < m.height := by
  simp only [decode?, Option.bind_eq_bind, Option.bind_eq_some_iff] at h
  obtain ⟨p, hp, h⟩ := h
  have hv := isValid_of_ofBytes? hp
  simp only [Header.isValid, Bool.and_eq_true, decide_eq_true_eq] at hv
  rw [image?] at h
  split at h
  · simp at h
  · simp only [Option.bind_eq_bind, Option.bind_eq_some_iff] at h
    obtain ⟨_, _, _, _, h⟩ := h
    simp only [Option.pure_def, Option.some.injEq] at h
    rw [← h]
    exact ⟨hv.1.1, hv.1.2⟩

def decoder : ImageDecoder := ⟨fun bytes => decode? bytes.toList, fun _ _ => size_of_decode?⟩

end Png
end FireflyOverlay
