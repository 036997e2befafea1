import FireflyOverlay.Deflate.Code

/-!
# Compressed data

Data is a sequence of blocks.  A block is stored as it is, or holds items: a byte, or a copy of
bytes that came before.  The items are written in two prefix codes, one for bytes and lengths and
one for distances; the codes are fixed, or stand at the front of the block.

* `Deflate.Item`      a byte, a copy, or the end of the block;
* `Deflate.items`     the items of a block, appended to what came before;
* `Deflate.codes`     the codes at the front of a block;
* `Deflate.inflate`   the blocks, until there are as many bytes as are asked for;
* `Deflate.unframe`   the same behind a header of two bytes;
* `Deflate.ofParts?`  the same from data that comes in parts.

The data may end, or go on, once there are enough bytes.  Only where a block ends with the last of them,
and in the same part of the data, the next one must not start malformed.

Every reader takes a bit at least, so the bits that are left bound the recursion.
-/

namespace FireflyOverlay
namespace Deflate

open BitsFault

/-! ## items -/

inductive Item where
  | byte (b : UInt8)
  | copy (length distance : Nat)
  | stop
deriving DecidableEq, Repr

/-- For each symbol of a length, from 257 on, the least length and the width of what is added. -/
def lengths : List (Nat × Nat) :=
  [(3, 0), (4, 0), (5, 0), (6, 0), (7, 0), (8, 0), (9, 0), (10, 0), (11, 1), (13, 1), (15, 1),
   (17, 1), (19, 2), (23, 2), (27, 2), (31, 2), (35, 3), (43, 3), (51, 3), (59, 3), (67, 4),
   (83, 4), (99, 4), (115, 4), (131, 5), (163, 5), (195, 5), (227, 5), (258, 0)]

/-- The same for the symbols of a distance. -/
def distances : List (Nat × Nat) :=
  [(1, 0), (2, 0), (3, 0), (4, 0), (5, 1), (7, 1), (9, 2), (13, 2), (17, 3), (25, 3), (33, 4),
   (49, 4), (65, 5), (97, 5), (129, 6), (193, 6), (257, 7), (385, 7), (513, 8), (769, 8),
   (1025, 9), (1537, 9), (2049, 10), (3073, 10), (4097, 11), (6145, 11), (8193, 12),
   (12289, 12), (16385, 13), (24577, 13)]

/-- What an entry that may be missing is read as. -/
def found {α : Type} : Option α → Except BitsFault α
  | some a => .ok a
  | none => .error .malformed

/-- The number that a symbol of a table stands for, with what is added to it. -/
def value (table : List (Nat × Nat)) (symbol : Nat) (bits : Bits) :
    Except BitsFault (Nat × Bits) := do
  let (least, width) ← found table[symbol]?
  let (more, bits) ← bits.number width
  return (least + more, bits)

structure Codes where
  items : Code
  distances : Code

def copy (c : Codes) (symbol : Nat) (bits : Bits) : Except BitsFault (Item × Bits) := do
  let (length, bits) ← value lengths (symbol - 257) bits
  let (symbol, bits) ← c.distances.decode bits
  let (distance, bits) ← value distances symbol bits
  return (.copy length distance, bits)

/-- So many bits are looked at together. -/
def glance : Nat := 12

/-- Two bytes that are seen together are read together, or not at all.  Bits behind the end are
taken for zeros: `width` bits of the first byte are known, and the second one seems to follow but is
cut off. -/
def isHalfPair (c : Codes) (width : Nat) (rest : Bits) : Bool :=
  (rest.drop (glance - 1)).isEmpty &&
    match c.items.decode (rest ++ List.replicate glance false) with
    | .ok (symbol, more) =>
      let second := rest.length + glance - more.length
      decide (symbol < 256) && decide (2 ≤ second) && decide (width + second ≤ glance)
        && decide (rest.length < second)
    | .error _ => false

/-- The two symbols without a length, which only the fixed code has, end the block too. -/
def item (c : Codes) (bits : Bits) : Except BitsFault (Item × Bits) := do
  let (symbol, rest) ← c.items.decode bits
  if symbol < 256 then
    if isHalfPair c (bits.length - rest.length) rest then .error .short
    else return (.byte symbol.toUInt8, rest)
  else if symbol = 256 ∨ 286 ≤ symbol then return (.stop, rest)
  else copy c symbol rest

theorem length_of_value {table : List (Nat × Nat)} {symbol v : Nat} {bits rest : Bits}
    (h : value table symbol bits = .ok (v, rest)) : rest.length ≤ bits.length := by
  simp only [value, bind_eq_ok, Prod.exists, pure_eq_ok, Prod.mk.injEq] at h
  obtain ⟨_, _, _, _, r, hr, -, h⟩ := h
  have := Bits.length_of_number hr
  rw [← h]
  omega

theorem length_of_copy {c : Codes} {symbol : Nat} {bits rest : Bits} {i : Item}
    (h : copy c symbol bits = .ok (i, rest)) : rest.length < bits.length := by
  simp only [copy, bind_eq_ok, Prod.exists, pure_eq_ok, Prod.mk.injEq] at h
  obtain ⟨_, r₁, h₁, _, r₂, h₂, _, r₃, h₃, -, h⟩ := h
  have := length_of_value h₁
  have := Code.length_of_decode h₂
  have := length_of_value h₃
  rw [← h]
  omega

theorem length_of_item {c : Codes} {bits rest : Bits} {i : Item}
    (h : item c bits = .ok (i, rest)) : rest.length < bits.length := by
  simp only [item, bind_eq_ok, Prod.exists] at h
  obtain ⟨_, r, hr, h⟩ := h
  have := Code.length_of_decode hr
  split at h
  · split at h
    · simp at h
    · simp_all [pure_eq_ok]
  · split at h
    · simp_all [pure_eq_ok]
    · have := length_of_copy h
      omega

/-- Appends bytes that stand a distance back.  The copy may run into the bytes it appends. -/
def copyBack (distance : Nat) : Nat → Array UInt8 → Array UInt8
  | 0, out => out
  | n + 1, out => copyBack distance n (out.push (out.getD (out.size - distance) 0))

/-- The end of a block is looked for only where any string of a code could still follow. -/
def lookahead : Nat := Code.maxLength

/-- If the end of the block comes next, what is behind it. -/
def endOf? (c : Codes) (bits : Bits) : Option Bits :=
  if bits.length < lookahead then none
  else match c.items.decode bits with
    | .ok (256, rest) => some rest
    | _ => none

/-- The items up to the end of a block, or until there are `size` bytes.  The rest is none if the data
is not looked at any more. -/
def items (c : Codes) (size : Nat) (out : Array UInt8) (bits : Bits) :
    Except BitsFault (Array UInt8 × Option Bits) :=
  if size ≤ out.size then .ok (out, endOf? c bits)
  else match h : item c bits with
  | .error e => .error e
  | .ok (.stop, rest) => .ok (out, some rest)
  | .ok (.byte b, rest) =>
    have := length_of_item h
    items c size (out.push b) rest
  | .ok (.copy length distance, rest) =>
    have := length_of_item h
    if distance ≤ out.size then
      let out := copyBack distance length out
      if size < out.size then .ok (out, none) else items c size out rest
    else .error .malformed
termination_by bits.length

/-! ## codes -/

def fixedCodes : Codes :=
  ⟨.ofLengths (List.replicate 144 8 ++ List.replicate 112 9 ++ List.replicate 24 7
    ++ List.replicate 8 8), .ofLengths (List.replicate 32 5)⟩

/-- The lengths of codes are written in runs, in a code of their own.  A run without a length
repeats the length before it. -/
structure Run where
  length : Option Nat
  times : Nat
deriving DecidableEq, Repr

/-- The length of the runs of a symbol, the least number of times, and the width of what is
added. -/
def runShape (symbol : Nat) : Option Nat × Nat × Nat :=
  if symbol < 16 then (some symbol, 1, 0)
  else if symbol = 16 then (none, 3, 2)
  else if symbol = 17 then (some 0, 3, 3)
  else (some 0, 11, 7)

def run (c : Code) (bits : Bits) : Except BitsFault (Run × Bits) := do
  let (symbol, bits) ← c.decode bits
  let (length, least, width) := runShape symbol
  let (more, bits) ← bits.number width
  return (⟨length, least + more⟩, bits)

theorem length_of_run {c : Code} {bits rest : Bits} {r : Run}
    (h : run c bits = .ok (r, rest)) : rest.length < bits.length := by
  simp only [run, bind_eq_ok, Prod.exists, pure_eq_ok, Prod.mk.injEq] at h
  obtain ⟨_, r, hr, _, q, hq, -, h⟩ := h
  have := Code.length_of_decode hr
  have := Bits.length_of_number hq
  rw [← h]
  omega

/-- Reads runs until there are `count` lengths, and no more. -/
def runs (c : Code) (count : Nat) (found : Array Nat) (bits : Bits) :
    Except BitsFault (Array Nat × Bits) :=
  if found.size < count then
    match h : run c bits with
    | .error e => .error e
    | .ok (run, rest) =>
      have := length_of_run h
      match run.length, found.back? with
      | some l, _ => runs c count (found ++ Array.replicate run.times l) rest
      | none, some l => runs c count (found ++ Array.replicate run.times l) rest
      | none, none => .error .malformed
  else if found.size = count then .ok (found, bits)
  else .error .malformed
termination_by bits.length

/-- The order in which the lengths of the code of lengths are written. -/
def lengthOrder : List Nat :=
  [16, 17, 18, 0, 8, 7, 9, 6, 10, 5, 11, 4, 12, 3, 13, 2, 14, 1, 15]

def numbers : Nat → Nat → Bits → Except BitsFault (List Nat × Bits)
  | 0, _, bits => .ok ([], bits)
  | n + 1, width, bits => do
    let (v, bits) ← bits.number width
    let (rest, bits) ← numbers n width bits
    return (v :: rest, bits)

def codeOfLengths (bits : Bits) (count : Nat) : Except BitsFault (Code × Bits) := do
  let (written, bits) ← numbers count 3 bits
  let table := lengthOrder.zip written
  let code ← found <|
    Code.ofLengths? ((List.range 19).map fun symbol => (table.lookup symbol).getD 0)
  return (code, bits)

/-- Every block ends with symbol 256, so it has a string. -/
def codesOf? (found : Array Nat) (items : Nat) : Option Codes := do
  if found.getD 256 0 = 0 then none
  else return ⟨← Code.ofLengths? (found.toList.take items),
    ← Code.ofDistanceLengths? (found.toList.drop items)⟩

def codes (bits : Bits) : Except BitsFault (Codes × Bits) := do
  let (items, bits) ← bits.number 5
  let (distances, bits) ← bits.number 5
  let (count, bits) ← bits.number 4
  if 286 < items + 257 ∨ 30 < distances + 1 then .error .malformed
  else
    let (code, bits) ← codeOfLengths bits (count + 4)
    let (lengths, bits) ← runs code (items + 257 + (distances + 1)) #[] bits
    return (← found (codesOf? lengths (items + 257)), bits)

/-! ## blocks -/

/-- A stored block: its length, twice, then its bytes. -/
def stored (size : Nat) (out : Array UInt8) (bits : Bits) :
    Except BitsFault (Array UInt8 × Option Bits) := do
  let (length, bits) ← bits.align.number 16
  let (inverse, bits) ← bits.number 16
  if length + inverse = 0xffff then
    let wanted := min length (size - out.size)
    let (bytes, bits) ← bits.bytes wanted
    return (out ++ bytes.toArray, if wanted < length then none else some bits)
  else .error .malformed

def block (size : Nat) (out : Array UInt8) (bits : Bits) :
    Except BitsFault (Array UInt8 × Option Bits) := do
  let (kind, bits) ← bits.number 2
  match kind with
  | 0 => stored size out bits
  | 1 => items fixedCodes size out bits
  | 2 =>
    let (codes, bits) ← codes bits
    items codes size out bits
  | _ => .error .malformed

theorem length_of_endOf? {c : Codes} {bits rest : Bits} (h : endOf? c bits = some rest) :
    rest.length < bits.length := by
  rw [endOf?] at h
  split at h
  · simp at h
  · split at h
    · next hd =>
      rw [Option.some.injEq] at h
      rw [← h]
      exact Code.length_of_decode hd
    · simp at h

theorem length_of_items {c : Codes} {size : Nat} {out all : Array UInt8} {bits rest : Bits}
    (h : items c size out bits = .ok (all, some rest)) : rest.length < bits.length := by
  fun_induction items c size out bits with
  | case1 =>
    simp only [Except.ok.injEq, Prod.mk.injEq] at h
    exact length_of_endOf? h.2
  | case2 => simp at h
  | case3 out bits hs rest' hi =>
    have := length_of_item hi
    simp_all
  | case4 out bits hs b rest' hi this ih => have := ih h; omega
  | case5 => simp at h
  | case6 out bits hs l d rest' hi this hd _ _ ih => have := ih h; omega
  | case7 => simp at h

theorem length_of_runs {c : Code} {count : Nat} {start all : Array Nat} {bits rest : Bits}
    (h : runs c count start bits = .ok (all, rest)) : rest.length ≤ bits.length := by
  fun_induction runs c count start bits with
  | case1 => simp at h
  | case2 => rename_i ih; have := ih h; omega
  | case3 => rename_i ih; have := ih h; omega
  | case4 => simp at h
  | case5 => simp_all
  | case6 => simp at h

theorem length_of_numbers {n width : Nat} {all : List Nat} {bits rest : Bits}
    (h : numbers n width bits = .ok (all, rest)) : rest.length ≤ bits.length := by
  induction n generalizing bits all rest with
  | zero => simp [numbers] at h; simp [h.2]
  | succ n ih =>
    simp only [numbers, bind_eq_ok, Prod.exists, pure_eq_ok, Prod.mk.injEq] at h
    obtain ⟨_, r, hr, _, q, hq, -, h⟩ := h
    have := Bits.length_of_number hr
    have := ih hq
    rw [← h]
    omega

theorem length_of_codes {c : Codes} {bits rest : Bits}
    (h : codes bits = .ok (c, rest)) : rest.length ≤ bits.length := by
  simp only [codes, bind_eq_ok, Prod.exists] at h
  obtain ⟨_, r₁, h₁, _, r₂, h₂, _, r₃, h₃, h⟩ := h
  split at h
  · simp at h
  · simp only [codeOfLengths, bind_eq_ok, Prod.exists, pure_eq_ok, Prod.mk.injEq] at h
    obtain ⟨_, r₄, ⟨_, r₅, h₅, _, _, -, h₄⟩, _, r₆, h₆, _, _, -, h⟩ := h
    have := Bits.length_of_number h₁
    have := Bits.length_of_number h₂
    have := Bits.length_of_number h₃
    have := length_of_numbers h₅
    have := length_of_runs h₆
    rw [← h]
    rw [h₄] at *
    omega

theorem length_of_stored {size : Nat} {out all : Array UInt8} {bits rest : Bits}
    (h : stored size out bits = .ok (all, some rest)) : rest.length ≤ bits.length := by
  simp only [stored, bind_eq_ok, Prod.exists] at h
  obtain ⟨_, r₁, h₁, _, r₂, h₂, h⟩ := h
  split at h
  · simp only [bind_eq_ok, Prod.exists, pure_eq_ok, Prod.mk.injEq] at h
    obtain ⟨_, r₃, h₃, -, h⟩ := h
    have := Bits.length_of_number h₁
    have := Bits.length_of_number h₂
    have := Bits.length_of_bytes h₃
    have := Bits.length_align_le bits
    split at h
    · simp at h
    · rw [Option.some.injEq] at h
      rw [← h]
      omega
  · simp at h

theorem length_of_block {size : Nat} {out all : Array UInt8} {bits rest : Bits}
    (h : block size out bits = .ok (all, some rest)) : rest.length ≤ bits.length := by
  simp only [block, bind_eq_ok, Prod.exists] at h
  obtain ⟨_, r, hr, h⟩ := h
  have := Bits.length_of_number hr
  split at h
  · have := length_of_stored h; omega
  · have := length_of_items h; omega
  · simp only [bind_eq_ok, Prod.exists] at h
    obtain ⟨_, q, hq, h⟩ := h
    have := length_of_codes hq
    have := length_of_items h
    omega
  · simp at h

/-- With fewer bits, no block is read: a fixed one takes at least as many. -/
def leastBlock : Nat := 10

/-- All bytes, if there are enough. -/
def enough (size : Nat) (out : Array UInt8) : Except BitsFault (Array UInt8) :=
  if size ≤ out.size then .ok out else .error .short

/-- The blocks up to the one that is marked as the last, or until there are `size` bytes. -/
def inflate (size : Nat) (out : Array UInt8) (bits : Bits) : Except BitsFault (Array UInt8) :=
  if bits.length < leastBlock then enough size out
  else match hl : bits.number 1 with
  | .error _ => enough size out
  | .ok (last, bits₁) =>
    match hb : block size out bits₁ with
    | .error .short => enough size out
    | .error .malformed => .error .malformed
    | .ok (out, none) => enough size out
    | .ok (out, some bits₂) =>
      have := Bits.length_of_number hl
      have := length_of_block hb
      if last = 1 then enough size out else inflate size out bits₂
termination_by bits.length

/-! ## the frame -/

/-- A method byte and a flag byte: method 8 with a window of at most 2 ^ 15 bytes, no preset
dictionary, and a number that 31 divides. -/
def isHeader (method flags : UInt8) : Bool :=
  method &&& 0x0f == 8 && method >>> 4 ≤ 7 && flags &&& 0x20 == 0
    && (method.toNat * 256 + flags.toNat) % 31 == 0

/-- At least `size` bytes of the data behind a header.  The check sum is not looked at. -/
def unframe (size : Nat) : List UInt8 → Except BitsFault (Array UInt8)
  | method :: flags :: bytes =>
    if isHeader method flags then inflate size #[] (Bits.ofBytes bytes) else .error .malformed
  | _ => .error .short

/-- The same from parts, of which no more are read than are needed. -/
def ofParts? (size : Nat) (front : List UInt8) : List (List UInt8) → Option (Array UInt8)
  | [] => none
  | part :: parts =>
    match unframe size (front ++ part) with
    | .ok out => some out
    | .error .short => ofParts? size (front ++ part) parts
    | .error .malformed => none

end Deflate
end FireflyOverlay
