import FireflyOverlay.Text.Pattern.Escape

/-!
# Sets in brackets

Between brackets stand characters, ranges, classes and more brackets; `&&`, `--` and `~~` combine what
is before them with what is behind.

* `Piece`               a set and how deep its brackets are nested;
* `Bracket`             a bracket that is open, and what is known of it;
* `Bracket.read?`       reads what is behind the first bracket, up to the last.
-/

namespace FireflyOverlay
namespace Text

structure Piece where
  set : CharSet
  depth : Nat
deriving DecidableEq, Repr

/-- Two or more pieces are nested one deeper. -/
def Piece.gather (l : List Piece) : Piece :=
  ⟨.unions (l.map Piece.set), l.foldl (fun d p => max d p.depth) 0 + if 2 ≤ l.length then 1 else 0⟩

inductive SetOperation where
  | intersection
  | difference
  | symmetricDifference
deriving DecidableEq, Repr

def SetOperation.apply (o : SetOperation) (a b : CharSet) : CharSet :=
  match o with
  | intersection => .intersection a b
  | difference => .difference a b
  | symmetricDifference => .symmetricDifference a b

structure Bracket where
  negated : Bool
  /-- what the pieces are to be combined with -/
  left : Option (SetOperation × Piece)
  pieces : List Piece
deriving DecidableEq, Repr

namespace Bracket

def add (p : Piece) (b : Bracket) : Bracket := { b with pieces := p :: b.pieces }

/-- All that stands in a bracket so far. -/
def content (f : PatternFlags) (b : Bracket) : Piece :=
  let right := Piece.gather b.pieces.reverse
  match b.left with
  | none => right
  | some (o, left) =>
    ⟨o.apply (PatternAtom.foldedIn f left.set) (PatternAtom.foldedIn f right.set),
      max left.depth right.depth + 1⟩

def combine (f : PatternFlags) (o : SetOperation) (b : Bracket) : Bracket :=
  ⟨b.negated, some (o, b.content f), []⟩

def close? (f : PatternFlags) (b : Bracket) : Option Piece :=
  let p := b.content f
  (PatternAtom.negatedIf? f b.negated (PatternAtom.foldedIn f p.set)).map (⟨·, p.depth + 1⟩)

/-! ## pieces -/

def ofChar (c : Char) : Piece := ⟨.single c, 0⟩

/-- The start of a bracket.  Minuses stand for themselves there, and so does a bracket that would close
the set while nothing is in it. -/
def start (f : PatternFlags) (text : List Char) : Bracket × List Char :=
  let text := f.advance text
  let (negated, text) := match text with
    | '^' :: rest => (true, f.advance rest)
    | _ => (false, text)
  match f.run (· = '-') text with
  | ([], ']' :: rest) => (⟨negated, none, [ofChar ']']⟩, f.advance rest)
  | (minuses, rest) => (⟨negated, none, minuses.map ofChar⟩, rest)

def asciiClasses : List (String × CharSet) :=
  [("alnum", .ranges (.ofText "30-39 41-5a 61-7a")), ("alpha", .ranges (.ofText "41-5a 61-7a")),
   ("ascii", .ranges (.ofText "0-7f")), ("blank", .ranges (.ofText "9 20")),
   ("cntrl", .ranges (.ofText "0-1f 7f")), ("digit", .ranges (.ofText "30-39")),
   ("graph", .ranges (.ofText "21-7e")), ("lower", .ranges (.ofText "61-7a")),
   ("print", .ranges (.ofText "20-7e")), ("punct", .ranges (.ofText "21-2f 3a-40 5b-60 7b-7e")),
   ("space", .ranges (.ofText "9-d 20")), ("upper", .ranges (.ofText "41-5a")),
   ("word", .asciiWordChars), ("xdigit", .ranges (.ofText "30-39 41-46 61-66"))]

/-- The name of a class, between colons, behind a bracket. -/
def asciiName? : List Char → Option (Bool × List Char × List Char)
  | ':' :: text =>
    let (negated, text) := match text with
      | '^' :: rest => (true, rest)
      | _ => (false, text)
    match text.dropWhile (· ≠ ':') with
    | ':' :: ']' :: rest => some (negated, text.takeWhile (· ≠ ':'), rest)
    | _ => none
  | _ => none

def asciiClass? (text : List Char) : Option (Bool × CharSet × List Char) := do
  let (negated, name, rest) ← asciiName? text
  let set ← asciiClasses.lookup (String.ofList name)
  return (negated, set, rest)

/-- A character or a class. -/
def atom? (f : PatternFlags) : List Char → Option (PatternAtom × List Char)
  | [] => none
  | '\\' :: text => PatternAtom.read? f text
  | c :: text => some (.char c, text)

def pieceOf? (f : PatternFlags) : PatternAtom → Option Piece
  | .char c => if f.ascii ∧ 128 ≤ c.toNat then none else some (ofChar c)
  | .set s => some ⟨s, 0⟩
  | .edge _ => none

def range? (f : PatternFlags) : PatternAtom → PatternAtom → Option Piece
  | .char a, .char b =>
    if b < a ∨ (f.ascii ∧ 128 ≤ b.toNat) then none else some ⟨.ranges [(a.toNat, b.toNat)], 0⟩
  | _, _ => none

/-- A character, a class or a range: a minus makes none in front of the end or of another minus. -/
def piece? (f : PatternFlags) (text : List Char) : Option (Piece × List Char) := do
  let (first, rest) ← atom? f text
  match f.advance rest with
  | '-' :: behind =>
    match f.advance behind with
    | ']' :: _ | '-' :: _ => return (← pieceOf? f first, '-' :: behind)
    | behind =>
      let (last, rest) ← atom? f behind
      return (← range? f first last, rest)
  | rest => return (← pieceOf? f first, rest)

/-! ## brackets -/

/-- Brackets that are open, from the inside to the outside; none are left when the last is closed. -/
def close (f : PatternFlags) (inner : Bracket) (outer : List Bracket) :
    Option (Piece ⊕ List Bracket) := do
  let p ← inner.close? f
  match outer with
  | [] => return .inl p
  | b :: outer => return .inr (b.add p :: outer)

def addNamed? (f : PatternFlags) (negated : Bool) (set : CharSet) (b : Bracket) : Option Bracket :=
  (PatternAtom.negatedIf? f negated (PatternAtom.foldedIn f set)).map fun s => b.add ⟨s, 0⟩

/-- One piece, operation or bracket. -/
def step? (f : PatternFlags) (inner : Bracket) (outer : List Bracket) (text : List Char) :
    Option ((Piece ⊕ List Bracket) × List Char) := do
  match f.advance text with
  | [] => none
  | '[' :: rest =>
    match asciiClass? rest with
    | some (negated, set, rest) =>
      return (.inr ((← addNamed? f negated set inner) :: outer), rest)
    | none =>
      let (b, rest) := start f rest
      return (.inr (b :: inner :: outer), rest)
  | ']' :: rest => return (← close f inner outer, rest)
  | '&' :: '&' :: rest => return (.inr (inner.combine f .intersection :: outer), rest)
  | '-' :: '-' :: rest => return (.inr (inner.combine f .difference :: outer), rest)
  | '~' :: '~' :: rest => return (.inr (inner.combine f .symmetricDifference :: outer), rest)
  | text =>
    let (p, rest) ← piece? f text
    return (.inr (inner.add p :: outer), rest)

/-- Every step leaves less of the text. -/
def readOpen? (f : PatternFlags) (brackets : List Bracket) (text : List Char) :
    Option (Piece × List Char) :=
  match brackets with
  | [] => none
  | inner :: outer =>
    match step? f inner outer text with
    | none => none
    | some (.inl p, rest) => some (p, rest)
    | some (.inr brackets, rest) =>
      if rest.length < text.length then readOpen? f brackets rest else none
termination_by text.length

def read? (f : PatternFlags) (text : List Char) : Option (Piece × List Char) :=
  let (b, rest) := start f text
  readOpen? f [b] rest

end Bracket
end Text
end FireflyOverlay
