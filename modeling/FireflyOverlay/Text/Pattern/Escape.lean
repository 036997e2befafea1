import FireflyOverlay.Text.Pattern.Flags
import FireflyOverlay.Text.Pattern.Property

/-!
# Escapes in patterns

Behind a backslash stands a character with a meaning of its own, or one that is meant as it is.

* `PatternAtom`          a character, a set of characters, or an edge;
* `PatternAtom.read?`    reads what is behind a backslash.
-/

namespace FireflyOverlay
namespace Text

inductive PatternAtom where
  | char (c : Char)
  | set (s : CharSet)
  | edge (e : Edge)
deriving DecidableEq, Repr

/-- A number as a character, where it is one. -/
def charOfNat? (n : Nat) : Option Char := if n.isValidChar then some (.ofNat n) else none

namespace PatternAtom

def isHexDigit (c : Char) : Bool :=
  c.isDigit || ('a' ≤ c && c ≤ 'f') || ('A' ≤ c && c ≤ 'F')

/-- These have a meaning outside of escapes. -/
def isMeta (c : Char) : Bool := "\\.+*?()|[]\x7b\x7d^$#&-~".toList.contains c

/-- A backslash may also stand in front of characters that do not need one. -/
def isEscapable (c : Char) : Bool :=
  isMeta c || (c.toNat < 128 && !c.isAlphanum && c ≠ '<' && c ≠ '>')

/-! ## numbers of characters -/

/-- Exactly `n` hexadecimal digits. -/
def hexDigits? (f : PatternFlags) : Nat → List Char → Option (List Char × List Char)
  | 0, text => some ([], text)
  | n + 1, c :: cs =>
    if isHexDigit c then (hexDigits? f n (f.advance cs)).map fun (l, rest) => (c :: l, rest) else none
  | _ + 1, [] => none

def charOfDigits? (digits : List Char) : Option Char :=
  charOfNat? (Hex.number (digits.map Char.toLower))

/-- A character by its number: in braces, or with a fixed number of digits. -/
def numbered? (f : PatternFlags) (digits : Nat) (text : List Char) :
    Option (PatternAtom × List Char) :=
  match f.advance text with
  | '\x7b' :: rest =>
    match f.run (· ≠ '\x7d') (f.advance rest) with
    | (found, _ :: rest) =>
      if found ≠ [] ∧ found.all isHexDigit then
        (charOfDigits? found).map fun c => (char c, f.advance rest)
      else none
    | (_, []) => none
  | text => do
    let (found, rest) ← hexDigits? f digits text
    let c ← charOfDigits? found
    if f.ascii ∧ digits = 2 ∧ 128 ≤ c.toNat then none else some (char c, rest)

/-! ## sets -/

def foldedIn (f : PatternFlags) (s : CharSet) : CharSet :=
  if !f.ignoresCase then s else if f.ascii then .foldedAscii s else .folded s

/-- A set or, if it is negated, all other characters. -/
def negatedIf? (f : PatternFlags) (negated : Bool) (s : CharSet) : Option CharSet :=
  if !negated then some s else if f.ascii then none else some (.complement s)

def classSet (f : PatternFlags) (letter : Char) : CharSet :=
  match letter with
  | 'd' => if f.ascii then .asciiDigits else .digits
  | 's' => if f.ascii then .asciiBlanks else .blanks
  | _ => if f.ascii then .asciiWordChars else .wordChars

/-- The parts of a text before and behind a mark. -/
def cutAt (mark : List Char) : List Char → Option (List Char × List Char)
  | [] => none
  | c :: cs =>
    if mark.isPrefixOf (c :: cs) then some ([], (c :: cs).drop mark.length)
    else (cutAt mark cs).map fun (before, behind) => (c :: before, behind)

/-- The name in the braces: a property, or a kind and a value with `!=`, a colon or `=` between them.
The first part says whether the others are meant. -/
def property? (name : List Char) : Option (Bool × CharSet) :=
  match cutAt ['!', '='] name with
  | some (kind, value) => (Property.set? (some kind) value).map (true, ·)
  | none =>
    match (cutAt [':'] name).or (cutAt ['='] name) with
    | some (kind, value) => (Property.set? (some kind) value).map (false, ·)
    | none => (Property.set? none name).map (false, ·)

def propertySet? (f : PatternFlags) (negated : Bool) (name : List Char) : Option PatternAtom := do
  if f.ascii then none
  else
    let (otherwise, s) ← property? name
    return set (← negatedIf? f (negated != otherwise) (foldedIn f s))

def ofProperty? (f : PatternFlags) (negated : Bool) (text : List Char) :
    Option (PatternAtom × List Char) :=
  match f.advance text with
  | '\x7b' :: rest =>
    match f.run (· ≠ '\x7d') (f.advance rest) with
    | (name, _ :: rest) => (propertySet? f negated name).map (·, rest)
    | (_, []) => none
  | c :: rest => (propertySet? f negated [c]).map (·, f.advance rest)
  | [] => none

/-! ## edges of words -/

def wordEdgeNames : List (String × WordEdge) :=
  [("start", .start), ("end", .stop), ("start-half", .startHalf), ("end-half", .stopHalf)]

/-- Braces behind `b` name an edge, unless what they start with can be no name: then they count
repetitions. -/
def wordEdge? (f : PatternFlags) (text : List Char) : Option (PatternAtom × List Char) :=
  let isName (c : Char) : Bool := c.isAlpha || c = '-'
  match text with
  | '\x7b' :: rest =>
    match f.advance rest with
    | [] => none
    | c :: cs =>
      if isName c then
        match f.run isName (c :: cs) with
        | (name, '\x7d' :: rest) =>
          (wordEdgeNames.lookup (String.ofList name)).map fun kind => (edge (.word kind f.ascii), rest)
        | _ => none
      else some (edge (.word .any f.ascii), text)
  | _ => some (edge (.word .any f.ascii), text)

/-! ## escapes -/

/-- Letters for characters that do not show. -/
def controls : List (Char × Char) :=
  [('a', '\x07'), ('f', '\x0c'), ('t', '\t'), ('n', '\n'), ('r', '\r'), ('v', '\x0b')]

def read? (f : PatternFlags) : List Char → Option (PatternAtom × List Char)
  | [] => none
  | c :: rest =>
    if isEscapable c then some (char c, rest)
    else if let some control := controls.lookup c then some (char control, rest)
    else match c with
      | 'x' => numbered? f 2 rest
      | 'u' => numbered? f 4 rest
      | 'U' => numbered? f 8 rest
      | 'p' => ofProperty? f false rest
      | 'P' => ofProperty? f true rest
      | 'd' | 's' | 'w' => some (set (classSet f c), rest)
      | 'D' | 'S' | 'W' => (negatedIf? f true (classSet f c.toLower)).map fun s => (set s, rest)
      | 'A' => some (edge .textStart, rest)
      | 'z' => some (edge .textEnd, rest)
      | 'b' => wordEdge? f rest
      | 'B' => some (edge (.word .none f.ascii), rest)
      | '<' => some (edge (.word .start f.ascii), rest)
      | '>' => some (edge (.word .stop f.ascii), rest)
      | _ => none

end PatternAtom
end Text
end FireflyOverlay
