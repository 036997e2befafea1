import FireflyOverlay.Text.Pattern.Bracket

/-!
# Reading patterns

* `PatternPart`      a pattern that has been read, and how deep it is nested;
* `PatternGroup`     a group that is open: its branches, and the parts of the last branch;
* `PatternReading`   the groups that are open, the flags, and the names of groups;
* `Pattern.ofText?`  the pattern of a text, unless it is malformed, nested too deep or too large.
-/

namespace FireflyOverlay
namespace Text

structure PatternPart where
  pattern : Pattern
  depth : Nat
  /-- it sets flags, and cannot be repeated -/
  isSetting : Bool
deriving DecidableEq, Repr

namespace PatternPart

/-- Two or more parts are nested one deeper. -/
def gather (join : Pattern → Pattern → Pattern) : List PatternPart → PatternPart
  | [] => ⟨.blank, 0, false⟩
  | [p] => { p with isSetting := false }
  | p :: rest =>
    ⟨rest.foldl (fun q r => join q r.pattern) p.pattern,
      rest.foldl (fun d r => max d r.depth) p.depth + 1, false⟩

end PatternPart

structure PatternGroup where
  /-- the flags behind the group -/
  outside : PatternFlags
  /-- the last branch is the first -/
  branches : List PatternPart
  /-- the last part is the first -/
  parts : List PatternPart
deriving DecidableEq, Repr

namespace PatternGroup

def empty (outside : PatternFlags) : PatternGroup := ⟨outside, [], []⟩

def add (p : PatternPart) (g : PatternGroup) : PatternGroup := { g with parts := p :: g.parts }

/-- A bar ends a branch. -/
def branch (g : PatternGroup) : PatternGroup :=
  { g with branches := .gather .andThen g.parts.reverse :: g.branches, parts := [] }

def whole (g : PatternGroup) : PatternPart := .gather .either g.branch.branches.reverse

/-- What is repeated is the last part. -/
def repeat? (least : Nat) (most : Option Nat) (g : PatternGroup) : Option PatternGroup :=
  match g.parts with
  | [] => none
  | p :: parts =>
    if p.isSetting then none
    else some { g with parts := ⟨p.pattern.repeated least most, p.depth + 1, false⟩ :: parts }

end PatternGroup

structure PatternReading where
  flags : PatternFlags
  group : PatternGroup
  /-- the groups around it, from the inside to the outside -/
  around : List PatternGroup
  names : List (List Char)
deriving DecidableEq, Repr

namespace PatternReading

def initial : PatternReading := ⟨.default, .empty .default, [], []⟩

def add (p : Pattern) (depth : Nat) (s : PatternReading) : PatternReading :=
  { s with group := s.group.add ⟨p, depth, false⟩ }

/-! ## groups -/

def openGroup (flags : PatternFlags) (s : PatternReading) : PatternReading :=
  { s with flags := flags, group := .empty s.flags, around := s.group :: s.around }

def closeGroup? (s : PatternReading) : Option PatternReading :=
  match s.around with
  | [] => none
  | outer :: around =>
    let p := s.group.whole
    some { s with
      flags := s.group.outside
      group := outer.add { p with depth := p.depth + 1 }
      around := around }

def isNameStart (c : Char) : Bool := c = '_' || Property.alphabetic.contains c

def isNameChar (c : Char) : Bool := ['_', '.', '[', ']'].contains c || isAlphanumeric c

/-- A name, up to a pointed bracket; no two groups have the same. -/
def named? (s : PatternReading) (text : List Char) : Option (PatternReading × List Char) :=
  let name := text.takeWhile (· ≠ '>')
  match name, text.dropWhile (· ≠ '>') with
  | c :: cs, _ :: rest =>
    if isNameStart c && cs.all isNameChar && !s.names.contains name then
      some ({ s.openGroup s.flags with names := name :: s.names }, rest)
    else none
  | _, _ => none

/-- Flags for the rest of the group, or for a group of their own. -/
def flagged? (s : PatternReading) (text : List Char) : Option (PatternReading × List Char) :=
  let isEnd (c : Char) : Bool := c = ':' || c = ')'
  let letters := text.takeWhile (!isEnd ·)
  match text.dropWhile (!isEnd ·) with
  | ':' :: rest => (s.flags.ofText? letters).map fun f => (s.openGroup f, rest)
  | ')' :: rest =>
    if letters = [] then none
    else (s.flags.ofText? letters).map fun f =>
      ({ s with flags := f, group := s.group.add ⟨.blank, 0, true⟩ }, rest)
  | _ => none

def opened? (s : PatternReading) (text : List Char) : Option (PatternReading × List Char) :=
  match s.flags.advance text with
  | '?' :: 'P' :: '<' :: rest => s.named? rest
  | '?' :: '<' :: rest => s.named? rest
  | '?' :: rest => s.flagged? rest
  | rest => some (s.openGroup s.flags, rest)

/-! ## repetitions -/

/-- A question mark behind a repetition prefers the shorter match, and so changes nothing. -/
def afterRepetition : List Char → List Char
  | '?' :: rest => rest
  | rest => rest

def decimal (digits : List Char) : Nat :=
  digits.foldl (fun n c => 10 * n + (c.toNat - '0'.toNat)) 0

def number? (f : PatternFlags) (text : List Char) : Option (Nat × List Char) :=
  let (digits, rest) := f.run Char.isDigit (text.dropWhile isSpace)
  let n := decimal digits
  if digits = [] ∨ 0x100000000 ≤ n then none else some (n, f.advance (rest.dropWhile isSpace))

/-- The counts in the braces: one, a least one, or both. -/
def counts? (f : PatternFlags) (text : List Char) : Option ((Nat × Option Nat) × List Char) := do
  let (least, rest) ← number? f (f.advance text)
  match rest with
  | '\x7d' :: rest => return ((least, some least), rest)
  | ',' :: rest =>
    match f.advance rest with
    | '\x7d' :: rest => return ((least, none), rest)
    | rest =>
      let (most, rest) ← number? f rest
      match rest with
      | '\x7d' :: rest => if least ≤ most then return ((least, some most), rest) else none
      | _ => none
  | _ => none

def repeated? (s : PatternReading) (least : Nat) (most : Option Nat) (rest : List Char) :
    Option (PatternReading × List Char) :=
  (s.group.repeat? least most).map fun g => ({ s with group := g }, afterRepetition rest)

/-! ## parts -/

def dot? (f : PatternFlags) : Option Pattern :=
  if f.ascii then none
  else if f.dotsAll then some (.one .all)
  else if f.returns then some (.one (.complement (.ofChars ['\r', '\n'])))
  else some (.one (.complement (.single '\n')))

def atom (f : PatternFlags) : PatternAtom → Pattern
  | .char c => .one (PatternAtom.foldedIn f (.single c))
  | .set s => .one s
  | .edge e => .edge e

/-- One part, bracket, bar or repetition, with which the rest of the text starts. -/
def step? (s : PatternReading) : List Char → Option (PatternReading × List Char)
  | [] => none
  | '(' :: rest => s.opened? rest
  | ')' :: rest => s.closeGroup?.map (·, rest)
  | '|' :: rest => some ({ s with group := s.group.branch }, rest)
  | '[' :: rest => (Bracket.read? s.flags rest).map fun (p, rest) => (s.add (.one p.set) p.depth, rest)
  | '?' :: rest => s.repeated? 0 (some 1) rest
  | '*' :: rest => s.repeated? 0 none rest
  | '+' :: rest => s.repeated? 1 none rest
  | '\x7b' :: rest => do
    let ((least, most), rest) ← counts? s.flags rest
    s.repeated? least most (s.flags.advance rest)
  | '\\' :: rest => (PatternAtom.read? s.flags rest).map fun (a, rest) => (s.add (atom s.flags a) 0, rest)
  | '.' :: rest => (dot? s.flags).map fun p => (s.add p 0, rest)
  | '^' :: rest =>
    let e := if s.flags.manyLines then Edge.lineStart s.flags.returns else .textStart
    some (s.add (.edge e) 0, rest)
  | '$' :: rest =>
    let e := if s.flags.manyLines then Edge.lineEnd s.flags.returns else .textEnd
    some (s.add (.edge e) 0, rest)
  | c :: rest => some (s.add (atom s.flags (.char c)) 0, rest)

/-- Every step leaves less of the text. -/
def readAll? (s : PatternReading) (text : List Char) : Option PatternReading :=
  match s.flags.advance text with
  | [] => some s
  | c :: cs =>
    match s.step? (c :: cs) with
    | none => none
    | some (s, rest) => if rest.length < text.length then s.readAll? rest else none
termination_by text.length

end PatternReading

/-- A pattern that is nested deeper is refused. -/
def Pattern.maxDepth : Nat := 250

def Pattern.ofText? (text : List Char) : Option Pattern := do
  let s ← PatternReading.initial.readAll? text
  let p := s.group.whole
  if s.around = [] ∧ p.depth ≤ maxDepth ∧ p.pattern.cost ≤ maxCost then return p.pattern
  else none

end Text
end FireflyOverlay
