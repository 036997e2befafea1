import FireflyOverlay.Display.Summary
import FireflyOverlay.Scalar

/-!
# Transcripts

A transcript tells of the calls of a trace, one line for each.  The seven calls that draw a firefly are
not told one by one: fireflies in a row are a line with their number.

* `TranscriptLine`             a line, and the call that it tells of if there is one;
* `Transcript.isFirefly`       the next calls draw a firefly;
* `Transcript.condense`        the text of the lines, fireflies counted;
* `Transcript.ofCalls`         the calls of a trace, each new state in front of the first call that
                               finds it;
* `Transcript.ofSummaries`     the summaries of a trace.
-/

namespace FireflyOverlay
open Scalar

structure TranscriptLine (α : Type) where
  text : String
  call : Option (Call α)

namespace Transcript

variable {α : Type}

section
variable [Scalar α]

/-- Equal as numbers; what is no number equals nothing. -/
def same (a b : α) : Bool := a ≤ b && b ≤ a

/-- White of any opacity that is a number. -/
def isWhite (c : Color α) : Bool := same c.r 1 && same c.g 1 && same c.b 1 && same c.a c.a

def isFirefly (lines : List (TranscriptLine α)) : Bool :=
  match (lines.take 7).map TranscriptLine.call with
  | [some (.draw (.setModelView _)), some (.draw (.setFrontFace .counterClockwise)),
     some (.draw .enableQuadArrays), some (.draw (.setColor c)),
     some (.draw (.drawElements indices)), some (.draw (.setColor d)),
     some (.draw .disableQuadArrays)] =>
    isWhite c && indices.length == 6 && isWhite d && same d.a 1
  | _ => false

def fireflies : Nat → List String
  | 0 => []
  | count => [s!"firefly*{count}"]

/-- `told` calls of a firefly are still to come; `count` fireflies in a row were drawn. -/
def condenseFrom : List (TranscriptLine α) → (told count : Nat) → List String
  | [], _, count => fireflies count
  | _ :: rest, told + 1, count => condenseFrom rest told count
  | line :: rest, 0, count =>
    if isFirefly (line :: rest) then condenseFrom rest 6 (count + 1)
    else fireflies count ++ line.text :: condenseFrom rest 0 0

def condense (lines : List (TranscriptLine α)) : List String := condenseFrom lines 0 0

end

def stateLine : Option Lifecycle → List (TranscriptLine α)
  | some state => [⟨"state:" ++ state.name, none⟩]
  | none => []

/-- `fresh` is the last state that was reached and not told. -/
def callsFrom (number : α → String) :
    List (Event α) → (fresh : Option Lifecycle) → List (TranscriptLine α)
  | [], _ => []
  | .state state :: rest, _ => callsFrom number rest (some state)
  | .log _ :: rest, fresh | .request _ :: rest, fresh => callsFrom number rest fresh
  | .call c _ :: rest, fresh =>
    if c.isQuery then callsFrom number rest fresh
    else stateLine fresh ++ ⟨c.text number, some c⟩ :: callsFrom number rest none

def ofCalls [Scalar α] (number : α → String) (trace : Array (Event α)) : List String :=
  condense (callsFrom number trace.toList none)

/-- The line for an event, if it has a summary that is kept. -/
def summaryLine? (number : α → String) (kept : CallSummary α → Bool) :
    Event α → Option (TranscriptLine α)
  | .call c (some reply) =>
    match CallSummary.ofCall? c reply with
    | some summary => if kept summary then some ⟨summary.text number, some c⟩ else none
    | none => none
  | _ => none

def ofSummaries [Scalar α] (number : α → String) (kept : CallSummary α → Bool)
    (trace : Array (Event α)) : List String :=
  condense (trace.toList.filterMap (summaryLine? number kept))

end Transcript
end FireflyOverlay
