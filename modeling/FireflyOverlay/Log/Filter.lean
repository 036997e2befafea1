import FireflyOverlay.Log.Record
import FireflyOverlay.Text.Pattern.Reader

/-!
# Which records are logged

A filter is written as a list of rules with commas between them.  A rule is a level, `off`, a target, or
a target with a level behind an equals sign; a target alone stands for all levels.  Behind a slash there
may be a pattern that must occur in the messages.

* `LogRule`           the levels that are logged for the targets with a given beginning;
* `LogFilter.ofText?` reads a filter, and fails if a rule or the pattern is malformed;
* `LogFilter.allows`  the first rule for a target decides; rules with long beginnings come first;
* `LogFilter.highest` the highest level that any rule logs.
-/

namespace FireflyOverlay

structure LogRule where
  /-- the beginning of the targets that the rule is for -/
  target : List Char
  /-- the highest rank that is logged -/
  limit : Nat
deriving DecidableEq, Repr

structure LogFilter where
  rules : List LogRule
  /-- what must occur in messages -/
  wanted : Option Text.Pattern
deriving DecidableEq, Repr

namespace LogRule

/-- The bytes of the beginning. -/
def length (r : LogRule) : Nat := (String.ofList r.target).utf8ByteSize

/-- Small and capital letters are the same in levels. -/
def limit? (text : List Char) : Option Nat :=
  let name := String.ofList (text.map Char.toUpper)
  if name = "OFF" then some 0 else (Level.all.find? (·.name = name)).map (·.rank)

def everything : Nat := Level.trace.rank

/-- Reads a rule that is not empty. -/
def ofText? (text : List Char) : Option LogRule :=
  match (Text.split '=' text).map Text.trim with
  | [a] =>
    if a.any Text.isSpace then none
    else match limit? a with
      | some limit => some ⟨[], limit⟩
      | none => some ⟨a, everything⟩
  | [a, []] => if a.any Text.isSpace then none else some ⟨a, everything⟩
  | [a, b] => if a.any Text.isSpace then none else (limit? b).map (LogRule.mk a)
  | _ => none

end LogRule

namespace LogFilter

def rules? (text : List Char) : Option (List LogRule) :=
  (((Text.split ',' text).map Text.trim).filter (!·.isEmpty)).mapM LogRule.ofText?

/-- Rules with long beginnings first; rules as long as each other stay in order. -/
def ofRules (rules : List LogRule) (wanted : Option Text.Pattern) : LogFilter :=
  ⟨rules.mergeSort fun a b => b.length ≤ a.length, wanted⟩

def ofText? (text : String) : Option LogFilter :=
  match Text.split '/' text.toList with
  | [rules] => (rules? rules).map (ofRules · none)
  | [rules, wanted] => do return ofRules (← rules? rules) (some (← Text.Pattern.ofText? wanted))
  | _ => none

/-- Targets that no rule is for are not logged. -/
def limit (f : LogFilter) (target : String) : Nat :=
  match f.rules.find? (·.target.isPrefixOf target.toList) with
  | some r => r.limit
  | none => 0

def allows (f : LogFilter) (target : String) (r : LogRecord) : Bool :=
  r.level.rank ≤ f.limit target && f.wanted.all (·.occursIn r.message.toList)

/-- Records of a higher level are logged for no target. -/
def highest (f : LogFilter) : Nat := f.rules.foldl (fun rank r => max rank r.limit) 0

end LogFilter
end FireflyOverlay
