import FireflyOverlay.Text.CharSet

/-!
# Properties of characters, by name

* `Property.set?`   the characters with a property: a general category, a group of categories, or one
                    of a few properties that are none.

Names may have small and capital letters, blanks, underscores and hyphens, and an `is` in front.
-/

namespace FireflyOverlay
namespace Text
namespace Property

open Category

def cased : List Category := [uppercaseLetter, lowercaseLetter, titlecaseLetter]
def letters : List Category := cased ++ [modifierLetter, otherLetter]
def marks : List Category := [nonspacingMark, spacingMark, enclosingMark]
def numbers : List Category := [decimalNumber, letterNumber, otherNumber]
def punctuation : List Category :=
  [connectorPunctuation, dashPunctuation, openPunctuation, closePunctuation, initialPunctuation,
   finalPunctuation, otherPunctuation]
def symbols : List Category := [mathSymbol, currencySymbol, modifierSymbol, otherSymbol]
def separators : List Category := [spaceSeparator, lineSeparator, paragraphSeparator]
def controls : List Category := [control, format, privateUse]

/-- All that stand for something. -/
def visible : List Category := letters ++ marks ++ numbers ++ punctuation ++ symbols ++ separators

def categoryNames : List (List String × List Category) :=
  [(["l", "letter"], letters), (["lc", "casedletter"], cased),
   (["lu", "uppercaseletter"], [uppercaseLetter]), (["ll", "lowercaseletter"], [lowercaseLetter]),
   (["lt", "titlecaseletter"], [titlecaseLetter]), (["lm", "modifierletter"], [modifierLetter]),
   (["lo", "otherletter"], [otherLetter]),
   (["m", "mark", "combiningmark"], marks), (["mn", "nonspacingmark"], [nonspacingMark]),
   (["mc", "spacingmark"], [spacingMark]), (["me", "enclosingmark"], [enclosingMark]),
   (["n", "number"], numbers), (["nd", "decimalnumber", "digit"], [decimalNumber]),
   (["nl", "letternumber"], [letterNumber]), (["no", "othernumber"], [otherNumber]),
   (["p", "punctuation", "punct"], punctuation),
   (["pc", "connectorpunctuation"], [connectorPunctuation]),
   (["pd", "dashpunctuation"], [dashPunctuation]),
   (["ps", "openpunctuation"], [openPunctuation]),
   (["pe", "closepunctuation"], [closePunctuation]),
   (["pi", "initialpunctuation"], [initialPunctuation]),
   (["pf", "finalpunctuation"], [finalPunctuation]),
   (["po", "otherpunctuation"], [otherPunctuation]),
   (["s", "symbol"], symbols), (["sm", "mathsymbol"], [mathSymbol]),
   (["sc", "currencysymbol"], [currencySymbol]), (["sk", "modifiersymbol"], [modifierSymbol]),
   (["so", "othersymbol"], [otherSymbol]),
   (["z", "separator"], separators), (["zs", "spaceseparator"], [spaceSeparator]),
   (["zl", "lineseparator"], [lineSeparator]), (["zp", "paragraphseparator"], [paragraphSeparator]),
   (["cc", "control", "cntrl"], [control]), (["cf", "format"], [format]),
   (["co", "privateuse"], [privateUse])]

def assigned : CharSet := .categories (visible ++ controls)

/-- A category, or a set that is counted among them. -/
def categorySet? (name : String) : Option CharSet :=
  if name = "any" then some .all
  else if name = "ascii" then some (.ranges [(0, 127)])
  else if name = "assigned" then some assigned
  else if name = "cn" ∨ name = "unassigned" then some (.complement assigned)
  else if name = "c" ∨ name = "other" then some (.complement (.categories visible))
  else (categoryNames.find? (·.1.contains name)).map fun entry => .categories entry.2

def alphabetic : CharSet := .difference .alphanumerics (.categories [decimalNumber, otherNumber])

def lowercase : CharSet := .union (.categories [lowercaseLetter]) <| .ranges <| .ofLines
  ["aa ba 2b0-2b8 2c0-2c1 2e0-2e4 345 37a 10fc 1d2c-1d6a 1d78 1d9b-1dbf 2071 207f 2090-209c",
   "2170-217f 24d0-24e9 2c7c-2c7d a69c-a69d a770 a7f1-a7f4 a7f8-a7f9 ab5c-ab5f ab69 10780",
   "10783-10785 10787-107b0 107b2-107ba 1e030-1e06d"]

def uppercase : CharSet := .union (.categories [uppercaseLetter]) <| .ranges <| .ofText
  "2160-216f 24b6-24cf 1f130-1f149 1f150-1f169 1f170-1f189"

def otherSets : List (List String × CharSet) :=
  [(["alphabetic", "alpha"], alphabetic), (["lowercase", "lower"], lowercase),
   (["uppercase", "upper"], uppercase), (["whitespace", "wspace", "space"], .blanks),
   (["asciihexdigit", "ahex"], .ranges (.ofText "30-39 41-46 61-66")),
   (["hexdigit", "hex"], .ranges (.ofText "30-39 41-46 61-66 ff10-ff19 ff21-ff26 ff41-ff46"))]

/-- A name in small letters; an `is` in front is left out, unless only a `c` follows. -/
def normal (name : List Char) : List Char :=
  let small (text : List Char) : List Char :=
    (text.filter fun c => c.toNat < 128 && c ≠ '_' && c ≠ '-' && c ≠ ' ').map Char.toLower
  match name with
  | a :: b :: rest =>
    if [a.toLower, b.toLower] = ['i', 's'] ∧ small rest ≠ ['c'] then small rest else small name
  | _ => small name

def named? (name : List Char) : Option CharSet :=
  let name := String.ofList (normal name)
  match otherSets.find? (·.1.contains name) with
  | some (_, set) => some set
  | none => categorySet? name

/-- A property may be given with its kind, which is the general category. -/
def set? (kind : Option (List Char)) (name : List Char) : Option CharSet :=
  match kind with
  | none => named? name
  | some kind =>
    if ["generalcategory", "gc"].contains (String.ofList (normal kind)) then
      categorySet? (String.ofList (normal name))
    else none

end Property
end Text
end FireflyOverlay
