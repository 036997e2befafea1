import FireflyOverlay.Text.Unprintable

/-!
# Quoted text

A text between double quotes, in which every character can be seen: quotes and backslashes are
marked by a backslash, and a character that does not show is written as its number.
-/

namespace FireflyOverlay
namespace Text

def codePoint (c : Char) : List Char :=
  ['\\', 'u', '\x7b'] ++ Nat.toDigits 16 c.toNat ++ ['\x7d']

/-- How one character is written between the quotes. -/
def escape (c : Char) : List Char :=
  if c = '\x00' then ['\\', '0']
  else if c = '\t' then ['\\', 't']
  else if c = '\n' then ['\\', 'n']
  else if c = '\r' then ['\\', 'r']
  else if c = '\\' ∨ c = '"' then ['\\', c]
  else if graphemeExtenders.contains c || unprintables.contains c then codePoint c
  else [c]

def quoted (text : String) : String :=
  String.ofList ('"' :: text.toList.flatMap escape ++ ['"'])

end Text
end FireflyOverlay
