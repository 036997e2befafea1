import FireflyOverlay.Text.Ranges

/-!
# White space

* `Text.isSpace`   blanks, tabs, line ends and the spaces of other scripts;
* `Text.trim`      a text without the white space at its ends.
-/

namespace FireflyOverlay
namespace Text

def spaces : Ranges := .ofText "9-d 20 85 a0 1680 2000-200a 2028-2029 202f 205f 3000"

def isSpace (c : Char) : Bool := spaces.contains c

def trim (text : List Char) : List Char :=
  ((text.dropWhile isSpace).reverse.dropWhile isSpace).reverse

end Text
end FireflyOverlay
