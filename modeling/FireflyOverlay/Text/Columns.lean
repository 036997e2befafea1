import FireflyOverlay.Text.Escape
import FireflyOverlay.Text.Unprintable

/-!
# Columns of a terminal

* `Text.charColumns`   the columns that a character takes: none for controls and for marks that join
                       the character before them, two for the wide ones of East Asia, else one;
                       a few have a width of their own;
* `Text.columns`       the columns of a text; its escape sequences take none.
-/

namespace FireflyOverlay
namespace Text

/-- Characters that take no column and are no grapheme extenders. -/
def columnless : Ranges := .ofLines
  ["ad 34f 5c8-5c9 605 61c 70f 890-891 8e2 b53-b54 115f-11ff 17b4-17b5 180b-180f 1ade-1adf",
   "1aec-1aff 200b-200f 202a-202e 2060-206f 3164 a8fa d7b0-d7c6 d7cb-d7fb fe00-fe0f feff ffa0",
   "fff0-fff8 10ecb-10ecf 10ef2-10ef9 113d1 11a84-11a89 11f02 1bca0-1bca3 1d127-1d128",
   "1d173-1d17a 1d250 e0000-e0fff"]

def wide : Ranges := .ofLines
  ["1100-115f 231a-231b 2329-232a 23e9-23ec 23f0 23f3 25fd-25fe 2614-2615 2630-2637 2648-2653",
   "267f 268a-268f 2693 26a1 26aa-26ab 26bd-26be 26c4-26c5 26ce 26d4 26ea 26f2-26f3 26f5 26fa",
   "26fd 2705 270a-270b 2728 274c 274e 2753-2755 2757 2795-2797 27b0 27bf 2b1b-2b1c 2b50 2b55",
   "2e80-2e99 2e9b-2ef3 2f00-2fd5 2ff0-303e 3041-3096 3099-30ff 3105-312f 3131-318e 3190-31e5",
   "31ef-321e 3220-3247 3250-a48c a490-a4c6 a960-a97c ac00-d7a3 f900-faff fe10-fe19 fe30-fe52",
   "fe54-fe66 fe68-fe6b ff01-ff60 ffe0-ffe6 16fe0-16fe4 16ff0-16ff6 17000-18d1e 18d80-18df2",
   "18e00-191df 1aff0-1aff3 1aff5-1affb 1affd-1affe 1b000-1b12f 1b132 1b150-1b152 1b155",
   "1b164-1b2fb 1d300-1d356 1d360-1d376 1f004 1f0cf 1f18e 1f191-1f19a 1f1ae 1f200-1f202",
   "1f210-1f23b 1f240-1f248 1f250-1f251 1f260-1f265 1f300-1f320 1f32d-1f335 1f337-1f37c",
   "1f37e-1f393 1f3a0-1f3ca 1f3cf-1f3d3 1f3e0-1f3f0 1f3f4 1f3f8-1f43e 1f440 1f442-1f4fc",
   "1f4ff-1f53d 1f54b-1f54e 1f550-1f567 1f57a 1f595-1f596 1f5a4 1f5fb-1f64f 1f680-1f6c5 1f6cc",
   "1f6d0-1f6d2 1f6d5-1f6d9 1f6dc-1f6df 1f6eb-1f6ec 1f6f4-1f6fc 1f7e0-1f7eb 1f7f0 1f90c-1f93a",
   "1f93c-1f945 1f947-1f9ff 1fa70-1fa7c 1fa80-1fac6 1fac8 1facc-1fadd 1fadf-1faeb 1faef-1fafa",
   "20000-2fffd 30000-3fffd"]

def isControl (c : Char) : Bool := c.toNat < 0x20 || (0x7f ≤ c.toNat && c.toNat < 0xa0)

/-- Widths that do not follow from the kind of the character: a filler stands for a whole syllable, a
ligature is as wide as its letters, and one joiner is shown. -/
def exceptional : List (Char × Nat) :=
  [('\u115f', 2), ('\u17a4', 2), ('\u17d8', 3), ('\u2d7f', 1)]

def charColumns (c : Char) : Nat :=
  if isControl c then 0
  else if c.toNat < 0x7f then 1
  else match exceptional.lookup c with
    | some n => n
    | none =>
      if graphemeExtenders.contains c || columnless.contains c then 0
      else if wide.contains c then 2
      else 1

/-- A character that is not shown takes no column. -/
def Cell.columns (x : Cell) : Nat := if x.shown then charColumns x.char else 0

def columns (text : List Char) : Nat := (cells text).foldr (fun x n => x.columns + n) 0

end Text
end FireflyOverlay
