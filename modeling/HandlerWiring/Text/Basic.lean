/-!
# Texts

What the library does with texts as such: the blanks around them, comparison without regard to the
case of ASCII letters, and the pieces between marks.

A character is *blank* when it has the Unicode property `White_Space`: the tabs and line ends,
the space and the no-break space, the Ogham mark, the typographic spaces from en quad to hair
space, the two separators, and the narrow, mathematical and ideographic spaces. Trimming takes
the blanks from both ends of a text and keeps those inside.
-/

namespace HandlerWiring.Text

/-! ## Blanks -/

/-- Whether a character has the property `White_Space`. -/
def isBlank (c : Char) : Bool :=
  (0x9 ≤ c.val && c.val ≤ 0xd) || c.val == 0x20 || c.val == 0x85 || c.val == 0xa0 ||
    c.val == 0x1680 || (0x2000 ≤ c.val && c.val ≤ 0x200a) || c.val == 0x2028 ||
    c.val == 0x2029 || c.val == 0x202f || c.val == 0x205f || c.val == 0x3000

/-- A text without the blanks it starts with. -/
def trimStart (cs : List Char) : List Char :=
  cs.dropWhile isBlank

/-- A text without the blanks it ends with. -/
def trimEnd (cs : List Char) : List Char :=
  (cs.reverse.dropWhile isBlank).reverse

/-- A text without the blanks at its two ends. -/
def trim (cs : List Char) : List Char :=
  trimEnd (trimStart cs)

/-- `trim` on strings. -/
def trimmed (s : String) : String :=
  String.ofList (trim s.toList)

@[simp] theorem trim_nil : trim [] = [] := rfl

/-! ## Case

Only the letters `A` to `Z` have a lower case form here; every other character, accented letters
included, equals itself alone. -/

/-- A text with `A` to `Z` replaced by `a` to `z`. -/
def lowered (s : String) : String :=
  String.ofList (s.toList.map Char.toLower)

/-- Whether two texts agree up to the case of ASCII letters. -/
def sameIgnoringCase (a b : String) : Bool :=
  lowered a == lowered b

/-! ## Pieces

A text cut at each occurrence of a mark. There is always one piece more than there are marks, so a
text that ends in a mark has an empty last piece, and the pieces determine the text. Its lines are
its pieces at line feeds. -/

/-- The pieces between the marks of a text. -/
def piecesAt (mark : Char) : List Char → List (List Char)
  | [] => [[]]
  | c :: cs =>
    if c = mark then [] :: piecesAt mark cs
    else match piecesAt mark cs with
      | [] => [[c]]
      | piece :: rest => (c :: piece) :: rest

/-- The lines of a text. -/
def lines (cs : List Char) : List (List Char) := piecesAt '\n' cs

end HandlerWiring.Text
