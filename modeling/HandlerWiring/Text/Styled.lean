import HandlerWiring.Decimal.Format

/-!
# Styled texts

A terminal shows a text in a style between two marks: one that sets the style and one that resets
it. A reset inside the text would end the style too early, so the style is set again behind it.
Without colours a text stands for itself.
-/

namespace HandlerWiring.Text

/-- A style: the numbers of its attributes, in the order in which they are set. -/
abbrev Style := List Nat

namespace Style

def bold : Style := [1]
def dimmed : Style := [2]
def red : Style := [31]
def green : Style := [32]
def blue : Style := [34]
def yellow : Style := [33]
def boldRed : Style := [1, 31]
def boldGreen : Style := [1, 32]
def boldYellow : Style := [1, 33]
def boldBlue : Style := [1, 34]
def boldCyan : Style := [1, 36]

/-- The mark that sets a style. -/
def mark (s : Style) : List Char :=
  ['\x1b', '['] ++ List.intercalate [';'] (s.map Decimal.digitsOf) ++ ['m']

/-- The mark that resets every style. -/
def reset : List Char := ['\x1b', '[', '0', 'm']

end Style

/-- A text in which a mark stands behind each reset. -/
def setAgain (mark : List Char) : List Char → List Char
  | '\x1b' :: '[' :: '0' :: 'm' :: rest => Style.reset ++ mark ++ setAgain mark rest
  | c :: rest => c :: setAgain mark rest
  | [] => []

/-- A text in a style, if there are colours. -/
def styled (colours : Bool) (style : Style) (text : String) : String :=
  if colours then
    String.ofList (style.mark ++ setAgain style.mark text.toList ++ Style.reset)
  else text

/-- A text with blanks behind it up to a width in characters. -/
def leftAligned (width : Nat) (text : String) : String :=
  text ++ String.ofList (List.replicate (width - text.length) ' ')

end HandlerWiring.Text
