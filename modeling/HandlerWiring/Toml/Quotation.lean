import HandlerWiring.Json.Quotation

/-!
# Quoted texts of a settings document

Four ways to quote a text: between double quotes with escapes or between apostrophes without, on
one line or, the mark written three times, over several. Over several lines a line end is a single
line feed however it is written, one directly behind the opening mark does not count, and a
backslash before a line end joins the lines and drops the blanks between them.
-/

namespace HandlerWiring.Toml

/-- Whether a character may stand on a line: the tab and what is no control character. -/
def isLineText (c : Char) : Bool :=
  c = '\t' || (0x20 ≤ c.val && c.val != 0x7f)

/-- A space or a tab. -/
def isSpace (c : Char) : Bool := c = ' ' || c = '\t'

/-- The text behind spaces and tabs. -/
def skipSpaces (cs : List Char) : List Char := cs.dropWhile isSpace

/-- The text behind a line end, if one begins here. -/
def lineEnd? : List Char → Option (List Char)
  | '\n' :: rest => some rest
  | '\r' :: '\n' :: rest => some rest
  | _ => none

namespace Quotation

/-- The character that an escape of one letter stands for. -/
def short? : Char → Option Char
  | 'b' => some '\x08'
  | 'f' => some '\x0c'
  | 'n' => some '\n'
  | 'r' => some '\r'
  | 't' => some '\t'
  | '\\' => some '\\'
  | '"' => some '"'
  | _ => none

/-- The character with a number, if there is one. -/
def scalar? (n : Nat) : Option Char :=
  if h : n.isValidChar then some (Char.ofNatAux n h) else none

/-- The character that four hexadecimal digits stand for. -/
def four? (a b c d : Char) : Option Char :=
  (Json.Quotation.quad? a b c d).bind scalar?

/-- The character that eight hexadecimal digits stand for. -/
def eight? (a b c d e f g h : Char) : Option Char := do
  let high ← Json.Quotation.quad? a b c d
  let low ← Json.Quotation.quad? e f g h
  scalar? (high * 0x10000 + low)

/-- What a reader has after one more character. -/
def prepend (c : Char) : Option (List Char × List Char) → Option (List Char × List Char) :=
  Option.map fun (cs, rest) => (c :: cs, rest)

/-- Read up to the closing double quote. -/
def readBasic : List Char → Option (List Char × List Char)
  | [] => none
  | c :: cs =>
    if c = '"' then some ([], cs)
    else if c = '\\' then
      match cs with
      | 'u' :: a :: b :: c :: d :: rest => (four? a b c d).bind fun x => prepend x (readBasic rest)
      | 'U' :: a :: b :: c :: d :: e :: f :: g :: h :: rest =>
        (eight? a b c d e f g h).bind fun x => prepend x (readBasic rest)
      | e :: rest => (short? e).bind fun x => prepend x (readBasic rest)
      | [] => none
    else if isLineText c then prepend c (readBasic cs)
    else none
termination_by structural cs => cs

/-- Read up to the closing apostrophe. -/
def readLiteral : List Char → Option (List Char × List Char)
  | [] => none
  | c :: cs =>
    if c = '\'' then some ([], cs)
    else if isLineText c then prepend c (readLiteral cs)
    else none

/-- The end of a text over several lines, behind three marks: up to two more marks belong to the
text. -/
def closing (mark : Char) : List Char → List Char × List Char
  | a :: b :: rest =>
    if a = mark ∧ b = mark then ([mark, mark], rest)
    else if a = mark then ([mark], b :: rest)
    else ([], a :: b :: rest)
  | a :: rest => if a = mark then ([mark], rest) else ([], a :: rest)
  | [] => ([], [])

/-- Whether nothing but spaces and tabs stands before the next line end. -/
def endsLine (cs : List Char) : Bool := (lineEnd? (skipSpaces cs)).isSome

/-- Read up to the closing three double quotes. While joining lines, blanks and line ends are
dropped. -/
def readBasicLines (joining : Bool) : List Char → Option (List Char × List Char)
  | [] => none
  | c :: cs =>
    if joining && (isSpace c || c = '\n') then readBasicLines true cs
    else if c = '"' then
      match cs with
      | '"' :: '"' :: rest => some (closing '"' rest)
      | rest => prepend '"' (readBasicLines false rest)
    else if c = '\\' then
      match cs with
      | 'u' :: a :: b :: c :: d :: rest =>
        (four? a b c d).bind fun x => prepend x (readBasicLines false rest)
      | 'U' :: a :: b :: c :: d :: e :: f :: g :: h :: rest =>
        (eight? a b c d e f g h).bind fun x => prepend x (readBasicLines false rest)
      | e :: rest =>
        match short? e with
        | some x => prepend x (readBasicLines false rest)
        | none => if endsLine (e :: rest) then readBasicLines true (e :: rest) else none
      | [] => none
    else if c = '\r' then
      match cs with
      | '\n' :: rest =>
        if joining then readBasicLines true rest else prepend '\n' (readBasicLines false rest)
      | _ => none
    else if isLineText c || c = '\n' then prepend c (readBasicLines false cs)
    else none
termination_by structural cs => cs

/-- Read up to the closing three apostrophes. -/
def readLiteralLines : List Char → Option (List Char × List Char)
  | [] => none
  | c :: cs =>
    if c = '\'' then
      match cs with
      | '\'' :: '\'' :: rest => some (closing '\'' rest)
      | rest => prepend '\'' (readLiteralLines rest)
    else if c = '\r' then
      match cs with
      | '\n' :: rest => prepend '\n' (readLiteralLines rest)
      | _ => none
    else if isLineText c || c = '\n' then prepend c (readLiteralLines cs)
    else none
termination_by structural cs => cs

/-- Read a quoted text of any kind; none begins here if the first character is no mark. -/
def read : List Char → Option (List Char × List Char)
  | '"' :: '"' :: '"' :: cs => readBasicLines false ((lineEnd? cs).getD cs)
  | '"' :: cs => readBasic cs
  | '\'' :: '\'' :: '\'' :: cs => readLiteralLines ((lineEnd? cs).getD cs)
  | '\'' :: cs => readLiteral cs
  | _ => none

end Quotation

end HandlerWiring.Toml
