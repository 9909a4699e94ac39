import HandlerWiring.Json.Fault

/-!
# Quoted texts of a document

What stands between two quotes, once for its reader and once for who skips over it. Both look for
the closing quote and refuse control characters and unknown escapes. Only the reader asks that
each escape of a surrogate is half of a pair, a leading one and a trailing one behind it.
-/

namespace HandlerWiring.Json.Quotation

/-- The character that an escape of one letter stands for. -/
def short? : Char → Option Char
  | '"' => some '"'
  | '\\' => some '\\'
  | '/' => some '/'
  | 'b' => some '\x08'
  | 'f' => some '\x0c'
  | 'n' => some '\n'
  | 'r' => some '\r'
  | 't' => some '\t'
  | _ => none

/-- The value of a hexadecimal digit of either case. -/
def hexValue? (c : Char) : Option Nat :=
  if '0' ≤ c ∧ c ≤ '9' then some (c.toNat - '0'.toNat)
  else if 'a' ≤ c ∧ c ≤ 'f' then some (c.toNat - 'a'.toNat + 10)
  else if 'A' ≤ c ∧ c ≤ 'F' then some (c.toNat - 'A'.toNat + 10)
  else none

/-- The number that four hexadecimal digits stand for. -/
def quad? (a b c d : Char) : Option Nat := do
  let a ← hexValue? a
  let b ← hexValue? b
  let c ← hexValue? c
  let d ← hexValue? d
  return ((a * 16 + b) * 16 + c) * 16 + d

/-- The fault where four hexadecimal digits are missing: the text ends before four bytes, or four
bytes are there and are not such digits. -/
def noQuad (p : Place) (cs : List Char) : Fault :=
  if (String.ofList cs).utf8ByteSize < 4 then .atPlace .endInText (p.afterAll cs)
  else .atPlace .badEscape (p.afterBytes 4 cs)

/-- Whether a number is a leading surrogate. -/
def isLeading (n : Nat) : Bool := 0xd800 ≤ n && n ≤ 0xdbff

/-- Whether a number is a trailing surrogate. -/
def isTrailing (n : Nat) : Bool := 0xdc00 ≤ n && n ≤ 0xdfff

/-- The character that a pair of surrogates stands for. -/
def pairUp (leading trailing : Nat) : Char :=
  Char.ofNat ((leading - 0xd800) * 0x400 + (trailing - 0xdc00) + 0x10000)

/-- The place behind characters that take one byte each. -/
def forward (p : Place) (count : Nat) : Place := ⟨p.line, p.column + count⟩

/-- What a reader has after one more character. -/
def prepend (c : Char) : Except Fault (List Char × Cursor) → Except Fault (List Char × Cursor)
  | .ok (cs, cursor) => .ok (c :: cs, cursor)
  | .error f => .error f

/-- Read up to the closing quote. -/
def read (p : Place) : List Char → Except Fault (List Char × Cursor)
  | [] => .error (.atPlace .endInText p)
  | c :: cs =>
    if c = '"' then .ok ([], ⟨p.after c, cs⟩)
    else if c = '\\' then
      match cs with
      | [] => .error (.atPlace .endInText (p.after c))
      | e :: es =>
        let p := p.after c
        if e = 'u' then
          match es with
          | a :: b :: c :: d :: rest =>
            let p := p.after e
            match quad? a b c d with
            | none => .error (noQuad p (a :: b :: c :: d :: rest))
            | some n =>
              let p := forward p 4
              if isTrailing n then .error (.atPlace .loneSurrogate p)
              else if ¬isLeading n then prepend (Char.ofNat n) (read p rest)
              else match rest with
                | '\\' :: 'u' :: a :: b :: c :: d :: rest =>
                  match quad? a b c d with
                  | none => .error (noQuad (forward p 2) (a :: b :: c :: d :: rest))
                  | some m =>
                    let p := forward p 6
                    if isTrailing m then prepend (pairUp n m) (read p rest)
                    else .error (.atPlace .loneSurrogate p)
                | '\\' :: 'u' :: rest => .error (noQuad (forward p 2) rest)
                | '\\' :: [] => .error (.atPlace .endInText (forward p 1))
                | '\\' :: rest => .error (.atPlace .brokenPair ((forward p 1).facing rest))
                | [] => .error (.atPlace .endInText p)
                | rest => .error (.atPlace .brokenPair (p.facing rest))
          | rest => .error (noQuad (p.after e) rest)
        else match short? e with
          | some c => prepend c (read (p.after e) es)
          | none => .error (.atPlace .badEscape (p.facing (e :: es)))
    else if c.toNat < 0x20 then .error (.atPlace .controlCharacter (p.facing (c :: cs)))
    else prepend c (read (p.after c) cs)
termination_by structural cs => cs

/-- Skip to behind the closing quote. -/
def skip (p : Place) : List Char → Except Fault Cursor
  | [] => .error (.atPlace .endInText p)
  | c :: cs =>
    if c = '"' then .ok ⟨p.after c, cs⟩
    else if c = '\\' then
      match cs with
      | [] => .error (.atPlace .endInText (p.after c))
      | e :: es =>
        let p := p.after c
        if e = 'u' then
          match es with
          | a :: b :: c :: d :: rest =>
            match quad? a b c d with
            | none => .error (noQuad (p.after e) (a :: b :: c :: d :: rest))
            | some _ => skip (forward p 5) rest
          | rest => .error (noQuad (p.after e) rest)
        else match short? e with
          | some _ => skip (p.after e) es
          | none => .error (.atPlace .badEscape (p.facing (e :: es)))
    else if c.toNat < 0x20 then .error (.atPlace .controlCharacter p)
    else skip (p.after c) cs
termination_by structural cs => cs

end HandlerWiring.Json.Quotation
