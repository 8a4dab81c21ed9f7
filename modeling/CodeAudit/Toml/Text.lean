import CodeAudit.Toml.Reader

/-!
Strings. Between double quotes there are escapes, between single ones there are none; between three quotes there may be
line ends.
-/
namespace CodeAudit.Toml

open Reader

/-- What may stand between double quotes as it is. -/
def isBasicChar (c : Char) : Bool :=
  isBlank c || c.toNat = 0x21 || (0x23 ≤ c.toNat && c.toNat ≤ 0x5B) || (0x5D ≤ c.toNat && c.toNat ≤ 0x7E) ||
    isNonAscii c

/-- What may stand between single quotes. -/
def isLiteralChar (c : Char) : Bool :=
  c = '\t' || (0x20 ≤ c.toNat && c.toNat ≤ 0x26) || (0x28 ≤ c.toNat && c.toNat ≤ 0x7E) || isNonAscii c

def hexValue? (c : Char) : Option Nat :=
  if c.isDigit then some (c.toNat - '0'.toNat)
  else if 'a' ≤ c && c ≤ 'f' then some (c.toNat - 'a'.toNat + 10)
  else if 'A' ≤ c && c ≤ 'F' then some (c.toNat - 'A'.toNat + 10)
  else none

def isHexDigit (c : Char) : Bool :=
  (hexValue? c).isSome

/-- The number that digits of a base write. -/
def valueOf (base : Nat) (ds : List Char) : Nat :=
  ds.foldl (fun n d => n * base + (hexValue? d).getD 0) 0

/-- A character by the given number of hexadecimal digits. -/
def codePoint (digits : Nat) : Reader Char :=
  hard <| labelled ("unicode " ++ toString digits ++ "-digit hex code") <|
    checked (exactCount digits isHexDigit) fun ds =>
      let n := valueOf 16 ds
      if n.isValidChar then .ok (.ofNat n) else .error .outOfRange

/-- What may follow a backslash. -/
def escapeLetters : List String :=
  ["`b`", "`f`", "`n`", "`r`", "`t`", "`u`", "`U`", "`\\`", "`\"`"]

/-- A backslash and what it escapes. A letter without a meaning is read before the reading stops, unless it has
several bytes. -/
def escaped : Reader Char := fun c => do
  let (_, c) ← char '\\' c
  match c.rest with
  | [] => fail c
  | x :: _ =>
    let next := c.next
    match x with
    | 'b' => return ('\x08', next)
    | 'f' => return ('\x0c', next)
    | 'n' => return ('\n', next)
    | 'r' => return ('\r', next)
    | 't' => return ('\t', next)
    | '\\' => return ('\\', next)
    | '"' => return ('"', next)
    | 'u' => codePoint 4 next
    | 'U' => codePoint 8 next
    | x =>
      let stop := if x.utf8Size = 1 then next else c
      hard (labelled "escape sequence" (expecting escapeLetters fail)) stop

/-- A run of characters as they are, or one that is escaped. -/
def basicPart : Reader (List Char) :=
  orElse (many1 isBasicChar) fun c => do
    let (x, c) ← escaped c
    return ([x], c)

def basicString : Reader (List Char) := fun c => do
  let (_, c) ← char '"' c
  let (parts, c) ← repeated basicPart c
  let (_, c) ← labelled "basic string" (hard (char '"')) c
  return (parts.flatten, c)

def literalString : Reader (List Char) :=
  labelled "literal string" fun c => do
    let (_, c) ← char '\'' c
    let (cs, c) ← many isLiteralChar c
    let (_, c) ← hard (char '\'') c
    return (cs, c)

/-- A backslash at the end of a line, and all blanks and line ends behind it. -/
def joinedLines : Reader Unit := fun c => do
  let (_, c) ← char '\\' c
  let (_, c) ← blanks c
  let (_, c) ← newline c
  let (_, c) ← repeated (orElse newline fun c => do
    let (_, c) ← many1 isBlank c
    return ((), c)) c
  return ((), c)

/-- A part of a string between three double quotes. -/
def basicLinesPart : Reader (List Char) :=
  orElse (many1 isBasicChar) <|
    orElse (fun c => do
      let (_, c) ← joinedLines c
      return ([], c)) <|
    orElse (fun c => do
      let (x, c) ← escaped c
      return ([x], c)) fun c => do
      let (_, c) ← newline c
      return (['\n'], c)

/-- One or two quotes in front of what can be read by `next`; two if possible. -/
def innerQuotes {α : Type} (quote : Char) (next : Reader α) : Reader (List Char) :=
  let quotes (n : Nat) : Reader (List Char) := fun c => do
    let (_, c) ← exactly (List.replicate n quote) c
    let (_, c) ← ahead next c
    return (List.replicate n quote, c)
  orElse (quotes 2) (quotes 1)

def threeQuotes (quote : Char) : Reader Unit :=
  exactly [quote, quote, quote]

/-- Quotes within a string between three of them, and the parts behind. -/
def quotesThen (quote : Char) (part : Reader (List Char)) : Reader (List Char) := fun c => do
  let (quotes, c) ← innerQuotes quote part c
  let (first, c) ← part c
  let (parts, c) ← repeated part c
  return (quotes ++ first ++ parts.flatten, c)

/-- What stands between three quotes. Up to two more quotes may stand anywhere, also in front of the last three. -/
def linesBody (quote : Char) (part : Reader (List Char)) : Reader (List Char) := fun c => do
  let (parts, c) ← repeated part c
  let (more, c) ← repeated (quotesThen quote part) c
  let (last, c) ← optional (innerQuotes quote (threeQuotes quote)) c
  return (parts.flatten ++ more.flatten ++ last.getD [], c)

/-- A string between three quotes. A line end directly behind the first three does not belong to it. -/
def lines (name : String) (quote : Char) (part : Reader (List Char)) : Reader (List Char) :=
  labelled name fun c => do
    let (_, c) ← threeQuotes quote c
    let (_, c) ← optional newline c
    let (cs, c) ← hard (linesBody quote part) c
    let (_, c) ← hard (threeQuotes quote) c
    return (cs, c)

def literalLinesPart : Reader (List Char) :=
  orElse (many1 isLiteralChar) fun c => do
    let (_, c) ← newline c
    return (['\n'], c)

def basicLines : Reader (List Char) :=
  lines "multiline basic string" '"' basicLinesPart

def literalLines : Reader (List Char) :=
  lines "multiline literal string" '\'' literalLinesPart

def string : Reader (List Char) :=
  orElse basicLines (orElse basicString (orElse literalLines literalString))

end CodeAudit.Toml
