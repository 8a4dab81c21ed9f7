import CodeAudit.Json.Token

/-!
Values that nobody asked for. They are only checked for their form: numbers may be of any size, and halves of pairs may
stand alone in strings.
-/
namespace CodeAudit.Json

def keyMustBeString : String := "key must be a string"
def expectedColon : String := "expected `:`"
def endInList : String := "EOF while parsing a list"
def endInObject : String := "EOF while parsing an object"

/-- The rest of a string, of which nothing is kept. -/
def skipStringFrom (p : Position) : List Char → Except Fault Cursor
  | [] => .error ⟨endInString, p⟩
  | c :: rest =>
    let q := p.after c
    if c = '"' then .ok ⟨q, rest⟩
    else if c = '\\' then
      match rest with
      | [] => .error ⟨endInString, q⟩
      | e :: tail =>
        if e = 'u' then
          match tail with
          | a :: b :: c :: d :: more =>
            if (hexValue4? a b c d).isSome then skipStringFrom ([a, b, c, d].foldl Position.after (q.after e)) more
            else .error (hexFault (q.after e) tail)
          | _ => .error (hexFault (q.after e) tail)
        else if (unescape? e).isSome then skipStringFrom (q.after e) tail
        else .error ⟨invalidEscape, Cursor.byteOn ⟨q, rest⟩⟩
    else if c.toNat < 32 then .error ⟨controlInString, p⟩
    else skipStringFrom q rest

def skipString (c : Cursor) : Except Fault Cursor :=
  skipStringFrom c.toPosition c.rest

/-- Digits, of which there must be one. -/
def skipDigits (c : Cursor) : Except Fault Cursor :=
  let (ds, behind) := c.span Char.isDigit
  if ds.isEmpty then .error ⟨invalidNumber, c.byteOn⟩ else .ok behind

def skipExponent (c : Cursor) : Except Fault Cursor :=
  if startsExponent c then skipDigits (exponentSign c.next).2 else .ok c

def skipFraction (c : Cursor) : Except Fault Cursor :=
  if c.rest.head? = some '.' then (skipDigits c.next).bind skipExponent else skipExponent c

/-- A number without its sign. -/
def skipMagnitude (c : Cursor) : Except Fault Cursor :=
  let (ds, behind) := c.span Char.isDigit
  match ds with
  | [] => .error ⟨invalidNumber, c.byteOn⟩
  | '0' :: _ :: _ => .error ⟨invalidNumber, c.next.byteOn⟩
  | _ => skipFraction behind

/-- A value without parts. -/
def skipLeaf (c : Cursor) : Except Fault Cursor :=
  match c.rest with
  | 'n' :: _ => word "ull".toList c.next
  | 't' :: _ => word "rue".toList c.next
  | 'f' :: _ => word "alse".toList c.next
  | '"' :: _ => skipString c.next
  | '-' :: _ => skipMagnitude c.next
  | x :: _ => if x.isDigit then skipMagnitude c else .error ⟨expectedValue, c.byteOn⟩
  | [] => .error ⟨endInValue, c.byteOn⟩

/-- What a value lies in. -/
inductive Bracket where
  | list
  | object
deriving DecidableEq

namespace Bracket

def close : Bracket → Char
  | list => ']'
  | object => '\x7d'

def atEnd : Bracket → String
  | list => endInList
  | object => endInObject

def expectedEnd : Bracket → String
  | list => "expected `,` or `]`"
  | object => "expected `,` or `\x7d`"

end Bracket

def skipColon (c : Cursor) : Except Fault Cursor :=
  let c := skipBlanks c
  if c.rest.head? = some ':' then .ok c.next else .error (.here c endInObject expectedColon)

/-- The key of a member and the colon behind it; a list has none. -/
def skipKey (b : Bracket) (c : Cursor) : Except Fault Cursor :=
  match b with
  | .list => .ok c
  | .object =>
    let c := skipBlanks c
    if c.rest.head? = some '"' then (skipString c.next).bind skipColon
    else .error (.here c endInObject keyMustBeString)

/-- What comes next: a value, or what may stand behind one in its list or object. A comma is no option behind an
opening bracket. -/
inductive Expected where
  | value
  | behind (comma : Bool)

/-- Reads on to the end of the outermost of the lists and objects that are open. -/
def skipFrom : Nat → Expected → List Bracket → Cursor → Except Fault Cursor
  | 0, _, _, c => .error ⟨expectedValue, c.toPosition⟩
  | fuel + 1, .value, open', c =>
    let c := skipBlanks c
    if c.rest.head? = some '[' then skipFrom fuel (.behind false) (.list :: open') c.next
    else if c.rest.head? = some '\x7b' then skipFrom fuel (.behind false) (.object :: open') c.next
    else (skipLeaf c).bind (skipFrom fuel (.behind true) open')
  | _ + 1, .behind _, [], c => .ok c
  | fuel + 1, .behind comma, b :: outer, c =>
    let c := skipBlanks c
    if comma && c.rest.head? = some ',' then (skipKey b c.next).bind (skipFrom fuel .value (b :: outer))
    else if c.rest.head? = some b.close then skipFrom fuel (.behind true) outer c.next
    else if c.atEnd || comma then .error (.here c b.atEnd b.expectedEnd)
    else (skipKey b c).bind (skipFrom fuel .value (b :: outer))

/-- Reads a value and forgets it. Every third step takes a character. -/
def skip (c : Cursor) : Except Fault Cursor :=
  skipFrom (3 * c.rest.length + 3) .value [] c

end CodeAudit.Json
