import CodeAudit.Decimal.Written
import CodeAudit.Text.Cursor

/-!
The smallest parts of a JSON text and the faults in them. A fault lies behind the byte that shows it, or at the end of
the text where more was to come.
-/
namespace CodeAudit.Json

/-- What is wrong with a text, and where. -/
structure Fault where
  text : String
  place : Position
deriving DecidableEq

/-- Lines are counted from one, columns from the bytes of the line that lie before. -/
def Fault.message (f : Fault) : String :=
  f.text ++ " at line " ++ toString (f.place.row + 1) ++ " column " ++ toString f.place.column

/-- Reads a value where the cursor stands. -/
abbrev Reader (α : Type) := Cursor → Except Fault (α × Cursor)

def invalidNumber : String := "invalid number"
def outOfRange : String := "number out of range"
def invalidEscape : String := "invalid escape"
def loneSurrogate : String := "lone leading surrogate in hex escape"
def endOfEscape : String := "unexpected end of hex escape"
def endInString : String := "EOF while parsing a string"
def endInValue : String := "EOF while parsing a value"
def controlInString : String := "control character (\\u0000-\\u001F) found while parsing a string"
def expectedIdent : String := "expected ident"
def expectedValue : String := "expected value"

/-- The end of the text, or something that cannot stand here. -/
def Fault.here (c : Cursor) (atEnd otherwise : String) : Fault :=
  ⟨if c.atEnd then atEnd else otherwise, c.byteOn⟩

def isSpace (c : Char) : Bool :=
  c = ' ' || c = '\n' || c = '\t' || c = '\r'

def skipBlanks (c : Cursor) : Cursor :=
  c.dropWhile isSpace

/-- The letters of a word. -/
def word : List Char → Cursor → Except Fault Cursor
  | [], c => .ok c
  | x :: word', c => if c.rest.head? = some x then word word' c.next else .error (.here c endInValue expectedIdent)

/-! ### Strings -/

def hexValue? (c : Char) : Option Nat :=
  if c.isDigit then some (c.toNat - '0'.toNat)
  else if 'a' ≤ c && c ≤ 'f' then some (c.toNat - 'a'.toNat + 10)
  else if 'A' ≤ c && c ≤ 'F' then some (c.toNat - 'A'.toNat + 10)
  else none

/-- The number that four hexadecimal digits write. -/
def hexValue4? (a b c d : Char) : Option Nat := do
  return (((← hexValue? a) * 16 + (← hexValue? b)) * 16 + (← hexValue? c)) * 16 + (← hexValue? d)

/-- The position a number of bytes further in a text; none if the text ends before. -/
def bytesOn? (n : Nat) (p : Position) : List Char → Option Position
  | [] => if n = 0 then some p else none
  | c :: rest =>
    if n = 0 then some p
    else if c.utf8Size ≤ n then bytesOn? (n - c.utf8Size) (p.after c) rest
    else some ⟨p.offset + n, p.row, p.column + n⟩

/-- The end of a text. -/
def endOf (p : Position) (cs : List Char) : Position :=
  cs.foldl Position.after p

/-- The fault of an escape that lacks its four hexadecimal digits. -/
def hexFault (p : Position) (cs : List Char) : Fault :=
  match bytesOn? 4 p cs with
  | some q => ⟨invalidEscape, q⟩
  | none => ⟨endInString, endOf p cs⟩

/-- What a letter behind a backslash stands for. -/
def unescape? : Char → Option Char
  | '"' => some '"'
  | '\\' => some '\\'
  | '/' => some '/'
  | 'b' => some '\x08'
  | 'f' => some '\x0c'
  | 'n' => some '\n'
  | 'r' => some '\r'
  | 't' => some '\t'
  | _ => none

/-- What an escape gives, when `high` is the first half of a pair that waits for its second one: a character, or a
first half. -/
def join (high : Option Nat) (n : Nat) : Option (Char ⊕ Nat) :=
  match high with
  | some h =>
    if 0xDC00 ≤ n && n ≤ 0xDFFF then some (.inl (.ofNat ((h - 0xD800) * 0x400 + (n - 0xDC00) + 0x10000))) else none
  | none =>
    if 0xDC00 ≤ n && n ≤ 0xDFFF then none else if 0xD800 ≤ n && n ≤ 0xDBFF then some (.inr n) else some (.inl (.ofNat n))

/-- The rest of a string and the place behind its closing quote. -/
def stringFrom (high : Option Nat) (p : Position) : List Char → Except Fault (List Char × Cursor)
  | [] => .error ⟨endInString, p⟩
  | c :: rest =>
    let q := p.after c
    if c = '\\' then
      match rest with
      | [] => .error ⟨endInString, q⟩
      | e :: tail =>
        if e = 'u' then
          match tail with
          | a :: b :: c :: d :: more =>
            match hexValue4? a b c d with
            | none => .error (hexFault (q.after e) tail)
            | some n =>
              let r := [a, b, c, d].foldl Position.after (q.after e)
              match join high n with
              | none => .error ⟨loneSurrogate, r⟩
              | some (.inl x) => (stringFrom none r more).map fun (s, c) => (x :: s, c)
              | some (.inr h) => stringFrom (some h) r more
          | _ => .error (hexFault (q.after e) tail)
        else if high.isSome then .error ⟨endOfEscape, Cursor.byteOn ⟨q, rest⟩⟩
        else match unescape? e with
          | some x => (stringFrom none (q.after e) tail).map fun (s, c) => (x :: s, c)
          | none => .error ⟨invalidEscape, Cursor.byteOn ⟨q, rest⟩⟩
    else if high.isSome then .error ⟨endOfEscape, Cursor.byteOn ⟨p, c :: rest⟩⟩
    else if c = '"' then .ok ([], ⟨q, rest⟩)
    else if c.toNat < 32 then .error ⟨controlInString, q⟩
    else (stringFrom none q rest).map fun (s, r) => (c :: s, r)

/-- A string whose opening quote has been read. -/
def readQuoted : Reader (List Char) := fun c =>
  stringFrom none c.toPosition c.rest

/-! ### Numbers -/

/-- A number as it is kept: whole and of at most 64 bits, or else binary. -/
inductive Number where
  | natural (n : Nat)
  | negative (n : Nat)
  | double (negative : Bool) (x : Double)
deriving DecidableEq

/-- Small and large powers of ten go without the positional form. -/
def doubleForm : DecimalForm where
  positional e := -5 ≤ e && e < 16

def Number.render : Number → List Char
  | natural n => Nat.toDigits 10 n
  | negative n => '-' :: Nat.toDigits 10 n
  | double minus x => x.render doubleForm minus

def digitValue (c : Char) : Nat :=
  c.toNat - '0'.toNat

/-- Reads on a number digit by digit for as long as it has at most 64 bits. -/
def accumulate (n : Nat) : List Char → Nat × List Char
  | [] => (n, [])
  | d :: ds =>
    let m := n * 10 + digitValue d
    if m < Nat.pow 2 64 then accumulate m ds else (n, d :: ds)

/-- A power of ten, rounded. -/
def powerOfTen? (n : Nat) : Option Double :=
  Double.ofRatio? (Nat.pow 10 n) 1

/-- Divides by powers of ten of which none is beyond the binary numbers. -/
def shrink : Nat → Double → Nat → Option Double
  | 0, _, _ => some .zero
  | fuel + 1, x, n =>
    if x.significand = 0 then some x
    else if n ≤ 308 then (powerOfTen? n).bind x.div?
    else (powerOfTen? 308).bind fun p => (x.div? p).bind fun y => shrink fuel y (n - 308)

/-- A significand times a power of ten, rounded once for each step; none if it is too large. -/
def ofParts? (significand : Nat) (exponent : Int) : Option Double :=
  (Double.ofRatio? significand 1).bind fun x =>
    if exponent < 0 then shrink 4 x exponent.natAbs
    else if x.significand = 0 then some x
    else if 308 < exponent then none
    else (powerOfTen? exponent.toNat).bind x.mul?

def ofParts (negative : Bool) (significand : Nat) (exponent : Int) (c : Cursor) : Except Fault (Number × Cursor) :=
  match ofParts? significand exponent with
  | some x => .ok (.double negative x, c)
  | none => .error ⟨outOfRange, c.toPosition⟩

/-- Reads an exponent digit by digit for as long as it has at most 31 bits. -/
def accumulateExponent (n : Nat) (p : Position) : List Char → Nat × Option Position
  | [] => (n, none)
  | d :: ds =>
    let m := n * 10 + digitValue d
    if m < Nat.pow 2 31 then accumulateExponent m (p.after d) ds else (n, some (p.after d))

/-- The sign of an exponent. -/
def exponentSign (c : Cursor) : Bool × Cursor :=
  match c.rest with
  | '-' :: _ => (true, c.next)
  | '+' :: _ => (false, c.next)
  | _ => (false, c)

/-- The end of a number from its `e` on. -/
def withExponent (negative : Bool) (significand : Nat) (start : Int) (c : Cursor) : Except Fault (Number × Cursor) :=
  let (down, c) := exponentSign c.next
  let (ds, behind) := c.span Char.isDigit
  if ds.isEmpty then .error (.here c endInValue invalidNumber)
  else match accumulateExponent 0 c.toPosition ds with
    | (_, some q) =>
      if significand ≠ 0 && !down then .error ⟨outOfRange, q⟩ else .ok (.double negative .zero, behind)
    | (e, none) => ofParts negative significand (if down then start - e else start + e) behind

def startsExponent (c : Cursor) : Bool :=
  c.rest.head? = some 'e' || c.rest.head? = some 'E'

/-- The end of a number from its point on. Digits are used for as long as they fit. -/
def withFraction (negative : Bool) (significand : Nat) (start : Int) (c : Cursor) : Except Fault (Number × Cursor) :=
  let c := c.next
  let (ds, behind) := c.span Char.isDigit
  if ds.isEmpty then .error (.here c endInValue invalidNumber)
  else
    let (n, unused) := accumulate significand ds
    let exponent := start - (ds.length - unused.length : Nat)
    if startsExponent behind then withExponent negative n exponent behind else ofParts negative n exponent behind

/-- The end of a number behind its whole part, of which some digits may not have fit. -/
def finishNumber (negative : Bool) (n : Nat) (unused : Nat) (c : Cursor) : Except Fault (Number × Cursor) :=
  if c.rest.head? = some '.' then withFraction negative n unused c
  else if startsExponent c then withExponent negative n unused c
  else if 0 < unused then ofParts negative n unused c
  else if !negative then .ok (.natural n, c)
  else if 0 < n && n ≤ Nat.pow 2 63 then .ok (.negative n, c)
  else ofParts true n 0 c

/-- A number without its sign. -/
def magnitude (negative : Bool) : Reader Number := fun c =>
  let (ds, behind) := c.span Char.isDigit
  match ds with
  | [] => .error (.here c endInValue invalidNumber)
  | ['0'] => finishNumber negative 0 0 behind
  | '0' :: _ => .error ⟨invalidNumber, c.next.byteOn⟩
  | ds =>
    let (n, unused) := accumulate 0 ds
    finishNumber negative n unused.length behind

def readNumber : Reader Number := fun c =>
  if c.rest.head? = some '-' then magnitude true c.next else magnitude false c

end CodeAudit.Json
