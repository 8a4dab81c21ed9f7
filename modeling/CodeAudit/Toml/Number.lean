import CodeAudit.Toml.Text

/-!
Numbers. Single underscores may stand between digits. Whole numbers have 64 bits with their sign; floating point
numbers are rounded to the nearest binary one.
-/
namespace CodeAudit.Toml

open Reader

/-- Digits with single underscores in front of some of them. -/
def moreDigitsFrom (f : Char → Bool) (p : Position) : List Char → Except Stop (List Char × Cursor)
  | [] => .ok ([], ⟨p, []⟩)
  | c :: rest =>
    if f c then (moreDigitsFrom f (p.after c) rest).map fun (ds, r) => (c :: ds, r)
    else if c = '_' then
      match rest with
      | d :: tail =>
        if f d then (moreDigitsFrom f ((p.after c).after d) tail).map fun (ds, r) => (d :: ds, r)
        else .error { offset := (p.after c).offset, hard := true, expected := ["digit"] }
      | [] => .error { offset := (p.after c).offset, hard := true, expected := ["digit"] }
    else .ok ([], ⟨p, c :: rest⟩)

def moreDigits (f : Char → Bool) : Reader (List Char) := fun c =>
  moreDigitsFrom f c.toPosition c.rest

/-- Digits, of which the first one is no underscore. -/
def digits (f : Char → Bool) : Reader (List Char) := fun c => do
  let (d, c) ← one f c
  let (ds, c) ← moreDigits f c
  return (d :: ds, c)

/-- A sign; whether it is a minus. -/
def sign : Reader Bool := fun c => do
  match ← optional (one fun x => x = '+' || x = '-') c with
  | (some x, c) => return (x = '-', c)
  | (none, c) => return (false, c)

/-- A whole number in decimal digits: its sign and its digits, of which the first one is no zero unless it is alone. -/
def decimalDigits : Reader (Bool × List Char) :=
  labelled "integer" fun c => do
    let (negative, c) ← sign c
    let (ds, c) ←
      if c.rest.head? = some '0' then pure (['0'], c.next) else digits Char.isDigit c
    return ((negative, ds), c)

/-- A whole number, if it has at most 64 bits. -/
def fitted (negative : Bool) (n : Nat) : Except Problem Int :=
  if negative then if n ≤ Nat.pow 2 63 then .ok (-n) else .error .tooSmall
  else if n < Nat.pow 2 63 then .ok n else .error .tooLarge

/-- A whole number in the digits of a base, behind the letter of the base. -/
def baseInteger (name : String) (letter : Char) (base : Nat) (f : Char → Bool) : Reader Int := fun c => do
  let read : Reader (List Char) := hard <| labelled name fun c => do
    let (_, c) ← exactly ['0', letter] c
    digits f c
  hard (checked read fun ds => fitted false (valueOf base ds)) c

def integer : Reader Int := fun c =>
  match c.rest with
  | '0' :: 'x' :: _ => baseInteger "hexadecimal integer" 'x' 16 isHexDigit c
  | '0' :: 'o' :: _ => baseInteger "octal integer" 'o' 8 (fun d => '0' ≤ d && d ≤ '7') c
  | '0' :: 'b' :: _ => baseInteger "binary integer" 'b' 2 (fun d => d = '0' || d = '1') c
  | _ =>
    match decimalDigits c with
    | .error e => .error e
    | .ok ((negative, ds), rest) =>
      hard (checked (fun _ => .ok ((), rest)) fun () => fitted negative (valueOf 10 ds)) c

/-! ### Floating point -/

/-- A decimal number by its digits and its power of ten. -/
structure FloatDigits where
  negative : Bool
  digits : List Char
  exponent : Int

/-- An exponent. -/
def exponent : Reader Int := fun c => do
  let (_, c) ← one (fun x => x = 'e' || x = 'E') c
  let (negative, c) ← sign c
  let (ds, c) ← hard (digits Char.isDigit) c
  let n : Int := valueOf 10 ds
  return (if negative then -n else n, c)

/-- A point and digits behind it. -/
def fraction : Reader (List Char) := fun c => do
  let (_, c) ← char '.' c
  hard (expecting ["digit"] (digits Char.isDigit)) c

/-- A whole number with a fraction or an exponent or both. -/
def floatDigits : Reader FloatDigits := fun c => do
  let ((negative, ds), c) ← decimalDigits c
  let withExponent : Reader FloatDigits := fun c => do
    let (e, c) ← exponent c
    return (⟨negative, ds, e⟩, c)
  let withFraction : Reader FloatDigits := fun c => do
    let (fs, c) ← fraction c
    let (e, c) ← optional exponent c
    return (⟨negative, ds ++ fs, e.getD 0 - fs.length⟩, c)
  orElse withExponent withFraction c

/-- The nearest floating point number; none if it is beyond all finite ones. Powers of ten that cannot matter are not
computed. -/
def FloatDigits.round? (x : FloatDigits) : Option Double :=
  let n := valueOf 10 x.digits
  let magnitude : Int := x.exponent + (Nat.toDigits 10 n).length
  if n = 0 || magnitude < -330 then some .zero
  else if 310 < magnitude then none
  else Double.ofRatio? (n * Nat.pow 10 x.exponent.toNat) (Nat.pow 10 (-x.exponent).toNat)

def FloatDigits.value? (x : FloatDigits) : Option FloatValue :=
  match x.round? with
  | some d => some (.finite x.negative d)
  | none => if x.negative then some (.infinite true) else none

def infinity : Reader FloatValue := fun c => do
  let (_, c) ← exactly "inf".toList c
  return (.infinite false, c)

def notANumber : Reader FloatValue := fun c => do
  let (_, c) ← exactly "nan".toList c
  return (.nan, c)

def specialFloat : Reader FloatValue := fun c => do
  let (negative, c) ← sign c
  let (x, c) ← orElse infinity notANumber c
  return (match x with
    | .infinite _ => .infinite negative
    | x => x, c)

/-- A number too large to be finite is refused where it begins. -/
def plainFloat : Reader FloatValue := fun c => do
  let (x, rest) ← floatDigits c
  match x.value? with
  | some v => return (v, rest)
  | none => hard fail c

def float : Reader FloatValue :=
  labelled "floating-point number" (orElse plainFloat specialFloat)

end CodeAudit.Toml
