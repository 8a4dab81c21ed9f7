import CodeAudit.Syntax.Kind
import CodeAudit.Text.Identifier

/-!
How tokens are written. Each token is either spelled out or described by a rule; `Kind.length?` gives the length of
the longest text of that kind at the front of what is left, and `nextWritten` takes the best of several kinds.
-/
namespace CodeAudit.Syntax

open CodeAudit.Text

namespace Spelling

/-- Length of the longest front part that `p` accepts. -/
def run (p : Char → Bool) : List Char → Nat
  | [] => 0
  | c :: rest => if p c then run p rest + 1 else 0

def isHex (c : Char) : Bool :=
  c.isDigit || ('a' ≤ c && c ≤ 'f') || ('A' ≤ c && c ≤ 'F')

/-- Digits with single underscores between or behind them; `afterDigit` says whether an underscore may come. -/
def digitsFrom (digit : Char → Bool) (afterDigit : Bool) : List Char → Nat
  | [] => 0
  | c :: rest =>
    if digit c then digitsFrom digit true rest + 1
    else if c = '_' && afterDigit then digitsFrom digit false rest + 1
    else 0

def digits (cs : List Char) : Nat :=
  digitsFrom Char.isDigit false cs

/-- Digits of a number with a base prefix: single underscores stand before digits only. -/
def basedDigits (digit : Char → Bool) : List Char → Nat
  | [] => 0
  | c :: rest =>
    if digit c || (c = '_' && rest.head?.any digit) then basedDigits digit rest + 1 else 0

/-- One optional character more. -/
def suffix (letters : List Char) : List Char → Nat
  | c :: _ => if letters.contains c then 1 else 0
  | [] => 0

def based (letter : Char) (digit : Char → Bool) : List Char → Option Nat
  | '0' :: c :: rest =>
    if c = letter || c = letter.toUpper then
      match basedDigits digit rest with
      | 0 => none
      | n => some (n + 2 + suffix ['L', 'l'] (rest.drop n))
    else none
  | _ => none

def decimal (cs : List Char) : Option Nat :=
  match digits cs with
  | 0 => none
  | n => some (n + suffix ['L', 'l', 'j', 'J'] (cs.drop n))

def integer? (cs : List Char) : Option Nat :=
  based 'x' isHex cs <|> based 'o' (fun c => '0' ≤ c && c ≤ '7') cs
    <|> based 'b' (fun c => c = '0' || c = '1') cs <|> decimal cs

/-- Length of an exponent, zero if there is none. -/
def exponent (cs : List Char) : Nat :=
  match cs with
  | c :: rest =>
    if c = 'e' || c = 'E' then
      let sign := suffix ['+', '-'] rest
      match digits (rest.drop sign) with
      | 0 => 0
      | n => n + sign + 1
    else 0
  | [] => 0

/-- The exponent and the suffix that may follow `n` characters of a float. -/
def floatEnd (n : Nat) (cs : List Char) : Nat :=
  let n := n + exponent (cs.drop n)
  n + suffix ['L', 'l', 'j', 'J'] (cs.drop n)

def float? (cs : List Char) : Option Nat :=
  let whole := digits cs
  match cs.drop whole with
  | '.' :: rest =>
    let part := digits rest
    if whole = 0 && part = 0 then none else some (floatEnd (whole + 1 + part) cs)
  | rest => if whole = 0 || exponent rest = 0 then none else some (floatEnd whole cs)

/-- `count` characters that `p` accepts. -/
def exactly (p : Char → Bool) (count : Nat) (cs : List Char) : Bool :=
  count ≤ run p (cs.take count)

/-- An escape sequence inside a string, backslash included. -/
def escape? : List Char → Option Nat
  | '\\' :: c :: rest =>
    if c = 'u' then if exactly isHex 4 rest then some 6 else none
    else if c = 'U' then if exactly isHex 8 rest then some 10 else none
    else if c = 'x' then if exactly isHex 2 rest then some 4 else none
    else if c.isDigit then if exactly Char.isDigit 2 rest then some 4 else none
    else if c = '\n' then some 2
    else if c = '\r' then if rest.head? = some '\n' then some 3 else none
    else if c = 'N' then
      match rest with
      | '\x7b' :: name =>
        let n := run (fun x => x != '\x7d' && x != '\x00') name
        if 0 < n && (name.drop n).head? = some '\x7d' then some (n + 4) else none
      | _ => none
    else if ['\'', '"', 'a', 'b', 'f', 'r', 'n', 't', 'v', '\\'].contains c then some 2
    else none
  | _ => none

def lineContinuation? : List Char → Option Nat
  | '\\' :: '\r' :: '\n' :: _ => some 3
  | '\\' :: '\n' :: _ => some 2
  | '\\' :: '\x00' :: _ => some 2
  | _ => none

def isFormatText (c : Char) : Bool :=
  c != '\x7b' && c != '\x7d' && c != '\n' && c != '\x00'

/-- Blank characters between tokens. Unicode spaces other than these are no blanks. -/
def isBlank (c : Char) : Bool :=
  [' ', '\t', '\n', '\r', '\x0b', '\x0c', '\ufeff', '\u2060', '\u200b'].contains c

end Spelling

namespace Kind

/-- The text of a token that is spelled out, keywords apart. -/
def spelling : Kind → List Char
  | .semicolon => [';']
  | .dot => ['.']
  | .openParen => ['(']
  | .closeParen => [')']
  | .comma => [',']
  | .star => ['*']
  | .shiftRight => ['>', '>']
  | .walrus => [':', '=']
  | .colon => [':']
  | .exceptWord => ['e', 'x', 'c', 'e', 'p', 't']
  | .exceptStarWord => ['e', 'x', 'c', 'e', 'p', 't', '*']
  | .arrow => ['-', '>']
  | .doubleStar => ['*', '*']
  | .equals => ['=']
  | .openBracket => ['[']
  | .closeBracket => [']']
  | .atSign => ['@']
  | .minus => ['-']
  | .bar => ['|']
  | .openBrace => ['\x7b']
  | .closeBrace => ['\x7d']
  | .plus => ['+']
  | .slash => ['/']
  | .percent => ['%']
  | .doubleSlash => ['/', '/']
  | .ampersand => ['&']
  | .caret => ['^']
  | .shiftLeft => ['<', '<']
  | .tilde => ['~']
  | .less => ['<']
  | .lessEqual => ['<', '=']
  | .equalEqual => ['=', '=']
  | .notEqual => ['!', '=']
  | .greaterEqual => ['>', '=']
  | .greater => ['>']
  | .lessGreater => ['<', '>']
  | .plusEquals => ['+', '=']
  | .minusEquals => ['-', '=']
  | .starEquals => ['*', '=']
  | .slashEquals => ['/', '=']
  | .atEquals => ['@', '=']
  | .doubleSlashEquals => ['/', '/', '=']
  | .percentEquals => ['%', '=']
  | .doubleStarEquals => ['*', '*', '=']
  | .shiftRightEquals => ['>', '>', '=']
  | .shiftLeftEquals => ['<', '<', '=']
  | .ampersandEquals => ['&', '=']
  | .caretEquals => ['^', '=']
  | .barEquals => ['|', '=']
  | .ellipsis => ['.', '.', '.']
  | .loneBackslash => ['\\']
  | _ => []

/-- Words that are keywords wherever the grammar has room for them, and identifiers elsewhere. -/
def keywords : List (List Char × Kind) := [
  (['i', 'm', 'p', 'o', 'r', 't'], .importWord),
  (['f', 'r', 'o', 'm'], .fromWord),
  (['_', '_', 'f', 'u', 't', 'u', 'r', 'e', '_', '_'], .futureWord),
  (['a', 's'], .asWord),
  (['p', 'r', 'i', 'n', 't'], .printWord),
  (['a', 's', 's', 'e', 'r', 't'], .assertWord),
  (['r', 'e', 't', 'u', 'r', 'n'], .returnWord),
  (['d', 'e', 'l'], .delWord),
  (['r', 'a', 'i', 's', 'e'], .raiseWord),
  (['p', 'a', 's', 's'], .passWord),
  (['b', 'r', 'e', 'a', 'k'], .breakWord),
  (['c', 'o', 'n', 't', 'i', 'n', 'u', 'e'], .continueWord),
  (['i', 'f'], .ifWord),
  (['e', 'l', 'i', 'f'], .elifWord),
  (['e', 'l', 's', 'e'], .elseWord),
  (['m', 'a', 't', 'c', 'h'], .matchWord),
  (['c', 'a', 's', 'e'], .caseWord),
  (['a', 's', 'y', 'n', 'c'], .asyncWord),
  (['f', 'o', 'r'], .forWord),
  (['i', 'n'], .inWord),
  (['w', 'h', 'i', 'l', 'e'], .whileWord),
  (['t', 'r', 'y'], .tryWord),
  (['f', 'i', 'n', 'a', 'l', 'l', 'y'], .finallyWord),
  (['w', 'i', 't', 'h'], .withWord),
  (['d', 'e', 'f'], .defWord),
  (['g', 'l', 'o', 'b', 'a', 'l'], .globalWord),
  (['n', 'o', 'n', 'l', 'o', 'c', 'a', 'l'], .nonlocalWord),
  (['e', 'x', 'e', 'c'], .execWord),
  (['t', 'y', 'p', 'e'], .typeWord),
  (['c', 'l', 'a', 's', 's'], .classWord),
  (['_'], .underscore),
  (['n', 'o', 't'], .notWord),
  (['a', 'n', 'd'], .andWord),
  (['o', 'r'], .orWord),
  (['i', 's'], .isWord),
  (['l', 'a', 'm', 'b', 'd', 'a'], .lambdaWord),
  (['y', 'i', 'e', 'l', 'd'], .yieldWord),
  (['a', 'w', 'a', 'i', 't'], .awaitWord),
  (['T', 'r', 'u', 'e'], .trueLiteral),
  (['F', 'a', 'l', 's', 'e'], .falseLiteral),
  (['N', 'o', 'n', 'e'], .noneLiteral)]

def keyword? (word : List Char) : Option Kind :=
  keywords.lookup word

open Spelling in
/-- The length of the longest text of this kind at the front of the text. -/
def length? (k : Kind) (cs : List Char) : Option Nat :=
  match k with
  | .identifier =>
    match cs with
    | c :: rest => if isIdentifierStart c then some (run isIdentifierPart rest + 1) else none
    | [] => none
  | .integerLiteral => integer? cs
  | .floatLiteral => float? cs
  | .escapeSequence => escape? cs
  | .lineContinuation => lineContinuation? cs
  | .comment =>
    match cs with
    | '#' :: rest => some (run (fun c => c != '\n' && c != '\x00') rest + 1)
    | _ => none
  | .typeConversion =>
    match cs with
    | '!' :: c :: _ => if c.isLower then some 2 else none
    | _ => none
  | .formatText =>
    match run isFormatText cs with
    | 0 => none
    | n => some n
  | k =>
    let word := k.spelling
    if !word.isEmpty && word.isPrefixOf cs then some word.length else none

/-- Tokens that must follow the token before them without a blank. -/
def isImmediate : Kind → Bool
  | .escapeSequence | .loneBackslash => true
  | _ => false

end Kind

/-- What is found behind some blanks: the number of blanks, the kind and the length of the token. -/
structure Written where
  blanks : Nat
  kind : Kind
  length : Nat

/-- The longer of two readings; of two equally long ones the one spelled out, else the first. -/
def better (a b : Kind × Nat) : Kind × Nat :=
  if a.2 < b.2 then b
  else if a.2 = b.2 && a.1.spelling.isEmpty && !b.1.spelling.isEmpty then b
  else a

/-- The best reading of the front of the text as one of the kinds. -/
def bestOf (kinds : List Kind) (cs : List Char) : Option (Kind × Nat) :=
  kinds.foldl (fun best k =>
    match k.length? cs with
    | none => best
    | some n =>
      match best with
      | none => some (k, n)
      | some b => some (better b (k, n))) none

/-- The next token of one of the kinds, behind `blanks` blanks already seen. Where the text of a format is
expected it begins at once, blanks included. -/
def nextWritten (kinds : List Kind) (blanks : Nat) : List Char → Option Written
  | [] => if kinds.contains .endOfInput then some ⟨blanks, .endOfInput, 0⟩ else none
  | c :: rest =>
    if kinds.contains .formatText && Spelling.isFormatText c then
      some ⟨blanks, .formatText, Spelling.run Spelling.isFormatText rest + 1⟩
    else if Spelling.isBlank c then nextWritten kinds (blanks + 1) rest
    else
      let kinds := if blanks = 0 then kinds else kinds.filter (fun k => !k.isImmediate)
      (bestOf kinds (c :: rest)).map fun (k, n) => ⟨blanks, k, n⟩

/-- How far a text that begins no token is read before that is known. -/
def falseStart : List Char → Nat
  | '!' :: _ => 1
  | '\\' :: '\r' :: _ => 2
  | '\\' :: _ => 1
  | _ => 0

example : bestOf [.dot, .floatLiteral, .integerLiteral] ['1', '_', '0', '.', '5', 'e', '3', ')'] =
    some (.floatLiteral, 7) := by decide

example : bestOf [.identifier, .exceptWord, .exceptStarWord] ['e', 'x', 'c', 'e', 'p', 't', '*', ':'] =
    some (.exceptStarWord, 7) := by decide

example : bestOf [.identifier, .exceptWord] ['e', 'x', 'c', 'e', 'p', 't', ':'] =
    some (.exceptWord, 6) := by decide

end CodeAudit.Syntax
