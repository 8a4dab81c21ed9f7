import CodeAudit.Text.Cursor
import CodeAudit.Syntax.Kind

/-!
Layout tokens: line ends, indentation and the parts of strings. What they are depends on the lines before, which a
`Layout` remembers: the open strings and the open blocks. A tab counts eight columns.
-/
namespace CodeAudit.Syntax

/-- How an open string was begun. -/
structure Quote where
  mark : Char
  triple : Bool := false
  format : Bool := false
  raw : Bool := false
  bytes : Bool := false
deriving DecidableEq

/-- Open strings and the indentation of open blocks, innermost first. -/
structure Layout where
  inFormat : Bool := false
  quotes : List Quote := []
  indents : List Nat := []
deriving DecidableEq

/-- What is kept of a layout between tokens: the 255 outermost strings, the low byte of each indentation, and at
most 1022 strings and blocks together. -/
def Layout.save (l : Layout) : Layout :=
  let quotes := l.quotes.drop (l.quotes.length - 255)
  let room := 1022 - quotes.length
  { l with
    quotes
    indents := (l.indents.drop (l.indents.length - room)).map (· % 256) }

/-- A layout token: its kind, the layout behind it and its extent. -/
structure LayoutToken where
  kind : Kind
  layout : Layout
  start : Cursor
  stop : Cursor

namespace Layout

/-- How the search for the rest of a string ends. The counts are of characters: those read, and those up to the
end of the token. -/
inductive Piece where
  | none
  | text (stop : Nat)
  | close (stop : Nat)
  | unfinished (read : Nat)

/-- The text of the string `q` up to the next character of interest, or its closing quote if there is no text.
`seen` characters have been read, of which `filled` says whether they count as text. -/
def piece (q : Quote) : (fuel : Nat) → (cs : List Char) → (seen : Nat) → (filled : Bool) → Piece
  | 0, _, seen, _ => .unfinished seen
  | _, [], seen, _ => .unfinished seen
  | fuel + 1, c :: rest, seen, filled =>
    let textIf (stop : Nat) : Piece := if filled then .text stop else .none
    if c = '\x00' then .unfinished seen
    else if (c = '\x7b' || c = '\x7d') && q.format then textIf seen
    else if c = '\\' then
      if q.raw then
        let a := if rest.head? = some q.mark || rest.head? = some '\\' then 1 else 0
        let b := if (rest.drop a).head? = some '\r' then 1 else 0
        let d := if (rest.drop (a + b)).head? = some '\n' then 1 else 0
        piece q fuel (rest.drop (a + b + d)) (seen + 1 + a + b + d) filled
      else if q.bytes && [some 'N', some 'u', some 'U'].contains rest.head? then
        piece q fuel (rest.drop 2) (seen + min (rest.length + 1) 3) true
      else textIf seen
    else if c = q.mark then
      if q.triple then
        if rest.head? = some q.mark then
          if rest.tail.head? = some q.mark then
            if filled then .text seen else .close (seen + 3)
          else .text (seen + 2)
        else .text (seen + 1)
      else if filled then .text seen
      else .close (seen + 1)
    else if c = '\n' && filled && !q.triple then .none
    else piece q fuel rest (seen + 1) true

/-- What the blank in front of a token says. -/
structure Blank where
  read : Nat := 0
  lineEnd : Bool := false
  indent : Nat := 0
  comment : Option Nat := none

/-- Reads blanks, comment lines and joined lines. There is no answer before a comment that shares its line with
code, nor before a backslash that joins no lines. -/
def blank : (inComment : Bool) → Blank → List Char → Option Blank
  | _, b, [] => some { b with lineEnd := true, indent := 0 }
  | true, b, c :: rest =>
    let b := { b with read := b.read + 1 }
    if c = '\n' || c = '\x00' then blank false { b with indent := 0 } rest else blank true b rest
  | false, b, c :: rest =>
    let on := { b with read := b.read + 1 }
    match c with
    | '\n' => blank false { on with lineEnd := true, indent := 0 } rest
    | ' ' => blank false { on with indent := b.indent + 1 } rest
    | '\r' => blank false { on with indent := 0 } rest
    | '\x0c' => blank false { on with indent := 0 } rest
    | '\t' => blank false { on with indent := b.indent + 8 } rest
    | '#' =>
      if b.lineEnd then blank true { on with comment := b.comment.or (some b.indent) } rest
      else none
    | '\\' =>
      match rest with
      | '\n' :: rest => blank false { b with read := b.read + 2 } rest
      | '\r' :: '\n' :: rest => blank false { b with read := b.read + 3 } rest
      | [] => blank false on []
      | ['\r'] => blank false { b with read := b.read + 2 } []
      | _ => none
    | _ => some b

/-- The letters in front of an opening quote. -/
def flags (q : Quote) : List Char → Nat → Quote × Nat
  | [], n => (q, n)
  | c :: rest, n =>
    match c with
    | 'f' | 'F' => flags { q with format := true } rest (n + 1)
    | 'r' | 'R' => flags { q with raw := true } rest (n + 1)
    | 'b' | 'B' => flags { q with bytes := true } rest (n + 1)
    | 'u' | 'U' => flags q rest (n + 1)
    | _ => (q, n)

/-- An opening quote with the letters in front of it, and its length. -/
def opening? (cs : List Char) : Option (Quote × Nat) :=
  let (q, n) := flags { mark := '`' } cs 0
  match cs.drop n with
  | '`' :: _ => some (q, n + 1)
  | c :: rest =>
    if c = '\'' || c = '"' then
      if rest.take 2 = [c, c] then some ({ q with mark := c, triple := true }, n + 3)
      else some ({ q with mark := c }, n + 1)
    else none
  | [] => none

/-- Line ends, indentation and opening quotes, once no string is left to go on with. `origin` is where the token
would begin without blanks, `c` is where reading stands. -/
def outside (l : Layout) (welcome : Kind → Bool) (repair : Bool) (origin c : Cursor) :
    Option LayoutToken :=
  match blank false {} c.rest with
  | none => none
  | some b =>
    let behind := c.skip b.read
    let current := l.indents.headD 0
    let empty (k : Kind) (l : Layout) : LayoutToken :=
      ⟨k, l.save, if b.read = 0 then origin else c, c⟩
    let brackets := welcome .closeBrace || welcome .closeParen || welcome .closeBracket
    let quoteNext := ['"', '\'', '`'].contains (behind.rest.headD '\x00')
    let commentWithin := b.comment.any fun n => current ≤ n
    if b.lineEnd && welcome .indent && current < b.indent then
      some (empty .indent { l with indents := b.indent % 65536 :: l.indents })
    else if b.lineEnd && b.indent < current && !l.inFormat && !commentWithin &&
        (welcome .dedent ||
          (!welcome .newline && !(welcome .stringStart && quoteNext) && !brackets)) then
      some (empty .dedent { l with indents := l.indents.tail })
    else if b.lineEnd && welcome .newline && !repair then some (empty .newline l)
    else if b.comment.isNone && welcome .stringStart then
      match opening? behind.rest with
      | some (q, n) =>
        let start := if b.read = 0 then origin else behind
        some ⟨.stringStart, { l with inFormat := q.format, quotes := q :: l.quotes }.save, start,
          behind.skip n⟩
      | none => none
    else none

/-- The next layout token of a welcome kind. Where both indentation and the text of strings are welcome, which is
so only during repair, strings are not gone on with and lines not ended. -/
def scan (l : Layout) (welcome : Kind → Bool) (c : Cursor) : Option LayoutToken :=
  let repair := welcome .stringText && welcome .indent
  match l.quotes with
  | [] => outside l welcome repair c c
  | q :: quotes =>
    let brace := c.rest.headD '\x00'
    if welcome .escapeInterpolation && !repair && q.format && (brace = '\x7b' || brace = '\x7d') then
      if c.rest.tail.head? = some brace then
        some ⟨.escapeInterpolation, l.save, c, c.skip 2⟩
      else none
    else if welcome .stringText && !repair then
      match piece q (c.rest.length + 1) c.rest 0 false with
      | .none => none
      | .text n => some ⟨.stringText, l.save, c, c.skip n⟩
      | .close n => some ⟨.stringEnd, { l with inFormat := false, quotes }.save, c, c.skip n⟩
      | .unfinished n => outside l welcome repair c (c.skip n)
    else outside l welcome repair c c

end Layout

end CodeAudit.Syntax
