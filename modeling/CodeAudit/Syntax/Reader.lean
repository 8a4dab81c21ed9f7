import CodeAudit.Syntax.Automaton
import CodeAudit.Syntax.Spelling
import CodeAudit.Syntax.Tree

/-!
Reading the next token. What a token is depends on the state of the parser: a word is a keyword only where the
grammar has room for the keyword. If nothing expected is found, any token will do; text that is no token at all
is taken up to the next one.
-/
namespace CodeAudit.Syntax

namespace Reader

/-- A byte order mark at the very beginning is passed over. -/
def behindMark (c : Cursor) : Cursor :=
  if c.offset = 0 && c.rest.head? = some '\ufeff' then c.next else c

/-- The layout token that is welcome in a state. While the parser is finding its way back, an empty one counts only
if it changes the layout. -/
def layoutToken? (state : Nat) (layout : Option Layout) (strict : Bool) (c : Cursor) : Option Token :=
  let welcome := Automaton.layoutMode state
  match Layout.scan (layout.getD {}) welcome.contains (behindMark c) with
  | none => none
  | some t =>
    let changed := some t.layout != layout
    if t.stop.offset ≤ c.offset && strict && !changed then none
    else
      some { kind := t.kind, extra := false, lead := c.toPosition, start := t.start.toPosition
             stop := t.stop, layout := some t.layout, layoutChanged := changed }

/-- A word as a keyword where the state has room for it. -/
def asKeyword (state : Nat) (word : List Char) (t : Token) : Token :=
  match Kind.keyword? word with
  | none => t
  | some k =>
    if (Automaton.actions state k).isEmpty then t else { t with kind := k, wordlike := true }

/-- The written token found with the token mode of `mode` in the state `state`. -/
def writtenToken? (mode state : Nat) (c : Cursor) : Option Token :=
  let c' := behindMark c
  match nextWritten (Automaton.tokenMode mode) 0 c'.rest with
  | none => none
  | some w =>
    let start := c'.skip w.blanks
    let t : Token :=
      { kind := w.kind, extra := w.kind == .endOfInput, lead := c.toPosition
        start := start.toPosition, stop := start.skip w.length }
    if w.kind = .identifier then some (asKeyword state (start.rest.take w.length) t) else some t

def token? (mode state : Nat) (layout : Option Layout) (strict : Bool) (c : Cursor) : Option Token :=
  (layoutToken? mode layout strict c).or (writtenToken? mode state c)

/-- The end of the text from `stop` on that begins no token, where reading stands at `c`. -/
def junk (layout : Option Layout) : (fuel : Nat) → (stop c : Cursor) → Cursor
  | 0, stop, _ => stop
  | fuel + 1, stop, c =>
    if (token? Automaton.lost Automaton.lost layout true c).isSome then stop
    else
      let blanks := Spelling.run Spelling.isBlank c.rest
      let seen := (c.skip blanks).skip (falseStart (c.rest.drop blanks))
      if seen.offset = stop.offset then
        if seen.atEnd then stop else junk layout fuel seen.next seen.next
      else junk layout fuel seen seen

/-- The next token at `c` in a state. `settled` tells that the parser is not just finding its way back. -/
def next (state : Nat) (layout : Option Layout) (settled : Bool) (c : Cursor) : Token :=
  match token? state state layout (state = Automaton.lost || !settled) c with
  | some t => t
  | none =>
    match if state = Automaton.lost then none else token? Automaton.lost state layout true c with
    | some t => t
    | none =>
      let c' := behindMark c
      let start := c'.skip (Spelling.run Spelling.isBlank c'.rest)
      let seen := start.skip (falseStart start.rest)
      let from' := if seen.offset = start.offset && !seen.atEnd then seen.next else seen
      let stop := if seen.offset = start.offset && seen.atEnd then start
        else junk layout (start.rest.length + 1) from' from'
      { kind := .error, extra := false, lead := c.toPosition, start := start.toPosition, stop }

end Reader

end CodeAudit.Syntax
