import CodeAudit.Data.Race
import CodeAudit.Proofs.Functions.Listing

/-! The text that is cut out of a module for a function: the lines of the module from the one in which the function
begins up to the end of the function, each moved to the left by no more than the column of the function. -/
namespace CodeAudit

namespace Text

/-- What is left of a line without its spaces and tabs at the start, or without the first `n` bytes of them. The cut is
made between two characters of the line. -/
def Outdents (n : Nat) (line rest : List Char) : Prop :=
  ∃ cut blanks, cut ≤ n ∧ takeBytes? cut line = some blanks ∧ dropBytes? cut line = some rest ∧
    (∀ c ∈ blanks, isIndent c) ∧ (cut < n → ∀ c ∈ rest.head?, isIndent c = false)

theorem byteCount_of_isIndent {blanks : List Char} (indents : ∀ c ∈ blanks, isIndent c) :
    byteCount blanks = blanks.length := by
  induction blanks with
  | nil => rfl
  | cons c blanks ih =>
    obtain ⟨first, others⟩ := List.forall_mem_cons.mp indents
    have one : c.utf8Size = 1 := by
      obtain rfl | rfl : c = ' ' ∨ c = '\t' := by simpa [isIndent] using first
      · rfl
      · rfl
    have rest := ih others
    simp only [byteCount, List.map_cons, total_cons, one, List.length_cons] at rest ⊢
    omega

theorem outdent_split (n : Nat) (line : List Char) : ∃ blanks, line = blanks ++ outdent n line ∧ blanks.length ≤ n ∧
    (∀ c ∈ blanks, isIndent c) ∧ (blanks.length < n → ∀ c ∈ (outdent n line).head?, isIndent c = false) := by
  fun_induction outdent n line with
  | case1 n c rest indent ih =>
    obtain ⟨blanks, split, bound, indents, stops⟩ := ih
    refine ⟨c :: blanks, ?_, Nat.succ_le_succ bound, List.forall_mem_cons.mpr ⟨indent, indents⟩, fun less => ?_⟩
    · rw [List.cons_append, ← split]
    · exact stops (Nat.lt_of_succ_lt_succ less)
  | case2 n c rest code => exact ⟨[], rfl, Nat.zero_le _, by simp, fun _ => by simpa using code⟩
  | case3 n line other =>
    refine ⟨[], rfl, Nat.zero_le _, by simp, fun less => ?_⟩
    cases line with
    | nil => simp
    | cons c rest =>
      obtain ⟨m, rfl⟩ := Nat.exists_eq_succ_of_ne_zero (Nat.ne_of_gt less)
      exact absurd rfl (other m c rest rfl)

theorem outdents_outdent (n : Nat) (line : List Char) : Outdents n line (outdent n line) := by
  obtain ⟨blanks, split, bound, indents, stops⟩ := outdent_split n line
  have size := byteCount_of_isIndent indents
  have taken := takeBytes?_byteCount blanks (outdent n line)
  have left := dropBytes?_byteCount blanks (outdent n line)
  rw [← split, size] at taken left
  exact ⟨blanks.length, blanks, bound, taken, left, indents, stops⟩

theorem mem_of_mem_outdent {n : Nat} {line : List Char} {c : Char} (member : c ∈ outdent n line) : c ∈ line := by
  obtain ⟨blanks, split, -⟩ := outdent_split n line
  rw [split]
  exact List.mem_append_right _ member

end Text

namespace FunctionSource

open Syntax Text

/-- A function is what a node brings into some scope. -/
def MadeFrom (module : List Char) (n : Node) (f : FunctionSource) : Prop :=
  n.isFunction ∧ ∃ scope, ofFunction? module scope n = some f

section Origin

variable {module : List Char} {f : FunctionSource}

mutual

/-- Whatever a node brings into a scope is made from a node in it. -/
theorem exists_madeFrom (scope : Option String) : ∀ n : Node, f ∈ ofNode module scope n →
    ∃ m ∈ n.nodes, MadeFrom module m f
  | .mk l cs => by
    intro member
    rw [ofNode_eq] at member
    split at member
    · next function =>
      exact ⟨.mk l cs, Node.self_mem_nodes _, function, scope, by simpa using member⟩
    rw [Node.nodes]
    split at member
    · obtain ⟨m, below, made⟩ := exists_madeFrom_ofBody _ cs member
      exact ⟨m, List.mem_cons_of_mem _ below, made⟩
    split at member
    · obtain ⟨m, below, made⟩ := exists_madeFrom_ofDefinition scope cs member
      exact ⟨m, List.mem_cons_of_mem _ below, made⟩
    · exact absurd member List.not_mem_nil

theorem exists_madeFrom_ofNodes (scope : Option String) : ∀ ns : List Node, f ∈ ofNodes module scope ns →
    ∃ m ∈ Node.nodesOf ns, MadeFrom module m f
  | [] => by simp [ofNodes]
  | n :: ns => by
    intro member
    rw [ofNodes, List.mem_append] at member
    rw [Node.nodesOf]
    rcases member with here | later
    · obtain ⟨m, below, made⟩ := exists_madeFrom scope n here
      exact ⟨m, List.mem_append_left _ below, made⟩
    · obtain ⟨m, below, made⟩ := exists_madeFrom_ofNodes scope ns later
      exact ⟨m, List.mem_append_right _ below, made⟩

theorem exists_madeFrom_ofDefinition (scope : Option String) : ∀ ns : List Node, f ∈ ofDefinition module scope ns →
    ∃ m ∈ Node.nodesOf ns, MadeFrom module m f
  | [] => by simp [ofDefinition]
  | .mk l cs :: ns => by
    intro member
    unfold ofDefinition at member
    rw [Node.nodesOf, Node.nodes]
    split at member
    · split at member
      · obtain ⟨m, below, made⟩ := exists_madeFrom_ofBody _ cs member
        exact ⟨m, List.mem_append_left _ (List.mem_cons_of_mem _ below), made⟩
      · exact absurd member List.not_mem_nil
    · obtain ⟨m, below, made⟩ := exists_madeFrom_ofDefinition scope ns member
      exact ⟨m, List.mem_append_right _ below, made⟩

theorem exists_madeFrom_ofBody (inner : Option String) : ∀ ns : List Node, f ∈ ofBody module inner ns →
    ∃ m ∈ Node.nodesOf ns, MadeFrom module m f
  | [] => by simp [ofBody]
  | .mk l cs :: ns => by
    intro member
    unfold ofBody at member
    rw [Node.nodesOf, Node.nodes]
    split at member
    · cases inner with
      | none => exact absurd member List.not_mem_nil
      | some name =>
        obtain ⟨m, below, made⟩ := exists_madeFrom_ofNodes _ cs member
        exact ⟨m, List.mem_append_left _ (List.mem_cons_of_mem _ below), made⟩
    · obtain ⟨m, below, made⟩ := exists_madeFrom_ofBody inner ns member
      exact ⟨m, List.mem_append_right _ below, made⟩

end

end Origin

/-- Each node below others that lie in a text has its place in it. -/
theorem exists_place {module : List Char} (n : Node) : ∀ s e : Cursor, (Cursor.start module).Reaches s → n.Lies s e →
    ∀ m ∈ n.nodes, ∃ s e, (Cursor.start module).Reaches s ∧ m.Lies s e := by
  induction n using Node.induct with
  | mk l cs ih =>
    intro s e within lies m member
    rw [Node.nodes_mk] at member
    rcases List.mem_cons.mp member with rfl | below
    · exact ⟨s, e, within, lies⟩
    · obtain ⟨c, child, below⟩ := List.mem_flatMap.mp below
      obtain ⟨s', e', begins, here, -⟩ := lies.2.2.of_mem child
      exact ih c child s' e' (within.trans begins) here m below

/-- The part of a module from the start of the line in which a node begins up to the end of the node, and what is in
front of it and behind it. -/
structure IsPart (module : List Char) (n : Node) (before part after : List Char) : Prop where
  whole : module = before ++ part ++ after
  begins : Ended before
  row : n.label.start.row = before.count '\n'
  column : ∃ margin body, part = margin ++ body ∧ '\n' ∉ margin ∧ n.label.start.column = byteCount margin
  start : n.label.start.offset = byteCount before + n.label.start.column
  stop : n.label.stop.offset = byteCount (before ++ part)
  line : lineStart? n.label.start.offset module = some (byteCount before)
  cut : slice? (byteCount before) n.label.stop.offset module = some part

/-- A function is cut out of a part of its module line by line. Each line comes from the line of the module in its row.
Only the last one may stop short, where the function ends; where it ends with a comment, a carriage return in front of
the line feed is part of the comment and stays. -/
structure IsCut (module : List Char) (n : Node) (part : List Char) (f : FunctionSource) (cut : List (List Char)) :
    Prop where
  source : f.source.toList = unlines cut
  each : List.Forall₂ (Outdents n.label.start.column) (lines part) cut
  single : ∀ line ∈ cut, '\n' ∉ line
  line : f.line = n.label.start.row + 1
  rows : ∀ k line, (lines part)[k]? = some line → ∃ whole, (lines module)[f.line - 1 + k]? = some whole ∧
    (line = whole ∨ k + 1 = (lines part).length ∧ line <+: whole ++ ['\r'])

variable {module before part after : List Char} {n : Node} {f : FunctionSource}

theorem exists_isPart {s e : Cursor} (within : (Cursor.start module).Reaches s) (lies : n.Lies s e) :
    ∃ before part after, IsPart module n before part after := by
  obtain ⟨l, cs⟩ := n
  have reaches := lies.reaches
  obtain ⟨start, stop, -⟩ := lies
  obtain ⟨before, margin, stands⟩ := within.stands
  obtain ⟨body, rest, ends, sliced⟩ := slice?_of_stands stands reaches
  refine ⟨before, margin ++ body, e.rest, ?_, stands.ended, ?_, ⟨margin, body, rfl, stands.apart, ?_⟩, ?_, ?_, ?_, ?_⟩
  · rw [stands.split, rest]
    simp only [List.append_assoc]
  · rw [Node.label_mk, start, stands.row]
  · rw [Node.label_mk, start, stands.column]
  · rw [Node.label_mk, start, stands.column, stands.offset, byteCount_append]
  · rw [Node.label_mk, stop, ends]
  · rw [Node.label_mk, start, lineStart?_of_stands stands]
  · rw [Node.label_mk, stop, sliced]

theorem exists_isPart_of_module {root : Node} (accepted : readModule module = .ok root)
    (member : n ∈ Node.nodesOf root.children) : ∃ before part after, IsPart module n before part after := by
  obtain ⟨c, c', cover⟩ := cover_of_read (read_of_readModule accepted)
  rw [Node.nodesOf_eq] at member
  obtain ⟨top, child, below⟩ := List.mem_flatMap.mp member
  obtain ⟨s, e, begins, lies, -⟩ := cover.lie.of_mem child
  obtain ⟨s', e', within, here⟩ := exists_place top s e (cover.within.trans begins) lies n below
  exact exists_isPart within here

theorem source_of_madeFrom (isPart : IsPart module n before part after) (made : MadeFrom module n f) :
    f.source.toList = dedent n.label.start.column part ∧ f.line = n.label.start.row + 1 := by
  obtain ⟨-, scope, made⟩ := made
  have text : textOf? module n = some (dedent n.label.start.column part) := by
    rw [textOf?, isPart.line, Option.bind_some, isPart.cut, Option.map_some]
  obtain ⟨name, -, found⟩ := Option.bind_eq_some_iff.mp made
  rw [text, Option.map_some, Option.some.injEq] at found
  subst found
  exact ⟨String.toList_ofList, rfl⟩

theorem exists_isCut (isPart : IsPart module n before part after) (made : MadeFrom module n f) :
    ∃ cut, IsCut module n part f cut := by
  obtain ⟨source, row⟩ := source_of_madeFrom isPart made
  refine ⟨(lines part).map (outdent n.label.start.column), source, ?_, ?_, row, ?_⟩
  · exact List.forall₂_map_right_iff.mpr (List.forall₂_same.mpr fun line _ => outdents_outdent _ line)
  · intro line member
    obtain ⟨old, listed, rfl⟩ := List.mem_map.mp member
    exact fun feed => lineFeed_notMem_lines part old listed (mem_of_mem_outdent feed)
  · intro k line found
    rw [row, Nat.add_sub_cancel, isPart.row, isPart.whole]
    exact lines_of_part isPart.begins after found

/-- Any node of a module can be cut out of it with the lines it begins in. The functions that are listed are made from
nodes, and the text of each of them has one line for each line from the start of its first line up to its end, without
the line end and without the spaces and tabs at the start, but of these not more than there are bytes in front of the
function. -/
theorem cut_of_madeFrom {module : String} {root : Node} (accepted : readModule module.toList = .ok root) :
    ∃ fs, list module = .ok fs ∧ (∀ f ∈ fs, ∃ n ∈ Node.nodesOf root.children, MadeFrom module.toList n f) ∧
      ∀ n ∈ Node.nodesOf root.children, ∃ before part after, IsPart module.toList n before part after ∧
        ∀ f, MadeFrom module.toList n f → ∃ cut, IsCut module.toList n part f cut := by
  refine ⟨_, by rw [list, accepted]; rfl, fun f member => exists_madeFrom_ofNodes none _ member, fun n member => ?_⟩
  obtain ⟨before, part, after, isPart⟩ := exists_isPart_of_module accepted member
  exact ⟨before, part, after, isPart, fun f made => exists_isCut isPart made⟩

/-- A method behind a tab, in a text with carriage returns and letters of several bytes. -/
theorem cut_of_decorated_method :
    let module := "class É:\r\n\t@x('ü')\r\n\tdef f(self):\r\n \t return 'é'  \r\n"
    let f : FunctionSource :=
      { name := "f", qualifiedName := "É.f", line := 2, source := "@x('ü')\ndef f(self):\n\t return 'é'\n" }
    ∃ root, readModule module.toList = .ok root ∧ ∃ n ∈ Node.nodesOf root.children, MadeFrom module.toList n f ∧
      ∃ before part after, IsPart module.toList n before part after ∧ ∃ cut, IsCut module.toList n part f cut := by
  intro module f
  have given : list module = .ok [f] := eq_ok_of_toOption (by decide +kernel)
  cases accepted : readModule module.toList with
  | error => rw [list, accepted] at given; cases given
  | ok root =>
    obtain ⟨fs, listed, made, cuts⟩ := cut_of_madeFrom accepted
    rw [listed] at given
    obtain rfl := Except.ok.inj given
    obtain ⟨n, member, madeFrom⟩ := made f (List.mem_singleton_self f)
    obtain ⟨before, part, after, isPart, cut⟩ := cuts n member
    exact ⟨root, rfl, n, member, madeFrom, before, part, after, isPart, cut f madeFrom⟩

/-- A body that begins with a tab is four columns further in than a method behind four spaces. All of the tab is taken
away with them, so that the text of the method is a definition without a body and a statement behind it. -/
theorem tabbed_method_falls_apart :
    let module := "class A:\n    def f(self, x):\n\tif x:\n\t\treturn 1\n"
    let text := "def f(self, x):\nif x:\nreturn 1\n"
    list module = .ok [{ name := "f", qualifiedName := "A.f", line := 2, source := text }] ∧
      Flow.parse text.toList = .error (.notAFunction 1) := by
  exact ⟨eq_ok_of_toOption (by decide +kernel), eq_error_of_failure? (by decide +kernel)⟩

end FunctionSource

end CodeAudit
