import CodeAudit.Analyzer
import CodeAudit.Proofs.Data.Result
import CodeAudit.Proofs.Syntax.Definitions
import CodeAudit.Proofs.Text.Place

/-! Which functions of a module are listed: those that stand in the module itself or in the body of a class, however
deeply classes lie in each other, and no others. -/
namespace CodeAudit

namespace Syntax

/-- A node of a module and the nodes of the module around it, innermost first. -/
structure Site where
  node : Node
  above : List Node

mutual

/-- A node and every node below it, in the order of the text, each with what is around it. -/
def Node.sites (above : List Node) : Node → List Site
  | .mk l cs => ⟨.mk l cs, above⟩ :: Node.sitesOf (.mk l cs :: above) cs

def Node.sitesOf (above : List Node) : List Node → List Site
  | [] => []
  | n :: rest => Node.sites above n ++ Node.sitesOf above rest

end

theorem Node.sitesOf_eq (above : List Node) (ns : List Node) : sitesOf above ns = ns.flatMap (sites above) := by
  induction ns with
  | nil => rfl
  | cons n rest ih => simp [sitesOf, ih]

mutual

/-- Nodes around each other, the innermost of which is a scope: the module or the body of a class in a scope. -/
def isScope : List Node → Bool
  | [] => true
  | n :: above => n.label.field = some .body && isClass above

/-- The innermost node is a class in a scope, decorated or not. -/
def isClass : List Node → Bool
  | [] => false
  | n :: above => n.kind = .classDefinition &&
      (isScope above || (n.label.field = some .definition && isDecorated above))

/-- The innermost node is a decorated definition in a scope. -/
def isDecorated : List Node → Bool
  | [] => false
  | n :: above => n.kind = .decoratedDefinition && isScope above

end

/-- A function that stands in a scope. -/
def Site.isListed (s : Site) : Bool :=
  s.node.isFunction && isScope s.above

/-- The name of a definition is an identifier with the given text. -/
def Node.GoesBy (text : List Char) (n : Node) (name : String) : Prop :=
  ∃ i, n.definition.children.filter (·.label.field = some .name) = [i] ∧ i.IsIdentifier text name.toList

end Syntax

namespace FunctionSource

open Syntax

/-- What is listed for a function in a scope. Its qualified name begins with those of the classes around it, outermost
first. The line is that of the first decorator or else of the `def`, which in `async def` has a word in front. -/
structure Describes (module : List Char) (s : Site) (f : FunctionSource) : Prop where
  name : s.node.GoesBy module f.name
  qualifiedName : ∃ classes, List.Forall₂ (Node.GoesBy module) (s.above.reverse.filter (·.kind = .classDefinition))
    classes ∧ f.qualifiedName = ".".intercalate (classes ++ [f.name])
  line : ∃ first rest, s.node.children = first :: rest ∧ f.line = first.label.start.row + 1 ∧
    if s.node.kind = .decoratedDefinition then first.kind = .decorator
    else first.kind = .defWord ∨ first.kind = .asyncWord

/-- Functions that are listed for some of the sites between two places of a module, one for each and in their order. -/
structure Lists (module : List Char) (c c' : Cursor) (sites : List Site) (fs : List FunctionSource) : Prop where
  each : List.Forall₂ (Describes module) sites fs
  ordered : sites.Pairwise fun a b => a.node.label.stop.offset ≤ b.node.label.start.offset
  within : ∀ s ∈ sites, c.offset ≤ s.node.label.start.offset ∧ s.node.label.stop.offset ≤ c'.offset

variable {module : List Char} {c c' m s e : Cursor} {sites sites' : List Site} {fs fs' : List FunctionSource}
  {above : List Node} {n : Node} {ns : List Node} {scope : Option String}

theorem lists_nil : Lists module c c' [] [] :=
  ⟨.nil, .nil, by simp⟩

theorem Lists.append (front : Lists module c m sites fs) (back : Lists module m c' sites' fs') (first : c.Reaches m)
    (second : m.Reaches c') : Lists module c c' (sites ++ sites') (fs ++ fs') := by
  have first := first.offset_le
  have second := second.offset_le
  refine ⟨List.rel_append front.each back.each, ?_, fun s member => ?_⟩
  · refine List.pairwise_append.mpr ⟨front.ordered, back.ordered, fun a before b behind => ?_⟩
    exact Nat.le_trans (front.within a before).2 (back.within b behind).1
  · rcases List.mem_append.mp member with before | behind
    · have := front.within s before
      omega
    · have := back.within s behind
      omega

theorem Lists.mono (lists : Lists module s e sites fs) (first : c.Reaches s) (second : e.Reaches c') :
    Lists module c c' sites fs := by
  have first := first.offset_le
  have second := second.offset_le
  refine ⟨lists.each, lists.ordered, fun s member => ?_⟩
  have := lists.within s member
  omega

/-- Nothing below is listed. -/
structure Closed (above : List Node) : Prop where
  scope : isScope above = false
  classes : isClass above = false
  decorated : isDecorated above = false

theorem Closed.cons (closed : Closed above) (n : Node) : Closed (n :: above) := by
  constructor <;> simp [isScope, isClass, isDecorated, closed.scope, closed.classes, closed.decorated]

theorem sites_of_closed (n : Node) : ∀ above, Closed above → (n.sites above).filter Site.isListed = [] := by
  induction n using Node.induct with
  | mk l cs ih =>
    intro above closed
    have below : (Node.sitesOf (.mk l cs :: above) cs).filter Site.isListed = [] := by
      rw [Node.sitesOf_eq, List.filter_flatMap, List.flatMap_eq_nil_iff]
      exact fun c child => ih c child _ (closed.cons _)
    rw [Node.sites, List.filter_cons_of_neg (by simp [Site.isListed, closed.scope]), below]

/-- The nodes around each other lead to a scope, whose functions get qualified names that begin with `scope`. -/
structure InScope (module : List Char) (above : List Node) (scope : Option String) : Prop where
  opens : isScope above = true
  classes : isClass above = false
  decorated : isDecorated above = false
  names : ∃ classes, List.Forall₂ (Node.GoesBy module) (above.reverse.filter (·.kind = .classDefinition)) classes ∧
    ∀ name, qualify scope name = ".".intercalate (classes ++ [name])

theorem child?_of_filter {f : Field} {i : Node} (only : n.children.filter (·.label.field = some f) = [i]) :
    n.child? f = some i ∧ i ∈ n.children ∧ i.label.field = some f := by
  have member : i ∈ n.children.filter (·.label.field = some f) := by simp [only]
  obtain ⟨child, field⟩ := List.mem_filter.mp member
  exact ⟨by rw [Node.child?, ← List.head?_filter, only]; rfl, child, of_decide_eq_true field⟩

/-- A decorated definition stands for the one definition in it. -/
theorem definition_of_decorated (definite : n.Definite module) (decorated : n.kind = .decoratedDefinition) :
    ∃ d, n.children.filter (·.label.field = some .definition) = [d] ∧ d ∈ n.children ∧ n.definition = d ∧
      (d.kind = .functionDefinition ∨ d.kind = .classDefinition) ∧
      (n.isFunction = true ↔ d.kind = .functionDefinition) := by
  obtain ⟨d, only, kind⟩ := definite.definition decorated
  obtain ⟨found, child, -⟩ := child?_of_filter only
  refine ⟨d, only, child, by rw [Node.definition, if_pos decorated, found]; rfl, kind, ?_⟩
  simp [Node.isFunction, decorated, found]

/-- The name of a definition as it is looked for. -/
theorem name?_of_definite (definite : n.Definite module) (below : ∀ m ∈ n.children, m.Definite module)
    (defines : n.isFunction ∨ n.kind = .classDefinition) :
    ∃ name : String, n.GoesBy module name ∧ n.name? module = some name.toList := by
  have named : n.definition.Definite module ∧
      (n.definition.kind = .functionDefinition ∨ n.definition.kind = .classDefinition) := by
    by_cases decorated : n.kind = .decoratedDefinition
    · obtain ⟨d, -, child, same, kind, -⟩ := definition_of_decorated definite decorated
      rw [same]
      exact ⟨below d child, kind⟩
    · rw [Node.definition, if_neg decorated]
      exact ⟨definite, by simpa [Node.isFunction, decorated] using defines⟩
  obtain ⟨i, word, only, identifier⟩ := named.1.named named.2
  refine ⟨.ofList word, ⟨i, only, by simpa using identifier⟩, ?_⟩
  rw [Node.name?, (child?_of_filter only).1]
  simpa using identifier.text

theorem textOf?_isSome (within : (Cursor.start module).Reaches s) (reaches : s.Reaches e)
    (start : n.label.start = s.toPosition) (stop : n.label.stop = e.toPosition) :
    ∃ text, textOf? module n = some text := by
  obtain ⟨before, margin, stands⟩ := within.stands
  obtain ⟨body, -, -, sliced⟩ := Text.slice?_of_stands stands reaches
  refine ⟨Text.dedent n.label.start.column (margin ++ body), ?_⟩
  rw [textOf?, start, stop, Text.lineStart?_of_stands stands, Option.bind_some, sliced, Option.map_some]

/-- A function in a scope is listed. -/
theorem ofFunction?_describes (inScope : InScope module above scope) (function : n.isFunction)
    (definite : n.Definite module) (below : ∀ m ∈ n.children, m.Definite module)
    (within : (Cursor.start module).Reaches s) (reaches : s.Reaches e) (start : n.label.start = s.toPosition)
    (stop : n.label.stop = e.toPosition) :
    ∃ f, ofFunction? module scope n = some f ∧ Describes module ⟨n, above⟩ f := by
  obtain ⟨name, goesBy, found⟩ := name?_of_definite definite below (.inl function)
  obtain ⟨text, cut⟩ := textOf?_isSome within reaches start stop
  obtain ⟨classes, around, qualified⟩ := inScope.names
  refine ⟨_, by rw [ofFunction?, found, cut]; rfl, ⟨by simpa using goesBy, ⟨classes, around, ?_⟩, ?_⟩⟩
  · simp [qualified]
  · by_cases decorated : n.kind = .decoratedDefinition
    · obtain ⟨first, rest, children, here, kind⟩ := definite.decorated decorated
      exact ⟨first, rest, children, by rw [here], by simpa [decorated] using kind⟩
    · have bare : n.kind = .functionDefinition := by simpa [Node.isFunction, decorated] using function
      obtain ⟨first, rest, children, here, kind⟩ := definite.front bare
      exact ⟨first, rest, children, by rw [here], by simpa [bare] using kind⟩

/-- A node brings in itself if it is a function, and what is in it if it is a class. -/
theorem ofNode_eq (scope : Option String) (n : Node) : ofNode module scope n =
    if n.isFunction then (ofFunction? module scope n).toList
    else if n.kind = .classDefinition then ofBody module (scopeOf? module scope n.children) n.children
    else if n.kind = .decoratedDefinition then ofDefinition module scope n.children
    else [] := by
  obtain ⟨l, cs⟩ := n
  rw [ofNode, Node.kind_mk, Node.children_mk]
  split
  · rfl
  · split
    · next kind => rw [if_pos kind]
    · next kind => rw [if_neg (by rw [kind]; decide), if_pos kind]
    · next bare decorated => rw [if_neg bare, if_neg decorated]

/-- What a class brings into a module stands in its body. -/
theorem ofBody_eq (name : String) (ns : List Node) : ofBody module (some name) ns =
    ((ns.find? (·.label.field = some .body)).map fun b => ofNodes module (some name) b.children).getD [] := by
  induction ns with
  | nil => rfl
  | cons n ns ih =>
    obtain ⟨l, cs⟩ := n
    unfold ofBody
    by_cases body : l.field = some .body
    · simp [body]
    · simp [body, ih]

theorem ofDefinition_eq (scope : Option String) (ns : List Node) : ofDefinition module scope ns =
    ((ns.find? (·.label.field = some .definition)).map fun d =>
      if d.kind = .classDefinition then ofBody module (scopeOf? module scope d.children) d.children
      else []).getD [] := by
  induction ns with
  | nil => rfl
  | cons n ns ih =>
    obtain ⟨l, cs⟩ := n
    unfold ofDefinition
    by_cases definition : l.field = some .definition
    · rw [if_pos definition, List.find?_cons_of_pos (by simp [definition])]
      rfl
    · rw [if_neg definition, List.find?_cons_of_neg (by simp [definition])]
      exact ih

/-- What comes of the members of a list comes of one of them if nothing comes of the others. -/
theorem flatMap_of_filter {α β : Type} {P : α → Bool} {g : α → List β} {xs : List α} {x : α} (only : xs.filter P = [x])
    (others : ∀ y ∈ xs, P y = false → g y = []) : xs.flatMap g = g x := by
  obtain ⟨front, back, rfl, before, -, behind⟩ := List.filter_eq_cons_iff.mp only
  have none (ys : List α) (members : ∀ y ∈ ys, y ∈ front ++ x :: back) (off : ∀ y ∈ ys, P y = false) :
      ys.flatMap g = [] :=
    List.flatMap_eq_nil_iff.mpr fun y member => others y (members y member) (off y member)
  rw [List.flatMap_append, List.flatMap_cons, none front (by simp_all) (by simpa using before),
    none back (by simp_all) (by simpa using behind), List.append_nil, List.nil_append]

/-- Below a node that opens no scope only its children are searched. -/
theorem sites_of_child (closed : isScope above = false) (n : Node) :
    (n.sites above).filter Site.isListed = (Node.sitesOf (n :: above) n.children).filter Site.isListed := by
  obtain ⟨l, cs⟩ := n
  rw [Node.sites, List.filter_cons_of_neg (by simp [Site.isListed, closed])]
  rfl

theorem sites_of_closed_child (closed : isScope above = false) (inner : Closed (n :: above)) :
    (n.sites above).filter Site.isListed = [] := by
  rw [sites_of_child closed, Node.sitesOf_eq, List.filter_flatMap, List.flatMap_eq_nil_iff]
  exact fun c _ => sites_of_closed c _ inner

/-- The body of a class in a scope is a scope. -/
theorem inScope_of_body {k b : Node} {name : String} {classes : List String} (inClass : isClass (k :: above) = true)
    (around : List.Forall₂ (Node.GoesBy module) (above.reverse.filter (·.kind = .classDefinition)) classes)
    (qualified : ∀ name, qualify scope name = ".".intercalate (classes ++ [name])) (kind : k.kind = .classDefinition)
    (goesBy : k.GoesBy module name) (body : b.label.field = some .body) (block : b.kind = .block) :
    InScope module (b :: k :: above) (some (qualify scope name)) := by
  refine ⟨by simp [isScope, body, inClass], by simp [isClass, block], by simp [isDecorated, block],
    classes ++ [name], ?_, fun inner => ?_⟩
  · have names : (b :: k :: above).reverse.filter (·.kind = .classDefinition) =
        above.reverse.filter (·.kind = .classDefinition) ++ [k] := by
      simp [block, kind]
    rw [names]
    exact List.rel_append around (.cons goesBy .nil)
  · rw [String.intercalate_append_of_ne_nil (by simp) (by simp), String.intercalate_singleton, ← qualified]
    rfl

/-- What the children of a scope bring into it has been found. -/
def Searched (module : List Char) (n : Node) : Prop :=
  ∀ above scope c c', InScope module (n :: above) scope → Node.Cover module n.children c c' →
    Lists module c c' ((Node.sitesOf (n :: above) n.children).filter Site.isListed) (ofNodes module scope n.children)

/-- A class brings in what its body does. -/
theorem lists_of_class {k : Node} {classes : List String} (inClass : isClass (k :: above) = true)
    (closed : isScope (k :: above) = false)
    (around : List.Forall₂ (Node.GoesBy module) (above.reverse.filter (·.kind = .classDefinition)) classes)
    (qualified : ∀ name, qualify scope name = ".".intercalate (classes ++ [name])) (kind : k.kind = .classDefinition)
    (definite : k.Definite module) (cover : Node.Cover module k.children s e)
    (searched : ∀ b ∈ k.children, Searched module b) :
    Lists module s e ((Node.sitesOf (k :: above) k.children).filter Site.isListed)
      (ofBody module (scopeOf? module scope k.children) k.children) := by
  obtain ⟨i, word, only, identifier⟩ := definite.named (.inr kind)
  have goesBy : k.GoesBy module (.ofList word) := by
    refine ⟨i, ?_, by simpa using identifier⟩
    rw [Node.definition, if_neg (by simp [kind])]
    exact only
  have inner : scopeOf? module scope k.children = some (qualify scope (.ofList word)) := by
    have found : k.children.find? (·.label.field = some .name) = some i := (child?_of_filter only).1
    rw [scopeOf?, found, Option.bind_some, identifier.text]
    rfl
  -- Only the body of a class is searched.
  have others (y : Node) (member : y ∈ k.children) (other : decide (y.label.field = some .body) = false) :
      (y.sites (k :: above)).filter Site.isListed = [] := by
    refine sites_of_closed_child closed ⟨?_, ?_, ?_⟩
    · simp [isScope, of_decide_eq_false other]
    · simp [isClass, closed, isDecorated, kind]
    · simp [isDecorated, closed]
  rw [inner, ofBody_eq, Node.sitesOf_eq, List.filter_flatMap]
  rcases definite.body kind with none | ⟨b, only, block⟩
  · have empty : ∀ y ∈ k.children, decide (y.label.field = some .body) = false := by simpa using none
    have missing : k.children.find? (·.label.field = some .body) = Option.none := by
      rw [← List.head?_filter, none]
      rfl
    rw [missing, List.flatMap_eq_nil_iff.mpr fun y member => others y member (empty y member)]
    exact lists_nil
  · obtain ⟨found, child, body⟩ := child?_of_filter only
    have found : k.children.find? (·.label.field = some .body) = some b := found
    obtain ⟨-, s', e', begins, ends, -, -, covered⟩ := cover.of_mem child
    rw [flatMap_of_filter only others, found, sites_of_child closed]
    exact (searched b child _ _ _ _ (inScope_of_body inClass around qualified kind goesBy body block) covered).mono
      begins ends

/-- Nothing below a function in a scope is listed. -/
theorem sites_below_function (inScope : InScope module above scope) (definite : n.Definite module)
    (function : n.isFunction) : (Node.sitesOf (n :: above) n.children).filter Site.isListed = [] := by
  have closed : isScope (n :: above) = false := by simp [isScope, inScope.classes]
  rw [Node.sitesOf_eq, List.filter_flatMap, List.flatMap_eq_nil_iff]
  intro c child
  by_cases decorated : n.kind = .decoratedDefinition
  · -- The function that is decorated is not listed once more.
    obtain ⟨d, only, -, -, -, isFunction⟩ := definition_of_decorated definite decorated
    have bare := isFunction.mp function
    have noClass : c.kind = .classDefinition → c.label.field ≠ some .definition := by
      intro kind field
      have member : c ∈ n.children.filter (·.label.field = some .definition) := by simp [child, field]
      rw [only, List.mem_singleton] at member
      rw [← member, kind] at bare
      contradiction
    refine sites_of_closed_child closed ⟨?_, ?_, ?_⟩
    · simp [isScope, isClass, decorated]
    · simpa [isClass, closed] using fun kind field => absurd field (noClass kind)
    · simp [isDecorated, closed]
  · have bare : n.kind = .functionDefinition := by simpa [Node.isFunction, decorated] using function
    exact sites_of_closed c _ ⟨closed, by simp [isClass, bare], by simp [isDecorated, bare]⟩

/-- A function in a scope is listed, and nothing below it. -/
theorem lists_of_function (inScope : InScope module above scope) (definite : n.Definite module)
    (cover : Node.Cover module n.children s e) (start : n.label.start = s.toPosition)
    (stop : n.label.stop = e.toPosition) (function : n.isFunction) :
    Lists module s e ((n.sites above).filter Site.isListed) (ofNode module scope n) := by
  have below : ∀ m ∈ n.children, m.Definite module := fun m child => (cover.of_mem child).1
  obtain ⟨f, made, describes⟩ :=
    ofFunction?_describes inScope function definite below cover.within cover.lie.reaches start stop
  have none := sites_below_function inScope definite function
  have listed : Site.isListed ⟨n, above⟩ := by simp [Site.isListed, function, inScope.opens]
  rw [ofNode_eq, if_pos function, made]
  obtain ⟨l, cs⟩ := n
  rw [Node.children_mk] at none
  rw [Node.sites, List.filter_cons_of_pos listed, none]
  refine ⟨.cons describes .nil, List.pairwise_singleton .., fun site member => ?_⟩
  obtain rfl := List.mem_singleton.mp member
  exact ⟨Nat.le_of_eq (congrArg Position.offset start).symm, Nat.le_of_eq (congrArg Position.offset stop)⟩

/-- A decorated class brings in what the class does. -/
theorem lists_of_decorated (inScope : InScope module above scope) (definite : n.Definite module)
    (cover : Node.Cover module n.children s e) (decorated : n.kind = .decoratedDefinition)
    (function : ¬ n.isFunction) (searched : ∀ m ∈ Node.nodesOf n.children, Searched module m) :
    Lists module s e ((Node.sitesOf (n :: above) n.children).filter Site.isListed) (ofNode module scope n) := by
  have closed : isScope (n :: above) = false := by simp [isScope, inScope.classes]
  obtain ⟨classes, around, qualified⟩ := inScope.names
  obtain ⟨d, only, child, -, kinds, isFunction⟩ := definition_of_decorated definite decorated
  have kind : d.kind = .classDefinition := kinds.resolve_left (mt isFunction.mpr function)
  have field := (child?_of_filter only).2.2
  obtain ⟨definite', s', e', begins, ends, -, -, covered⟩ := cover.of_mem child
  have inClass : isClass (d :: n :: above) = true := by
    simp [isClass, kind, field, isDecorated, decorated, inScope.opens]
  have closed' : isScope (d :: n :: above) = false := by simp [isScope, isClass, decorated]
  have around' : List.Forall₂ (Node.GoesBy module)
      ((n :: above).reverse.filter (·.kind = .classDefinition)) classes := by
    simpa [decorated] using around
  have searched : ∀ b ∈ d.children, Searched module b := fun b inner =>
    searched b (Node.children_subset child (Node.mem_nodesOf inner))
  have lists := lists_of_class inClass closed' around' qualified kind definite' covered searched
  -- Decorators and comments beside the class bring in nothing.
  have others (y : Node) (member : y ∈ n.children) (other : decide (y.label.field = some .definition) = false) :
      (y.sites (n :: above)).filter Site.isListed = [] := by
    refine sites_of_closed_child closed ⟨?_, ?_, ?_⟩
    · simp [isScope, isClass, decorated]
    · simp [isClass, closed, of_decide_eq_false other]
    · simp [isDecorated, closed]
  rw [Node.sitesOf_eq, List.filter_flatMap, flatMap_of_filter only others, sites_of_child closed]
  have found : n.children.find? (·.label.field = some .definition) = some d := (child?_of_filter only).1
  rw [ofNode_eq, if_neg function, if_neg (by rw [decorated]; decide), if_pos decorated, ofDefinition_eq, found,
    Option.map_some, Option.getD_some, if_pos kind]
  exact lists.mono begins ends

/-- A node in a scope brings in itself or, if it is a class, what the class does. -/
theorem lists_of_node (inScope : InScope module above scope) (definite : n.Definite module)
    (cover : Node.Cover module n.children s e) (start : n.label.start = s.toPosition)
    (stop : n.label.stop = e.toPosition) (searched : ∀ m ∈ Node.nodesOf n.children, Searched module m) :
    Lists module s e ((n.sites above).filter Site.isListed) (ofNode module scope n) := by
  have closed : isScope (n :: above) = false := by simp [isScope, inScope.classes]
  by_cases function : n.isFunction
  · exact lists_of_function inScope definite cover start stop function
  have unlisted : (n.sites above).filter Site.isListed =
      (Node.sitesOf (n :: above) n.children).filter Site.isListed := by
    obtain ⟨l, cs⟩ := n
    rw [Node.sites, List.filter_cons_of_neg (by simp [Site.isListed, function])]
    rfl
  rw [unlisted]
  by_cases bare : n.kind = .classDefinition
  · obtain ⟨classes, around, qualified⟩ := inScope.names
    have inClass : isClass (n :: above) = true := by simp [isClass, bare, inScope.opens]
    have searched : ∀ b ∈ n.children, Searched module b := fun b child => searched b (Node.mem_nodesOf child)
    rw [ofNode_eq, if_neg function, if_pos bare]
    exact lists_of_class inClass closed around qualified bare definite cover searched
  by_cases decorated : n.kind = .decoratedDefinition
  · exact lists_of_decorated inScope definite cover decorated function searched
  · have nothing : (Node.sitesOf (n :: above) n.children).filter Site.isListed = [] := by
      rw [Node.sitesOf_eq, List.filter_flatMap, List.flatMap_eq_nil_iff]
      exact fun c _ => sites_of_closed c _ ⟨closed, by simp [isClass, bare], by simp [isDecorated, decorated]⟩
    rw [nothing, ofNode_eq, if_neg function, if_neg bare, if_neg decorated]
    exact lists_nil

theorem lists_of_nodes (inScope : InScope module above scope) (cover : Node.Cover module ns c c')
    (searched : ∀ m ∈ Node.nodesOf ns, Searched module m) :
    Lists module c c' ((Node.sitesOf above ns).filter Site.isListed) (ofNodes module scope ns) := by
  induction ns generalizing c with
  | nil => exact lists_nil
  | cons n ns ih =>
    obtain ⟨m, onward, first, rest⟩ := cover.cons
    obtain ⟨definite, s, e, begins, ends, start, stop, inner⟩ := first.of_mem (List.mem_singleton_self n)
    have here := lists_of_node inScope definite inner start stop fun m below =>
      searched m (Node.children_subset (List.mem_cons_self ..) below)
    have later := ih rest fun m below => searched m (by rw [Node.nodesOf]; exact List.mem_append_right _ below)
    rw [Node.sitesOf, ofNodes, List.filter_append]
    exact (here.mono begins ends).append later onward rest.lie.reaches

theorem searched (module : List Char) (n : Node) : Searched module n := by
  suffices all : ∀ m ∈ n.nodes, Searched module m from all n (Node.self_mem_nodes n)
  induction n using Node.induct with
  | mk l cs ih =>
    have below : ∀ m ∈ Node.nodesOf cs, Searched module m := by
      intro m member
      rw [Node.nodesOf_eq] at member
      obtain ⟨c, child, member⟩ := List.mem_flatMap.mp member
      exact ih c child m member
    rw [Node.nodes_mk, ← Node.nodesOf_eq]
    exact List.forall_mem_cons.mpr ⟨fun above scope c c' inScope cover => lists_of_nodes inScope cover below, below⟩

theorem read_of_readModule {text : List Char} {root : Node} (accepted : readModule text = .ok root) :
    read text = .ok root := by
  unfold readModule at accepted
  cases found : read text with
  | ok n =>
    rw [found] at accepted
    rw [Except.ok.inj accepted]
  | error =>
    rw [found] at accepted
    cases accepted

theorem list_eq_ok_iff {module : String} {fs : List FunctionSource} :
    list module = .ok fs ↔ ∃ root, readModule module.toList = .ok root ∧ all module.toList root = fs :=
  map_eq_ok

/-- The functions of a module are those that stand in its scopes. -/
theorem lists_of_module {module : String} {root : Node} (accepted : readModule module.toList = .ok root) :
    ∃ c c', Lists module.toList c c' ((Node.sitesOf [] root.children).filter Site.isListed)
      (all module.toList root) := by
  obtain ⟨c, c', cover⟩ := cover_of_read (read_of_readModule accepted)
  have inScope : InScope module.toList [] none :=
    ⟨rfl, rfl, rfl, [], .nil, fun name => String.intercalate_singleton.symm⟩
  exact ⟨c, c', lists_of_nodes inScope cover fun m _ => searched module.toList m⟩

/-- Exactly the functions in scopes of a module are listed, in the order of its text. -/
theorem listed_functions {module : String} {root : Node} (accepted : readModule module.toList = .ok root) :
    ∃ fs, list module = .ok fs ∧
      List.Forall₂ (Describes module.toList) ((Node.sitesOf [] root.children).filter Site.isListed) fs ∧
      ((Node.sitesOf [] root.children).filter Site.isListed).Pairwise fun a b =>
        a.node.label.stop.offset ≤ b.node.label.start.offset := by
  obtain ⟨c, c', lists⟩ := lists_of_module accepted
  exact ⟨_, by rw [list, accepted]; rfl, lists.each, lists.ordered⟩

/-- The function within the method and the one in the conditional statement are not listed. -/
theorem listed_functions_of_nested_classes :
    let module := "class A:\n    @x\n    class B(C):\n        async def f(self):\n            def g(): pass\n" ++
      "@y\ndef k(): pass\nif x:\n    def h(): pass\n"
    ∃ root, readModule module.toList = .ok root ∧
      List.Forall₂ (Describes module.toList) ((Node.sitesOf [] root.children).filter Site.isListed)
        [{ name := "f", qualifiedName := "A.B.f", line := 4, source := "async def f(self):\n    def g(): pass\n" },
          { name := "k", qualifiedName := "k", line := 6, source := "@y\ndef k(): pass\n" }] := by
  intro module
  have given : list module = .ok
      [{ name := "f", qualifiedName := "A.B.f", line := 4, source := "async def f(self):\n    def g(): pass\n" },
        { name := "k", qualifiedName := "k", line := 6, source := "@y\ndef k(): pass\n" }] :=
    eq_ok_of_toOption (by decide +kernel)
  cases accepted : readModule module.toList with
  | error => rw [list, accepted] at given; cases given
  | ok root =>
    obtain ⟨fs, listed, each, -⟩ := listed_functions accepted
    rw [listed] at given
    obtain rfl := Except.ok.inj given
    exact ⟨root, rfl, each⟩

end FunctionSource

end CodeAudit
