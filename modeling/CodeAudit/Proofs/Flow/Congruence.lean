import CodeAudit.Proofs.Flow.Parts

/-! What the flow of a node depends on. A node sees of each child its kind, its field, its flow and what it contributes
to a chain of operands; of a comment it sees nothing. -/
namespace CodeAudit.Flow

open Syntax

/-- What a node is for the node above it. -/
structure Part where
  kind : Kind
  field : Option Field
  flow : Flow
  operand : Option Kind → List Flow

/-- A comment that stands for no field of the node above it. -/
def isRemark (c : Node) : Bool :=
  c.kind = .comment && c.label.field = none

def part (n : Node) : Part where
  kind := n.kind
  field := n.label.field
  flow := ofNode n
  operand op := operand op n

/-- All that a node sees of its children. -/
def parts (cs : List Node) : List Part :=
  (cs.filter (!isRemark ·)).map part

theorem parts_append (front back : List Node) : parts (front ++ back) = parts front ++ parts back := by
  rw [parts, List.filter_append, List.map_append, parts, parts]

theorem parts_remark {c : Node} (remark : isRemark c) (rest : List Node) : parts (c :: rest) = parts rest := by
  rw [parts, List.filter_cons_of_neg (by simp [remark]), parts]

/-- A child that looks the same from above can stand in the place of another one. -/
theorem parts_replace {c d : Node} (same : part c = part d) (front back : List Node) :
    parts (front ++ c :: back) = parts (front ++ d :: back) := by
  have kind : c.kind = d.kind := congrArg Part.kind same
  have field : c.label.field = d.label.field := congrArg Part.field same
  have remark : isRemark c = isRemark d := by rw [isRemark, isRemark, kind, field]
  rw [parts_append, parts_append, parts, parts, parts, List.filter_cons, List.filter_cons, remark]
  split
  · rw [List.map_cons, List.map_cons, same]
  · rfl

theorem kind_of_isRemark {c : Node} (remark : isRemark c) : c.kind = .comment ∧ c.label.field = none := by
  simpa [isRemark] using remark

/-- Children that are no comments are chosen by what is seen of them. -/
theorem filter_parts (p : Part → Bool) (idle : ∀ c, isRemark c → p (part c) = false) (cs : List Node) :
    (cs.filter fun c => p (part c)).map part = (parts cs).filter p := by
  have chosen : cs.filter (fun c => p (part c) && !isRemark c) = cs.filter fun c => p (part c) := by
    refine List.filter_congr fun c _ => ?_
    cases remark : isRemark c
    · rw [Bool.not_false, Bool.and_true]
    · rw [idle c remark, Bool.false_and]
  rw [parts, List.filter_map, List.filter_filter]
  simp only [Function.comp_def, chosen]

section Seen

variable (cs : List Node)

/-! The functions that make flow out of children, each as a function of what is seen of them. -/

theorem filter_kind_seen (p : Kind → Bool) (idle : p .comment = false) :
    (cs.filter (p ·.kind)).map part = (parts cs).filter (p ·.kind) :=
  filter_parts (p ·.kind) (fun c remark => by rw [part, (kind_of_isRemark remark).1, idle]) cs

theorem find?_field_seen (side : Field) :
    (cs.find? (·.label.field = some side)).map part = (parts cs).find? (·.field = some side) := by
  rw [← List.head?_filter, ← List.head?_filter, ← List.head?_map]
  congr 1
  exact filter_parts (·.field = some side) (fun c remark => by simp [part, (kind_of_isRemark remark).2]) cs

theorem ofNodes_seen : ofNodes cs = ((parts cs).filter (counts ·.kind)).map Part.flow := by
  rw [ofNodes_eq, ← filter_kind_seen cs counts (by decide), List.map_map]
  rfl

theorem headParts_seen : headParts cs =
    ((parts cs).filter fun p => counts p.kind && p.kind != .elifClause && p.kind != .elseClause).map Part.flow := by
  rw [← filter_kind_seen cs (fun k => counts k && k != .elifClause && k != .elseClause) (by decide), List.map_map]
  rfl

/-- What lies in a clause is what lies in its flow. -/
theorem children_ofNode {c : Node} (clause : c.kind = .elifClause ∨ c.kind = .elseClause) :
    ofNodes c.children = (ofNode c).children := by
  rw [ofNode_of_clause clause]
  rfl

theorem elifParts_seen : elifParts cs = ((parts cs).filter (·.kind = .elifClause)).map (·.flow.children) := by
  rw [← filter_kind_seen cs (· = .elifClause) (by decide), List.map_map]
  refine List.map_congr_left fun c member => children_ofNode (.inl ?_)
  simpa using (List.mem_filter.mp member).2

theorem elseParts?_seen :
    elseParts? cs = ((parts cs).filter (·.kind = .elseClause)).getLast?.map (·.flow.children) := by
  rw [← filter_kind_seen cs (· = .elseClause) (by decide), List.getLast?_map, Option.map_map]
  refine Option.map_congr fun c last => children_ofNode (.inr ?_)
  simpa using (List.mem_filter.mp (List.mem_of_getLast? last)).2

theorem countP_seen (p : Kind → Bool) (idle : p .comment = false) :
    cs.countP (p ·.kind) = (parts cs).countP (p ·.kind) := by
  rw [List.countP_eq_length_filter, List.countP_eq_length_filter, ← filter_kind_seen cs p idle, List.length_map]

theorem blockShape_seen : blockShape cs =
    .exceptions ((parts cs).countP (isHandler ·.kind)) ((parts cs).countP (·.kind = .finallyClause)) := by
  rw [← countP_seen cs isHandler (by decide), ← countP_seen cs (· = .finallyClause) (by decide)]
  rfl

theorem operator?_seen :
    operator? cs = ((parts cs).find? (·.field = some .operator)).map Part.kind := by
  rw [← find?_field_seen, Option.map_map]
  rfl

theorem operandsAt_seen (op : Option Kind) (side : Field) :
    operandsAt op side cs = (((parts cs).find? (·.field = some side)).map (·.operand op)).getD [] := by
  rw [← find?_field_seen, Option.map_map, operandsAt_eq]
  rfl

end Seen

variable {l m : Label} {cs ds : List Node}

theorem chain_congr (same : parts cs = parts ds) (op : Option Kind) : chain op cs = chain op ds := by
  simp only [chain, operandsAt_seen, same]

/-- The flow of a node depends on its kind and on what it sees of its children. -/
theorem ofNode_congr (kind : l.kind = m.kind) (same : parts cs = parts ds) : ofNode (.mk l cs) = ofNode (.mk m ds) := by
  have nodes : ofNodes cs = ofNodes ds := by rw [ofNodes_seen, ofNodes_seen, same]
  have clauses : clauses cs = clauses ds := by
    simp only [clauses_eq, headParts_seen, elifParts_seen, elseParts?_seen, same]
  have block : blockShape cs = blockShape ds := by rw [blockShape_seen, blockShape_seen, same]
  have operator : operator? cs = operator? ds := by rw [operator?_seen, operator?_seen, same]
  have operands (op : Option Kind) (side : Field) : operandsAt op side cs = operandsAt op side ds := by
    rw [operandsAt_seen, operandsAt_seen, same]
  rw [ofNode, ofNode, ← kind, nodes, clauses, block, operator]
  simp only [operands]

/-- So does what it contributes to a chain. -/
theorem operand_congr (kind : l.kind = m.kind) (same : parts cs = parts ds) (op : Option Kind) :
    operand op (.mk l cs) = operand op (.mk m ds) := by
  have operator : operator? cs = operator? ds := by rw [operator?_seen, operator?_seen, same]
  rw [operand, operand, Node.kind_mk, Node.kind_mk, Node.children_mk, Node.children_mk, ← kind, operator,
    chain_congr same, ofNode_congr kind same]

theorem part_congr (kind : l.kind = m.kind) (field : l.field = m.field) (same : parts cs = parts ds) :
    part (.mk l cs) = part (.mk m ds) := by
  simp only [part, Node.kind_mk, Node.label_mk, kind, field, ofNode_congr kind same, operand_congr kind same]

end CodeAudit.Flow
