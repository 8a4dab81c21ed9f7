import CodeAudit.Proofs.Flow.Skeleton
import CodeAudit.Proofs.Syntax.Chains

/-! Chains of `elif` clauses and nested `if` statements have the same flow. That of clauses comes from a fold over
them, that of nested statements from plain descent; both have one and the same skeleton. -/
namespace CodeAudit.Flow

open Syntax Node

/-- The word that begins a clause has no part in the flow of control. -/
theorem ofNodes_ofElif (cs : List Node) : ofNodes (cs.map ofElif) = ofNodes cs := by
  induction cs with
  | nil => rfl
  | cons c rest ih =>
    rw [ofNodes_eq, ofNodes_eq] at ih
    rw [List.map_cons, ofNodes_eq, ofNodes_eq]
    by_cases word : c.kind = .elifWord
    · have notIf : counts (ofElif c).kind = false := by
        rw [ofElif, if_pos word]
        rfl
      have notElif : counts c.kind = false := by
        rw [word]
        rfl
      rw [List.filter_cons_of_neg (by simp [notIf]), List.filter_cons_of_neg (by simp [notElif]), ih]
    · have same : ofElif c = c := by
        rw [ofElif, if_neg word]
      rw [same, List.filter_cons, List.filter_cons]
      by_cases part : counts c.kind <;> simp [part, ih]

/-- Without a clause among them the parts of a clause are all its flow. -/
theorem headParts_of_parts {cs : List Node} (parts : ∀ c ∈ cs, c.isClause = false) : headParts cs = ofNodes cs := by
  have heads : cs.filter isHead = cs.filter (counts ·.kind) := by
    refine List.filter_congr fun c child => ?_
    have plain := parts c child
    simp only [isClause, Bool.or_eq_false_iff, decide_eq_false_iff_not] at plain
    simp [isHead, bne_iff_ne.mpr plain.1, bne_iff_ne.mpr plain.2]
  rw [headParts, heads, ofNodes_eq]

theorem isClause_ofElif (c : Node) : (ofElif c).isClause = c.isClause := by
  unfold ofElif
  split
  · next word => simp [isClause, word]
  · rfl

/-- The parts of an `if` statement that is made of an `elif` clause and what remains of its chain. -/
theorem fold_elseIf {parts rest : List Node} (plain : ∀ c ∈ parts, c.isClause = false)
    (clauses : ∀ c ∈ rest, c.kind = .elseClause) :
    (Flow.clauses (parts.map ofElif ++ rest)).fold =
      node .conditional (ofNodes parts ++ continuation (rest.getLast?.map (ofNodes ·.children)) []) := by
  have plain' : ∀ c ∈ parts.map ofElif, c.isClause = false := by
    intro c member
    obtain ⟨d, child, rfl⟩ := List.mem_map.mp member
    rw [isClause_ofElif, plain d child]
  have noHead : rest.filter isHead = [] := by
    refine List.filter_eq_nil_iff.mpr fun c member => ?_
    simp [isHead, clauses c member]
  have noElif : (parts.map ofElif ++ rest).filter (·.kind = .elifClause) = [] := by
    refine List.filter_eq_nil_iff.mpr fun c member => ?_
    rcases List.mem_append.mp member with part | clause
    · have other := plain' c part
      simp only [isClause, Bool.or_eq_false_iff] at other
      simpa using other.1
    · simp [clauses c clause]
  have onlyRest : (parts.map ofElif ++ rest).filter (·.kind = .elseClause) = rest := by
    have none : (parts.map ofElif).filter (·.kind = .elseClause) = [] := by
      refine List.filter_eq_nil_iff.mpr fun c part => ?_
      have other := plain' c part
      simp only [isClause, Bool.or_eq_false_iff] at other
      simpa using other.2
    rw [List.filter_append, none, List.nil_append]
    exact List.filter_eq_self.mpr fun c clause => by simp [clauses c clause]
  have head : headParts (parts.map ofElif ++ rest) = ofNodes parts := by
    rw [← ofNodes_ofElif, ← headParts_of_parts plain', headParts, headParts, List.filter_append, noHead,
      List.append_nil]
  rw [fold_clauses, head, elifParts, noElif, elseParts?, onlyRest, List.map_nil]

/-- An `else` clause that holds one `if` statement holds its flow and nothing else. -/
theorem ofNodes_elseIf (l : Label) (parts : List Node) :
    ofNodes (elseIf l parts).children = [node .other [(Flow.clauses parts).fold]] := by
  have inner (l : Label) : ofNodes [.mk { l with kind := .ifStatement } parts] = [(Flow.clauses parts).fold] := by
    rw [ofNodes_eq, List.filter_cons_of_pos rfl, List.filter_nil, List.map_singleton, ofNode]
  have outer (b : Node) (part : counts b.kind = true) :
      ofNodes [token .elseWord, token .colon, b] = [ofNode b] := by
    rw [ofNodes_eq, List.filter_cons_of_neg Bool.false_ne_true, List.filter_cons_of_neg Bool.false_ne_true]
    simp [part]
  rw [elseIf, children_mk, outer _ rfl, ofNode, inner { l with field := none }]

theorem skeletons_continuation_cons (orelse : Option (List Flow)) (parts : List Flow) (rest : List (List Flow)) :
    skeletons (continuation orelse (parts :: rest)) =
      [node .conditional (skeletons parts ++ skeletons (continuation orelse rest))] := by
  rw [continuation, skeletons_cons, skeletons_nil, List.append_nil, skeleton_node (by decide), skeletons_append]

/-- A nested chain leads through the same cases as the clauses side by side. -/
theorem skeletons_nestClauses {orelse : List Node} (clauses : ∀ c ∈ orelse, c.kind = .elseClause) {elifs : List Node}
    (plain : ∀ e ∈ elifs, ∀ c ∈ e.children, c.isClause = false) :
    skeletons (continuation ((nestClauses orelse elifs).getLast?.map (ofNodes ·.children)) []) =
      skeletons (continuation (orelse.getLast?.map (ofNodes ·.children)) (elifs.map (ofNodes ·.children))) := by
  induction elifs with
  | nil => rfl
  | cons e rest ih =>
    obtain ⟨first, others⟩ := List.forall_mem_cons.mp plain
    have ih := ih others
    rw [nestClauses, List.getLast?_singleton, Option.map_some, ofNodes_elseIf,
      fold_elseIf first (nestClauses_kind clauses rest), List.map_cons, skeletons_continuation_cons, ← ih]
    simp only [continuation, Option.map_some, Option.toList_some, skeletons_cons, skeletons_nil, skeleton_other,
      List.append_nil]
    rw [skeleton_node (by decide), skeletons_append]

/-- A way out is known by the skeletons of the parts on it. -/
theorem skeletons_continuation {f g : Node → List Flow} {elifs : List Node} {orelse : Option Node}
    (elif : ∀ c ∈ elifs, skeletons (f c) = skeletons (g c)) (last : ∀ c ∈ orelse, skeletons (f c) = skeletons (g c)) :
    skeletons (continuation (orelse.map f) (elifs.map f)) = skeletons (continuation (orelse.map g) (elifs.map g)) := by
  induction elifs with
  | nil =>
    cases orelse with
    | none => rfl
    | some c => simpa [continuation] using last c rfl
  | cons c rest ih =>
    obtain ⟨first, others⟩ := List.forall_mem_cons.mp elif
    rw [List.map_cons, List.map_cons, skeletons_continuation_cons, skeletons_continuation_cons, first, ih others]

/-- Nesting the chains in a node changes neither its flow, up to what is `other`, nor what it contributes to a chain
of operands. -/
structure Respelled (n : Node) : Prop where
  skeleton : (ofNode n.nestElifs).skeleton = (ofNode n).skeleton
  length_operand : ∀ op, (operand op n.nestElifs).length = (operand op n).length
  skeletons_operand : ∀ op, skeletons (operand op n.nestElifs) = skeletons (operand op n)

/-- An operand that is no operation of the operator itself contributes its own flow. -/
theorem respelled_of_skeleton {n : Node} (single : n.kind ≠ .booleanOperator)
    (skeleton : (ofNode n.nestElifs).skeleton = (ofNode n).skeleton) : Respelled n where
  skeleton := skeleton
  length_operand op := by simp [operand, single]
  skeletons_operand op := by simp [operand, single, skeleton]

theorem skeletons_of_respelled {cs : List Node} (below : ∀ c ∈ cs, Respelled c) :
    skeletons (ofNodes (cs.map nestElifs)) = skeletons (ofNodes cs) := by
  rw [ofNodes_eq, ofNodes_eq, filter_map_nestElifs counts, List.map_map]
  exact skeletons_map_congr fun c member => (below c (List.mem_filter.mp member).1).skeleton

/-- What lies in a clause is known once its flow is. -/
theorem skeletons_clause {c : Node} (clause : c.kind = .elifClause ∨ c.kind = .elseClause) (respelled : Respelled c) :
    skeletons (ofNodes c.nestElifs.children) = skeletons (ofNodes c.children) := by
  have same := respelled.skeleton
  rw [ofNode_of_clause (n := c.nestElifs) (by rw [kind_nestElifs]; exact clause), ofNode_of_clause clause,
    skeleton_other, skeleton_other] at same
  exact same

theorem find?_map_nestElifs (side : Field) (cs : List Node) :
    (cs.map nestElifs).find? (·.label.field = some side) =
      (cs.find? (·.label.field = some side)).map nestElifs := by
  rw [List.find?_map]
  simp only [Function.comp_def, label_nestElifs]

theorem operator?_map_nestElifs (cs : List Node) : operator? (cs.map nestElifs) = operator? cs := by
  rw [operator?, find?_map_nestElifs, Option.map_map, operator?]
  simp only [Function.comp_def, kind_nestElifs]

theorem operandsAt_map_nestElifs {cs : List Node} (below : ∀ c ∈ cs, Respelled c) (op : Option Kind) (side : Field) :
    (operandsAt op side (cs.map nestElifs)).length = (operandsAt op side cs).length ∧
      skeletons (operandsAt op side (cs.map nestElifs)) = skeletons (operandsAt op side cs) := by
  rw [operandsAt_eq, operandsAt_eq, find?_map_nestElifs]
  cases found : cs.find? (·.label.field = some side) with
  | none => exact ⟨rfl, rfl⟩
  | some c =>
    have respelled := below c (List.mem_of_find?_eq_some found)
    exact ⟨respelled.length_operand op, respelled.skeletons_operand op⟩

theorem chain_map_nestElifs {cs : List Node} (below : ∀ c ∈ cs, Respelled c) (op : Option Kind) :
    (chain op (cs.map nestElifs)).length = (chain op cs).length ∧
      skeletons (chain op (cs.map nestElifs)) = skeletons (chain op cs) := by
  obtain ⟨leftLength, leftSkeletons⟩ := operandsAt_map_nestElifs below op .left
  obtain ⟨rightLength, rightSkeletons⟩ := operandsAt_map_nestElifs below op .right
  constructor
  · rw [chain, chain, List.length_append, List.length_append, leftLength, rightLength]
  · rw [chain, chain, skeletons_append, skeletons_append, leftSkeletons, rightSkeletons]

/-- The shape of a node of the given kind that is no conditional. -/
def plainShape (k : Kind) (cs : List Node) : Shape :=
  match k with
  | .forStatement | .whileStatement => .loop
  | .booleanOperator => .boolean (chain (operator? cs) cs).length
  | .tryStatement => blockShape cs
  | _ => .other

/-- What lies in a node of the given kind that is no conditional. -/
def plainParts (k : Kind) (cs : List Node) : List Flow :=
  if k = .booleanOperator then chain (operator? cs) cs else ofNodes cs

theorem ofNode_of_ne {l : Label} (notIf : l.kind ≠ .ifStatement) (cs : List Node) :
    ofNode (.mk l cs) = node (plainShape l.kind cs) (plainParts l.kind cs) := by
  unfold plainParts plainShape
  obtain ⟨kind, -⟩ | ⟨kind | kind, flow⟩ | ⟨kind, flow⟩ | ⟨kind, flow⟩ | ⟨kind, flow⟩ := ofNode_cases l cs
  · exact absurd kind notIf
  · simp [flow, kind]
  · simp [flow, kind]
  · simp [flow, kind]
  · simp [flow, kind]
  · simp only [List.mem_cons, List.not_mem_nil, or_false, not_or] at kind
    rw [flow, if_neg kind.2.2.2.1]
    split <;> simp_all

theorem plainShape_map_nestElifs {cs : List Node} (below : ∀ c ∈ cs, Respelled c) (k : Kind) :
    plainShape k (cs.map nestElifs) = plainShape k cs := by
  have block : blockShape (cs.map nestElifs) = blockShape cs := by
    rw [blockShape, List.countP_map, List.countP_map]
    simp only [Function.comp_def, kind_nestElifs, blockShape]
  unfold plainShape
  rw [operator?_map_nestElifs, (chain_map_nestElifs below (operator? cs)).1, block]

theorem plainParts_map_nestElifs {cs : List Node} (below : ∀ c ∈ cs, Respelled c) (k : Kind) :
    skeletons (plainParts k (cs.map nestElifs)) = skeletons (plainParts k cs) := by
  unfold plainParts
  split
  · rw [operator?_map_nestElifs, (chain_map_nestElifs below (operator? cs)).2]
  · exact skeletons_of_respelled below

/-- The flow of a conditional statement whose chain is nested. -/
theorem skeleton_nestChain {cs : List Node} (below : ∀ c ∈ cs, Respelled c)
    (plain : ∀ e ∈ cs, e.kind = .elifClause → ∀ c ∈ e.children, c.isClause = false) :
    (clauses (nestChain (cs.map nestElifs))).fold.skeleton = (clauses cs).fold.skeleton := by
  have head : skeletons (headParts (nestChain (cs.map nestElifs))) = skeletons (headParts cs) := by
    let p (k : Kind) : Bool := counts k && k != .elifClause && k != .elseClause
    have heads : (nestChain (cs.map nestElifs)).filter isHead = (cs.filter isHead).map nestElifs :=
      (filter_nestChain (p := p) (by decide) (by decide) _).trans (filter_map_nestElifs p cs)
    rw [headParts, headParts, heads, List.map_map]
    exact skeletons_map_congr fun c member => (below c (List.mem_filter.mp member).1).skeleton
  have noElif : elifParts (nestChain (cs.map nestElifs)) = [] := by
    rw [elifParts, List.map_eq_nil_iff]
    exact List.filter_eq_nil_iff.mpr fun c member => by simpa using kind_of_mem_nestChain member
  have wayOut : skeletons (continuation (elseParts? (nestChain (cs.map nestElifs))) []) =
      skeletons (continuation (elseParts? cs) (elifParts cs)) := by
    rw [elseParts?, filter_nestChain_else, filter_map_nestElifs (· = .elseClause),
      filter_map_nestElifs (· = .elifClause), skeletons_nestClauses, elseParts?, elifParts, List.getLast?_map,
      Option.map_map, List.map_map]
    · refine skeletons_continuation ?_ ?_
      · intro c member
        obtain ⟨child, elif⟩ := List.mem_filter.mp member
        exact skeletons_clause (.inl (by simpa using elif)) (below c child)
      · intro c last
        obtain ⟨child, orelse⟩ := List.mem_filter.mp (List.mem_of_getLast? last)
        exact skeletons_clause (.inr (by simpa using orelse)) (below c child)
    · intro c member
      obtain ⟨d, chosen, rfl⟩ := List.mem_map.mp member
      rw [kind_nestElifs]
      simpa using (List.mem_filter.mp chosen).2
    · intro e member c part
      obtain ⟨d, chosen, rfl⟩ := List.mem_map.mp member
      obtain ⟨child, elif⟩ := List.mem_filter.mp chosen
      have elif : d.kind = .elifClause := by simpa using elif
      rw [children_nestElifs (by rw [elif]; decide)] at part
      obtain ⟨c, inner, rfl⟩ := List.mem_map.mp part
      simpa [isClause] using plain d child elif c inner
  rw [fold_clauses, fold_clauses, skeleton_node (by decide), skeleton_node (by decide), skeletons_append,
    skeletons_append, head, noElif, wayOut]

theorem respelled (n : Node) (chained : ∀ m ∈ n.nodes, m.Chained) : Respelled n := by
  induction n using Node.induct with
  | mk l cs ih =>
    have below : ∀ c ∈ cs, Respelled c := fun c child =>
      ih c child fun m below => chained m (mem_nodes_of_child child below)
    by_cases conditional : l.kind = .ifStatement
    · refine respelled_of_skeleton (by rw [kind_mk, conditional]; decide) ?_
      rw [nestElifs_mk, if_pos conditional]
      have plain : ∀ e ∈ cs, e.kind = .elifClause → ∀ c ∈ e.children, c.isClause = false := by
        intro e child elif c part
        have own := chained e (mem_nodes_of_child child e.self_mem_nodes)
        have notElif : c.kind ≠ .elifClause := by
          intro nested
          have statement := own.elifs c part nested
          rw [elif] at statement
          exact absurd statement (by decide)
        simp [isClause, notElif, own.parts elif c part]
      have same := skeleton_nestChain below plain
      have flow (ds : List Node) : ofNode (.mk l ds) = (clauses ds).fold := by
        rw [ofNode, conditional]
      rw [flow, flow]
      exact same
    · have nested : nestElifs (.mk l cs) = .mk l (cs.map nestElifs) := by
        rw [nestElifs_mk, if_neg conditional]
      have skeleton : (ofNode (nestElifs (.mk l cs))).skeleton = (ofNode (.mk l cs)).skeleton := by
        rw [nested, ofNode_of_ne conditional, ofNode_of_ne conditional, plainShape_map_nestElifs below,
          Flow.skeleton, Flow.skeleton, plainParts_map_nestElifs below]
      by_cases operation : l.kind = .booleanOperator
      · have operands (op : Option Kind) (ds : List Node) : operand op (.mk l ds) =
            if operator? ds = op then chain op ds else [ofNode (.mk l ds)] := by
          by_cases absorbed : operator? ds = op <;> simp [operand, operation, absorbed]
        refine ⟨skeleton, fun op => ?_, fun op => ?_⟩
        · rw [nested, operands, operands, operator?_map_nestElifs]
          by_cases absorbed : operator? cs = op
          · rw [if_pos absorbed, if_pos absorbed, (chain_map_nestElifs below op).1]
          · rw [if_neg absorbed, if_neg absorbed]
            rfl
        · rw [nested, operands, operands, operator?_map_nestElifs]
          by_cases absorbed : operator? cs = op
          · rw [if_pos absorbed, if_pos absorbed, (chain_map_nestElifs below op).2]
          · rw [if_neg absorbed, if_neg absorbed, skeletons_cons, skeletons_cons, ← nested, skeleton]
      · exact respelled_of_skeleton operation skeleton

/-- However long the chains of a piece of syntax are and wherever they stand, nested they leave no `elif` behind and
have the same skeleton, so that nothing that is measured depends on the spelling. -/
theorem skeleton_nestElifs (t : Node) (root : t.kind ≠ .elifClause) (chained : ∀ n ∈ t.nodes, n.Chained) :
    (∀ n ∈ t.nestElifs.nodes, n.kind ≠ .elifClause ∧ n.OneElse) ∧
      (ofNode t.nestElifs).skeleton = (ofNode t).skeleton ∧
      (ofNode t.nestElifs).complexity = (ofNode t).complexity ∧
      (ofNode t.nestElifs).nesting 0 = (ofNode t).nesting 0 := by
  have same := (respelled t chained).skeleton
  refine ⟨fun n member => ?_, same, complexity_eq_of_skeleton same, nesting_eq_of_skeleton same 0⟩
  obtain ⟨oneElse, unchained⟩ := unchained_nestElifs t chained
  rcases mem_nodes.mp member with rfl | ⟨c, child, below⟩
  · exact ⟨by rwa [kind_nestElifs], oneElse⟩
  · exact unchained c child n below

/-- A chain of two clauses with an `else` part, and another chain in the first clause. -/
theorem skeleton_nestElifs_of_two_chains :
    let inner : Node := .mk { kind := .ifStatement } [.mk { kind := .ifWord } [],
      .mk { kind := .block } [.mk { kind := .whileStatement } []], .mk { kind := .comment } [],
      .mk { kind := .elifClause } [.mk { kind := .elifWord } [], .mk { kind := .block } []]]
    let t : Node := .mk { kind := .functionDefinition } [.mk { kind := .ifStatement } [.mk { kind := .ifWord } [],
      .mk { kind := .booleanOperator } [.mk { kind := .identifier, field := some .left } [],
        .mk { kind := .andWord, field := some .operator } [], .mk { kind := .identifier, field := some .right } []],
      .mk { kind := .elifClause } [.mk { kind := .elifWord } [], .mk { kind := .block } [inner]],
      .mk { kind := .comment } [], .mk { kind := .elifClause } [.mk { kind := .forStatement } []],
      .mk { kind := .elseClause } [.mk { kind := .elseWord } [], .mk { kind := .block } []]]]
    (t.kind ≠ .elifClause ∧ ∀ n ∈ t.nodes, n.Chained) ∧ (∀ n ∈ t.nestElifs.nodes, n.kind ≠ .elifClause ∧ n.OneElse) ∧
      (ofNode t.nestElifs).skeleton = (ofNode t).skeleton ∧ (ofNode t.nestElifs).complexity = 9 ∧
      (ofNode t.nestElifs).nesting 0 = ⟨4, 7⟩ := by
  intro inner t
  have root : t.kind ≠ .elifClause := by decide
  have chained : ∀ n ∈ t.nodes, n.Chained := by decide
  obtain ⟨unchained, skeleton, complexity, nesting⟩ := skeleton_nestElifs t root chained
  refine ⟨⟨root, chained⟩, unchained, skeleton, complexity.trans ?_, nesting.trans ?_⟩
  · decide
  · decide

end CodeAudit.Flow
