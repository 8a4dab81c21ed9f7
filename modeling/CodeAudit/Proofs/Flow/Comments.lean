import CodeAudit.Analyzer
import CodeAudit.Proofs.Flow.Congruence
import Mathlib.Logic.Relation

/-! Comments have no part in the flow of control. Wherever they are put into a piece of syntax, its flow stays the same,
and so does the decision whether a module is one function. -/
namespace CodeAudit

namespace Syntax.Node

/-- One step on the way from a piece of syntax to the same with comments in it: a comment is put anywhere among the
children of a node, or a node gets another place in the text. No node gets or loses a field. -/
inductive Commenting : Node → Node → Prop where
  | insert {l : Label} (front back : List Node) {c : Node} (comment : c.kind = .comment)
      (fieldless : c.label.field = none) : Commenting (.mk l (front ++ back)) (.mk l (front ++ c :: back))
  | move {l m : Label} {cs : List Node} (kind : l.kind = m.kind) (field : l.field = m.field) :
      Commenting (.mk l cs) (.mk m cs)
  | within {l : Label} (front back : List Node) {c d : Node} (step : Commenting c d) :
      Commenting (.mk l (front ++ c :: back)) (.mk l (front ++ d :: back))

/-- A piece of syntax and the same with any number of comments in it. -/
abbrev Commented : Node → Node → Prop :=
  Relation.ReflTransGen Commenting

end Syntax.Node

namespace Flow

open Syntax Node

variable {t u : Node}

/-- What stays the same at a node that may get comments. -/
structure Kept (t u : Node) : Prop where
  kind : u.kind = t.kind
  field : u.label.field = t.label.field
  parts : parts u.children = parts t.children

theorem Kept.part (kept : Kept t u) : part u = part t := by
  obtain ⟨l, cs⟩ := t
  obtain ⟨m, ds⟩ := u
  exact part_congr kept.kind kept.field kept.parts

theorem kept_commenting (step : Commenting t u) : Kept t u := by
  induction step with
  | insert _ _ comment fieldless =>
    refine ⟨rfl, rfl, ?_⟩
    rw [children_mk, children_mk, parts_append, parts_remark (by simp [isRemark, comment, fieldless]), ← parts_append]
  | move kind field => exact ⟨kind.symm, field.symm, rfl⟩
  | within _ _ _ ih => exact ⟨rfl, rfl, parts_replace ih.part _ _⟩

/-- Comments do not show from above. -/
theorem part_commented (commented : Commented t u) : part u = part t := by
  induction commented with
  | refl => rfl
  | tail _ step ih => exact (kept_commenting step).part.trans ih

/-- Whether a definition is decorated is seen by its fields. -/
theorem isFunction_seen (n : Node) : n.isFunction = (n.kind = .functionDefinition ||
    (n.kind = .decoratedDefinition &&
      ((parts n.children).find? (·.field = some .definition)).any (·.kind = .functionDefinition))) := by
  rw [← find?_field_seen, Option.any_map]
  rfl

theorem isFunction_commenting (step : Commenting t u) : u.isFunction = t.isFunction := by
  have kept := kept_commenting step
  rw [isFunction_seen, isFunction_seen, kept.kind, kept.parts]

/-- Of the statements of a module it only matters which of them are functions. -/
def statements (root : Node) : List Bool :=
  (root.namedChildren.filter (·.kind ≠ .comment)).map Node.isFunction

theorem statements_eq (root : Node) :
    statements root = (root.children.filter (counts ·.kind)).map Node.isFunction := by
  rw [statements, filter_namedChildren]

theorem statements_commenting (step : Commenting t u) : statements u = statements t := by
  rw [statements_eq, statements_eq]
  cases step with
  | insert _ _ comment _ =>
    rw [children_mk, children_mk, List.filter_append, List.filter_append,
      List.filter_cons_of_neg (by simp [comment, counts])]
  | move => rfl
  | within _ _ step =>
    rw [children_mk, children_mk, List.filter_append, List.filter_append, List.filter_cons, List.filter_cons,
      (kept_commenting step).kind]
    split
    · simp only [List.map_append, List.map_cons, isFunction_commenting step]
    · rfl

theorem ofModule_eq (root : Node) : ofModule root =
    if (statements root).count true = 1 && (statements root).length = 1 then .ok (ofNode root)
    else .error (.notAFunction ((statements root).count true)) := by
  have found : (statements root).count true =
      (root.namedChildren.filter (·.kind ≠ .comment)).countP Node.isFunction := by
    rw [statements, List.count, List.countP_map]
    simp only [Function.comp_def, beq_true]
  rw [ofModule, found, statements, List.length_map]

/-- Whether a module is one function does not depend on its comments. -/
theorem ofModule_commented (commented : Commented t u) : ofModule u = ofModule t := by
  have same : statements u = statements t := by
    induction commented with
    | refl => rfl
    | tail _ step ih => exact (statements_commenting step).trans ih
  have flow : ofNode u = ofNode t := congrArg Part.flow (part_commented commented)
  rw [ofModule_eq, ofModule_eq, same, flow]

/-- However many comments are put into a piece of syntax and wherever they stand, it has the same flow; a module is
accepted or refused as before, and with the same number of functions found in it. -/
theorem ofNode_commented (commented : Commented t u) : ofNode u = ofNode t ∧ ofModule u = ofModule t ∧
    ∀ text text', readModule text = .ok t → readModule text' = .ok u → parse text' = parse text := by
  have flow : ofNode u = ofNode t := congrArg Part.flow (part_commented commented)
  have decision := ofModule_commented commented
  refine ⟨flow, decision, fun text text' bare remarked => ?_⟩
  rw [parse, parse, bare, remarked]
  exact decision

/-- Comments in front of a function, between its clauses, in a condition and in front of a handler. -/
theorem ofNode_of_four_comments :
    let remark : Node := .mk { kind := .comment } []
    let word (k : Kind) (f : Field) : Node := .mk { kind := k, field := some f } []
    let body : Node := .mk { kind := .block, field := some .body } []
    let guard (cs : List Node) : Node := .mk { kind := .booleanOperator, field := some .condition } (
      word .identifier .left :: cs ++ [word .andWord .operator, word .identifier .right])
    let choice (cs ds : List Node) : Node := .mk { kind := .ifStatement } (
      [guard cs, body] ++ ds ++ [.mk { kind := .elifClause } [body], .mk { kind := .elseClause } [body]])
    let block (cs ds es : List Node) : Node := .mk { kind := .tryStatement } (
      choice cs ds :: es ++ [.mk { kind := .exceptClause } []])
    let f (cs ds es : List Node) : Node := .mk { kind := .functionDefinition } [block cs ds es]
    let t : Node := .mk { kind := .moduleNode } [f [] [] []]
    let u : Node := .mk { kind := .moduleNode } [remark, f [remark] [remark] [remark]]
    Commented t u ∧ ofNode u = ofNode t ∧ ofModule u = ofModule t ∧ ofModule u = .ok (ofNode t) := by
  intro remark word body guard choice block f t u
  have guarded : Commenting (guard []) (guard [remark]) := .insert [word .identifier .left] _ rfl rfl
  have chosen : Commenting (choice [remark] []) (choice [remark] [remark]) := .insert [guard [remark], body] _ rfl rfl
  have blocked : Commenting (block [remark] [remark] []) (block [remark] [remark] [remark]) :=
    .insert [choice [remark] [remark]] _ rfl rfl
  have front : Commenting t (.mk { kind := .moduleNode } [remark, f [] [] []]) := .insert [] _ rfl rfl
  have first : Commenting (f [] [] []) (f [remark] [] []) :=
    .within [] [] (.within [] _ (.within [] _ guarded))
  have second : Commenting (f [remark] [] []) (f [remark] [remark] []) := .within [] [] (.within [] _ chosen)
  have third : Commenting (f [remark] [remark] []) (f [remark] [remark] [remark]) := .within [] [] blocked
  have commented : Commented t u :=
    .head front (.head (.within [remark] [] first) (.head (.within [remark] [] second)
      (.single (.within [remark] [] third))))
  obtain ⟨flow, decision, -⟩ := ofNode_commented commented
  exact ⟨commented, flow, decision, decision.trans rfl⟩

end Flow

end CodeAudit
