import CodeAudit.Syntax.Grammar.Production

/-! Repetitions: a sequence is two sequences side by side, or one of its items. -/
namespace CodeAudit.Syntax.Grammar

open Place

def repetitions : List Reduction := [
  [⟨.statements, [one .statements, one .statements], 0⟩],
  [⟨.moreSimpleStatements, [one .moreSimpleStatements, one .moreSimpleStatements], 0⟩,
   ⟨.moreSimpleStatements, [one .semicolon,
      any [.importStatement, .futureImportStatement, .importFromStatement, .printStatement,
        .assertStatement, .expressionStatement, .returnStatement, .deleteStatement,
        .raiseStatement, .passStatement, .breakStatement, .continueStatement, .globalStatement,
        .nonlocalStatement, .execStatement, .typeAliasStatement]], 0⟩],
  [⟨.importDots, [one .importDots, one .importDots], 0⟩],
  [⟨.moreImports, [one .comma, (any [.aliasedImport, .dottedName]).field .name], 0⟩],
  [⟨.moreImports, [one .moreImports, one .moreImports], 0⟩],
  [⟨.morePrinted, [one .comma, (one .expression).field .argument], 0⟩],
  [⟨.morePrinted, [one .morePrinted, one .morePrinted], 0⟩],
  [⟨.moreExpressions, [one .moreExpressions, one .moreExpressions], 0⟩,
   ⟨.moreExpressions, [one .comma, one .expression], 0⟩],
  [⟨.elifClauses, [(one .elifClause).field .alternative], 0⟩],
  [⟨.elifClauses, [one .elifClauses, one .elifClauses], 0⟩],
  [⟨.moreSubjects, [one .comma, (one .expression).field .subject], 0⟩],
  [⟨.moreSubjects, [one .moreSubjects, one .moreSubjects], 0⟩],
  [⟨.caseClauses, [(one .caseClause).field .alternative], 0⟩],
  [⟨.caseClauses, [one .caseClauses, one .caseClauses], 0⟩],
  [⟨.moreCasePatterns, [one .moreCasePatterns, one .moreCasePatterns], 0⟩,
   ⟨.moreCasePatterns, [one .comma, one .casePattern], 0⟩],
  [⟨.exceptClauses, [one .exceptClauses, one .exceptClauses], 0⟩],
  [⟨.exceptGroupClauses, [one .exceptGroupClauses, one .exceptGroupClauses], 0⟩],
  [⟨.moreWithItems, [one .moreWithItems, one .moreWithItems], 0⟩,
   ⟨.moreWithItems, [one .comma, one .withItem], 0⟩],
  [⟨.moreIdentifiers, [one .moreIdentifiers, one .moreIdentifiers], 0⟩,
   ⟨.moreIdentifiers, [one .comma, one .identifier], 0⟩],
  [⟨.moreTypes, [one .moreTypes, one .moreTypes], 0⟩,
   ⟨.moreTypes, [one .comma, one .typeExpression], 0⟩],
  [⟨.moreArguments, [one .moreArguments, one .moreArguments], 0⟩,
   ⟨.moreArguments, [one .comma,
      any [.listSplat, .dictionarySplat, .expression, .keywordArgument]], 0⟩],
  [⟨.moreArguments, [one .comma,
      (one .parenthesizedListSplat).shownAs .parenthesizedExpression], 0⟩],
  [⟨.decorators, [one .decorators, one .decorators], 0⟩],
  [⟨.dottedTail, [one .dottedTail, one .dottedTail], 0⟩,
   ⟨.dottedTail, [one .dot, one .identifier], 0⟩],
  [⟨.unionTail, [one .unionTail, one .unionTail], 0⟩,
   ⟨.unionTail, [one .bar, one .simplePattern], 0⟩],
  [⟨.moreDictPatterns, [one .comma, one .splatPattern], 0⟩],
  [⟨.moreDictPatterns, [one .comma, one .keyValuePattern], 0⟩],
  [⟨.moreDictPatterns, [one .moreDictPatterns, one .moreDictPatterns], 0⟩],
  [⟨.moreParameters, [one .moreParameters, one .moreParameters], 0⟩,
   ⟨.moreParameters, [one .comma, one .parameter], 0⟩],
  [⟨.morePatterns, [one .morePatterns, one .morePatterns], 0⟩,
   ⟨.morePatterns, [one .comma, one .pattern], 0⟩],
  [⟨.comparisonTail, [
      (any [.inWord, .less, .lessEqual, .equalEqual, .notEqual, .greaterEqual, .greater,
        .lessGreater, .isWord]).field .operators, one .primaryExpression], 0⟩],
  [⟨.comparisonTail, [one .comparisonTail, one .comparisonTail], 0⟩],
  [⟨.comparisonTail, [((one .notWord).field .operators).shownAs .notIn,
      ((one .inWord).field .operators).shownAs .notIn, one .primaryExpression], 0⟩],
  [⟨.comparisonTail, [((one .isWord).field .operators).shownAs .isNot,
      ((one .notWord).field .operators).shownAs .isNot, one .primaryExpression], 0⟩],
  [⟨.moreSubscripts, [one .comma, (any [.expression, .slice]).field .subscript], 0⟩],
  [⟨.moreSubscripts, [one .moreSubscripts, one .moreSubscripts], 0⟩],
  [⟨.morePairs, [one .morePairs, one .morePairs], 0⟩,
   ⟨.morePairs, [one .comma, any [.dictionarySplat, .pair]], 0⟩],
  [⟨.moreComprehensionClauses, [one .moreComprehensionClauses, one .moreComprehensionClauses], 0⟩],
  [⟨.moreElements, [one .moreElements, one .moreElements], 0⟩,
   ⟨.moreElements, [one .comma,
      any [.listSplat, .parenthesizedListSplat, .expression, .yieldExpression]], 0⟩],
  [⟨.moreIterables, [one .moreIterables, one .moreIterables], 0⟩,
   ⟨.moreIterables, [one .comma, one .iterableExpression], 0⟩],
  [⟨.moreStrings, [one .moreStrings, one .moreStrings], 0⟩],
  [⟨.stringParts, [one .stringParts, one .stringParts], 0⟩],
  [⟨.contentParts, [one .contentParts, one .contentParts], 0⟩],
  [⟨.formatParts, [(one .interpolation).shownAs .formatExpression], 0⟩],
  [⟨.formatParts, [one .formatParts, one .formatParts], 0⟩]]

end CodeAudit.Syntax.Grammar
