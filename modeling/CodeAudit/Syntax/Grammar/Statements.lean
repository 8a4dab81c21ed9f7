import CodeAudit.Syntax.Grammar.Production

/-! Simple statements: everything that fits on one line. -/
namespace CodeAudit.Syntax.Grammar

open Place

def statements : List Reduction := [
  [⟨.moduleNode, [], 0⟩],
  [⟨.moduleNode, [one .statements], 0⟩],
  [⟨.simpleStatements, [
      any [.importStatement, .futureImportStatement, .importFromStatement, .printStatement,
        .assertStatement, .expressionStatement, .returnStatement, .deleteStatement,
        .raiseStatement, .passStatement, .breakStatement, .continueStatement, .globalStatement,
        .nonlocalStatement, .execStatement, .typeAliasStatement], one .newline], 0⟩],
  [⟨.simpleStatements, [
      any [.importStatement, .futureImportStatement, .importFromStatement, .printStatement,
        .assertStatement, .expressionStatement, .returnStatement, .deleteStatement,
        .raiseStatement, .passStatement, .breakStatement, .continueStatement, .globalStatement,
        .nonlocalStatement, .execStatement, .typeAliasStatement],
      any [.semicolon, .moreSimpleStatements], one .newline], 0⟩],
  [⟨.simpleStatements, [
      any [.importStatement, .futureImportStatement, .importFromStatement, .printStatement,
        .assertStatement, .expressionStatement, .returnStatement, .deleteStatement,
        .raiseStatement, .passStatement, .breakStatement, .continueStatement, .globalStatement,
        .nonlocalStatement, .execStatement, .typeAliasStatement], one .moreSimpleStatements,
      one .semicolon, one .newline], 0⟩],
  [⟨.importStatement, [one .importWord, one .importList], 0⟩],
  [⟨.importPrefix, [one .importDots], 0⟩],
  [⟨.relativeImport, [one .importPrefix], 0⟩],
  [⟨.relativeImport, [one .importPrefix, one .dottedName], 0⟩],
  [⟨.futureImportStatement, [one .fromWord, one .futureWord, one .importWord, one .importList], 0⟩],
  [⟨.futureImportStatement, [one .fromWord, one .futureWord, one .importWord, one .openParen,
      one .importList, one .closeParen], 0⟩],
  [⟨.importFromStatement, [one .fromWord, (any [.relativeImport, .dottedName]).field .moduleName,
      one .importWord, one .importList], 0⟩],
  [⟨.importFromStatement, [one .fromWord, (any [.relativeImport, .dottedName]).field .moduleName,
      one .importWord, one .wildcardImport], 0⟩],
  [⟨.importFromStatement, [one .fromWord, (any [.relativeImport, .dottedName]).field .moduleName,
      one .importWord, one .openParen, one .importList, one .closeParen], 0⟩],
  [⟨.importList, [(any [.aliasedImport, .dottedName]).field .name], 0⟩],
  [⟨.importList, [(any [.aliasedImport, .dottedName]).field .name, one .comma], 0⟩],
  [⟨.importList, [(any [.aliasedImport, .dottedName]).field .name, one .moreImports], 0⟩],
  [⟨.importList, [(any [.aliasedImport, .dottedName]).field .name, one .moreImports,
      one .comma], 0⟩],
  [⟨.aliasedImport, [(one .dottedName).field .name, one .asWord,
      (one .identifier).field .alias], 0⟩],
  [⟨.wildcardImport, [one .star], 0⟩],
  [⟨.printStatement, [one .printWord, one .chevron], 0⟩],
  [⟨.printStatement, [one .printWord, (one .expression).field .argument], -1⟩],
  [⟨.printStatement, [one .printWord, one .chevron, one .comma], 0⟩],
  [⟨.printStatement, [one .printWord, one .chevron, one .morePrinted], 0⟩],
  [⟨.printStatement, [one .printWord, (one .expression).field .argument, one .comma], -1⟩],
  [⟨.printStatement, [one .printWord, (one .expression).field .argument, one .morePrinted], -1⟩],
  [⟨.printStatement, [one .printWord, one .chevron, one .morePrinted, one .comma], 0⟩],
  [⟨.printStatement, [one .printWord, (one .expression).field .argument, one .morePrinted,
      one .comma], -1⟩],
  [⟨.chevron, [one .shiftRight, one .expression], 0⟩],
  [⟨.assertStatement, [one .assertWord, one .expression], 0⟩],
  [⟨.assertStatement, [one .assertWord, one .expression, one .moreExpressions], 0⟩],
  [⟨.expressionStatement, [
      any [.expression, .assignment, .augmentedAssignment, .yieldExpression]], 0⟩],
  [⟨.expressionStatement, [one .expression, any [.comma, .moreExpressions]], 0⟩],
  [⟨.expressionStatement, [one .expression, one .moreExpressions, one .comma], 0⟩],
  [⟨.returnStatement, [one .returnWord], 0⟩],
  [⟨.returnStatement, [one .returnWord, any [.expressionList, .expression]], 0⟩],
  [⟨.deleteStatement, [one .delWord, any [.expressionList, .expression]], 0⟩],
  [⟨.raiseStatement, [one .raiseWord], 0⟩],
  [⟨.raiseStatement, [one .raiseWord, any [.expressionList, .expression]], 0⟩],
  [⟨.raiseStatement, [one .raiseWord, one .fromWord, (one .expression).field .cause], 0⟩],
  [⟨.raiseStatement, [one .raiseWord, any [.expressionList, .expression], one .fromWord,
      (one .expression).field .cause], 0⟩],
  [⟨.passStatement, [one .passWord], 0⟩],
  [⟨.breakStatement, [one .breakWord], 0⟩],
  [⟨.continueStatement, [one .continueWord], 0⟩],
  [⟨.globalStatement, [one .globalWord, one .identifier], 0⟩],
  [⟨.globalStatement, [one .globalWord, one .identifier, one .moreIdentifiers], 0⟩],
  [⟨.nonlocalStatement, [one .nonlocalWord, one .identifier], 0⟩],
  [⟨.nonlocalStatement, [one .nonlocalWord, one .identifier, one .moreIdentifiers], 0⟩],
  [⟨.execStatement, [one .execWord, (any [.identifier, .stringLiteral]).field .code], 0⟩],
  [⟨.execStatement, [one .execWord, (any [.identifier, .stringLiteral]).field .code, one .inWord,
      one .expression], 0⟩],
  [⟨.execStatement, [one .execWord, (any [.identifier, .stringLiteral]).field .code, one .inWord,
      one .expression, one .moreExpressions], 0⟩],
  [⟨.typeAliasStatement, [one .typeWord, one .typeExpression, one .equals,
      one .typeExpression], 1⟩],
  [⟨.assignment, [(any [.pattern, .patternList]).field .left, one .colon,
      (one .typeExpression).field .type], 0⟩],
  [⟨.assignment, [(any [.pattern, .patternList]).field .left, one .equals,
      (one .rightHandSide).field .right], 0⟩],
  [⟨.assignment, [(any [.pattern, .patternList]).field .left, one .colon,
      (one .typeExpression).field .type, one .equals, (one .rightHandSide).field .right], 0⟩],
  [⟨.augmentedAssignment, [(any [.pattern, .patternList]).field .left,
      (any [.plusEquals, .minusEquals, .starEquals, .slashEquals, .atEquals, .doubleSlashEquals,
        .percentEquals, .doubleStarEquals, .shiftRightEquals, .shiftLeftEquals, .ampersandEquals,
        .caretEquals, .barEquals]).field .operator, (one .rightHandSide).field .right], 0⟩],
  [⟨.rightHandSide, [
      any [.expressionList, .expression, .assignment, .augmentedAssignment, .patternList,
        .yieldExpression]], 0⟩]]

end CodeAudit.Syntax.Grammar
