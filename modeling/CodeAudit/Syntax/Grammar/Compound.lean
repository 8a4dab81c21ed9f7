import CodeAudit.Syntax.Grammar.Production

/-! Compound statements: those that hold a block. -/
namespace CodeAudit.Syntax.Grammar

open Place

def compound : List Reduction := [
  [⟨.ifStatement, [one .ifWord, (one .expression).field .condition, one .colon,
      ((any [.newline, .simpleStatements]).field .consequence).shownAs .block], 0⟩],
  [⟨.ifStatement, [one .ifWord, (one .expression).field .condition, one .colon,
      ((any [.newline, .simpleStatements]).field .consequence).shownAs .block,
      (one .elseClause).field .alternative], 0⟩],
  [⟨.ifStatement, [one .ifWord, (one .expression).field .condition, one .colon,
      ((any [.newline, .simpleStatements]).field .consequence).shownAs .block,
      one .elifClauses], 0⟩],
  [⟨.ifStatement, [one .ifWord, (one .expression).field .condition, one .colon,
      (one .indent).field .consequence, (one .block).field .consequence], 0⟩],
  [⟨.ifStatement, [one .ifWord, (one .expression).field .condition, one .colon,
      ((any [.newline, .simpleStatements]).field .consequence).shownAs .block, one .elifClauses,
      (one .elseClause).field .alternative], 0⟩],
  [⟨.ifStatement, [one .ifWord, (one .expression).field .condition, one .colon,
      (one .indent).field .consequence, (one .block).field .consequence,
      (one .elseClause).field .alternative], 0⟩],
  [⟨.ifStatement, [one .ifWord, (one .expression).field .condition, one .colon,
      (one .indent).field .consequence, (one .block).field .consequence, one .elifClauses], 0⟩],
  [⟨.ifStatement, [one .ifWord, (one .expression).field .condition, one .colon,
      (one .indent).field .consequence, (one .block).field .consequence, one .elifClauses,
      (one .elseClause).field .alternative], 0⟩],
  [⟨.elifClause, [one .elifWord, (one .expression).field .condition, one .colon,
      ((any [.newline, .simpleStatements]).field .consequence).shownAs .block], 0⟩],
  [⟨.elifClause, [one .elifWord, (one .expression).field .condition, one .colon,
      (one .indent).field .consequence, (one .block).field .consequence], 0⟩],
  [⟨.elseClause, [one .elseWord, one .colon,
      ((any [.newline, .simpleStatements]).field .body).shownAs .block], 0⟩],
  [⟨.elseClause, [one .elseWord, one .colon, (one .indent).field .body,
      (one .block).field .body], 0⟩],
  [⟨.forStatement, [one .forWord, (any [.pattern, .patternList]).field .left, one .inWord,
      (any [.expressionList, .expression]).field .right, one .colon,
      ((any [.newline, .simpleStatements]).field .body).shownAs .block], 0⟩],
  [⟨.forStatement, [one .asyncWord, one .forWord, (any [.pattern, .patternList]).field .left,
      one .inWord, (any [.expressionList, .expression]).field .right, one .colon,
      ((any [.newline, .simpleStatements]).field .body).shownAs .block], 0⟩],
  [⟨.forStatement, [one .forWord, (any [.pattern, .patternList]).field .left, one .inWord,
      (any [.expressionList, .expression]).field .right, one .colon,
      ((any [.newline, .simpleStatements]).field .body).shownAs .block,
      (one .elseClause).field .alternative], 0⟩],
  [⟨.forStatement, [one .forWord, (any [.pattern, .patternList]).field .left, one .inWord,
      (any [.expressionList, .expression]).field .right, one .colon, (one .indent).field .body,
      (one .block).field .body], 0⟩],
  [⟨.forStatement, [one .asyncWord, one .forWord, (any [.pattern, .patternList]).field .left,
      one .inWord, (any [.expressionList, .expression]).field .right, one .colon,
      ((any [.newline, .simpleStatements]).field .body).shownAs .block,
      (one .elseClause).field .alternative], 0⟩],
  [⟨.forStatement, [one .asyncWord, one .forWord, (any [.pattern, .patternList]).field .left,
      one .inWord, (any [.expressionList, .expression]).field .right, one .colon,
      (one .indent).field .body, (one .block).field .body], 0⟩],
  [⟨.forStatement, [one .forWord, (any [.pattern, .patternList]).field .left, one .inWord,
      (any [.expressionList, .expression]).field .right, one .colon, (one .indent).field .body,
      (one .block).field .body, (one .elseClause).field .alternative], 0⟩],
  [⟨.forStatement, [one .asyncWord, one .forWord, (any [.pattern, .patternList]).field .left,
      one .inWord, (any [.expressionList, .expression]).field .right, one .colon,
      (one .indent).field .body, (one .block).field .body,
      (one .elseClause).field .alternative], 0⟩],
  [⟨.whileStatement, [one .whileWord, (one .expression).field .condition, one .colon,
      ((any [.newline, .simpleStatements]).field .body).shownAs .block], 0⟩],
  [⟨.whileStatement, [one .whileWord, (one .expression).field .condition, one .colon,
      ((any [.newline, .simpleStatements]).field .body).shownAs .block,
      (one .elseClause).field .alternative], 0⟩],
  [⟨.whileStatement, [one .whileWord, (one .expression).field .condition, one .colon,
      (one .indent).field .body, (one .block).field .body], 0⟩],
  [⟨.whileStatement, [one .whileWord, (one .expression).field .condition, one .colon,
      (one .indent).field .body, (one .block).field .body,
      (one .elseClause).field .alternative], 0⟩],
  [⟨.tryStatement, [one .tryWord, one .colon,
      ((any [.newline, .simpleStatements]).field .body).shownAs .block,
      any [.finallyClause, .exceptClauses, .exceptGroupClauses]], 0⟩],
  [⟨.tryStatement, [one .tryWord, one .colon,
      ((any [.newline, .simpleStatements]).field .body).shownAs .block,
      any [.exceptClauses, .exceptGroupClauses], any [.elseClause, .finallyClause]], 0⟩],
  [⟨.tryStatement, [one .tryWord, one .colon, (one .indent).field .body, (one .block).field .body,
      any [.finallyClause, .exceptClauses, .exceptGroupClauses]], 0⟩],
  [⟨.tryStatement, [one .tryWord, one .colon,
      ((any [.newline, .simpleStatements]).field .body).shownAs .block,
      any [.exceptClauses, .exceptGroupClauses], one .elseClause, one .finallyClause], 0⟩],
  [⟨.tryStatement, [one .tryWord, one .colon, (one .indent).field .body, (one .block).field .body,
      any [.exceptClauses, .exceptGroupClauses], any [.elseClause, .finallyClause]], 0⟩],
  [⟨.tryStatement, [one .tryWord, one .colon, (one .indent).field .body, (one .block).field .body,
      any [.exceptClauses, .exceptGroupClauses], one .elseClause, one .finallyClause], 0⟩],
  [⟨.exceptClause, [one .exceptWord, one .colon,
      (any [.newline, .simpleStatements]).shownAs .block], 0⟩],
  [⟨.exceptClause, [one .exceptWord, one .colon, one .indent, one .block], 0⟩],
  [⟨.exceptClause, [one .exceptWord, one .expression, one .colon,
      (any [.newline, .simpleStatements]).shownAs .block], 0⟩],
  [⟨.exceptClause, [one .exceptWord, one .expression, one .colon, one .indent, one .block], 0⟩],
  [⟨.exceptClause, [one .exceptWord, one .expression, any [.comma, .asWord], one .expression,
      one .colon, (any [.newline, .simpleStatements]).shownAs .block], 0⟩],
  [⟨.exceptClause, [one .exceptWord, one .expression, any [.comma, .asWord], one .expression,
      one .colon, one .indent, one .block], 0⟩],
  [⟨.exceptGroupClause, [one .exceptStarWord, one .expression, one .colon,
      (any [.newline, .simpleStatements]).shownAs .block], 0⟩],
  [⟨.exceptGroupClause, [one .exceptStarWord, one .expression, one .colon, one .indent,
      one .block], 0⟩],
  [⟨.finallyClause, [one .finallyWord, one .colon,
      (any [.newline, .simpleStatements]).shownAs .block], 0⟩],
  [⟨.finallyClause, [one .finallyWord, one .colon, one .indent, one .block], 0⟩],
  [⟨.withStatement, [one .withWord, one .withClause, one .colon,
      ((any [.newline, .simpleStatements]).field .body).shownAs .block], 0⟩],
  [⟨.withStatement, [one .asyncWord, one .withWord, one .withClause, one .colon,
      ((any [.newline, .simpleStatements]).field .body).shownAs .block], 0⟩],
  [⟨.withStatement, [one .withWord, one .withClause, one .colon, (one .indent).field .body,
      (one .block).field .body], 0⟩],
  [⟨.withStatement, [one .asyncWord, one .withWord, one .withClause, one .colon,
      (one .indent).field .body, (one .block).field .body], 0⟩],
  [⟨.withClause, [one .withItem], 0⟩],
  [⟨.withClause, [one .withItem, any [.comma, .moreWithItems]], 0⟩],
  [⟨.withClause, [one .withItem, one .moreWithItems, one .comma], 0⟩,
   ⟨.withClause, [one .openParen, one .withItem, one .closeParen], 0⟩],
  [⟨.withClause, [one .openParen, one .withItem, any [.comma, .moreWithItems],
      one .closeParen], 0⟩],
  [⟨.withClause, [one .openParen, one .withItem, one .moreWithItems, one .comma,
      one .closeParen], 0⟩],
  [⟨.withItem, [(one .expression).field .value], 1⟩],
  [⟨.matchStatement, [one .matchWord, (one .expression).field .subject, one .colon,
      (one .matchBlock).field .body], 0⟩],
  [⟨.matchStatement, [one .matchWord, (one .expression).field .subject, one .comma, one .colon,
      (one .matchBlock).field .body], 0⟩],
  [⟨.matchStatement, [one .matchWord, (one .expression).field .subject, one .moreSubjects,
      one .colon, (one .matchBlock).field .body], 0⟩],
  [⟨.matchStatement, [one .matchWord, (one .expression).field .subject, one .moreSubjects,
      one .comma, one .colon, (one .matchBlock).field .body], 0⟩],
  [⟨.matchBlock, [one .newline], 0⟩],
  [⟨.matchBlock, [one .indent, one .dedent], 0⟩],
  [⟨.matchBlock, [one .indent, one .caseClauses, one .dedent], 0⟩],
  [⟨.caseClause, [one .caseWord, one .casePattern, one .colon,
      ((any [.newline, .simpleStatements]).field .consequence).shownAs .block], 0⟩],
  [⟨.caseClause, [one .caseWord, one .casePattern, any [.comma, .moreCasePatterns], one .colon,
      ((any [.newline, .simpleStatements]).field .consequence).shownAs .block], 0⟩],
  [⟨.caseClause, [one .caseWord, one .casePattern, one .colon, (one .indent).field .consequence,
      (one .block).field .consequence], 0⟩],
  [⟨.caseClause, [one .caseWord, one .casePattern, (one .ifClause).field .guard, one .colon,
      ((any [.newline, .simpleStatements]).field .consequence).shownAs .block], 0⟩],
  [⟨.caseClause, [one .caseWord, one .casePattern, any [.comma, .moreCasePatterns], one .colon,
      (one .indent).field .consequence, (one .block).field .consequence], 0⟩],
  [⟨.caseClause, [one .caseWord, one .casePattern, any [.comma, .moreCasePatterns],
      (one .ifClause).field .guard, one .colon,
      ((any [.newline, .simpleStatements]).field .consequence).shownAs .block], 0⟩],
  [⟨.caseClause, [one .caseWord, one .casePattern, (one .ifClause).field .guard, one .colon,
      (one .indent).field .consequence, (one .block).field .consequence], 0⟩],
  [⟨.caseClause, [one .caseWord, one .casePattern, one .moreCasePatterns, one .comma, one .colon,
      ((any [.newline, .simpleStatements]).field .consequence).shownAs .block], 0⟩],
  [⟨.caseClause, [one .caseWord, one .casePattern, any [.comma, .moreCasePatterns],
      (one .ifClause).field .guard, one .colon, (one .indent).field .consequence,
      (one .block).field .consequence], 0⟩],
  [⟨.caseClause, [one .caseWord, one .casePattern, one .moreCasePatterns, one .comma, one .colon,
      (one .indent).field .consequence, (one .block).field .consequence], 0⟩],
  [⟨.caseClause, [one .caseWord, one .casePattern, one .moreCasePatterns, one .comma,
      (one .ifClause).field .guard, one .colon,
      ((any [.newline, .simpleStatements]).field .consequence).shownAs .block], 0⟩],
  [⟨.caseClause, [one .caseWord, one .casePattern, one .moreCasePatterns, one .comma,
      (one .ifClause).field .guard, one .colon, (one .indent).field .consequence,
      (one .block).field .consequence], 0⟩],
  [⟨.functionDefinition, [one .defWord, (one .identifier).field .name,
      (one .parameters).field .parameters, one .colon,
      ((any [.newline, .simpleStatements]).field .body).shownAs .block], 0⟩],
  [⟨.functionDefinition, [one .asyncWord, one .defWord, (one .identifier).field .name,
      (one .parameters).field .parameters, one .colon,
      ((any [.newline, .simpleStatements]).field .body).shownAs .block], 0⟩],
  [⟨.functionDefinition, [one .defWord, (one .identifier).field .name,
      (one .parameters).field .parameters, one .colon, (one .indent).field .body,
      (one .block).field .body], 0⟩],
  [⟨.functionDefinition, [one .defWord, (one .identifier).field .name,
      (one .typeParameter).field .typeParameters, (one .parameters).field .parameters, one .colon,
      ((any [.newline, .simpleStatements]).field .body).shownAs .block], 0⟩],
  [⟨.functionDefinition, [one .asyncWord, one .defWord, (one .identifier).field .name,
      (one .parameters).field .parameters, one .colon, (one .indent).field .body,
      (one .block).field .body], 0⟩],
  [⟨.functionDefinition, [one .asyncWord, one .defWord, (one .identifier).field .name,
      (one .typeParameter).field .typeParameters, (one .parameters).field .parameters, one .colon,
      ((any [.newline, .simpleStatements]).field .body).shownAs .block], 0⟩],
  [⟨.functionDefinition, [one .defWord, (one .identifier).field .name,
      (one .parameters).field .parameters, one .arrow, (one .typeExpression).field .returnType,
      one .colon, ((any [.newline, .simpleStatements]).field .body).shownAs .block], 0⟩],
  [⟨.functionDefinition, [one .defWord, (one .identifier).field .name,
      (one .typeParameter).field .typeParameters, (one .parameters).field .parameters, one .colon,
      (one .indent).field .body, (one .block).field .body], 0⟩],
  [⟨.functionDefinition, [one .asyncWord, one .defWord, (one .identifier).field .name,
      (one .parameters).field .parameters, one .arrow, (one .typeExpression).field .returnType,
      one .colon, ((any [.newline, .simpleStatements]).field .body).shownAs .block], 0⟩],
  [⟨.functionDefinition, [one .asyncWord, one .defWord, (one .identifier).field .name,
      (one .typeParameter).field .typeParameters, (one .parameters).field .parameters, one .colon,
      (one .indent).field .body, (one .block).field .body], 0⟩],
  [⟨.functionDefinition, [one .defWord, (one .identifier).field .name,
      (one .parameters).field .parameters, one .arrow, (one .typeExpression).field .returnType,
      one .colon, (one .indent).field .body, (one .block).field .body], 0⟩],
  [⟨.functionDefinition, [one .defWord, (one .identifier).field .name,
      (one .typeParameter).field .typeParameters, (one .parameters).field .parameters, one .arrow,
      (one .typeExpression).field .returnType, one .colon,
      ((any [.newline, .simpleStatements]).field .body).shownAs .block], 0⟩],
  [⟨.functionDefinition, [one .asyncWord, one .defWord, (one .identifier).field .name,
      (one .parameters).field .parameters, one .arrow, (one .typeExpression).field .returnType,
      one .colon, (one .indent).field .body, (one .block).field .body], 0⟩],
  [⟨.functionDefinition, [one .asyncWord, one .defWord, (one .identifier).field .name,
      (one .typeParameter).field .typeParameters, (one .parameters).field .parameters, one .arrow,
      (one .typeExpression).field .returnType, one .colon,
      ((any [.newline, .simpleStatements]).field .body).shownAs .block], 0⟩],
  [⟨.functionDefinition, [one .defWord, (one .identifier).field .name,
      (one .typeParameter).field .typeParameters, (one .parameters).field .parameters, one .arrow,
      (one .typeExpression).field .returnType, one .colon, (one .indent).field .body,
      (one .block).field .body], 0⟩],
  [⟨.functionDefinition, [one .asyncWord, one .defWord, (one .identifier).field .name,
      (one .typeParameter).field .typeParameters, (one .parameters).field .parameters, one .arrow,
      (one .typeExpression).field .returnType, one .colon, (one .indent).field .body,
      (one .block).field .body], 0⟩],
  [⟨.classDefinition, [one .classWord, (one .identifier).field .name, one .colon,
      ((any [.newline, .simpleStatements]).field .body).shownAs .block], 0⟩],
  [⟨.classDefinition, [one .classWord, (one .identifier).field .name, one .colon,
      (one .indent).field .body, (one .block).field .body], 0⟩],
  [⟨.classDefinition, [one .classWord, (one .identifier).field .name,
      (one .typeParameter).field .typeParameters, one .colon,
      ((any [.newline, .simpleStatements]).field .body).shownAs .block], 0⟩],
  [⟨.classDefinition, [one .classWord, (one .identifier).field .name,
      (one .argumentList).field .superclasses, one .colon,
      ((any [.newline, .simpleStatements]).field .body).shownAs .block], 0⟩],
  [⟨.classDefinition, [one .classWord, (one .identifier).field .name,
      (one .typeParameter).field .typeParameters, one .colon, (one .indent).field .body,
      (one .block).field .body], 0⟩],
  [⟨.classDefinition, [one .classWord, (one .identifier).field .name,
      (one .typeParameter).field .typeParameters, (one .argumentList).field .superclasses,
      one .colon, ((any [.newline, .simpleStatements]).field .body).shownAs .block], 0⟩],
  [⟨.classDefinition, [one .classWord, (one .identifier).field .name,
      (one .argumentList).field .superclasses, one .colon, (one .indent).field .body,
      (one .block).field .body], 0⟩],
  [⟨.classDefinition, [one .classWord, (one .identifier).field .name,
      (one .typeParameter).field .typeParameters, (one .argumentList).field .superclasses,
      one .colon, (one .indent).field .body, (one .block).field .body], 0⟩],
  [⟨.decoratedDefinition, [one .decorators,
      (any [.functionDefinition, .classDefinition]).field .definition], 0⟩],
  [⟨.decorator, [one .atSign, one .expression, one .newline], 0⟩],
  [⟨.block, [one .dedent], 0⟩],
  [⟨.block, [one .statements, one .dedent], 0⟩]]

end CodeAudit.Syntax.Grammar
