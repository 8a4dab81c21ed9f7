import CodeAudit.Syntax.Grammar.Production

/-! Parameters, assignment targets, match patterns and types. -/
namespace CodeAudit.Syntax.Grammar

open Place

def patterns : List Reduction := [
  [⟨.parameters, [one .openParen, one .closeParen], 0⟩],
  [⟨.parameters, [one .openParen, one .parameterList, one .closeParen], 0⟩],
  [⟨.lambdaParameters, [one .parameterList], 0⟩],
  [⟨.parameterList, [one .parameter], 0⟩],
  [⟨.parameterList, [one .parameter, any [.comma, .moreParameters]], 0⟩],
  [⟨.parameterList, [one .parameter, one .moreParameters, one .comma], 0⟩],
  [⟨.parameter, [
      any [.identifier, .tuplePattern, .defaultParameter, .typedDefaultParameter,
        .listSplatPattern, .dictionarySplatPattern, .typedParameter, .positionalSeparator,
        .keywordSeparator]], 0⟩],
  [⟨.typedParameter, [any [.identifier, .listSplatPattern, .dictionarySplatPattern], one .colon,
      (one .typeExpression).field .type], 0⟩],
  [⟨.defaultParameter, [(any [.identifier, .tuplePattern]).field .name, one .equals,
      (one .expression).field .value], 0⟩],
  [⟨.typedDefaultParameter, [(one .identifier).field .name, one .colon,
      (one .typeExpression).field .type, one .equals, (one .expression).field .value], 0⟩],
  [⟨.keywordSeparator, [one .star], 0⟩],
  [⟨.positionalSeparator, [one .slash], 0⟩],
  [⟨.patternSequence, [one .pattern], 0⟩],
  [⟨.patternSequence, [one .pattern, any [.comma, .morePatterns]], 0⟩],
  [⟨.patternSequence, [one .pattern, one .morePatterns, one .comma], 0⟩],
  [⟨.pattern, [
      any [.identifier, .tuplePattern, .listPattern, .listSplatPattern, .attributeAccess,
        .subscript]], 0⟩],
  [⟨.pattern, [
      (any [.printWord, .matchWord, .asyncWord, .execWord, .typeWord,
        .awaitWord]).shownAs .identifier], 0⟩],
  [⟨.patternList, [one .pattern, any [.comma, .morePatterns]], 0⟩],
  [⟨.patternList, [one .pattern, one .morePatterns, one .comma], 0⟩],
  [⟨.tuplePattern, [one .openParen, one .closeParen], 0⟩],
  [⟨.tuplePattern, [one .openParen, one .patternSequence, one .closeParen], 0⟩],
  [⟨.listPattern, [one .openBracket, one .closeBracket], 0⟩],
  [⟨.listPattern, [one .openBracket, one .patternSequence, one .closeBracket], 0⟩],
  [⟨.listSplatPattern, [one .star, any [.identifier, .attributeAccess, .subscript]], 0⟩],
  [⟨.listSplatPattern, [one .star,
      (any [.printWord, .matchWord, .asyncWord, .execWord, .typeWord,
        .awaitWord]).shownAs .identifier], 0⟩],
  [⟨.dictionarySplatPattern, [one .doubleStar,
      any [.identifier, .attributeAccess, .subscript]], 0⟩],
  [⟨.dictionarySplatPattern, [one .doubleStar,
      (any [.printWord, .matchWord, .asyncWord, .execWord, .typeWord,
        .awaitWord]).shownAs .identifier], 0⟩],
  [⟨.casePattern, [any [.simplePattern, .caseAsPattern, .keywordPattern]], 0⟩],
  [⟨.simplePattern, [
      any [.underscore, .integerLiteral, .floatLiteral, .trueLiteral, .falseLiteral, .noneLiteral,
        .dottedName, .unionPattern, .caseListPattern, .caseTuplePattern, .dictPattern,
        .splatPattern, .classPattern, .complexPattern, .concatenatedString, .stringLiteral]], 0⟩],
  [⟨.simplePattern, [one .minus, any [.integerLiteral, .floatLiteral]], 0⟩],
  [⟨.caseAsPattern, [one .casePattern, one .asWord, one .identifier], 0⟩],
  [⟨.unionPattern, [one .simplePattern, one .unionTail], 0⟩],
  [⟨.caseListPattern, [one .openBracket, one .closeBracket], 0⟩],
  [⟨.caseListPattern, [one .openBracket, one .casePattern, one .closeBracket], 0⟩],
  [⟨.caseListPattern, [one .openBracket, one .casePattern, any [.comma, .moreCasePatterns],
      one .closeBracket], 0⟩],
  [⟨.caseListPattern, [one .openBracket, one .casePattern, one .moreCasePatterns, one .comma,
      one .closeBracket], 0⟩],
  [⟨.caseTuplePattern, [one .openParen, one .closeParen], 0⟩],
  [⟨.caseTuplePattern, [one .openParen, one .casePattern, one .closeParen], 0⟩],
  [⟨.caseTuplePattern, [one .openParen, one .casePattern, any [.comma, .moreCasePatterns],
      one .closeParen], 0⟩],
  [⟨.caseTuplePattern, [one .openParen, one .casePattern, one .moreCasePatterns, one .comma,
      one .closeParen], 0⟩],
  [⟨.dictPattern, [one .openBrace, one .closeBrace], 0⟩],
  [⟨.dictPattern, [one .openBrace, one .splatPattern, one .closeBrace], 0⟩],
  [⟨.dictPattern, [one .openBrace, one .keyValuePattern, one .closeBrace], 0⟩],
  [⟨.dictPattern, [one .openBrace, one .splatPattern, one .comma, one .closeBrace], 0⟩],
  [⟨.dictPattern, [one .openBrace, one .keyValuePattern, one .comma, one .closeBrace], 0⟩],
  [⟨.dictPattern, [one .openBrace, one .keyValuePattern, one .moreDictPatterns,
      one .closeBrace], 0⟩],
  [⟨.dictPattern, [one .openBrace, one .splatPattern, one .moreDictPatterns, one .closeBrace], 0⟩],
  [⟨.dictPattern, [one .openBrace, one .keyValuePattern, one .moreDictPatterns, one .comma,
      one .closeBrace], 0⟩],
  [⟨.dictPattern, [one .openBrace, one .splatPattern, one .moreDictPatterns, one .comma,
      one .closeBrace], 0⟩],
  [⟨.keyValuePattern, [(one .simplePattern).field .key, one .colon,
      (one .casePattern).field .value], 0⟩],
  [⟨.keywordPattern, [one .identifier, one .equals, one .simplePattern], 0⟩],
  [⟨.splatPattern, [any [.star, .doubleStar], any [.identifier, .underscore]], 0⟩],
  [⟨.classPattern, [one .dottedName, one .openParen, one .closeParen], 0⟩],
  [⟨.classPattern, [one .dottedName, one .openParen, one .casePattern, one .closeParen], 0⟩],
  [⟨.classPattern, [one .dottedName, one .openParen, one .casePattern,
      any [.comma, .moreCasePatterns], one .closeParen], 0⟩],
  [⟨.classPattern, [one .dottedName, one .openParen, one .casePattern, one .moreCasePatterns,
      one .comma, one .closeParen], 0⟩],
  [⟨.complexPattern, [any [.integerLiteral, .floatLiteral], any [.minus, .plus],
      any [.integerLiteral, .floatLiteral]], 0⟩],
  [⟨.complexPattern, [one .minus, any [.integerLiteral, .floatLiteral], any [.minus, .plus],
      any [.integerLiteral, .floatLiteral]], 0⟩],
  [⟨.typeExpression, [
      any [.expression, .splatType, .genericType, .unionType, .constrainedType, .memberType]], 0⟩],
  [⟨.splatType, [any [.star, .doubleStar], one .identifier], 0⟩],
  [⟨.genericType, [one .identifier, one .typeParameter], 0⟩],
  [⟨.unionType, [one .typeExpression, one .bar, one .typeExpression], 0⟩],
  [⟨.constrainedType, [one .typeExpression, one .colon, one .typeExpression], 0⟩],
  [⟨.memberType, [one .typeExpression, one .dot, one .identifier], 0⟩],
  [⟨.typeParameter, [one .openBracket, one .typeExpression, one .closeBracket], 0⟩],
  [⟨.typeParameter, [one .openBracket, one .typeExpression, one .moreTypes, one .closeBracket], 0⟩]]

end CodeAudit.Syntax.Grammar
