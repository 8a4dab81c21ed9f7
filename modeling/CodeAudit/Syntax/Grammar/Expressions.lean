import CodeAudit.Syntax.Grammar.Production

/-! Expressions, strings and collections. -/
namespace CodeAudit.Syntax.Grammar

open Place

def expressions : List Reduction := [
  [⟨.namedExpression, [(one .namedExpressionTarget).field .name, one .walrus,
      (one .expression).field .value], 0⟩],
  [⟨.namedExpressionTarget, [one .identifier], 0⟩],
  [⟨.namedExpressionTarget, [
      (any [.printWord, .matchWord, .asyncWord, .execWord, .typeWord,
        .awaitWord]).shownAs .identifier], 0⟩],
  [⟨.listSplat, [one .star, one .expression], 0⟩],
  [⟨.dictionarySplat, [one .doubleStar, one .expression], 0⟩],
  [⟨.parenthesizedListSplat, [one .openParen, one .listSplat, one .closeParen], 0⟩],
  [⟨.parenthesizedListSplat, [one .openParen,
      (one .parenthesizedListSplat).shownAs .parenthesizedExpression, one .closeParen], 0⟩],
  [⟨.argumentList, [one .openParen, one .closeParen], 0⟩],
  [⟨.argumentList, [one .openParen,
      any [.comma, .listSplat, .dictionarySplat, .expression, .keywordArgument],
      one .closeParen], 0⟩],
  [⟨.argumentList, [one .openParen, (one .parenthesizedListSplat).shownAs .parenthesizedExpression,
      one .closeParen], 0⟩],
  [⟨.argumentList, [one .openParen,
      any [.listSplat, .dictionarySplat, .expression, .keywordArgument],
      any [.comma, .moreArguments], one .closeParen], 0⟩],
  [⟨.argumentList, [one .openParen, (one .parenthesizedListSplat).shownAs .parenthesizedExpression,
      any [.comma, .moreArguments], one .closeParen], 0⟩],
  [⟨.argumentList, [one .openParen,
      any [.listSplat, .dictionarySplat, .expression, .keywordArgument], one .moreArguments,
      one .comma, one .closeParen], 0⟩],
  [⟨.argumentList, [one .openParen, (one .parenthesizedListSplat).shownAs .parenthesizedExpression,
      one .moreArguments, one .comma, one .closeParen], 0⟩],
  [⟨.expressionList, [one .expression, any [.comma, .moreExpressions]], 0⟩],
  [⟨.expressionList, [one .expression, one .moreExpressions, one .comma], 0⟩],
  [⟨.dottedName, [one .identifier], 0⟩],
  [⟨.dottedName, [one .identifier, one .dottedTail], 0⟩],
  [⟨.asPattern, [one .expression, one .asWord,
      ((one .expression).field .alias).shownAs .asPatternTarget], 0⟩],
  [⟨.iterableExpression, [any [.expression, .iterableLambda]], 0⟩],
  [⟨.expression, [
      any [.namedExpression, .asPattern, .primaryExpression, .notOperator, .booleanOperator,
        .comparisonOperator, .lambdaExpression, .conditionalExpression]], 0⟩],
  [⟨.primaryExpression, [
      any [.identifier, .ellipsis, .integerLiteral, .floatLiteral, .trueLiteral, .falseLiteral,
        .noneLiteral, .binaryOperator, .unaryOperator, .attributeAccess, .subscript, .call,
        .listDisplay, .setDisplay, .tupleDisplay, .dictionaryDisplay, .listComprehension,
        .dictionaryComprehension, .setComprehension, .generatorExpression,
        .parenthesizedExpression, .concatenatedString, .stringLiteral, .awaitExpression]], 0⟩],
  [⟨.primaryExpression, [
      (any [.printWord, .matchWord, .asyncWord, .execWord, .typeWord,
        .awaitWord]).shownAs .identifier], 0⟩],
  [⟨.primaryExpression, [(one .listSplatPattern).shownAs .listSplat], 0⟩],
  [⟨.notOperator, [one .notWord, (one .expression).field .argument], 0⟩],
  [⟨.booleanOperator, [(one .expression).field .left, (any [.andWord, .orWord]).field .operator,
      (one .expression).field .right], 0⟩],
  [⟨.binaryOperator, [(one .primaryExpression).field .left,
      (any [.star, .shiftRight, .doubleStar, .atSign, .minus, .bar, .plus, .slash, .percent,
        .doubleSlash, .ampersand, .caret, .shiftLeft]).field .operator,
      (one .primaryExpression).field .right], 0⟩],
  [⟨.unaryOperator, [(any [.minus, .plus, .tilde]).field .operator,
      (one .primaryExpression).field .argument], 0⟩],
  [⟨.comparisonOperator, [one .primaryExpression, one .comparisonTail], 0⟩],
  [⟨.lambdaExpression, [one .lambdaWord, one .colon, (one .expression).field .body], 0⟩],
  [⟨.lambdaExpression, [one .lambdaWord, (one .lambdaParameters).field .parameters, one .colon,
      (one .expression).field .body], 0⟩],
  [⟨.iterableLambda, [one .lambdaWord, one .colon, (one .iterableExpression).field .body], 0⟩],
  [⟨.iterableLambda, [one .lambdaWord, (one .lambdaParameters).field .parameters, one .colon,
      (one .iterableExpression).field .body], 0⟩],
  [⟨.yieldExpression, [one .yieldWord], 0⟩],
  [⟨.yieldExpression, [one .yieldWord, any [.expressionList, .expression]], 0⟩],
  [⟨.yieldExpression, [one .yieldWord, one .fromWord, one .expression], 0⟩],
  [⟨.attributeAccess, [(one .primaryExpression).field .object, one .dot,
      (one .identifier).field .attribute], 0⟩],
  [⟨.subscript, [(one .primaryExpression).field .value, one .openBracket,
      (any [.expression, .slice]).field .subscript, one .closeBracket], 0⟩],
  [⟨.subscript, [(one .primaryExpression).field .value, one .openBracket,
      (any [.expression, .slice]).field .subscript, one .comma, one .closeBracket], 0⟩],
  [⟨.subscript, [(one .primaryExpression).field .value, one .openBracket,
      (any [.expression, .slice]).field .subscript, one .moreSubscripts, one .closeBracket], 0⟩],
  [⟨.subscript, [(one .primaryExpression).field .value, one .openBracket,
      (any [.expression, .slice]).field .subscript, one .moreSubscripts, one .comma,
      one .closeBracket], 0⟩],
  [⟨.slice, [one .colon], 0⟩],
  [⟨.slice, [any [.colon, .expression], one .colon], 0⟩,
   ⟨.slice, [one .colon, one .expression], 0⟩],
  [⟨.slice, [one .expression, one .colon, any [.colon, .expression]], 0⟩,
   ⟨.slice, [one .colon, one .expression, one .colon], 0⟩,
   ⟨.slice, [one .colon, one .colon, one .expression], 0⟩],
  [⟨.slice, [one .expression, one .colon, one .expression, one .colon], 0⟩,
   ⟨.slice, [one .expression, one .colon, one .colon, one .expression], 0⟩,
   ⟨.slice, [one .colon, one .expression, one .colon, one .expression], 0⟩],
  [⟨.slice, [one .expression, one .colon, one .expression, one .colon, one .expression], 0⟩],
  [⟨.call, [(one .primaryExpression).field .function,
      (any [.argumentList, .generatorExpression]).field .arguments], 0⟩],
  [⟨.keywordArgument, [(one .identifier).field .name, one .equals,
      (one .expression).field .value], 0⟩],
  [⟨.keywordArgument, [
      ((any [.printWord, .matchWord, .asyncWord, .execWord, .typeWord,
        .awaitWord]).field .name).shownAs .identifier, one .equals,
      (one .expression).field .value], 0⟩],
  [⟨.listDisplay, [one .openBracket, one .closeBracket], 0⟩],
  [⟨.listDisplay, [one .openBracket, one .collectionElements, one .closeBracket], 0⟩],
  [⟨.setDisplay, [one .openBrace, one .collectionElements, one .closeBrace], 0⟩],
  [⟨.tupleDisplay, [one .openParen, one .closeParen], 0⟩],
  [⟨.tupleDisplay, [one .openParen, one .collectionElements, one .closeParen], 0⟩],
  [⟨.dictionaryDisplay, [one .openBrace, one .closeBrace], 0⟩],
  [⟨.dictionaryDisplay, [one .openBrace, any [.comma, .dictionarySplat, .pair],
      one .closeBrace], 0⟩],
  [⟨.dictionaryDisplay, [one .openBrace, any [.dictionarySplat, .pair], any [.comma, .morePairs],
      one .closeBrace], 0⟩],
  [⟨.dictionaryDisplay, [one .openBrace, any [.dictionarySplat, .pair], one .morePairs, one .comma,
      one .closeBrace], 0⟩],
  [⟨.pair, [(one .expression).field .key, one .colon, (one .expression).field .value], 0⟩],
  [⟨.listComprehension, [one .openBracket, (one .expression).field .body, one .comprehensionClauses,
      one .closeBracket], 0⟩],
  [⟨.dictionaryComprehension, [one .openBrace, (one .pair).field .body, one .comprehensionClauses,
      one .closeBrace], 0⟩],
  [⟨.setComprehension, [one .openBrace, (one .expression).field .body, one .comprehensionClauses,
      one .closeBrace], 0⟩],
  [⟨.generatorExpression, [one .openParen, (one .expression).field .body, one .comprehensionClauses,
      one .closeParen], 0⟩],
  [⟨.comprehensionClauses, [one .forInClause], 0⟩],
  [⟨.comprehensionClauses, [one .forInClause, one .moreComprehensionClauses], 0⟩],
  [⟨.parenthesizedExpression, [one .openParen, any [.expression, .yieldExpression],
      one .closeParen], 0⟩],
  [⟨.collectionElements, [
      any [.listSplat, .parenthesizedListSplat, .expression, .yieldExpression]], 0⟩],
  [⟨.collectionElements, [any [.listSplat, .parenthesizedListSplat, .expression, .yieldExpression],
      any [.comma, .moreElements]], 0⟩],
  [⟨.collectionElements, [any [.listSplat, .parenthesizedListSplat, .expression, .yieldExpression],
      one .moreElements, one .comma], 0⟩],
  [⟨.forInClause, [one .forWord, (any [.pattern, .patternList]).field .left, one .inWord,
      (one .iterableExpression).field .right], 0⟩],
  [⟨.forInClause, [one .forWord, (any [.pattern, .patternList]).field .left, one .inWord,
      (one .iterableExpression).field .right, one .comma], 0⟩],
  [⟨.forInClause, [one .asyncWord, one .forWord, (any [.pattern, .patternList]).field .left,
      one .inWord, (one .iterableExpression).field .right], 0⟩],
  [⟨.forInClause, [one .forWord, (any [.pattern, .patternList]).field .left, one .inWord,
      (one .iterableExpression).field .right, (one .moreIterables).field .right], 0⟩],
  [⟨.forInClause, [one .asyncWord, one .forWord, (any [.pattern, .patternList]).field .left,
      one .inWord, (one .iterableExpression).field .right, one .comma], 0⟩],
  [⟨.forInClause, [one .forWord, (any [.pattern, .patternList]).field .left, one .inWord,
      (one .iterableExpression).field .right, (one .moreIterables).field .right, one .comma], 0⟩],
  [⟨.forInClause, [one .asyncWord, one .forWord, (any [.pattern, .patternList]).field .left,
      one .inWord, (one .iterableExpression).field .right, (one .moreIterables).field .right], 0⟩],
  [⟨.forInClause, [one .asyncWord, one .forWord, (any [.pattern, .patternList]).field .left,
      one .inWord, (one .iterableExpression).field .right, (one .moreIterables).field .right,
      one .comma], 0⟩],
  [⟨.ifClause, [one .ifWord, one .expression], 0⟩],
  [⟨.conditionalExpression, [one .expression, one .ifWord, one .expression, one .elseWord,
      one .expression], 0⟩],
  [⟨.concatenatedString, [one .stringLiteral, one .moreStrings], 0⟩],
  [⟨.stringLiteral, [one .stringStart, one .stringEnd], 0⟩],
  [⟨.stringLiteral, [one .stringStart, one .stringParts, one .stringEnd], 0⟩],
  [⟨.stringContent, [one .contentParts], 0⟩],
  [⟨.interpolation, [one .openBrace, (one .interpolatedExpression).field .expression,
      one .closeBrace], 0⟩],
  [⟨.interpolation, [one .openBrace, (one .interpolatedExpression).field .expression, one .equals,
      one .closeBrace], 0⟩],
  [⟨.interpolation, [one .openBrace, (one .interpolatedExpression).field .expression,
      (one .typeConversion).field .typeConversion, one .closeBrace], 0⟩],
  [⟨.interpolation, [one .openBrace, (one .interpolatedExpression).field .expression,
      (one .formatSpecifier).field .formatSpecifier, one .closeBrace], 0⟩],
  [⟨.interpolation, [one .openBrace, (one .interpolatedExpression).field .expression, one .equals,
      (one .typeConversion).field .typeConversion, one .closeBrace], 0⟩],
  [⟨.interpolation, [one .openBrace, (one .interpolatedExpression).field .expression, one .equals,
      (one .formatSpecifier).field .formatSpecifier, one .closeBrace], 0⟩],
  [⟨.interpolation, [one .openBrace, (one .interpolatedExpression).field .expression,
      (one .typeConversion).field .typeConversion, (one .formatSpecifier).field .formatSpecifier,
      one .closeBrace], 0⟩],
  [⟨.interpolation, [one .openBrace, (one .interpolatedExpression).field .expression, one .equals,
      (one .typeConversion).field .typeConversion, (one .formatSpecifier).field .formatSpecifier,
      one .closeBrace], 0⟩],
  [⟨.interpolatedExpression, [
      any [.expressionList, .expression, .patternList, .yieldExpression]], 0⟩],
  [⟨.formatSpecifier, [one .colon], 0⟩],
  [⟨.formatSpecifier, [one .colon, one .formatParts], 0⟩],
  [⟨.awaitExpression, [one .awaitWord, one .primaryExpression], 0⟩]]

end CodeAudit.Syntax.Grammar
