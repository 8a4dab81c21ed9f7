/-!
Kinds of syntax: the tokens and nodes of Python source. The order of the constructors is the order in which
repair tries missing tokens and in which equally good trees are compared.
-/
namespace CodeAudit.Syntax

/-- The kinds, tokens first. A kind that ends in `Word` is the keyword of that spelling. -/
inductive Kind where
  | endOfInput | identifier | semicolon | importWord | dot | fromWord | futureWord | openParen
  | closeParen | comma | asWord | star | printWord | shiftRight | assertWord | walrus
  | returnWord | delWord | raiseWord | passWord | breakWord | continueWord | ifWord | colon
  | elifWord | elseWord | matchWord | caseWord | asyncWord | forWord | inWord | whileWord
  | tryWord | exceptWord | exceptStarWord | finallyWord | withWord | defWord | arrow | doubleStar
  | globalWord | nonlocalWord | execWord | typeWord | equals | classWord | openBracket
  | closeBracket | atSign | minus | underscore | bar | openBrace | closeBrace | plus | notWord
  | andWord | orWord | slash | percent | doubleSlash | ampersand | caret | shiftLeft | tilde
  | less | lessEqual | equalEqual | notEqual | greaterEqual | greater | lessGreater | isWord
  | lambdaWord | plusEquals | minusEquals | starEquals | slashEquals | atEquals
  | doubleSlashEquals | percentEquals | doubleStarEquals | shiftRightEquals | shiftLeftEquals
  | ampersandEquals | caretEquals | barEquals | yieldWord | ellipsis | escapeSequence
  | loneBackslash | formatText | typeConversion | integerLiteral | floatLiteral | awaitWord
  | trueLiteral | falseLiteral | noneLiteral | comment | lineContinuation | newline | indent
  | dedent | stringStart | stringText | escapeInterpolation | stringEnd | moduleNode | statement
  | simpleStatements | importStatement | importPrefix | relativeImport | futureImportStatement
  | importFromStatement | importList | aliasedImport | wildcardImport | printStatement | chevron
  | assertStatement | expressionStatement | namedExpression | namedExpressionTarget
  | returnStatement | deleteStatement | raiseStatement | passStatement | breakStatement
  | continueStatement | ifStatement | elifClause | elseClause | matchStatement | matchBlock
  | caseClause | forStatement | whileStatement | tryStatement | exceptClause | exceptGroupClause
  | finallyClause | withStatement | withClause | withItem | functionDefinition | parameters
  | lambdaParameters | listSplat | dictionarySplat | globalStatement | nonlocalStatement
  | execStatement | typeAliasStatement | classDefinition | typeParameter | parenthesizedListSplat
  | argumentList | decoratedDefinition | decorator | block | expressionList | dottedName
  | casePattern | simplePattern | caseAsPattern | unionPattern | caseListPattern
  | caseTuplePattern | dictPattern | keyValuePattern | keywordPattern | splatPattern
  | classPattern | complexPattern | parameterList | patternSequence | parameter | pattern
  | tuplePattern | listPattern | defaultParameter | typedDefaultParameter | listSplatPattern
  | dictionarySplatPattern | asPattern | iterableExpression | expression | primaryExpression
  | notOperator | booleanOperator | binaryOperator | unaryOperator | comparisonOperator
  | lambdaExpression | iterableLambda | assignment | augmentedAssignment | patternList
  | rightHandSide | yieldExpression | attributeAccess | subscript | slice | call | typedParameter
  | typeExpression | splatType | genericType | unionType | constrainedType | memberType
  | keywordArgument | listDisplay | setDisplay | tupleDisplay | dictionaryDisplay | pair
  | listComprehension | dictionaryComprehension | setComprehension | generatorExpression
  | comprehensionClauses | parenthesizedExpression | collectionElements | forInClause | ifClause
  | conditionalExpression | concatenatedString | stringLiteral | stringContent | interpolation
  | interpolatedExpression | formatSpecifier | awaitExpression | positionalSeparator
  | keywordSeparator | statements | moreSimpleStatements | importDots | moreImports | morePrinted
  | moreExpressions | elifClauses | moreSubjects | caseClauses | moreCasePatterns | exceptClauses
  | exceptGroupClauses | moreWithItems | moreIdentifiers | moreTypes | moreArguments | decorators
  | dottedTail | unionTail | moreDictPatterns | moreParameters | morePatterns | comparisonTail
  | moreSubscripts | morePairs | moreComprehensionClauses | moreElements | moreIterables
  | moreStrings | stringParts | contentParts | formatParts | asPatternTarget | formatExpression
  | notIn | isNot | skipped | error
deriving DecidableEq, Inhabited

namespace Kind

/-- The name under which a node of this kind is shown; a literal token shows its own text. -/
def name : Kind → String
  | .identifier => "identifier"
  | .semicolon => ";"
  | .importWord => "import"
  | .dot => "."
  | .fromWord => "from"
  | .futureWord => "__future__"
  | .openParen => "("
  | .closeParen => ")"
  | .comma => ","
  | .asWord => "as"
  | .star => "*"
  | .printWord => "print"
  | .shiftRight => ">>"
  | .assertWord => "assert"
  | .walrus => ":="
  | .returnWord => "return"
  | .delWord => "del"
  | .raiseWord => "raise"
  | .passWord => "pass"
  | .breakWord => "break"
  | .continueWord => "continue"
  | .ifWord => "if"
  | .colon => ":"
  | .elifWord => "elif"
  | .elseWord => "else"
  | .matchWord => "match"
  | .caseWord => "case"
  | .asyncWord => "async"
  | .forWord => "for"
  | .inWord => "in"
  | .whileWord => "while"
  | .tryWord => "try"
  | .exceptWord => "except"
  | .exceptStarWord => "except*"
  | .finallyWord => "finally"
  | .withWord => "with"
  | .defWord => "def"
  | .arrow => "->"
  | .doubleStar => "**"
  | .globalWord => "global"
  | .nonlocalWord => "nonlocal"
  | .execWord => "exec"
  | .typeWord => "type"
  | .equals => "="
  | .classWord => "class"
  | .openBracket => "["
  | .closeBracket => "]"
  | .atSign => "@"
  | .minus => "-"
  | .underscore => "_"
  | .bar => "|"
  | .openBrace => "\x7b"
  | .closeBrace => "\x7d"
  | .plus => "+"
  | .notWord => "not"
  | .andWord => "and"
  | .orWord => "or"
  | .slash => "/"
  | .percent => "%"
  | .doubleSlash => "//"
  | .ampersand => "&"
  | .caret => "^"
  | .shiftLeft => "<<"
  | .tilde => "~"
  | .less => "<"
  | .lessEqual => "<="
  | .equalEqual => "=="
  | .notEqual => "!="
  | .greaterEqual => ">="
  | .greater => ">"
  | .lessGreater => "<>"
  | .isWord => "is"
  | .lambdaWord => "lambda"
  | .plusEquals => "+="
  | .minusEquals => "-="
  | .starEquals => "*="
  | .slashEquals => "/="
  | .atEquals => "@="
  | .doubleSlashEquals => "//="
  | .percentEquals => "%="
  | .doubleStarEquals => "**="
  | .shiftRightEquals => ">>="
  | .shiftLeftEquals => "<<="
  | .ampersandEquals => "&="
  | .caretEquals => "^="
  | .barEquals => "|="
  | .yieldWord => "yield"
  | .ellipsis => "ellipsis"
  | .escapeSequence => "escape_sequence"
  | .typeConversion => "type_conversion"
  | .integerLiteral => "integer"
  | .floatLiteral => "float"
  | .awaitWord => "await"
  | .trueLiteral => "true"
  | .falseLiteral => "false"
  | .noneLiteral => "none"
  | .comment => "comment"
  | .lineContinuation => "line_continuation"
  | .stringStart => "string_start"
  | .escapeInterpolation => "escape_interpolation"
  | .stringEnd => "string_end"
  | .moduleNode => "module"
  | .importStatement => "import_statement"
  | .importPrefix => "import_prefix"
  | .relativeImport => "relative_import"
  | .futureImportStatement => "future_import_statement"
  | .importFromStatement => "import_from_statement"
  | .aliasedImport => "aliased_import"
  | .wildcardImport => "wildcard_import"
  | .printStatement => "print_statement"
  | .chevron => "chevron"
  | .assertStatement => "assert_statement"
  | .expressionStatement => "expression_statement"
  | .namedExpression => "named_expression"
  | .returnStatement => "return_statement"
  | .deleteStatement => "delete_statement"
  | .raiseStatement => "raise_statement"
  | .passStatement => "pass_statement"
  | .breakStatement => "break_statement"
  | .continueStatement => "continue_statement"
  | .ifStatement => "if_statement"
  | .elifClause => "elif_clause"
  | .elseClause => "else_clause"
  | .matchStatement => "match_statement"
  | .matchBlock => "block"
  | .caseClause => "case_clause"
  | .forStatement => "for_statement"
  | .whileStatement => "while_statement"
  | .tryStatement => "try_statement"
  | .exceptClause => "except_clause"
  | .exceptGroupClause => "except_group_clause"
  | .finallyClause => "finally_clause"
  | .withStatement => "with_statement"
  | .withClause => "with_clause"
  | .withItem => "with_item"
  | .functionDefinition => "function_definition"
  | .parameters => "parameters"
  | .lambdaParameters => "lambda_parameters"
  | .listSplat => "list_splat"
  | .dictionarySplat => "dictionary_splat"
  | .globalStatement => "global_statement"
  | .nonlocalStatement => "nonlocal_statement"
  | .execStatement => "exec_statement"
  | .typeAliasStatement => "type_alias_statement"
  | .classDefinition => "class_definition"
  | .typeParameter => "type_parameter"
  | .parenthesizedListSplat => "parenthesized_list_splat"
  | .argumentList => "argument_list"
  | .decoratedDefinition => "decorated_definition"
  | .decorator => "decorator"
  | .block => "block"
  | .expressionList => "expression_list"
  | .dottedName => "dotted_name"
  | .casePattern => "case_pattern"
  | .caseAsPattern => "as_pattern"
  | .unionPattern => "union_pattern"
  | .caseListPattern => "list_pattern"
  | .caseTuplePattern => "tuple_pattern"
  | .dictPattern => "dict_pattern"
  | .keywordPattern => "keyword_pattern"
  | .splatPattern => "splat_pattern"
  | .classPattern => "class_pattern"
  | .complexPattern => "complex_pattern"
  | .tuplePattern => "tuple_pattern"
  | .listPattern => "list_pattern"
  | .defaultParameter => "default_parameter"
  | .typedDefaultParameter => "typed_default_parameter"
  | .listSplatPattern => "list_splat_pattern"
  | .dictionarySplatPattern => "dictionary_splat_pattern"
  | .asPattern => "as_pattern"
  | .notOperator => "not_operator"
  | .booleanOperator => "boolean_operator"
  | .binaryOperator => "binary_operator"
  | .unaryOperator => "unary_operator"
  | .comparisonOperator => "comparison_operator"
  | .lambdaExpression => "lambda"
  | .iterableLambda => "lambda"
  | .assignment => "assignment"
  | .augmentedAssignment => "augmented_assignment"
  | .patternList => "pattern_list"
  | .yieldExpression => "yield"
  | .attributeAccess => "attribute"
  | .subscript => "subscript"
  | .slice => "slice"
  | .call => "call"
  | .typedParameter => "typed_parameter"
  | .typeExpression => "type"
  | .splatType => "splat_type"
  | .genericType => "generic_type"
  | .unionType => "union_type"
  | .constrainedType => "constrained_type"
  | .memberType => "member_type"
  | .keywordArgument => "keyword_argument"
  | .listDisplay => "list"
  | .setDisplay => "set"
  | .tupleDisplay => "tuple"
  | .dictionaryDisplay => "dictionary"
  | .pair => "pair"
  | .listComprehension => "list_comprehension"
  | .dictionaryComprehension => "dictionary_comprehension"
  | .setComprehension => "set_comprehension"
  | .generatorExpression => "generator_expression"
  | .parenthesizedExpression => "parenthesized_expression"
  | .forInClause => "for_in_clause"
  | .ifClause => "if_clause"
  | .conditionalExpression => "conditional_expression"
  | .concatenatedString => "concatenated_string"
  | .stringLiteral => "string"
  | .stringContent => "string_content"
  | .interpolation => "interpolation"
  | .formatSpecifier => "format_specifier"
  | .awaitExpression => "await"
  | .positionalSeparator => "positional_separator"
  | .keywordSeparator => "keyword_separator"
  | .asPatternTarget => "as_pattern_target"
  | .formatExpression => "format_expression"
  | .notIn => "not in"
  | .isNot => "is not"
  | .error => "ERROR"
  | _ => ""

/-- Kinds that leave no node of their own: their children stand in their place. -/
def isHidden : Kind → Bool
  | .endOfInput | .loneBackslash | .formatText | .newline | .indent | .dedent | .stringText
    | .statement | .simpleStatements | .importList | .namedExpressionTarget | .simplePattern
    | .keyValuePattern | .parameterList | .patternSequence | .parameter | .pattern
    | .iterableExpression | .expression | .primaryExpression | .rightHandSide
    | .comprehensionClauses | .collectionElements | .interpolatedExpression | .statements
    | .moreSimpleStatements | .importDots | .moreImports | .morePrinted | .moreExpressions
    | .elifClauses | .moreSubjects | .caseClauses | .moreCasePatterns | .exceptClauses
    | .exceptGroupClauses | .moreWithItems | .moreIdentifiers | .moreTypes | .moreArguments
    | .decorators | .dottedTail | .unionTail | .moreDictPatterns | .moreParameters
    | .morePatterns | .comparisonTail | .moreSubscripts | .morePairs | .moreComprehensionClauses
    | .moreElements | .moreIterables | .moreStrings | .stringParts | .contentParts | .formatParts
    | .skipped => true
  | _ => false

/-- Tokens shown by their own text, such as `if` or `+`. -/
def isLiteral : Kind → Bool
  | .semicolon | .importWord | .dot | .fromWord | .futureWord | .openParen | .closeParen
    | .comma | .asWord | .star | .printWord | .shiftRight | .assertWord | .walrus | .returnWord
    | .delWord | .raiseWord | .passWord | .breakWord | .continueWord | .ifWord | .colon
    | .elifWord | .elseWord | .matchWord | .caseWord | .asyncWord | .forWord | .inWord
    | .whileWord | .tryWord | .exceptWord | .exceptStarWord | .finallyWord | .withWord | .defWord
    | .arrow | .doubleStar | .globalWord | .nonlocalWord | .execWord | .typeWord | .equals
    | .classWord | .openBracket | .closeBracket | .atSign | .minus | .underscore | .bar
    | .openBrace | .closeBrace | .plus | .notWord | .andWord | .orWord | .slash | .percent
    | .doubleSlash | .ampersand | .caret | .shiftLeft | .tilde | .less | .lessEqual | .equalEqual
    | .notEqual | .greaterEqual | .greater | .lessGreater | .isWord | .lambdaWord | .plusEquals
    | .minusEquals | .starEquals | .slashEquals | .atEquals | .doubleSlashEquals | .percentEquals
    | .doubleStarEquals | .shiftRightEquals | .shiftLeftEquals | .ampersandEquals | .caretEquals
    | .barEquals | .yieldWord | .awaitWord | .notIn | .isNot => true
  | _ => false

/-- Nodes with a name of their own. -/
def isNamed (k : Kind) : Bool :=
  !k.isHidden && !k.isLiteral

def isVisible (k : Kind) : Bool :=
  !k.isHidden

/-- Comments and joined lines may stand between any two tokens. -/
def isExtra : Kind → Bool
  | .comment | .lineContinuation => true
  | _ => false

/-- All tokens but the end of the input, in the order of the constructors. -/
def tokens : List Kind := [
  .identifier, .semicolon, .importWord, .dot, .fromWord, .futureWord, .openParen, .closeParen,
  .comma, .asWord, .star, .printWord, .shiftRight, .assertWord, .walrus, .returnWord, .delWord,
  .raiseWord, .passWord, .breakWord, .continueWord, .ifWord, .colon, .elifWord, .elseWord,
  .matchWord, .caseWord, .asyncWord, .forWord, .inWord, .whileWord, .tryWord, .exceptWord,
  .exceptStarWord, .finallyWord, .withWord, .defWord, .arrow, .doubleStar, .globalWord,
  .nonlocalWord, .execWord, .typeWord, .equals, .classWord, .openBracket, .closeBracket, .atSign,
  .minus, .underscore, .bar, .openBrace, .closeBrace, .plus, .notWord, .andWord, .orWord, .slash,
  .percent, .doubleSlash, .ampersand, .caret, .shiftLeft, .tilde, .less, .lessEqual, .equalEqual,
  .notEqual, .greaterEqual, .greater, .lessGreater, .isWord, .lambdaWord, .plusEquals,
  .minusEquals, .starEquals, .slashEquals, .atEquals, .doubleSlashEquals, .percentEquals,
  .doubleStarEquals, .shiftRightEquals, .shiftLeftEquals, .ampersandEquals, .caretEquals,
  .barEquals, .yieldWord, .ellipsis, .escapeSequence, .loneBackslash, .formatText,
  .typeConversion, .integerLiteral, .floatLiteral, .awaitWord, .trueLiteral, .falseLiteral,
  .noneLiteral, .comment, .lineContinuation, .newline, .indent, .dedent, .stringStart,
  .stringText, .escapeInterpolation, .stringEnd]

end Kind

/-- The places that a node gives a name to. -/
inductive Field where
  | alias | alternative | argument | arguments | attribute | body | cause | code | condition
  | consequence | definition | expression | formatSpecifier | function | guard | key | left
  | moduleName | name | object | operator | operators | parameters | returnType | right | subject
  | subscript | superclasses | type | typeConversion | typeParameters | value
deriving DecidableEq

end CodeAudit.Syntax
