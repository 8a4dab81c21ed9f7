import CodeAudit.Syntax.Kind

/-! Which tokens are looked for together. -/
namespace CodeAudit.Syntax.Automaton

/-- The token modes. Keywords are looked for wherever an identifier is. -/
def tokenModes : List (List Kind) := [
  [.endOfInput, .identifier, .semicolon, .dot, .openParen, .closeParen, .comma, .star,
   .shiftRight, .walrus, .colon, .exceptWord, .exceptStarWord, .arrow, .doubleStar, .equals,
   .openBracket, .closeBracket, .atSign, .minus, .bar, .openBrace, .closeBrace, .plus, .slash,
   .percent, .doubleSlash, .ampersand, .caret, .shiftLeft, .tilde, .less, .lessEqual,
   .equalEqual, .notEqual, .greaterEqual, .greater, .lessGreater, .plusEquals, .minusEquals,
   .starEquals, .slashEquals, .atEquals, .doubleSlashEquals, .percentEquals, .doubleStarEquals,
   .shiftRightEquals, .shiftLeftEquals, .ampersandEquals, .caretEquals, .barEquals, .ellipsis,
   .escapeSequence, .loneBackslash, .typeConversion, .integerLiteral, .floatLiteral, .comment,
   .lineContinuation],
  [.endOfInput, .identifier, .semicolon, .openParen, .closeParen, .comma, .star, .colon, .equals,
   .openBracket, .closeBracket, .atSign, .minus, .bar, .openBrace, .closeBrace, .plus, .tilde,
   .less, .lessEqual, .equalEqual, .notEqual, .greaterEqual, .greater, .lessGreater, .ellipsis,
   .typeConversion, .integerLiteral, .floatLiteral, .comment, .lineContinuation],
  [.identifier, .semicolon, .dot, .openParen, .comma, .star, .shiftRight, .walrus, .colon,
   .doubleStar, .equals, .openBracket, .atSign, .minus, .bar, .openBrace, .plus, .slash,
   .percent, .doubleSlash, .ampersand, .caret, .shiftLeft, .tilde, .less, .lessEqual,
   .equalEqual, .notEqual, .greaterEqual, .greater, .lessGreater, .plusEquals, .minusEquals,
   .starEquals, .slashEquals, .atEquals, .doubleSlashEquals, .percentEquals, .doubleStarEquals,
   .shiftRightEquals, .shiftLeftEquals, .ampersandEquals, .caretEquals, .barEquals, .ellipsis,
   .integerLiteral, .floatLiteral, .comment, .lineContinuation],
  [.identifier, .semicolon, .dot, .openParen, .closeParen, .comma, .star, .shiftRight, .walrus,
   .colon, .doubleStar, .equals, .openBracket, .closeBracket, .atSign, .minus, .bar, .openBrace,
   .closeBrace, .plus, .slash, .percent, .doubleSlash, .ampersand, .caret, .shiftLeft, .tilde,
   .less, .lessEqual, .equalEqual, .notEqual, .greaterEqual, .greater, .lessGreater, .ellipsis,
   .typeConversion, .integerLiteral, .floatLiteral, .comment, .lineContinuation],
  [.identifier, .semicolon, .dot, .openParen, .comma, .star, .shiftRight, .colon, .doubleStar,
   .equals, .openBracket, .atSign, .minus, .bar, .openBrace, .plus, .slash, .percent,
   .doubleSlash, .ampersand, .caret, .shiftLeft, .tilde, .less, .lessEqual, .equalEqual,
   .notEqual, .greaterEqual, .greater, .lessGreater, .plusEquals, .minusEquals, .starEquals,
   .slashEquals, .atEquals, .doubleSlashEquals, .percentEquals, .doubleStarEquals,
   .shiftRightEquals, .shiftLeftEquals, .ampersandEquals, .caretEquals, .barEquals, .ellipsis,
   .integerLiteral, .floatLiteral, .comment, .lineContinuation],
  [.identifier, .semicolon, .dot, .openParen, .closeParen, .comma, .star, .shiftRight, .colon,
   .doubleStar, .equals, .openBracket, .closeBracket, .atSign, .minus, .bar, .openBrace,
   .closeBrace, .plus, .slash, .percent, .doubleSlash, .ampersand, .caret, .shiftLeft, .tilde,
   .less, .lessEqual, .equalEqual, .notEqual, .greaterEqual, .greater, .lessGreater, .ellipsis,
   .typeConversion, .integerLiteral, .floatLiteral, .comment, .lineContinuation],
  [.identifier, .semicolon, .openParen, .star, .colon, .equals, .openBracket, .minus, .openBrace,
   .plus, .tilde, .plusEquals, .minusEquals, .starEquals, .slashEquals, .atEquals,
   .doubleSlashEquals, .percentEquals, .doubleStarEquals, .shiftRightEquals, .shiftLeftEquals,
   .ampersandEquals, .caretEquals, .barEquals, .ellipsis, .integerLiteral, .floatLiteral,
   .comment, .lineContinuation],
  [.identifier, .semicolon, .dot, .openParen, .closeParen, .comma, .star, .shiftRight, .walrus,
   .colon, .doubleStar, .equals, .openBracket, .closeBracket, .atSign, .minus, .bar, .closeBrace,
   .plus, .slash, .percent, .doubleSlash, .ampersand, .caret, .shiftLeft, .less, .lessEqual,
   .equalEqual, .notEqual, .greaterEqual, .greater, .lessGreater, .plusEquals, .minusEquals,
   .starEquals, .slashEquals, .atEquals, .doubleSlashEquals, .percentEquals, .doubleStarEquals,
   .shiftRightEquals, .shiftLeftEquals, .ampersandEquals, .caretEquals, .barEquals, .comment,
   .lineContinuation],
  [.endOfInput, .identifier, .openParen, .star, .exceptWord, .openBracket, .atSign, .minus,
   .openBrace, .plus, .tilde, .ellipsis, .integerLiteral, .floatLiteral, .comment,
   .lineContinuation],
  [.endOfInput, .identifier, .openParen, .star, .exceptStarWord, .openBracket, .atSign, .minus,
   .openBrace, .plus, .tilde, .ellipsis, .integerLiteral, .floatLiteral, .comment,
   .lineContinuation],
  [.identifier, .semicolon, .dot, .openParen, .closeParen, .comma, .star, .shiftRight, .colon,
   .doubleStar, .equals, .openBracket, .closeBracket, .atSign, .minus, .bar, .plus, .slash,
   .percent, .doubleSlash, .ampersand, .caret, .shiftLeft, .less, .lessEqual, .equalEqual,
   .notEqual, .greaterEqual, .greater, .lessGreater, .plusEquals, .minusEquals, .starEquals,
   .slashEquals, .atEquals, .doubleSlashEquals, .percentEquals, .doubleStarEquals,
   .shiftRightEquals, .shiftLeftEquals, .ampersandEquals, .caretEquals, .barEquals, .comment,
   .lineContinuation],
  [.identifier, .semicolon, .dot, .openParen, .closeParen, .comma, .star, .shiftRight, .colon,
   .doubleStar, .equals, .openBracket, .closeBracket, .atSign, .minus, .bar, .closeBrace, .plus,
   .slash, .percent, .doubleSlash, .ampersand, .caret, .shiftLeft, .less, .lessEqual,
   .equalEqual, .notEqual, .greaterEqual, .greater, .lessGreater, .typeConversion, .comment,
   .lineContinuation],
  [.identifier, .semicolon, .dot, .openParen, .closeParen, .comma, .star, .shiftRight, .walrus,
   .colon, .doubleStar, .equals, .openBracket, .closeBracket, .atSign, .minus, .bar, .closeBrace,
   .plus, .slash, .percent, .doubleSlash, .ampersand, .caret, .shiftLeft, .less, .lessEqual,
   .equalEqual, .notEqual, .greaterEqual, .greater, .lessGreater, .typeConversion, .comment,
   .lineContinuation],
  [.identifier, .colon, .exceptWord, .exceptStarWord, .arrow, .comment, .lineContinuation],
  [.openBrace, .closeBrace, .formatText, .comment, .lineContinuation]]

/-- The layout modes: the layout tokens and closing brackets that are welcome. -/
def layoutModes : List (List Kind) := [
  [],
  [.newline, .indent, .dedent, .stringStart, .stringText, .escapeInterpolation, .stringEnd, .closeBracket, .closeParen, .closeBrace],
  [.stringStart],
  [.dedent, .stringStart],
  [.newline, .stringStart],
  [.newline, .indent, .stringStart],
  [.stringStart, .closeBrace],
  [.stringStart, .closeParen],
  [.stringStart, .closeBracket],
  [.newline],
  [.closeBrace],
  [.closeParen],
  [],
  [.closeBracket],
  [.stringText, .escapeInterpolation, .stringEnd],
  [.dedent],
  [.newline, .indent]]

end CodeAudit.Syntax.Automaton
