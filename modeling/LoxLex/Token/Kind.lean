/-!
# LoxLex.Token.Kind — kinds of tokens and the tables that spell them

Punctuation, operators of one or two characters, literals, reserved words and the end of input. A
reserved word is one by its exact spelling; all other words are identifiers.
-/

namespace LoxLex

/-- What a token is. The order is that of the categories above. -/
inductive TokenKind where
  | leftParen | rightParen | leftBrace | rightBrace | comma | dot | minus | plus | semicolon
  | slash | star | bang | bangEqual | equal | equalEqual | greater | greaterEqual | less
  | lessEqual | identifier | string | number | andWord | classWord | elseWord | falseWord
  | funWord | forWord | ifWord | nilWord | orWord | printWord | returnWord | superWord | thisWord
  | trueWord | varWord | whileWord | endOfInput
deriving DecidableEq

namespace TokenKind

/-- Every kind, in order. -/
def all : List TokenKind :=
  [.leftParen, .rightParen, .leftBrace, .rightBrace, .comma, .dot, .minus, .plus, .semicolon,
   .slash, .star, .bang, .bangEqual, .equal, .equalEqual, .greater, .greaterEqual, .less,
   .lessEqual, .identifier, .string, .number, .andWord, .classWord, .elseWord, .falseWord,
   .funWord, .forWord, .ifWord, .nilWord, .orWord, .printWord, .returnWord, .superWord, .thisWord,
   .trueWord, .varWord, .whileWord, .endOfInput]

/-- The name of a kind in listings. -/
def name : TokenKind → String
  | .leftParen => "LEFT_PAREN"
  | .rightParen => "RIGHT_PAREN"
  | .leftBrace => "LEFT_BRACE"
  | .rightBrace => "RIGHT_BRACE"
  | .comma => "COMMA"
  | .dot => "DOT"
  | .minus => "MINUS"
  | .plus => "PLUS"
  | .semicolon => "SEMICOLON"
  | .slash => "SLASH"
  | .star => "STAR"
  | .bang => "BANG"
  | .bangEqual => "BANG_EQUAL"
  | .equal => "EQUAL"
  | .equalEqual => "EQUAL_EQUAL"
  | .greater => "GREATER"
  | .greaterEqual => "GREATER_EQUAL"
  | .less => "LESS"
  | .lessEqual => "LESS_EQUAL"
  | .identifier => "IDENTIFIER"
  | .string => "STRING"
  | .number => "NUMBER"
  | .andWord => "AND"
  | .classWord => "CLASS"
  | .elseWord => "ELSE"
  | .falseWord => "FALSE"
  | .funWord => "FUN"
  | .forWord => "FOR"
  | .ifWord => "IF"
  | .nilWord => "NIL"
  | .orWord => "OR"
  | .printWord => "PRINT"
  | .returnWord => "RETURN"
  | .superWord => "SUPER"
  | .thisWord => "THIS"
  | .trueWord => "TRUE"
  | .varWord => "VAR"
  | .whileWord => "WHILE"
  | .endOfInput => "EOF"

/-- The kind of a name. -/
def ofName? (s : String) : Option TokenKind := all.find? (·.name = s)

/-- The place of a kind in the order, from one. -/
def index (k : TokenKind) : Nat := k.ctorIdx + 1

/-- Characters that are tokens by themselves. -/
def punctuation : List (Char × TokenKind) :=
  [('(', .leftParen), (')', .rightParen), ('{', .leftBrace), ('}', .rightBrace), (',', .comma),
   ('.', .dot), ('-', .minus), ('+', .plus), (';', .semicolon), ('*', .star)]

/-- Characters that are operators alone or with an equals sign after them: the kind of each. -/
def operators : List (Char × TokenKind × TokenKind) :=
  [('!', .bang, .bangEqual), ('=', .equal, .equalEqual), ('<', .less, .lessEqual),
   ('>', .greater, .greaterEqual)]

/-- The reserved words. -/
def keywords : List (String × TokenKind) :=
  [("and", .andWord), ("class", .classWord), ("else", .elseWord), ("false", .falseWord),
   ("for", .forWord), ("fun", .funWord), ("if", .ifWord), ("nil", .nilWord), ("or", .orWord),
   ("print", .printWord), ("return", .returnWord), ("super", .superWord), ("this", .thisWord),
   ("true", .trueWord), ("var", .varWord), ("while", .whileWord)]

/-- The kind of a word. -/
def ofWord (s : String) : TokenKind := (keywords.lookup s).getD .identifier

/-- Does a token of this kind carry a literal? -/
def isLiteral (k : TokenKind) : Bool := k = .string || k = .number

/-- Is this the kind of a reserved word? -/
def isKeyword (k : TokenKind) : Bool := keywords.any (·.2 = k)

theorem mem_all (k : TokenKind) : k ∈ all := by cases k <;> decide

theorem name_injective {j k : TokenKind} (h : j.name = k.name) : j = k := by
  have hj := mem_all j
  have hk := mem_all k
  have table : ∀ j ∈ all, ∀ k ∈ all, j.name = k.name → j = k := by decide
  exact table j hj k hk h

end TokenKind

end LoxLex
