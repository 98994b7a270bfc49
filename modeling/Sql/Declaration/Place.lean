/-
Places in a type, as far as they decide which signs belong together.

Types hold expressions, as the lengths of arrays and between braces, and expressions hold types again: where they
convert, where they declare variables, and between angle brackets.
-/
namespace Sql.Declaration

/-- What comes next at some place in a type. -/
inductive Place where
  /-- A type, or the head of a declaration. -/
  | type
  /-- The type of a variable, up to its value. -/
  | annotation
  /-- The type of a conversion, before its name. -/
  | cast
  /-- The type of a conversion, between two parts of its name. -/
  | castPart
  /-- The type of a conversion, after its name. -/
  | castName
  /-- The type of a conversion, after a pair of its brackets. -/
  | castEnd
  /-- What a declaration gives a value to. -/
  | pattern
  /-- An expression, at the beginning of a statement. A block there ends it. -/
  | statement
  /-- An expression, at its beginning or after an operator. -/
  | operand
  /-- An expression, after an operand. -/
  | operator
  /-- The arguments of a macro or an attribute. -/
  | verbatim
deriving DecidableEq, Repr

namespace Place

/-- The operators that signs can begin, a longer one before one that it begins with. -/
def operators : Place → List String
  | type | annotation | cast | castPart | pattern | statement | operand => ["::", "->", "=>", "..=", "...", ".."]
  | castName | castEnd | operator =>
    ["::", "->", "=>", "<<=", ">>=", "..=", "...", "..", "&&", "||", "<<", ">>", "==", "<=", "!=", ">=", "+=", "-=",
      "*=", "/=", "%=", "^=", "&=", "|="]
  | verbatim => []

/-- The operator that signs begin with. -/
def operatorOf (place : Place) (signs : List Char) : List Char :=
  match place.operators.find? fun text => text.toList.isPrefixOf signs with
  | some text => text.toList
  | none => signs.take 1

/-- How an operator is written out: three dots between operands are an old form of `..=`. -/
def written (place : Place) (operator : List Char) : List Char :=
  match place with
  | castName | castEnd | pattern | .operator => if operator = ['.', '.', '.'] then ['.', '.', '='] else operator
  | type | annotation | cast | castPart | statement | operand | verbatim => operator

/-- Whether `<` is a bracket, given the signs from it on. -/
def opensAngle (place : Place) (signs : List Char) : Bool :=
  match place with
  | type | annotation | cast | castPart | pattern | statement | operand => true
  | castName => !"<=".toList.isPrefixOf signs
  | castEnd | operator | verbatim => false

/-- The words before which no operand has ended. -/
def openWords : List String :=
  ["async", "break", "const", "else", "for", "if", "in", "loop", "match", "move", "mut", "pub", "ref", "return",
    "static", "unsafe", "while", "yield"]

/-- The words that stand before the name of a type. -/
def typeWords : List String :=
  ["const", "dyn", "extern", "fn", "for", "impl", "mut", "unsafe"]

/-- The words that begin declarations other than those of variables. -/
def headWords : List String :=
  ["enum", "extern", "fn", "impl", "mod", "struct", "trait", "type", "use"]

/-- The words that begin a statement that ends with its block. -/
def blockWords : List String :=
  ["const", "else", "for", "if", "loop", "match", "try", "unsafe", "while"]

/-- Whether an operand may begin, but nothing else. -/
def isOpen (place : Place) : Bool := place = operand || place = statement

def isLifetime (word : String) : Bool := word.toList.head? == some '\x27'

/-- What comes after a word; `isFollowed` tells whether the next lexeme is a word too. -/
def afterWord (place : Place) (word : String) (isFollowed : Bool) : Place :=
  match place with
  | type => type
  | annotation => annotation
  | verbatim => verbatim
  | cast | castPart =>
    if typeWords.contains word || isLifetime word then cast else if word = "_" then castEnd else castName
  | pattern => if headWords.contains word then type else pattern
  | castName | castEnd | statement | operand | operator =>
    if word = "as" ∨ (place = castEnd ∧ typeWords.contains word) then cast
    else if word = "let" ∨ (place.isOpen ∧ isFollowed ∧ (word = "const" ∨ word = "static")) then pattern
    else if headWords.contains word then type
    else if openWords.contains word then operand
    else operator

def afterLiteral : Place → Place
  | castName | castEnd | statement | operand | operator => operator
  | place => place

/-- What comes after a pair of round, square or curly brackets. -/
def afterBrackets : Place → Place
  | cast | castPart | castName => castEnd
  | castEnd | statement | operand | operator => operator
  | place => place

/-- What comes after a pair of angle brackets. -/
def afterAngle : Place → Place
  | castPart | castName => castEnd
  | statement | operand => operator
  | place => place

def afterOperator (place : Place) (operator : List Char) : Place :=
  let isValue := operator = ['='] ∨ operator = [';']
  match place with
  | type => type
  | verbatim => verbatim
  | annotation => if isValue then operand else annotation
  | pattern => if operator = [':'] then annotation else if isValue then operand else pattern
  | cast | castPart => if operator = ['!'] then castEnd else cast
  | castName | castEnd =>
    if operator = [':', ':'] then castPart else if operator = ['-', '>'] then cast else operand
  | statement | operand =>
    if operator = ['?'] then .operator else if operator = ['-', '>'] then cast else operand
  | .operator => if operator = ['?'] ∨ operator = ['!'] then .operator else operand

/-- What comes first within brackets. -/
def within (place : Place) (bracket : Char) : Place :=
  match place with
  | verbatim => verbatim
  | type | annotation | cast | castPart => if bracket = '\x7b' then statement else type
  | castName => if bracket = '(' then type else if bracket = '\x7b' then statement else operand
  | castEnd | pattern | statement | operand | operator => if bracket = '\x7b' then statement else operand

end Place

end Sql.Declaration
