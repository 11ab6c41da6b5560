/-!
# Highlighting categories

The closed set of classes in which an editor colours the parts of a PromQL query. Each category
has a tag, the name under which a highlighter knows it, and the name of the semantic token type
that stands for it in an editor protocol. A category's index is its place in `Category.all`, and
the legend of token types is listed in that order.
-/

namespace PromqlEditor

/-- What a part of a query is coloured as. -/
inductive Category where
  | comment
  | labelName
  | string
  | number
  | functionName
  /-- Aggregations such as `sum` and `topk`. -/
  | operatorKeyword
  /-- Words that group and match, such as `by`, `on` and `offset`. -/
  | modifier
  | logicOperator
  /-- Operators that compare, calculate or match labels. -/
  | operator
  /-- A sign in front of an expression. -/
  | arithmeticOperator
  | paren
  | squareBracket
  | brace
  /-- What the parser could not make sense of. -/
  | invalid
deriving DecidableEq, Repr

namespace Category

/-- All categories, in the order of the legend. -/
def all : List Category :=
  [.comment, .labelName, .string, .number, .functionName, .operatorKeyword, .modifier,
    .logicOperator, .operator, .arithmeticOperator, .paren, .squareBracket, .brace, .invalid]

/-- The name a highlighter knows the category by. -/
def tag : Category → String
  | .comment => "comment"
  | .labelName => "labelName"
  | .string => "string"
  | .number => "number"
  | .functionName => "functionName"
  | .operatorKeyword => "operatorKeyword"
  | .modifier => "modifier"
  | .logicOperator => "logicOperator"
  | .operator => "operator"
  | .arithmeticOperator => "arithmeticOperator"
  | .paren => "paren"
  | .squareBracket => "squareBracket"
  | .brace => "brace"
  | .invalid => "invalid"

/-- The category with a given tag, if there is one; the spelling counts. -/
def ofTag? (tag : String) : Option Category := all.find? (·.tag == tag)

/-- The semantic token type closest to the category: a standard one where there is one, and the
tag itself otherwise. -/
def tokenType : Category → String
  | .labelName => "property"
  | .functionName => "function"
  | .operatorKeyword => "keyword"
  | c => c.tag

/-- The place of the category in the legend. -/
def index (c : Category) : Nat := all.idxOf c

/-- The token types of all categories, in the order of the legend. -/
def legend : List String := all.map tokenType

/-- The index of a category is its place in the legend. -/
theorem getElem?_index (c : Category) : all[c.index]? = some c := by
  cases c <;> rfl

/-- A category is found by its own tag. -/
theorem ofTag?_tag (c : Category) : ofTag? c.tag = some c := by
  cases c <;> decide

end Category

end PromqlEditor
