import LoxLex.Text.Quoted
import LoxLex.Text.Split
import LoxLex.Unicode.Identifier

/-!
# LoxLex.NodeModule.Spec — compact descriptions of syntax tree nodes

A description is the name of a node, a colon, and its fields separated by commas; a field is a type
and a name with white space between them. All names are identifiers, and white space around any
part is free. There is at least one field.
-/

namespace LoxLex

/-- A field of a node. -/
structure Field where
  typeName : String
  name : String
deriving DecidableEq

/-- A node with its fields, in order. -/
structure NodeSpec where
  name : String
  fields : List Field
deriving DecidableEq

/-- What is wrong with a description. -/
inductive SpecError where
  | shape (spec : String)
  | nodeName (name : String)
  | field (text node : String)
deriving DecidableEq

def SpecError.message : SpecError → String
  | .shape spec => "Expected 'Name : Type field, ...', got " ++ quoted spec
  | .nodeName name => "Invalid node name " ++ quoted name
  | .field text node => "Invalid field " ++ quoted text ++ " in " ++ node

namespace Field

/-- The field of a node that a text describes: two names. -/
def parse (node : String) (cs : List Char) : Except SpecError Field :=
  match Split.words cs with
  | [typeName, name] =>
    if Unicode.isIdentifier typeName && Unicode.isIdentifier name then
      .ok ⟨String.ofList typeName, String.ofList name⟩
    else .error (.field (String.ofList (Split.trim cs)) node)
  | _ => .error (.field (String.ofList (Split.trim cs)) node)

end Field

namespace NodeSpec

/-- The node that a text describes. -/
def parse (spec : String) : Except SpecError NodeSpec :=
  match Split.pieces ':' spec.toList with
  | [nodePart, fieldPart] =>
    let name := Split.trim nodePart
    if Unicode.isIdentifier name then
      let node := String.ofList name
      ((Split.pieces ',' fieldPart).mapM (Field.parse node)).map fun fields => ⟨node, fields⟩
    else .error (.nodeName (String.ofList name))
  | _ => .error (.shape spec)

/-- The nodes of expressions. -/
def expressions : List String :=
  ["Binary   : Expr left, Token operator, Expr right",
   "Grouping : Expr expression",
   "Literal  : Any value",
   "Unary    : Token operator, Expr right"]

end NodeSpec

end LoxLex
