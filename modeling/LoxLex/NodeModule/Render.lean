import LoxLex.NodeModule.Spec
import LoxLex.Unicode.Case

/-!
# LoxLex.NodeModule.Render — the Python module for a set of nodes

The module has a visitor class with one abstract method for each node, an abstract base class, and
a frozen data class for each node whose `accept` calls its method of the visitor. A field whose type
is the base is annotated in quotes, since the base is a name of the same module. The text ends in
one newline.
-/

namespace LoxLex.NodeModule

/-- The visitor method of a node. -/
def methodName (node base : String) : String :=
  "visit_" ++ Unicode.lower node ++ "_" ++ Unicode.lower base

/-- The type of a field as it is annotated. -/
def annotation (typeName base : String) : String :=
  if typeName = base then "'" ++ typeName ++ "'" else typeName

/-- A text in triple quotes. -/
def docText (text : String) : String := "\"\"\"" ++ text ++ "\"\"\""

/-- A line of code, at a depth of blocks. -/
def codeLine (depth : Nat) (text : String) : String :=
  String.ofList (List.replicate (4 * depth) ' ') ++ text ++ "\n"

/-- The method of a visitor for one node. -/
def visitorMethod (base node : String) : String :=
  "\n" ++ codeLine 1 "@abstractmethod" ++
    codeLine 1 ("def " ++ methodName node base ++ "(self, " ++ Unicode.lower base ++ ": '" ++ node ++
      "') -> Any:") ++
    codeLine 2 "pass"

/-- The visitor class. -/
def visitorClass (base : String) (nodes : List NodeSpec) : String :=
  codeLine 0 ("class " ++ base ++ "Visitor(ABC):") ++
    codeLine 1 (docText ("Visitor interface, one method per " ++ base ++ " node type.")) ++
    String.join (nodes.map fun node => visitorMethod base node.name) ++ "\n\n"

/-- The class that all nodes extend. -/
def baseClass (base : String) : String :=
  codeLine 0 ("class " ++ base ++ "(ABC):") ++
    codeLine 1 (docText ("Base class for all " ++ base ++ " nodes.")) ++
    "\n" ++ codeLine 1 "@abstractmethod" ++
    codeLine 1 ("def accept(self, visitor: " ++ base ++ "Visitor) -> Any:") ++
    codeLine 2 "pass" ++ "\n\n"

/-- The class of one node. -/
def nodeClass (base : String) (node : NodeSpec) : String :=
  codeLine 0 "@dataclass(frozen=True)" ++
    codeLine 0 ("class " ++ node.name ++ "(" ++ base ++ "):") ++
    String.join (node.fields.map fun field =>
      codeLine 1 (field.name ++ ": " ++ annotation field.typeName base)) ++
    "\n" ++ codeLine 1 ("def accept(self, visitor: " ++ base ++ "Visitor) -> Any:") ++
    codeLine 2 ("return visitor." ++ methodName node.name base ++ "(self)") ++ "\n\n"

/-- What stands above the classes. -/
def header (base : String) : String :=
  codeLine 0 (docText (base ++ " syntax tree nodes. Generated by generate_ast.py, do not edit.")) ++
    "\n" ++ codeLine 0 "from abc import ABC, abstractmethod" ++
    codeLine 0 "from dataclasses import dataclass" ++
    codeLine 0 "from typing import Any" ++
    "\n" ++ codeLine 0 "from pylox.lexer.tokens import Token" ++ "\n\n"

/-- The text with one newline at its end. -/
def endInNewline (s : String) : String :=
  String.ofList ((s.toList.reverse.dropWhile (· == '\n')).reverse ++ ['\n'])

/-- The module for nodes that have been read. -/
def render (base : String) (nodes : List NodeSpec) : String :=
  endInNewline (header base ++ visitorClass base nodes ++ baseClass base ++
    String.join (nodes.map (nodeClass base)))

/-- The module for described nodes; the first description that is wrong refuses it. -/
def ofSpecs (base : String) (specs : List String) : Except SpecError String :=
  (specs.mapM NodeSpec.parse).map (render base)

end LoxLex.NodeModule
