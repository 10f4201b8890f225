import LoxLex.Files.Tree
import LoxLex.NodeModule.Render
import LoxLex.Reporter
import LoxLex.Text.Loose

/-!
# LoxLex.NodeModule.Write — writing the module to a directory

The file is named for the base, in lower case. The whole text is made before the file is opened, so
a wrong description leaves every file as it was. Opening the file empties it, and what is written then
has to be a text of characters. The directory and the base may hold surrogates; a base that does may
well name a file, and this file is left empty. Descriptions are texts of characters: no name and no
white space holds a surrogate, so one that does is wrong like any other.
-/

namespace LoxLex.NodeModule

/-- Why a module is not written. -/
inductive WriteError where
  | spec (error : SpecError)
  | unopened (path : LooseText) (cause : OpenCause)
  | unencodable (fault : EncodeFault)
deriving DecidableEq

def WriteError.message : WriteError → String
  | .spec error => error.message
  | .unopened path cause => cause.message path.quoted
  | .unencodable fault => fault.message

/-- A path and a name below it. A name that starts at the root stands alone. -/
def joinPath (directory name : LooseText) : LooseText :=
  if name.beginsWith '/' then name
  else if directory = "" || directory.endsWith '/' then directory ++ name
  else directory ++ "/" ++ name

/-- The path of the module for a base. -/
def path (directory base : LooseText) : LooseText := joinPath directory (base.lower ++ ".py")

/-- The bytes of the module for nodes. Its text begins with three quotes and the base, so the first
surrogates in the text are those of the base there. -/
def encoded (base : LooseText) (nodes : List NodeSpec) : Except EncodeFault Bytes :=
  (base.characters 3).map fun base => Utf8.encode (render base nodes).toList

/-- Writes the module for described nodes; the path of its file, and the files after it. -/
def write (directory base : LooseText) (specs : List String) (files : FileTree) :
    Except WriteError LooseText × FileTree :=
  match specs.mapM NodeSpec.parse with
  | .error e => (.error (.spec e), files)
  | .ok nodes =>
    let path := path directory base
    match path.encodeName 0 with
    | .error fault => (.error (.unencodable fault), files)
    | .ok name => match files.openToWrite ⟨name⟩ with
      | .error cause => (.error (.unopened path cause), files)
      | .ok (place, opened) => match encoded base nodes with
        | .error fault => (.error (.unencodable fault), opened)
        | .ok bytes => (.ok path, opened.put place (.file bytes))

/-- Exit status: there is not exactly one argument. -/
def usageStatus : Nat := 64

/-- Says where the module is, if its path is a text of characters. It stands behind six of them. -/
def announce (path : LooseText) : Except EncodeFault (Nat × Transcript) :=
  (path.characters 6).map fun path => (0, [(.output, "Wrote " ++ path ++ "\n")])

/-- Runs the writer for the nodes of expressions: status, texts, and the files after it. -/
def execute (arguments : List LooseText) (files : FileTree) :
    Except WriteError (Nat × Transcript) × FileTree :=
  match arguments with
  | [directory] => match write directory "Expr" NodeSpec.expressions files with
    | (.error e, files) => (.error e, files)
    | (.ok path, files) => ((announce path).mapError .unencodable, files)
  | _ => (.ok (usageStatus, [(.errors, "Usage: generate_ast <output_dir>\n")]), files)

end LoxLex.NodeModule
