import LoxLex.Text.Lines
import LoxLex.Text.Quoted
import LoxLex.Text.Utf8

/-!
# LoxLex.Files.Disk — opening files by path and reading text from them

A disk is known by what opening each path gives: bytes, or why the path does not open. Text files
are strict UTF-8 with any line ends. Paths and the texts that are read are texts of characters, so
no lone surrogate is in them (`LoxLex.Text.Loose`).
-/

namespace LoxLex

abbrev Bytes := List UInt8

/-- Why a path does not open. -/
inductive OpenCause where
  | notFound
  | isDirectory
  | notDirectory
  | nameTooLong
  | embeddedNul
deriving DecidableEq

/-- A path that does not open. -/
structure OpenError where
  path : String
  cause : OpenCause
deriving DecidableEq

/-- One sentence about a path, which is shown in quotes. -/
def OpenCause.message (shown : String) : OpenCause → String
  | .notFound => "[Errno 2] No such file or directory: " ++ shown
  | .isDirectory => "[Errno 21] Is a directory: " ++ shown
  | .notDirectory => "[Errno 20] Not a directory: " ++ shown
  | .nameTooLong => "[Errno 36] File name too long: " ++ shown
  | .embeddedNul => "embedded null byte"

def OpenError.message (e : OpenError) : String := e.cause.message (quoted e.path)

/-- Why a text file is not read. -/
inductive ReadError where
  | unopened (error : OpenError)
  | undecodable (fault : Utf8.Fault)
deriving DecidableEq

def ReadError.message : ReadError → String
  | .unopened error => error.message
  | .undecodable fault => fault.message

/-- What opening each path gives. -/
structure Disk where
  read : String → Except OpenError Bytes

/-- The text in bytes, each line end a newline. -/
def textOf (bytes : Bytes) : Except Utf8.Fault (List Char) := (Utf8.decode bytes).map Lines.unify

/-- The text of the file that a path leads to. -/
def Disk.readText (disk : Disk) (path : String) : Except ReadError (List Char) :=
  match disk.read path with
  | .error error => .error (.unopened error)
  | .ok bytes => (textOf bytes).mapError .undecodable

end LoxLex
