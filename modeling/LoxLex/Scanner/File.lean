import LoxLex.Files.Disk
import LoxLex.Scanner.Scan

/-!
# LoxLex.Scanner.File — the source in a file

A file is scanned as its text is, under its path for a name. One that cannot be read is not scanned.
-/

namespace LoxLex

/-- The scanner after a scan of the file that a path leads to. -/
def Scanner.scannedFile (disk : Disk) (path : String) (listener : Option Listener) :
    Except ReadError Scanner :=
  (disk.readText path).map fun source => Scanner.scanned source path listener

/-- The tokens and diagnostics of the file that a path leads to. -/
def scanFile (disk : Disk) (path : String) : Except ReadError ScanResult :=
  (Scanner.scannedFile disk path none).map Scanner.result

end LoxLex
