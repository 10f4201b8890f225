/-!
# LoxLex.About — what the program says of itself
-/

namespace LoxLex.About

def program : String := "pylox"

def version : String := "0.1.0"

/-- What the program does, in one line. -/
def purpose : String := "Scan Lox source code and print its tokens"

end LoxLex.About
