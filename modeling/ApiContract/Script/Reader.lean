import ApiContract.Script.Program
import ApiContract.Script.Recovery

/-!
The parser that runs where no other is given. A program of the part of the language that is read
exactly gets its whole tree; of any other code the declarations are recovered.
-/

set_option autoImplicit false

namespace ApiContract.Script

def programNodes (code : List Char) : List Node :=
  let ts := tokens code
  (parseProgram? (8 * ts.length + 8) (itemsOf ts)).getD (recoveredNodes ts)

def readSource (source : List Char) : Node :=
  let (gap, code) := cutGap .blanks source
  programNode source (commentNodes gap code.length ++ programNodes code)

instance : Parser := ⟨fun source => readSource source.toList⟩

end ApiContract.Script
