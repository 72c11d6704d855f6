import AssetAtlas.Console.Presentation
import AssetAtlas.Instant
import AssetAtlas.Store.Client

/-!
What surrounds the program. The program asks for everything it needs of the machine here, and so it
can be run on any surroundings that answer, real ones or such as are a value.
-/

namespace AssetAtlas

/-- The surroundings of the program. -/
structure Shell (m : Type → Type) where
  files : FileSystem m
  console : Console m
  send : Request → m Exchange
  now : m Instant

/-- Why the program gives up: the fault and what it was caused by. -/
structure Failure where
  message : String
  causes : List String := []
deriving DecidableEq, Repr

namespace Failure

def ofFault (f : Fault) : Failure :=
  { message := f.message }

def text (f : Failure) : String :=
  s!"\n❌ An error occurred:\n\n{f.message}\n"
    ++ String.join (f.causes.map fun cause => s!"\nCaused by: {cause}\n") ++ "\n"

end Failure

end AssetAtlas
