import AssetAtlas.Loading.Loader

/-!
How notices appear on an error stream that is no screen: one line each, without colours, and without
the bar that shows progress on a screen.
-/

namespace AssetAtlas

def warningText (message : String) : String :=
  "⚠️  Warning: " ++ message ++ "\n"

/-- What a notice writes. When quiet, only warnings and errors are written. -/
def Notice.written (quiet : Bool) : Notice → String
  | .report text | .completion text => if quiet then "" else text ++ "\n"
  | .warning text => warningText text
  | .error text => text ++ "\n"
  | .progress _ _ _ => ""

end AssetAtlas
