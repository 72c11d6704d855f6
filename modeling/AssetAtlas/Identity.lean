/-!
How the program names itself, to the store and to the user.
-/

namespace AssetAtlas

def programName : String := "asset-graph"

def programVersion : String := "0.1.0"

end AssetAtlas
