/-!
# Version
-/

namespace PageComponent

def version : String := "0.1.0"

end PageComponent
