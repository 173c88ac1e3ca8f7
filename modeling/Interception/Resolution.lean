/-
Resolution: which capabilities of a type an interceptor applies to. They are the
ones declared directly at some level whose names are keys of the registry. What a
declared capability extends is not followed, although the type implements it.
-/

import Interception.Registry
import Interception.TypeTable

namespace Interception

/-- The declared capabilities that are keys, each name once, in the order of their
first declaration. -/
def TypeTable.resolve (table : TypeTable) (registry : Registry) : List Capability :=
  Capability.distinct (table.declared.filter registry.hasKey)

end Interception
