/-
Descriptions: capabilities, methods, type tables, signatures and registries as
values, for reports. Registries are described in the order of names, since the
order of their entries means nothing.
-/

import Interception.Registry
import Interception.TypeTable
import Interception.Value

namespace Interception

def sortedTexts (texts : List String) : List String :=
  texts.mergeSort (fun left right => decide (left ≤ right))

def Method.describe (method : Method) : Value :=
  .ofPairs
    [("declaring", .string method.declaring),
     ("name", .string method.name),
     ("params", .strings method.params),
     ("arity", .count method.arity),
     ("display", .string method.display)]

def Capability.describe (capability : Capability) : Value :=
  .ofPairs
    [("name", .string capability.name),
     ("extends", .strings (names capability.supers)),
     ("methods", .array (capability.methods.map Method.describe))]

def TypeTable.describe (table : TypeTable) : Value :=
  .ofPairs
    [("name", .string table.name),
     ("interfaces", .strings (Capability.names table.interfaces)),
     ("parent", (table.parent?.map (fun parent => Value.string parent.name)).getD .null),
     ("ancestors", .strings (table.levels.map TypeLevel.name))]

def Signature.describe (signature : Signature) : Value :=
  .ofPairs
    [("capability", .string signature.capability.name),
     ("method", .string signature.selector.name),
     ("args", .strings signature.selector.params)]

def describeMethods (methods : List Method) : Value :=
  .strings (sortedTexts (methods.map Method.display))

def RegistryEntry.describe (entry : RegistryEntry) : Value :=
  .ofPairs
    [("name", .string entry.key.name),
     ("extends", .strings (Capability.names entry.key.supers)),
     ("declared", .count entry.key.selectors.length),
     ("methods", describeMethods entry.methods)]

def Registry.describe (registry : Registry) : Value :=
  let entries := registry.entries.mergeSort
    (fun left right => decide (left.key.name ≤ right.key.name))
  .ofPairs
    [("len", .count registry.size),
     ("is_empty", .boolean registry.isEmpty),
     ("capabilities", .array (entries.map RegistryEntry.describe))]

end Interception
