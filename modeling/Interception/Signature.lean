/-
Signatures: an interceptor names each method it wants by a capability and a
selector. Resolving a signature finds the method through that capability. A blank
name is refused before any lookup, even when the capability declares it.
-/

import Interception.Capability
import Interception.SetupError
import Interception.Text.Blank

namespace Interception

open Interception.Text

structure Signature where
  capability : Capability
  selector : Selector

namespace Signature

/-- Signatures agree when their selectors do and their capabilities have one name. -/
instance : BEq Signature :=
  ⟨fun left right => left.capability == right.capability && left.selector == right.selector⟩

def resolve (signature : Signature) : Except SetupError Method :=
  if isBlank signature.selector.name then .error (.blankName signature.capability.name)
  else
    match signature.capability.method? signature.selector with
    | some method => .ok method
    | none => .error (.unresolved signature.capability.name signature.selector)

theorem resolve_eq_ok_iff (signature : Signature) {method : Method} :
    signature.resolve = .ok method ↔
      isBlank signature.selector.name = false ∧
        signature.capability.method? signature.selector = some method := by
  unfold resolve
  cases isBlank signature.selector.name with
  | true => simp
  | false =>
      cases signature.capability.method? signature.selector with
      | none => simp
      | some found => simp

def outline (signature : Signature) : Outline :=
  .record "Signature"
    [("capability", signature.capability.outline),
     ("method", .quotedWord signature.selector.name),
     ("args", .quotedList signature.selector.params)]

end Signature

end Interception
