/-
Registrations: an interceptor with the registry of its signatures. The standard
wrap puts one layer around an object when the object's type declares a registered
capability, and gives the object back as it is otherwise. The new layer shows
exactly the capabilities that were found, under a name made from the object's type.
-/

import Interception.Interceptor
import Interception.Resolution

namespace Interception

open Interception.Text

def Registry.announce (registry : Registry) : Build Unit :=
  Log.emit (.registryBuilt registry.keys.length registry.size)

def Registry.build (signatures : List Signature) : Build (Except SetupError Registry) := do
  match Registry.ofSignatures signatures with
  | .error error => return .error error
  | .ok registry =>
      registry.announce
      return .ok registry

structure Registration (m : Type → Type) where
  interceptor : Interceptor m
  registry : Registry
  /-- The registry is the one of the interceptor's signatures. -/
  resolved : Registry.ofSignatures interceptor.signatures = .ok registry

namespace Registration

variable {m : Type → Type}

def ofInterceptor (interceptor : Interceptor m) : Except SetupError (Registration m) :=
  match resolved : Registry.ofSignatures interceptor.signatures with
  | .ok registry => .ok ⟨interceptor, registry, resolved⟩
  | .error error => .error error

def name (registration : Registration m) : String :=
  registration.interceptor.name

def announce (registration : Registration m) : Build Unit := do
  registration.registry.announce
  Log.emit (.registered registration.name registration.registry.size)

def register (interceptor : Interceptor m) : Build (Except SetupError (Registration m)) := do
  match ofInterceptor interceptor with
  | .error error => return .error error
  | .ok registration =>
      registration.announce
      return .ok registration

def proxyName (inner : String) : String :=
  "Proxy<" ++ inner ++ ">"

def layerTable (inner : TypeTable) (exposed : List Capability) : TypeTable :=
  (TypeTable.named (proxyName inner.name)).withInterfaces exposed

def layer (registration : Registration m) (serial : Nat) (inner : TypeTable)
    (exposed : List Capability) : Layer m where
  serial := serial
  handler := registration.interceptor.toHandler
  registry := registration.registry
  table := layerTable inner exposed
  resolved := registration.resolved

def wrap (registration : Registration m) (object : Object m) : Build (Object m) := do
  let exposed := object.table.resolve registration.registry
  if exposed.isEmpty then
    Log.emit (.inapplicable registration.name object.table.name)
    return object
  else
    Log.emit (.wrapping object.table.name registration.name (Capability.names exposed))
    let serial ← Build.fresh
    return .wrapped (registration.layer serial object.table exposed) object

def apply (registration : Registration m) (object : Object m) : Build (Object m) :=
  registration.interceptor.hook registration.wrap object

def outline (registration : Registration m) : Outline :=
  .record "Plugin"
    [("interceptor", .quotedWord registration.name),
     ("registry", registration.registry.outline)]

end Registration

/-- Registers an interceptor and wraps an object with it. A signature that does not
resolve fails before anything is wrapped. -/
def Interceptor.wrap {m : Type → Type} (interceptor : Interceptor m) (object : Object m) :
    Build (Except SetupError (Object m)) := do
  match ← Registration.register interceptor with
  | .error error => return .error error
  | .ok registration => return .ok (← registration.wrap object)

end Interception
