/-
Registries: the methods that an interceptor wants, grouped by the capability that
each signature names. A key is kept as it arrived first. A method is routed when it
stands under the capability that declares it; one that was found through an
extending capability stands under that one instead and is not.
-/

import Interception.Signature

namespace Interception

open Interception.Text

structure RegistryEntry where
  key : Capability
  methods : List Method

/-- Entries in the order of the first signature for each key. -/
structure Registry where
  entries : List RegistryEntry

namespace Registry

instance : Inhabited Registry := ⟨⟨[]⟩⟩

def empty : Registry :=
  ⟨[]⟩

/-- Puts a method under a key; an equal method is not put there twice. -/
def insertEntry (key : Capability) (method : Method) : List RegistryEntry → List RegistryEntry
  | [] => [⟨key, [method]⟩]
  | entry :: rest =>
      if entry.key == key then
        if method ∈ entry.methods then entry :: rest
        else ⟨entry.key, entry.methods ++ [method]⟩ :: rest
      else entry :: insertEntry key method rest

def insert (registry : Registry) (key : Capability) (method : Method) : Registry :=
  ⟨insertEntry key method registry.entries⟩

def add (registry : Registry) (signature : Signature) : Except SetupError Registry :=
  signature.resolve.map (registry.insert signature.capability)

/-- Resolves signatures in order; the first that fails decides. -/
def ofSignatures (signatures : List Signature) : Except SetupError Registry :=
  signatures.foldlM add empty

def entry? (registry : Registry) (name : String) : Option RegistryEntry :=
  registry.entries.find? (fun entry => entry.key.name == name)

def methods? (registry : Registry) (capability : Capability) : Option (List Method) :=
  (registry.entry? capability.name).map RegistryEntry.methods

def hasKey (registry : Registry) (capability : Capability) : Bool :=
  (registry.entry? capability.name).isSome

/-- Whether a call of a method goes to the interceptor: the method stands under
the capability that declares it. -/
def intercepts (registry : Registry) (method : Method) : Bool :=
  (registry.entry? method.declaring).any (fun entry => entry.methods.contains method)

def keys (registry : Registry) : List Capability :=
  registry.entries.map RegistryEntry.key

def size (registry : Registry) : Nat :=
  registry.entries.foldl (fun total entry => total + entry.methods.length) 0

def isEmpty (registry : Registry) : Bool :=
  registry.size == 0

def outline (registry : Registry) : Outline :=
  .table (registry.entries.map (fun entry =>
    (quoted entry.key.name, .word (toString entry.methods.length))))

end Registry

end Interception
