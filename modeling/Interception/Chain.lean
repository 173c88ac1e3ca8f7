/-
Chains: registrations in the order in which they were made. Signatures are resolved
on entry, so a chain never holds an interceptor whose signatures do not resolve; a
refused interceptor leaves the chain as it was. Weaving wraps an object with every
registration in turn, so the last one registered is outermost.
-/

import Interception.Registration

namespace Interception

open Interception.Text

structure Chain (m : Type → Type) where
  registrations : List (Registration m)

namespace Chain

variable {m : Type → Type}

def empty : Chain m :=
  ⟨[]⟩

def push (chain : Chain m) (registration : Registration m) : Chain m :=
  ⟨chain.registrations ++ [registration]⟩

/-- Registers an interceptor. The answer is the chain as it is now, with the reason
when the interceptor was refused. -/
def add (chain : Chain m) (interceptor : Interceptor m) :
    Build (Chain m × Option SetupError) := do
  match ← Registration.register interceptor with
  | .error error => return (chain, some error)
  | .ok registration => return (chain.push registration, none)

/-- Applies settings to a draft, then registers the interceptor that results.
Signatures are not looked at when the settings are refused. -/
def addConfigured (chain : Chain m) (draft : Draft m) (settings : Settings) :
    Build (Chain m × Option SetupError) := do
  let attempt := draft.configure settings
  match attempt.refusal with
  | some error =>
      Log.emit (.misconfigured attempt.interceptor.name error)
      return (chain, some error)
  | none => chain.add attempt.interceptor

def weave (chain : Chain m) (object : Object m) : Build (Object m) :=
  chain.registrations.foldlM (fun current registration => registration.apply current) object

def size (chain : Chain m) : Nat :=
  chain.registrations.length

def isEmpty (chain : Chain m) : Bool :=
  chain.registrations.isEmpty

def interceptors (chain : Chain m) : List (Interceptor m) :=
  chain.registrations.map Registration.interceptor

def outline (chain : Chain m) : Outline :=
  .record "InterceptorChain" [("plugins", .list (chain.registrations.map Registration.outline))]

end Chain

end Interception
