/-
Objects: a base target with layers around it. A layer holds an interceptor's
handler and the registry that its signatures resolve to. It exposes the
capabilities of its own type table. A call goes to the handler when the registry
has the method under its declaring capability and an exposed capability is, or
extends, that capability; every other call is passed on unchanged.
-/

import Interception.Call
import Interception.Notice
import Interception.Registry

namespace Interception

structure Handler (m : Type → Type) where
  name : String
  signatures : List Signature
  intercept : Invocation m → m Outcome

structure Layer (m : Type → Type) where
  serial : Nat
  handler : Handler m
  registry : Registry
  table : TypeTable
  resolved : Registry.ofSignatures handler.signatures = .ok registry

namespace Layer

variable {m : Type → Type}

def exposes (layer : Layer m) (method : Method) : Bool :=
  layer.table.interfaces.any (·.isNamed method.declaring)

def routes (layer : Layer m) (method : Method) : Bool :=
  layer.registry.intercepts method && layer.exposes method

def invoke [Monad m] [Log m] (layer : Layer m) (inner : Target m) (method : Method)
    (args : List Value) : m Outcome :=
  if layer.routes method then do
    Log.emit (.entered method layer.handler.name)
    layer.handler.intercept ⟨inner, method, args⟩
  else do
    Log.emit (.forwarded method inner.table.name)
    inner.invoke method args

def around [Monad m] [Log m] (layer : Layer m) (inner : Target m) : Target m where
  serial := layer.serial
  table := layer.table
  invoke := layer.invoke inner

end Layer

/-- A target with the layers that were put around it, outermost first. -/
inductive Object (m : Type → Type) where
  | base (target : Target m)
  | wrapped (layer : Layer m) (inner : Object m)

namespace Object

variable {m : Type → Type}

def serial : Object m → Nat
  | .base target => target.serial
  | .wrapped layer _ => layer.serial

def table : Object m → TypeTable
  | .base target => target.table
  | .wrapped layer _ => layer.table

def layers : Object m → List (Layer m)
  | .base _ => []
  | .wrapped layer inner => layer :: inner.layers

def core : Object m → Target m
  | .base target => target
  | .wrapped _ inner => inner.core

def target [Monad m] [Log m] : Object m → Target m
  | .base target => target
  | .wrapped layer inner => layer.around inner.target

def invoke [Monad m] [Log m] (object : Object m) (method : Method) (args : List Value) :
    m Outcome :=
  object.target.invoke method args

def same (left right : Object m) : Bool :=
  left.serial == right.serial

theorem target_serial [Monad m] [Log m] (object : Object m) :
    object.target.serial = object.serial := by
  cases object <;> rfl

theorem target_table [Monad m] [Log m] (object : Object m) :
    object.target.table = object.table := by
  cases object <;> rfl

end Object

end Interception
