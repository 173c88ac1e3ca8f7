/-
What layers may claim to implement. A layer declares capabilities that the type inside
it declares somewhere, by the same handles, so what a layer implements is implemented
by everything inside it. A routed call therefore belongs to a capability that every
object on the way in implements, the base target included.
-/

import Interception.Proofs.Stack.Layered
import Interception.Proofs.Wrap.Routing

namespace Interception

variable {m : Type → Type}

theorem TypeTable.implements_of_no_parent {table : TypeTable} (root : table.above = [])
    (capability : Capability) :
    table.implements capability = table.interfaces.any (·.isNamed capability.name) := by
  have declared : table.declared = table.interfaces := by
    simp [TypeTable.declared, TypeTable.levels, TypeTable.interfaces, root]
  unfold TypeTable.implements
  rw [declared]
  rfl

namespace Object

theorem Layered.exposes_eq_implements {layer : Layer m} {inner : Object m}
    (layered : (Object.wrapped layer inner).Layered) (method : Method) {capability : Capability}
    (declares : capability.name = method.declaring) :
    layer.exposes method = layer.table.implements capability := by
  have root : layer.table.above = [] := congrArg TypeTable.above layered.1
  rw [TypeTable.implements_of_no_parent root, declares]
  rfl

/-- One step inward: what a layer implements, the type inside it implements. -/
theorem Layered.implements_inner {layer : Layer m} {inner : Object m}
    (layered : (Object.wrapped layer inner).Layered) {capability : Capability}
    (implemented : layer.table.implements capability = true) :
    inner.table.implements capability = true := by
  rw [layered.1, TypeTable.implements_of_no_parent rfl, List.any_eq_true] at implemented
  obtain ⟨found, member, named⟩ := implemented
  exact (TypeTable.implements_iff _ _).mpr
    ⟨found, TypeTable.mem_declared_of_mem_resolve member, named⟩

theorem Layered.implements_parts {object part : Object m} (layered : object.Layered)
    {capability : Capability} (implemented : object.table.implements capability = true)
    (member : part ∈ object.parts) : part.table.implements capability = true := by
  induction object with
  | base target =>
      cases List.mem_singleton.mp member
      exact implemented
  | wrapped layer inner ih =>
      rcases List.mem_cons.mp member with same | deeper
      · exact same ▸ implemented
      · exact ih layered.2.2 (layered.implements_inner implemented) deeper

theorem Layered.implements_inside {layer : Layer m} {inner deeper : Object m}
    (layered : (Object.wrapped layer inner).Layered) {capability : Capability}
    (implemented : layer.table.implements capability = true) (member : deeper ∈ inner.parts) :
    deeper.table.implements capability = true :=
  layered.2.2.implements_parts (layered.implements_inner implemented) member

end Object

theorem Layer.signature_of_routes {layer : Layer m} {method : Method}
    (routed : layer.routes method = true) :
    ∃ signature ∈ layer.handler.signatures,
      signature.capability.name = method.declaring ∧ signature.resolve = .ok method := by
  have intercepted : layer.registry.intercepts method = true :=
    (Bool.and_eq_true_iff.mp routed).1
  exact (Registry.intercepts_iff_of_ofSignatures layer.resolved method).mp intercepted

namespace Object

/-- Any layer of any object that standard wraps build from a target. It hands a call to
its handler only if some signature of the handler names the capability that declares the
method and resolves to the method, and then every type further in, the target's
included, implements that capability. In general its type implements nothing that the
types further in do not, and it exposes a method exactly when its type implements the
capability that declares it. -/
theorem BuiltFrom.routes_sound [Monad m] [Log m] {target : Target m} {object : Object m}
    (built : BuiltFrom target object) {layer : Layer m} {inner : Object m}
    (part : Object.wrapped layer inner ∈ object.parts) (method : Method) :
    (∀ args, (Object.wrapped layer inner).invoke method args =
      if layer.routes method then (do
        Log.emit (.entered method layer.handler.name)
        layer.handler.intercept ⟨inner.target, method, args⟩)
      else (do
        Log.emit (.forwarded method inner.table.name)
        inner.invoke method args)) ∧
    (layer.routes method = true →
      (∃ signature ∈ layer.handler.signatures,
        signature.capability.name = method.declaring ∧ signature.resolve = .ok method) ∧
      (∀ deeper ∈ inner.parts, ∀ capability : Capability, capability.name = method.declaring →
        deeper.table.implements capability = true)) ∧
    .base target ∈ inner.parts ∧
    (∀ capability, layer.table.implements capability = true →
      ∀ deeper ∈ inner.parts, deeper.table.implements capability = true) ∧
    (∀ capability : Capability, capability.name = method.declaring →
      layer.exposes method = layer.table.implements capability) := by
  have layered : (Object.wrapped layer inner).Layered := built.layered.of_mem_parts part
  refine ⟨?_, ?_, ?_, ?_, ?_⟩
  · intro args
    exact invoke_wrapped layer inner method args
  · intro routed
    refine ⟨Layer.signature_of_routes routed, ?_⟩
    intro deeper member capability declares
    have exposed : layer.exposes method = true := (Bool.and_eq_true_iff.mp routed).2
    rw [layered.exposes_eq_implements method declares] at exposed
    exact layered.implements_inside exposed member
  · have sameCore : inner.core = target :=
      (core_of_mem_parts part).trans built.core_eq
    exact sameCore ▸ base_mem_parts inner
  · intro capability implemented deeper member
    exact layered.implements_inside implemented member
  · intro capability declares
    exact layered.exposes_eq_implements method declares

end Object

namespace Greeting

def announcedOnce : Object Run :=
  .wrapped ((announced "a").standardLayer 1 tower.table) (.base tower)

def outerAnnounced : Layer Run :=
  (announced "b").standardLayer 2 announcedOnce.table

theorem builtFrom_outerAnnounced :
    Object.BuiltFrom tower (.wrapped outerAnnounced announcedOnce) := by
  have bare : Object.BuiltFrom tower (.base tower) := .base
  have once : Object.BuiltFrom tower announcedOnce :=
    bare.standardLayer (announced "a") (List.cons_ne_nil announcer []) 1
  exact once.standardLayer (announced "b") (List.cons_ne_nil announcer []) 2

end Greeting

open Greeting in
/-- The tower under two layers: the outer one routes greeting, which everything inside
implements, although nothing inside declares it. -/
theorem Object.BuiltFrom.routes_sound_tower :
    BuiltFrom tower (.wrapped outerAnnounced announcedOnce) ∧
    outerAnnounced.routes greet = true ∧
    (∃ signature ∈ outerAnnounced.handler.signatures,
      signature.capability.name = "Greeter" ∧ signature.resolve = .ok greet) ∧
    ∀ deeper ∈ announcedOnce.parts, deeper.table.implements greeter = true := by
  have sound := builtFrom_outerAnnounced.routes_sound List.mem_cons_self greet
  have routed : outerAnnounced.routes greet = true := by decide
  obtain ⟨asked, inside⟩ := sound.2.1 routed
  exact ⟨builtFrom_outerAnnounced, routed, asked,
    fun deeper member => inside deeper member greeter rfl⟩

end Interception
