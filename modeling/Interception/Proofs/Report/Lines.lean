/-
The layers that a call reaches, and the lines that they log. A call goes from the outermost
layer inward, and its way ends behind the first interceptor that gets it and does not
proceed. So the layers reached are settled by the places at which interceptors proceed. Each
of them logs one line: an entry if it hands the call to its interceptor, a forwarding if it
does not. The places of a stack are numbered from the base target.
-/

import Interception.Proofs.Stack.Layered
import Mathlib.Logic.Function.Iterate

namespace Interception

variable {m : Type → Type}

/-- An entry and a forwarding read alike only for a type that is named so. -/
theorem Notice.text_forwarded_eq_entered_iff (method : Method) (target name : String) :
    (Notice.forwarded method target).text = (Notice.entered method name).text ↔
      target = "interceptor " ++ name := by
  have entered : (Notice.entered method name).text =
      method.display ++ " -> " ++ ("interceptor " ++ name) := by
    change method.display ++ (" -> " ++ "interceptor ") ++ name = _
    rw [String.append_assoc, String.append_assoc, String.append_assoc]
  rw [entered]
  exact String.append_right_inj _

/-- A layer together with the object that it is directly around. -/
structure Shell (m : Type → Type) where
  layer : Layer m
  inner : Object m

namespace Shell

variable (method : Method) (proceeded : List Nat)

def object (shell : Shell m) : Object m :=
  .wrapped shell.layer shell.inner

/-- One more than the number of layers inside. -/
def place (shell : Shell m) : Nat :=
  shell.inner.layers.length + 1

def line (shell : Shell m) : Notice :=
  if shell.layer.routes method then .entered method shell.layer.handler.name
  else .forwarded method shell.inner.table.name

/-- The interceptor of the layer gets the call and does not proceed. -/
def Stops (shell : Shell m) : Prop :=
  shell.layer.routes method = true ∧ shell.place ∉ proceeded

instance (shell : Shell m) : Decidable (shell.Stops method proceeded) :=
  inferInstanceAs (Decidable (_ ∧ _))

/-- The shells up to the first one at which the call stops. -/
def reached : List (Shell m) → List (Shell m)
  | [] => []
  | shell :: rest => if shell.Stops method proceeded then [shell] else shell :: reached rest

variable {method : Method} {proceeded : List Nat}

theorem line_cases (method : Method) (shell : Shell m) :
    shell.layer.routes method = true ∧
        shell.line method = .entered method shell.layer.handler.name ∨
      shell.layer.routes method = false ∧
        shell.line method = .forwarded method shell.inner.table.name := by
  unfold line
  cases shell.layer.routes method with
  | true => exact Or.inl ⟨rfl, rfl⟩
  | false => exact Or.inr ⟨rfl, rfl⟩

theorem level_line (shell : Shell m) : (shell.line method).level = .trace := by
  rcases shell.line_cases method with ⟨_, line⟩ | ⟨_, line⟩
  · rw [line]
    rfl
  · rw [line]
    rfl

theorem line_eq_entered_iff (shell : Shell m) :
    shell.line method = .entered method shell.layer.handler.name ↔
      shell.layer.routes method = true := by
  rcases shell.line_cases method with ⟨routed, line⟩ | ⟨skipped, line⟩
  · simp [routed, line]
  · simp [skipped, line]

theorem line_eq_forwarded_iff (shell : Shell m) :
    shell.line method = .forwarded method shell.inner.table.name ↔
      shell.layer.routes method = false := by
  rcases shell.line_cases method with ⟨routed, line⟩ | ⟨skipped, line⟩
  · simp [routed, line]
  · simp [skipped, line]

theorem text_line_eq_entered_iff (shell : Shell m) :
    (shell.line method).text = (Notice.entered method shell.layer.handler.name).text ↔
      shell.layer.routes method = true ∨
        shell.inner.table.name = "interceptor " ++ shell.layer.handler.name := by
  rcases shell.line_cases method with ⟨routed, line⟩ | ⟨skipped, line⟩
  · simp [routed, line]
  · rw [line, skipped, Notice.text_forwarded_eq_entered_iff]
    simp

theorem text_line_eq_forwarded_iff (shell : Shell m) :
    (shell.line method).text = (Notice.forwarded method shell.inner.table.name).text ↔
      shell.layer.routes method = false ∨
        shell.inner.table.name = "interceptor " ++ shell.layer.handler.name := by
  rcases shell.line_cases method with ⟨routed, line⟩ | ⟨skipped, line⟩
  · rw [line, routed, eq_comm, Notice.text_forwarded_eq_entered_iff]
    simp
  · simp [skipped, line]

theorem reached_append_of_not_stops {outside : List (Shell m)}
    (through : ∀ shell ∈ outside, ¬shell.Stops method proceeded) (inside : List (Shell m)) :
    reached method proceeded (outside ++ inside) = outside ++ reached method proceeded inside := by
  induction outside with
  | nil => rfl
  | cons shell rest ih =>
      obtain ⟨own, others⟩ := List.forall_mem_cons.mp through
      rw [List.cons_append, reached, if_neg own, ih others]
      rfl

theorem reached_eq_self {shells : List (Shell m)}
    (through : ∀ shell ∈ shells, ¬shell.Stops method proceeded) :
    reached method proceeded shells = shells := by
  have all := reached_append_of_not_stops through []
  rw [List.append_nil] at all
  exact all.trans (List.append_nil _)

theorem reached_of_stops {outside inside : List (Shell m)} {shell : Shell m}
    (through : ∀ other ∈ outside, ¬other.Stops method proceeded)
    (stops : shell.Stops method proceeded) :
    reached method proceeded (outside ++ shell :: inside) = outside ++ [shell] := by
  rw [reached_append_of_not_stops through, reached, if_pos stops]

theorem reached_congr {other : List Nat} {shells : List (Shell m)}
    (same : ∀ shell ∈ shells, shell.Stops method proceeded ↔ shell.Stops method other) :
    reached method proceeded shells = reached method other shells := by
  induction shells with
  | nil => rfl
  | cons shell rest ih =>
      obtain ⟨own, others⟩ := List.forall_mem_cons.mp same
      unfold reached
      rw [ih others]
      simp only [own]

end Shell

namespace Object

/-- The layers from the outermost inward, each with what it is directly around. -/
def shells : Object m → List (Shell m)
  | .base _ => []
  | .wrapped layer inner => ⟨layer, inner⟩ :: inner.shells

/-- The lines of a call of the method, if the interceptors at some places proceed. -/
def lines (method : Method) (proceeded : List Nat) (object : Object m) : List Notice :=
  (Shell.reached method proceeded object.shells).map (Shell.line method)

/-- The places at which interceptors are entered, if those at some places proceed. -/
def entries (method : Method) (proceeded : List Nat) (object : Object m) : List Nat :=
  ((Shell.reached method proceeded object.shells).filter (·.layer.routes method)).map Shell.place

theorem shells_layers (object : Object m) : object.shells.map Shell.layer = object.layers := by
  induction object with
  | base target => rfl
  | wrapped layer inner ih => exact congrArg (layer :: ·) ih

/-- The places count down from the outermost layer to the one next to the base target. -/
theorem shells_places (object : Object m) :
    object.shells.map Shell.place = (List.range' 1 object.layers.length).reverse := by
  induction object with
  | base target => rfl
  | wrapped layer inner ih =>
      have head : Shell.place ⟨layer, inner⟩ = 1 + inner.layers.length := Nat.add_comm _ _
      rw [shells, layers, List.length_cons, List.range'_1_concat, List.reverse_concat,
        List.map_cons, ih, head]

theorem place_le_of_mem_shells {object : Object m} {shell : Shell m}
    (member : shell ∈ object.shells) : shell.place ≤ object.layers.length := by
  have place : shell.place ∈ (List.range' 1 object.layers.length).reverse := by
    rw [← shells_places]
    exact List.mem_map_of_mem member
  rw [List.mem_reverse, List.mem_range'_1] at place
  omega

theorem object_mem_parts_of_mem_shells {object : Object m} {shell : Shell m}
    (member : shell ∈ object.shells) : shell.object ∈ object.parts := by
  induction object with
  | base target => cases member
  | wrapped layer inner ih =>
      rcases List.mem_cons.mp member with rfl | deeper
      · exact List.mem_cons_self
      · exact List.mem_cons_of_mem _ (ih deeper)

theorem Layered.table_name {object : Object m} (layered : object.Layered) :
    object.table.name = Registration.proxyName^[object.layers.length] object.core.table.name := by
  induction object with
  | base target => rfl
  | wrapped layer inner ih =>
      have named : layer.table.name = Registration.proxyName inner.table.name :=
        congrArg TypeTable.name layered.1
      change layer.table.name =
        Registration.proxyName^[inner.layers.length + 1] inner.core.table.name
      rw [Function.iterate_succ_apply', ← ih layered.2.2, named]

theorem BuiltFrom.name_inside {target : Target m} {object : Object m}
    (built : BuiltFrom target object) {shell : Shell m} (member : shell ∈ object.shells) :
    shell.inner.table.name =
      Registration.proxyName^[shell.inner.layers.length] target.table.name := by
  have part := object_mem_parts_of_mem_shells member
  have layered : shell.object.Layered := built.layered.of_mem_parts part
  have core : shell.inner.core = target := (core_of_mem_parts part).trans built.core_eq
  rw [layered.2.2.table_name, core]

/-- What proceeds at the place of the outermost layer makes no difference inside. -/
theorem reached_shells_cons (method : Method) (proceeded : List Nat) (inner : Object m) :
    Shell.reached method ((inner.layers.length + 1) :: proceeded) inner.shells =
      Shell.reached method proceeded inner.shells := by
  apply Shell.reached_congr
  intro shell member
  have inside := place_le_of_mem_shells member
  have apart : shell.place ≠ inner.layers.length + 1 := by omega
  unfold Shell.Stops
  rw [List.mem_cons, or_iff_right apart]

section

variable {layer : Layer m} {inner : Object m} {method : Method} {proceeded : List Nat}

theorem reached_of_skipped (skipped : layer.routes method = false) :
    Shell.reached method proceeded (Object.wrapped layer inner).shells =
      ⟨layer, inner⟩ :: Shell.reached method proceeded inner.shells := by
  have through : ¬Shell.Stops method proceeded ⟨layer, inner⟩ :=
    fun stops => Bool.false_ne_true (skipped.symm.trans stops.1)
  rw [shells, Shell.reached, if_neg through]

theorem reached_of_stopped (routed : layer.routes method = true) :
    Shell.reached method [] (Object.wrapped layer inner).shells = [⟨layer, inner⟩] := by
  have stops : Shell.Stops method [] ⟨layer, inner⟩ := ⟨routed, List.not_mem_nil⟩
  rw [shells, Shell.reached, if_pos stops]

theorem reached_of_proceeded :
    Shell.reached method ((inner.layers.length + 1) :: proceeded)
        (Object.wrapped layer inner).shells =
      ⟨layer, inner⟩ :: Shell.reached method proceeded inner.shells := by
  have through : ¬Shell.Stops method ((inner.layers.length + 1) :: proceeded) ⟨layer, inner⟩ :=
    fun stops => stops.2 List.mem_cons_self
  rw [shells, Shell.reached, if_neg through, reached_shells_cons]

theorem lines_of_skipped (skipped : layer.routes method = false) :
    (Object.wrapped layer inner).lines method proceeded =
      .forwarded method inner.table.name :: inner.lines method proceeded := by
  have line : Shell.line method ⟨layer, inner⟩ = .forwarded method inner.table.name := by
    simp [Shell.line, skipped]
  unfold lines
  rw [reached_of_skipped skipped, List.map_cons, line]

theorem lines_of_stopped (routed : layer.routes method = true) :
    (Object.wrapped layer inner).lines method [] = [.entered method layer.handler.name] := by
  unfold lines
  rw [reached_of_stopped routed, List.map_singleton, Shell.line, if_pos routed]

theorem lines_of_proceeded (routed : layer.routes method = true) :
    (Object.wrapped layer inner).lines method ((inner.layers.length + 1) :: proceeded) =
      .entered method layer.handler.name :: inner.lines method proceeded := by
  unfold lines
  rw [reached_of_proceeded, List.map_cons, Shell.line, if_pos routed]

theorem entries_of_skipped (skipped : layer.routes method = false) :
    (Object.wrapped layer inner).entries method proceeded = inner.entries method proceeded := by
  unfold entries
  rw [reached_of_skipped skipped]
  simp [skipped]

theorem entries_of_stopped (routed : layer.routes method = true) :
    (Object.wrapped layer inner).entries method [] = [inner.layers.length + 1] := by
  unfold entries
  rw [reached_of_stopped routed]
  simp [routed, Shell.place]

theorem entries_of_proceeded (routed : layer.routes method = true) :
    (Object.wrapped layer inner).entries method ((inner.layers.length + 1) :: proceeded) =
      (inner.layers.length + 1) :: inner.entries method proceeded := by
  unfold entries
  rw [reached_of_proceeded]
  simp [routed, Shell.place]

end

end Object

end Interception
