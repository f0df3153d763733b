import OperationLint.Operation.Basic
import OperationLint.Stack

/-!
# Compilations

A bound snapshot and the questions that rules ask of it. Names and ids are unique within a
compilation, so a look-up finds at most one symbol.
-/

namespace OperationLint

abbrev BoundBlock := CodeBlock TypeSymbol MethodSymbol FieldSymbol

structure Compilation where
  assemblyName : String
  types : List TypeSymbol
  methods : List MethodSymbol
  fields : List FieldSymbol
  blocks : List BoundBlock

namespace Compilation

def type? (compilation : Compilation) (metadataName : String) : Option TypeSymbol :=
  compilation.types.find? (·.metadataName == metadataName)

def method? (compilation : Compilation) (id : String) : Option MethodSymbol :=
  compilation.methods.find? (·.id == id)

def field? (compilation : Compilation) (id : String) : Option FieldSymbol :=
  compilation.fields.find? (·.id == id)

/-- The body of a method, if the snapshot has one. -/
def body? (compilation : Compilation) (method : MethodSymbol) : Option BoundOperation :=
  (compilation.blocks.find? (·.owner.id == method.id)).map (·.body)

end Compilation

/-! ### Interfaces -/

namespace TypeSymbol

/-- The interfaces listed by a type and by the types on its chain of base types. -/
def chainInterfaces : TypeSymbol → List TypeSymbol
  | ⟨_, _, _, none, interfaces, _, _⟩ => interfaces
  | ⟨_, _, _, some base, interfaces, _, _⟩ => interfaces ++ base.chainInterfaces

private theorem sizeOf_interfaces_lt (type : TypeSymbol) :
    sizeOf type.interfaces < sizeOf type := by
  cases type
  simp only [TypeSymbol.mk.sizeOf_spec]
  omega

/-- Adds the pending types to those found, and with each the interfaces that it lists; what was
found before is passed over. The last pending interface comes first. -/
def closeInterfaces (found : List TypeSymbol) : List TypeSymbol → List TypeSymbol
  | [] => found
  | next :: pending =>
    if found.any (·.sameAs next) then closeInterfaces found pending
    else closeInterfaces (found ++ [next]) (next.interfaces.reverse ++ pending)
termination_by pending => sizeOf pending
decreasing_by
  · simp only [List.cons.sizeOf_spec]
    omega
  · rw [List.unattach_reverse, List.unattach_attach]
    apply Stack.sizeOf_replace_lt
    rw [Stack.sizeOf_reverse]
    exact Nat.le_succ_of_le (Nat.le_of_lt (sizeOf_interfaces_lt next))

/-- All interfaces of a type: those listed on its chain of base types, and the interfaces that an
interface lists. -/
def allInterfaces (type : TypeSymbol) : List TypeSymbol :=
  closeInterfaces [] type.chainInterfaces.reverse

end TypeSymbol

/-- The interfaces of the types that were asked for, by name. -/
abbrev InterfaceCache := List (String × List TypeSymbol)

namespace InterfaceCache

/-- All interfaces of a type, and the cache after the question: what was found for the name before
is not looked for again. -/
def interfacesOf (cache : InterfaceCache) (type : TypeSymbol) :
    List TypeSymbol × InterfaceCache :=
  match cache.lookup type.metadataName with
  | some known => (known, cache)
  | none =>
    let found := type.allInterfaces
    (found, (type.metadataName, found) :: cache)

/-- The answers to questions about types, one after the other. -/
def answers (cache : InterfaceCache) : List TypeSymbol → List (List TypeSymbol)
  | [] => []
  | type :: rest =>
    let (found, after) := cache.interfacesOf type
    found :: after.answers rest

end InterfaceCache

end OperationLint
