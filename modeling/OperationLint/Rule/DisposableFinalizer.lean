import OperationLint.Rule.Texts

/-!
# Disposable types with native handles

Reports a disposable type without a finalizer where one of its fields is assigned a handle that a
native function returned. The report is at the type.
-/

namespace OperationLint.DisposableFinalizer

/-- The types of native handles, and the interface of disposable types. -/
structure ResourceTypes where
  intPtr : TypeSymbol
  uintPtr : TypeSymbol
  handleRef : TypeSymbol
  disposable : TypeSymbol

/-- The types, if the compilation has them all. -/
def resourceTypes? (compilation : Compilation) : Option ResourceTypes := do
  let intPtr ← compilation.type? "System.IntPtr"
  let uintPtr ← compilation.type? "System.UIntPtr"
  let handleRef ← compilation.type? "System.Runtime.InteropServices.HandleRef"
  let disposable ← compilation.type? "System.IDisposable"
  return { intPtr, uintPtr, handleRef, disposable }

namespace ResourceTypes

def handles (types : ResourceTypes) : List TypeSymbol :=
  [types.intPtr, types.uintPtr, types.handleRef]

def isHandle (types : ResourceTypes) (type : TypeSymbol) : Bool :=
  types.handles.any (·.sameAs type)

def isDisposable (types : ResourceTypes) (type : TypeSymbol) : Bool :=
  type.allInterfaces.any (·.sameAs types.disposable)

end ResourceTypes

/-- A field of an instance that holds a handle for a disposable class without a finalizer. -/
def isUnguarded (types : ResourceTypes) (field : FieldSymbol) : Bool :=
  !field.isStatic && types.isHandle field.type && !field.containingType.isValueType
    && types.isDisposable field.containingType && !field.containingType.declaresFinalizer

/-- The type that an operation leaves with a handle it will not release. -/
def leakingType? (types : ResourceTypes) : BoundOperation → Option TypeSymbol
  | .simpleAssignment _ (some (.fieldReference _ field _)) (some (.invocation _ method _ _)) =>
    if isUnguarded types field && method.dllImport.isSome then some field.containingType else none
  | _ => none

def helpUri : String :=
  "https://docs.microsoft.com/visualstudio/code-quality/"
    ++ "ca2216-disposable-types-should-declare-finalizer"

def descriptor (buildingExtension : Bool) : Descriptor :=
  ShippedRule.disposableFinalizer.describe .usage .warning
    (enabledByDefault buildingExtension) (some helpUri) ["PortedFromFxCop", "Telemetry"]

/-- The report about a type: at its first location, the others as additional ones; a type without
locations is reported where the handle is assigned. -/
def report (buildingExtension : Bool) (severity : Severity) (type : TypeSymbol)
    (assignment : Location) : Diagnostic :=
  (descriptor buildingExtension).diagnostic severity (type.locations.headD assignment)
    [type.name] type.locations.tail

def rule (buildingExtension : Bool) : Rule where
  descriptor := descriptor buildingExtension
  analyzesGenerated := false
  kinds := [.simpleAssignment]
  start := fun compilation =>
    (resourceTypes? compilation).map fun types severity site =>
      match leakingType? types site.operation with
      | some type => .reported (report buildingExtension severity type site.operation.location)
      | none => .silent

end OperationLint.DisposableFinalizer
