import OperationLint.Proofs.DocumentRuns
import OperationLint.Proofs.Interfaces
import OperationLint.Rule.Catalog

/-!
# Handles that nobody releases

What the finalizer rule reports, said about the document alone. `Leaks` spells out when an
assignment leaves a type with a handle that it will not release.

## Main result

`run_reports_leaks`: the diagnostics of the rule are one for each such assignment outside generated
code, in the order of the document, at the type.

## Proof strategy

The questions that the rule asks of fields, types and methods are matched with questions to their
entries. For the interfaces of a type this is `mem_allInterfaces`, carried to the names in the
entries; `leaks_iff` puts the questions together, and the run is `Engine.run_reports_documents`.
-/

namespace OperationLint

open Relation Compilation

namespace DisposableFinalizer

/-! ### Leaks -/

def disposableName : String := "System.IDisposable"

/-- The types of native handles. -/
def handleNames : List String :=
  ["System.IntPtr", "System.UIntPtr", "System.Runtime.InteropServices.HandleRef"]

/-- The entry of one type names the other as its base type. -/
def BaseLink (snapshot : Json) (lower upper : String) : Prop :=
  ∃ entry ∈ snapshot.entries "types", entry.text? "metadataName" = some lower ∧
    entry.text? "baseType" = some upper

/-- The entry of one type names the other among its interfaces. -/
def InterfaceLink (snapshot : Json) (lower upper : String) : Prop :=
  ∃ entry ∈ snapshot.entries "types", entry.text? "metadataName" = some lower ∧
    Json.string upper ∈ entry.entries "interfaces"

/-- The interface of disposable types is reached by base types first and then by interfaces. -/
def IsDisposable (snapshot : Json) (name : String) : Prop :=
  ∃ lister, ReflTransGen (BaseLink snapshot) name lister ∧
    TransGen (InterfaceLink snapshot) lister disposableName

/-- The entry of a disposable class without a destructor of its own. -/
def IsUnguarded (snapshot type : Json) : Prop :=
  type.text? "typeKind" ≠ some "struct" ∧ type.text? "typeKind" ≠ some "enum" ∧
  ∃ name, type.text? "metadataName" = some name ∧ IsDisposable snapshot name ∧
    ¬ snapshot.DeclaresDestructor name

/-- The document of a reference to a handle that instances of a type have. -/
def IsHandleOf (snapshot target type : Json) : Prop :=
  target.IsKind .fieldReference ∧
  ∃ field ∈ snapshot.entries "fields", field.text? "id" = target.text? "field" ∧
    field.flag? "isStatic" ≠ some true ∧ (∃ name ∈ handleNames, field.text? "type" = some name) ∧
    type.text? "metadataName" = field.text? "containingType"

/-- The document of a call of a native function. -/
def IsNativeCall (snapshot value : Json) : Prop :=
  value.IsKind .invocation ∧
  ∃ method ∈ snapshot.entries "methods", method.text? "id" = value.text? "method" ∧
    method.Holds "dllImport"

/-- An operation leaves a type with a handle that it will not release. -/
structure Leaks (snapshot operation type : Json) : Prop where
  declared : ∀ name ∈ handleNames ++ [disposableName], snapshot.DeclaresType name
  assigns : operation.IsKind .simpleAssignment
  target : ∃ target ∈ operation.part? "target", IsHandleOf snapshot target type
  value : ∃ value ∈ operation.part? "value", IsNativeCall snapshot value
  listed : type ∈ snapshot.entries "types"
  unguarded : IsUnguarded snapshot type

variable {snapshot : Json} {compilation : Compilation} {types : ResourceTypes}

/-! ### Types -/

theorem exists_resourceTypes_iff (described : Described snapshot compilation) :
    (∃ types, resourceTypes? compilation = some types) ↔
      ∀ name ∈ handleNames ++ [disposableName], snapshot.DeclaresType name := by
  simp only [← described.exists_type?_iff]
  simp [resourceTypes?, handleNames, disposableName, Option.bind_eq_some_iff]

theorem names_of_resourceTypes (found : resourceTypes? compilation = some types) :
    types.handles.map (·.metadataName) = handleNames ∧
      types.disposable.metadataName = disposableName := by
  simp only [resourceTypes?, Option.bind_eq_bind, Option.bind_eq_some_iff, Option.pure_def,
    Option.some.injEq] at found
  obtain ⟨intPtr, first, uintPtr, second, handleRef, third, disposable, fourth, rfl⟩ := found
  refine ⟨?_, (type?_eq_some fourth).1⟩
  simp only [ResourceTypes.handles, List.map_cons, List.map_nil, (type?_eq_some first).1,
    (type?_eq_some second).1, (type?_eq_some third).1, handleNames]

theorem isHandle_iff (found : resourceTypes? compilation = some types) (type : TypeSymbol) :
    types.isHandle type = true ↔ type.metadataName ∈ handleNames := by
  rw [← (names_of_resourceTypes found).1, List.mem_map]
  simp [ResourceTypes.isHandle, TypeSymbol.sameAs]

theorem table_of_described (described : Described snapshot compilation) :
    TypeSymbol.Table compilation.types :=
  ⟨described.typesDistinct,
    fun type member above step => described.typesClosed type member above (Or.inl step),
    fun type member above step => described.typesClosed type member above (Or.inr step)⟩

theorem baseLink_iff (described : Described snapshot compilation) {type : TypeSymbol}
    (member : type ∈ compilation.types) (upper : String) :
    BaseLink snapshot type.metadataName upper ↔
      ∃ base, type.Extends base ∧ base.metadataName = upper := by
  refine described.exists_type_iff member ?_
  intro entry about
  rw [about.baseType, Option.map_eq_some_iff]
  rfl

theorem interfaceLink_iff (described : Described snapshot compilation) {type : TypeSymbol}
    (member : type ∈ compilation.types) (upper : String) :
    InterfaceLink snapshot type.metadataName upper ↔
      ∃ listed, type.Lists listed ∧ listed.metadataName = upper := by
  refine described.exists_type_iff member ?_
  intro entry about
  rw [about.interfaces, List.mem_map]
  simp [TypeSymbol.Lists]

/-- A type is disposable exactly when the names in the entries lead to the interface. -/
theorem isDisposable_iff (described : Described snapshot compilation)
    (found : resourceTypes? compilation = some types) {type : TypeSymbol}
    (member : type ∈ compilation.types) :
    IsDisposable snapshot type.metadataName ↔ types.isDisposable type = true := by
  have table := table_of_described described
  have interfaces : types.isDisposable type = true ↔
      ∃ above ∈ type.allInterfaces, above.metadataName = disposableName := by
    simp [ResourceTypes.isDisposable, TypeSymbol.sameAs, (names_of_resourceTypes found).2]
  -- Paths of symbols become paths of names: the base types first, from the type itself, and then
  -- the interfaces, from wherever the base types led.
  simp only [interfaces, TypeSymbol.mem_allInterfaces table member, IsDisposable]
  constructor
  · rintro ⟨_, chain, path⟩
    obtain ⟨lister, extended, rfl⟩ :=
      (reflTransGen_image table.base (fun _ => baseLink_iff described) member).mp chain
    have inside := table.mem_of_extends member extended
    obtain ⟨above, reached, named⟩ :=
      (transGen_image table.listed (fun _ => interfaceLink_iff described) inside).mp path
    exact ⟨above, ⟨lister, extended, reached⟩, named⟩
  · rintro ⟨above, ⟨lister, extended, reached⟩, named⟩
    have inside := table.mem_of_extends member extended
    exact ⟨lister.metadataName,
      (reflTransGen_image table.base (fun _ => baseLink_iff described) member).mpr
        ⟨lister, extended, rfl⟩,
      (transGen_image table.listed (fun _ => interfaceLink_iff described) inside).mpr
        ⟨above, reached, named⟩⟩

theorem isUnguarded_iff (described : Described snapshot compilation)
    (found : resourceTypes? compilation = some types) {type : TypeSymbol}
    (member : type ∈ compilation.types) {entry : Json}
    (about : snapshot.DescribesType entry type) :
    IsUnguarded snapshot entry ↔ type.isValueType = false ∧ types.isDisposable type = true ∧
      type.declaresFinalizer = false := by
  have valueType : type.isValueType = false ↔
      entry.text? "typeKind" ≠ some "struct" ∧ entry.text? "typeKind" ≠ some "enum" := by
    rw [about.kind]
    cases kind : type.kind <;> simp [TypeSymbol.isValueType, kind, TypeKind.name]
  have finalizer : type.declaresFinalizer = false ↔
      ¬ snapshot.DeclaresDestructor type.metadataName := by
    rw [← about.declaresFinalizer, Bool.not_eq_true]
  simp only [IsUnguarded, about.metadataName, Option.some.injEq, exists_eq_left',
    isDisposable_iff described found member, valueType, finalizer, and_assoc]

/-! ### Operations -/

variable {document : Json}

theorem isHandleOf_iff (described : Described snapshot compilation)
    (found : resourceTypes? compilation = some types) {info : Info TypeSymbol}
    {field : FieldSymbol} {receiver : Option BoundOperation}
    (denoted : Operation.Denotes compilation.symbols document (.fieldReference info field receiver))
    (entry : Json) :
    IsHandleOf snapshot document entry ↔ field.isStatic = false ∧ types.isHandle field.type = true ∧
      entry.text? "metadataName" = some field.containingType.metadataName := by
  have kind : document.IsKind .fieldReference := denoted.isKind_iff.mpr rfl
  have member : field ∈ compilation.fields :=
    denoted.mem_fields field (by simp [Operation.fieldRefs])
  have named : document.text? "field" = some field.id :=
    denoted.text?_of_payload (by simp [Operation.payload, Naming.bound])
  rw [IsHandleOf, named]
  simp only [kind, true_and]
  refine described.exists_field_iff member ?_
  intro entry about
  rw [ne_eq, about.isStatic, Bool.not_eq_true, about.type, about.containingType,
    isHandle_iff found]
  simp [Naming.bound]

theorem isNativeCall_iff (described : Described snapshot compilation) {info : Info TypeSymbol}
    {method : MethodSymbol} {receiver : Option BoundOperation} {arguments : List BoundOperation}
    (denoted : Operation.Denotes compilation.symbols document
      (.invocation info method receiver arguments)) :
    IsNativeCall snapshot document ↔ method.dllImport.isSome = true := by
  have kind : document.IsKind .invocation := denoted.isKind_iff.mpr rfl
  have member : method ∈ compilation.methods :=
    denoted.mem_methods method (by simp [Operation.methodRefs])
  have named : document.text? "method" = some method.id :=
    denoted.text?_of_payload (by simp [Operation.payload, Naming.bound])
  rw [IsNativeCall, named]
  simp only [kind, true_and]
  exact described.exists_method_iff member fun entry about => about.dllImport

/-- What an operation looks like that leaves a type with a handle. -/
theorem leakingType?_eq_some {operation : BoundOperation} {type : TypeSymbol} :
    leakingType? types operation = some type ↔
      ∃ info fieldInfo field receiver callInfo method callee arguments,
        operation = .simpleAssignment info (some (.fieldReference fieldInfo field receiver))
          (some (.invocation callInfo method callee arguments)) ∧
        isUnguarded types field = true ∧ method.dllImport.isSome = true ∧
        field.containingType = type := by
  constructor
  · intro returned
    unfold leakingType? at returned
    split at returned
    next info fieldInfo field receiver callInfo method callee arguments =>
      split at returned
      next leaking =>
        rw [Bool.and_eq_true] at leaking
        exact ⟨info, fieldInfo, field, receiver, callInfo, method, callee, arguments, rfl,
          leaking.1, leaking.2, Option.some.inj returned⟩
      · cases returned
    · cases returned
  · rintro ⟨_, _, field, _, _, method, _, _, rfl, unguarded, native, rfl⟩
    simp [leakingType?, unguarded, native]

/-- The type that has a field referred to is a type of the compilation. -/
theorem containingType_mem (described : Described snapshot compilation) {info : Info TypeSymbol}
    {field : FieldSymbol} {receiver : Option BoundOperation}
    (denoted : Operation.Denotes compilation.symbols document
      (.fieldReference info field receiver)) :
    field.containingType ∈ compilation.types :=
  described.containingTypes field (denoted.mem_fields field (by simp [Operation.fieldRefs]))

variable {operation : BoundOperation}

/-- A leak is the assignment of a call to a field. -/
theorem Leaks.shape {entry : Json} (leaks : Leaks snapshot document entry)
    (denoted : Operation.Denotes compilation.symbols document operation) :
    ∃ info fieldInfo field receiver callInfo method callee arguments,
      operation = .simpleAssignment info (some (.fieldReference fieldInfo field receiver))
        (some (.invocation callInfo method callee arguments)) := by
  obtain ⟨info, target, value, rfl⟩ :=
    Operation.eq_simpleAssignment (denoted.isKind_iff.mp leaks.assigns)
  obtain ⟨targetPart, valuePart⟩ := denoted.assignment
  obtain ⟨_, targetHeld, handle⟩ := leaks.target
  obtain ⟨_, valueHeld, native⟩ := leaks.value
  obtain ⟨_, rfl, targetDenoted⟩ := Operation.Denotes.of_part targetPart targetHeld
  obtain ⟨_, rfl, valueDenoted⟩ := Operation.Denotes.of_part valuePart valueHeld
  obtain ⟨fieldInfo, field, receiver, rfl⟩ :=
    Operation.eq_fieldReference (targetDenoted.isKind_iff.mp handle.1)
  obtain ⟨callInfo, method, callee, arguments, rfl⟩ :=
    Operation.eq_invocation (valueDenoted.isKind_iff.mp native.1)
  exact ⟨info, fieldInfo, field, receiver, callInfo, method, callee, arguments, rfl⟩

/-- The assignment of a call to a field leaks exactly when the field is unguarded and the call
native. The entry is then that of the type with the field. -/
theorem leaks_assignment_iff (described : Described snapshot compilation)
    (found : resourceTypes? compilation = some types) {info fieldInfo callInfo : Info TypeSymbol}
    {field : FieldSymbol} {method : MethodSymbol} {receiver callee : Option BoundOperation}
    {arguments : List BoundOperation}
    (denoted : Operation.Denotes compilation.symbols document
      (.simpleAssignment info (some (.fieldReference fieldInfo field receiver))
        (some (.invocation callInfo method callee arguments)))) (entry : Json) :
    Leaks snapshot document entry ↔
      (isUnguarded types field = true ∧ method.dllImport.isSome = true) ∧
        entry ∈ snapshot.entries "types" ∧
        entry.text? "metadataName" = some field.containingType.metadataName := by
  obtain ⟨targetPart, valuePart⟩ := denoted.assignment
  obtain ⟨targetDocument, targetHeld, targetDenoted⟩ := Operation.Denotes.exists_part targetPart
  obtain ⟨valueDocument, valueHeld, valueDenoted⟩ := Operation.Denotes.exists_part valuePart
  have member := containingType_mem described targetDenoted
  have handle := isHandleOf_iff described found targetDenoted entry
  have native := isNativeCall_iff described valueDenoted
  simp only [isUnguarded, Bool.and_eq_true, Bool.not_eq_true']
  constructor
  · intro leaks
    -- The parts are unique, so those that the leak speaks of are the ones found above.
    obtain ⟨_, sameTarget, isHandle⟩ := leaks.target
    obtain ⟨_, sameValue, isNative⟩ := leaks.value
    obtain rfl := Option.mem_unique targetHeld sameTarget
    obtain rfl := Option.mem_unique valueHeld sameValue
    obtain ⟨isStatic, ofHandle, named⟩ := handle.mp isHandle
    have about := described.describesType_of_name member leaks.listed named
    obtain ⟨valueType, disposable, finalizer⟩ :=
      (isUnguarded_iff described found member about).mp leaks.unguarded
    exact ⟨⟨⟨⟨⟨⟨isStatic, ofHandle⟩, valueType⟩, disposable⟩, finalizer⟩, native.mp isNative⟩,
      leaks.listed, named⟩
  · rintro ⟨⟨⟨⟨⟨⟨isStatic, ofHandle⟩, valueType⟩, disposable⟩, finalizer⟩, imported⟩, listed, named⟩
    have about := described.describesType_of_name member listed named
    exact {
      declared := (exists_resourceTypes_iff described).mp ⟨types, found⟩
      assigns := denoted.isKind_iff.mpr rfl
      target := ⟨targetDocument, targetHeld, handle.mpr ⟨isStatic, ofHandle, named⟩⟩
      value := ⟨valueDocument, valueHeld, native.mpr imported⟩
      listed := listed
      unguarded := (isUnguarded_iff described found member about).mpr
        ⟨valueType, disposable, finalizer⟩ }

/-- An operation leaks a handle of an entry exactly when it leaks one of the type of that entry. -/
theorem leaks_iff (described : Described snapshot compilation)
    (found : resourceTypes? compilation = some types)
    (denoted : Operation.Denotes compilation.symbols document operation) (entry : Json) :
    Leaks snapshot document entry ↔ ∃ type, leakingType? types operation = some type ∧
      entry ∈ snapshot.entries "types" ∧ entry.text? "metadataName" = some type.metadataName := by
  constructor
  · intro leaks
    obtain ⟨_, _, field, _, _, _, _, _, rfl⟩ := leaks.shape denoted
    obtain ⟨⟨unguarded, imported⟩, listed, named⟩ :=
      (leaks_assignment_iff described found denoted entry).mp leaks
    exact ⟨field.containingType, leakingType?_eq_some.mpr
      ⟨_, _, _, _, _, _, _, _, rfl, unguarded, imported, rfl⟩, listed, named⟩
  · rintro ⟨type, leaking, listed, named⟩
    obtain ⟨_, _, field, _, _, _, _, _, rfl, unguarded, imported, rfl⟩ :=
      leakingType?_eq_some.mp leaking
    exact (leaks_assignment_iff described found denoted entry).mpr
      ⟨⟨unguarded, imported⟩, listed, named⟩

/-- The type that is left with a handle is a type of the compilation. -/
theorem leakingType?_mem (described : Described snapshot compilation)
    (denoted : Operation.Denotes compilation.symbols document operation) {type : TypeSymbol}
    (leaking : leakingType? types operation = some type) : type ∈ compilation.types := by
  obtain ⟨_, _, field, _, _, _, _, _, rfl, _, _, rfl⟩ := leakingType?_eq_some.mp leaking
  obtain ⟨_, _, targetDenoted⟩ := Operation.Denotes.exists_part denoted.assignment.1
  exact containingType_mem described targetDenoted

/-! ### Reports -/

/-- The part of a name behind its last point. -/
def IsSimpleName (full name : String) : Prop :=
  '.' ∉ name.toList ∧ (full = name ∨ ∃ qualifier, full = qualifier ++ "." ++ name)

theorem isSimpleName_name (type : TypeSymbol) : IsSimpleName type.metadataName type.name := by
  let front := type.metadataName.toList.reverse.takeWhile (· != '.')
  let back := type.metadataName.toList.reverse.dropWhile (· != '.')
  have name : type.name.toList = front.reverse := by simp [TypeSymbol.name, front]
  have whole : type.metadataName.toList = back.reverse ++ front.reverse := by
    rw [← List.reverse_append, List.takeWhile_append_dropWhile, List.reverse_reverse]
  constructor
  · rw [name, List.mem_reverse]
    intro inside
    simpa using List.all_eq_true.mp List.all_takeWhile '.' inside
  · cases rest : back with
    | nil =>
      left
      apply String.toList_inj.mp
      rw [whole, name, rest]
      rfl
    | cons point qualifier =>
      have separator : point = '.' := by
        have stops := List.head?_dropWhile_not (· != '.') type.metadataName.toList.reverse
        have front :
            type.metadataName.toList.reverse.dropWhile (· != '.') = point :: qualifier := rest
        rw [front] at stops
        simpa using stops
      right
      refine ⟨String.ofList qualifier.reverse, ?_⟩
      apply String.toList_inj.mp
      rw [whole, rest, separator]
      simp [name]

/-- The diagnostic for an operation: at the first location of the type that it leaves with a handle,
with the other locations beside it, or where the handle is assigned if the type has none. -/
def Reports (config : Config) (buildingExtension : Bool) (snapshot operation : Json)
    (diagnostic : Diagnostic) : Prop :=
  ∃ type full name value assigned locations, Leaks snapshot operation type ∧
    type.text? "metadataName" = some full ∧ IsSimpleName full name ∧
    operation.member? "location" = some value ∧ value.IsLocation assigned ∧
    List.Forall₂ Json.IsLocation (type.entries "locations") locations ∧
    diagnostic = (descriptor buildingExtension).diagnostic
      (config.severityOf (descriptor buildingExtension)) (locations.headD assigned) [name]
      locations.tail

variable {config : Config} {buildingExtension : Bool} {site : Site}

theorem judge?_eq (found : resourceTypes? compilation = some types) :
    (rule buildingExtension).judge? config compilation site =
      (leakingType? types site.operation).map fun type =>
        report buildingExtension (config.severityOf (descriptor buildingExtension)) type
          site.operation.location := by
  cases leaking : leakingType? types site.operation with
  | none => simp [Rule.judge?, rule, found, leaking, Verdict.diagnostic?]
  | some type =>
    have kind : site.operation.kind = .simpleAssignment := by
      obtain ⟨_, _, _, _, _, _, _, _, shape, _⟩ := leakingType?_eq_some.mp leaking
      rw [shape]
      rfl
    simp [Rule.judge?, rule, found, leaking, kind, Verdict.diagnostic?]

theorem judge?_of_inert (missing : resourceTypes? compilation = none) :
    (rule buildingExtension).judge? config compilation site = none := by
  simp [Rule.judge?, rule, missing]

open Classical in
/-- The finalizer rule reports every leak and nothing else: under its id stands one diagnostic for
each operation outside generated code that leaves a type with a handle, in the order of the document
and at the type. The other rules may do what they like under other ids. -/
theorem run_reports_leaks {source : Option String} (before after : List Rule)
    (accepted : Compilation.ofJson snapshot source = .ok compilation)
    (enabled : config.isEnabled (descriptor buildingExtension) = true)
    (others : ∀ other ∈ before ++ after, other.Avoids "CA2216") :
    ∃ diagnostics,
      (Engine.run config (before ++ rule buildingExtension :: after) Signal.never
        compilation).diagnostics = some diagnostics ∧
      List.Forall₂ (Reports config buildingExtension snapshot)
        ((snapshot.analyzedOperations false).filter fun operation =>
          ∃ type, Leaks snapshot operation type)
        (diagnostics.filter (·.ruleId = "CA2216")) := by
  have described := described_of_ofJson accepted
  refine Engine.run_reports_documents accepted enabled (reportsAsItself buildingExtension) others
    ?_ ?_
  · rintro document site denoted ⟨entry, leaks⟩
    obtain ⟨types, found⟩ := (exists_resourceTypes_iff described).mpr leaks.declared
    obtain ⟨type, leaking, listed, named⟩ := (leaks_iff described found denoted entry).mp leaks
    obtain ⟨value, held, location⟩ := denoted.describes.location
    have member := leakingType?_mem described denoted leaking
    have about := described.describesType_of_name member listed named
    refine ⟨_, by rw [judge?_eq found, leaking]; rfl, ?_⟩
    exact ⟨entry, type.metadataName, type.name, value, _, type.locations, leaks, named,
      isSimpleName_name type, held, location, about.locations, rfl⟩
  · intro document site denoted sound
    cases found : resourceTypes? compilation with
    | none => exact judge?_of_inert found
    | some types =>
      rw [judge?_eq found, Option.map_eq_none_iff]
      by_contra leaking
      obtain ⟨type, leaking⟩ := Option.ne_none_iff_exists'.mp leaking
      have member := leakingType?_mem described denoted leaking
      obtain ⟨entry, listed, named⟩ := described.exists_typeEntry member
      exact sound ⟨entry, (leaks_iff described found denoted entry).mpr
        ⟨type, leaking, listed, named⟩⟩

/-- A class that is disposable through an interface of its base type, with a handle that written and
generated code assign alike. The destructor is that of the base type. -/
def leakySnapshot : Json :=
  let type (name : String) (members : Json.Members) : Json :=
    .object (("metadataName", .string name) :: ("typeKind", .string "class") :: members)
  let method (id : String) (members : Json.Members) : Json :=
    .object ([("id", .string id), ("name", .string id), ("containingType", .string "Lib.Base")]
      ++ members)
  let assignment : Json := Kind.simpleAssignment.document
    [("target", Kind.fieldReference.document [("field", .string "handle")]),
      ("value", Kind.invocation.document [("method", .string "open")])]
  let body : Json := Kind.block.document [("operations", .array
    [Kind.expressionStatement.document [("operation", assignment)]])]
  .object [("assemblyName", .string "Sample"),
    ("types", .array (handleNames.map (type · []) ++ [type disposableName [],
      type "Lib.IOwner" [("interfaces", .array [.string disposableName])],
      type "Lib.Base" [("interfaces", .array [.string "Lib.IOwner"])],
      type "Lib.Holder" [("baseType", .string "Lib.Base"),
        ("locations", .array [.fileStart, .fileStart])]])),
    ("methods", .array [method "open" [("dllImport", .object [("moduleName", .string "native")])],
      method "close" [("methodKind", .string "destructor")]]),
    ("fields", .array [.object [("id", .string "handle"), ("name", .string "handle"),
      ("containingType", .string "Lib.Holder"), ("type", .string "System.IntPtr")]]),
    ("operationBlocks", .array
      [.object [("owner", .string "open"), ("body", body)],
      .object [("owner", .string "close"), ("isGenerated", .bool true), ("body", body)]])]

open Classical in
theorem run_reports_leaks_leaky : ∃ compilation diagnostics,
    Compilation.ofJson leakySnapshot none = .ok compilation ∧
      (Engine.run Config.default (allRules false) Signal.never compilation).diagnostics =
        some diagnostics ∧
      (diagnostics.filter (·.ruleId = "CA2216")).length = 1 ∧
      List.Forall₂ (Reports Config.default false leakySnapshot)
        ((leakySnapshot.analyzedOperations false).filter fun operation =>
          ∃ type, Leaks leakySnapshot operation type)
        (diagnostics.filter (·.ruleId = "CA2216")) := by
  have others : ∀ other ∈ [CertificateValidation.rule false] ++ [], other.Avoids "CA2216" := by
    intro other member
    obtain rfl := List.mem_singleton.mp member
    exact (CertificateValidation.reportsAsItself false).avoids (by decide)
  have enabled : Config.default.isEnabled (descriptor false) = true := rfl
  obtain ⟨compilation, accepted, counted⟩ : ∃ compilation,
      Compilation.ofJson leakySnapshot none = .ok compilation ∧
      (Engine.run Config.default (allRules false) Signal.never compilation).diagnostics.map
        (fun all => (all.filter (·.ruleId = "CA2216")).length) = some 1 :=
    ⟨_, rfl, by decide +kernel⟩
  obtain ⟨diagnostics, ran, reported⟩ :=
    run_reports_leaks [CertificateValidation.rule false] [] accepted enabled others
  refine ⟨compilation, diagnostics, accepted, ran, ?_, reported⟩
  rw [show allRules false = [CertificateValidation.rule false] ++ rule false :: [] from rfl, ran]
    at counted
  exact Option.some.inj counted

end DisposableFinalizer

end OperationLint
