import OperationLint.Proofs.DocumentRuns
import OperationLint.Rule.Catalog

/-!
# Callbacks that accept every certificate

What the certificate rule reports, said about the document alone. `IsHole` spells out which
operations open a hole: a delegate of the callback type, made from a function with the callback's
signature in whose body every return gives `true`.

## Main result

`run_reports_holes`: the diagnostics of the rule are one for each hole, in the order of the
document.

## Proof strategy

Each question that the rule asks of an operation or of a symbol is matched with the same question to
the document, up to `accepts_iff`; the run is then `Engine.run_reports_documents`.
-/

namespace OperationLint.CertificateValidation

open Compilation

/-! ### Holes -/

def callbackName : String := "System.Net.Security.RemoteCertificateValidationCallback"

/-- The types of the callback's parameters. -/
def parameterNames : List String :=
  ["System.Object", "System.Security.Cryptography.X509Certificates.X509Certificate",
    "System.Security.Cryptography.X509Certificates.X509Chain",
    "System.Net.Security.SslPolicyErrors"]

/-- The entry of a method that returns a truth value and takes the four parameters of the
callback. -/
def HasCallbackSignature (snapshot method : Json) : Prop :=
  (∃ type ∈ snapshot.entries "types", type.text? "metadataName" = method.text? "returnType" ∧
    type.text? "specialType" = some "System_Boolean") ∧
  (method.entries "parameters").map (·.text? "type") = parameterNames.map some

/-- A member names a method with the callback's signature. -/
def NamesCallback (snapshot document : Json) (member : String) : Prop :=
  ∃ method ∈ snapshot.entries "methods", method.text? "id" = document.text? member ∧
    HasCallbackSignature snapshot method

/-- There is a return, and every return gives the constant `true`. -/
def ReturnOnlyTrue (operations : List Json) : Prop :=
  (∃ operation ∈ operations, operation.IsKind .returns) ∧
  ∀ operation ∈ operations, operation.IsKind .returns →
    ∃ value ∈ operation.part? "returnedValue", value.flag? "constantValue" = some true

/-- The host made the operation and everything below it. -/
def Synthesized (operation : Json) : Prop :=
  ∀ node ∈ operation.preorder, node.flag? "isImplicit" = some true

instance (snapshot method : Json) : Decidable (HasCallbackSignature snapshot method) :=
  inferInstanceAs (Decidable (_ ∧ _))

instance (snapshot document : Json) (member : String) :
    Decidable (NamesCallback snapshot document member) :=
  inferInstanceAs (Decidable (∃ method ∈ snapshot.entries "methods", _))

instance (operations : List Json) : Decidable (ReturnOnlyTrue operations) :=
  inferInstanceAs (Decidable (_ ∧ _))

instance (operation : Json) : Decidable (Synthesized operation) :=
  inferInstanceAs (Decidable (∀ node ∈ operation.preorder, _))

/-- A function written in place that accepts everything. -/
def AcceptsInPlace (snapshot target : Json) : Prop :=
  target.IsKind .anonymousFunction ∧ NamesCallback snapshot target "symbol" ∧
    ReturnOnlyTrue target.preorder

/-- A method that accepts everything: below its body, what the host made altogether does not
count. -/
def AcceptsByName (snapshot target : Json) : Prop :=
  target.IsKind .methodReference ∧ NamesCallback snapshot target "method" ∧
    ∃ block ∈ snapshot.entries "operationBlocks", block.text? "owner" = target.text? "method" ∧
      ReturnOnlyTrue (block.blockOperations.tail.filter fun operation => ¬ Synthesized operation)

/-- An operation that lets every certificate pass. -/
def IsHole (snapshot operation : Json) : Prop :=
  (∀ name ∈ callbackName :: parameterNames, snapshot.DeclaresType name) ∧
  operation.IsKind .delegateCreation ∧ operation.text? "type" = some callbackName ∧
  ∃ target ∈ operation.part? "target",
    AcceptsInPlace snapshot target ∨ AcceptsByName snapshot target

instance (snapshot target : Json) : Decidable (AcceptsInPlace snapshot target) :=
  inferInstanceAs (Decidable (_ ∧ _))

instance (snapshot target : Json) : Decidable (AcceptsByName snapshot target) :=
  inferInstanceAs (Decidable (_ ∧ _))

instance (snapshot operation : Json) : Decidable (IsHole snapshot operation) :=
  inferInstanceAs (Decidable (_ ∧ _))

variable {snapshot : Json} {compilation : Compilation} {types : SignatureTypes}

/-! ### Signatures -/

theorem exists_signatureTypes_iff (described : Described snapshot compilation) :
    (∃ types, signatureTypes? compilation = some types) ↔
      ∀ name ∈ callbackName :: parameterNames, snapshot.DeclaresType name := by
  simp only [← described.exists_type?_iff]
  simp [signatureTypes?, callbackName, parameterNames, Option.bind_eq_some_iff]

/-- The types that were found have the names that were looked up. -/
theorem names_of_signatureTypes (found : signatureTypes? compilation = some types) :
    types.callback.metadataName = callbackName ∧
      [types.object.metadataName, types.certificate.metadataName, types.chain.metadataName,
        types.policyErrors.metadataName] = parameterNames := by
  simp only [signatureTypes?, Option.bind_eq_bind, Option.bind_eq_some_iff, Option.pure_def,
    Option.some.injEq] at found
  obtain ⟨callback, first, object, second, certificate, third, chain, fourth, errors, fifth, rfl⟩ :=
    found
  exact ⟨(type?_eq_some first).1, by
    rw [(type?_eq_some second).1, (type?_eq_some third).1, (type?_eq_some fourth).1,
      (type?_eq_some fifth).1, parameterNames]⟩

/-- The check of the parameters compares lists of names. -/
theorem hasSignature_eq_true {method : MethodSymbol} :
    hasSignature types method = true ↔
      (∃ type ∈ method.returnType, type.specialType = .boolean) ∧
      method.parameters.map (·.type.metadataName) =
        [types.object.metadataName, types.certificate.metadataName, types.chain.metadataName,
          types.policyErrors.metadataName] := by
  unfold hasSignature
  rw [Bool.and_eq_true, Option.any_eq_true]
  simp only [decide_eq_true_eq, Option.mem_def]
  refine and_congr_right fun _ => ?_
  split
  next sender certificate chain errors listed =>
    simp [listed, TypeSymbol.sameAs, and_assoc]
  next other =>
    refine iff_of_false (by simp) ?_
    intro same
    -- Four names come from four parameters, and those would have matched.
    obtain ⟨first, rest, listed, _, same⟩ := List.map_eq_cons_iff.mp same
    obtain ⟨second, rest, rfl, _, same⟩ := List.map_eq_cons_iff.mp same
    obtain ⟨third, rest, rfl, _, same⟩ := List.map_eq_cons_iff.mp same
    obtain ⟨fourth, rest, rfl, _, same⟩ := List.map_eq_cons_iff.mp same
    obtain rfl := List.map_eq_nil_iff.mp same
    exact other first second third fourth listed

/-- The return type of a method has an entry for truth values. -/
theorem returnsBoolean_iff (described : Described snapshot compilation) {method : MethodSymbol}
    (member : method ∈ compilation.methods) {entry : Json}
    (about : Naming.bound.DescribesMethod entry method) :
    (∃ type ∈ snapshot.entries "types", type.text? "metadataName" = entry.text? "returnType" ∧
      type.text? "specialType" = some "System_Boolean") ↔
      ∃ type ∈ method.returnType, type.specialType = .boolean := by
  rw [about.returnType]
  cases returned : method.returnType with
  | none =>
    -- Every entry of a type has a name, so none is named by a missing return type.
    have unnamed : (∃ type ∈ snapshot.entries "types",
        type.text? "metadataName" = none ∧ type.text? "specialType" = some "System_Boolean") ↔
        ∃ type ∈ compilation.types, False := by
      refine exists_mem_iff_of_forall₂ described.types ?_
      intro type symbol _ written
      simp [written.metadataName]
    simpa using unnamed
  | some type =>
    have different : SpecialType.none ≠ .boolean := by decide
    have declared := described.returnTypes method member type returned
    have entry : (∃ document ∈ snapshot.entries "types",
        document.text? "metadataName" = some type.metadataName ∧
          document.text? "specialType" = some "System_Boolean") ↔ type.specialType = .boolean :=
      described.exists_type_iff declared fun document written =>
        Json.written_iff SpecialType.name_injective different written.specialType
    simpa [Naming.bound] using entry

theorem hasSignature_iff (described : Described snapshot compilation)
    (found : signatureTypes? compilation = some types) {method : MethodSymbol}
    (member : method ∈ compilation.methods) {entry : Json}
    (about : Naming.bound.DescribesMethod entry method) :
    HasCallbackSignature snapshot entry ↔ hasSignature types method = true := by
  have names : method.parameters.map (fun parameter => some parameter.type.metadataName) =
      (method.parameters.map (·.type.metadataName)).map some := by
    rw [List.map_map]
    rfl
  rw [hasSignature_eq_true, HasCallbackSignature, returnsBoolean_iff described member about,
    (names_of_signatureTypes found).2, about.parameters]
  refine and_congr_right fun _ => ?_
  rw [show Naming.bound.type = TypeSymbol.metadataName from rfl, names]
  exact (List.map_injective_iff.mpr fun _ _ => Option.some.inj).eq_iff

/-- A member that holds the id of a method names a callback exactly when the method has the
signature. -/
theorem namesCallback_iff (described : Described snapshot compilation)
    (found : signatureTypes? compilation = some types) {method : MethodSymbol}
    (member : method ∈ compilation.methods) {document : Json} {name : String}
    (named : document.text? name = some method.id) :
    NamesCallback snapshot document name ↔ hasSignature types method = true := by
  rw [NamesCallback, named]
  exact described.exists_method_iff member fun entry about =>
    hasSignature_iff described found member about

/-! ### Returns -/

variable {symbols : Symbols} {document : Json} {operation : BoundOperation}

theorem isReturnOfTrue_iff (denoted : Operation.Denotes symbols document operation)
    (kind : operation.kind = .returns) :
    (∃ value ∈ document.part? "returnedValue", value.flag? "constantValue" = some true) ↔
      isReturnOfTrue operation = true := by
  cases operation with
  | returns info value =>
    have held := denoted.returnedValue
    cases returned : document.part? "returnedValue" with
    | none =>
      rw [returned] at held
      cases held
      simp [isReturnOfTrue]
    | some inner =>
      rw [returned] at held
      cases held with
      | some innerDenoted =>
        simpa [isReturnOfTrue] using innerDenoted.flag?_constantValue
  | _ => cases kind

theorem alwaysReturnsTrue_eq_true {operations : List BoundOperation} :
    alwaysReturnsTrue operations = true ↔
      (∃ operation ∈ operations, operation.kind = .returns) ∧
      ∀ operation ∈ operations, operation.kind = .returns → isReturnOfTrue operation = true := by
  simp only [alwaysReturnsTrue, Bool.and_eq_true, Bool.not_eq_true',
    List.isEmpty_eq_false_iff_exists_mem, List.all_eq_true, List.mem_filter, decide_eq_true_eq,
    and_imp]

theorem returnOnlyTrue_iff {documents : List Json} {operations : List BoundOperation}
    (related : List.Forall₂ (Operation.Denotes symbols) documents operations) :
    ReturnOnlyTrue documents ↔ alwaysReturnsTrue operations = true := by
  rw [alwaysReturnsTrue_eq_true, ReturnOnlyTrue]
  refine and_congr ?_ ?_
  · exact exists_mem_iff_of_forall₂ related fun _ _ _ denoted => denoted.isKind_iff
  · refine forall_mem_iff_of_forall₂ related ?_
    intro document operation denoted
    rw [denoted.isKind_iff]
    exact forall_congr' fun kind => isReturnOfTrue_iff denoted kind

/-- The documents below an operation denote its descendants. -/
theorem denotes_below (denoted : Operation.Denotes symbols document operation) :
    List.Forall₂ (Operation.Denotes symbols) document.preorder.tail operation.descendants := by
  have all := denoted.preorder
  rw [Json.preorder_eq_cons, Operation.descendantsAndSelf] at all
  rw [Json.preorder_eq_cons]
  exact (List.forall₂_cons.mp all).2

theorem synthesized_iff (denoted : Operation.Denotes symbols document operation) :
    Synthesized document ↔ operation.isFullySynthesized = true := by
  rw [Operation.isFullySynthesized_eq_true, Synthesized]
  exact forall_mem_iff_of_forall₂ denoted.preorder fun _ _ inner => inner.flag?_isImplicit

theorem denotes_withoutSynthesized {documents : List Json} {operations : List BoundOperation}
    (related : List.Forall₂ (Operation.Denotes symbols) documents operations) :
    List.Forall₂ (Operation.Denotes symbols)
      (documents.filter fun operation => ¬ Synthesized operation)
      (Operation.withoutSynthesized operations) := by
  refine List.rel_filter ?_ related
  intro document operation denoted
  simpa using (synthesized_iff denoted).not

/-! ### Functions -/

theorem acceptsInPlace_iff (described : Described snapshot compilation)
    (found : signatureTypes? compilation = some types) {info : Info TypeSymbol}
    {symbol : MethodSymbol} {body : BoundOperation}
    (denoted : Operation.Denotes compilation.symbols document
      (.anonymousFunction info symbol body)) :
    AcceptsInPlace snapshot document ↔ hasSignature types symbol = true ∧
      alwaysReturnsTrue (Operation.anonymousFunction info symbol body).descendants = true := by
  have kind : document.IsKind .anonymousFunction := denoted.isKind_iff.mpr rfl
  have member : symbol ∈ compilation.methods :=
    denoted.mem_methods symbol (by simp [Operation.methodRefs])
  have named : document.text? "symbol" = some symbol.id :=
    denoted.text?_of_payload (by simp [Operation.payload, Naming.bound])
  -- The function itself is no return, so only what stands below it counts.
  have root : alwaysReturnsTrue (Operation.anonymousFunction info symbol body).descendantsAndSelf =
      alwaysReturnsTrue (Operation.anonymousFunction info symbol body).descendants := by
    simp [alwaysReturnsTrue, Operation.descendantsAndSelf, Operation.kind]
  rw [AcceptsInPlace, namesCallback_iff described found member named,
    returnOnlyTrue_iff denoted.preorder, root]
  simp [kind]

/-- A block entry of a method returns only `true` exactly when the body that is looked up does. -/
theorem ownedBlock_iff (described : Described snapshot compilation) (method : MethodSymbol) :
    (∃ block ∈ snapshot.entries "operationBlocks", block.text? "owner" = some method.id ∧
      ReturnOnlyTrue (block.blockOperations.tail.filter fun operation => ¬ Synthesized operation)) ↔
    ∃ body, compilation.body? method = some body ∧
      alwaysReturnsTrue (Operation.withoutSynthesized body.descendants) = true := by
  cases looked : compilation.blocks.find? (·.owner.id == method.id) with
  | none =>
    have absent : (∃ block ∈ snapshot.entries "operationBlocks", block.text? "owner" =
        some method.id ∧ ReturnOnlyTrue
          (block.blockOperations.tail.filter fun operation => ¬ Synthesized operation)) ↔
        ∃ block ∈ compilation.blocks, False := by
      refine exists_mem_iff_of_forall₂ described.blocks ?_
      intro entry block inside about
      have different := List.find?_eq_none.mp looked block inside
      simp only [beq_iff_eq] at different
      simp [about.owner, different]
    rw [absent]
    simp [Compilation.body?, looked]
  | some block =>
    -- Owners are distinct, so the first block of the method is its only one.
    have member := List.mem_of_find?_eq_some looked
    have owner : block.owner.id = method.id := by simpa using List.find?_some looked
    rw [← owner]
    have body : compilation.body? method = some block.body := by simp [Compilation.body?, looked]
    simp only [body, Option.some.injEq, exists_eq_left']
    refine described.exists_block_iff member ?_
    intro entry about
    obtain ⟨bodyDocument, held, denoted⟩ := about.body
    rw [Json.blockOperations, held]
    exact returnOnlyTrue_iff (denotes_withoutSynthesized (denotes_below denoted))

theorem acceptsByName_iff (described : Described snapshot compilation)
    (found : signatureTypes? compilation = some types) {info : Info TypeSymbol}
    {method : MethodSymbol} {receiver : Option BoundOperation}
    (denoted : Operation.Denotes compilation.symbols document
      (.methodReference info method receiver)) :
    AcceptsByName snapshot document ↔ hasSignature types method = true ∧
      ∃ body, compilation.body? method = some body ∧
        alwaysReturnsTrue (Operation.withoutSynthesized body.descendants) = true := by
  have kind : document.IsKind .methodReference := denoted.isKind_iff.mpr rfl
  have member : method ∈ compilation.methods :=
    denoted.mem_methods method (by simp [Operation.methodRefs])
  have named : document.text? "method" = some method.id :=
    denoted.text?_of_payload (by simp [Operation.payload, Naming.bound])
  rw [AcceptsByName, namesCallback_iff described found member named, named,
    ownedBlock_iff described method]
  simp [kind]

/-! ### Delegates -/

/-- The target of a delegate accepts everything. -/
theorem target_accepts_iff (described : Described snapshot compilation)
    (found : signatureTypes? compilation = some types)
    (denoted : Operation.Denotes compilation.symbols document operation) :
    (AcceptsInPlace snapshot document ∨ AcceptsByName snapshot document) ↔
      ∃ method operations, function? compilation operation = some (method, operations) ∧
        hasSignature types method = true ∧ alwaysReturnsTrue operations = true := by
  cases operation with
  | anonymousFunction info symbol body =>
    have named : ¬ document.IsKind .methodReference := by simp [denoted.isKind_iff, Operation.kind]
    rw [acceptsInPlace_iff described found denoted]
    simp [AcceptsByName, named, function?]
  | methodReference info method receiver =>
    have inPlace : ¬ document.IsKind .anonymousFunction := by
      simp [denoted.isKind_iff, Operation.kind]
    rw [acceptsByName_iff described found denoted]
    simp only [AcceptsInPlace, inPlace, false_and, false_or, function?, Option.map_eq_some_iff,
      Prod.mk.injEq]
    constructor
    · rintro ⟨signature, body, looked, returns⟩
      exact ⟨method, _, ⟨body, looked, rfl, rfl⟩, signature, returns⟩
    · rintro ⟨_, _, ⟨body, looked, rfl, rfl⟩, signature, returns⟩
      exact ⟨signature, body, looked, returns⟩
  | _ =>
    have neither : ¬ document.IsKind .anonymousFunction ∧ ¬ document.IsKind .methodReference := by
      simp [denoted.isKind_iff, Operation.kind]
    simp [AcceptsInPlace, AcceptsByName, neither, function?]

theorem accepts_iff (described : Described snapshot compilation)
    (found : signatureTypes? compilation = some types)
    (denoted : Operation.Denotes compilation.symbols document operation) :
    IsHole snapshot document ↔ accepts compilation types operation = true := by
  have declared := (exists_signatureTypes_iff described).mp ⟨types, found⟩
  cases operation with
  | delegateCreation info target =>
    have kind : document.IsKind .delegateCreation := denoted.isKind_iff.mpr rfl
    have type : document.text? "type" = some callbackName ↔
        info.type.any types.callback.sameAs = true := by
      rw [denoted.text?_type, ← (names_of_signatureTypes found).1]
      cases typed : info.type with
      | none => simp [Operation.info, typed]
      | some symbol =>
        simp only [Operation.info, typed, Option.map_some, Option.any_some, TypeSymbol.sameAs,
          beq_iff_eq, Option.some.injEq]
        exact eq_comm
    have held := denoted.delegateTarget
    cases part : document.part? "target" with
    | none =>
      rw [part] at held
      cases held
    | some inner =>
      rw [part] at held
      cases held with
      | some innerDenoted =>
        simp only [IsHole, iff_true_intro declared, kind, true_and, part, Option.mem_some_iff,
          exists_eq_left', target_accepts_iff described found innerDenoted, accepts,
          Bool.and_eq_true, ← type]
        rcases function? compilation target with _ | ⟨method, operations⟩
        · simp
        · simp
  | _ =>
    have other : ¬ document.IsKind .delegateCreation := by
      simp [denoted.isKind_iff, Operation.kind]
    simp [IsHole, other, accepts]

/-! ### Reports -/

/-- The diagnostic for an operation, at the location that its document gives. -/
def Reports (config : Config) (buildingExtension : Bool) (operation : Json)
    (diagnostic : Diagnostic) : Prop :=
  ∃ value location, operation.member? "location" = some value ∧ value.IsLocation location ∧
    diagnostic = (descriptor buildingExtension).diagnostic
      (config.severityOf (descriptor buildingExtension)) location [] []

variable {config : Config} {buildingExtension : Bool} {site : Site}

theorem judge?_of_accepts (found : signatureTypes? compilation = some types)
    (accepted : accepts compilation types site.operation = true) :
    (rule buildingExtension).judge? config compilation site =
      some ((descriptor buildingExtension).diagnostic
        (config.severityOf (descriptor buildingExtension)) site.operation.location [] []) := by
  have kind : site.operation.kind = .delegateCreation := by
    cases operation : site.operation <;> simp_all [accepts, Operation.kind]
  simp [Rule.judge?, rule, found, kind, accepted, Verdict.diagnostic?]

theorem judge?_of_not_accepts (found : signatureTypes? compilation = some types)
    (spared : accepts compilation types site.operation = false) :
    (rule buildingExtension).judge? config compilation site = none := by
  simp [Rule.judge?, rule, found, spared, Verdict.diagnostic?]

theorem judge?_of_inert (missing : signatureTypes? compilation = none) :
    (rule buildingExtension).judge? config compilation site = none := by
  simp [Rule.judge?, rule, missing]

/-- The certificate rule reports every hole and nothing else: under its id stands one diagnostic for
each hole of the document, generated code included, in the order of the document and at the location
of the hole. The other rules may do what they like under other ids. -/
theorem run_reports_holes {source : Option String} (before after : List Rule)
    (accepted : Compilation.ofJson snapshot source = .ok compilation)
    (enabled : config.isEnabled (descriptor buildingExtension) = true)
    (others : ∀ other ∈ before ++ after, other.Avoids "CA5359") :
    ∃ diagnostics,
      (Engine.run config (before ++ rule buildingExtension :: after) Signal.never
        compilation).diagnostics = some diagnostics ∧
      List.Forall₂ (Reports config buildingExtension)
        ((snapshot.analyzedOperations true).filter fun operation => IsHole snapshot operation)
        (diagnostics.filter (·.ruleId = "CA5359")) := by
  have described := described_of_ofJson accepted
  refine Engine.run_reports_documents accepted enabled (reportsAsItself buildingExtension) others
    ?_ ?_
  · intro document site denoted hole
    obtain ⟨types, found⟩ := (exists_signatureTypes_iff described).mpr hole.1
    obtain ⟨value, held, location⟩ := denoted.describes.location
    have judged := (accepts_iff described found denoted).mp hole
    exact ⟨_, judge?_of_accepts found judged, value, _, held, location, rfl⟩
  · intro document site denoted sound
    cases found : signatureTypes? compilation with
    | none => exact judge?_of_inert found
    | some types =>
      have judged := (accepts_iff described found denoted).not.mp sound
      exact judge?_of_not_accepts found (by simpa using judged)

/-- Generated code installs two callbacks. One is written in place and returns `true` in a nested
block; the other is a method whose only written return gives `true`, behind a return of the host. -/
def trustingSnapshot : Json :=
  let type (name : String) (members : Json.Members) : Json :=
    .object (("metadataName", .string name) :: ("typeKind", .string "class") :: members)
  let method (id : String) : Json := .object
    [("id", .string id), ("name", .string id), ("containingType", .string "System.Object"),
      ("returnType", .string "System.Boolean"),
      ("parameters", .array (parameterNames.map fun type =>
        .object [("name", .string "parameter"), ("type", .string type)]))]
  let block (operations : List Json) : Json :=
    Kind.block.document [("operations", .array operations)]
  let delegate (target : Json) : Json :=
    Kind.delegateCreation.document [("type", .string callbackName), ("target", target)]
  let returnTrue : Json := Kind.returns.document
    [("returnedValue", Kind.literal.document [("constantValue", .bool true)])]
  let inPlace : Json := Kind.anonymousFunction.document
    [("symbol", .string "trust"), ("body", block [block [returnTrue]])]
  let byName : Json := Kind.methodReference.document [("method", .string "trust")]
  .object [("assemblyName", .string "Sample"),
    ("types", .array (type "System.Boolean" [("specialType", .string "System_Boolean")] ::
      (callbackName :: parameterNames).map (type · []))),
    ("methods", .array [method "main", method "trust"]),
    ("operationBlocks", .array
      [.object [("owner", .string "main"), ("isGenerated", .bool true),
        ("body", block [delegate inPlace, delegate byName])],
      .object [("owner", .string "trust"),
        ("body", block [Kind.returns.document [("isImplicit", .bool true)], returnTrue])]])]

theorem run_reports_holes_trusting : ∃ compilation diagnostics,
    Compilation.ofJson trustingSnapshot none = .ok compilation ∧
      (Engine.run Config.default (allRules false) Signal.never compilation).diagnostics =
        some diagnostics ∧
      ((trustingSnapshot.analyzedOperations true).filter fun operation =>
        IsHole trustingSnapshot operation).length = 2 ∧
      List.Forall₂ (Reports Config.default false)
        ((trustingSnapshot.analyzedOperations true).filter fun operation =>
          IsHole trustingSnapshot operation)
        (diagnostics.filter (·.ruleId = "CA5359")) := by
  have others : ∀ other ∈ [] ++ [DisposableFinalizer.rule false], other.Avoids "CA5359" := by
    intro other member
    obtain rfl := List.mem_singleton.mp member
    exact (DisposableFinalizer.reportsAsItself false).avoids (by decide)
  obtain ⟨compilation, accepted⟩ :
      ∃ compilation, Compilation.ofJson trustingSnapshot none = .ok compilation := ⟨_, rfl⟩
  have enabled : Config.default.isEnabled (descriptor false) = true := rfl
  obtain ⟨diagnostics, ran, reported⟩ :=
    run_reports_holes [] [DisposableFinalizer.rule false] accepted enabled others
  exact ⟨compilation, diagnostics, accepted, ran, by decide +kernel, reported⟩

end OperationLint.CertificateValidation
