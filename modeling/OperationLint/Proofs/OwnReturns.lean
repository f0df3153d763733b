import OperationLint.Proofs.CallbackBodies

/-!
# Returns of the callback itself

The certificate rule looks at every return in the tree of a callback's body. Functions that are
written inside the body stand in the same tree, and their returns leave these functions, not the
callback. The rule takes them for returns of the callback.

## Main results

* `reported_has_own_return_iff`: which delegates are reported although the callback has no return of
  its own.
* `not_reported_has_own_return`: a callback that always throws is among them, for the return of a
  function in its body.

## Proof strategy

A return is found by its position in the body, and its own function by the operations on the way
there. The verdict speaks about the returns that count wherever they stand, so all that is left is
to tell the positions inside a function from the others.
-/

namespace OperationLint

namespace Operation

variable {τ μ φ : Type}

/-- A position lies below a function of the tree. -/
def InsideFunction (root : Operation τ μ φ) (position : Position) : Prop :=
  ∃ upper step lower function, position = upper ++ step :: lower ∧
    root.at? upper = some function ∧ function.kind = .anonymousFunction

/-- A return stands at a position. -/
def ReturnAt (root : Operation τ μ φ) (position : Position) (node : Operation τ μ φ) : Prop :=
  root.at? position = some node ∧ node.kind = .returns

/-- A return of the body stands in none of the functions inside the body. -/
def HasOwnReturn (body : Operation τ μ φ) : Prop :=
  ∃ position node, body.ReturnAt position node ∧ ¬ body.InsideFunction position

theorem not_insideFunction_nil (root : Operation τ μ φ) : ¬ root.InsideFunction [] := by
  rintro ⟨upper, step, lower, _, empty, _⟩
  exact absurd empty.symm (by simp)

theorem insideFunction_cons {root : Operation τ μ φ} {step : Nat} {rest : Position} :
    root.InsideFunction (step :: rest) ↔ root.kind = .anonymousFunction ∨
      ∃ child, root.children[step]? = some child ∧ child.InsideFunction rest := by
  constructor
  · rintro ⟨upper, next, lower, function, split, found, kind⟩
    -- The function is the root itself, or the way to it leads through the same child.
    cases upper with
    | nil =>
      obtain rfl := Option.some.inj found
      exact Or.inl kind
    | cons first upper =>
      obtain ⟨rfl, rfl⟩ := List.cons.inj split
      obtain ⟨child, there, found⟩ := at?_cons_eq_some.mp found
      exact Or.inr ⟨child, there, upper, next, lower, function, rfl, found, kind⟩
  · rintro (kind | ⟨child, there, upper, next, lower, function, rfl, found, kind⟩)
    · exact ⟨[], step, rest, root, rfl, rfl, kind⟩
    · exact ⟨step :: upper, next, lower, function, rfl,
        at?_cons_eq_some.mpr ⟨child, there, found⟩, kind⟩

/-- A search for own returns does not go into functions. -/
theorem hasOwnReturn_iff {body : Operation τ μ φ} :
    body.HasOwnReturn ↔ body.kind = .returns ∨
      body.kind ≠ .anonymousFunction ∧ ∃ child ∈ body.children, child.HasOwnReturn := by
  constructor
  · rintro ⟨position, node, ⟨found, kind⟩, outside⟩
    cases position with
    | nil =>
      obtain rfl := Option.some.inj found
      exact Or.inl kind
    | cons step rest =>
      obtain ⟨child, there, found⟩ := at?_cons_eq_some.mp found
      rw [insideFunction_cons, not_or] at outside
      refine Or.inr ⟨outside.1, child, List.mem_of_getElem? there, rest, node, ⟨found, kind⟩, ?_⟩
      exact fun inside => outside.2 ⟨child, there, inside⟩
  · rintro (kind | ⟨other, child, member, position, node, ⟨found, kind⟩, outside⟩)
    · exact ⟨[], body, ⟨rfl, kind⟩, not_insideFunction_nil body⟩
    · obtain ⟨step, there⟩ := List.getElem?_of_mem member
      refine ⟨step :: position, node, ⟨at?_cons_eq_some.mpr ⟨child, there, found⟩, kind⟩, ?_⟩
      rw [insideFunction_cons]
      rintro (function | ⟨same, thereToo, inside⟩)
      · exact other function
      · obtain rfl := Option.some.inj (there.symm.trans thereToo)
        exact outside inside

end Operation

namespace CertificateValidation

open Operation

variable {compilation : Compilation} {types : SignatureTypes} {evaluator : Evaluator}
  {buildingExtension : Bool}

/-- What a delegate made from a target runs: a function written in place, or a method whose body the
compilation has. -/
inductive Runs (compilation : Compilation) : BoundOperation → MethodSymbol → BoundOperation → Prop
  | inPlace (info : Info TypeSymbol) (function : MethodSymbol) (body : BoundOperation) :
      Runs compilation (.anonymousFunction info function body) function body
  | byName (info : Info TypeSymbol) {method : MethodSymbol} (receiver : Option BoundOperation)
      {body : BoundOperation} (owned : compilation.body? method = some body) :
      Runs compilation (.methodReference info method receiver) method body

/-- An operation of the body counts. In a body that was looked up, trees of the host do not. -/
def Counts (target node : BoundOperation) : Prop :=
  target.kind = .methodReference → ¬ node.Synthesized

/-- A method has the signature of the callback. -/
def IsValidator (method : MethodSymbol) : Prop :=
  (∃ type ∈ method.returnType, type.specialType = .boolean) ∧
    method.parameters.map (·.type.metadataName) = parameterNames

/-- No return of a body is its own. Some returns of functions inside it count, and all of these give
`true`. -/
structure TrustsOnlyInside (target body : BoundOperation) : Prop where
  foreign : ¬ body.HasOwnReturn
  counted : ∃ position node, body.ReturnAt position node ∧ body.InsideFunction position ∧
    Counts target node
  trusting : ∀ position node, body.ReturnAt position node → Counts target node →
    isReturnOfTrue node = true

theorem isValidator_iff (found : signatureTypes? compilation = some types) {method : MethodSymbol} :
    IsValidator method ↔ hasSignature types method = true := by
  rw [hasSignature_eq_true, (names_of_signatureTypes found).2, IsValidator]

/-- A verdict on operations, said of the positions of a body at which the returns among them
stand. -/
theorem alwaysReturnsTrue_iff_returnAt {operations : List BoundOperation}
    {target body : BoundOperation}
    (listed : ∀ node, node.kind = .returns →
      (node ∈ operations ↔ ∃ position, body.at? position = some node ∧ Counts target node)) :
    alwaysReturnsTrue operations = true ↔
      (∃ position node, body.ReturnAt position node ∧ Counts target node) ∧
      ∀ position node, body.ReturnAt position node → Counts target node →
        isReturnOfTrue node = true := by
  rw [alwaysReturnsTrue_eq_true]
  apply and_congr
  · constructor
    · rintro ⟨node, member, kind⟩
      obtain ⟨position, found, counts⟩ := (listed node kind).mp member
      exact ⟨position, node, ⟨found, kind⟩, counts⟩
    · rintro ⟨position, node, ⟨found, kind⟩, counts⟩
      exact ⟨node, (listed node kind).mpr ⟨position, found, counts⟩, kind⟩
  · constructor
    · rintro all position node ⟨found, kind⟩ counts
      exact all node ((listed node kind).mpr ⟨position, found, counts⟩) kind
    · intro all node member kind
      obtain ⟨position, found, counts⟩ := (listed node kind).mp member
      exact all position node ⟨found, kind⟩ counts

theorem accepts_of_runs {target body : BoundOperation} {method : MethodSymbol}
    (runs : Runs compilation target method body) (root : body.kind ≠ .returns)
    (info : Info TypeSymbol) :
    accepts compilation types (.delegateCreation info target) = true ↔
      info.type.any types.callback.sameAs = true ∧ hasSignature types method = true ∧
      (∃ position node, body.ReturnAt position node ∧ Counts target node) ∧
      ∀ position node, body.ReturnAt position node → Counts target node →
        isReturnOfTrue node = true := by
  cases runs with
  | inPlace functionInfo function body =>
    rw [accepts_inPlace, Bool.and_eq_true, Bool.and_eq_true]
    apply and_congr_right'
    apply and_congr_right'
    apply alwaysReturnsTrue_iff_returnAt
    intro node _
    rw [mem_descendantsAndSelf_iff]
    refine exists_congr fun position => (and_iff_left ?_).symm
    -- What is written in place counts altogether.
    intro other
    cases other
  | byName referenceInfo receiver owned =>
    rw [accepts_byName owned, Bool.and_eq_true, Bool.and_eq_true]
    apply and_congr_right'
    apply and_congr_right'
    apply alwaysReturnsTrue_iff_returnAt
    intro node kind
    rw [withoutSynthesized_eq_filter, List.mem_filter, mem_descendants_iff, decide_eq_true_iff]
    constructor
    · rintro ⟨⟨position, _, found⟩, written⟩
      exact ⟨position, found, fun _ => written⟩
    · rintro ⟨position, found, counts⟩
      refine ⟨⟨position, ?_, found⟩, counts rfl⟩
      -- The walk leaves the body itself out; but that is no return.
      rintro rfl
      obtain rfl := Option.some.inj found
      exact root kind

theorem reported_iff_returns {target body : BoundOperation} {method : MethodSymbol} {site : Site}
    {info : Info TypeSymbol} (active : (rule buildingExtension).start compilation = some evaluator)
    (creates : site.operation = .delegateCreation info target)
    (runs : Runs compilation target method body) (root : body.kind ≠ .returns)
    (severity : Severity) :
    (∃ diagnostic, evaluator severity site = .reported diagnostic) ↔
      IsCallback info ∧ IsValidator method ∧
      (∃ position node, body.ReturnAt position node ∧ Counts target node) ∧
      ∀ position node, body.ReturnAt position node → Counts target node →
        isReturnOfTrue node = true := by
  obtain ⟨types, found, _⟩ := start_eq_some active
  rw [reported_iff found active, creates, accepts_of_runs runs root, isCallback_iff found,
    isValidator_iff found]

/-- Nothing is reported but delegates of functions with a body. -/
theorem exists_runs_of_reported {target : BoundOperation} {site : Site} {info : Info TypeSymbol}
    (active : (rule buildingExtension).start compilation = some evaluator)
    (creates : site.operation = .delegateCreation info target) {severity : Severity}
    {diagnostic : Diagnostic} (reported : evaluator severity site = .reported diagnostic) :
    ∃ method body, Runs compilation target method body := by
  obtain ⟨types, found, _⟩ := start_eq_some active
  have accepted := (reported_iff found active severity site).mp ⟨diagnostic, reported⟩
  rw [creates] at accepted
  cases target with
  | anonymousFunction functionInfo function body => exact ⟨function, body, .inPlace _ _ _⟩
  | methodReference referenceInfo method receiver =>
    cases owned : compilation.body? method with
    | some body => exact ⟨method, body, .byName _ _ owned⟩
    | none => simp [accepts, function?, owned] at accepted
  | _ => simp [accepts, function?] at accepted

/-- A report is for a function with a return in its body. That the callback itself has a return
follows from it exactly where the delegate is not this: one of a validator that has no return of its
own, with functions inside its body of which some return that counts gives `true` and none gives
anything else. -/
theorem reported_has_own_return_iff {target : BoundOperation} {site : Site} {info : Info TypeSymbol}
    (active : (rule buildingExtension).start compilation = some evaluator)
    (creates : site.operation = .delegateCreation info target) (severity : Severity) :
    ((∃ diagnostic, evaluator severity site = .reported diagnostic) →
      ∃ method body, Runs compilation target method body ∧
        ∃ position node, body.ReturnAt position node) ∧
    ∀ method body, Runs compilation target method body →
      (((∃ diagnostic, evaluator severity site = .reported diagnostic) → body.HasOwnReturn) ↔
        ¬ (IsCallback info ∧ IsValidator method ∧ TrustsOnlyInside target body)) := by
  constructor
  · rintro ⟨diagnostic, reported⟩
    obtain ⟨method, body, runs⟩ := exists_runs_of_reported active creates reported
    refine ⟨method, body, runs, ?_⟩
    by_cases root : body.kind = .returns
    · exact ⟨[], body, rfl, root⟩
    · obtain ⟨_, _, ⟨position, node, found, _⟩, _⟩ :=
        (reported_iff_returns active creates runs root severity).mp ⟨diagnostic, reported⟩
      exact ⟨position, node, found⟩
  · intro method body runs
    by_cases own : body.HasOwnReturn
    · exact iff_of_true (fun _ => own) fun ⟨_, _, inside⟩ => inside.foreign own
    · -- Without an own return the body is no return, and every return stands in a function.
      have root : body.kind ≠ .returns := fun kind => own (hasOwnReturn_iff.mpr (Or.inl kind))
      have inside {position : Position} {node : BoundOperation}
          (found : body.ReturnAt position node) : body.InsideFunction position := by
        by_contra outside
        exact own ⟨position, node, found, outside⟩
      rw [imp_iff_not own, not_iff_not, reported_iff_returns active creates runs root]
      constructor
      · rintro ⟨callback, validator, ⟨position, node, found, counts⟩, trusting⟩
        exact ⟨callback, validator, own, ⟨position, node, found, inside found, counts⟩, trusting⟩
      · rintro ⟨callback, validator, _, ⟨position, node, found, _, counts⟩, trusting⟩
        exact ⟨callback, validator, ⟨position, node, found, counts⟩, trusting⟩

/-- A callback that always throws. Before, it declares a function that returns `true`. -/
def refusingSnapshot : Json :=
  let type (name : String) (members : Json.Members) : Json :=
    .object (("metadataName", .string name) :: ("typeKind", .string "class") :: members)
  let method (id : String) (parameters : List String) : Json := .object
    [("id", .string id), ("name", .string id), ("containingType", .string "System.Object"),
      ("returnType", .string "System.Boolean"),
      ("parameters", .array (parameters.map fun type =>
        .object [("name", .string "parameter"), ("type", .string type)]))]
  let block (operations : List Json) : Json :=
    Kind.block.document [("operations", .array operations)]
  let function (symbol : String) (operations : List Json) : Json :=
    Kind.anonymousFunction.document [("symbol", .string symbol), ("body", block operations)]
  let returnTrue : Json := Kind.returns.document
    [("returnedValue", Kind.literal.document [("constantValue", .bool true)])]
  let refuse : Json := function "refuse"
    [Kind.variableDeclaration.document
      [("local", .string "helper"), ("initializer", function "helper" [returnTrue])],
    Kind.throws.document []]
  .object [("assemblyName", .string "Sample"),
    ("types", .array (type "System.Boolean" [("specialType", .string "System_Boolean")] ::
      (callbackName :: parameterNames).map (type · []))),
    ("methods", .array [method "main" [], method "refuse" parameterNames, method "helper" []]),
    ("operationBlocks", .array [.object [("owner", .string "main"), ("body", block
      [Kind.delegateCreation.document [("type", .string callbackName), ("target", refuse)]])]])]

/-- The callback is reported, although it has no return of its own. -/
theorem refusing_reported : ∃ compilation evaluator site info target method body,
    Compilation.ofJson refusingSnapshot none = .ok compilation ∧
    (rule false).start compilation = some evaluator ∧ site.block ∈ compilation.blocks ∧
    site.operation ∈ site.block.body.descendantsAndSelf ∧
    site.operation = .delegateCreation info target ∧ Runs compilation target method body ∧
    ¬ body.HasOwnReturn ∧ ∃ diagnostic, evaluator .warning site = .reported diagnostic := by
  obtain ⟨compilation, types, block, info, functionInfo, refuse, body, accepted, found, blocks,
    delegated, judged, bodyInfo, declared, helperInfo, helper, helperBody, thrown, written⟩ :
      ∃ compilation types block info functionInfo refuse body,
        Compilation.ofJson refusingSnapshot none = .ok compilation ∧
        signatureTypes? compilation = some types ∧ compilation.blocks = [block] ∧
        block.body.at? [0] =
          some (.delegateCreation info (.anonymousFunction functionInfo refuse body)) ∧
        accepts compilation types
          (.delegateCreation info (.anonymousFunction functionInfo refuse body)) = true ∧
        ∃ bodyInfo declared helperInfo helper helperBody thrown,
          body = .block bodyInfo [.variableDeclaration declared "helper"
            (some (.anonymousFunction helperInfo helper helperBody)), .throws thrown none] :=
    ⟨_, _, _, _, _, _, _, rfl, rfl, rfl, rfl, by decide +kernel, _, _, _, _, _, _, rfl⟩
  obtain ⟨evaluator, active⟩ : ∃ evaluator, (rule false).start compilation = some evaluator :=
    ⟨_, Option.map_eq_some_iff.mpr ⟨types, found, rfl⟩⟩
  refine ⟨compilation, evaluator, ⟨block, _, 1⟩, info, _, refuse, body, accepted, active, ?_,
    mem_descendantsAndSelf_iff.mpr ⟨[0], delegated⟩, rfl, .inPlace functionInfo refuse body, ?_,
    (reported_iff found active _ _).mpr judged⟩
  · exact blocks ▸ List.mem_singleton_self block
  · -- The function inside is not entered, and what is left has no return.
    have function : ¬ (anonymousFunction helperInfo helper helperBody).HasOwnReturn := by
      rw [hasOwnReturn_iff]
      simp [kind]
    have declaration : ¬ (variableDeclaration declared "helper"
        (some (anonymousFunction helperInfo helper helperBody))).HasOwnReturn := by
      rw [hasOwnReturn_iff]
      simp [kind, children, function]
    have throw : ¬ (throws thrown none : BoundOperation).HasOwnReturn := by
      rw [hasOwnReturn_iff]
      simp [kind, children]
    rw [written, hasOwnReturn_iff]
    simp [kind, children, declaration, throw]

/-- Not every reported callback has a return of its own. -/
theorem not_reported_has_own_return : ¬ ∀ (document : Json) (source : Option String)
    (compilation : Compilation) (evaluator : Evaluator) (site : Site) (info : Info TypeSymbol)
    (target : BoundOperation) (method : MethodSymbol) (body : BoundOperation),
    Compilation.ofJson document source = .ok compilation →
    (rule false).start compilation = some evaluator → site.block ∈ compilation.blocks →
    site.operation ∈ site.block.body.descendantsAndSelf →
    site.operation = .delegateCreation info target → Runs compilation target method body →
    (∃ diagnostic, evaluator .warning site = .reported diagnostic) → body.HasOwnReturn := by
  intro always
  obtain ⟨compilation, evaluator, site, info, target, method, body, accepted, active, block,
    visited, creates, runs, foreign, reported⟩ := refusing_reported
  exact foreign (always _ _ _ _ _ _ _ _ _ accepted active block visited creates runs reported)

theorem reported_has_own_return_iff_refusing : ∃ evaluator site info target method body,
    (∃ compilation, Compilation.ofJson refusingSnapshot none = .ok compilation ∧
      (rule false).start compilation = some evaluator ∧ Runs compilation target method body) ∧
    site.operation = .delegateCreation info target ∧
    (∃ diagnostic, evaluator .warning site = .reported diagnostic) ∧
    IsCallback info ∧ IsValidator method ∧ TrustsOnlyInside target body := by
  obtain ⟨compilation, evaluator, site, info, target, method, body, accepted, active, _, _, creates,
    runs, foreign, reported⟩ := refusing_reported
  have decided := (reported_has_own_return_iff active creates .warning).2 method body runs
  have inside : IsCallback info ∧ IsValidator method ∧ TrustsOnlyInside target body := by
    by_contra spared
    exact foreign (decided.mpr spared reported)
  exact ⟨evaluator, site, info, target, method, body, ⟨compilation, accepted, active, runs⟩,
    creates, reported, inside⟩

end CertificateValidation

end OperationLint
