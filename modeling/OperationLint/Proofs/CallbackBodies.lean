import Mathlib.Logic.Relation
import OperationLint.Proofs.CertificateCallbacks
import OperationLint.Proofs.HostInsertions

/-!
# Bodies of callbacks

The certificate rule finds the body of a callback in two ways. That of a function written in place
stands below the delegate. That of a method is looked up, and there the host may have put in trees
of its own.

## Main results

* `verdict_of_hostInsertions`: what the host puts into the body of a method changes no verdict on a
  delegate that names the method.
* `reported_inPlace_iff_byName`: a delegate of a function written in place is reported exactly when
  a delegate of a method with the same signature and the same body is, unless the host made a return
  in the body.

## Proof strategy

A verdict depends on the signature and on the returns among the operations that count. Insertions
keep these operations up to what stands below them, and without a return of the host filtering the
walk takes no return away.
-/

namespace OperationLint

/-- The compilation with another body for a method. -/
def Compilation.withBody (compilation : Compilation) (method : MethodSymbol)
    (body : BoundOperation) : Compilation :=
  { compilation with
    blocks := compilation.blocks.map fun block =>
      if block.owner.id = method.id then { block with body } else block }

theorem Compilation.body?_withBody {compilation : Compilation} {method : MethodSymbol}
    {old : BoundOperation} (owned : compilation.body? method = some old) (body : BoundOperation) :
    (compilation.withBody method body).body? method = some body := by
  obtain ⟨block, found, rfl⟩ := Option.map_eq_some_iff.mp owned
  have owner : block.owner.id = method.id := by simpa using List.find?_some found
  -- The exchange keeps owners, so the search ends at the same block.
  have search : ((·.owner.id == method.id) ∘ fun block : BoundBlock =>
      if block.owner.id = method.id then { block with body } else block) =
      fun block => block.owner.id == method.id := by
    funext block
    by_cases own : block.owner.id = method.id <;> simp [own]
  rw [body?, withBody, List.find?_map, search, found]
  simp [owner]

namespace CertificateValidation

open Operation

variable {compilation : Compilation} {types : SignatureTypes} {evaluator : Evaluator}
  {buildingExtension : Bool}

/-! ### Verdicts -/

theorem start_eq_some (active : (rule buildingExtension).start compilation = some evaluator) :
    ∃ types, signatureTypes? compilation = some types ∧ ∀ severity site,
      evaluator severity site = if accepts compilation types site.operation then
        .reported ((descriptor buildingExtension).diagnostic severity site.operation.location [] [])
      else .silent := by
  obtain ⟨types, found, rfl⟩ := Option.map_eq_some_iff.mp active
  exact ⟨types, found, fun _ _ => rfl⟩

theorem reported_iff (found : signatureTypes? compilation = some types)
    (active : (rule buildingExtension).start compilation = some evaluator) (severity : Severity)
    (site : Site) :
    (∃ diagnostic, evaluator severity site = .reported diagnostic) ↔
      accepts compilation types site.operation = true := by
  obtain ⟨_, foundAgain, judges⟩ := start_eq_some active
  obtain rfl := Option.some.inj (foundAgain.symm.trans found)
  rw [judges]
  split <;> simp_all

theorem accepts_byName {method : MethodSymbol} {body : BoundOperation}
    (owned : compilation.body? method = some body) (info referenceInfo : Info TypeSymbol)
    (receiver : Option BoundOperation) :
    accepts compilation types
        (.delegateCreation info (.methodReference referenceInfo method receiver)) =
      (info.type.any types.callback.sameAs && (hasSignature types method &&
        alwaysReturnsTrue (withoutSynthesized body.descendants))) := by
  simp [accepts, function?, owned]

/-! ### Insertions by the host -/

theorem isReturnOfTrue_of_alike {before after : BoundOperation} (alike : Alike before after)
    (kind : before.kind = .returns) : isReturnOfTrue after = isReturnOfTrue before := by
  have same := alike.returned kind
  have afterKind := alike.kind.trans kind
  cases before with
  | returns _ value =>
    cases after with
    | returns _ changed =>
      cases value <;> cases changed <;> simp_all [children, isReturnOfTrue]
    | _ => cases afterKind
  | _ => cases kind

theorem alwaysReturnsTrue_of_alike {before after : List BoundOperation}
    (alike : List.Forall₂ Alike before after) :
    alwaysReturnsTrue after = alwaysReturnsTrue before := by
  rw [Bool.eq_iff_iff, alwaysReturnsTrue_eq_true, alwaysReturnsTrue_eq_true]
  refine and_congr ?_ ?_
  · exact (exists_mem_iff_of_forall₂ alike fun _ _ _ pair => by rw [pair.kind]).symm
  · refine (forall_mem_iff_of_forall₂ alike fun old new pair => ?_).symm
    rw [pair.kind]
    exact forall_congr' fun kind => by rw [isReturnOfTrue_of_alike pair kind]

theorem alwaysReturnsTrue_of_hostInsertions {before after : BoundOperation}
    (insertions : Relation.ReflTransGen HostInsertion before after) :
    alwaysReturnsTrue (withoutSynthesized after.descendants) =
      alwaysReturnsTrue (withoutSynthesized before.descendants) := by
  induction insertions with
  | refl => rfl
  | tail _ inserted ih => rw [alwaysReturnsTrue_of_alike inserted.keeps.counted, ih]

/-- An insertion into a delegate of a method leaves it a delegate of the method. -/
theorem byName_of_hostInsertion {info referenceInfo : Info TypeSymbol} {method : MethodSymbol}
    {receiver : Option BoundOperation} {after : BoundOperation}
    (inserted : HostInsertion
      (.delegateCreation info (.methodReference referenceInfo method receiver)) after) :
    ∃ changed, after = .delegateCreation info (.methodReference referenceInfo method changed) := by
  obtain ⟨target, inner, rfl⟩ := inserted.of_singleton rfl (by simp [kind])
  cases receiver with
  | none =>
    -- Without a receiver there is no block below the reference.
    obtain _ | ⟨front, back, place, _⟩ := inner
    simp [children] at place
  | some receiver =>
    obtain ⟨changed, _, rfl⟩ := inner.of_singleton rfl (by simp [kind])
    exact ⟨some changed, rfl⟩

theorem byName_of_hostInsertions {info referenceInfo : Info TypeSymbol} {method : MethodSymbol}
    {receiver : Option BoundOperation} {after : BoundOperation}
    (insertions : Relation.ReflTransGen HostInsertion
      (.delegateCreation info (.methodReference referenceInfo method receiver)) after) :
    ∃ changed, after = .delegateCreation info (.methodReference referenceInfo method changed) := by
  induction insertions with
  | refl => exact ⟨receiver, rfl⟩
  | tail _ inserted ih =>
    obtain ⟨middle, rfl⟩ := ih
    exact byName_of_hostInsertion inserted

/-- What the host puts into the body of a method, in as many places as it likes, changes no verdict
on a delegate that names the method. The delegate may itself stand in the body, with some of what
was put in below it. -/
theorem verdict_of_hostInsertions {method : MethodSymbol} {body changed : BoundOperation}
    {site changedSite : Site} {info referenceInfo : Info TypeSymbol}
    {receiver : Option BoundOperation}
    (active : (rule buildingExtension).start compilation = some evaluator)
    (owned : compilation.body? method = some body)
    (insertions : Relation.ReflTransGen HostInsertion body changed)
    (byName : site.operation =
      .delegateCreation info (.methodReference referenceInfo method receiver))
    (same : Relation.ReflTransGen HostInsertion site.operation changedSite.operation) :
    ∃ changedEvaluator,
      (rule buildingExtension).start (compilation.withBody method changed) =
        some changedEvaluator ∧
      ∀ severity, changedEvaluator severity changedSite = evaluator severity site := by
  obtain ⟨types, found, judges⟩ := start_eq_some active
  -- Types are looked up in their own table, so the rule stays active with the same ones.
  have stillFound : signatureTypes? (compilation.withBody method changed) = some types := found
  obtain ⟨changedEvaluator, started⟩ : ∃ changedEvaluator, (rule buildingExtension).start
      (compilation.withBody method changed) = some changedEvaluator :=
    ⟨_, Option.map_eq_some_iff.mpr ⟨types, stillFound, rfl⟩⟩
  obtain ⟨_, foundAgain, judgesAgain⟩ := start_eq_some started
  obtain rfl := Option.some.inj (foundAgain.symm.trans stillFound)
  refine ⟨changedEvaluator, started, fun severity => ?_⟩
  rw [byName] at same
  obtain ⟨newReceiver, changedByName⟩ := byName_of_hostInsertions same
  rw [judges, judgesAgain, byName, changedByName, accepts_byName owned,
    accepts_byName (Compilation.body?_withBody owned changed),
    alwaysReturnsTrue_of_hostInsertions insertions]
  rfl

def sampleType (specialType : SpecialType) (name : String) : TypeSymbol :=
  ⟨name, .classType, specialType, none, [], false, []⟩

def sampleInfo (type : Option TypeSymbol) (constant : Option Constant) (isImplicit : Bool) :
    Info TypeSymbol :=
  ⟨type, constant, isImplicit, default⟩

def callbackInfo : Info TypeSymbol := sampleInfo (some (sampleType .none callbackName)) none false

/-- A method with the callback's signature. -/
def trust : MethodSymbol where
  id := "trust"
  name := "trust"
  containingType := sampleType .object "System.Object"
  kind := .ordinary
  returnType := some (sampleType .boolean "System.Boolean")
  parameters := parameterNames.map fun name => ⟨"parameter", sampleType .none name⟩
  isStatic := true
  dllImport := none

/-- A written `true` in a return of the host. -/
def returnTrue : BoundOperation :=
  .returns (sampleInfo none none true) (some (.literal (sampleInfo none (some (.bool true)) false)))

/-- A return of nothing that the host made altogether. -/
def bareReturn : BoundOperation := .returns (sampleInfo none none true) none

/-- Operations in two blocks of the host, one inside the other. -/
def nested (operations : List BoundOperation) : BoundOperation :=
  .block (sampleInfo none none true) [.block (sampleInfo none none true) operations]

def trustBody : BoundOperation := nested [returnTrue]

def trusting : Compilation where
  assemblyName := "Sample"
  types := sampleType .boolean "System.Boolean" ::
    (callbackName :: parameterNames).map (sampleType .none)
  methods := [trust]
  fields := []
  blocks := [⟨trust, false, trustBody⟩]

/-- The callback of the sample, named. -/
def byNameSite : Site where
  block := ⟨trust, false, trustBody⟩
  operation := .delegateCreation callbackInfo
    (.methodReference (sampleInfo none none false) trust none)
  position := 0

theorem trusting_reported : ∃ evaluator, (rule false).start trusting = some evaluator ∧
    ∃ diagnostic, evaluator .warning byNameSite = .reported diagnostic := by
  obtain ⟨evaluator, active⟩ : ∃ evaluator, (rule false).start trusting = some evaluator :=
    ⟨_, rfl⟩
  exact ⟨evaluator, active, (reported_iff rfl active _ _).mpr (by decide +kernel)⟩

theorem verdict_of_hostInsertions_trusting : ∃ evaluator changedEvaluator diagnostic,
    (rule false).start trusting = some evaluator ∧
    (rule false).start (trusting.withBody trust (nested [bareReturn, returnTrue])) =
      some changedEvaluator ∧
    evaluator .warning byNameSite = .reported diagnostic ∧
    changedEvaluator .warning byNameSite = .reported diagnostic := by
  obtain ⟨evaluator, active, diagnostic, reported⟩ := trusting_reported
  have synthesized : bareReturn.Synthesized := isFullySynthesized_iff.mp (by decide +kernel)
  have inner : HostInsertion trustBody (nested [bareReturn, returnTrue]) :=
    .inside [] [] rfl (.here _ [] [returnTrue] synthesized)
  have owned : trusting.body? trust = some trustBody := rfl
  have byName : byNameSite.operation = .delegateCreation callbackInfo
      (.methodReference (sampleInfo none none false) trust none) := rfl
  obtain ⟨changedEvaluator, started, same⟩ :=
    verdict_of_hostInsertions active owned (.single inner) byName .refl
  exact ⟨evaluator, changedEvaluator, diagnostic, active, started, reported,
    (same .warning).trans reported⟩

/-! ### Functions written in place -/

theorem accepts_inPlace (info functionInfo : Info TypeSymbol) (function : MethodSymbol)
    (body : BoundOperation) :
    accepts compilation types
        (.delegateCreation info (.anonymousFunction functionInfo function body)) =
      (info.type.any types.callback.sameAs &&
        (hasSignature types function && alwaysReturnsTrue body.descendantsAndSelf)) := by
  have below : (anonymousFunction functionInfo function body).descendants =
      body.descendantsAndSelf := by
    rw [descendants, children, walk_singleton]
  simp [accepts, function?, below]

/-- Only the return type and the types of the parameters make the signature. -/
theorem hasSignature_congr {method function : MethodSymbol}
    (returnType : method.returnType = function.returnType)
    (parameterTypes : method.parameters.map (·.type) = function.parameters.map (·.type)) :
    hasSignature types method = hasSignature types function := by
  have names : method.parameters.map (·.type.metadataName) =
      function.parameters.map (·.type.metadataName) := by
    simpa [Function.comp_def] using congrArg (List.map TypeSymbol.metadataName) parameterTypes
  rw [Bool.eq_iff_iff, hasSignature_eq_true, hasSignature_eq_true, returnType, names]

/-- Where the host made no return, the returns of the filtered walk are those of the body. -/
theorem alwaysReturnsTrue_withoutSynthesized {info : Info TypeSymbol}
    {operations : List BoundOperation}
    (written : ∀ position node, (block info operations).at? position = some node →
      node.kind = .returns → ¬ node.Synthesized) :
    alwaysReturnsTrue (withoutSynthesized (block info operations).descendants) =
      alwaysReturnsTrue (block info operations).descendantsAndSelf := by
  -- The body itself is a block, so it is no return either.
  have returns : (withoutSynthesized (block info operations).descendants).filter
      (·.kind = .returns) = (block info operations).descendantsAndSelf.filter
        (·.kind = .returns) := by
    rw [descendantsAndSelf, List.filter_cons_of_neg (by simp [kind]),
      withoutSynthesized_eq_filter, List.filter_filter]
    refine List.filter_congr fun node visited => ?_
    obtain ⟨position, _, found⟩ := mem_descendants_iff.mp visited
    have kept := written position node found
    by_cases isReturn : node.kind = .returns
    · simp [isReturn, kept isReturn]
    · simp [isReturn]
  rw [alwaysReturnsTrue, alwaysReturnsTrue, returns]

/-- Data of an operation whose type is the callback. -/
def IsCallback (info : Info TypeSymbol) : Prop :=
  ∃ type ∈ info.type, type.metadataName = callbackName

theorem isCallback_iff (found : signatureTypes? compilation = some types) {info : Info TypeSymbol} :
    IsCallback info ↔ info.type.any types.callback.sameAs = true := by
  rw [IsCallback, Option.any_eq_true, ← (names_of_signatureTypes found).1]
  simp only [TypeSymbol.sameAs, beq_iff_eq, Option.mem_def]
  exact exists_congr fun type => and_congr_right fun _ => eq_comm

/-- A callback that is written in place and one that is named fare alike: with the same signature
and the same body, in which the host made no return, both are reported or neither is. -/
theorem reported_inPlace_iff_byName {function method : MethodSymbol} {bodyInfo : Info TypeSymbol}
    {operations : List BoundOperation} {first second : Site}
    {firstInfo functionInfo secondInfo referenceInfo : Info TypeSymbol}
    {receiver : Option BoundOperation}
    (active : (rule buildingExtension).start compilation = some evaluator)
    (returnType : method.returnType = function.returnType)
    (parameterTypes : method.parameters.map (·.type) = function.parameters.map (·.type))
    (owned : compilation.body? method = some (.block bodyInfo operations))
    (written : ∀ position node, (block bodyInfo operations).at? position = some node →
      node.kind = .returns → ¬ node.Synthesized)
    (inPlace : first.operation = .delegateCreation firstInfo
      (.anonymousFunction functionInfo function (.block bodyInfo operations)))
    (byName : second.operation = .delegateCreation secondInfo
      (.methodReference referenceInfo method receiver))
    (firstType : IsCallback firstInfo) (secondType : IsCallback secondInfo) (severity : Severity) :
    (∃ diagnostic, evaluator severity first = .reported diagnostic) ↔
      ∃ diagnostic, evaluator severity second = .reported diagnostic := by
  obtain ⟨types, found, _⟩ := start_eq_some active
  rw [isCallback_iff found] at firstType secondType
  rw [reported_iff found active, reported_iff found active, inPlace, byName, accepts_inPlace,
    accepts_byName owned, firstType, secondType, hasSignature_congr returnType parameterTypes,
    alwaysReturnsTrue_withoutSynthesized written]

def trustInPlace : MethodSymbol := { trust with id := "function", kind := .lambda }

/-- The callback of the sample, written in place. -/
def inPlaceSite : Site where
  block := ⟨trust, false, trustBody⟩
  operation := .delegateCreation callbackInfo
    (.anonymousFunction (sampleInfo none none false) trustInPlace trustBody)
  position := 0

theorem reported_inPlace_iff_byName_trusting : ∃ evaluator,
    (rule false).start trusting = some evaluator ∧
    ((∃ diagnostic, evaluator .warning inPlaceSite = .reported diagnostic) ↔
      ∃ diagnostic, evaluator .warning byNameSite = .reported diagnostic) ∧
    ∃ diagnostic, evaluator .warning byNameSite = .reported diagnostic := by
  obtain ⟨evaluator, active, reported⟩ := trusting_reported
  have callback : IsCallback callbackInfo := ⟨_, rfl, rfl⟩
  have returns : trustBody.descendantsAndSelf.all (fun node =>
      node.kind ≠ .returns || !node.isFullySynthesized) = true := by decide +kernel
  have written (position : Position) (node : BoundOperation)
      (found : trustBody.at? position = some node) (kind : node.kind = .returns) :
      ¬ node.Synthesized := by
    have kept := List.all_eq_true.mp returns node (mem_descendantsAndSelf_iff.mpr ⟨_, found⟩)
    rw [← isFullySynthesized_iff]
    simpa [kind] using kept
  have owned : trusting.body? trust = some trustBody := rfl
  have inPlace : inPlaceSite.operation = .delegateCreation callbackInfo
      (.anonymousFunction (sampleInfo none none false) trustInPlace trustBody) := rfl
  have byName : byNameSite.operation = .delegateCreation callbackInfo
      (.methodReference (sampleInfo none none false) trust none) := rfl
  have returnType : trust.returnType = trustInPlace.returnType := rfl
  exact ⟨evaluator, active, reported_inPlace_iff_byName active returnType rfl owned written inPlace
    byName callback callback .warning, reported⟩

end CertificateValidation

end OperationLint
