import OperationLint.Rule.CertificateValidation
import OperationLint.Rule.DisposableFinalizer

/-!
# The catalog of rules
-/

namespace OperationLint

/-- A rule that ships. -/
def ShippedRule.rule (buildingExtension : Bool) : ShippedRule → Rule
  | certificateValidation => CertificateValidation.rule buildingExtension
  | disposableFinalizer => DisposableFinalizer.rule buildingExtension

/-- The rules of a build. The finalizer rule is no part of a build for the extension. -/
def allRules (buildingExtension : Bool) : List Rule :=
  CertificateValidation.rule buildingExtension ::
    if buildingExtension then [] else [DisposableFinalizer.rule buildingExtension]

end OperationLint
