import OperationLint.Rule.Texts

/-!
# Certificate validation

Reports a callback for remote certificate validation that accepts every certificate: a delegate
made from a function of the callback's signature in whose body every return gives the constant
`true`.

The body of a lambda is as written. That of a method is looked up in the compilation, and there
the host may have put in operations of its own, which do not count.
-/

namespace OperationLint.CertificateValidation

/-- The types in the callback's signature, and the callback itself. -/
structure SignatureTypes where
  callback : TypeSymbol
  object : TypeSymbol
  certificate : TypeSymbol
  chain : TypeSymbol
  policyErrors : TypeSymbol

/-- The types, if the compilation has them all. -/
def signatureTypes? (compilation : Compilation) : Option SignatureTypes := do
  let callback ← compilation.type? "System.Net.Security.RemoteCertificateValidationCallback"
  let object ← compilation.type? "System.Object"
  let certificate ←
    compilation.type? "System.Security.Cryptography.X509Certificates.X509Certificate"
  let chain ← compilation.type? "System.Security.Cryptography.X509Certificates.X509Chain"
  let policyErrors ← compilation.type? "System.Net.Security.SslPolicyErrors"
  return { callback, object, certificate, chain, policyErrors }

/-- A method returns a truth value and takes the four parameters of the callback. -/
def hasSignature (types : SignatureTypes) (method : MethodSymbol) : Bool :=
  (method.returnType.any fun type => type.specialType = .boolean) &&
    match method.parameters with
    | [sender, certificate, chain, policyErrors] =>
      sender.type.sameAs types.object && certificate.type.sameAs types.certificate
        && chain.type.sameAs types.chain && policyErrors.type.sameAs types.policyErrors
    | _ => false

/-- A return of the constant `true`. -/
def isReturnOfTrue : BoundOperation → Bool
  | .returns _ (some value) => value.info.constant = some (.bool true)
  | _ => false

/-- There is a return, and every return gives `true`. -/
def alwaysReturnsTrue (operations : List BoundOperation) : Bool :=
  let returns := operations.filter (·.kind = .returns)
  !returns.isEmpty && returns.all isReturnOfTrue

/-- The function that a delegate is made from, with the operations of its body that count. -/
def function? (compilation : Compilation) :
    BoundOperation → Option (MethodSymbol × List BoundOperation)
  | .anonymousFunction info symbol body =>
    some (symbol, (Operation.anonymousFunction info symbol body).descendants)
  | .methodReference _ method _ =>
    (compilation.body? method).map fun body =>
      (method, Operation.withoutSynthesized body.descendants)
  | _ => none

/-- A delegate of the callback type made from a function that accepts everything. -/
def accepts (compilation : Compilation) (types : SignatureTypes) : BoundOperation → Bool
  | .delegateCreation info target =>
    (info.type.any types.callback.sameAs) &&
      match function? compilation target with
      | some (method, operations) => hasSignature types method && alwaysReturnsTrue operations
      | none => false
  | _ => false

def descriptor (buildingExtension : Bool) : Descriptor :=
  ShippedRule.certificateValidation.describe .security .warning
    (enabledByDefault buildingExtension) none ["Telemetry"]

/-- The rule; generated code is no excuse for a security hole. -/
def rule (buildingExtension : Bool) : Rule where
  descriptor := descriptor buildingExtension
  analyzesGenerated := true
  kinds := [.delegateCreation]
  start := fun compilation =>
    (signatureTypes? compilation).map fun types severity site =>
      if accepts compilation types site.operation then
        .reported ((descriptor buildingExtension).diagnostic severity site.operation.location [] [])
      else .silent

end OperationLint.CertificateValidation
