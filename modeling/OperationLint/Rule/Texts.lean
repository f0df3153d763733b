import OperationLint.Rule.Basic

/-!
# The rules that ship

Their ids and texts. A build for the extension ships them disabled.
-/

namespace OperationLint

/-- The rules that ship. -/
inductive ShippedRule where
  | certificateValidation
  | disposableFinalizer
  deriving DecidableEq

namespace ShippedRule

def all : List ShippedRule := [certificateValidation, disposableFinalizer]

def id : ShippedRule → String
  | certificateValidation => "CA5359"
  | disposableFinalizer => "CA2216"

def title : ShippedRule → String
  | certificateValidation => "Do Not Disable Certificate Validation"
  | disposableFinalizer => "Disposable types should declare finalizer"

def messageFormat : ShippedRule → String
  | certificateValidation =>
    "The certificate validation callback always returns true, so any server certificate is accepted"
  | disposableFinalizer =>
    "Disposable type '\x7b0\x7d' holds a native resource handle but does not declare a finalizer"

def description : ShippedRule → String
  | certificateValidation =>
    "A certificate can help authenticate the identity of the server. Clients should validate the "
      ++ "server certificate to ensure requests are sent to the intended server. If the "
      ++ "RemoteCertificateValidationCallback always returns 'true', any certificate will pass "
      ++ "validation."
  | disposableFinalizer =>
    "A type that implements System.IDisposable and has fields that suggest the use of unmanaged "
      ++ "resources does not implement a finalizer, as described by Object.Finalize."

/-- A descriptor with the texts of a rule. -/
def describe (rule : ShippedRule) (category : Category) (defaultSeverity : Severity)
    (isEnabledByDefault : Bool) (helpUri : Option String) (customTags : List String) :
    Descriptor where
  id := rule.id
  title := rule.title
  messageFormat := rule.messageFormat
  description := rule.description
  category := category
  defaultSeverity := defaultSeverity
  isEnabledByDefault := isEnabledByDefault
  helpUri := helpUri
  customTags := customTags

end ShippedRule

/-- Rules are enabled by default except in a build for the extension. -/
def enabledByDefault (buildingExtension : Bool) : Bool := !buildingExtension

end OperationLint
