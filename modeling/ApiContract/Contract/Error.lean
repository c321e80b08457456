import ApiContract.Registry

/-!
# Contract errors

A document that cannot be compiled is refused as a whole, with the first reason found.

## Main definitions

* `ContractError` — why a document is refused
* `ContractError.message` — its wording
-/

namespace ApiContract

/-- Why a contract document is refused. -/
inductive ContractError where
  | unreadable (path : String)
  | malformed (api : String)
  | invalidArtifact (path : String)
  | unsupportedVersion (api version : String)
  | cyclicDependency (models : List String)
  | unknownType (token context : String)
  | unresolvedReference (reference context : String)
  | invalidParent (model parent : String)
  | refused (reason : RegistryError)
  | unresolvedHandler (operation name : String)
  | invalidOperation (operation reason : String)
  deriving DecidableEq, Repr

/-- The wording of a contract error. Details of what is wrong with a file are left out. -/
def ContractError.message : ContractError → String
  | .unreadable path => s!"failed to read {path}: *"
  | .malformed api => s!"failed to parse API document '{api}': *"
  | .invalidArtifact path => s!"invalid model artifact {path}: *"
  | .unsupportedVersion api version =>
    s!"API '{api}': OpenAPI version '{version}' is not supported"
  | .cyclicDependency models =>
    "cyclic dependency between models: " ++ Text.join ", " models
  | .unknownType token context => s!"unknown type '{token}' in {context}"
  | .unresolvedReference reference context =>
    s!"unresolved reference '{reference}' in {context}"
  | .invalidParent model parent => s!"model '{model}' has unknown parent '{parent}'"
  | .refused reason => reason.message
  | .unresolvedHandler operation name =>
    s!"{operation}: cannot resolve '{name}' in the handler table"
  | .invalidOperation operation reason => s!"{operation}: {reason}"

end ApiContract
