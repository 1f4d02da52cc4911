/-!
How failures are reported: a category and a message, and the line that shows both.
-/

namespace LossPrevention

inductive Category where
  | policy
  | classifier
  | config
  | invalidEvent
  | notLoaded
  | action
  | io
  | serialization
  | yaml
  deriving DecidableEq

structure Failure where
  category : Category
  message : String := ""
  deriving DecidableEq

def Failure.line (f : Failure) : String :=
  match f.category with
  | .policy => "policy error: " ++ f.message
  | .classifier => "classifier error: " ++ f.message
  | .config => "configuration error: " ++ f.message
  | .invalidEvent => "invalid event: " ++ f.message
  | .notLoaded => "policy engine has no loaded policy set"
  | .action => "action error: " ++ f.message
  | .io => "io error: " ++ f.message
  | .serialization => "serialization error: " ++ f.message
  | .yaml => "yaml error: " ++ f.message

/-- What the readers of patterns and documents say of a text that they refuse, each in words of its
own. -/
structure Complaints where
  pattern : String → String
  json : String → String
  yaml : String → String

end LossPrevention
