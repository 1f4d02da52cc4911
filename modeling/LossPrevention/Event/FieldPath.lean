import LossPrevention.Failure
import LossPrevention.Json.Value
import LossPrevention.Text.Blank
import LossPrevention.Text.Split

/-!
Paths to the fields of an event. A path leads through objects only; a null at its end is a value
like any other and differs from an absent field.
-/

namespace LossPrevention

open Json (Value)

/-- At least one segment; none of a parsed path is empty. -/
structure FieldPath where
  first : String
  others : List String
  deriving DecidableEq

namespace FieldPath

inductive Fault where
  | empty
  | emptySegment (path : String)
  deriving DecidableEq

def Fault.message : Fault → String
  | empty => "field path must not be empty"
  | emptySegment path => "field path '" ++ path ++ "' contains an empty segment"

def Fault.failure (f : Fault) : Failure := ⟨.policy, f.message⟩

def segments (p : FieldPath) : List String := p.first :: p.others

/-- The path as it is written, with a dot between segments. -/
def text (p : FieldPath) : String := ".".intercalate p.segments

def parse (path : String) : Except Fault FieldPath :=
  let trimmed := Text.trimChars path.toList
  if trimmed.isEmpty then .error .empty
  else
    match (Text.pieces '.' trimmed).map String.ofList with
    | first :: others =>
        if (first :: others).contains "" then .error (.emptySegment (String.ofList trimmed))
        else .ok ⟨first, others⟩
    | [] => .error .empty

def resolveAt : List String → Value → Option Value
  | [], v => some v
  | s :: rest, v => (v.get? s).bind (resolveAt rest)

def resolve (p : FieldPath) (event : Value) : Option Value := resolveAt p.segments event

/-- The value taken out and the event without it, if the path leads to one. -/
def removeAt : String → List String → Value → Option (Value × Value)
  | s, [], .object fields =>
      (Keyed.get? s fields).map fun v => (v, .object (Keyed.erase s fields))
  | s, next :: rest, .object fields => do
      let child ← Keyed.get? s fields
      let (v, child) ← removeAt next rest child
      some (v, .object (Keyed.insert s child fields))
  | _, _, _ => none

def remove (p : FieldPath) (event : Value) : Option (Value × Value) :=
  removeAt p.first p.others event

end FieldPath

end LossPrevention
