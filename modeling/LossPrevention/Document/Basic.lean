import LossPrevention.Json.Value

/-!
A document as it was written: fields in order with repeated keys kept, and scalars without quotes
that wait for the type they are read at. `Document.toValue?` makes a JSON value of one.
-/

namespace LossPrevention

open Json (Number Value)

inductive Document where
  | null
  | bool (b : Bool)
  | number (n : Number)
  | text (s : String)
  /-- A scalar without quotes; what it means is up to the reader. -/
  | plain (spelling : String)
  /-- A text that keeps its lines as they are; a tag may give it another type. -/
  | literal (s : String)
  | tagged (tag : String) (inner : Document)
  | list (items : List Document)
  /-- A list that cannot stand for the fields of a record in their order. -/
  | series (items : List Document)
  | record (fields : List (Document × Document))
  /-- What a name stands for. All names in it and this one are `names` names. -/
  | copy (names : Nat) (d : Document)
  /-- A name that stands for something around it. -/
  | endless

namespace Document

mutual

/-- Keys have to be texts, the last of two equal keys wins, and a number that JSON cannot hold
becomes null. -/
def toValue? : Document → Option Value
  | null => some .null
  | bool b => some (.bool b)
  | number (.int n) => some (.number (.int n))
  | number (.float x) => some (if Binary64.isFinite x then .number (.float x) else .null)
  | text s => some (.text s)
  | list items | series items => (toItems? items).map .list
  | record fields => (toFields? fields).map .ofFields
  | _ => none

def toItems? : List Document → Option (List Value)
  | [] => some []
  | d :: ds => do
      let v ← toValue? d
      let vs ← toItems? ds
      some (v :: vs)

def toFields? : List (Document × Document) → Option (List (String × Value))
  | [] => some []
  | (text key, d) :: fs => do
      let v ← toValue? d
      let vs ← toFields? fs
      some ((key, v) :: vs)
  | _ => none

end

mutual

def ofValue : Value → Document
  | .null => null
  | .bool b => bool b
  | .number n => number n
  | .text s => text s
  | .list items => list (ofItems items)
  | .object fields => record (ofFields fields)

def ofItems : List Value → List Document
  | [] => []
  | v :: vs => ofValue v :: ofItems vs

def ofFields : List (String × Value) → List (Document × Document)
  | [] => []
  | (key, v) :: fs => (text key, ofValue v) :: ofFields fs

end

mutual

/-- How many lists and records lie inside one another. -/
def depth : Document → Nat
  | null | bool _ | number _ | text _ | plain _ | literal _ | endless => 0
  | tagged _ d | copy _ d => depth d
  | list items | series items => itemsDepth items + 1
  | record fields => fieldsDepth fields + 1

def itemsDepth : List Document → Nat
  | [] => 0
  | d :: ds => max (depth d) (itemsDepth ds)

def fieldsDepth : List (Document × Document) → Nat
  | [] => 0
  | (k, d) :: fs => max (max (depth k) (depth d)) (fieldsDepth fs)

end

end Document

end LossPrevention
