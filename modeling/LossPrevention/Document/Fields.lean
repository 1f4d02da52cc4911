import LossPrevention.Document.Scalar

/-!
Reading documents at a type. A scalar without quotes is read as what is asked for. A record may be
written as a list of its fields in their order, and what it has besides its fields is ignored.
-/

namespace LossPrevention.Document

open Json (Number)

def asText? : Document → Option String
  | text s | plain s | literal s => some s
  | tagged _ d | copy _ d => asText? d
  | _ => none

/-- A literal text that a core tag gives this type is read as if it stood without quotes. -/
def tagged? {α : Type} (type : String) (read : String → Option α) (tag spelling : String) :
    Option α :=
  if tag = Scalar.coreTag ++ type then read spelling else none

def asBool? : Document → Option Bool
  | bool b => some b
  | plain s => Scalar.bool? s
  | tagged t (literal s) => tagged? "bool" Scalar.bool? t s
  | tagged _ d | copy _ d => asBool? d
  | _ => none

def isWord (n : Int) : Bool := 0 ≤ n && n < Nat.pow 2 64

def word? (s : String) : Option Nat := (Scalar.unsigned? s.toList).filter (· < Nat.pow 2 64)

def signedWord? (s : String) : Option Int :=
  (Scalar.int? s).filter (fun n => -(Nat.pow 2 63 : Int) ≤ n && n < Nat.pow 2 63)

/-- An unsigned integer of 64 bits. -/
def asNat? : Document → Option Nat
  | number (.int n) => if isWord n then some n.toNat else none
  | plain s => word? s
  | tagged t (literal s) => tagged? "int" word? t s
  | tagged _ d | copy _ d => asNat? d
  | _ => none

/-- A signed integer of 64 bits. -/
def asInt? : Document → Option Int
  | number (.int n) => if n < Nat.pow 2 63 then some n else none
  | plain s => signedWord? s
  | tagged t (literal s) => tagged? "int" signedWord? t s
  | tagged _ d | copy _ d => asInt? d
  | _ => none

def asFloat? : Document → Option Float
  | number n => some n.toFloat
  | plain s => Scalar.float? s
  | tagged t (literal s) => tagged? "float" Scalar.float? t s
  | tagged _ d | copy _ d => asFloat? d
  | _ => none

/-- The items of a list; nothing at all is a list without items. -/
def asItems? : Document → Option (List Document)
  | list items | series items => some items
  | plain "" => some []
  | tagged _ d | copy _ d => asItems? d
  | _ => none

def asList? {α : Type} (read : Document → Option α) (d : Document) : Option (List α) :=
  d.asItems?.bind (fun items => items.mapM read)

def asOption? {α : Type} (read : Document → Option α) : Document → Option (Option α)
  | null => some none
  | plain s => if Scalar.isNull s then some none else (read (plain s)).map some
  | d => (read d).map some

/-- How a key is given: by name, or by its place among the fields. -/
inductive Key where
  | name (s : String)
  | place (n : Nat)

def asKey? : Document → Option Key
  | text s | plain s | literal s => some (.name s)
  | number (.int n) => if isWord n then some (.place n.toNat) else none
  | tagged _ d | copy _ d => asKey? d
  | _ => none

/-- The place of the field that a key means; the fields are given by their names. -/
def placeOf (fields : List (List String)) : Key → Option Nat
  | .name s => fields.findIdx? (fun names => names.contains s)
  | .place n => if n < fields.length then some n else none

/-- Puts the entries into their places; two for one place are an error. -/
def fill? (fields : List (List String)) :
    List (Option Document) → List (Document × Document) → Option (List (Option Document))
  | slots, [] => some slots
  | slots, (k, d) :: rest => do
      let key ← asKey? k
      match placeOf fields key with
      | none => fill? fields slots rest
      | some i =>
          if (slots.getD i none).isSome then none
          else fill? fields (slots.set i (some d)) rest

def entries? (fields : List (List String)) (entries : List (Document × Document)) :
    Option (List (Option Document)) :=
  fill? fields (List.replicate fields.length none) entries

/-- What is given for each field of a record that is written with its keys. -/
def keyed? (fields : List (List String)) : Document → Option (List (Option Document))
  | record entries => entries? fields entries
  | _ => none

def fields? (fields : List (List String)) : Document → Option (List (Option Document))
  | record entries => entries? fields entries
  | list items =>
      if items.length ≤ fields.length then
        some (items.map some ++ List.replicate (fields.length - items.length) none)
      else none
  | plain "" => some (List.replicate fields.length none)
  | tagged _ d | copy _ d => fields? fields d
  | _ => none

/-- What is under the only key of interest, if the record has it once. -/
def under? (key : String) (d : Document) : Option Document :=
  match d.keyed? [[key]] with
  | some [some inner] => some inner
  | _ => none

/-- Reads a field that stands for `value` when it is not given. -/
def orElse? {α : Type} (value : α) (read : Document → Option α) : Option Document → Option α
  | some d => read d
  | none => some value

/-- Reads a field that may be null, and need not be given. -/
def optional? {α : Type} (read : Document → Option α) : Option Document → Option (Option α) :=
  orElse? none (asOption? read)

/-- A mapping from texts; of equal keys the last one counts. -/
def asMap? {α : Type} (read : Document → Option α) : Document → Option (List (String × α))
  | record entries =>
      (entries.mapM fun (k, d) => do
        let key ← asText? k
        let value ← read d
        some (key, value)).map Keyed.ofList
  | plain "" => some []
  | tagged _ d | copy _ d => asMap? read d
  | _ => none

/-- Nothing, behind a tag that is a name. -/
def isNothing : Document → Bool
  | plain s => Scalar.isNull s
  | copy _ d => isNothing d
  | _ => false

/-- One of several names, which may also be a local tag with nothing behind it or the only key of a
record with a null. -/
def asName? (names : List String) : Document → Option String
  | record [(k, null)] =>
      match asKey? k with
      | some (.name s) => if names.contains s then some s else none
      | some (.place n) => names[n]?
      | none => none
  | copy _ d => asName? names d
  | tagged t d =>
      match Scalar.localTag? t with
      | some s => if names.contains s && isNothing d then some s else none
      | none => asName? names d
  | d => d.asText?.filter names.contains

/-! ### What is read of a document -/

/-- What of a document is read: all of it, or of a record just some fields, by their names. -/
inductive Schema where
  | all
  | fields (known : List (String × Schema))

namespace Schema

/-- A record whose fields are read in full. -/
def record (names : List String) : Schema := .fields (names.map (·, .all))

def field? (known : List (String × Schema)) (key : Document) : Option Schema :=
  match asKey? key with
  | some (.name s) => (known.find? (fun e => e.1 = s)).map Prod.snd
  | _ => none

end Schema

mutual

/-- The number of names that stand for something in what is read of the document. -/
def namesIn : Schema → Document → Nat
  | .all, copy n _ => n
  | .fields known, copy _ d => namesIn (.fields known) d + 1
  | s, tagged _ d => namesIn s d
  | .all, list items | .all, series items => namesInItems items
  | .all, record entries => namesInEntries entries
  | .fields known, record entries => namesInFields known entries
  | _, _ => 0

def namesInItems : List Document → Nat
  | [] => 0
  | d :: ds => namesIn .all d + namesInItems ds

def namesInEntries : List (Document × Document) → Nat
  | [] => 0
  | (k, d) :: rest => namesIn .all k + namesIn .all d + namesInEntries rest

def namesInFields (known : List (String × Schema)) : List (Document × Document) → Nat
  | [] => 0
  | (k, d) :: rest =>
      let inner := match Schema.field? known k with
        | some s => namesIn s d
        | none => 0
      namesIn .all k + inner + namesInFields known rest

end

end LossPrevention.Document
