import LossPrevention.Document.Fields
import LossPrevention.Yaml.Token

/-!
Nodes of YAML text, in which an alias is still a number, and the documents that they stand for once
it is known what the numbers mean.
-/

namespace LossPrevention.Yaml

inductive Node where
  | scalar (text : String) (style : Style)
  | tagged (tag : String) (n : Node)
  | numbered (id : Nat)
  | series (items : List Node)
  | record (fields : List (Node × Node))

namespace Node

/-- What the numbers stand for, each with the number of aliases met on reading it. -/
abbrev Meaning := List (Nat × Document × Nat)

/-- What is not known yet is endless. -/
def Meaning.get (means : Meaning) (id : Nat) : Document × Nat :=
  match means.find? (fun e => e.1 = id) with
  | some (_, meant) => meant
  | none => (.endless, 0)

def ofScalar (text : String) : Style → Document
  | .plain => .plain text
  | .literal => .literal text
  | _ => .text text

mutual

/-- The document of a node and the number of aliases met on reading it. -/
def document (means : Meaning) : Node → Document × Nat
  | scalar text style => (ofScalar text style, 0)
  | tagged tag n =>
      let (d, names) := document means n
      (.tagged tag d, names)
  | numbered id => means.get id
  | series items =>
      let (ds, names) := documents means items
      (.series ds, names)
  | record fields =>
      let (ds, names) := fieldDocuments means fields
      (.record ds, names)

def documents (means : Meaning) : List Node → List Document × Nat
  | [] => ([], 0)
  | n :: ns =>
      let (d, names) := document means n
      let (ds, more) := documents means ns
      (d :: ds, names + more)

def fieldDocuments (means : Meaning) : List (Node × Node) → List (Document × Document) × Nat
  | [] => ([], 0)
  | (k, n) :: rest =>
      let (key, names) := document means k
      let (d, more) := document means n
      let (ds, others) := fieldDocuments means rest
      ((key, d) :: ds, names + more + others)

end

/-- The meaning in which aliases inside the nodes stand for what they mean in `means`. -/
def Meaning.next (nodes : List (Nat × Node)) (means : Meaning) : Meaning :=
  nodes.map fun (id, n) =>
    let (d, names) := document means n
    (id, .copy (names + 1) d, names + 1)

/-- The meaning of numbers with aliases followed at most `depth` deep. -/
def Meaning.ofNodes (nodes : List (Nat × Node)) : Nat → Meaning
  | 0 => []
  | depth + 1 => (ofNodes nodes depth).next nodes

/-- How often an alias may be followed inside what it stands for. Settings lie less deep. -/
def loops : Nat := 8

/-- The document of the node, where the numbers stand for the given nodes. -/
def resolved (nodes : List (Nat × Node)) (n : Node) : Document × Nat :=
  n.document (Meaning.ofNodes nodes (nodes.length + loops))

end Node

end LossPrevention.Yaml
