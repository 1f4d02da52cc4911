import LossPrevention.Yaml.Node

/-!
The document that YAML text holds. There has to be exactly one. An anchor gives its node the number
of anchor names known so far, and of several nodes with one number the last one is meant by every
alias; a name that is given anew does not count again, so the next new name shares its number.
-/

namespace LossPrevention.Yaml

/-- What is still to be read, and what is known of names. -/
structure Builder where
  tokens : List Token
  anchors : List (String × Nat) := []
  /-- The place where the last node with each number starts. -/
  places : List (Nat × Nat) := []
  /-- The nodes with names, by the places where they start. -/
  nodes : List (Nat × Node) := []
  prefixes : List (String × String) := []
  /-- Scalars, aliases, and starts and ends of collections met. -/
  events : Nat := 0

abbrev Build := StateT Builder Option

namespace Build

def peek : Build Token := do
  match (← get).tokens with
  | t :: _ => pure t
  | [] => failure

def skip : Build Unit := modify fun b => { b with tokens := b.tokens.drop 1 }

def event (n : Nat) : Build Unit := modify fun b => { b with events := b.events + n }

def nothing : Build Node := do
  event 1
  pure (.scalar "" .plain)

def resolveTag (handle suffix : String) : Build String := do
  if handle = "" then pure suffix
  else
    match (← get).prefixes.find? (fun e => e.1 = handle) with
    | some (_, start) => pure (start ++ suffix)
    | none =>
        if handle = "!" then pure ("!" ++ suffix)
        else if handle = "!!" then pure (Document.Scalar.coreTag ++ suffix)
        else failure

structure Properties where
  anchor : Option String := none
  tag : Option String := none

def properties : Build Properties := do
  match ← peek with
  | .anchor name =>
      skip
      match ← peek with
      | .tag handle suffix =>
          skip
          pure ⟨some name, some (← resolveTag handle suffix)⟩
      | _ => pure ⟨some name, none⟩
  | .tag handle suffix =>
      skip
      let tag ← resolveTag handle suffix
      match ← peek with
      | .anchor name =>
          skip
          pure ⟨some name, some tag⟩
      | _ => pure ⟨none, some tag⟩
  | _ => pure {}

def aliasOf (name : String) : Build Node := do
  match (← get).anchors.find? (fun e => e.1 = name) with
  | some (_, id) => pure (.numbered id)
  | none => failure

/-- Gives the node that starts here its name. The answer is the place. -/
def start (p : Properties) : Build Nat := do
  let b ← get
  match p.anchor with
  | some name =>
      let id := b.anchors.length
      set { b with
        anchors := (name, id) :: b.anchors.filter (fun e => e.1 ≠ name)
        places := (id, b.events) :: b.places.filter (fun e => e.1 ≠ id) }
  | none => pure ()
  pure b.events

/-- Gives the node its tag and remembers it if it has a name. -/
def finish (p : Properties) (place : Nat) (n : Node) : Build Node := do
  let n := match p.tag with
    | some tag => .tagged tag n
    | none => n
  if p.anchor.isSome then modify fun b => { b with nodes := (place, n) :: b.nodes }
  pure n

/-- The node that each number stands for. -/
def numbering (b : Builder) : List (Nat × Node) :=
  b.places.filterMap fun (id, place) =>
    (b.nodes.find? (fun e => e.1 = place)).map (fun e => (id, e.2))

mutual

/-- A node; blocks may start in it where `block` says so, and a list without an indentation of
its own where `bare` says so. -/
def node : Nat → Bool → Bool → Build Node
  | 0, _, _ => failure
  | fuel + 1, block, bare => do
      match ← peek with
      | .reference name =>
          skip
          event 1
          aliasOf name
      | _ =>
          let p ← properties
          let place ← start p
          match ← peek with
          | .scalar text style =>
              skip
              event 1
              finish p place (.scalar text style)
          | .flowSequenceStart =>
              skip
              event 2
              finish p place (.series (← flowItems fuel true))
          | .flowMappingStart =>
              skip
              event 2
              finish p place (.record (← flowFields fuel true))
          | .blockEntry =>
              if bare then
                event 2
                finish p place (.series (← bareItems fuel))
              else named p place
          | .blockSequenceStart =>
              if block then
                skip
                event 2
                finish p place (.series (← blockItems fuel))
              else named p place
          | .blockMappingStart =>
              if block then
                skip
                event 2
                finish p place (.record (← blockFields fuel))
              else named p place
          | _ => named p place
where
  /-- With a name or a tag nothing is a node, too. -/
  named (p : Properties) (place : Nat) : Build Node := do
    if p.anchor.isNone && p.tag.isNone then failure
    finish p place (← nothing)

def blockItems : Nat → Build (List Node)
  | 0 => failure
  | fuel + 1 => do
      match ← peek with
      | .blockEntry =>
          skip
          let d ← match ← peek with
            | .blockEntry | .blockEnd => nothing
            | _ => node fuel true false
          pure (d :: (← blockItems fuel))
      | .blockEnd =>
          skip
          pure []
      | _ => failure

def bareItems : Nat → Build (List Node)
  | 0 => failure
  | fuel + 1 => do
      match ← peek with
      | .blockEntry =>
          skip
          let d ← match ← peek with
            | .blockEntry | .key | .value | .blockEnd => nothing
            | _ => node fuel true false
          pure (d :: (← bareItems fuel))
      | _ => pure []

def blockFields : Nat → Build (List (Node × Node))
  | 0 => failure
  | fuel + 1 => do
      match ← peek with
      | .key =>
          skip
          let k ← match ← peek with
            | .key | .value | .blockEnd => nothing
            | _ => node fuel true true
          let v ← match ← peek with
            | .value =>
                skip
                match ← peek with
                | .key | .value | .blockEnd => nothing
                | _ => node fuel true true
            | _ => nothing
          pure ((k, v) :: (← blockFields fuel))
      | .blockEnd =>
          skip
          pure []
      | _ => failure

def flowItems : Nat → Bool → Build (List Node)
  | 0, _ => failure
  | fuel + 1, first => do
      match ← peek with
      | .flowSequenceEnd =>
          skip
          pure []
      | t =>
          if !first then
            if t = .flowEntry then skip else failure
          match ← peek with
          | .flowSequenceEnd =>
              skip
              pure []
          | .key =>
              skip
              event 2
              let k ← match ← peek with
                | .value | .flowEntry | .flowSequenceEnd =>
                    skip
                    nothing
                | _ => node fuel false false
              let v ← match ← peek with
                | .value =>
                    skip
                    match ← peek with
                    | .flowEntry | .flowSequenceEnd => nothing
                    | _ => node fuel false false
                | _ => nothing
              pure (.record [(k, v)] :: (← flowItems fuel false))
          | _ =>
              let d ← node fuel false false
              pure (d :: (← flowItems fuel false))

def flowFields : Nat → Bool → Build (List (Node × Node))
  | 0, _ => failure
  | fuel + 1, first => do
      match ← peek with
      | .flowMappingEnd =>
          skip
          pure []
      | t =>
          if !first then
            if t = .flowEntry then skip else failure
          match ← peek with
          | .flowMappingEnd =>
              skip
              pure []
          | .key =>
              skip
              let k ← match ← peek with
                | .value | .flowEntry | .flowMappingEnd => nothing
                | _ => node fuel false false
              let v ← match ← peek with
                | .value =>
                    skip
                    match ← peek with
                    | .flowEntry | .flowMappingEnd => nothing
                    | _ => node fuel false false
                | _ => nothing
              pure ((k, v) :: (← flowFields fuel false))
          | _ =>
              let k ← node fuel false false
              let v ← nothing
              pure ((k, v) :: (← flowFields fuel false))

end

/-- The directives in front of a document; one version at most, and each handle once. -/
def directives : Nat → Bool → Build Unit
  | 0, _ => failure
  | fuel + 1, versioned => do
      match ← peek with
      | .version major minor =>
          if versioned || major ≠ 1 || (minor ≠ 1 && minor ≠ 2) then failure
          skip
          directives fuel true
      | .tagPrefix handle start =>
          if (← get).prefixes.any (fun e => e.1 = handle) then failure
          modify fun b => { b with prefixes := (handle, start) :: b.prefixes }
          skip
          directives fuel versioned
      | _ => pure ()

def skipEnds : Nat → Build Unit
  | 0 => pure ()
  | fuel + 1 => do
      if (← peek) = .documentEnd then
        skip
        skipEnds fuel

def document (fuel : Nat) : Build Node := do
  match ← peek with
  | .streamEnd => nothing
  | first =>
      directives fuel false
      let n ← match ← peek with
        | .documentStart =>
            skip
            match ← peek with
            | .version .. | .tagPrefix .. | .documentStart | .documentEnd | .streamEnd => nothing
            | _ => node fuel true false
        | _ =>
            match first with
            | .version .. | .tagPrefix .. => failure
            | _ => node fuel true false
      skipEnds fuel
      if (← get).tokens ≠ [.streamEnd] then failure
      pure n

end Build

/-- How often aliases may be followed for every scalar and every bracket of the text. -/
def aliasFactor : Nat := 100

/-- The document of a text, of which just what the schema says is going to be read. -/
def read? (schema : Document.Schema) (text : String) : Option Document := do
  let tokens ← Token.scan? text.toList
  let (n, b) ← (Build.document (2 * tokens.length + 2)).run { tokens }
  let (d, _) := n.resolved (Build.numbering b)
  if Document.namesIn schema d ≤ aliasFactor * b.events then some d else none

/-! ### Scalars at their own type -/

def cast? (tag spelling : String) : Option Document :=
  if tag = Document.Scalar.coreTag ++ "bool" then (Document.Scalar.bool? spelling).map .bool
  else if tag = Document.Scalar.coreTag ++ "int" then
    (Document.Scalar.int? spelling).bind fun n =>
      if -(Nat.pow 2 63 : Int) ≤ n ∧ n < Nat.pow 2 64 then some (.number (.int n)) else none
  else if tag = Document.Scalar.coreTag ++ "float" then
    (Document.Scalar.float? spelling).map (fun x => .number (.float x))
  else if tag = Document.Scalar.coreTag ++ "null" then
    if Document.Scalar.isNull spelling && spelling ≠ "" then some .null else none
  else some (.text spelling)

def isLocal (tag : String) : Bool := (Document.Scalar.localTag? tag).isSome

mutual

/-- The document with every plain scalar at the type that its spelling has. A local tag has no
such type. -/
def resolve? : Document → Option Document
  | .plain s => Document.Scalar.resolve? s
  | .tagged tag (.plain s) => if isLocal tag then none else cast? tag s
  | .tagged tag (.text s) => if isLocal tag then none else cast? tag s
  | .tagged tag (.literal s) => if isLocal tag then none else cast? tag s
  | .tagged tag d => if isLocal tag then none else resolve? d
  | .literal s => some (.text s)
  | .copy _ d => resolve? d
  | .endless => none
  | .series items => (resolveItems? items).map .list
  | .record fields => (resolveFields? fields).map .record
  | d => some d

def resolveItems? : List Document → Option (List Document)
  | [] => some []
  | d :: ds => do
      let d ← resolve? d
      let ds ← resolveItems? ds
      some (d :: ds)

def resolveFields? : List (Document × Document) → Option (List (Document × Document))
  | [] => some []
  | (k, d) :: fs => do
      let k ← resolve? k
      let d ← resolve? d
      let fs ← resolveFields? fs
      some ((k, d) :: fs)

end

/-- How many collections may lie inside one another. -/
def maxDepth : Nat := 128

/-- The document of a text as far as it does not lie too deep. -/
def readShallow? (text : String) : Option Document :=
  (read? .all text).filter (fun d => d.depth ≤ maxDepth)

/-- The document of a text with all scalars at their own types. -/
def readResolved? (text : String) : Option Document := (readShallow? text).bind resolve?

end LossPrevention.Yaml
