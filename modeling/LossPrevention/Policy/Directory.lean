import LossPrevention.Failure
import LossPrevention.Policy.Definition
import LossPrevention.Json.Reader
import LossPrevention.Yaml.Reader

/-!
Policies in files. A directory holds them in files named `*.json`, `*.yaml` and `*.yml`; all else
in it is left alone.
-/

namespace LossPrevention.Policy

/-- Why a file holds no policy. -/
inductive FileFault where
  /-- It cannot be read as a text. -/
  | unreadable (error : String)
  | noJson (content : String)
  | noYaml (content : String)

def FileFault.failure (words : Complaints) : FileFault → Failure
  | unreadable error => ⟨.io, error⟩
  | noJson content => ⟨.serialization, words.json content⟩
  | noYaml content => ⟨.yaml, words.yaml content⟩

namespace Definition

def ofJson (text : String) : Except FileFault Definition :=
  match (Json.read? text).bind ofDocument? with
  | some d => .ok d
  | none => .error (.noJson text)

def ofYaml (text : String) : Except FileFault Definition :=
  match (Yaml.readResolved? text).bind ofDocument? with
  | some d => .ok d
  | none => .error (.noYaml text)

end Definition

inductive Item where
  | directory
  | file (content : String)
  /-- A file of which the content is no text, and what the system words of it. -/
  | unreadable (error : String)

structure UnreadableFile where
  name : String
  fault : FileFault

/-- What follows the last dot of a file name, if something stands before the dot. -/
def extension? (name : String) : Option String :=
  let (reversed, rest) := name.toList.reverse.span (· ≠ '.')
  match rest with
  | _ :: _ :: _ => some (String.ofList reversed.reverse)
  | _ => none

def isPolicyFile (name : String) : Bool :=
  match extension? name with
  | some extension => ["yml", "yaml", "json"].contains extension
  | none => false

def readFile (name content : String) : Except FileFault Definition :=
  if extension? name = some "json" then Definition.ofJson content else Definition.ofYaml content

/-- The policies of files in the given order, and the files that hold none. -/
def readFiles : List (String × Item) → List Definition × List UnreadableFile
  | [] => ([], [])
  | (name, item) :: rest =>
      let (definitions, unreadable) := readFiles rest
      match item with
      | .directory => (definitions, unreadable)
      | .unreadable error => (definitions, ⟨name, .unreadable error⟩ :: unreadable)
      | .file content =>
          match readFile name content with
          | .ok definition => (definition :: definitions, unreadable)
          | .error fault => (definitions, ⟨name, fault⟩ :: unreadable)

/-- The policies of a directory. Its files are read in ascending order of their names. -/
def readDirectory (items : List (String × Item)) : List Definition × List UnreadableFile :=
  readFiles (Keyed.ofList (items.filter (fun i => isPolicyFile i.1)))

end LossPrevention.Policy
