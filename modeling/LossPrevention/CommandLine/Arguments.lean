import LossPrevention.Text.Blank

/-!
The arguments of the command line. An option takes the rest of its word, or the next word, as its
value; nothing may be given twice, and there is nothing but options and flags. What is not given
may come from the environment.
-/

namespace LossPrevention.CommandLine

inductive Slot where
  | config
  | policies
  | input
  | contentField
  deriving DecidableEq

inductive Flag where
  | redact
  | jsonLogs
  | verbose
  deriving DecidableEq

structure Arguments where
  config : String
  policies : Option String
  /-- The path of the events; standard input without one. -/
  input : Option String
  contentField : Option String
  redact : Bool
  jsonLogs : Bool
  verbose : Bool
  deriving DecidableEq

namespace Arguments

inductive Fault where
  | unexpected (word : String)
  | missingValue (slot : Slot)
  | repeated (word : String)
  /-- Not a misuse: help is asked for. -/
  | help
  deriving DecidableEq

structure Given where
  values : List (Slot × String) := []
  flags : List Flag := []

def Given.value? (g : Given) (s : Slot) : Option String :=
  (g.values.find? (fun e => e.1 = s)).map Prod.snd

/-- Paths are not empty. -/
def accepts (s : Slot) (value : String) : Bool := s = .contentField || value ≠ ""

def Given.put (word : String) (s : Slot) (value : String) (g : Given) : Except Fault Given :=
  if (g.value? s).isSome then .error (.repeated word)
  else if accepts s value then .ok { g with values := (s, value) :: g.values }
  else .error (.missingValue s)

def Given.raise (word : String) (f : Flag) (g : Given) : Except Fault Given :=
  if g.flags.contains f then .error (.repeated word) else .ok { g with flags := f :: g.flags }

/-- What an option or a flag is called. -/
inductive Meaning where
  | slot (s : Slot)
  | flag (f : Flag)
  | help

def ofLong? : String → Option Meaning
  | "config" => some (.slot .config)
  | "policies" => some (.slot .policies)
  | "input" => some (.slot .input)
  | "content-field" => some (.slot .contentField)
  | "redact" => some (.flag .redact)
  | "json-logs" => some (.flag .jsonLogs)
  | "verbose" => some (.flag .verbose)
  | "help" => some .help
  | _ => none

def ofShort? : Char → Option Meaning
  | 'c' => some (.slot .config)
  | 'p' => some (.slot .policies)
  | 'i' => some (.slot .input)
  | 'v' => some (.flag .verbose)
  | 'h' => some .help
  | _ => none

/-- What a word comes to: all is said, or the next word is the value of a slot. -/
inductive Step where
  | complete (given : Given)
  | awaiting (slot : Slot) (given : Given)

/-- A word that two dashes lead, without them. -/
def readLong (word : String) (body : List Char) (g : Given) : Except Fault Step :=
  let (name, rest) := body.span (· ≠ '=')
  match ofLong? (String.ofList name), rest with
  | some (.slot s), [] => .ok (.awaiting s g)
  | some (.slot s), _ :: value => (g.put word s (String.ofList value)).map .complete
  | some (.flag f), [] => (g.raise word f).map .complete
  | some .help, [] => .error .help
  | _, _ => .error (.unexpected word)

/-- The letters after one dash. An equals sign between an option and its value is no part of it. -/
def readShort (word : String) : List Char → Given → Except Fault Step
  | [], g => .ok (.complete g)
  | c :: rest, g =>
      match ofShort? c with
      | some (.flag f) => do readShort word rest (← g.raise word f)
      | some .help => .error .help
      | some (.slot s) =>
          match rest with
          | [] => .ok (.awaiting s g)
          | '=' :: value => (g.put word s (String.ofList value)).map .complete
          | value => (g.put word s (String.ofList value)).map .complete
      | none => .error (.unexpected word)

def readWord (word : String) (g : Given) : Except Fault Step :=
  match word.toList with
  | '-' :: '-' :: body => readLong word body g
  | '-' :: c :: body => readShort word (c :: body) g
  | _ => .error (.unexpected word)

/-- A word that leads with a dash is no value, but a single dash is one. -/
def isValue (word : String) : Bool := word = "-" || word.toList.head? ≠ some '-'

def read (g : Given) : List String → Except Fault Given
  | [] => .ok g
  | ["--"] => .ok g
  | word :: rest => do
      match ← readWord word g with
      | .complete g => read g rest
      | .awaiting s g =>
          match rest with
          | value :: rest =>
              if isValue value then do read (← g.put word s value) rest
              else .error (.missingValue s)
          | [] => .error (.missingValue s)

def environmentName? : Slot → Option String
  | .config => some "LEAKGUARD_CONFIG"
  | .policies => some "LEAKGUARD_POLICIES"
  | _ => none

def defaultConfig : String := "leakguard.yaml"

/-- Adds what the environment says of a slot that is not given. -/
def complete (environment : String → Option String) (s : Slot) (g : Given) : Except Fault Given :=
  if (g.value? s).isSome then .ok g
  else match (environmentName? s).bind environment with
    | some value => g.put "" s value
    | none => .ok g

def parse (environment : String → Option String) (words : List String) :
    Except Fault Arguments := do
  let g ← read {} words
  let g ← complete environment .config g
  let g ← complete environment .policies g
  return {
    config := (g.value? .config).getD defaultConfig
    policies := g.value? .policies
    input := g.value? .input
    contentField := g.value? .contentField
    redact := g.flags.contains .redact
    jsonLogs := g.flags.contains .jsonLogs
    verbose := g.flags.contains .verbose }

/-- A dash stands for standard input. -/
def inputPath (a : Arguments) : Option String := a.input.filter (· ≠ "-")

end Arguments

end LossPrevention.CommandLine
