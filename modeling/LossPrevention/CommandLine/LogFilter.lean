import LossPrevention.Document.Scalar
import LossPrevention.Pattern.Compile
import LossPrevention.Policy.Action
import LossPrevention.Text.Digits
import LossPrevention.Text.Split

/-!
Which log records are shown. A filter is a list of directives with commas between. A directive is
a level, or the beginning of the names of sources with a level for these; between source and level
it may name in brackets a span of work and in braces a field of the record. Of the directives that
apply to a record the most specific one decides.
-/

namespace LossPrevention.CommandLine

inductive Verbosity where
  | off
  | level (l : LogLevel)
  | trace
  deriving DecidableEq

namespace Verbosity

def ofNumber? : Nat → Option Verbosity
  | 0 => some off
  | 1 => some (level .error)
  | 2 => some (level .warn)
  | 3 => some (level .info)
  | 4 => some (level .debug)
  | 5 => some trace
  | _ => none

def ofName? : String → Option Verbosity
  | "off" => some off
  | "error" => some (level .error)
  | "warn" => some (level .warn)
  | "info" => some (level .info)
  | "debug" => some (level .debug)
  | "trace" => some trace
  | _ => none

/-- A number, which a plus sign may lead, or a name in any case. -/
def ofText? (text : List Char) : Option Verbosity :=
  let digits := match text with
    | '+' :: rest => rest
    | _ => text
  if !digits.isEmpty && digits.all Char.isDigit then ofNumber? (Text.digitsValue digits)
  else ofName? (Text.lowerAscii (String.ofList text))

def showsInfo : Verbosity → Bool
  | trace | level .debug | level .info => true
  | _ => false

end Verbosity

/-- A field that a record must have, with the value that it must have. -/
structure FieldDemand where
  name : String
  value : Option String
  deriving DecidableEq

structure Directive where
  source : String
  span : Option String
  field : Option FieldDemand
  verbosity : Verbosity
  deriving DecidableEq

namespace LogFilter

def environmentName : String := "LEAKGUARD_LOG"

/-- The source of what the program says of itself. -/
def ownSource : String := "leakguard"

def isNumber (text : List Char) : Bool :=
  let bare := match text with
    | '+' :: rest | '-' :: rest => rest
    | _ => text
  ["inf", "infinity", "nan"].contains (Text.lowerAscii (String.ofList bare)) ||
    (Document.Scalar.decimal? bare).isSome

/-- A value is a number or a pattern, which asks for no edges of words beyond ASCII. -/
def isValue (text : List Char) : Bool :=
  isNumber text || (Pattern.Reader.pattern? text).any fun p => p.looks.all Look.isLocal

/-- The name and the value of a field; what follows a second equals sign does not count. -/
def fieldDemand? (text : List Char) : Option FieldDemand :=
  match Text.pieces '=' text with
  | [] => none
  | [name] => if name.isEmpty then none else some ⟨String.ofList name, none⟩
  | name :: value :: _ =>
      if isValue value then some ⟨String.ofList name, some (String.ofList value)⟩ else none

/-- What is read of a directive: the characters that guide the reading, each with the one that is
kept in its place, and what else is kept at the end. The two differ where blanks surround a
directive: the reading ignores them, and what is kept is counted from the first of them. -/
structure Reading where
  marks : List (Char × Char)
  surplus : List Char

namespace Reading

def ofText (text : List Char) : Reading :=
  let seen := Text.trimChars text
  ⟨seen.zip text, text.drop seen.length⟩

/-- What is kept up to the first of the given characters, that character, and what follows it. -/
def upTo (stops : List Char) (r : Reading) : List Char × Option (Char × Reading) :=
  let (part, rest) := r.marks.span (fun m => !stops.contains m.1)
  (part.map Prod.snd, match rest with
    | [] => none
    | m :: rest => some (m.1, { r with marks := rest }))

def kept (r : Reading) : List Char := r.marks.map Prod.snd ++ r.surplus

/-- The level at the end; without one everything is shown. -/
def verbosity? (r : Reading) : Option Verbosity :=
  if r.kept.isEmpty then some .trace else Verbosity.ofText? r.kept

def closing? (r : Reading) : Option Verbosity :=
  match r.upTo ['='] with
  | ([], some (_, rest)) => rest.verbosity?
  | ([], none) => some .trace
  | _ => none

/-- What follows the opening bracket. -/
def inBrackets? (source : String) (r : Reading) : Option Directive :=
  match r.upTo [']', '\x7b'] with
  | (_, none) => none
  | (span, some (']', rest)) =>
      rest.closing?.map (⟨source, some (String.ofList span), none, ·⟩)
  | (span, some (_, rest)) => do
      let (field, some (_, rest)) := rest.upTo ['\x7d'] | none
      let demand ← fieldDemand? field
      let ([], some (_, rest)) := rest.upTo [']'] | none
      let verbosity ← rest.closing?
      let span := if span.isEmpty then none else some (String.ofList span)
      some ⟨source, span, some demand, verbosity⟩

def isNameStart (c : Char) : Bool :=
  c = '-' || c = ':' || c = '_' || Text.isLetter c || Text.isNumeric c

/-- A name alone is a level, or else a source that is shown with everything. -/
def directive? (r : Reading) : Option Directive :=
  match r.marks with
  | [] => none
  | ('[', _) :: rest => inBrackets? "" { r with marks := rest }
  | (c, _) :: _ =>
      if !isNameStart c then none
      else
        match r.upTo ['=', '['] with
        | (_, none) =>
            match Verbosity.ofText? r.kept with
            | some v => some ⟨"", none, none, v⟩
            | none => some ⟨String.ofList r.kept, none, none, .trace⟩
        | (source, some ('=', rest)) =>
            rest.verbosity?.map (⟨String.ofList source, none, none, ·⟩)
        | (source, some (_, rest)) => inBrackets? (String.ofList source) rest

end Reading

def parse? (text : String) : Option (List Directive) :=
  ((Text.pieces ',' text.toList).filter (fun p => !p.isEmpty)).mapM
    fun p => (Reading.ofText p).directive?

/-- The program does its work in no span, and the values of fields are asked for in spans only. -/
def applies (fields : List String) (d : Directive) : Bool :=
  d.source.toList.isPrefixOf ownSource.toList && d.span.isNone &&
    d.field.all fun f => f.value.isNone && fields.contains f.name

def fieldName (d : Directive) : String := (d.field.map FieldDemand.name).getD ""

/-- The first directive yields to one that names more of the source, or as much and a field, and
to a later one for the same records. -/
def yields (a b : Directive) : Bool :=
  a.source.length < b.source.length ||
    (a.source.length = b.source.length && decide (fieldName a ≤ fieldName b))

def deciding? : List Directive → Option Directive
  | [] => none
  | d :: ds => some (ds.foldl (fun a b => if yields a b then b else a) d)

def showsOwnInfo (directives : List Directive) (fields : List String) : Bool :=
  (deciding? (directives.filter (applies fields))).any fun d => d.verbosity.showsInfo

/-- Whether the program's own information with the given fields is shown. Verbose output does not
ask the environment, and a filter that cannot be read does not count. -/
def showsInfo (verbose : Bool) (text : Option String) (fields : List String) : Bool :=
  verbose || match text.bind parse? with
    | some directives => showsOwnInfo directives fields
    | none => true

end LogFilter

end LossPrevention.CommandLine
