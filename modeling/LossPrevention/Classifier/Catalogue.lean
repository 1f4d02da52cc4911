import LossPrevention.Classifier.Luhn
import LossPrevention.Keyed
import LossPrevention.Pattern.Search

/-!
The built-in patterns for sensitive data, label by label: finding them in a text and putting a
marker in their place. Card numbers count only if all of them have a valid checksum.
-/

namespace LossPrevention.Classifier

open Text (CharSet)

inductive Label where
  | pan
  | ssn
  | email
  | phone
  | apiKey
  | secret
  | ipAddress
  deriving DecidableEq

namespace Label

def all : List Label := [pan, ssn, email, phone, apiKey, secret, ipAddress]

def name : Label → String
  | pan => "PAN"
  | ssn => "SSN"
  | email => "EMAIL"
  | phone => "PHONE"
  | apiKey => "API_KEY"
  | secret => "SECRET"
  | ipAddress => "IP_ADDRESS"

end Label

namespace Catalogue

open Pattern

def asciiDigits (n : Nat) : Pattern := times n (.set .asciiDigit)

def digits (least most : Nat) : Pattern := between least most (.set .digit)

/-- 13 or 16 digits from 4. -/
def visa : Pattern := Pattern.all [edge, char '4', asciiDigits 12, optional (asciiDigits 3), edge]

/-- 16 digits from 51 to 55. -/
def mastercard : Pattern :=
  Pattern.all [edge, char '5', .set (.range 0x31 0x35), asciiDigits 14, edge]

/-- 15 digits from 34 or 37. -/
def amex : Pattern := Pattern.all [edge, char '3', oneOf ['4', '7'], asciiDigits 13, edge]

/-- 16 digits from 6011 or 65. -/
def discover : Pattern :=
  Pattern.all [edge, char '6', .alt (word "011") (.seq (char '5') (asciiDigits 2)),
    asciiDigits 12, edge]

def groupedSsn : Pattern :=
  Pattern.all [edge, digits 3 3, char '-', digits 2 2, char '-', digits 4 4, edge]

def plainSsn : Pattern := Pattern.all [edge, digits 9 9, edge]

def letters : CharSet := .ranges [(0x41, 0x5a), (0x61, 0x7a)]

def alphanumerics : CharSet := .union letters .asciiDigit

def withSigns (s : CharSet) (signs : List Char) : CharSet :=
  .union s (CharSet.unions (signs.map .single))

def email : Pattern :=
  Pattern.all [edge, atLeast 1 (.set (withSigns alphanumerics ['.', '_', '%', '+', '-'])), char '@',
    atLeast 1 (.set (withSigns alphanumerics ['.', '-'])), char '.',
    atLeast 2 (.set letters), edge]

def phoneMark : Pattern := optional (oneOf ['-', '.'])

def domesticPhone : Pattern :=
  Pattern.all [edge, digits 3 3, phoneMark, digits 3 3, phoneMark, digits 4 4, edge]

def internationalPhone : Pattern :=
  Pattern.all [char '+', digits 1 3, phoneMark, digits 1 14, edge]

def accessKeyId : Pattern :=
  Pattern.all [word "AKIA", times 16 (.set (.ranges [(0x30, 0x39), (0x41, 0x5a)]))]

def quote : Pattern := optional (oneOf ['"', '\''])

def blanks : Pattern := atLeast 0 (.set .blank)

/-- A name, a colon or an equals sign, and a value of at least `least` characters in any case. -/
def assignment (name : Pattern) (value : CharSet) (least : Nat) : Pattern :=
  Pattern.all [name, quote, blanks, oneOf [':', '='], blanks, quote,
    atLeast least (.set (.folded value)), quote]

def tokenChars : CharSet := withSigns alphanumerics ['_', '-']

def passwordChars : CharSet :=
  withSigns alphanumerics ['_', '-', '!', '@', '#', '$', '%', '^', '&', '*']

def apiKey : Pattern :=
  assignment
    (Pattern.all [anyCase "api", optional (oneOf ['_', '-']), anyCase "key"]) tokenChars 32

def secret : Pattern := assignment (anyCase "secret") tokenChars 16

def password : Pattern := assignment (anyCase "password") passwordChars 8

def ipAddress : Pattern :=
  Pattern.all [edge, times 3 (.seq (digits 1 3) (char '.')), digits 1 3, edge]

def patterns : Label → List Pattern
  | .pan => [visa, mastercard, amex, discover]
  | .ssn => [groupedSsn, plainSsn]
  | .email => [email]
  | .phone => [domesticPhone, internationalPhone]
  | .apiKey => [accessKeyId, apiKey]
  | .secret => [secret, password]
  | .ipAddress => [ipAddress]

/-- A span of a text by its places, with the characters in it. -/
structure Finding where
  first : Nat
  last : Nat
  chars : List Char
  deriving DecidableEq

def Finding.ofSpan (s : Pattern.Span) : Finding := ⟨s.first.pos, s.last.pos, s.chars⟩

/-- What the patterns of a label find, each span once. -/
def findings (label : Label) (content : List Char) : List Finding :=
  ((patterns label).flatMap (fun p => (p.findAll content).map Finding.ofSpan)).eraseDups

/-- Whether the label is refused although its patterns found something. -/
def refuses (label : Label) (found : List Finding) : Bool :=
  label = .pan && !found.all (fun f => Luhn.valid f.chars)

structure Detection where
  /-- How often each accepted label was found. -/
  counts : List (String × Nat)
  rejected : List Label

def Detection.maxCount? (d : Detection) : Option Nat := (d.counts.map Prod.snd).max?

def addLabel (content : List Char) (d : Detection) (label : Label) : Detection :=
  let found := findings label content
  if found.isEmpty then d
  else if refuses label found then { d with rejected := d.rejected ++ [label] }
  else { d with counts := Keyed.insert label.name found.length d.counts }

def detect (content : List Char) : Detection := Label.all.foldl (addLabel content) ⟨[], []⟩

/-- Every pattern in turn gives way to the marker in what the patterns before it have left. -/
def redact (marker content : List Char) : List Char :=
  (Label.all.flatMap patterns).foldl (fun text p => p.replaceAll marker text) content

end Catalogue

end LossPrevention.Classifier
