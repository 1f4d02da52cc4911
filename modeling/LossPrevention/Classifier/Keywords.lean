import LossPrevention.Keyed
import LossPrevention.Text.Blank

/-!
Keywords with labels, found in any ASCII case. From the leftmost place on, the longest keyword is
taken and the search goes on behind it, so that no two hits overlap.
-/

namespace LossPrevention.Classifier.Keywords

structure Keyword where
  label : String
  word : List Char

/-- All keywords that are not blank, in the order of their labels. -/
def ofEntries (entries : List (String × List String)) : List Keyword :=
  entries.flatMap fun (label, words) =>
    (words.filter (fun w => !(Text.trimChars w.toList).isEmpty)).map (fun w => ⟨label, w.toList⟩)

def leads : List Char → List Char → Bool
  | [], _ => true
  | _ :: _, [] => false
  | w :: ws, c :: cs => w.toLower = c.toLower && leads ws cs

/-- The longest keyword at the head of the text, of equal ones the first. -/
def longest? (keywords : List Keyword) (text : List Char) : Option Keyword :=
  (keywords.filter (fun k => leads k.word text)).foldl
    (fun best k => match best with
      | none => some k
      | some b => if b.word.length < k.word.length then some k else some b) none

/-- The keywords met from the first place on; `skip` characters belong to the last one. -/
def hits (keywords : List Keyword) : Nat → List Char → List Keyword
  | _, [] => []
  | skip + 1, _ :: cs => hits keywords skip cs
  | 0, c :: cs =>
      match longest? keywords (c :: cs) with
      | some k => k :: hits keywords (k.word.length - 1) cs
      | none => hits keywords 0 cs

def detect (keywords : List Keyword) (content : List Char) : List (String × Nat) :=
  (hits keywords 0 content).foldl (fun counts k => Keyed.update k.label 0 (· + 1) counts) []

end LossPrevention.Classifier.Keywords
