import LossPrevention.Sha256
import LossPrevention.Text.Blank

/-!
The digests of known documents. A digest is kept without blanks around it and in lower case.
-/

namespace LossPrevention.Classifier

structure Fingerprints where
  digests : List String := []

namespace Fingerprints

def normal (digest : String) : String := Text.lowerAscii (Text.trim digest)

def contains (f : Fingerprints) (digest : String) : Bool := f.digests.contains (normal digest)

def add (f : Fingerprints) (digest : String) : Fingerprints :=
  if f.contains digest then f else ⟨normal digest :: f.digests⟩

def size (f : Fingerprints) : Nat := f.digests.length

def isEmpty (f : Fingerprints) : Bool := f.digests.isEmpty

def addAll (f : Fingerprints) (digests : List String) : Fingerprints := digests.foldl add f

def ofDigests (digests : List String) : Fingerprints := addAll {} digests

theorem contains_add_self (f : Fingerprints) (digest : String) :
    (f.add digest).contains digest = true := by
  unfold add
  split
  · assumption
  · simp [contains]

end Fingerprints

end LossPrevention.Classifier
