/-!
UTF-8: how many bytes a character takes, and ranges of characters as sequences of ranges of bytes.
-/

namespace LossPrevention.Text.Utf8

def encode (n : Nat) : List Nat :=
  if n < 0x80 then [n]
  else if n < 0x800 then [0xc0 + n / 0x40, 0x80 + n % 0x40]
  else if n < 0x10000 then [0xe0 + n / 0x1000, 0x80 + n / 0x40 % 0x40, 0x80 + n % 0x40]
  else [0xf0 + n / 0x40000, 0x80 + n / 0x1000 % 0x40, 0x80 + n / 0x40 % 0x40, 0x80 + n % 0x40]

/-- Where a range has to be cut because the characters on both sides differ in the number of their
bytes. The surrogates, which have no bytes, lie between two of the cuts. -/
def lengthCuts : List Nat := [0x7f, 0x7ff, 0xd7ff, 0xdfff, 0xffff]

/-- Where to cut a range of characters of one length so that the low ones of its two ends, in
blocks of `block` characters, are the first and the last of their block. -/
def blockCut? (first last block : Nat) : Option Nat :=
  if first / block = last / block then none
  else if first % block ≠ 0 then some (first / block * block + (block - 1))
  else if last % block ≠ block - 1 then some (last / block * block - 1)
  else none

/-- The last character of the lower part if the range is no single sequence. -/
def cut? (first last : Nat) : Option Nat :=
  match lengthCuts.find? (fun m => first ≤ m && m < last) with
  | some m => some m
  | none =>
      if last < 0x80 then none
      else [0x40, 0x1000, 0x40000].findSome? (blockCut? first last)

/-- The sequences of byte ranges that hold just the bytes of the characters in the range,
ascending. -/
def sequences (first last : Nat) : List (List (Nat × Nat)) :=
  match cut? first last with
  | some m =>
      if _h : first ≤ m ∧ m < last then sequences first m ++ sequences (m + 1) last else []
  | none =>
      if 0xd800 ≤ first ∧ last ≤ 0xdfff then [] else [(encode first).zip (encode last)]
termination_by last + 1 - first

def ofRanges (ranges : List (Nat × Nat)) : List (List (Nat × Nat)) :=
  ranges.flatMap (fun r => sequences r.1 r.2)

end LossPrevention.Text.Utf8
