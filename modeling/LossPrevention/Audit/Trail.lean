import LossPrevention.Audit.Record

/-!
The trail of records, each of which holds the hash of the one before it. Only the last records are
kept, but the chain goes on: the oldest record that is kept still names the hash of the record
that is gone. The hash function is a parameter of what has `With` in its name.
-/

namespace LossPrevention.Audit

structure Trail where
  /-- How many records are kept, at least one. -/
  limit : Nat
  /-- Oldest first. -/
  records : List Record := []
  /-- The hash of the last record. -/
  head : Option String := none
  evicted : Nat := 0
  deriving DecidableEq

namespace Trail

def defaultLimit : Nat := 10000

def empty (maxRecords : Nat) : Trail := { limit := max 1 maxRecords }

def length (t : Trail) : Nat := t.records.length

/-- The record as the next one of the trail. -/
def linkedWith (hash : List UInt8 → String) (t : Trail) (r : Record) : Record :=
  let r := { r with previousHash := t.head }
  { r with hash := some (hash r.bytes) }

def addWith (hash : List UInt8 → String) (t : Trail) (r : Record) : Trail :=
  let linked := t.linkedWith hash r
  let surplus := t.records.length + 1 - t.limit
  { t with
    records := t.records.drop surplus ++ [linked]
    head := linked.hash
    evicted := t.evicted + surplus }

/-- Whether each record has its own hash, and that of the one before it, `previous` for the first;
what follows the last record is `head`. -/
def chainsWith (hash : List UInt8 → String) (head : Option String) :
    Option String → List Record → Bool
  | previous, [] => previous = head
  | previous, r :: rest =>
      r.previousHash = previous && r.hash = some (hash r.bytes) &&
        chainsWith hash head r.hash rest

/-- Whether the records that are kept are unaltered. The first of all has none before it. -/
def verifyWith (hash : List UInt8 → String) (t : Trail) : Bool :=
  let anchor := t.records.head?.bind Record.previousHash
  !(t.evicted = 0 && anchor.isSome) && chainsWith hash t.head anchor t.records

def add (t : Trail) (r : Record) : Trail := t.addWith Sha256.hex r

def verify (t : Trail) : Bool := t.verifyWith Sha256.hex

end Trail

end LossPrevention.Audit
