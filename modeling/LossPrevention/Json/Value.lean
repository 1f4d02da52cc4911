import LossPrevention.Binary64
import LossPrevention.Keyed

/-!
JSON values. An object is an association list in ascending key order with one entry a key, which
`Value.ofFields` builds from any list of fields.
-/

namespace LossPrevention.Json

/-- An exact integer, or a binary number for everything written with a fraction or an exponent. -/
inductive Number where
  | int (n : Int)
  | float (x : Float)
  deriving DecidableEq

inductive Value where
  | null
  | bool (b : Bool)
  | number (n : Number)
  | text (s : String)
  | list (items : List Value)
  | object (fields : List (String × Value))

abbrev Fields := List (String × Value)

namespace Number

def toFloat : Number → Float
  | int n => Binary64.ofInt n
  | float x => x

/-- The place of a number among the binary numbers; an integer stands at its nearest one. -/
def rank (n : Number) : Int := Binary64.rank n.toFloat

/-- The unsigned integer of 64 bits that the number is, if it is one. -/
def toWord? : Number → Option Nat
  | int n => if 0 ≤ n ∧ n < Nat.pow 2 64 then some n.toNat else none
  | float _ => none

end Number

/-- The field of an optional text, which is left out when there is none. -/
def textField (key : String) : Option String → Fields
  | some s => [(key, .text s)]
  | none => []

namespace Value

def ofInt (n : Int) : Value := .number (.int n)

def ofNat (n : Nat) : Value := .number (.int n)

def ofFields (fields : List (String × Value)) : Value := .object (Keyed.ofList fields)

def asText? : Value → Option String
  | text s => some s
  | _ => none

def asList? : Value → Option (List Value)
  | list items => some items
  | _ => none

def asNumber? : Value → Option Number
  | number n => some n
  | _ => none

def isNull : Value → Bool
  | null => true
  | _ => false

def get? (key : String) : Value → Option Value
  | object fields => Keyed.get? key fields
  | _ => none

def textOrNull : Option String → Value
  | some s => text s
  | none => null

def textList (items : List String) : Value := .list (items.map .text)

mutual

/-- Equality of representations: an integer and a float differ, as do the two zeros. -/
def decEq : (a b : Value) → Decidable (a = b)
  | null, null => isTrue rfl
  | bool a, bool b => decidable_of_iff (a = b) (by simp)
  | number a, number b => decidable_of_iff (a = b) (by simp)
  | text a, text b => decidable_of_iff (a = b) (by simp)
  | list a, list b => @decidable_of_iff _ (a = b) (by simp) (decEqItems a b)
  | object a, object b => @decidable_of_iff _ (a = b) (by simp) (decEqFields a b)
  | null, bool _ | null, number _ | null, text _ | null, list _ | null, object _ => isFalse nofun
  | bool _, null | bool _, number _ | bool _, text _ | bool _, list _ | bool _, object _ =>
      isFalse nofun
  | number _, null | number _, bool _ | number _, text _ | number _, list _
  | number _, object _ => isFalse nofun
  | text _, null | text _, bool _ | text _, number _ | text _, list _ | text _, object _ =>
      isFalse nofun
  | list _, null | list _, bool _ | list _, number _ | list _, text _ | list _, object _ =>
      isFalse nofun
  | object _, null | object _, bool _ | object _, number _ | object _, text _
  | object _, list _ => isFalse nofun

def decEqItems : (a b : List Value) → Decidable (a = b)
  | [], [] => isTrue rfl
  | x :: xs, y :: ys =>
      @decidable_of_iff _ (x = y ∧ xs = ys) (by simp)
        (@instDecidableAnd _ _ (decEq x y) (decEqItems xs ys))
  | [], _ :: _ => isFalse nofun
  | _ :: _, [] => isFalse nofun

def decEqFields : (a b : List (String × Value)) → Decidable (a = b)
  | [], [] => isTrue rfl
  | (k, v) :: xs, (l, w) :: ys =>
      @decidable_of_iff _ (k = l ∧ v = w ∧ xs = ys) (by simp [and_assoc])
        (@instDecidableAnd _ _ inferInstance
          (@instDecidableAnd _ _ (decEq v w) (decEqFields xs ys)))
  | [], _ :: _ => isFalse nofun
  | _ :: _, [] => isFalse nofun

end

instance : DecidableEq Value := decEq

instance : Inhabited Value := ⟨null⟩

end Value

end LossPrevention.Json
