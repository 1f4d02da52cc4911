import LossPrevention.Proofs.Document.Spelling
import LossPrevention.Proofs.Json.Floats
import LossPrevention.Proofs.Json.RoundTrip

/-!
Compact JSON text is unambiguous: no text is the text of two values, whatever is quoted in it. Main
statement: two values have the same text if and only if they are of the same type and structure,
where the order of the fields in objects is of no account.
-/

namespace LossPrevention.Json

open Document (ofValue ofItems ofFields Strict StrictItems StrictFields)
open Reader (Ends)

/-! ### Beginnings -/

/-- What the first character tells of a value. -/
inductive Kind where
  | null
  | bool (b : Bool)
  | number
  | text
  | list
  | object

def Kind.ofFirst? (c : Char) : Option Kind :=
  if c = '-' ∨ c.isDigit = true then some .number
  else match c with
    | 'n' => some .null
    | 't' => some (.bool true)
    | 'f' => some (.bool false)
    | '"' => some .text
    | '[' => some .list
    | '{' => some .object
    | _ => none

namespace Value

def kind : Value → Kind
  | null => .null
  | bool b => .bool b
  | number _ => .number
  | text _ => .text
  | list _ => .list
  | object _ => .object

theorem first_chars {v : Value} (h : (ofValue v).Strict Number.Fits) :
    ∃ c rest, v.chars = c :: rest ∧ Kind.ofFirst? c = some v.kind := by
  cases v with
  | null => exact ⟨_, _, rfl, rfl⟩
  | bool b => cases b <;> exact ⟨_, _, rfl, rfl⟩
  | number n =>
      obtain ⟨c, rest, hchars, hfirst⟩ := Number.first_chars (n := n) (by rintro x rfl; exact h)
      exact ⟨c, rest, hchars, if_pos hfirst⟩
  | text s => exact ⟨_, _, rfl, rfl⟩
  | list items => cases items <;> exact ⟨_, _, rfl, rfl⟩
  | object fields => rcases fields with _ | ⟨⟨k, v⟩, fs⟩ <;> exact ⟨_, _, rfl, rfl⟩

variable {v w : Value} {r r' : List Char}

theorem kind_eq_of_append_eq (hv : (ofValue v).Strict Number.Fits)
    (hw : (ofValue w).Strict Number.Fits) (h : v.chars ++ r = w.chars ++ r') :
    v.kind = w.kind := by
  obtain ⟨c, rest, hc, hkind⟩ := first_chars hv
  obtain ⟨d, rest', hd, hkind'⟩ := first_chars hw
  rw [hc, hd] at h
  rw [(List.cons.inj h).1, hkind'] at hkind
  exact (Option.some.inj hkind).symm

/-- No value begins with the bracket that closes a list. -/
theorem append_ne_close (hv : (ofValue v).Strict Number.Fits) : v.chars ++ r ≠ ']' :: r' := by
  obtain ⟨c, rest, hc, hkind⟩ := first_chars hv
  rw [hc]
  rintro ⟨⟩
  cases hkind

end Value

/-! ### Ends -/

theorem takeWhile_numeral {cs r : List Char} (hcs : Numeric cs) (hr : Ends r) :
    (cs ++ r).takeWhile isNumeral = cs :=
  Text.takeWhile_append_of_head hcs fun c hc => by
    rcases hr c hc with rfl | rfl | rfl <;> rfl

theorem Number.chars_append_inj {m n : Number} {r r' : List Char} (hm : m.Fits) (hn : n.Fits)
    (hr : Ends r) (hr' : Ends r') (h : m.chars ++ r = n.chars ++ r') : m = n ∧ r = r' := by
  have hfinite {k : Number} (hk : k.Fits) : ∀ x, k = .float x → Binary64.isFinite x = true := by
    rintro x rfl
    exact hk
  have hchars : m.chars = n.chars := by
    rw [← takeWhile_numeral (numeric_chars (hfinite hm)) hr, h,
      takeWhile_numeral (numeric_chars (hfinite hn)) hr']
  rw [hchars] at h
  exact ⟨chars_inj (hfinite hm) (hfinite hn) hchars, List.append_cancel_left h⟩

/-- A text ends at its quote: those inside are escaped. -/
theorem textChars_append_inj {s t : String} {r r' : List Char}
    (h : textChars s ++ r = textChars t ++ r') : s = t ∧ r = r' := by
  simp only [textChars, List.cons_append, List.append_assoc, List.nil_append] at h
  have hread := Reader.text?_append s r
  rw [(List.cons.inj h).2, Reader.text?_append] at hread
  cases hread
  exact ⟨rfl, rfl⟩

/-! ### Whole values -/

section Append

variable (k : String) (v : Value) (vs : List Value) (fs : Fields) (r : List Char)

theorem list_append :
    (Value.list (v :: vs)).chars ++ r = '[' :: (v.chars ++ (Value.itemChars vs ++ r)) := by
  simp [Value.chars]

theorem itemChars_append :
    Value.itemChars (v :: vs) ++ r = ',' :: (v.chars ++ (Value.itemChars vs ++ r)) := by
  simp [Value.itemChars]

theorem object_append : (Value.object ((k, v) :: fs)).chars ++ r =
    '{' :: (textChars k ++ ':' :: (v.chars ++ (Value.fieldChars fs ++ r))) := by
  simp [Value.chars]

theorem fieldChars_append : Value.fieldChars ((k, v) :: fs) ++ r =
    ',' :: (textChars k ++ ':' :: (v.chars ++ (Value.fieldChars fs ++ r))) := by
  simp [Value.fieldChars]

end Append

mutual

/-- What stands behind a value can be told from it. -/
theorem Value.chars_append_inj : ∀ {v w : Value} {r r' : List Char},
    (ofValue v).Strict Number.Fits → (ofValue w).Strict Number.Fits → Ends r → Ends r' →
    v.chars ++ r = w.chars ++ r' → v = w ∧ r = r'
  | .null, w, _, _, hv, hw, _, _, h => by
      have hkind := Value.kind_eq_of_append_eq hv hw h
      cases w <;> cases hkind
      exact ⟨rfl, List.append_cancel_left h⟩
  | .bool b, w, _, _, hv, hw, _, _, h => by
      have hkind := Value.kind_eq_of_append_eq hv hw h
      cases w <;> cases hkind
      exact ⟨rfl, List.append_cancel_left h⟩
  | .number m, w, _, _, hv, hw, hr, hr', h => by
      have hkind := Value.kind_eq_of_append_eq hv hw h
      cases w <;> cases hkind
      obtain ⟨rfl, hrest⟩ := Number.chars_append_inj hv hw hr hr' h
      exact ⟨rfl, hrest⟩
  | .text s, w, _, _, hv, hw, _, _, h => by
      have hkind := Value.kind_eq_of_append_eq hv hw h
      cases w <;> cases hkind
      obtain ⟨rfl, hrest⟩ := textChars_append_inj h
      exact ⟨rfl, hrest⟩
  | .list [], w, _, _, hv, hw, _, _, h => by
      have hkind := Value.kind_eq_of_append_eq hv hw h
      cases w <;> cases hkind
      rename_i ys
      cases ys with
      | nil => exact ⟨rfl, List.append_cancel_left h⟩
      | cons y ys =>
          rw [list_append] at h
          exact absurd (List.cons.inj h).2.symm (Value.append_ne_close hw.1)
  | .list (x :: xs), w, r, r', hv, hw, _, _, h => by
      have hkind := Value.kind_eq_of_append_eq hv hw h
      cases w <;> cases hkind
      rename_i ys
      cases ys with
      | nil =>
          rw [list_append] at h
          exact absurd (List.cons.inj h).2 (Value.append_ne_close hv.1)
      | cons y ys =>
          rw [list_append, list_append] at h
          obtain ⟨rfl, hitems⟩ := Value.chars_append_inj hv.1 hw.1 (Reader.ends_itemChars xs r)
            (Reader.ends_itemChars ys r') (List.cons.inj h).2
          obtain ⟨rfl, hrest⟩ := Value.itemChars_append_inj hv.2 hw.2 hitems
          exact ⟨rfl, hrest⟩
  | .object [], w, _, _, hv, hw, _, _, h => by
      have hkind := Value.kind_eq_of_append_eq hv hw h
      cases w <;> cases hkind
      rename_i gs
      rcases gs with _ | ⟨⟨l, w⟩, gs⟩
      · exact ⟨rfl, List.append_cancel_left h⟩
      · cases h
  | .object ((k, v) :: fs), w, r, r', hv, hw, _, _, h => by
      have hkind := Value.kind_eq_of_append_eq hv hw h
      cases w <;> cases hkind
      rename_i gs
      rcases gs with _ | ⟨⟨l, w⟩, gs⟩
      · cases h
      · rw [object_append, object_append] at h
        obtain ⟨rfl, hvalue⟩ := textChars_append_inj (List.cons.inj h).2
        obtain ⟨rfl, hfields⟩ := Value.chars_append_inj hv.1 hw.1 (Reader.ends_fieldChars fs r)
          (Reader.ends_fieldChars gs r') (List.cons.inj hvalue).2
        obtain ⟨rfl, hrest⟩ := Value.fieldChars_append_inj hv.2 hw.2 hfields
        exact ⟨rfl, hrest⟩

theorem Value.itemChars_append_inj : ∀ {xs ys : List Value} {r r' : List Char},
    StrictItems Number.Fits (ofItems xs) → StrictItems Number.Fits (ofItems ys) →
    Value.itemChars xs ++ r = Value.itemChars ys ++ r' → xs = ys ∧ r = r'
  | [], [], _, _, _, _, h => ⟨rfl, (List.cons.inj h).2⟩
  | [], _ :: _, _, _, _, _, h | _ :: _, [], _, _, _, _, h => by cases h
  | x :: xs, y :: ys, r, r', hxs, hys, h => by
      rw [itemChars_append, itemChars_append] at h
      obtain ⟨rfl, hitems⟩ := Value.chars_append_inj hxs.1 hys.1 (Reader.ends_itemChars xs r)
        (Reader.ends_itemChars ys r') (List.cons.inj h).2
      obtain ⟨rfl, hrest⟩ := Value.itemChars_append_inj hxs.2 hys.2 hitems
      exact ⟨rfl, hrest⟩

theorem Value.fieldChars_append_inj : ∀ {fs gs : Fields} {r r' : List Char},
    StrictFields Number.Fits (Document.ofFields fs) →
    StrictFields Number.Fits (Document.ofFields gs) →
    Value.fieldChars fs ++ r = Value.fieldChars gs ++ r' → fs = gs ∧ r = r'
  | [], [], _, _, _, _, h => ⟨rfl, (List.cons.inj h).2⟩
  | [], _ :: _, _, _, _, _, h | _ :: _, [], _, _, _, _, h => by cases h
  | (k, v) :: fs, (l, w) :: gs, r, r', hfs, hgs, h => by
      rw [fieldChars_append, fieldChars_append] at h
      obtain ⟨rfl, hvalue⟩ := textChars_append_inj (List.cons.inj h).2
      obtain ⟨rfl, hfields⟩ := Value.chars_append_inj hfs.1 hgs.1 (Reader.ends_fieldChars fs r)
        (Reader.ends_fieldChars gs r') (List.cons.inj hvalue).2
      obtain ⟨rfl, hrest⟩ := Value.fieldChars_append_inj hfs.2 hgs.2 hfields
      exact ⟨rfl, hrest⟩

end

theorem Value.compact_inj {v w : Value} (hv : (ofValue v).Strict Number.Fits)
    (hw : (ofValue w).Strict Number.Fits) (h : v.compact = w.compact) : v = w := by
  have hends : Ends [] := nofun
  have hchars : v.chars ++ [] = w.chars ++ [] := by
    rw [List.append_nil, List.append_nil]
    exact String.ofList_injective h
  exact (chars_append_inj hv hw hends hends hchars).1

/-! ### The same values -/

namespace Value

mutual

/-- The same type and structure, where the fields of objects may be in any order. -/
def Same : Value → Value → Prop
  | null, w => w = null
  | bool b, w => w = bool b
  | number n, w => w = number n
  | text s, w => w = text s
  | list vs, w => ∃ ws, w = list ws ∧ SameItems vs ws
  | object fs, w => ∃ gs ordered, w = object gs ∧ List.Perm ordered gs ∧ SameFields fs ordered

def SameItems : List Value → List Value → Prop
  | [], ws => ws = []
  | v :: vs, ws => ∃ w rest, ws = w :: rest ∧ Same v w ∧ SameItems vs rest

def SameFields : List (String × Value) → List (String × Value) → Prop
  | [], gs => gs = []
  | (k, v) :: fs, gs => ∃ w rest, gs = (k, w) :: rest ∧ Same v w ∧ SameFields fs rest

end

mutual

theorem same_self : ∀ v : Value, v.Same v
  | null | bool _ | number _ | text _ => rfl
  | list vs => ⟨vs, rfl, sameItems_self vs⟩
  | object fs => ⟨fs, fs, rfl, .refl fs, sameFields_self fs⟩

theorem sameItems_self : ∀ vs : List Value, SameItems vs vs
  | [] => rfl
  | v :: vs => ⟨v, vs, rfl, same_self v, sameItems_self vs⟩

theorem sameFields_self : ∀ fs : List (String × Value), SameFields fs fs
  | [] => rfl
  | (_, v) :: fs => ⟨v, fs, rfl, same_self v, sameFields_self fs⟩

end

theorem keys_eq_of_sameFields {fs gs : Fields} (h : SameFields fs gs) :
    Keyed.keys fs = Keyed.keys gs := by
  induction fs generalizing gs with
  | nil => rw [show gs = [] from h]
  | cons e fs ih =>
      obtain ⟨k, v⟩ := e
      obtain ⟨w, rest, rfl, -, hrest⟩ := h
      exact congrArg (k :: ·) (ih hrest)

/-- Where both are in the order of their keys, fields are the same in their places. -/
theorem eq_of_perm_of_sameFields {fs gs ordered : Fields} (hfs : Keyed.Ascending fs)
    (hgs : Keyed.Ascending gs) (hperm : ordered.Perm gs) (h : SameFields fs ordered) :
    ordered = gs := by
  have hordered : Keyed.Ascending ordered := by
    refine List.pairwise_map.1 (?_ : (Keyed.keys ordered).Pairwise (· < ·))
    rw [← keys_eq_of_sameFields h]
    exact List.pairwise_map.2 hfs
  rw [← Keyed.ofList_of_perm hgs hperm, Keyed.ofList_of_perm hordered (.refl ordered)]

mutual

theorem eq_of_same : ∀ {v w : Value}, v.Sorted → w.Sorted → v.Same w → v = w
  | null, _, _, _, h | bool _, _, _, _, h | number _, _, _, _, h | text _, _, _, _, h =>
      Eq.symm h
  | list _, _, hv, hw, ⟨_, heq, h⟩ => by
      subst heq
      rw [eq_of_sameItems hv hw h]
  | object _, _, hv, hw, ⟨_, _, heq, hperm, h⟩ => by
      subst heq
      cases eq_of_perm_of_sameFields hv.1 hw.1 hperm h
      rw [eq_of_sameFields hv.2 hw.2 h]

theorem eq_of_sameItems : ∀ {vs ws : List Value}, SortedItems vs → SortedItems ws →
    SameItems vs ws → vs = ws
  | [], _, _, _, h => Eq.symm h
  | _ :: _, _, hvs, hws, ⟨_, _, heq, h, hrest⟩ => by
      subst heq
      rw [eq_of_same hvs.1 hws.1 h, eq_of_sameItems hvs.2 hws.2 hrest]

theorem eq_of_sameFields : ∀ {fs gs : List (String × Value)}, SortedFields fs →
    SortedFields gs → SameFields fs gs → fs = gs
  | [], _, _, _, h => Eq.symm h
  | (_, _) :: _, _, hfs, hgs, ⟨_, _, heq, h, hrest⟩ => by
      subst heq
      rw [eq_of_same hfs.1 hgs.1 h, eq_of_sameFields hfs.2 hgs.2 hrest]

end

/-- A value as it is held: objects in the order of their keys, and numbers that text can hold. -/
structure Proper (v : Value) : Prop where
  sorted : v.Sorted
  fits : (ofValue v).Strict Number.Fits

section Proper

variable {v w : Value}

theorem Proper.same_iff (hv : v.Proper) (hw : w.Proper) : v.Same w ↔ v = w := by
  refine ⟨eq_of_same hv.sorted hw.sorted, ?_⟩
  rintro rfl
  exact same_self v

theorem Proper.compact_eq_iff (hv : v.Proper) (hw : w.Proper) :
    v.compact = w.compact ↔ v.Same w := by
  rw [hv.same_iff hw]
  exact ⟨compact_inj hv.fits hw.fits, congrArg compact⟩

theorem Proper.of_get? {key : String} (hv : v.Proper) (h : v.get? key = some w) :
    w.Proper := by
  cases v with
  | object fields =>
      obtain ⟨hascending, hsorted⟩ := hv.sorted
      have hfits := hv.fits
      rw [ofValue, Document.record_ofFields, Document.strict_ofPairs_iff,
        List.forall_mem_map] at hfits
      have hmem : (key, w) ∈ fields := (Keyed.get?_eq_some_iff hascending.nodup).1 h
      exact ⟨sortedFields_iff.1 hsorted _ hmem, hfits _ hmem⟩
  | _ => cases h

theorem proper_of_canonical {n : Nat} (h : Document.Canonical n v) : v.Proper :=
  ⟨h.sorted, h.fits⟩

/-- What is read from JSON text is held so. -/
theorem proper_of_read? {input : String} {d : Document} (h : read? input = some d)
    (hv : d.toValue? = some v) : v.Proper := by
  obtain ⟨hstrict, hdepth⟩ := strict_of_read? h
  exact proper_of_canonical (Document.canonical_of_toValue? hstrict hdepth hv)

end Proper

end Value

end LossPrevention.Json
