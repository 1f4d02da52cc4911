import LossPrevention.Proofs.Document.Strict
import LossPrevention.Proofs.Json.Numbers
import LossPrevention.Proofs.Json.Texts

/-!
JSON text from values and back. A value reads back from its compact text if its numbers do and it
is not too deep. What is read of any text is a strict document of at most that depth.
-/

namespace LossPrevention.Json

open Document (ofValue ofItems ofFields Strict StrictItems StrictFields)

def Number.ReadsBack (n : Number) : Prop := Reader.number? n.chars = some (n, [])

instance (n : Number) : Decidable n.ReadsBack :=
  inferInstanceAs (Decidable (Reader.number? n.chars = some (n, [])))

theorem Number.readsBack_int {n : Int} (h : (Number.int n).Fits) : (Number.int n).ReadsBack :=
  Reader.number?_intChars h

namespace Reader

/-! ### The first character -/

theorem skipBlank_cons {c : Char} (h : isBlank c = false) (cs : List Char) :
    skipBlank (c :: cs) = c :: cs := by
  rw [skipBlank, List.dropWhile_cons, if_neg (by rw [h]; exact Bool.false_ne_true)]

theorem exists_first_of_number? {cs rest : List Char} {n : Number}
    (h : number? cs = some (n, rest)) :
    ∃ c cs', cs = c :: cs' ∧ (c = '-' ∨ c.isDigit = true) := by
  obtain ⟨⟨hdigits, -⟩, -⟩ := number?_eq_some_iff.1 h
  cases cs with
  | nil => exact absurd rfl hdigits
  | cons c cs =>
      refine ⟨c, cs, rfl, ?_⟩
      by_cases hminus : c = '-'
      · exact .inl hminus
      · rw [sign_of_ne hminus] at hdigits
        by_cases hdigit : c.isDigit = true
        · exact .inr hdigit
        · rw [List.takeWhile_cons, if_neg hdigit] at hdigits
          exact absurd rfl hdigits

/-- What begins a number begins nothing else. -/
theorem not_special_of_number {c : Char} (h : c = '-' ∨ c.isDigit = true) :
    isBlank c = false ∧ c ≠ ']' ∧ c ≠ '}' ∧ c ≠ 'n' ∧ c ≠ 't' ∧ c ≠ 'f' ∧ c ≠ '"' ∧ c ≠ '[' ∧
      c ≠ '{' := by
  have hne {d : Char} (hd : d.isDigit = false) (hminus : d ≠ '-') : c ≠ d := by
    rintro rfl
    rcases h with rfl | h
    · exact hminus rfl
    · rw [hd] at h
      cases h
  refine ⟨?_, hne rfl (by decide), hne rfl (by decide), hne rfl (by decide), hne rfl (by decide),
    hne rfl (by decide), hne rfl (by decide), hne rfl (by decide), hne rfl (by decide)⟩
  simp [isBlank, hne]

theorem value?_of_number {c : Char} {cs rest : List Char} {n : Number}
    (h : number? (c :: cs) = some (n, rest)) (hfirst : c = '-' ∨ c.isDigit = true)
    (fuel depth : Nat) :
    value? (fuel + 1) depth (c :: cs) = some (.number n, rest) := by
  obtain ⟨hblank, -, -, hn, ht, hf, hquote, hlist, hobject⟩ := not_special_of_number hfirst
  rw [value?, skipBlank_cons hblank]
  split
  · rename_i heq; exact absurd (List.cons.inj heq).1 hn
  · rename_i heq; exact absurd (List.cons.inj heq).1 ht
  · rename_i heq; exact absurd (List.cons.inj heq).1 hf
  · rename_i heq; exact absurd (List.cons.inj heq).1 hquote
  · rename_i heq; exact absurd (List.cons.inj heq).1 hlist
  · rename_i heq; exact absurd (List.cons.inj heq).1 hobject
  · rw [h]
    rfl

/-- A value begins with a character that is neither blank nor the end of a list. -/
theorem exists_first_of_chars {v : Value} (h : (ofValue v).Strict Number.ReadsBack) :
    ∃ c cs, v.chars = c :: cs ∧ isBlank c = false ∧ c ≠ ']' := by
  cases v with
  | null => exact ⟨_, _, rfl, rfl, by decide⟩
  | bool b => cases b <;> exact ⟨_, _, rfl, rfl, by decide⟩
  | number n =>
      obtain ⟨c, cs, hcs, hfirst⟩ := exists_first_of_number? h
      obtain ⟨hblank, hlist, -⟩ := not_special_of_number hfirst
      exact ⟨c, cs, hcs, hblank, hlist⟩
  | text s => exact ⟨_, _, rfl, rfl, by decide⟩
  | list items => cases items <;> exact ⟨_, _, rfl, rfl, by decide⟩
  | object fields => cases fields <;> exact ⟨_, _, rfl, rfl, by decide⟩

theorem length_chars_pos {v : Value} (h : (ofValue v).Strict Number.ReadsBack) :
    0 < v.chars.length := by
  obtain ⟨c, cs, hcs, -⟩ := exists_first_of_chars h
  rw [hcs]
  exact Nat.succ_pos _

/-! ### One level -/

section Level

variable {fuel depth : Nat} {cs rest : List Char}

theorem value?_null : value? (fuel + 1) depth (Value.null.chars ++ rest) = some (.null, rest) := rfl

theorem value?_bool (b : Bool) :
    value? (fuel + 1) depth ((Value.bool b).chars ++ rest) = some (.bool b, rest) := by
  cases b <;> rfl

theorem value?_text (s : String) :
    value? (fuel + 1) depth (textChars s ++ rest) = some (.text s, rest) := by
  have hread : text? (s.toList.flatMap escaped ++ ['"'] ++ rest) = some (s, rest) := by
    rw [List.append_assoc]
    exact text?_append s rest
  rw [textChars, List.append_assoc, List.cons_append, value?, skipBlank_cons (by decide)]
  simp only [List.append_assoc] at hread
  simp only [hread, bind, Option.bind]

theorem value?_list {c : Char} {ds : List Document} (hblank : isBlank c = false) (hc : c ≠ ']')
    (h : items? fuel depth (c :: cs) = some (ds, rest)) :
    value? (fuel + 1) (depth + 1) ('[' :: c :: cs) = some (.list ds, rest) := by
  rw [value?, skipBlank_cons (by decide)]
  simp only [Nat.add_one_ne_zero, if_false, skipBlank_cons hblank]
  split
  · rename_i heq
    exact absurd (List.cons.inj heq).1 hc
  · rw [Nat.add_sub_cancel, h]
    rfl

theorem value?_object {fs : List (Document × Document)}
    (h : fields? fuel depth ('"' :: cs) = some (fs, rest)) :
    value? (fuel + 1) (depth + 1) ('{' :: '"' :: cs) = some (.record fs, rest) := by
  have hopen : value? (fuel + 1) (depth + 1) ('{' :: '"' :: cs) =
      (fields? fuel depth ('"' :: cs)).bind fun p => some (.record p.1, p.2) := rfl
  rw [hopen, h]
  rfl

variable {d : Document} {after : List Char}

theorem items?_last (h : value? fuel depth cs = some (d, ']' :: rest)) :
    items? (fuel + 1) depth cs = some ([d], rest) := by
  rw [items?, h]
  rfl

theorem items?_more {ds : List Document} (h : value? fuel depth cs = some (d, ',' :: after))
    (hafter : items? fuel depth after = some (ds, rest)) :
    items? (fuel + 1) depth cs = some (d :: ds, rest) := by
  rw [items?, h]
  simp only [bind, Option.bind, skipBlank_cons (show isBlank ',' = false by decide), hafter]

theorem fields?_last {key : String} (h : value? fuel depth cs = some (d, '}' :: rest)) :
    fields? (fuel + 1) depth (textChars key ++ ':' :: cs) = some ([(.text key, d)], rest) := by
  rw [textChars, List.cons_append, List.cons_append, List.append_assoc, List.singleton_append,
    fields?, skipBlank_cons (by decide)]
  have hcolon : skipBlank (':' :: cs) = ':' :: cs := skipBlank_cons (by decide) cs
  have hclose : skipBlank ('}' :: rest) = '}' :: rest := skipBlank_cons (by decide) rest
  simp only [text?_append, hcolon, h, hclose, bind, Option.bind]

theorem fields?_more {key : String} {fs : List (Document × Document)}
    (h : value? fuel depth cs = some (d, ',' :: after))
    (hafter : fields? fuel depth after = some (fs, rest)) :
    fields? (fuel + 1) depth (textChars key ++ ':' :: cs) = some ((.text key, d) :: fs, rest) := by
  rw [textChars, List.cons_append, List.cons_append, List.append_assoc, List.singleton_append,
    fields?, skipBlank_cons (by decide)]
  have hcolon : skipBlank (':' :: cs) = ':' :: cs := skipBlank_cons (by decide) cs
  have hcomma : skipBlank (',' :: after) = ',' :: after := skipBlank_cons (by decide) after
  simp only [text?_append, hcolon, h, hcomma, hafter, bind, Option.bind]

end Level

/-! ### All levels -/

theorem ends_itemChars (xs : List Value) (rest : List Char) :
    Ends (Value.itemChars xs ++ rest) := by
  cases xs <;> rintro c ⟨⟩ <;> decide

theorem ends_fieldChars (fs : Fields) (rest : List Char) : Ends (Value.fieldChars fs ++ rest) := by
  rcases fs with _ | ⟨⟨k, v⟩, fs⟩ <;> rintro c ⟨⟩ <;> decide

mutual

theorem value?_chars : ∀ (v : Value) (fuel depth : Nat) (rest : List Char),
    (ofValue v).Strict Number.ReadsBack → (ofValue v).depth ≤ depth → v.chars.length ≤ fuel →
    Ends rest → value? fuel depth (v.chars ++ rest) = some (ofValue v, rest)
  | .null, fuel + 1, _, _, _, _, _, _ => value?_null
  | .bool b, fuel + 1, _, _, _, _, _, _ => value?_bool b
  | .text s, fuel + 1, _, _, _, _, _, _ => value?_text s
  | .number n, fuel + 1, depth, rest, h, _, _, hrest => by
      obtain ⟨c, cs, hcs, hfirst⟩ := exists_first_of_number? h
      have hread := number?_append h hrest
      rw [Value.chars]
      rw [hcs] at hread ⊢
      exact value?_of_number hread hfirst fuel depth
  | .list [], fuel + 1, depth + 1, _, _, _, _, _ => rfl
  | .list (x :: xs), fuel + 1, depth + 1, rest, h, hdepth, hfuel, _ => by
      have hitems := items?_chars (x :: xs) (List.cons_ne_nil x xs) fuel depth rest h
        (Nat.le_of_succ_le_succ hdepth) (by simpa [Value.chars, Value.itemChars] using hfuel)
      obtain ⟨c, cs, hcs, hblank, hc⟩ := exists_first_of_chars h.1
      rw [Value.chars]
      rw [Value.itemChars, List.tail_cons, hcs] at hitems
      rw [hcs]
      exact value?_list hblank hc hitems
  | .object [], fuel + 1, depth + 1, _, _, _, _, _ => rfl
  | .object ((k, v) :: fs), fuel + 1, depth + 1, rest, h, hdepth, hfuel, _ => by
      have hfields := fields?_chars ((k, v) :: fs) (List.cons_ne_nil _ fs) fuel depth rest h
        (Nat.le_of_succ_le_succ hdepth) (by simpa [Value.chars, Value.fieldChars] using hfuel)
      rw [Value.chars]
      exact value?_object hfields
  | .list _, _ + 1, 0, _, _, hdepth, _, _ => absurd hdepth (Nat.not_succ_le_zero _)
  | .object _, _ + 1, 0, _, _, hdepth, _, _ => absurd hdepth (Nat.not_succ_le_zero _)
  | v, 0, _, _, h, _, hfuel, _ => by
      obtain ⟨c, cs, hcs, -⟩ := exists_first_of_chars h
      rw [hcs] at hfuel
      cases hfuel

theorem items?_chars : ∀ (xs : List Value), xs ≠ [] → ∀ (fuel depth : Nat) (rest : List Char),
    StrictItems Number.ReadsBack (ofItems xs) → Document.itemsDepth (ofItems xs) ≤ depth →
    (Value.itemChars xs).length ≤ fuel + 1 →
    items? fuel depth ((Value.itemChars xs).tail ++ rest) = some (ofItems xs, rest)
  | [], hne, _, _, _, _, _, _ => absurd rfl hne
  | x :: xs, _, 0, _, _, h, _, hfuel => by
      have hpos := length_chars_pos h.1
      rw [Value.itemChars, List.length_cons, List.length_append] at hfuel
      omega
  | [x], _, fuel + 1, depth, rest, h, hdepth, hfuel => by
      obtain ⟨hx, -⟩ := Nat.max_le.1 hdepth
      simp only [Value.itemChars, List.length_cons, List.length_append, List.length_nil] at hfuel
      have hread :=
        value?_chars x fuel depth (']' :: rest) h.1 hx (by omega) (ends_itemChars [] rest)
      rw [Value.itemChars, Value.itemChars, List.tail_cons, List.append_assoc]
      exact items?_last hread
  | x :: y :: ys, _, fuel + 1, depth, rest, h, hdepth, hfuel => by
      obtain ⟨hx, hys⟩ := Nat.max_le.1 hdepth
      have hpos := length_chars_pos h.1
      have htail : 0 < (Value.itemChars (y :: ys)).length := Nat.succ_pos _
      rw [Value.itemChars, List.length_cons, List.length_append] at hfuel
      have hread := value?_chars x fuel depth (Value.itemChars (y :: ys) ++ rest) h.1 hx (by omega)
        (ends_itemChars (y :: ys) rest)
      have hmore :=
        items?_chars (y :: ys) (List.cons_ne_nil y ys) fuel depth rest h.2 hys (by omega)
      rw [Value.itemChars, List.tail_cons, List.append_assoc]
      exact items?_more hread hmore

theorem fields?_chars : ∀ (fs : Fields), fs ≠ [] → ∀ (fuel depth : Nat) (rest : List Char),
    StrictFields Number.ReadsBack (ofFields fs) → Document.fieldsDepth (ofFields fs) ≤ depth →
    (Value.fieldChars fs).length ≤ fuel + 1 →
    fields? fuel depth ((Value.fieldChars fs).tail ++ rest) = some (ofFields fs, rest)
  | [], hne, _, _, _, _, _, _ => absurd rfl hne
  | (k, v) :: fs, _, 0, _, _, h, _, hfuel => by
      have hpos := length_chars_pos h.1
      simp only [Value.fieldChars, List.length_cons, List.length_append] at hfuel
      omega
  | [(k, v)], _, fuel + 1, depth, rest, h, hdepth, hfuel => by
      obtain ⟨hv, -⟩ := Nat.max_le.1 hdepth
      simp only [Value.fieldChars, List.length_cons, List.length_append, List.length_nil] at hfuel
      have hread := value?_chars v fuel depth ('}' :: rest) h.1 (Nat.max_le.1 hv).2 (by omega)
        (ends_fieldChars [] rest)
      rw [Value.fieldChars, Value.fieldChars, List.tail_cons, List.append_assoc, List.cons_append,
        List.append_assoc]
      exact fields?_last hread
  | (k, v) :: (l, w) :: fs, _, fuel + 1, depth, rest, h, hdepth, hfuel => by
      obtain ⟨hv, hfs⟩ := Nat.max_le.1 hdepth
      have hpos := length_chars_pos h.1
      rw [Value.fieldChars, List.length_cons, List.length_append, List.length_cons,
        List.length_append] at hfuel
      have hread := value?_chars v fuel depth (Value.fieldChars ((l, w) :: fs) ++ rest) h.1
        (Nat.max_le.1 hv).2 (by omega) (ends_fieldChars ((l, w) :: fs) rest)
      have hmore := fields?_chars ((l, w) :: fs) (List.cons_ne_nil _ fs) fuel depth rest h.2 hfs
        (by omega)
      have hlead : Value.fieldChars ((l, w) :: fs) ++ rest =
          ',' :: ((Value.fieldChars ((l, w) :: fs)).tail ++ rest) := rfl
      rw [hlead] at hread
      rw [Value.fieldChars, List.tail_cons, List.append_assoc, List.cons_append,
        List.append_assoc, hlead]
      exact fields?_more hread hmore

end

/-! ### What is read -/

section Read

variable {cs rest : List Char} {d : Document}

theorem word?_eq_some {word : List Char} {v : Document} (h : word? word v cs = some (d, rest)) :
    d = v := by
  rw [word?] at h
  split at h
  · cases h
    rfl
  · cases h

/-- What is read at one depth with some fuel. -/
def Reads (fuel depth : Nat) : Prop :=
  (∀ {cs rest d}, value? fuel depth cs = some (d, rest) →
    d.Strict Number.Fits ∧ d.depth ≤ depth) ∧
  (∀ {cs rest ds}, items? fuel depth cs = some (ds, rest) →
    StrictItems Number.Fits ds ∧ Document.itemsDepth ds ≤ depth) ∧
  ∀ {cs rest fs}, fields? fuel depth cs = some (fs, rest) →
    StrictFields Number.Fits fs ∧ Document.fieldsDepth fs ≤ depth

theorem reads_value? {fuel : Nat} (ih : ∀ depth, Reads fuel depth) {depth : Nat}
    (h : value? (fuel + 1) depth cs = some (d, rest)) :
    d.Strict Number.Fits ∧ d.depth ≤ depth := by
  rw [value?] at h
  split at h
  · rw [word?_eq_some h]
    exact ⟨trivial, Nat.zero_le _⟩
  · rw [word?_eq_some h]
    exact ⟨trivial, Nat.zero_le _⟩
  · rw [word?_eq_some h]
    exact ⟨trivial, Nat.zero_le _⟩
  · obtain ⟨⟨s, after⟩, -, h⟩ := Option.bind_eq_some_iff.1 h
    cases h
    exact ⟨trivial, Nat.zero_le _⟩
  · split at h
    · cases h
    · rename_i hopen
      split at h
      · cases h
        exact ⟨trivial, Nat.pos_iff_ne_zero.2 hopen⟩
      · obtain ⟨⟨ds, after⟩, hds, h⟩ := Option.bind_eq_some_iff.1 h
        cases h
        obtain ⟨hstrict, hdepth⟩ := (ih (depth - 1)).2.1 hds
        exact ⟨hstrict, by simp only [Document.depth]; omega⟩
  · split at h
    · cases h
    · rename_i hopen
      split at h
      · cases h
        exact ⟨trivial, Nat.pos_iff_ne_zero.2 hopen⟩
      · obtain ⟨⟨fs, after⟩, hfs, h⟩ := Option.bind_eq_some_iff.1 h
        cases h
        obtain ⟨hstrict, hdepth⟩ := (ih (depth - 1)).2.2 hfs
        exact ⟨hstrict, by simp only [Document.depth]; omega⟩
  · obtain ⟨⟨n, after⟩, hn, h⟩ := Option.bind_eq_some_iff.1 h
    cases h
    exact ⟨fits_of_number? hn, Nat.zero_le _⟩

theorem reads_items? {fuel depth : Nat} (ih : Reads fuel depth) {ds : List Document}
    (h : items? (fuel + 1) depth cs = some (ds, rest)) :
    StrictItems Number.Fits ds ∧ Document.itemsDepth ds ≤ depth := by
  rw [items?] at h
  obtain ⟨⟨d, after⟩, hd, h⟩ := Option.bind_eq_some_iff.1 h
  obtain ⟨hstrict, hdepth⟩ := ih.1 hd
  dsimp only at h
  split at h
  · cases h
    exact ⟨⟨hstrict, trivial⟩, Nat.max_le.2 ⟨hdepth, Nat.zero_le _⟩⟩
  · obtain ⟨⟨ds, after⟩, hds, h⟩ := Option.bind_eq_some_iff.1 h
    cases h
    obtain ⟨hstricts, hdepths⟩ := ih.2.1 hds
    exact ⟨⟨hstrict, hstricts⟩, Nat.max_le.2 ⟨hdepth, hdepths⟩⟩
  · cases h

theorem reads_fields? {fuel depth : Nat} (ih : Reads fuel depth)
    {fs : List (Document × Document)} (h : fields? (fuel + 1) depth cs = some (fs, rest)) :
    StrictFields Number.Fits fs ∧ Document.fieldsDepth fs ≤ depth := by
  have hkey {key : String} {d : Document} (h : d.depth ≤ depth) :
      max (Document.text key).depth d.depth ≤ depth := Nat.max_le.2 ⟨Nat.zero_le _, h⟩
  rw [fields?] at h
  split at h
  · obtain ⟨⟨key, after⟩, -, h⟩ := Option.bind_eq_some_iff.1 h
    dsimp only at h
    split at h
    · obtain ⟨⟨d, after⟩, hd, h⟩ := Option.bind_eq_some_iff.1 h
      obtain ⟨hstrict, hdepth⟩ := ih.1 hd
      dsimp only at h
      split at h
      · cases h
        exact ⟨⟨hstrict, trivial⟩, Nat.max_le.2 ⟨hkey hdepth, Nat.zero_le _⟩⟩
      · obtain ⟨⟨fs, after⟩, hfs, h⟩ := Option.bind_eq_some_iff.1 h
        cases h
        obtain ⟨hstricts, hdepths⟩ := ih.2.2 hfs
        exact ⟨⟨hstrict, hstricts⟩, Nat.max_le.2 ⟨hkey hdepth, hdepths⟩⟩
      · cases h
    · cases h
  · cases h

theorem reads (fuel depth : Nat) : Reads fuel depth := by
  induction fuel generalizing depth with
  | zero => exact ⟨nofun, nofun, nofun⟩
  | succ fuel ih => exact ⟨reads_value? ih, reads_items? (ih depth), reads_fields? (ih depth)⟩

end Read

end Reader

theorem strict_of_read? {text : String} {d : Document} (h : read? text = some d) :
    d.Strict Number.Fits ∧ d.depth ≤ Reader.maxDepth := by
  obtain ⟨⟨d', rest⟩, hd, h⟩ := Option.bind_eq_some_iff.1 h
  dsimp only at h
  split at h
  · cases h
    exact (Reader.reads _ _).1 hd
  · cases h

theorem read?_compact {v : Value} (h : (ofValue v).Strict Number.ReadsBack)
    (hdepth : (ofValue v).depth ≤ Reader.maxDepth) : read? v.compact = some (ofValue v) := by
  have hread := Reader.value?_chars v (2 * v.chars.length + 2) Reader.maxDepth [] h hdepth
    (by omega) nofun
  rw [List.append_nil] at hread
  rw [read?, Value.compact, String.toList_ofList, Reader.document?, hread]
  rfl

/-! ### Floats -/

mutual

/-- The binary numbers in a value. -/
def Value.floats : Value → List Float
  | .number (.float x) => [x]
  | .list items => floatsItems items
  | .object fields => floatsFields fields
  | _ => []

def Value.floatsItems : List Value → List Float
  | [] => []
  | v :: vs => floats v ++ floatsItems vs

def Value.floatsFields : List (String × Value) → List Float
  | [] => []
  | (_, v) :: fs => floats v ++ floatsFields fs

end

mutual

/-- Integers always read back, so that it is up to the binary numbers. -/
theorem readsBack_of_floats : ∀ {v : Value}, (ofValue v).Strict Number.Fits →
    (∀ x ∈ v.floats, (Number.float x).ReadsBack) → (ofValue v).Strict Number.ReadsBack
  | .null, _, _ | .bool _, _, _ | .text _, _, _ => trivial
  | .number (.int _), hfits, _ => Number.readsBack_int hfits
  | .number (.float _), _, h => h _ List.mem_cons_self
  | .list _, hfits, h => readsBackItems_of_floats hfits h
  | .object _, hfits, h => readsBackFields_of_floats hfits h

theorem readsBackItems_of_floats : ∀ {vs : List Value},
    StrictItems Number.Fits (ofItems vs) →
    (∀ x ∈ Value.floatsItems vs, (Number.float x).ReadsBack) →
    StrictItems Number.ReadsBack (ofItems vs)
  | [], _, _ => trivial
  | _ :: _, hfits, h =>
      ⟨readsBack_of_floats hfits.1 fun x hx => h x (List.mem_append_left _ hx),
        readsBackItems_of_floats hfits.2 fun x hx => h x (List.mem_append_right _ hx)⟩

theorem readsBackFields_of_floats : ∀ {fs : List (String × Value)},
    StrictFields Number.Fits (ofFields fs) →
    (∀ x ∈ Value.floatsFields fs, (Number.float x).ReadsBack) →
    StrictFields Number.ReadsBack (ofFields fs)
  | [], _, _ => trivial
  | _ :: _, hfits, h =>
      ⟨readsBack_of_floats hfits.1 fun x hx => h x (List.mem_append_left _ hx),
        readsBackFields_of_floats hfits.2 fun x hx => h x (List.mem_append_right _ hx)⟩

end

end LossPrevention.Json
