/-!
Association lists with `String` keys in ascending order. `insert` keeps the order and holds one
entry for a key, so the list that a sequence of insertions ends in does not depend on their order
as long as the keys differ. The main statements say what `get?` sees after `insert` and `erase`,
and that `ofList` puts pairs with different keys into the order of their keys.
-/

namespace LossPrevention.Keyed

variable {α β : Type}

def get? (key : String) : List (String × α) → Option α
  | [] => none
  | (k, v) :: rest => if k = key then some v else get? key rest

def contains (key : String) (entries : List (String × α)) : Bool :=
  (get? key entries).isSome

/-- Puts the entry before the first greater key, or in the place of its own key. -/
def insert (key : String) (value : α) : List (String × α) → List (String × α)
  | [] => [(key, value)]
  | (k, v) :: rest =>
      if k = key then (key, value) :: rest
      else if key < k then (key, value) :: (k, v) :: rest
      else (k, v) :: insert key value rest

def erase (key : String) (entries : List (String × α)) : List (String × α) :=
  entries.filter (fun e => e.1 ≠ key)

/-- Applies `f` to the value of `key`, starting from `start` where there is none. -/
def update (key : String) (start : α) (f : α → α) (entries : List (String × α)) :
    List (String × α) :=
  insert key (f ((get? key entries).getD start)) entries

/-- Inserts the pairs from left to right, so the last pair of a key is the one kept. -/
def ofList (pairs : List (String × α)) : List (String × α) :=
  pairs.foldl (fun acc e => insert e.1 e.2 acc) []

def keys (entries : List (String × α)) : List String := entries.map Prod.fst

@[simp] theorem get?_nil (key : String) : get? key ([] : List (String × α)) = none := rfl

@[simp] theorem get?_insert_self (key : String) (value : α) (entries : List (String × α)) :
    get? key (insert key value entries) = some value := by
  induction entries with
  | nil => simp [insert, get?]
  | cons e rest ih =>
    obtain ⟨k, v⟩ := e
    by_cases h : k = key
    · simp [insert, get?, h]
    · by_cases hl : key < k <;> simp [insert, get?, h, hl, ih]

theorem get?_insert_of_ne {key other : String} (h : other ≠ key) (value : α)
    (entries : List (String × α)) :
    get? other (insert key value entries) = get? other entries := by
  induction entries with
  | nil => simp [insert, get?, Ne.symm h]
  | cons e rest ih =>
    obtain ⟨k, v⟩ := e
    by_cases hk : k = key
    · subst hk; simp [insert, get?, Ne.symm h]
    · by_cases hl : key < k
      · simp [insert, get?, hk, hl, Ne.symm h]
      · simp [insert, get?, hk, hl, ih]

theorem get?_erase_self (key : String) (entries : List (String × α)) :
    get? key (erase key entries) = none := by
  induction entries with
  | nil => rfl
  | cons e rest ih =>
    obtain ⟨k, v⟩ := e
    by_cases h : k = key
    · simpa [erase, h] using ih
    · simpa [erase, get?, h] using ih

theorem get?_erase_of_ne {key other : String} (h : other ≠ key) (entries : List (String × α)) :
    get? other (erase key entries) = get? other entries := by
  induction entries with
  | nil => rfl
  | cons e rest ih =>
    obtain ⟨k, v⟩ := e
    by_cases hk : k = key
    · subst hk
      simpa [erase, get?, Ne.symm h] using ih
    · by_cases ho : k = other
      · subst ho; simp [erase, get?, hk]
      · simpa [erase, get?, hk, ho] using ih

theorem get?_filter_keys (keep : String → Bool) (key : String) (entries : List (String × α)) :
    get? key (entries.filter (fun e => keep e.1)) =
      if keep key then get? key entries else none := by
  induction entries with
  | nil => simp
  | cons e rest ih =>
    obtain ⟨k, v⟩ := e
    by_cases hk : k = key
    · subst hk
      by_cases hp : keep k <;> simp [get?, hp, ih]
    · by_cases hp : keep k <;> simp [get?, hp, hk, ih]

theorem get?_append (key : String) (front back : List (String × α)) :
    get? key (front ++ back) = (get? key front).or (get? key back) := by
  induction front with
  | nil => rfl
  | cons e rest ih =>
    obtain ⟨k, v⟩ := e
    by_cases h : k = key
    · simp [get?, h]
    · simp [get?, h, ih]

theorem get?_eq_none_iff {key : String} {entries : List (String × α)} :
    get? key entries = none ↔ key ∉ keys entries := by
  induction entries with
  | nil => simp [keys]
  | cons e rest ih =>
    obtain ⟨k, v⟩ := e
    by_cases h : k = key
    · simp [get?, keys, h]
    · simp [get?, keys, h, Ne.symm h, ih]

theorem mem_keys_insert {key other : String} {value : α} {entries : List (String × α)} :
    other ∈ keys (insert key value entries) ↔ other = key ∨ other ∈ keys entries := by
  rw [← Decidable.not_iff_not, not_or, ← get?_eq_none_iff, ← get?_eq_none_iff]
  by_cases h : other = key
  · subst h
    simp
  · simp [get?_insert_of_ne h, h]

theorem mem_keys_ofList {key : String} {pairs : List (String × α)} :
    key ∈ keys (ofList pairs) ↔ key ∈ keys pairs := by
  have hfold : ∀ entries : List (String × α),
      key ∈ keys (pairs.foldl (fun acc e => insert e.1 e.2 acc) entries) ↔
        key ∈ keys entries ∨ key ∈ keys pairs := by
    induction pairs with
    | nil => simp [keys]
    | cons e rest ih =>
      intro entries
      rw [List.foldl_cons, ih, mem_keys_insert, keys, keys, keys, List.map_cons, List.mem_cons,
        or_comm (a := key = e.1), or_assoc]
  exact (hfold []).trans (or_iff_right List.not_mem_nil)

theorem insert_ne_nil (key : String) (value : α) (entries : List (String × α)) :
    insert key value entries ≠ [] := by
  cases entries with
  | nil => exact List.cons_ne_nil _ _
  | cons e rest =>
    rw [insert]
    split
    · exact List.cons_ne_nil _ _
    split <;> exact List.cons_ne_nil _ _

theorem ofList_eq_nil_iff {pairs : List (String × α)} : ofList pairs = [] ↔ pairs = [] := by
  constructor
  · intro h
    rcases List.eq_nil_or_concat pairs with hnil | ⟨init, last, rfl⟩
    · exact hnil
    · rw [ofList, List.concat_eq_append, List.foldl_append] at h
      exact absurd h (insert_ne_nil _ _ _)
  · rintro rfl
    rfl

/-! ### The order of the keys -/

def Ascending (entries : List (String × α)) : Prop := entries.Pairwise (fun a b => a.1 < b.1)

theorem insert_perm {key : String} {entries : List (String × α)} (h : key ∉ keys entries)
    (value : α) : (insert key value entries).Perm ((key, value) :: entries) := by
  induction entries with
  | nil => exact .refl _
  | cons e rest ih =>
    obtain ⟨k, v⟩ := e
    simp only [keys, List.map_cons, List.mem_cons, not_or] at h
    rw [insert, if_neg (Ne.symm h.1)]
    split
    · exact .refl _
    · exact ((ih h.2).cons _).trans (.swap _ _ _)

theorem mem_insert {key : String} {value : α} {entries : List (String × α)} {e : String × α}
    (h : e ∈ insert key value entries) : e = (key, value) ∨ e ∈ entries := by
  induction entries with
  | nil => simpa [insert] using h
  | cons first rest ih =>
    obtain ⟨k, v⟩ := first
    rw [insert] at h
    split at h
    · exact (List.mem_cons.1 h).imp_right (List.mem_cons_of_mem _)
    split at h
    · exact List.mem_cons.1 h
    · rcases List.mem_cons.1 h with rfl | h
      · exact .inr List.mem_cons_self
      · exact (ih h).imp_right (List.mem_cons_of_mem _)

theorem ascending_insert {entries : List (String × α)} (h : Ascending entries) (key : String)
    (value : α) : Ascending (insert key value entries) := by
  induction entries with
  | nil => exact List.pairwise_singleton _ _
  | cons e rest ih =>
    obtain ⟨k, v⟩ := e
    obtain ⟨hfirst, hrest⟩ := List.pairwise_cons.1 h
    rw [insert]
    split
    · rename_i hk
      exact List.pairwise_cons.2 ⟨fun x hx => hk ▸ hfirst x hx, hrest⟩
    split
    · rename_i hlt
      refine List.pairwise_cons.2 ⟨fun x hx => ?_, h⟩
      rcases List.mem_cons.1 hx with rfl | hx
      · exact hlt
      · exact String.lt_trans hlt (hfirst x hx)
    · rename_i hne hlt
      have hgt : k < key := by
        rcases String.le_total k key with hle | hle
        · exact String.not_le.1 (fun hge => hne (String.le_antisymm hle hge))
        · exact absurd (String.not_le.1 (fun hge => hne (String.le_antisymm hge hle))) hlt
      refine List.pairwise_cons.2 ⟨fun x hx => ?_, ih hrest⟩
      rcases mem_insert hx with rfl | hx
      · exact hgt
      · exact hfirst x hx

theorem ascending_ofList (pairs : List (String × α)) : Ascending (ofList pairs) := by
  have h : ∀ entries : List (String × α), Ascending entries →
      Ascending (pairs.foldl (fun acc e => insert e.1 e.2 acc) entries) := by
    induction pairs with
    | nil => exact fun _ h => h
    | cons e rest ih => exact fun entries h => ih _ (ascending_insert h e.1 e.2)
  exact h [] .nil

/-- Where no key is given twice every pair is kept. -/
theorem ofList_perm {pairs : List (String × α)} (h : (keys pairs).Nodup) :
    (ofList pairs).Perm pairs := by
  have hfold : ∀ entries : List (String × α), (keys (entries ++ pairs)).Nodup →
      (pairs.foldl (fun acc e => insert e.1 e.2 acc) entries).Perm (entries ++ pairs) := by
    clear h
    induction pairs with
    | nil => exact fun entries _ => by simp
    | cons e rest ih =>
      intro entries hkeys
      have hperm : (e :: entries ++ rest).Perm (entries ++ e :: rest) :=
        List.perm_middle.symm
      have hmoved : (keys (e :: entries ++ rest)).Nodup :=
        (hperm.map Prod.fst).nodup_iff.2 hkeys
      have hnew : e.1 ∉ keys entries := by
        intro hm
        obtain ⟨x, hx, hkey⟩ := List.mem_map.1 hm
        exact (List.nodup_cons.1 hmoved).1
          (List.mem_map.2 ⟨x, List.mem_append_left rest hx, hkey⟩)
      have hinsert := (insert_perm hnew e.2).append_right rest
      exact (ih _ ((hinsert.map Prod.fst).nodup_iff.2 hmoved)).trans (hinsert.trans hperm)
  exact hfold [] h

theorem mem_ofList {pairs : List (String × α)} {e : String × α} (h : e ∈ ofList pairs) :
    e ∈ pairs := by
  have hfold : ∀ entries : List (String × α),
      e ∈ pairs.foldl (fun acc e => insert e.1 e.2 acc) entries → e ∈ entries ∨ e ∈ pairs := by
    clear h
    induction pairs with
    | nil => exact fun _ h => .inl h
    | cons first rest ih =>
      intro entries h
      rcases ih _ h with h | h
      · rcases mem_insert h with rfl | h
        · exact .inr List.mem_cons_self
        · exact .inl h
      · exact .inr (List.mem_cons_of_mem _ h)
  exact (hfold [] h).resolve_left List.not_mem_nil

theorem get?_eq_some_iff {key : String} {value : α} {entries : List (String × α)}
    (h : (keys entries).Nodup) : get? key entries = some value ↔ (key, value) ∈ entries := by
  induction entries with
  | nil => simp
  | cons e rest ih =>
    obtain ⟨k, v⟩ := e
    obtain ⟨hk, hrest⟩ := List.nodup_cons.1 h
    by_cases hkey : k = key
    · subst hkey
      have hnone : (k, value) ∉ rest := fun hm => hk (List.mem_map.2 ⟨_, hm, rfl⟩)
      simp [get?, hnone, eq_comm]
    · simp [get?, hkey, Ne.symm hkey, ih hrest]

theorem filter_key_eq {key : String} {value : α} {entries : List (String × α)}
    (h : (keys entries).Nodup) (hvalue : get? key entries = some value) :
    entries.filter (fun e => e.1 = key) = [(key, value)] := by
  induction entries with
  | nil => cases hvalue
  | cons e rest ih =>
    obtain ⟨k, v⟩ := e
    obtain ⟨hnew, hrest⟩ := List.nodup_cons.1 h
    rw [get?] at hvalue
    split at hvalue
    · rename_i hk
      subst hk
      cases hvalue
      have hnone : rest.filter (fun e => e.1 = k) = [] :=
        List.filter_eq_nil_iff.2 fun e he heq =>
          hnew (List.mem_map.2 ⟨e, he, of_decide_eq_true heq⟩)
      rw [List.filter_cons, if_pos (decide_eq_true rfl), hnone]
    · rename_i hk
      rw [List.filter_cons, if_neg (by simpa using hk)]
      exact ih hrest hvalue

/-- Where no key is given twice the order of the entries does not matter. -/
theorem get?_perm {entries others : List (String × α)} (hperm : entries.Perm others)
    (h : (keys entries).Nodup) (key : String) : get? key entries = get? key others := by
  have hothers : (keys others).Nodup := (hperm.map Prod.fst).nodup_iff.1 h
  cases hvalue : get? key others with
  | none =>
    rw [get?_eq_none_iff] at hvalue ⊢
    exact mt (hperm.map Prod.fst).mem_iff.1 hvalue
  | some v =>
    rw [get?_eq_some_iff hothers] at hvalue
    exact (get?_eq_some_iff h).2 (hperm.mem_iff.2 hvalue)

theorem get?_ofList {pairs : List (String × α)} (h : (keys pairs).Nodup) (key : String) :
    get? key (ofList pairs) = get? key pairs :=
  (get?_perm (ofList_perm h).symm h key).symm

theorem Ascending.nodup {entries : List (String × α)} (h : Ascending entries) :
    (keys entries).Nodup := by
  rw [keys, List.nodup_iff_pairwise_ne, List.pairwise_map]
  refine List.Pairwise.imp (fun {a b} hlt heq => ?_) h
  rw [heq] at hlt
  exact String.lt_irrefl _ hlt

/-- Entries in ascending order come out of any order of them. -/
theorem ofList_of_perm {entries pairs : List (String × α)} (h : Ascending entries)
    (hperm : pairs.Perm entries) : ofList pairs = entries := by
  have hkeys : (keys pairs).Nodup := (hperm.map Prod.fst).nodup_iff.2 h.nodup
  refine List.Perm.eq_of_pairwise ?_ (ascending_ofList pairs) h ((ofList_perm hkeys).trans hperm)
  exact fun a b _ _ hab hba => absurd (String.lt_trans hab hba) (String.lt_irrefl _)

theorem ascending_erase {entries : List (String × α)} (h : Ascending entries) (key : String) :
    Ascending (erase key entries) :=
  h.sublist List.filter_sublist

/-- Entries in ascending order are told by what is seen of them. -/
theorem Ascending.ext {entries others : List (String × α)} (h : Ascending entries)
    (hothers : Ascending others) (hget : ∀ key, get? key entries = get? key others) :
    entries = others := by
  have hdistinct {entries : List (String × α)} (h : Ascending entries) : entries.Nodup := by
    refine List.nodup_iff_pairwise_ne.2 (List.Pairwise.imp (fun {a b} hlt heq => ?_) h)
    rw [heq] at hlt
    exact String.lt_irrefl _ hlt
  have hperm : entries.Perm others := by
    refine (List.perm_ext_iff_of_nodup (hdistinct h) (hdistinct hothers)).2 fun e => ?_
    rw [← get?_eq_some_iff h.nodup, ← get?_eq_some_iff hothers.nodup, hget]
  rw [← ofList_of_perm h (.refl _), ofList_of_perm hothers hperm]

end LossPrevention.Keyed
