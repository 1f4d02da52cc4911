import LossPrevention.Pattern.Compile
import LossPrevention.Proofs.Pattern.Places

/-!
What is read from a text is a pattern that the search can be trusted with: every repetition in it
has room between its bounds.
-/

namespace LossPrevention.Pattern

namespace Reader

/-! ### Parts -/

theorem proper_foldr_seq {parts : List Part} (h : ∀ p ∈ parts, Proper p.pattern) :
    Proper (parts.foldr (fun p q => .seq p.pattern q) .empty) := by
  induction parts with
  | nil => trivial
  | cons p rest ih =>
      exact ⟨h p List.mem_cons_self, ih (fun q hq => h q (List.mem_cons_of_mem _ hq))⟩

theorem proper_foldr_alt {parts : List Part} (h : ∀ p ∈ parts, Proper p.pattern) {last : Pattern}
    (hl : Proper last) : Proper (parts.foldr (fun p q => .alt p.pattern q) last) := by
  induction parts with
  | nil => exact hl
  | cons p rest ih =>
      exact ⟨h p List.mem_cons_self, ih (fun q hq => h q (List.mem_cons_of_mem _ hq))⟩

theorem proper_joinSeq {items : List Item} (h : ∀ p, .part p ∈ items → Proper p.pattern) :
    Proper (joinSeq items).pattern := by
  unfold joinSeq
  split
  · trivial
  · exact h _ List.mem_cons_self
  · trivial
  · apply proper_foldr_seq
    intro p hp
    obtain ⟨i, hi, hpart⟩ := List.mem_filterMap.1 hp
    cases i with
    | part q => cases hpart; exact h _ hi
    | flags => cases hpart

theorem proper_joinAlt {earlier : List Part} (h : ∀ p ∈ earlier, Proper p.pattern) {last : Part}
    (hl : Proper last.pattern) : Proper (joinAlt earlier last).pattern := by
  unfold joinAlt
  split
  · exact hl
  · exact proper_foldr_alt h hl

theorem proper_of_repeated {flags : Flags} {least : Nat} {most : Option Nat} {p q : Part}
    {cs rest : List Char} (h : some (repeated flags p least most cs) = some (q, rest))
    (hp : Proper p.pattern) (hmost : ∀ m, most = some m → least ≤ m) : Proper q.pattern := by
  cases h
  exact ⟨hp, hmost⟩

theorem proper_braces? {flags : Flags} {p q : Part} {cs rest : List Char}
    (h : braces? flags p cs = some (q, rest)) (hp : Proper p.pattern) : Proper q.pattern := by
  unfold braces? at h
  simp only [Option.bind_eq_bind, Option.bind_eq_some_iff] at h
  obtain ⟨counted, -, least, -, h⟩ := h
  split at h
  · exact proper_of_repeated h hp (fun m hm => Nat.le_of_eq (Option.some.inj hm))
  · split at h
    · exact proper_of_repeated h hp nofun
    · simp only [Option.bind_eq_some_iff] at h
      obtain ⟨counted', -, most, -, h⟩ := h
      split at h
      · split at h
        · rename_i hle
          exact proper_of_repeated h hp (fun m hm => Option.some.inj hm ▸ hle)
        · cases h
      · cases h
  · cases h

theorem proper_primitive? {flags : Flags} {p : Pattern} {cs rest : List Char}
    (h : primitive? flags cs = some (p, rest)) : Proper p := by
  have hset {o : Option Text.CharSet} {more : List Char}
      (h : o.map (fun s => (Pattern.set s, more)) = some (p, rest)) : Proper p := by
    obtain ⟨s, -, hs⟩ := Option.map_eq_some_iff.1 h
    cases hs
    trivial
  unfold primitive? at h
  split at h
  · cases h
  · exact hset h
  · cases h
    trivial
  · cases h
    trivial
  · simp only [Option.bind_eq_bind, Option.bind_eq_some_iff] at h
    obtain ⟨sign, -, h⟩ := h
    split at h
    · exact hset h
    · cases h
      trivial
    · cases h
      trivial
  · exact hset h

theorem proper_bracket? {flags : Flags} {p : Part} {cs rest : List Char}
    (h : bracket? flags cs = some (p, rest)) : Proper p.pattern := by
  unfold bracket? at h
  simp only [Option.bind_eq_bind, Option.bind_eq_some_iff] at h
  obtain ⟨c, -, h⟩ := h
  cases h
  trivial

/-! ### Alternatives -/

/-- What has been read of a group so far is in order. -/
structure Ready (earlier : List Part) (items : List Item) : Prop where
  earlier : ∀ p ∈ earlier, Proper p.pattern
  items : ∀ p, .part p ∈ items → Proper p.pattern

namespace Ready

variable {earlier : List Part} {items : List Item}

theorem nil : Ready [] [] := ⟨nofun, nofun⟩

theorem joined (h : Ready earlier items) :
    Proper (joinAlt earlier.reverse (joinSeq items.reverse)).pattern :=
  proper_joinAlt (fun p hp => h.earlier p (List.mem_reverse.1 hp))
    (proper_joinSeq (fun p hp => h.items p (List.mem_reverse.1 hp)))

theorem next (h : Ready earlier items) : Ready (joinSeq items.reverse :: earlier) [] := by
  refine ⟨fun p hp => ?_, nofun⟩
  rcases List.mem_cons.1 hp with rfl | hp
  · exact proper_joinSeq (fun q hq => h.items q (List.mem_reverse.1 hq))
  · exact h.earlier p hp

theorem push (h : Ready earlier items) {p : Part} (hp : Proper p.pattern) :
    Ready earlier (.part p :: items) := by
  refine ⟨h.earlier, fun q hq => ?_⟩
  rcases List.mem_cons.1 hq with hq | hq
  · exact Item.part.inj hq ▸ hp
  · exact h.items q hq

theorem pushFlags (h : Ready earlier items) : Ready earlier (.flags :: items) := by
  refine ⟨h.earlier, fun q hq => ?_⟩
  rcases List.mem_cons.1 hq with hq | hq
  · cases hq
  · exact h.items q hq

theorem pop {i : Item} (h : Ready earlier (i :: items)) : Ready earlier items :=
  ⟨h.earlier, fun q hq => h.items q (List.mem_cons_of_mem _ hq)⟩

theorem replace {p q : Part} (h : Ready earlier (.part p :: items))
    (hq : Proper p.pattern → Proper q.pattern) : Ready earlier (.part q :: items) :=
  h.pop.push (hq (h.items p List.mem_cons_self))

end Ready

/-- If a part is read, it is in order. -/
def Sound (read : Option (Part × List (List Char) × List Char)) : Prop :=
  ∀ r, read = some r → Proper r.1.pattern

theorem sound_none : Sound none := nofun

theorem sound_bind {α : Type} {o : Option α} {f : α → Option (Part × List (List Char) × List Char)}
    (h : ∀ a, o = some a → Sound (f a)) : Sound (o >>= f) := by
  intro r hr
  obtain ⟨a, ha, hfa⟩ := Option.bind_eq_some_iff.1 hr
  exact h a ha r hfa

theorem sound_alternatives? (fuel : Nat) (flags : Flags) (names : List (List Char))
    {earlier : List Part} {items : List Item} (h : Ready earlier items) (cs : List Char) :
    Sound (alternatives? fuel flags names earlier items cs) := by
  induction fuel generalizing flags names earlier items cs with
  | zero => exact sound_none
  | succ fuel ih =>
      have hgroup {keeps : Bool} {inner : Flags} {names : List (List Char)} {cs : List Char}
          {r : Part × List (List Char) × List Char}
          (hr : alternatives? fuel inner names [] [] cs = some r) :
          Ready earlier (.part ⟨.group keeps r.1.pattern, r.1.height + 1⟩ :: items) := by
        have hproper : Proper r.1.pattern := ih _ _ Ready.nil _ r hr
        exact h.push hproper
      rw [alternatives?]
      split
      · rintro r hr
        cases hr
        exact h.joined
      · rintro r hr
        cases hr
        exact h.joined
      · exact ih _ _ h.next _
      · refine sound_bind fun r hr => ?_
        exact ih _ _ (h.push (proper_bracket? hr)) _
      · split
        · refine ih _ _ (h.replace fun hp => ?_) _
          exact ⟨hp, fun m _ => Nat.zero_le m⟩
        · exact sound_none
      · split
        · refine ih _ _ (h.replace fun hp => ?_) _
          exact ⟨hp, nofun⟩
        · exact sound_none
      · split
        · refine ih _ _ (h.replace fun hp => ?_) _
          exact ⟨hp, nofun⟩
        · exact sound_none
      · split
        · dsimp only
          split
          · rename_i hq
            exact ih _ _ (h.replace (proper_braces? hq ·)) _
          · exact sound_none
        · exact sound_none
      · dsimp only
        split
        · exact sound_none
        · split
          · refine sound_bind fun r hr => ?_
            split
            · exact sound_none
            · refine sound_bind fun r hr => ?_
              obtain ⟨p, names, rest⟩ := r
              dsimp only
              split
              · exact ih _ _ (hgroup hr) _
              · exact sound_none
          · refine sound_bind fun r hr => ?_
            split
            · exact sound_none
            · refine sound_bind fun r hr => ?_
              obtain ⟨p, names, rest⟩ := r
              dsimp only
              split
              · exact ih _ _ (hgroup hr) _
              · exact sound_none
          · refine sound_bind fun r hr => ?_
            split
            · refine sound_bind fun r hr => ?_
              obtain ⟨p, names, rest⟩ := r
              dsimp only
              split
              · exact ih _ _ (hgroup hr) _
              · exact sound_none
            · split
              · exact sound_none
              · exact ih _ _ h.pushFlags _
            · exact sound_none
          · refine sound_bind fun r hr => ?_
            obtain ⟨p, names, rest⟩ := r
            dsimp only
            split
            · exact ih _ _ (hgroup hr) _
            · exact sound_none
      · refine sound_bind fun r hr => ?_
        exact ih _ _ (h.push (proper_primitive? hr)) _

end Reader

theorem proper_of_ofText {text : String} {p : Pattern} (h : ofText text = .ok p) : Proper p := by
  unfold ofText at h
  split at h
  · cases h
  · rename_i q hq
    split at h
    · cases h
      obtain ⟨r, hr, hrest⟩ := Option.bind_eq_some_iff.1 hq
      dsimp only at hrest
      split at hrest
      · cases hrest
        exact Reader.sound_alternatives? _ _ _ Reader.Ready.nil _ r hr
      · cases hrest
    · cases h

end LossPrevention.Pattern
