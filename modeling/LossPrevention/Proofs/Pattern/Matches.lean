import LossPrevention.Proofs.Pattern.Parts

/-!
The matches that a search finds in a text, for a pattern that takes at least one character. They
lie one behind the other, each is the first from where the search stood, and nothing that the
pattern could match starts between two of them. At a character that the pattern cannot take the
search falls apart into those on both sides.
-/

namespace LossPrevention.Pattern

open Cursor (On)
open Text (CharSet)

/-- A pattern that the search can be relied on for: every match takes a character. -/
structure Searchable (p : Pattern) : Prop where
  proper : Proper p
  takes : 0 < minLength p

/-- The first match from a place on. -/
structure First (p : Pattern) (text : List Char) (c : Cursor) (s : Span) : Prop where
  on_first : On text s.first
  on_last : On text s.last
  spans : Spans p s.first s.last
  le_first : c.pos ≤ s.first.pos
  earliest : ∀ d, On text d → c.pos ≤ d.pos → d.pos < s.first.pos → ends p d = []

theorem First.first_lt_last {p : Pattern} {text : List Char} {c : Cursor} {s : Span}
    (h : First p text c s) (hp : Searchable p) : s.first.pos < s.last.pos := by
  have hmin := h.spans.minLength_le
  have htakes := hp.takes
  omega

/-! ### One match -/

theorem findAt_eq_none_iff {p : Pattern} {c : Cursor} : findAt p c = none ↔ ends p c = [] := by
  rw [findAt, Option.map_eq_none_iff, List.head?_eq_none_iff]

theorem first_of_findAt {p : Pattern} (hp : Searchable p) {text : List Char} {c : Cursor}
    (hc : On text c) {s : Span} (h : findAt p c = some s) : First p text c s := by
  obtain ⟨d, hd, rfl⟩ := Option.map_eq_some_iff.1 h
  have hspan := (mem_ends_iff hp.proper hc d).1 (List.mem_of_head? hd)
  refine ⟨hc, (forward_spans text p c d hc hspan).1, hspan, Nat.le_refl _, ?_⟩
  intro e _ hle hlt
  exact absurd hlt (Nat.not_lt.2 hle)

theorem findFrom_eq (p : Pattern) (c : Cursor) :
    findFrom p c = (findAt p c).or (c.step?.bind (findFrom p)) := by
  obtain ⟨pos, before, rest⟩ := c
  cases rest with
  | nil =>
      rw [findFrom, findFrom.go, Cursor.step?, Option.bind_none, Option.or_none]
  | cons x rest =>
      rw [findFrom, findFrom.go]
      cases findAt p ⟨pos, before, x :: rest⟩ <;> rfl

theorem findFrom_spec {p : Pattern} (hp : Searchable p) {text : List Char} {c : Cursor}
    (hc : On text c) :
    (∀ s, findFrom p c = some s → First p text c s) ∧
      (findFrom p c = none → ∀ d, On text d → c.pos ≤ d.pos → ends p d = []) := by
  induction hr : c.rest generalizing c with
  | nil =>
      have hstep : c.step? = none := by rw [Cursor.step?, hr]
      rw [findFrom_eq, hstep, Option.bind_none, Option.or_none]
      constructor
      · intro s hs
        exact first_of_findAt hp hc hs
      · intro hnone d hd hle
        have hlast := (hc.eq_last hr).symm
        have hpos : c.pos = d.pos := by
          have hdle := hd.1
          have hlen : c.pos = text.length := by rw [← hlast]; rfl
          omega
        rw [← hc.eq_of_pos hd hpos]
        exact findAt_eq_none_iff.1 hnone
  | cons x rest ih =>
      have hon := hc.step hr
      have hstep : c.step? = some ⟨c.pos + 1, some x, rest⟩ := by rw [Cursor.step?, hr]
      obtain ⟨hsome, hnone⟩ := ih hon rfl
      rw [findFrom_eq, hstep, Option.bind_some]
      cases hat : findAt p c with
      | some t =>
          rw [Option.some_or]
          constructor
          · intro s hs
            cases hs
            exact first_of_findAt hp hc hat
          · intro hs
            cases hs
      | none =>
          rw [Option.none_or]
          have hhere : ∀ d, On text d → c.pos ≤ d.pos → ¬ c.pos + 1 ≤ d.pos → ends p d = [] := by
            intro d hd hle hlt
            rw [← hc.eq_of_pos hd (by omega)]
            exact findAt_eq_none_iff.1 hat
          constructor
          · intro s hs
            have hs := hsome s hs
            have hle := hs.le_first
            refine ⟨hs.on_first, hs.on_last, hs.spans, Nat.le_of_succ_le hle, ?_⟩
            intro d hd hcd hlt
            by_cases h : c.pos + 1 ≤ d.pos
            · exact hs.earliest d hd h hlt
            · exact hhere d hd hcd h
          · intro hs d hd hcd
            by_cases h : c.pos + 1 ≤ d.pos
            · exact hnone hs d hd h
            · exact hhere d hd hcd h

/-! ### All matches -/

/-- The matches from a place on. -/
def matchesFrom (p : Pattern) (c : Cursor) : List Span := findRest p (c.rest.length + 1) none c

section MatchesFrom

variable {p : Pattern} {text : List Char}

theorem findRest_succ (hp : Searchable p) (fuel : Nat) (previous : Option Nat) {c : Cursor}
    (hc : On text c) :
    findRest p (fuel + 1) previous c =
      match findFrom p c with
      | none => []
      | some s => s :: findRest p fuel (some s.last.pos) s.last := by
  rw [findRest]
  cases hf : findFrom p c with
  | none => rfl
  | some s =>
      have hlt := ((findFrom_spec hp hc).1 s hf).first_lt_last hp
      have hlength : ¬ (s.length = 0 ∧ previous = some s.last.pos) := by
        intro h
        have hzero : s.last.pos - s.first.pos = 0 := h.1
        omega
      exact if_neg hlength

theorem findRest_eq (hp : Searchable p) {fuel : Nat} {c : Cursor} (hc : On text c)
    (h : c.rest.length < fuel) (previous : Option Nat) :
    findRest p fuel previous c = matchesFrom p c := by
  induction fuel using Nat.strongRecOn generalizing c previous with
  | ind fuel ih =>
      obtain ⟨fuel, rfl⟩ := Nat.exists_eq_succ_of_ne_zero (Nat.ne_zero_of_lt h)
      rw [matchesFrom, findRest_succ hp fuel previous hc, findRest_succ hp c.rest.length none hc]
      cases hf : findFrom p c with
      | none => rfl
      | some s =>
          have hs := (findFrom_spec hp hc).1 s hf
          have hlt := hs.first_lt_last hp
          have hle := hs.le_first
          have hlen := hc.length_rest
          have hlen' := hs.on_last.length_rest
          have hbound := hs.on_last.1
          have hshort : s.last.rest.length < c.rest.length := by omega
          dsimp only
          rw [ih fuel (Nat.lt_succ_self _) hs.on_last (by omega),
            ih c.rest.length h hs.on_last hshort]

theorem matchesFrom_eq (hp : Searchable p) {c : Cursor} (hc : On text c) :
    matchesFrom p c =
      match findFrom p c with
      | none => []
      | some s => s :: matchesFrom p s.last := by
  rw [matchesFrom, findRest_succ hp _ _ hc]
  cases hf : findFrom p c with
  | none => rfl
  | some s =>
      have hs := (findFrom_spec hp hc).1 s hf
      have hlt := hs.first_lt_last hp
      have hle := hs.le_first
      have hlen := hc.length_rest
      have hlen' := hs.on_last.length_rest
      have hbound := hs.on_last.1
      dsimp only
      rw [findRest_eq hp hs.on_last (by omega)]

theorem findAll_eq (hp : Searchable p) (text : List Char) :
    findAll p text = matchesFrom p (Cursor.start text) :=
  findRest_eq hp (Cursor.on_start text) (by simp only [Cursor.start]; omega) none

theorem matchesFrom_induct (hp : Searchable p) {motive : Cursor → List Span → Prop}
    (none : ∀ c, On text c → findFrom p c = none → motive c [])
    (some : ∀ c s, On text c → findFrom p c = some s → First p text c s →
      motive s.last (matchesFrom p s.last) → motive c (s :: matchesFrom p s.last))
    {c : Cursor} (hc : On text c) : motive c (matchesFrom p c) := by
  induction hn : c.rest.length using Nat.strongRecOn generalizing c with
  | ind n ih =>
      rw [matchesFrom_eq hp hc]
      cases hf : findFrom p c with
      | none => exact none c hc hf
      | some s =>
          have hs := (findFrom_spec hp hc).1 s hf
          have hlt := hs.first_lt_last hp
          have hle := hs.le_first
          have hlen := hc.length_rest
          have hlen' := hs.on_last.length_rest
          have hbound := hs.on_last.1
          exact some c s hc hf hs (ih s.last.rest.length (by omega) hs.on_last rfl)

/-- Matches of a text from a position on, one behind the other. -/
def Ordered (p : Pattern) (text : List Char) : Nat → List Span → Prop
  | _, [] => True
  | n, s :: spans =>
      On text s.first ∧ On text s.last ∧ Spans p s.first s.last ∧
        n ≤ s.first.pos ∧ s.first.pos < s.last.pos ∧ Ordered p text s.last.pos spans

theorem ordered_matchesFrom (hp : Searchable p) {c : Cursor} (hc : On text c) :
    Ordered p text c.pos (matchesFrom p c) := by
  refine matchesFrom_induct hp (motive := fun c spans => Ordered p text c.pos spans) ?_ ?_ hc
  · intro c _ _
    trivial
  · intro c s _ _ hs ih
    exact ⟨hs.on_first, hs.on_last, hs.spans, hs.le_first, hs.first_lt_last hp, ih⟩

theorem Ordered.of_mem {n : Nat} {spans : List Span} (h : Ordered p text n spans) {s : Span}
    (hs : s ∈ spans) :
    On text s.first ∧ On text s.last ∧ Spans p s.first s.last ∧ n ≤ s.first.pos ∧
      s.first.pos < s.last.pos := by
  induction spans generalizing n with
  | nil => cases hs
  | cons t spans ih =>
      obtain ⟨hf, hl, hsp, hle, hlt, hrest⟩ := h
      rcases List.mem_cons.1 hs with rfl | hs
      · exact ⟨hf, hl, hsp, hle, hlt⟩
      · obtain ⟨hf', hl', hsp', hle', hlt'⟩ := ih hrest hs
        exact ⟨hf', hl', hsp', by omega, hlt'⟩

theorem ordered_findAll (hp : Searchable p) (text : List Char) :
    Ordered p text (Cursor.start text).pos (findAll p text) := by
  rw [findAll_eq hp]
  exact ordered_matchesFrom hp (Cursor.on_start text)

/-- Every match found is one, and takes a character. -/
theorem spans_of_mem_findAll (hp : Searchable p) {s : Span} (hs : s ∈ findAll p text) :
    On text s.first ∧ On text s.last ∧ Spans p s.first s.last ∧ s.first.pos < s.last.pos := by
  obtain ⟨hf, hl, hsp, -, hlt⟩ := (ordered_findAll hp text).of_mem hs
  exact ⟨hf, hl, hsp, hlt⟩

/-- Where the pattern could match there is a match found that reaches over the place. -/
theorem exists_match_over (hp : Searchable p) {c a b : Cursor} (hc : On text c) (ha : On text a)
    (hle : c.pos ≤ a.pos) (hab : Spans p a b) :
    ∃ s ∈ matchesFrom p c, s.first.pos ≤ a.pos ∧ a.pos < s.last.pos := by
  have hends : ends p a ≠ [] := List.ne_nil_of_mem ((mem_ends_iff hp.proper ha b).2 hab)
  revert hle
  refine matchesFrom_induct hp (motive := fun c spans =>
    c.pos ≤ a.pos → ∃ s ∈ spans, s.first.pos ≤ a.pos ∧ a.pos < s.last.pos) ?_ ?_ hc
  · intro c hc hnone hle
    exact absurd ((findFrom_spec hp hc).2 hnone a ha hle) hends
  · intro c s hc hf hs ih hle
    by_cases hfirst : a.pos < s.first.pos
    · exact absurd (hs.earliest a ha hle hfirst) hends
    · by_cases hlast : a.pos < s.last.pos
      · exact ⟨s, List.mem_cons_self, by omega, hlast⟩
      · obtain ⟨t, ht, hover⟩ := ih (by omega)
        exact ⟨t, List.mem_cons_of_mem _ ht, hover⟩

end MatchesFrom

/-! ### Matches in a part -/

/-- A match of a part, seen from the longer text. -/
def Span.within (front after : List Char) (s : Span) : Span :=
  ⟨s.first.within front after, s.last.within front after⟩

section Apart

variable {p : Pattern} {text front after : List Char}

theorem findAt_within (h : Apart p text front after) {c : Cursor} (hc : On text c) :
    findAt p (c.within front after) = (findAt p c).map (Span.within front after) := by
  rw [findAt, findAt, ends_within h hc, List.head?_map, Option.map_map, Option.map_map]
  rfl

theorem findFrom_within (h : Apart p text front after) {c : Cursor} (hc : On text c) :
    findFrom p (c.within front after) =
      ((findFrom p c).map (Span.within front after)).or
        (((Cursor.last text).within front after).step?.bind (findFrom p)) := by
  induction hr : c.rest generalizing c with
  | nil =>
      have hstep : c.step? = none := by rw [Cursor.step?, hr]
      rw [findFrom_eq p c, hstep, Option.bind_none, Option.or_none, ← hc.eq_last hr,
        ← findAt_within h hc]
      exact findFrom_eq p _
  | cons x rest ih =>
      have hstep : c.step? = some ⟨c.pos + 1, some x, rest⟩ := by rw [Cursor.step?, hr]
      have hpos : c.pos + 1 + front.length = c.pos + front.length + 1 := by omega
      have hstep' : (c.within front after).step? =
          some (Cursor.within front after ⟨c.pos + 1, some x, rest⟩) := by
        simp [Cursor.step?, Cursor.within, hr, hpos]
      rw [findFrom_eq, findFrom_eq p c, hstep, hstep', Option.bind_some, Option.bind_some,
        findAt_within h hc, ih (hc.step hr) rfl]
      cases findAt p c with
      | some s => rfl
      | none => rfl

theorem matchesFrom_within (hp : Searchable p) (h : Apart p text front after) {c : Cursor}
    (hc : On text c) :
    matchesFrom p (c.within front after) =
      (matchesFrom p c).map (Span.within front after) ++
        ((Cursor.last text).within front after).step?.elim [] (matchesFrom p) := by
  have hon {c : Cursor} (hc : On text c) := Cursor.on_within hc front after
  refine matchesFrom_induct hp (motive := fun c spans =>
    matchesFrom p (c.within front after) = spans.map (Span.within front after) ++
      ((Cursor.last text).within front after).step?.elim [] (matchesFrom p)) ?_ ?_ hc
  · intro c hc hf
    rw [matchesFrom_eq hp (hon hc), findFrom_within h hc, hf, Option.map_none, Option.none_or,
      List.map_nil, List.nil_append]
    cases hstep : ((Cursor.last text).within front after).step? with
    | none => rfl
    | some d =>
        have hlast : On text (Cursor.last text) := Cursor.on_place (Nat.le_refl _)
        rw [Option.bind_some, Option.elim_some, ← matchesFrom_eq hp ((hon hlast).of_step hstep)]
  · intro c s hc hf hs ih
    rw [matchesFrom_eq hp (hon hc), findFrom_within h hc, hf, Option.map_some, Option.some_or,
      List.map_cons, List.cons_append, ← ih]
    rfl

end Apart

/-! ### Where a text falls apart -/

/-- A character that the pattern can neither take nor be influenced by. -/
structure Divides (p : Pattern) (x : Char) : Prop where
  searchable : Searchable p
  every : p.Every (fun s => s.contains x = false)
    (fun l => l = .edge false ∧ Text.isWord x = false)

section Divides

variable {p : Pattern} {x : Char}

theorem Divides.apart_left (h : Divides p x) (xs ys : List Char) : Apart p xs [] (x :: ys) where
  proper := h.searchable.proper
  every := by
    refine h.every.imp ?_ ?_
    · intro s hs y hy
      rw [List.head?_cons, Option.mem_some_iff] at hy
      exact hy ▸ hs
    · rintro l ⟨rfl, hx⟩ c _
      cases hr : c.rest with
      | nil => simp [Cursor.within, Cursor.next?, hr, Look.holds, Look.inWord, hx]
      | cons y rest => simp [Cursor.within, Cursor.next?, hr]

theorem Divides.apart_right (h : Divides p x) (xs ys : List Char) : Apart p ys (xs ++ [x]) [] where
  proper := h.searchable.proper
  every := by
    refine h.every.imp ?_ ?_
    · intro s _ y hy
      cases hy
    · rintro l ⟨rfl, hx⟩ c _
      cases hb : c.before with
      | none => simp [Cursor.within, Cursor.next?, hb, Look.holds, Look.inWord, hx]
      | some y => simp [Cursor.within, Cursor.next?, hb]

theorem findAll_append (h : Divides p x) (xs ys : List Char) :
    findAll p (xs ++ x :: ys) =
      (findAll p xs).map (Span.within [] (x :: ys)) ++
        (findAll p ys).map (Span.within (xs ++ [x]) []) := by
  have hs := h.searchable
  have hleft : Cursor.start (xs ++ x :: ys) = (Cursor.start xs).within [] (x :: ys) := by
    simp [Cursor.start, Cursor.within]
  have hstep : ((Cursor.last xs).within [] (x :: ys)).step? =
      some ((Cursor.start ys).within (xs ++ [x]) []) := by
    simp [Cursor.step?, Cursor.last, Cursor.place, Cursor.within, Cursor.start]
  rw [findAll_eq hs, hleft, matchesFrom_within hs (h.apart_left xs ys) (Cursor.on_start xs), hstep,
    Option.elim_some, matchesFrom_within hs (h.apart_right xs ys) (Cursor.on_start ys),
    findAll_eq hs, findAll_eq hs]
  have hend : ((Cursor.last ys).within (xs ++ [x]) []).step? = none := by
    simp [Cursor.step?, Cursor.within, Cursor.rest_last]
  rw [hend, Option.elim_none, List.append_nil]

end Divides

/-! ### Replacement -/

section Splice

variable {p : Pattern} {text : List Char} (replacement front after : List Char)

theorem replaceAll_of_nil (h : findAll p text = []) : replaceAll p replacement text = text := by
  rw [replaceAll, h, splice, Cursor.start]

theorem infix_replaceAll (h : findAll p text ≠ []) :
    replacement <:+: replaceAll p replacement text := by
  obtain ⟨s, spans, hspans⟩ := List.exists_cons_of_ne_nil h
  rw [replaceAll, hspans, splice]
  exact ⟨_, _, rfl⟩

theorem splice_within {c : Cursor} (hc : On text c) {spans more : List Span}
    (h : Ordered p text c.pos spans)
    (hmore : ∀ s ∈ more.head?, text.length + front.length ≤ s.first.pos) :
    splice replacement (c.within front after) (spans.map (Span.within front after) ++ more) =
      splice replacement c spans ++
        splice replacement ((Cursor.last text).within front after) more := by
  induction spans generalizing c with
  | nil =>
      have hlen := hc.length_rest
      have hle := hc.1
      cases more with
      | nil => simp [splice, Cursor.within, Cursor.rest_last]
      | cons s more =>
          have hs : text.length + front.length ≤ s.first.pos := hmore s rfl
          have hlast : (Cursor.last text).pos = text.length := rfl
          have htake : s.first.pos - (c.pos + front.length) - c.rest.length =
              s.first.pos - (text.length + front.length) := by omega
          have hlong : c.rest.length ≤ s.first.pos - (c.pos + front.length) := by omega
          simp only [List.map_nil, List.nil_append, splice, Cursor.within, Cursor.rest_last, hlast,
            List.take_append, List.take_of_length_le hlong, htake, List.append_assoc]
  | cons s spans ih =>
      obtain ⟨hf, hl, -, hle, hlt, hrest⟩ := h
      have hlen := hc.length_rest
      have hfle := hf.1
      have hshort : s.first.pos - c.pos ≤ c.rest.length := by omega
      have hsub : s.first.pos + front.length - (c.pos + front.length) = s.first.pos - c.pos := by
        omega
      have ih := ih hl hrest
      rw [List.map_cons, List.cons_append, splice, splice]
      simp only [Span.within] at ih ⊢
      rw [ih]
      simp only [Cursor.within, hsub, List.take_append_of_le_length hshort, List.append_assoc]

theorem splice_step {c : Cursor} {x : Char} {rest : List Char} (hr : c.rest = x :: rest)
    {spans : List Span} (h : ∀ s ∈ spans.head?, c.pos + 1 ≤ s.first.pos) :
    splice replacement c spans = x :: splice replacement ⟨c.pos + 1, some x, rest⟩ spans := by
  cases spans with
  | nil => rw [splice, splice, hr]
  | cons s spans =>
      have hs : c.pos + 1 ≤ s.first.pos := h s rfl
      have hsub : s.first.pos - c.pos = s.first.pos - (c.pos + 1) + 1 := by omega
      rw [splice, splice, hr, hsub, List.take_succ_cons]
      rfl

/-- Replacing goes on separately before and behind such a character. -/
theorem replaceAll_append {x : Char} (h : Divides p x) (xs ys : List Char) :
    replaceAll p replacement (xs ++ x :: ys) =
      replaceAll p replacement xs ++ x :: replaceAll p replacement ys := by
  have hs := h.searchable
  have hordered (text : List Char) : Ordered p text (Cursor.start text).pos (findAll p text) := by
    rw [findAll_eq hs]
    exact ordered_matchesFrom hs (Cursor.on_start text)
  have hlater : ∀ s ∈ ((findAll p ys).map (Span.within (xs ++ [x]) [])).head?,
      xs.length + 1 ≤ s.first.pos := by
    intro s hmem
    obtain ⟨t, -, rfl⟩ := List.mem_map.1 (List.mem_of_head? hmem)
    simp [Span.within, Cursor.within]
  have hleft : Cursor.start (xs ++ x :: ys) = (Cursor.start xs).within [] (x :: ys) := by
    simp [Cursor.start, Cursor.within]
  have hbetween : (Cursor.last xs).within [] (x :: ys) = ⟨xs.length, xs.getLast?, x :: ys⟩ := by
    simp [Cursor.last, Cursor.place, Cursor.within]
  have hright : splice replacement ⟨xs.length + 1, some x, ys⟩
      ((findAll p ys).map (Span.within (xs ++ [x]) [])) = replaceAll p replacement ys := by
    have hstart : (Cursor.start ys).within (xs ++ [x]) [] = ⟨xs.length + 1, some x, ys⟩ := by
      simp [Cursor.start, Cursor.within]
    have hnone : ∀ s ∈ ([] : List Span).head?, ys.length + (xs ++ [x]).length ≤ s.first.pos := by
      intro s hs
      cases hs
    have hsplice := splice_within replacement (xs ++ [x]) [] (Cursor.on_start ys) (hordered ys)
      hnone
    rw [List.append_nil, hstart] at hsplice
    rw [hsplice, splice, Cursor.within, Cursor.rest_last, List.append_nil, List.append_nil]
    rfl
  rw [replaceAll, findAll_append h, hleft,
    splice_within replacement [] (x :: ys) (Cursor.on_start xs) (hordered xs), hbetween,
    splice_step replacement (c := ⟨xs.length, xs.getLast?, x :: ys⟩) rfl hlater, hright]
  · rfl
  · intro s hs
    exact Nat.le_of_succ_le (hlater s hs)

end Splice

end LossPrevention.Pattern
