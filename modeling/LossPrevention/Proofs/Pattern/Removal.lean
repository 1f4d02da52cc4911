import LossPrevention.Proofs.Pattern.Drafts
import LossPrevention.Proofs.Pattern.Words

/-!
What the passes remove of a match in the original text. A pass leaves no match of its pattern
wholly alone, as long as the match could be seen in the part that is left; and as long as no pass
has cut a word in two, a match within a word is either removed whole or still there whole.
-/

namespace LossPrevention.Pattern.Draft

open Cursor (On place)

/-! ### A run in the text it comes from -/

section Runs

variable {d : Draft} {content : List Char}

theorem exists_within {front text after : List Char} (hs : content = front ++ text ++ after)
    {c : Cursor} (hc : On content c) (hfirst : front.length ≤ c.pos)
    (hlast : c.pos ≤ front.length + text.length) :
    ∃ e, On text e ∧ c = e.within front after := by
  have he : On text (place text (c.pos - front.length)) := Cursor.on_place (by omega)
  refine ⟨_, he, ?_⟩
  have hwithin := Cursor.on_within he front after
  rw [← hs] at hwithin
  refine hc.eq_of_pos hwithin ?_
  simp only [Cursor.within, place]
  omega

/-- After its pass a pattern has left none of its matches alone. -/
theorem exists_touches_pass {p : Pattern} (hp : Searchable p) (hcarried : Carried p)
    (hsource : d.source = content) {c e : Cursor} (hc : On content c) (he : On content e)
    (hspan : Spans p c e) : ∃ r ∈ (pass p d).regions 0, r.Touches c.pos e.pos := by
  have hmin := hspan.minLength_le
  have htakes := hp.takes
  have hend := he.1
  by_cases htouched : ∃ r ∈ d.regions 0, r.Touches c.pos e.pos
  · obtain ⟨r, hr, htouches⟩ := htouched
    exact ⟨r, (mem_regions_pass hp).2 (.inl hr), htouches⟩
  · have hnone : ∀ r ∈ d.regions 0, ¬ r.Touches c.pos e.pos := by
      intro r hr htouches
      exact htouched ⟨r, hr, htouches⟩
    obtain ⟨⟨k, text⟩, hrun, hfirst, hlast⟩ := exists_run (Nat.zero_le c.pos)
      (by rw [hsource, Nat.zero_add]; exact hend) hnone
    obtain ⟨front, after, hparts, hk⟩ := source_of_mem_runs hrun
    rw [hsource] at hparts
    dsimp only at hfirst hlast hparts hk
    obtain ⟨c', hc', rfl⟩ := exists_within hparts hc (by omega) (by omega)
    obtain ⟨e', he', rfl⟩ := exists_within hparts he (by omega) (by omega)
    have hpart := hcarried text front after c' e' hc' he' hspan
    obtain ⟨s, hs, hle, hlt⟩ := exists_match_over hp (Cursor.on_start text) hc' (Nat.zero_le _)
      hpart
    rw [← findAll_eq hp] at hs
    refine ⟨_, (mem_regions_pass hp).2 (.inr ⟨_, hrun, s, hs, rfl⟩), ?_⟩
    simp only [Region.Touches, Cursor.within] at hmin ⊢
    omega

end Runs

/-! ### Words -/

/-- Matches begin and end outside of words. -/
def Guarded (p : Pattern) : Prop := ∀ c d, Spans p c d → ¬ c.Inside ∧ ¬ d.Inside

/-- No word of the text has been cut in two. -/
def Clean (content : List Char) (d : Draft) : Prop :=
  ∀ r ∈ d.regions 0, ¬ (place content r.first).Inside ∧ ¬ (place content r.last).Inside

section Clean

variable {content : List Char} {d : Draft}

theorem clean_run (content : List Char) : Clean content (run content) := nofun

theorem not_inside_start (content : List Char) : ¬ (place content 0).Inside := by
  simp [Cursor.Inside, place, Look.inWord]

theorem not_inside_end (content : List Char) : ¬ (place content content.length).Inside := by
  simp [Cursor.Inside, place, Look.inWord, Cursor.next?]

theorem Clean.runs (h : Clean content d) (hsource : d.source = content) {k : Nat}
    {text : List Char} (hrun : (k, text) ∈ d.runs 0) :
    ¬ (place content k).Inside ∧ ¬ (place content (k + text.length)).Inside := by
  obtain ⟨hfirst, hlast⟩ := bounds_of_mem_runs hrun
  rw [Nat.zero_add, hsource] at hlast
  dsimp only at hfirst hlast
  constructor
  · rcases hfirst with rfl | ⟨r, hr, rfl⟩
    · exact not_inside_start content
    · exact (h r hr).2
  · rcases hlast with hlast | ⟨r, hr, hlast⟩
    · rw [hlast]
      exact not_inside_end content
    · rw [← hlast]
      exact (h r hr).1

/-- Between the two ends of a part nothing of the longer text is seen. -/
theorem inside_within_iff {text front after : List Char} {c : Cursor} (hc : On text c)
    (hfirst : 0 < c.pos) (hlast : c.pos < text.length) :
    (c.within front after).Inside ↔ c.Inside := by
  obtain ⟨n, hn⟩ := Nat.exists_eq_succ_of_ne_zero (Nat.ne_of_gt hfirst)
  have hbefore : c.before = some text[n] := by
    rw [hc.before hn, List.getElem?_eq_getElem]
  have hnext : c.rest.head? = some text[c.pos] := by
    have hnext := hc.next?
    rw [List.getElem?_eq_getElem hlast] at hnext
    exact hnext
  simp only [Cursor.Inside, Cursor.within, Cursor.next?, List.head?_append, hbefore, hnext,
    Option.some_or]

theorem Clean.pass {p : Pattern} (h : Clean content d) (hsource : d.source = content)
    (hp : Searchable p) (hguarded : Guarded p) : Clean content (pass p d) := by
  intro r hr
  rcases (mem_regions_pass hp).1 hr with hr | ⟨⟨k, text⟩, hrun, s, hs, rfl⟩
  · exact h r hr
  · obtain ⟨front, after, hparts, hk⟩ := source_of_mem_runs hrun
    obtain ⟨hfirst, hlast⟩ := h.runs hsource hrun
    obtain ⟨hf, hl, hspan, hlt⟩ := spans_of_mem_findAll hp hs
    have hlle := hl.1
    obtain ⟨hin, hout⟩ := hguarded _ _ hspan
    rw [hsource] at hparts
    rw [Nat.zero_add] at hk
    dsimp only at hparts hk hs ⊢
    have hwithin {c : Cursor} (hc : On text c) :
        place content (k + c.pos) = c.within front after := by
      have hon := Cursor.on_within hc front after
      rw [← hparts] at hon
      have hpos : (c.within front after).pos = k + c.pos := by
        rw [Cursor.within, hk]
        exact Nat.add_comm _ _
      rw [hon.2, hpos]
    constructor
    · rcases Nat.eq_zero_or_pos s.first.pos with hzero | hpos
      · rw [hzero, Nat.add_zero]
        exact hfirst
      · rw [hwithin hf, inside_within_iff hf hpos (by omega)]
        exact hin
    · rcases Nat.lt_or_eq_of_le hlle with hshort | hfull
      · rw [hwithin hl, inside_within_iff hl (by omega) hshort]
        exact hout
      · rw [hfull]
        exact hlast

/-- Within a word nothing is removed by halves. -/
theorem Clean.covers (h : Clean content d) {c e : Cursor} (he : On content e)
    (hword : ∀ k, c.pos ≤ k → k < e.pos → Cursor.WordAt content k)
    {r : Region} (hr : r ∈ d.regions 0) (htouches : r.Touches c.pos e.pos) :
    r.Covers c.pos e.pos := by
  have hend := he.1
  have hinside (n : Nat) (hcn : c.pos < n) (hne : n < e.pos) : (place content n).Inside := by
    obtain ⟨m, rfl⟩ := Nat.exists_eq_succ_of_ne_zero (Nat.ne_zero_of_lt hcn)
    exact (hword m (by omega) (by omega)).inside (hword (m + 1) (by omega) hne)
  obtain ⟨hfirst, hlast⟩ := h r hr
  obtain ⟨hbefore, hbehind⟩ := htouches
  constructor
  · rw [← Nat.not_lt]
    exact fun hlt => hfirst (hinside r.first hlt hbefore)
  · rw [← Nat.not_lt]
    exact fun hlt => hlast (hinside r.last hbehind hlt)

end Clean

/-! ### Patterns within words -/

/-- A pattern that takes characters of words only and asks nothing. -/
structure Wordy (p : Pattern) : Prop where
  searchable : Searchable p
  every : p.Every (fun s => s.inWords = true) (fun _ => False)

section Wordy

variable {p : Pattern}

theorem Wordy.divides (h : Wordy p) {x : Char} (hx : Text.isWord x = false) : Divides p x where
  searchable := h.searchable
  every := by
    refine h.every.imp ?_ (fun _ hl => hl.elim)
    intro s hs
    rw [← Bool.not_eq_true]
    intro hcontains
    rw [Text.CharSet.isWord_of_inWords hs hcontains] at hx
    cases hx

theorem findAll_nil (hp : Searchable p) : findAll p [] = [] := by
  cases hf : findAll p [] with
  | nil => rfl
  | cons s spans =>
      have hs : s ∈ findAll p [] := hf ▸ List.mem_cons_self
      obtain ⟨-, hl, -, hlt⟩ := spans_of_mem_findAll hp hs
      exact absurd (Nat.lt_of_lt_of_le hlt hl.1) (Nat.not_lt_zero _)

theorem within_within (front front' after after' : List Char) (s : Span) :
    (s.within front after).within front' after' =
      s.within (front' ++ front) (after ++ after') := by
  have hcursor (c : Cursor) : (c.within front after).within front' after' =
      c.within (front' ++ front) (after ++ after') := by
    simp only [Cursor.within, List.length_append, List.getLast?_append, Option.or_assoc,
      List.append_assoc, Cursor.mk.injEq, and_true]
    omega
  simp only [Span.within, hcursor]

theorem map_within_nil (spans : List Span) : spans.map (Span.within [] []) = spans := by
  have hid : ∀ s ∈ spans, s.within [] [] = id s := by
    intro s _
    simp [Span.within, Cursor.within]
  rw [List.map_congr_left hid, List.map_id]

/-- Where no word is cut in two, such a pattern finds its matches on both sides separately. -/
theorem findAll_append_of_not_inside (h : Wordy p) {xs ys : List Char}
    (hin : ¬ (place (xs ++ ys) xs.length).Inside) :
    findAll p (xs ++ ys) =
      (findAll p xs).map (Span.within [] ys) ++ (findAll p ys).map (Span.within xs []) := by
  rcases List.eq_nil_or_concat xs with rfl | ⟨xs, x, rfl⟩
  · rw [findAll_nil h.searchable, List.map_nil, List.nil_append, List.nil_append, map_within_nil]
  · rw [List.concat_eq_append] at hin ⊢
    cases ys with
    | nil =>
        rw [findAll_nil h.searchable, List.map_nil, List.append_nil, List.append_nil,
          map_within_nil]
    | cons y ys =>
        have hside : Text.isWord x = false ∨ Text.isWord y = false := by
          have hbefore : (place (xs ++ [x] ++ y :: ys) (xs ++ [x]).length).before = some x := by
            simp only [place, List.take_left, List.getLast?_concat]
          have hnext : (place (xs ++ [x] ++ y :: ys) (xs ++ [x]).length).next? = some y := by
            simp only [place, Cursor.next?, List.drop_left, List.head?_cons]
          rw [Cursor.Inside, hbefore, hnext, not_and_or] at hin
          simpa [Look.inWord] using hin
        rcases hside with hx | hy
        · have hxs := findAll_append (h.divides hx) xs []
          have hall := findAll_append (h.divides hx) xs (y :: ys)
          rw [findAll_nil h.searchable, List.map_nil, List.append_nil] at hxs
          rw [List.append_assoc, List.singleton_append, hall, hxs, List.map_map]
          congr 2
          funext s
          simp [within_within]
        · have hys := findAll_append (h.divides hy) [] ys
          have hall := findAll_append (h.divides hy) (xs ++ [x]) ys
          rw [findAll_nil h.searchable, List.map_nil, List.nil_append, List.nil_append] at hys
          rw [hall, hys, List.map_map]
          congr 2
          funext s
          simp [within_within]

theorem exists_match_within (h : Wordy p) {front text after : List Char}
    (hfirst : ¬ (place (front ++ text ++ after) front.length).Inside)
    (hlast : ¬ (place (front ++ text ++ after) (front.length + text.length)).Inside) {s : Span}
    (hs : s ∈ findAll p (front ++ text ++ after)) (hle : front.length ≤ s.first.pos)
    (hend : s.last.pos ≤ front.length + text.length) :
    ∃ t ∈ findAll p text, s.first.pos = front.length + t.first.pos ∧
      s.last.pos = front.length + t.last.pos := by
  have hbounds {text : List Char} {s : Span} (hs : s ∈ findAll p text) :
      s.first.pos < s.last.pos ∧ s.last.pos ≤ text.length := by
    obtain ⟨-, hl, -, hlt⟩ := spans_of_mem_findAll h.searchable hs
    exact ⟨hlt, hl.1⟩
  have hlength : (front ++ text).length = front.length + text.length := List.length_append
  have hlt := (hbounds hs).1
  rw [← hlength] at hlast
  rw [findAll_append_of_not_inside h hlast, List.mem_append, List.mem_map, List.mem_map] at hs
  rcases hs with ⟨u, hu, rfl⟩ | ⟨u, hu, rfl⟩
  · have hshort : ¬ (place (front ++ text) front.length).Inside := by
      intro hinside
      have hon : On (front ++ text) (place (front ++ text) front.length) :=
        Cursor.on_place (by omega)
      have hlonger := (Cursor.on_within hon [] after).2
      rw [List.nil_append] at hlonger
      exact hfirst (hlonger ▸ hinside.within [] after)
    rw [findAll_append_of_not_inside h hshort, List.mem_append, List.mem_map, List.mem_map] at hu
    rcases hu with ⟨v, hv, rfl⟩ | ⟨v, hv, rfl⟩
    · have hv := hbounds hv
      simp only [Span.within, Cursor.within, List.length_nil] at hle hlt
      omega
    · refine ⟨v, hv, ?_, ?_⟩ <;> simp only [Span.within, Cursor.within, List.length_nil] <;> omega
  · simp only [Span.within, Cursor.within, hlength] at hend hlt
    omega

end Wordy

/-! ### Passes in turn -/

def passAll (ps : List Pattern) (d : Draft) : Draft := ps.foldl (fun d p => pass p d) d

section PassAll

variable {ps : List Pattern} {content : List Char}

theorem passAll_append (ps qs : List Pattern) (d : Draft) :
    passAll (ps ++ qs) d = passAll qs (passAll ps d) := List.foldl_append

theorem source_passAll (hps : ∀ p ∈ ps, Searchable p) (d : Draft) :
    (passAll ps d).source = d.source := by
  induction ps generalizing d with
  | nil => rfl
  | cons p ps ih =>
      have hrest := ih (fun q hq => hps q (List.mem_cons_of_mem _ hq)) (pass p d)
      rw [source_pass (hps p List.mem_cons_self)] at hrest
      exact hrest

theorem render_passAll {marker : List Char} (hps : ∀ p ∈ ps, Skips p marker) (d : Draft) :
    (passAll ps d).render marker =
      ps.foldl (fun text p => p.replaceAll marker text) (d.render marker) := by
  induction ps generalizing d with
  | nil => rfl
  | cons p ps ih =>
      have hrest := ih (fun q hq => hps q (List.mem_cons_of_mem _ hq)) (pass p d)
      rw [render_pass (hps p List.mem_cons_self)] at hrest
      exact hrest

theorem mem_regions_passAll (hps : ∀ p ∈ ps, Searchable p) {d : Draft} {r : Region}
    (hr : r ∈ d.regions 0) : r ∈ (passAll ps d).regions 0 := by
  induction ps generalizing d with
  | nil => exact hr
  | cons p ps ih =>
      have hpass := (mem_regions_pass (hps p List.mem_cons_self)).2 (.inl hr)
      exact ih (fun q hq => hps q (List.mem_cons_of_mem _ hq)) hpass

theorem clean_passAll (hps : ∀ p ∈ ps, Searchable p) (hguarded : ∀ p ∈ ps, Guarded p) {d : Draft}
    (hsource : d.source = content) (h : Clean content d) : Clean content (passAll ps d) := by
  induction ps generalizing d with
  | nil => exact h
  | cons p ps ih =>
      have hp := hps p List.mem_cons_self
      have hclean := h.pass hsource hp (hguarded p List.mem_cons_self)
      exact ih (fun q hq => hps q (List.mem_cons_of_mem _ hq))
        (fun q hq => hguarded q (List.mem_cons_of_mem _ hq))
        ((source_pass hp d).trans hsource) hclean

/-- What is removed is what the patterns match in parts of the text. -/
theorem forall_mem_regions_passAll (hps : ∀ p ∈ ps, Searchable p) {P : Region → Prop} {d : Draft}
    (hsource : d.source = content) (hd : ∀ r ∈ d.regions 0, P r)
    (hmatch : ∀ p ∈ ps, ∀ front text after, content = front ++ text ++ after →
      ∀ s ∈ findAll p text, P ⟨front.length + s.first.pos, front.length + s.last.pos⟩) :
    ∀ r ∈ (passAll ps d).regions 0, P r := by
  induction ps generalizing d with
  | nil => exact hd
  | cons p ps ih =>
      have hp := hps p List.mem_cons_self
      refine ih (fun q hq => hps q (List.mem_cons_of_mem _ hq))
        ((source_pass hp d).trans hsource) ?_ (fun q hq => hmatch q (List.mem_cons_of_mem _ hq))
      intro r hr
      rcases (mem_regions_pass hp).1 hr with hr | ⟨⟨k, text⟩, hrun, s, hs, rfl⟩
      · exact hd r hr
      · obtain ⟨front, after, hparts, hk⟩ := source_of_mem_runs hrun
        rw [hsource] at hparts
        rw [Nat.zero_add] at hk
        dsimp only at hk hs ⊢
        rw [hk]
        exact hmatch p List.mem_cons_self front text after hparts s hs

theorem first_lt_last_of_mem (hps : ∀ p ∈ ps, Searchable p) (content : List Char) :
    ∀ r ∈ (passAll ps (run content)).regions 0, r.first < r.last := by
  refine forall_mem_regions_passAll hps rfl nofun ?_
  intro p hp front text after _ s hs
  obtain ⟨-, -, -, hlt⟩ := spans_of_mem_findAll (hps p hp) hs
  exact Nat.add_lt_add_left hlt _

variable {p : Pattern}

theorem exists_touches (hps : ∀ p ∈ ps, Searchable p) (hp : p ∈ ps) (hcarried : Carried p)
    {s : Span} (hs : s ∈ findAll p content) :
    ∃ r ∈ (passAll ps (run content)).regions 0, r.Touches s.first.pos s.last.pos := by
  obtain ⟨before, after, rfl⟩ := List.append_of_mem hp
  have hsearch := hps p hp
  have hbefore : ∀ q ∈ before, Searchable q := fun q hq => hps q (List.mem_append_left _ hq)
  have hafter : ∀ q ∈ after, Searchable q := fun q hq =>
    hps q (List.mem_append_right _ (List.mem_cons_of_mem _ hq))
  obtain ⟨hf, hl, hspan, -⟩ := spans_of_mem_findAll hsearch hs
  obtain ⟨r, hr, htouches⟩ := exists_touches_pass hsearch hcarried
    (source_passAll hbefore (run content)) hf hl hspan
  rw [passAll_append]
  exact ⟨r, mem_regions_passAll hafter hr, htouches⟩

/-- A match within a word is removed whole, if up to then no word has been cut in two. -/
theorem exists_covers_of_guarded {before after : List Pattern}
    (hps : ∀ q ∈ before ++ p :: after, Searchable q)
    (hguarded : ∀ q ∈ before ++ [p], Guarded q) (hcarried : Carried p) {Q : Look → Prop}
    (hwords : p.Every (fun s => s.inWords = true) Q) {s : Span} (hs : s ∈ findAll p content) :
    ∃ r ∈ (passAll (before ++ p :: after) (run content)).regions 0,
      r.Covers s.first.pos s.last.pos := by
  have hupTo : ∀ q ∈ before ++ [p], Searchable q := by
    intro q hq
    apply hps q
    simp only [List.mem_append, List.mem_cons] at hq ⊢
    tauto
  have hafter : ∀ q ∈ after, Searchable q := fun q hq =>
    hps q (List.mem_append_right _ (List.mem_cons_of_mem _ hq))
  have hsearch : Searchable p := hupTo p (List.mem_append_right _ List.mem_cons_self)
  obtain ⟨hf, hl, hspan, -⟩ := spans_of_mem_findAll hsearch hs
  obtain ⟨r, hr, htouches⟩ := exists_touches hupTo
    (List.mem_append_right _ List.mem_cons_self) hcarried hs
  have hclean := clean_passAll hupTo hguarded rfl (clean_run content)
  have hword : ∀ k, s.first.pos ≤ k → k < s.last.pos → Cursor.WordAt content k :=
    fun k => hspan.words hwords hf
  rw [← List.singleton_append, ← List.append_assoc, passAll_append]
  exact ⟨r, mem_regions_passAll hafter hr, hclean.covers hl hword hr htouches⟩

/-- The same for a pattern that may itself cut words, as long as those before it do not. -/
theorem exists_covers_of_wordy {before after : List Pattern}
    (hps : ∀ q ∈ before ++ p :: after, Searchable q) (hguarded : ∀ q ∈ before, Guarded q)
    (hp : Wordy p) {s : Span} (hs : s ∈ findAll p content) :
    ∃ r ∈ (passAll (before ++ p :: after) (run content)).regions 0,
      r.Covers s.first.pos s.last.pos := by
  have hbefore : ∀ q ∈ before, Searchable q := fun q hq => hps q (List.mem_append_left _ hq)
  have hafter : ∀ q ∈ after, Searchable q := fun q hq =>
    hps q (List.mem_append_right _ (List.mem_cons_of_mem _ hq))
  have hsource := source_passAll hbefore (run content)
  have hclean := clean_passAll hbefore hguarded rfl (clean_run content)
  obtain ⟨hf, hl, hspan, hlt⟩ := spans_of_mem_findAll hp.searchable hs
  suffices h : ∃ r ∈ (pass p (passAll before (run content))).regions 0,
      r.Covers s.first.pos s.last.pos by
    obtain ⟨r, hr, hcovers⟩ := h
    rw [passAll_append]
    exact ⟨r, mem_regions_passAll hafter hr, hcovers⟩
  by_cases htouched : ∃ r ∈ (passAll before (run content)).regions 0,
      r.Touches s.first.pos s.last.pos
  · obtain ⟨r, hr, htouches⟩ := htouched
    have hword : ∀ k, s.first.pos ≤ k → k < s.last.pos → Cursor.WordAt content k :=
      fun k => hspan.words hp.every hf
    exact ⟨r, (mem_regions_pass hp.searchable).2 (.inl hr), hclean.covers hl hword hr htouches⟩
  · have hnone : ∀ r ∈ (passAll before (run content)).regions 0,
        ¬ r.Touches s.first.pos s.last.pos := fun r hr htouches => htouched ⟨r, hr, htouches⟩
    have hend := hl.1
    obtain ⟨⟨k, text⟩, hrun, hfirst, hlast⟩ := exists_run (Nat.zero_le s.first.pos)
      (by rw [hsource, Nat.zero_add]; exact hend) hnone
    obtain ⟨hstart, hstop⟩ := hclean.runs hsource hrun
    obtain ⟨front, after', hparts, hk⟩ := source_of_mem_runs hrun
    rw [hsource, source] at hparts
    rw [Nat.zero_add] at hk
    dsimp only at hfirst hlast hparts hk
    rw [hk] at hfirst hlast hstart hstop
    rw [hparts] at hs hstart hstop
    obtain ⟨t, ht, hfirst', hlast'⟩ := exists_match_within hp hstart hstop hs hfirst hlast
    refine ⟨_, (mem_regions_pass hp.searchable).2 (.inr ⟨_, hrun, t, ht, rfl⟩), ?_⟩
    dsimp only [Region.Covers]
    omega

end PassAll

end LossPrevention.Pattern.Draft
