import LossPrevention.Proofs.Pattern.Matches

/-!
Replacing with several patterns in turn, without losing sight of the original text. A draft keeps
what has been taken out beside what is left; one pass of a pattern works on each run of text that
is left by itself, since no match reaches into a marker.
-/

namespace LossPrevention.Pattern

open Cursor (On)

/-- A text with parts taken out. -/
inductive Draft where
  | run (kept : List Char)
  | cut (kept removed : List Char) (rest : Draft)

/-- A part of a text, by the number of characters before it and up to its end. -/
structure Region where
  first : Nat
  last : Nat
  deriving DecidableEq

namespace Region

def Covers (r : Region) (first last : Nat) : Prop := r.first ≤ first ∧ last ≤ r.last

def Touches (r : Region) (first last : Nat) : Prop := r.first < last ∧ first < r.last

end Region

/-- The text with the marker in the place of each region. -/
def replaced (marker : List Char) : Nat → List Char → List Region → List Char
  | _, text, [] => text
  | n, text, r :: regions =>
      text.take (r.first - n) ++ marker ++
        replaced marker r.last (text.drop (r.last - n)) regions

theorem mem_replaced {marker : List Char} {regions : List Region}
    (hordered : regions.Pairwise (fun a b => a.last ≤ b.first)) {n : Nat}
    (hbounds : ∀ r ∈ regions, n ≤ r.first ∧ r.first ≤ r.last) {text : List Char} {x : Char}
    (h : x ∈ replaced marker n text regions) :
    x ∈ marker ∨ ∃ k, text[k]? = some x ∧ ∀ r ∈ regions, n + k < r.first ∨ r.last ≤ n + k := by
  induction regions generalizing n text with
  | nil =>
      obtain ⟨k, hk⟩ := List.mem_iff_getElem?.1 h
      exact .inr ⟨k, hk, nofun⟩
  | cons r regions ih =>
      obtain ⟨hbehind, hordered⟩ := List.pairwise_cons.1 hordered
      obtain ⟨hn, hle⟩ := hbounds r List.mem_cons_self
      rw [replaced, List.mem_append, List.mem_append] at h
      rcases h with (hkept | hmarker) | hrest
      · obtain ⟨k, hk⟩ := List.mem_iff_getElem?.1 hkept
        rw [List.getElem?_take, Option.ite_none_right_eq_some] at hk
        obtain ⟨hlt, hk⟩ := hk
        refine .inr ⟨k, hk, ?_⟩
        intro r' hr'
        refine .inl ?_
        rcases List.mem_cons.1 hr' with rfl | hr'
        · omega
        · have hnext := hbehind r' hr'
          omega
      · exact .inl hmarker
      · rcases ih hordered (fun r' hr' => ⟨hbehind r' hr', (hbounds r' (.tail _ hr')).2⟩) hrest with
          hmarker | ⟨k, hk, houtside⟩
        · exact .inl hmarker
        · rw [List.getElem?_drop] at hk
          refine .inr ⟨r.last - n + k, hk, ?_⟩
          have hpos : n + (r.last - n + k) = r.last + k := by omega
          rw [hpos]
          intro r' hr'
          rcases List.mem_cons.1 hr' with rfl | hr'
          · exact .inr (Nat.le_add_right _ _)
          · exact houtside r' hr'

namespace Draft

def render (marker : List Char) : Draft → List Char
  | run kept => kept
  | cut kept _ rest => kept ++ marker ++ render marker rest

def source : Draft → List Char
  | run kept => kept
  | cut kept removed rest => kept ++ removed ++ source rest

/-- What has been taken out, in a source that stands behind `n` characters. -/
def regions (n : Nat) : Draft → List Region
  | run _ => []
  | cut kept removed rest =>
      ⟨n + kept.length, n + kept.length + removed.length⟩ ::
        regions (n + kept.length + removed.length) rest

/-- What is left, run by run with the number of characters before it. -/
def runs (n : Nat) : Draft → List (Nat × List Char)
  | run kept => [(n, kept)]
  | cut kept removed rest => (n, kept) :: runs (n + kept.length + removed.length) rest

/-- Two drafts with something taken out between them. -/
def append : Draft → List Char → Draft → Draft
  | run kept, removed, rest => cut kept removed rest
  | cut kept taken d, removed, rest => cut kept taken (append d removed rest)

/-- The rest of a text behind a cursor, with the spans taken out. -/
def ofSpans (c : Cursor) : List Span → Draft
  | [] => run c.rest
  | s :: spans => cut (c.rest.take (s.first.pos - c.pos)) s.chars (ofSpans s.last spans)

/-- Takes out all matches in what is left. -/
def pass (p : Pattern) : Draft → Draft
  | run kept => ofSpans (Cursor.start kept) (findAll p kept)
  | cut kept removed rest =>
      (ofSpans (Cursor.start kept) (findAll p kept)).append removed (pass p rest)

/-! ### Drafts put together -/

section Append

variable (d e : Draft) (removed : List Char)

theorem render_append (marker : List Char) :
    (d.append removed e).render marker = d.render marker ++ marker ++ e.render marker := by
  induction d with
  | run kept => rfl
  | cut kept taken d ih => simp only [append, render, ih, List.append_assoc]

theorem source_append : (d.append removed e).source = d.source ++ removed ++ e.source := by
  induction d with
  | run kept => rfl
  | cut kept taken d ih => simp only [append, source, ih, List.append_assoc]

theorem regions_append (n : Nat) :
    (d.append removed e).regions n =
      d.regions n ++ ⟨n + d.source.length, n + d.source.length + removed.length⟩ ::
        e.regions (n + d.source.length + removed.length) := by
  induction d generalizing n with
  | run kept => rfl
  | cut kept taken d ih =>
      simp only [append, regions, ih, source, List.length_append, List.cons_append,
        Nat.add_assoc]

end Append

/-! ### Spans taken out of a text -/

section OfSpans

variable {p : Pattern} {text : List Char}

theorem render_ofSpans (marker : List Char) (c : Cursor) (spans : List Span) :
    (ofSpans c spans).render marker = splice marker c spans := by
  induction spans generalizing c with
  | nil => rfl
  | cons s spans ih => rw [ofSpans, render, splice, ih]

theorem source_ofSpans {c : Cursor} (hc : On text c) {spans : List Span}
    (h : Ordered p text c.pos spans) : (ofSpans c spans).source = c.rest := by
  induction spans generalizing c with
  | nil => rfl
  | cons s spans ih =>
      obtain ⟨hf, hl, -, hle, hlt, hrest⟩ := h
      have hdrop {a b : Cursor} (ha : On text a) (hb : On text b) (hab : a.pos ≤ b.pos) :
          b.rest = a.rest.drop (b.pos - a.pos) := by
        rw [ha.2, hb.2]
        simp only [Cursor.place, List.drop_drop]
        congr 1
        omega
      rw [ofSpans, source, ih hl hrest, hdrop hf hl (Nat.le_of_lt hlt), Span.chars, Span.length,
        List.append_assoc, List.take_append_drop, hdrop hc hf hle, List.take_append_drop]

theorem regions_ofSpans {c : Cursor} (hc : On text c) {spans : List Span}
    (h : Ordered p text c.pos spans) (n : Nat) :
    (ofSpans c spans).regions (n + c.pos) =
      spans.map (fun s => ⟨n + s.first.pos, n + s.last.pos⟩) := by
  induction spans generalizing c with
  | nil => rfl
  | cons s spans ih =>
      obtain ⟨hf, hl, -, hle, hlt, hrest⟩ := h
      have hfle := hf.1
      have hlle := hl.1
      have hkept : (c.rest.take (s.first.pos - c.pos)).length = s.first.pos - c.pos := by
        rw [List.length_take, hc.length_rest]
        omega
      have htaken : s.chars.length = s.last.pos - s.first.pos := by
        rw [Span.chars, Span.length, List.length_take, hf.length_rest]
        omega
      have hfirst : n + c.pos + (s.first.pos - c.pos) = n + s.first.pos := by omega
      have hlast : n + s.first.pos + (s.last.pos - s.first.pos) = n + s.last.pos := by omega
      rw [ofSpans, regions, hkept, htaken, hfirst, hlast, ih hl hrest, List.map_cons]

end OfSpans

/-! ### A pass -/

/-- The pattern cannot match in the marker or reach into it. -/
def Skips (p : Pattern) (marker : List Char) : Prop :=
  ∃ x inner y, marker = x :: (inner ++ [y]) ∧ Divides p x ∧ Divides p y ∧ findAll p inner = []

section Pass

variable {p : Pattern}

theorem Skips.searchable {marker : List Char} (h : Skips p marker) : Searchable p := by
  obtain ⟨_, _, _, _, hx, _, _⟩ := h
  exact hx.searchable

/-- A pass does to the draft what the replacement does to the text it stands for. -/
theorem render_pass {marker : List Char} (h : Skips p marker) (d : Draft) :
    (pass p d).render marker = replaceAll p marker (d.render marker) := by
  induction d with
  | run kept => exact render_ofSpans marker _ _
  | cut kept removed d ih =>
      obtain ⟨x, inner, y, hmarker, hx, hy, hinner⟩ := h
      have hbetween (after : List Char) : marker ++ after = x :: (inner ++ y :: after) := by
        rw [hmarker, List.cons_append, List.append_assoc, List.singleton_append]
      rw [pass, render_append, render_ofSpans, ih, render, List.append_assoc, List.append_assoc,
        hbetween, hbetween, replaceAll_append marker hx, replaceAll_append marker hy,
        replaceAll_of_nil marker hinner]
      rfl

theorem source_pass (hp : Searchable p) (d : Draft) : (pass p d).source = d.source := by
  have hrun (kept : List Char) :
      (ofSpans (Cursor.start kept) (findAll p kept)).source = kept :=
    source_ofSpans (Cursor.on_start kept) (ordered_findAll hp kept)
  induction d with
  | run kept => exact hrun kept
  | cut kept removed d ih => rw [pass, source_append, hrun, ih, source]

/-- What has been taken out stays so, and the matches in what was left are added. -/
theorem mem_regions_pass (hp : Searchable p) {d : Draft} {n : Nat} {r : Region} :
    r ∈ (pass p d).regions n ↔ r ∈ d.regions n ∨
      ∃ run ∈ d.runs n, ∃ s ∈ findAll p run.2, r = ⟨run.1 + s.first.pos, run.1 + s.last.pos⟩ := by
  have hrun (kept : List Char) (n : Nat) :
      (ofSpans (Cursor.start kept) (findAll p kept)).regions n =
        (findAll p kept).map (fun s => ⟨n + s.first.pos, n + s.last.pos⟩) :=
    regions_ofSpans (Cursor.on_start kept) (ordered_findAll hp kept) n
  have hlength (kept : List Char) :
      (ofSpans (Cursor.start kept) (findAll p kept)).source = kept :=
    source_ofSpans (Cursor.on_start kept) (ordered_findAll hp kept)
  induction d generalizing n with
  | run kept =>
      rw [pass, hrun, List.mem_map, regions, runs]
      simp [eq_comm]
  | cut kept removed d ih =>
      have hrest := @ih (n + kept.length + removed.length)
      rw [pass, regions_append, hrun, hlength, List.mem_append, List.mem_cons, regions, runs,
        List.exists_mem_cons_iff, List.mem_map, List.mem_cons]
      simp only [hrest, eq_comm (a := r)]
      constructor
      · rintro (hnew | hold | hrest | hrest)
        · exact .inr (.inl hnew)
        · exact .inl (.inl hold)
        · exact .inl (.inr hrest)
        · exact .inr (.inr hrest)
      · rintro ((hold | hrest) | (hnew | hrest))
        · exact .inr (.inl hold)
        · exact .inr (.inr (.inl hrest))
        · exact .inl hnew
        · exact .inr (.inr (.inr hrest))

end Pass

/-! ### Where things are -/

section Places

variable {d : Draft} {n : Nat}

theorem source_of_mem_runs {run : Nat × List Char} (h : run ∈ d.runs n) :
    ∃ front after, d.source = front ++ run.2 ++ after ∧ run.1 = n + front.length := by
  induction d generalizing n with
  | run kept =>
      rw [runs, List.mem_singleton] at h
      exact ⟨[], [], by rw [h, source]; simp, by rw [h]; rfl⟩
  | cut kept removed d ih =>
      rw [runs, List.mem_cons] at h
      rcases h with rfl | h
      · exact ⟨[], removed ++ d.source, by simp [source], rfl⟩
      · obtain ⟨front, after, hsource, hn⟩ := ih h
        refine ⟨kept ++ removed ++ front, after, by simp [source, hsource], ?_⟩
        rw [hn, List.length_append, List.length_append]
        omega

theorem bounds_of_mem_runs {run : Nat × List Char} (h : run ∈ d.runs n) :
    (run.1 = n ∨ ∃ r ∈ d.regions n, r.last = run.1) ∧
      (run.1 + run.2.length = n + d.source.length ∨
        ∃ r ∈ d.regions n, r.first = run.1 + run.2.length) := by
  induction d generalizing n with
  | run kept =>
      rw [runs, List.mem_singleton] at h
      rw [h]
      exact ⟨.inl rfl, .inl rfl⟩
  | cut kept removed d ih =>
      rw [runs, List.mem_cons] at h
      rw [regions]
      rcases h with rfl | h
      · exact ⟨.inl rfl, .inr ⟨_, List.mem_cons_self, rfl⟩⟩
      · obtain ⟨hfirst, hlast⟩ := ih h
        refine ⟨.inr ?_, ?_⟩
        · rcases hfirst with hfirst | ⟨r, hr, hrun⟩
          · exact ⟨_, List.mem_cons_self, hfirst.symm⟩
          · exact ⟨r, List.mem_cons_of_mem _ hr, hrun⟩
        · rcases hlast with hlast | ⟨r, hr, hrun⟩
          · refine .inl ?_
            rw [hlast, source, List.length_append, List.length_append]
            omega
          · exact .inr ⟨r, List.mem_cons_of_mem _ hr, hrun⟩

theorem exists_run {first last : Nat} (hn : n ≤ first) (hl : last ≤ n + d.source.length)
    (h : ∀ r ∈ d.regions n, ¬ r.Touches first last) :
    ∃ run ∈ d.runs n, run.1 ≤ first ∧ last ≤ run.1 + run.2.length := by
  induction d generalizing n with
  | run kept => exact ⟨(n, kept), List.mem_singleton_self _, hn, hl⟩
  | cut kept removed d ih =>
      have hcut := h _ List.mem_cons_self
      rw [Region.Touches, not_and_or, Nat.not_lt, Nat.not_lt] at hcut
      rcases hcut with hbefore | hbehind
      · exact ⟨(n, kept), List.mem_cons_self, hn, hbefore⟩
      · simp only [source, List.length_append] at hl
        dsimp only at hbehind
        obtain ⟨run, hrun, hin⟩ := ih hbehind (by omega)
          (fun r hr => h r (List.mem_cons_of_mem _ hr))
        exact ⟨run, List.mem_cons_of_mem _ hrun, hin⟩

theorem first_le_last_of_mem {r : Region} (h : r ∈ d.regions n) :
    n ≤ r.first ∧ r.first ≤ r.last ∧ r.last ≤ n + d.source.length := by
  induction d generalizing n with
  | run kept => cases h
  | cut kept removed d ih =>
      simp only [source, List.length_append]
      rcases List.mem_cons.1 h with rfl | h
      · dsimp only
        omega
      · obtain ⟨hn, hle, hlast⟩ := ih h
        omega

theorem regions_pairwise (d : Draft) (n : Nat) :
    (d.regions n).Pairwise (fun a b => a.last ≤ b.first) := by
  induction d generalizing n with
  | run kept => exact List.Pairwise.nil
  | cut kept removed d ih =>
      refine List.pairwise_cons.2 ⟨?_, ih _⟩
      intro r hr
      exact (first_le_last_of_mem hr).1

theorem replaced_regions (marker : List Char) (d : Draft) (n : Nat) :
    replaced marker n d.source (d.regions n) = d.render marker := by
  induction d generalizing n with
  | run kept => rfl
  | cut kept removed d ih =>
      have hkept : n + kept.length - n = kept.length := by omega
      have hcut : n + kept.length + removed.length - n = (kept ++ removed).length := by
        rw [List.length_append]
        omega
      rw [source, regions, replaced, hkept, hcut, List.drop_left, ih, render,
        List.append_assoc kept removed, List.take_left]

end Places

end Draft

end LossPrevention.Pattern
