import LossPrevention.Proofs.Pattern.Takes
import LossPrevention.Proofs.Text.Digits

/-!
Matches that are whole words. A pattern between two edges that takes word characters only finds
the maximal runs of word characters that it takes, and nothing else: inside of a run there is no
edge, and at a character between runs the search falls apart.
-/

namespace LossPrevention.Pattern

open Cursor (On AtEdge WordAt)
open Text (CharSet)

/-- The maximal runs of word characters. Between two other characters there is an empty one. -/
def wordRuns (text : List Char) : List (List Char) := text.splitOnP (fun c => !Text.isWord c)

section Runs

variable {cs rest : List Char} {x : Char}

theorem wordRuns_word (h : ∀ c ∈ cs, Text.isWord c = true) : wordRuns cs = [cs] :=
  List.splitOnP_eq_singleton fun c hc => by rw [h c hc, Bool.not_true]

theorem wordRuns_append (h : ∀ c ∈ cs, Text.isWord c = true) (hx : Text.isWord x = false) :
    wordRuns (cs ++ x :: rest) = cs :: wordRuns rest :=
  List.splitOnP_append_cons_of_forall_mem (fun c hc => by rw [h c hc, Bool.not_true]) x
    (by rw [hx, Bool.not_false]) rest

theorem word_or_exists_run (text : List Char) :
    (∀ c ∈ text, Text.isWord c = true) ∨ ∃ cs x rest, text = cs ++ x :: rest ∧
      (∀ c ∈ cs, Text.isWord c = true) ∧ Text.isWord x = false := by
  induction text with
  | nil => exact .inl nofun
  | cons y text ih =>
      cases hy : Text.isWord y with
      | false => exact .inr ⟨[], y, text, rfl, nofun, hy⟩
      | true =>
          rcases ih with hall | ⟨cs, x, rest, rfl, hcs, hx⟩
          · exact .inl (List.forall_mem_cons.2 ⟨hy, hall⟩)
          · exact .inr ⟨y :: cs, x, rest, rfl, List.forall_mem_cons.2 ⟨hy, hcs⟩, hx⟩

/-- From one run to the next. -/
theorem wordRuns_induct {motive : List Char → Prop}
    (word : ∀ cs, (∀ c ∈ cs, Text.isWord c = true) → motive cs)
    (more : ∀ cs x rest, (∀ c ∈ cs, Text.isWord c = true) → Text.isWord x = false →
      motive rest → motive (cs ++ x :: rest))
    (text : List Char) : motive text := by
  induction hn : text.length using Nat.strongRecOn generalizing text with
  | ind n ih =>
      rcases word_or_exists_run text with hall | ⟨cs, x, rest, rfl, hcs, hx⟩
      · exact word text hall
      · rw [List.length_append, List.length_cons] at hn
        exact more cs x rest hcs hx (ih rest.length (by omega) rest rfl)

/-- The word stands in the text with no character of a word beside it. -/
def StandsIn (run text : List Char) : Prop :=
  ∃ front back, text = front ++ (run ++ back) ∧
    (∀ c ∈ front.getLast?, Text.isWord c = false) ∧ ∀ c ∈ back.head?, Text.isWord c = false

theorem standsIn_word_iff {run : List Char} (h : ∀ c ∈ cs, Text.isWord c = true) :
    StandsIn run cs ↔ run = cs := by
  have hword {c : Char} (hc : c ∈ cs) (hc' : Text.isWord c = false) : False := by
    rw [h c hc] at hc'
    cases hc'
  constructor
  · rintro ⟨front, back, rfl, hfront, hback⟩
    have hfront' : front = [] := by
      rw [← List.getLast?_eq_none_iff, Option.eq_none_iff_forall_not_mem]
      exact fun c hc => hword (List.mem_append_left _ (List.mem_of_getLast? hc)) (hfront c hc)
    have hback' : back = [] := by
      rw [← List.head?_eq_none_iff, Option.eq_none_iff_forall_not_mem]
      exact fun c hc => hword (List.mem_append_right _ (List.mem_append_right _
        (List.mem_of_head? hc))) (hback c hc)
    rw [hfront', hback', List.nil_append, List.append_nil]
  · rintro rfl
    exact ⟨[], [], by simp, nofun, nofun⟩

theorem standsIn_append_iff {run : List Char} (hrun : ∀ c ∈ run, Text.isWord c = true)
    (hcs : ∀ c ∈ cs, Text.isWord c = true) (hx : Text.isWord x = false) :
    StandsIn run (cs ++ x :: rest) ↔ run = cs ∨ StandsIn run rest := by
  have hnext : ∀ c ∈ (x :: rest).head?, Text.isWord c = false := by
    rintro _ ⟨⟩
    exact hx
  constructor
  · rintro ⟨front, back, heq, hfront, hback⟩
    rcases List.eq_nil_or_concat front with rfl | ⟨init, y, rfl⟩
    · left
      rw [← Text.takeWhile_append_of_head hrun hback, ← List.nil_append (run ++ back), ← heq,
        Text.takeWhile_append_of_head hcs hnext]
    · right
      have hy : Text.isWord y = false := hfront y (by simp)
      rw [List.concat_eq_append, List.append_assoc, List.singleton_append] at heq
      rcases List.append_eq_append_iff.1 heq with ⟨more, rfl, hrest⟩ | ⟨more, rfl, hrest⟩
      · cases more with
        | nil => exact ⟨[], back, (List.cons.inj hrest).2, nofun, hback⟩
        | cons _ more =>
            refine ⟨more ++ [y], back, ?_, by simpa using hy, hback⟩
            rw [(List.cons.inj hrest).2, List.append_assoc]
            rfl
      · cases more with
        | nil => exact ⟨[], back, (List.cons.inj hrest).2.symm, nofun, hback⟩
        | cons _ more =>
            -- The character in front of the run would be one of the first word.
            have hword := hcs y (by rw [(List.cons.inj hrest).1]; simp)
            rw [hy] at hword
            cases hword
  · rintro (rfl | ⟨front, back, rfl, hfront, hback⟩)
    · exact ⟨[], x :: rest, rfl, nofun, hnext⟩
    · refine ⟨cs ++ x :: front, back, by simp, ?_, hback⟩
      intro c hc
      rw [List.getLast?_append, List.getLast?_cons, Option.some_or, Option.mem_some_iff] at hc
      cases hlast : front.getLast? with
      | none =>
          rw [hlast, Option.getD_none] at hc
          exact hc ▸ hx
      | some d =>
          rw [hlast, Option.getD_some] at hc
          exact hc ▸ hfront d hlast

/-- The runs are maximal, and none is missed. -/
theorem mem_wordRuns_iff {text run : List Char} (hrun : ∀ c ∈ run, Text.isWord c = true) :
    run ∈ wordRuns text ↔ StandsIn run text := by
  induction text using wordRuns_induct with
  | word cs hcs => rw [wordRuns_word hcs, List.mem_singleton, standsIn_word_iff hcs]
  | more cs x rest hcs hx ih =>
      rw [wordRuns_append hcs hx, List.mem_cons, ih, standsIn_append_iff hrun hcs hx]

end Runs

theorem every_all_iff {P : CharSet → Prop} {Q : Look → Prop} {ps : List Pattern} :
    (Pattern.all ps).Every P Q ↔ ∀ p ∈ ps, p.Every P Q := by
  induction ps with
  | nil => exact iff_of_true trivial nofun
  | cons p ps ih =>
      rw [List.forall_mem_cons, ← ih]
      exact Iff.rfl

/-- Word characters, and at least one of them, between two edges. -/
structure WholeWord (body : List Pattern) : Prop where
  searchable : Searchable (edged body)
  takes : 0 < minLength (Pattern.all body)
  words : (Pattern.all body).Every (fun s => s.inWords = true) (fun _ => False)

namespace WholeWord

variable {body : List Pattern} (h : WholeWord body)

include h

theorem divides {x : Char} (hx : Text.isWord x = false) : Divides (edged body) x where
  searchable := h.searchable
  every := by
    have hbody := every_all_iff.1 h.words
    refine every_all_iff.2 fun p hp => ?_
    rcases List.mem_cons.1 hp with rfl | hp
    · exact ⟨rfl, hx⟩
    rcases List.mem_append.1 hp with hp | hp
    · refine (hbody p hp).imp (fun s hs => ?_) fun _ hl => hl.elim
      rw [← Bool.not_eq_true]
      intro hmem
      rw [CharSet.isWord_of_inWords hs hmem] at hx
      cases hx
    · rw [List.mem_singleton.1 hp]
      exact ⟨rfl, hx⟩

theorem no_demand : (Pattern.all body).Every (fun _ => True) (fun _ => False) :=
  h.words.imp (fun _ _ => trivial) fun _ hl => hl

section Word

variable {cs : List Char} (hcs : ∀ c ∈ cs, Text.isWord c = true)

omit h in
include hcs in
theorem wordAt_of_lt {n : Nat} (hn : n < cs.length) : WordAt cs n :=
  ⟨cs[n], List.getElem?_eq_getElem hn, hcs _ (List.getElem_mem hn)⟩

omit h in
include hcs in
/-- A word has no edges but its ends. -/
theorem end_of_atEdge {c : Cursor} (hc : On cs c) (hedge : c.AtEdge) :
    c.pos = 0 ∨ c.pos = cs.length := by
  by_contra hinside
  obtain ⟨n, hn⟩ := Nat.exists_eq_succ_of_ne_zero (not_or.1 hinside).1
  have hlt : n + 1 < cs.length := by
    have hle := hc.1
    omega
  have hplace := (wordAt_of_lt hcs (Nat.lt_of_succ_lt hlt)).inside (wordAt_of_lt hcs hlt)
  refine hedge.not_inside ?_
  rw [hc.2, hn]
  exact hplace

omit h in
include hcs in
theorem atEdge_of_end (hne : cs ≠ []) :
    (Cursor.start cs).AtEdge ∧ (Cursor.last cs).AtEdge := by
  obtain ⟨c, rest, rfl⟩ := List.exists_cons_of_ne_nil hne
  have hfirst := hcs c List.mem_cons_self
  have hlast := hcs _ (List.getLast_mem hne)
  constructor
  · simp [AtEdge, Cursor.start, Cursor.next?, Look.holds, Look.inWord, hfirst]
  · have hbefore : (Cursor.last (c :: rest)).before = some ((c :: rest).getLast hne) := by
      rw [Cursor.last, Cursor.place, List.take_length, List.getLast?_eq_some_getLast hne]
    have hnext : (Cursor.last (c :: rest)).next? = none := by
      rw [Cursor.next?, Cursor.rest_last]
      rfl
    simp [AtEdge, hbefore, hnext, Look.holds, Look.inWord, hlast]

include hcs

theorem spans_word_iff :
    Spans (edged body) (Cursor.start cs) (Cursor.last cs) ↔ Takes (Pattern.all body) cs := by
  rw [spans_edged_iff, spans_whole_iff h.no_demand]
  refine ⟨fun hspan => hspan.2.1, fun htakes => ?_⟩
  have hne : cs ≠ [] := by
    rintro rfl
    have hmin := ((spans_whole_iff h.no_demand []).2 htakes).minLength_le
    exact absurd h.takes (Nat.not_lt.2 (Nat.le_trans (Nat.le_add_left _ _) hmin))
  obtain ⟨hfirst, hlast⟩ := atEdge_of_end hcs hne
  exact ⟨hfirst, htakes, hlast⟩

theorem eq_of_mem_findAll {s : Span} (hs : s ∈ findAll (edged body) cs) :
    s = ⟨Cursor.start cs, Cursor.last cs⟩ := by
  obtain ⟨hfirst, hlast, hspan, hlt⟩ := spans_of_mem_findAll h.searchable hs
  obtain ⟨hedge, -, hedge'⟩ := spans_edged_iff.1 hspan
  have hle := hlast.1
  have hpos : s.first.pos = 0 := by
    rcases end_of_atEdge hcs hfirst hedge with hpos | hpos <;> omega
  have hpos' : s.last.pos = cs.length := by
    rcases end_of_atEdge hcs hlast hedge' with hpos' | hpos' <;> omega
  rw [← hfirst.eq_of_pos (Cursor.on_start cs) hpos]
  have hend : On cs (Cursor.last cs) := Cursor.on_place (Nat.le_refl _)
  rw [← hlast.eq_of_pos hend hpos']

/-- In a word the pattern finds the word or nothing. -/
theorem findAll_word {fits : List Char → Bool}
    (hfits : ∀ cs, fits cs = true ↔ Takes (Pattern.all body) cs) :
    findAll (edged body) cs = if fits cs then [⟨Cursor.start cs, Cursor.last cs⟩] else [] := by
  have hall : ∀ s ∈ findAll (edged body) cs, s = ⟨Cursor.start cs, Cursor.last cs⟩ :=
    fun _ hs => h.eq_of_mem_findAll hcs hs
  split
  · rename_i hword
    have hspan := (h.spans_word_iff hcs).2 ((hfits cs).1 hword)
    obtain ⟨s, hs, -, -⟩ := exists_match_over h.searchable (Cursor.on_start cs)
      (Cursor.on_start cs) (Nat.le_refl _) hspan
    rw [← findAll_eq h.searchable] at hs
    have hordered := ordered_findAll h.searchable cs
    match hfound : findAll (edged body) cs with
    | [] =>
        rw [hfound] at hs
        cases hs
    | [t] =>
        rw [hall t (hfound ▸ List.mem_cons_self)]
    | t :: u :: _ =>
        rw [hfound] at hordered
        obtain ⟨-, -, -, -, hlt, -, -, -, hle, -⟩ := hordered
        rw [hall t (hfound ▸ List.mem_cons_self)] at hle hlt
        rw [hall u (hfound ▸ List.mem_cons_of_mem _ List.mem_cons_self)] at hle
        exact absurd hle (Nat.not_le.2 hlt)
  · rename_i hword
    refine List.eq_nil_iff_forall_not_mem.2 fun s hs => hword ?_
    obtain ⟨-, -, hspan, -⟩ := spans_of_mem_findAll h.searchable hs
    rw [hall s hs] at hspan
    exact (hfits cs).2 ((h.spans_word_iff hcs).1 hspan)

end Word

end WholeWord

end LossPrevention.Pattern
