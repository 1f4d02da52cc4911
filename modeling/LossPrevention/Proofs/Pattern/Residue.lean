import LossPrevention.Proofs.Pattern.Removal

/-!
What passes leave of a text. Every run that is left was once part of a longer one in which the
pattern of a pass looked for its matches, so it can hold a match only where the longer one showed
something else around it: at an end, where a cut has gone through a word.
-/

namespace LossPrevention

open Cursor (On place)

namespace Pattern

/-! ### From a part to the whole text -/

section Lifted

variable {front after : List Char}

/-- A pattern without demands matches in the text what it matches in a part of it. -/
theorem Spans.within {p : Pattern} (hp : p.Every (fun _ => True) (fun _ => False))
    {c d : Cursor} (h : Spans p c d) : Spans p (c.within front after) (d.within front after) := by
  induction h with
  | empty c => exact .empty _
  | look h => exact hp.elim
  | done c => exact .done _
  | @set s c x rest hr hx =>
      have hrest : (c.within front after).rest = x :: (rest ++ after) := by
        rw [Cursor.within, hr, List.cons_append]
      have hpos : c.pos + 1 + front.length = c.pos + front.length + 1 := by omega
      have hspan := Spans.set hrest hx
      simp only [Cursor.within, Option.some_or, hpos] at hspan ⊢
      exact hspan
  | seq _ _ ihp ihq => exact .seq (ihp hp.1) (ihq hp.2)
  | altLeft _ ih => exact .altLeft (ih hp.1)
  | altRight _ ih => exact .altRight (ih hp.2)
  | once hm _ _ ihp ihq => exact .once hm (ihp hp) (ihq hp)
  | group _ ih => exact .group (ih hp)

/-- An edge of a part is one of the text, unless the text goes on with the word beyond it. -/
theorem atEdge_within {c : Cursor} (h : c.AtEdge) (hinside : ¬ (c.within front after).Inside) :
    (c.within front after).AtEdge := by
  have hbefore (hword : Look.inWord false c.before = true) :
      Look.inWord false (c.within front after).before = true := by
    cases hb : c.before with
    | none =>
        rw [hb] at hword
        cases hword
    | some x =>
        rw [Cursor.within, hb, Option.some_or, ← hb]
        exact hword
  have hnext (hword : Look.inWord false c.next? = true) :
      Look.inWord false (c.within front after).next? = true := by
    rw [Cursor.next?] at hword
    cases hr : c.rest with
    | nil =>
        rw [hr] at hword
        cases hword
    | cons x rest =>
        rw [hr] at hword
        rw [Cursor.next?, Cursor.within, hr]
        exact hword
  rw [Cursor.Inside] at hinside
  rw [Cursor.AtEdge, Look.holds] at h ⊢
  cases hword : Look.inWord false c.before <;> cases hword' : Look.inWord false c.next? <;>
    simp_all

/-- What matches in a part of a text matches in the text, as long as the match does not begin or
end within a word of the text. -/
def Lifted (p : Pattern) : Prop :=
  ∀ (front after : List Char) (c d : Cursor), Spans p c d → ¬ (c.within front after).Inside →
    ¬ (d.within front after).Inside → Spans p (c.within front after) (d.within front after)

variable {body : List Pattern}

theorem lifted_upToEdge (hbody : (Pattern.all body).Every (fun _ => True) (fun _ => False)) :
    Lifted (upToEdge body) := by
  intro front after c d h _ hd
  obtain ⟨hspan, hedge⟩ := spans_upToEdge_iff.1 h
  exact spans_upToEdge_iff.2 ⟨hspan.within hbody, atEdge_within hedge hd⟩

theorem lifted_edged (hbody : (Pattern.all body).Every (fun _ => True) (fun _ => False)) :
    Lifted (edged body) := by
  intro front after c d h hc hd
  obtain ⟨hedge, hspan, hedge'⟩ := spans_edged_iff.1 h
  exact spans_edged_iff.2 ⟨atEdge_within hedge hc, hspan.within hbody, atEdge_within hedge' hd⟩

end Lifted

namespace Draft

/-! ### Runs -/

section Runs

variable {d : Draft} {n : Nat} {run : Nat × List Char}

theorem runs_append (d e : Draft) (removed : List Char) (n : Nat) :
    (d.append removed e).runs n = d.runs n ++ e.runs (n + d.source.length + removed.length) := by
  induction d generalizing n with
  | run kept => rfl
  | cut kept taken d ih =>
      simp only [append, runs, ih, source, List.length_append, List.cons_append, Nat.add_assoc]

theorem runs_add (d : Draft) (m n : Nat) :
    d.runs (m + n) = (d.runs n).map (fun run => (m + run.1, run.2)) := by
  induction d generalizing n with
  | run kept => rfl
  | cut kept removed d ih => rw [runs, runs, List.map_cons, ← ih]; simp only [Nat.add_assoc]

theorem runs_of_regions_eq_nil (h : d.regions n = []) : d.runs n = [(n, d.source)] := by
  cases d with
  | run kept => rfl
  | cut kept removed rest => cases h

/-- A run and what was taken out are apart. -/
theorem apart_of_mem_runs (hrun : run ∈ d.runs n) {r : Region} (hr : r ∈ d.regions n) :
    r.last ≤ run.1 ∨ run.1 + run.2.length ≤ r.first := by
  induction d generalizing n with
  | run kept => cases hr
  | cut kept removed d ih =>
      rcases List.mem_cons.1 hrun with rfl | hrun <;> rcases List.mem_cons.1 hr with rfl | hr
      · exact .inr (Nat.le_refl _)
      · have hle := (first_le_last_of_mem hr).1
        refine .inr ?_
        dsimp only
        omega
      · obtain ⟨front, _, _, hstart⟩ := source_of_mem_runs hrun
        refine .inl ?_
        dsimp only
        omega
      · exact ih hrun hr

theorem mem_runs_pass {p : Pattern} (hp : Searchable p) :
    run ∈ (pass p d).runs n ↔ ∃ run' ∈ d.runs n, run ∈ (pass p (.run run'.2)).runs run'.1 := by
  have hlength (kept : List Char) : (pass p (.run kept)).source = kept := source_pass hp _
  induction d generalizing n with
  | run kept => simp [runs]
  | cut kept removed d ih =>
      have hpass : pass p (.cut kept removed d) =
          (pass p (.run kept)).append removed (pass p d) := rfl
      have hrest := @ih (n + kept.length + removed.length)
      rw [hpass, runs_append, hlength, List.mem_append, runs, List.exists_mem_cons_iff]
      exact or_congr_right hrest

theorem mem_runs_passAll {ps : List Pattern} (hps : ∀ p ∈ ps, Searchable p) :
    run ∈ (passAll ps d).runs n ↔
      ∃ run' ∈ d.runs n, run ∈ (passAll ps (.run run'.2)).runs run'.1 := by
  induction ps generalizing d n with
  | nil => simp [passAll, runs]
  | cons p ps ih =>
      have hp := hps p List.mem_cons_self
      have hrest {d : Draft} {n : Nat} := @ih d n (fun q hq => hps q (List.mem_cons_of_mem _ hq))
      have hcons (d : Draft) : passAll (p :: ps) d = passAll ps (pass p d) := rfl
      simp only [hcons]
      rw [hrest]
      constructor
      · rintro ⟨mid, hmid, hrun⟩
        obtain ⟨run', hrun', hmid⟩ := (mem_runs_pass hp).1 hmid
        exact ⟨run', hrun', hrest.2 ⟨mid, hmid, hrun⟩⟩
      · rintro ⟨run', hrun', hrun⟩
        obtain ⟨mid, hmid, hrun⟩ := hrest.1 hrun
        exact ⟨mid, (mem_runs_pass hp).2 ⟨run', hrun', hmid⟩, hrun⟩

/-- A run after passes is part of a run before them. -/
theorem exists_run_of_mem_passAll {ps : List Pattern} (hps : ∀ p ∈ ps, Searchable p)
    (h : run ∈ (passAll ps d).runs n) :
    ∃ run' ∈ d.runs n, ∃ front after,
      run'.2 = front ++ run.2 ++ after ∧ run.1 = run'.1 + front.length := by
  obtain ⟨run', hrun', hrun⟩ := (mem_runs_passAll hps).1 h
  obtain ⟨front, after, htext, hstart⟩ := source_of_mem_runs hrun
  rw [source_passAll hps] at htext
  exact ⟨run', hrun', front, after, htext, hstart⟩

/-- A search of the text with the markers in it is a search of the runs. -/
theorem findAll_render_eq_nil_iff {p : Pattern} {marker : List Char} (h : Skips p marker)
    (d : Draft) (n : Nat) :
    findAll p (d.render marker) = [] ↔ ∀ run ∈ d.runs n, findAll p run.2 = [] := by
  induction d generalizing n with
  | run kept => simp [render, runs]
  | cut kept removed d ih =>
      obtain ⟨x, inner, y, hmarker, hx, hy, hinner⟩ := h
      have hbetween : (Draft.cut kept removed d).render marker =
          kept ++ x :: (inner ++ y :: d.render marker) := by
        simp [render, hmarker]
      rw [hbetween, findAll_append hx, findAll_append hy, hinner, runs, List.forall_mem_cons,
        ← ih]
      simp

end Runs

/-! ### Matches in what is left -/

section Left

variable {content : List Char} {p : Pattern} {before after : List Pattern}
  {run : Nat × List Char}

/-- Every run that is left lies in a part of the text that the pattern has searched, and no match
of that part begins in the run. -/
theorem exists_part (hps : ∀ q ∈ before ++ p :: after, Searchable q)
    (hrun : run ∈ (passAll (before ++ p :: after) (.run content)).runs 0) :
    ∃ front front' after' after'',
      content = front ++ (front' ++ run.2 ++ after') ++ after'' ∧
      run.1 = front.length + front'.length ∧
      ∀ c d : Cursor, On run.2 c → c.pos < run.2.length →
        ¬ Spans p (c.within front' after') (d.within front' after') := by
  have hp : Searchable p := hps p (List.mem_append_right _ List.mem_cons_self)
  have hbefore : ∀ q ∈ before, Searchable q := fun q hq => hps q (List.mem_append_left _ hq)
  have hbehind : ∀ q ∈ p :: after, Searchable q := fun q hq => hps q (List.mem_append_right _ hq)
  have hafter : ∀ q ∈ after, Searchable q := fun q hq => hbehind q (List.mem_cons_of_mem _ hq)
  have hsource := source_passAll hbefore (.run content)
  rw [passAll_append] at hrun
  obtain ⟨part, hpart, front', after', htext, hstart⟩ := exists_run_of_mem_passAll hbehind hrun
  obtain ⟨front, after'', hcontent, hstart'⟩ := source_of_mem_runs hpart
  rw [hsource, source, htext] at hcontent
  rw [Nat.zero_add] at hstart'
  refine ⟨front, front', after', after'', hcontent, by rw [hstart, hstart'], ?_⟩
  intro c d hc hlt hspan
  have hon : On part.2 (c.within front' after') := htext ▸ Cursor.on_within hc front' after'
  obtain ⟨t, ht, hle, hover⟩ := exists_match_over hp (Cursor.on_start part.2) hon (Nat.zero_le _)
    hspan
  rw [← findAll_eq hp] at ht
  have hregion : ⟨part.1 + t.first.pos, part.1 + t.last.pos⟩ ∈
      (passAll (p :: after) (passAll before (.run content))).regions 0 :=
    mem_regions_passAll hafter ((mem_regions_pass hp).2 (.inr ⟨part, hpart, t, ht, rfl⟩))
  rcases apart_of_mem_runs hrun hregion with hbelow | habove
  · simp only [Cursor.within] at hle hover hbelow
    omega
  · simp only [Cursor.within] at hle hover habove
    omega

theorem findAll_eq_nil_of_no_demand (hps : ∀ q ∈ before ++ p :: after, Searchable q)
    (hp : p.Every (fun _ => True) (fun _ => False))
    (hrun : run ∈ (passAll (before ++ p :: after) (.run content)).runs 0) :
    findAll p run.2 = [] := by
  obtain ⟨_, front', after', _, _, _, hnone⟩ := exists_part hps hrun
  refine List.eq_nil_iff_forall_not_mem.2 fun s hs => ?_
  obtain ⟨hfirst, hlast, hspan, hlt⟩ :=
    spans_of_mem_findAll (hps p (List.mem_append_right _ List.mem_cons_self)) hs
  exact hnone s.first s.last hfirst (Nat.lt_of_lt_of_le hlt hlast.1) (hspan.within hp)

/-- What lies inside in a part of a part of the text lies inside in the text. -/
theorem place_inside {front front' part after' after'' : List Char}
    (hcontent : content = front ++ (front' ++ part ++ after') ++ after'') {c : Cursor}
    (hc : On part c) (hin : (c.within front' after').Inside) :
    (c.within (front ++ front') (after' ++ after'')).Inside ∧
      place content (front.length + front'.length + c.pos) =
        c.within (front ++ front') (after' ++ after'') := by
  have hparts : content = (front ++ front') ++ part ++ (after' ++ after'') := by
    rw [hcontent]
    simp only [List.append_assoc]
  have hwide := hin.within front after''
  have hon := Cursor.on_within hc (front ++ front') (after' ++ after'')
  have hpos : (c.within (front ++ front') (after' ++ after'')).pos =
      front.length + front'.length + c.pos := by
    simp only [Cursor.within, List.length_append]
    omega
  rw [← hparts] at hon
  have hplace := hon.2
  rw [hpos] at hplace
  refine ⟨?_, hplace.symm⟩
  simpa only [Cursor.within, List.length_append, List.getLast?_append, Option.or_assoc,
    List.append_assoc, Cursor.Inside, Cursor.next?] using hwide

/-- A match in what is left stands at an end of it where a word of the text was cut in two. -/
theorem at_cut_of_mem_findAll (hps : ∀ q ∈ before ++ p :: after, Searchable q)
    (hlifted : Lifted p) (hguarded : Guarded p)
    (hrun : run ∈ (passAll (before ++ p :: after) (.run content)).runs 0) {s : Span}
    (hs : s ∈ findAll p run.2) :
    s.first.pos = 0 ∧ (place content run.1).Inside ∨
      s.last.pos = run.2.length ∧ (place content (run.1 + run.2.length)).Inside := by
  obtain ⟨front, front', after', after'', hcontent, hstart, hnone⟩ := exists_part hps hrun
  obtain ⟨hfirst, hlast, hspan, hlt⟩ :=
    spans_of_mem_findAll (hps p (List.mem_append_right _ List.mem_cons_self)) hs
  obtain ⟨hinFirst, hinLast⟩ := hguarded _ _ hspan
  have hend := hlast.1
  -- Where the pattern has found no edge in the part it searched, the place is inside in the text.
  by_cases hf : (s.first.within front' after').Inside
  · obtain ⟨hwide, hplace⟩ := place_inside hcontent hfirst hf
    have hzero : s.first.pos = 0 := by
      by_contra hpos
      exact hinFirst ((inside_within_iff hfirst (Nat.pos_of_ne_zero hpos) (by omega)).1 hwide)
    rw [← hstart, hzero, Nat.add_zero] at hplace
    exact .inl ⟨hzero, hplace ▸ hwide⟩
  · by_cases hl : (s.last.within front' after').Inside
    · obtain ⟨hwide, hplace⟩ := place_inside hcontent hlast hl
      have hfull : s.last.pos = run.2.length := by
        by_contra hpos
        exact hinLast ((inside_within_iff hlast (by omega) (by omega)).1 hwide)
      rw [← hstart, hfull] at hplace
      exact .inr ⟨hfull, hplace ▸ hwide⟩
    · exact absurd (hlifted front' after' _ _ hspan hf hl)
        (hnone s.first s.last hfirst (by omega))

/-- As long as no word is cut from the pass of the pattern on, none of its matches is left. -/
theorem findAll_eq_nil_of_guarded (hps : ∀ q ∈ before ++ p :: after, Searchable q)
    (hlifted : Lifted p) (hguarded : ∀ q ∈ p :: after, Guarded q)
    (hrun : run ∈ (passAll (before ++ p :: after) (.run content)).runs 0) :
    findAll p run.2 = [] := by
  have hbehind : ∀ q ∈ p :: after, Searchable q := fun q hq => hps q (List.mem_append_right _ hq)
  rw [passAll_append] at hrun
  obtain ⟨part, -, hrun⟩ := (mem_runs_passAll hbehind).1 hrun
  rw [← Nat.add_zero part.1, runs_add] at hrun
  obtain ⟨inner, hinner, rfl⟩ := List.mem_map.1 hrun
  obtain ⟨hfirst, hlast⟩ := (clean_passAll hbehind hguarded rfl (clean_run part.2)).runs
    (source_passAll hbehind _) hinner
  refine List.eq_nil_iff_forall_not_mem.2 fun s hs => ?_
  have hpasses : ∀ q ∈ [] ++ p :: after, Searchable q := hbehind
  have hcut := at_cut_of_mem_findAll hpasses hlifted (hguarded p List.mem_cons_self) hinner hs
  rcases hcut with ⟨-, hcut⟩ | ⟨-, hcut⟩
  · exact hfirst hcut
  · exact hlast hcut

end Left

/-- A pattern that asks nothing and finds nothing in the text does not cut it either. -/
theorem clean_passAll_of_nil {content : List Char} {ps : List Pattern}
    (hps : ∀ p ∈ ps, Searchable p)
    (h : ∀ p ∈ ps, Guarded p ∨
      p.Every (fun _ => True) (fun _ => False) ∧ findAll p content = [])
    {d : Draft} (hsource : d.source = content) (hclean : Clean content d) :
    Clean content (passAll ps d) := by
  induction ps generalizing d with
  | nil => exact hclean
  | cons p ps ih =>
      have hp := hps p List.mem_cons_self
      refine ih (fun q hq => hps q (List.mem_cons_of_mem _ hq))
        (fun q hq => h q (List.mem_cons_of_mem _ hq)) ((source_pass hp d).trans hsource) ?_
      rcases h p List.mem_cons_self with hguarded | ⟨hdemand, hnil⟩
      · exact hclean.pass hsource hp hguarded
      · intro r hr
        rcases (mem_regions_pass hp).1 hr with hr | ⟨run, hrun, s, hs, -⟩
        · exact hclean r hr
        · obtain ⟨front, after, hcontent, -⟩ := source_of_mem_runs hrun
          obtain ⟨hfirst, -, hspan, -⟩ := spans_of_mem_findAll hp hs
          have hon := Cursor.on_within hfirst front after
          rw [← hcontent, hsource] at hon
          obtain ⟨t, ht, -, -⟩ := exists_match_over hp (Cursor.on_start content) hon
            (Nat.zero_le _) (hspan.within hdemand)
          rw [← findAll_eq hp, hnil] at ht
          cases ht

end Draft

end Pattern

end LossPrevention
