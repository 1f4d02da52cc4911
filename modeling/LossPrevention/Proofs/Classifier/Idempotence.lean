import LossPrevention.Proofs.Classifier.Detection
import LossPrevention.Proofs.Classifier.Redaction
import LossPrevention.Proofs.Pattern.Residue

/-!
What the catalogue still finds in a redacted text. A pattern without edges is never found again. A
match of one of the others stands beside a marker where a word of the text was cut in two, which
only the patterns without edges do; so a redacted text in which no word was cut is clear, and a
second redaction always leaves a clear text.
-/

namespace LossPrevention.Classifier.Catalogue

open Pattern
open Cursor (place)

/-- No pattern of the catalogue finds anything. -/
def Clear (text : List Char) : Prop := ∀ p ∈ passes, findAll p text = []

/-- The parts of the text that stay, each with the number of characters before it. -/
def kept (content : List Char) : List (Nat × List Char) :=
  (Draft.passAll passes (.run content)).runs 0

/-- The end of no region lies within a word. -/
def Uncut (content : List Char) : Prop :=
  ∀ r ∈ removed content, ¬ (place content r.first).Inside ∧ ¬ (place content r.last).Inside

/-! ### Detection -/

section Detection

variable {content : List Char}

theorem clear_iff_findings : Clear content ↔ ∀ label, findings label content = [] := by
  have hall := forall_findings_iff content (fun _ _ => False)
  have hclear : (∀ p ∈ passes, ∀ s ∈ findAll p content, False) ↔ Clear content :=
    forall₂_congr fun _ _ => List.eq_nil_iff_forall_not_mem.symm
  rw [← hclear, ← hall]
  exact forall_congr' fun _ => List.eq_nil_iff_forall_not_mem.symm

theorem clear_iff_detect :
    Clear content ↔ (detect content).counts = [] ∧ (detect content).rejected = [] := by
  rw [clear_iff_findings]
  constructor
  · intro h
    have hadd (labels : List Label) (d : Detection) : labels.foldl (addLabel content) d = d := by
      induction labels with
      | nil => rfl
      | cons label labels ih =>
          have hone : addLabel content d label = d := by simp [addLabel, h label]
          rw [List.foldl_cons, hone, ih]
    rw [detect, hadd]
    exact ⟨rfl, rfl⟩
  · rintro ⟨hcounts, hrejected⟩ label
    have hreported : reported? label content = none := by
      rw [← get?_detect, hcounts]
      rfl
    have hrefused : ¬ Refused label content := by
      rw [← mem_rejected_detect, hrejected]
      exact List.not_mem_nil
    by_contra hne
    rw [reported?, ite_eq_left_iff] at hreported
    exact absurd (hreported (not_or.2 ⟨hne, fun h => hrefused ⟨hne, h⟩⟩)) (Option.some_ne_none _)

end Detection

/-! ### Redaction of a text that stays as it is -/

section Unchanged

variable {text : List Char}

theorem redact_of_clear (mark : List Char) (h : Clear text) : redact mark text = text := by
  have hpasses (ps : List Pattern) (hps : ∀ p ∈ ps, findAll p text = []) :
      ps.foldl (fun text p => p.replaceAll mark text) text = text := by
    induction ps with
    | nil => rfl
    | cons p ps ih =>
        obtain ⟨hp, hps⟩ := List.forall_mem_cons.1 hps
        rw [List.foldl_cons, replaceAll_of_nil mark hp]
        exact ih hps
  exact hpasses passes h

theorem infix_foldl_replaceAll {mark : List Char} (ps : List Pattern) (h : mark <:+: text) :
    mark <:+: ps.foldl (fun text p => p.replaceAll mark text) text := by
  induction ps generalizing text with
  | nil => exact h
  | cons p ps ih =>
      rw [List.foldl_cons]
      refine ih ?_
      by_cases hnil : findAll p text = []
      · rwa [replaceAll_of_nil mark hnil]
      · exact infix_replaceAll mark hnil

/-- Once a pattern has found something, the marker stands in the text for good. -/
theorem infix_redact_of_not_clear (mark : List Char) (h : ¬ Clear text) :
    mark <:+: redact mark text := by
  have hpasses (ps : List Pattern) (hps : ¬ ∀ p ∈ ps, findAll p text = []) :
      mark <:+: ps.foldl (fun text p => p.replaceAll mark text) text := by
    induction ps with
    | nil => exact absurd (List.forall_mem_nil _) hps
    | cons p ps ih =>
        rw [List.foldl_cons]
        by_cases hnil : findAll p text = []
        · rw [replaceAll_of_nil mark hnil]
          exact ih fun hrest => hps (List.forall_mem_cons.2 ⟨hnil, hrest⟩)
        · exact infix_foldl_replaceAll ps (infix_replaceAll mark hnil)
  exact hpasses passes h

theorem redact_ne_self_iff {mark : List Char} (h : ¬ mark <:+: text) :
    redact mark text ≠ text ↔ ¬ Clear text := by
  refine ⟨fun hne hclear => hne (redact_of_clear mark hclear), fun hfound heq => h ?_⟩
  exact heq ▸ infix_redact_of_not_clear mark hfound

theorem clear_of_removed_eq_nil (h : removed text = []) : Clear text := by
  intro p hp
  obtain ⟨before, after, hpasses⟩ := List.append_of_mem hp
  have hsearch : ∀ q ∈ before ++ p :: after, Searchable q := fun q hq =>
    searchable_of_mem (hpasses ▸ hq)
  have hbefore : ∀ q ∈ before, Searchable q := fun q hq => hsearch q (List.mem_append_left _ hq)
  have hbehind : ∀ q ∈ p :: after, Searchable q := fun q hq =>
    hsearch q (List.mem_append_right _ hq)
  have hkeeps {ps : List Pattern} {d : Draft} (hps : ∀ q ∈ ps, Searchable q)
      (hrest : removed text = (Draft.passAll ps d).regions 0) : d.regions 0 = [] :=
    List.eq_nil_iff_forall_not_mem.2 fun r hr =>
      List.not_mem_nil (h ▸ hrest ▸ Draft.mem_regions_passAll hps hr)
  have hdraft : removed text =
      (Draft.passAll (p :: after) (Draft.passAll before (.run text))).regions 0 := by
    rw [removed, hpasses, Draft.passAll_append]
  have hruns := Draft.runs_of_regions_eq_nil (hkeeps hbehind hdraft)
  rw [Draft.source_passAll hbefore] at hruns
  have hpass : (Draft.pass p (Draft.passAll before (.run text))).regions 0 = [] :=
    hkeeps (fun q hq => hbehind q (List.mem_cons_of_mem _ hq)) hdraft
  refine List.eq_nil_iff_forall_not_mem.2 fun s hs => ?_
  have hregion : (⟨0 + s.first.pos, 0 + s.last.pos⟩ : Region) ∈
      (Draft.pass p (Draft.passAll before (.run text))).regions 0 :=
    (Draft.mem_regions_pass (hbehind p List.mem_cons_self)).2
      (.inr ⟨(0, text), hruns ▸ List.mem_singleton_self _, s, hs, rfl⟩)
  rw [hpass] at hregion
  cases hregion

theorem first_ne_bracket_of_mem_removed {r : Region} (h : r ∈ removed text) :
    text[r.first]? ≠ some '[' := by
  have hsource : (Draft.run text).source = text := rfl
  refine Draft.forall_mem_regions_passAll (P := fun r => text[r.first]? ≠ some '[')
    (fun _ => searchable_of_mem) hsource nofun ?_ r h
  intro p hp front part after htext s hs hbracket
  obtain ⟨hfirst, -, hspan, hlt⟩ := spans_of_mem_findAll (searchable_of_mem hp) hs
  obtain ⟨set, x, hset, hx, hchar⟩ := hspan.chars (divides_of_mem hp).1.every hfirst
    (Nat.le_refl _) hlt
  have hbeyond := Cursor.getElem?_within hchar front after
  rw [← htext] at hbeyond
  cases hbracket.symm.trans hbeyond
  rw [hset] at hx
  cases hx

/-- The marker that stands in the place of the first region begins otherwise than the region. -/
theorem redact_eq_self_iff : redact marker text = text ↔ Clear text := by
  refine ⟨fun h => clear_of_removed_eq_nil ?_, redact_of_clear marker⟩
  rw [redact_eq] at h
  match hregions : removed text with
  | [] => rfl
  | r :: regions =>
      have hr : r ∈ removed text := hregions ▸ List.mem_cons_self
      obtain ⟨hlt, hle⟩ := bounds_of_mem_removed hr
      have htake : (text.take (r.first - 0)).length = r.first := by
        rw [List.length_take]
        omega
      have hbracket : text[r.first]? = some '[' := by
        rw [← h, hregions, replaced, List.append_assoc, List.getElem?_append_right (by omega),
          htake, Nat.sub_self]
        rfl
      exact absurd hbracket (first_ne_bracket_of_mem_removed hr)

end Unchanged

/-! ### What is found in a redacted text -/

theorem ipAddress_mem_framed : ipAddress ∈ framed.map edged := by
  rw [framed_eq]
  simp

theorem guarded_ipAddress : Draft.Guarded ipAddress := by
  obtain ⟨body, -, heq⟩ := List.mem_map.1 ipAddress_mem_framed
  exact heq ▸ guarded_edged body

theorem no_demand_of_bodies : ∀ body ∈ emailBody :: internationalBody :: framed,
    (Pattern.all body).Every (fun _ => True) (fun _ => False) := by
  decide

theorem lifted_of_framed {p : Pattern} (h : p ∈ framed.map edged) : Lifted p := by
  obtain ⟨body, hbody, rfl⟩ := List.mem_map.1 h
  exact lifted_edged (no_demand_of_bodies _ (by simp [hbody]))

theorem lifted_of_mem {p : Pattern} (h : p ∈ guarded) : Lifted p := by
  rcases shape_of_mem_guarded h with rfl | hframed | rfl
  · rw [email_eq]
    exact lifted_edged (no_demand_of_bodies _ (by simp))
  · exact lifted_of_framed hframed
  · rw [internationalPhone_eq]
    exact lifted_upToEdge (no_demand_of_bodies _ (by simp))

theorem passes_eq_append : passes = guarded ++ edgeless ++ [ipAddress] := rfl

section Redacted

variable {content : List Char}

theorem findAll_redact_eq_nil_iff {p : Pattern} (h : p ∈ passes) :
    findAll p (redact marker content) = [] ↔ ∀ run ∈ kept content, findAll p run.2 = [] := by
  have hrender : (Draft.passAll passes (.run content)).render marker = redact marker content :=
    Draft.render_passAll (fun _ => skips_marker) _
  rw [← hrender]
  exact Draft.findAll_render_eq_nil_iff (skips_marker h) _ 0

theorem clear_redact_iff :
    Clear (redact marker content) ↔ ∀ run ∈ kept content, Clear run.2 := by
  constructor
  · intro h run hrun p hp
    exact (findAll_redact_eq_nil_iff hp).1 (h p hp) run hrun
  · intro h p hp
    exact (findAll_redact_eq_nil_iff hp).2 fun run hrun => h run hrun p hp

theorem mem_passes_of_edgeless {p : Pattern} (h : p ∈ edgeless) : p ∈ passes :=
  passes_eq_append ▸ List.mem_append_left _ (List.mem_append_right _ h)

theorem findAll_kept_of_edgeless {p : Pattern} (h : p ∈ edgeless) {run : Nat × List Char}
    (hrun : run ∈ kept content) : findAll p run.2 = [] := by
  obtain ⟨before, after, hpasses⟩ := List.append_of_mem (mem_passes_of_edgeless h)
  rw [kept, hpasses] at hrun
  exact Draft.findAll_eq_nil_of_no_demand (fun q hq => searchable_of_mem (hpasses ▸ hq))
    (no_demand_of_edgeless p h) hrun

/-- Nothing comes after the pattern for addresses of hosts, so no word is cut after its pass. -/
theorem findAll_kept_ipAddress {run : Nat × List Char} (hrun : run ∈ kept content) :
    findAll ipAddress run.2 = [] := by
  rw [kept, passes_eq_append] at hrun
  refine Draft.findAll_eq_nil_of_guarded (fun q hq => searchable_of_mem (passes_eq_append ▸ hq))
    (lifted_of_framed ipAddress_mem_framed) ?_ hrun
  intro q hq
  rw [List.mem_singleton.1 hq]
  exact guarded_ipAddress

theorem at_cut_of_mem_findAll_kept {p : Pattern} (h : p ∈ passes) {run : Nat × List Char}
    (hrun : run ∈ kept content) {s : Span} (hs : s ∈ findAll p run.2) :
    p ∈ guarded ∧
      (s.first.pos = 0 ∧ (place content run.1).Inside ∨
        s.last.pos = run.2.length ∧ (place content (run.1 + run.2.length)).Inside) := by
  rw [passes_eq_append, List.mem_append, List.mem_append, List.mem_singleton] at h
  rcases h with (hguarded | hedgeless) | rfl
  · refine ⟨hguarded, ?_⟩
    obtain ⟨before, after, hpasses⟩ :=
      List.append_of_mem (List.mem_append_left (edgeless ++ [ipAddress]) hguarded)
    rw [← List.append_assoc, ← passes_eq_append] at hpasses
    rw [kept, hpasses] at hrun
    exact Draft.at_cut_of_mem_findAll (fun q hq => searchable_of_mem (hpasses ▸ hq))
      (lifted_of_mem hguarded) (guarded_of_mem hguarded) hrun hs
  · rw [findAll_kept_of_edgeless hedgeless hrun] at hs
    cases hs
  · rw [findAll_kept_ipAddress hrun] at hs
    cases hs

theorem clear_redact_of_uncut (h : Uncut content) : Clear (redact marker content) := by
  refine clear_redact_iff.2 fun run hrun p hp => List.eq_nil_iff_forall_not_mem.2 fun s hs => ?_
  have hclean : Draft.Clean content (Draft.passAll passes (.run content)) := h
  have hsource := Draft.source_passAll (fun _ => searchable_of_mem) (.run content)
  obtain ⟨hfirst, hlast⟩ := hclean.runs hsource hrun
  obtain ⟨-, ⟨-, hcut⟩ | ⟨-, hcut⟩⟩ := at_cut_of_mem_findAll_kept hp hrun hs
  · exact hfirst hcut
  · exact hlast hcut

/-- Only the patterns without edges cut words. -/
theorem uncut_of_edgeless (h : ∀ p ∈ edgeless, findAll p content = []) : Uncut content := by
  have hpasses : ∀ p ∈ passes, Draft.Guarded p ∨
      p.Every (fun _ => True) (fun _ => False) ∧ findAll p content = [] := by
    intro p hp
    rw [passes_eq_append, List.mem_append, List.mem_append, List.mem_singleton] at hp
    rcases hp with (hguarded | hedgeless) | rfl
    · exact .inl (guarded_of_mem hguarded)
    · exact .inr ⟨no_demand_of_edgeless p hedgeless, h p hedgeless⟩
    · exact .inl guarded_ipAddress
  exact Draft.clean_passAll_of_nil (fun _ => searchable_of_mem) hpasses rfl (Draft.clean_run _)

theorem uncut_redact (content : List Char) : Uncut (redact marker content) :=
  uncut_of_edgeless fun _ hp => (findAll_redact_eq_nil_iff (mem_passes_of_edgeless hp)).2
    fun _ hrun => findAll_kept_of_edgeless hp hrun

/-- What is found in a redacted text is found in the parts that stayed, by a pattern with edges,
where a part begins or ends within a word of the original text. Such finds are all that detection
sees there and all that a second redaction changes, and it changes them for good. -/
theorem redact_clear_iff (content : List Char) :
    (Clear (redact marker content) ↔ ∀ run ∈ kept content, Clear run.2) ∧
    (∀ run ∈ kept content, ∀ p ∈ passes, ∀ s ∈ findAll p run.2, p ∈ guarded ∧
      (s.first.pos = 0 ∧ (place content run.1).Inside ∨
        s.last.pos = run.2.length ∧ (place content (run.1 + run.2.length)).Inside)) ∧
    (Uncut content → Clear (redact marker content)) ∧
    ((∀ p ∈ edgeless, findAll p content = []) → Clear (redact marker content)) ∧
    ((detect (redact marker content)).counts = [] ∧
        (detect (redact marker content)).rejected = [] ↔ Clear (redact marker content)) ∧
    (redact marker (redact marker content) = redact marker content ↔
      Clear (redact marker content)) ∧
    Clear (redact marker (redact marker content)) :=
  ⟨clear_redact_iff, fun _ hrun _ hp _ hs => at_cut_of_mem_findAll_kept hp hrun hs,
    clear_redact_of_uncut, fun h => clear_redact_of_uncut (uncut_of_edgeless h),
    clear_iff_detect.symm, redact_eq_self_iff,
    clear_redact_of_uncut (uncut_redact content)⟩

end Redacted

/-- An access key identifier is taken out of a word of digits, and the marker in its place makes a
card number of the rest, which the redaction has already looked for. -/
theorem redact_exposes_card :
    redact marker "secret=AKIAABCDEFGHIJKLMNOP4532015112830366".toList =
      "secret=[REDACTED]4532015112830366".toList ∧
    ¬ Clear (redact marker "secret=AKIAABCDEFGHIJKLMNOP4532015112830366".toList) ∧
    (detect (redact marker "secret=AKIAABCDEFGHIJKLMNOP4532015112830366".toList)).counts =
      [("PAN", 1)] ∧
    redact marker (redact marker "secret=AKIAABCDEFGHIJKLMNOP4532015112830366".toList) =
      "secret=[REDACTED][REDACTED]".toList := by
  have hredact : redact marker "secret=AKIAABCDEFGHIJKLMNOP4532015112830366".toList =
      "secret=[REDACTED]4532015112830366".toList := by
    decide +kernel
  rw [clear_iff_detect, hredact]
  refine ⟨rfl, ?_, ?_, ?_⟩ <;> decide +kernel

end LossPrevention.Classifier.Catalogue
