import LossPrevention.Proofs.Classifier.Cards
import LossPrevention.Proofs.Classifier.Redaction

/-!
What a count says. The matches of one pattern lie one behind the other, but those of the two
patterns of a label may overlap, and then both are counted. Main statement: a count is the number
of findings that overlap none that begins before them, and one more for every pair of findings that
overlap; such pairs exist for telephone numbers, keys and secrets only.
-/

namespace LossPrevention.Classifier.Catalogue

open Pattern
open Cursor (On WordAt place)
open Text (CharSet)

/-- The findings have no character in common. -/
def Finding.Apart (f g : Finding) : Prop := f.last ≤ g.first ∨ g.last ≤ f.first

/-- The finding begins within the other one, or with it and reaches further. -/
def Finding.Enters (g f : Finding) : Prop :=
  (f.first < g.first ∨ f.first = g.first ∧ f.last < g.last) ∧ g.first < f.last

instance (g f : Finding) : Decidable (g.Enters f) := inferInstanceAs (Decidable (_ ∧ _))

instance : Std.Symm Finding.Apart := ⟨fun _ _ => Or.symm⟩

/-- The findings that enter no other one. -/
def separate (label : Label) (content : List Char) : List Finding :=
  (findings label content).filter (fun g => ∀ f ∈ findings label content, ¬ g.Enters f)

/-- The pairs of findings of which the second enters the first. -/
def overlaps (label : Label) (content : List Char) : List (Finding × Finding) :=
  (findings label content).flatMap fun g =>
    ((findings label content).filter (fun f => g.Enters f)).map (fun f => (f, g))

/-! ### Findings of a label -/

section Findings

variable {label : Label} {content : List Char} {f g : Finding} {p : Pattern}

theorem mem_findings_iff :
    f ∈ findings label content ↔
      ∃ p ∈ patterns label, f ∈ (findAll p content).map Finding.ofSpan := by
  rw [findings, List.mem_eraseDups, List.mem_flatMap]

theorem searchable_of_mem_patterns (h : p ∈ patterns label) : Searchable p :=
  searchable_of_mem (List.mem_flatMap.2 ⟨label, Label.mem_all label, h⟩)

theorem first_lt_last_of_mem_findings (hf : f ∈ findings label content) : f.first < f.last := by
  obtain ⟨p, hp, hf⟩ := mem_findings_iff.1 hf
  obtain ⟨s, hs, rfl⟩ := List.mem_map.1 hf
  exact (spans_of_mem_findAll (searchable_of_mem_patterns hp) hs).2.2.2

/-- A finding is told by its places. -/
theorem eq_of_ends (hf : f ∈ findings label content) (hg : g ∈ findings label content)
    (hfirst : f.first = g.first) (hlast : f.last = g.last) : f = g := by
  obtain ⟨p, hp, hf⟩ := mem_findings_iff.1 hf
  obtain ⟨q, hq, hg⟩ := mem_findings_iff.1 hg
  obtain ⟨s, hs, rfl⟩ := List.mem_map.1 hf
  obtain ⟨t, ht, rfl⟩ := List.mem_map.1 hg
  obtain ⟨hsf, hsl, -⟩ := spans_of_mem_findAll (searchable_of_mem_patterns hp) hs
  obtain ⟨htf, htl, -⟩ := spans_of_mem_findAll (searchable_of_mem_patterns hq) ht
  have hspan : s = t := by
    obtain ⟨first, last⟩ := s
    obtain ⟨first', last'⟩ := t
    have hfirst' : first = first' := hsf.eq_of_pos htf hfirst
    have hlast' : last = last' := hsl.eq_of_pos htl hlast
    rw [hfirst', hlast']
  rw [hspan]

theorem enters_of_not_apart (hf : f ∈ findings label content) (hg : g ∈ findings label content)
    (hne : f ≠ g) (h : ¬ f.Apart g) : g.Enters f ∨ f.Enters g := by
  have hends : f.first = g.first → f.last ≠ g.last := fun hfirst hlast =>
    hne (eq_of_ends hf hg hfirst hlast)
  have hf := first_lt_last_of_mem_findings hf
  have hg := first_lt_last_of_mem_findings hg
  simp only [Finding.Apart, Finding.Enters] at h ⊢
  omega

theorem Finding.Enters.ne (h : g.Enters f) : f ≠ g := by
  rintro rfl
  simp only [Finding.Enters] at h
  omega

theorem not_apart_of_enters (hf : f ∈ findings label content) (hg : g ∈ findings label content)
    (h : g.Enters f) : ¬ f.Apart g := by
  have hf := first_lt_last_of_mem_findings hf
  have hg := first_lt_last_of_mem_findings hg
  simp only [Finding.Apart, Finding.Enters] at h ⊢
  omega

theorem apart_iff_not_enters :
    (findings label content).Pairwise Finding.Apart ↔
      ∀ f ∈ findings label content, ∀ g ∈ findings label content, ¬ g.Enters f := by
  constructor
  · intro h f hf g hg henters
    exact not_apart_of_enters hf hg henters (h.forall hf hg henters.ne)
  · intro h
    refine (nodup_eraseDups _).pairwise_of_forall_ne fun f hf g hg hne => ?_
    by_contra hover
    rcases enters_of_not_apart hf hg hne hover with henters | henters
    · exact h f hf g hg henters
    · exact h g hg f hf henters

end Findings

/-! ### Findings of one pattern -/

section Same

variable {p : Pattern} {content : List Char} {f g : Finding}

theorem pairwise_findAll (hp : Searchable p) (content : List Char) :
    ((findAll p content).map Finding.ofSpan).Pairwise Finding.Apart := by
  have hordered {n : Nat} {spans : List Span} (h : Ordered p content n spans) :
      (spans.map Finding.ofSpan).Pairwise Finding.Apart := by
    induction spans generalizing n with
    | nil => exact .nil
    | cons s spans ih =>
        obtain ⟨-, -, -, -, -, hrest⟩ := h
        rw [List.map_cons, List.pairwise_cons]
        refine ⟨fun g hg => ?_, ih hrest⟩
        obtain ⟨t, ht, rfl⟩ := List.mem_map.1 hg
        exact .inl (hrest.of_mem ht).2.2.2.1
  exact hordered (ordered_findAll hp content)

theorem ne_of_enters {q : Pattern} (hq : Searchable q) {label : Label}
    (hf : f ∈ findings label content) (hg : g ∈ findings label content)
    (hfp : f ∈ (findAll p content).map Finding.ofSpan)
    (hgq : g ∈ (findAll q content).map Finding.ofSpan) (h : g.Enters f) : p ≠ q := by
  rintro rfl
  exact not_apart_of_enters hf hg h ((pairwise_findAll hq content).forall hfp hgq h.ne)

end Same

/-! ### Labels without overlaps -/

section Calm

variable {label : Label} {content : List Char} {f g : Finding}

/-- A grouped number and a word that is as long as a plain one. -/
theorem Grouped.apart {a b n : Nat} (ha : Grouped content a)
    (hfirst : ¬ (place content a).Inside) (hlast : ¬ (place content (a + 11)).Inside)
    (hword : ∀ k, b ≤ k → k < n → WordAt content k) (hedge : ¬ (place content b).Inside)
    (hlong : b + 9 ≤ n) : a + 11 ≤ b ∨ n ≤ a := by
  by_contra hover
  rw [not_or, Nat.not_le, Nat.not_le] at hover
  rcases Nat.lt_trichotomy b a with hlt | rfl | hlt
  · obtain ⟨k, rfl⟩ := Nat.exists_eq_add_of_lt hlt
    exact hfirst ((hword _ (by omega) (by omega)).inside (hword _ (by omega) hover.2))
  · exact not_wordAt_of_dash (ha.dash 3 (by decide)) (hword _ (by omega) (by omega))
  · obtain ⟨k, rfl⟩ := Nat.exists_eq_add_of_lt hlt
    by_cases hk : k ∈ [3, 6]
    · simp only [List.mem_cons, List.not_mem_nil, or_false] at hk
      rcases hk with rfl | rfl
      · exact not_wordAt_of_dash (ha.dash 6 (by decide)) (hword _ (by omega) (by omega))
      · exact hlast ((hword (a + 10) (by omega) (by omega)).inside
          (hword (a + 11) (by omega) (by omega)))
    · exact hedge ((ha.word k (by omega) hk).inside (hword _ (Nat.le_refl _) (by omega)))

theorem apart_of_ssn (hf : f ∈ (findAll groupedSsn content).map Finding.ofSpan)
    (hg : g ∈ (findAll plainSsn content).map Finding.ofSpan) : f.Apart g := by
  have hwords : plainSsn.Every (fun s => s.inWords = true) (fun _ => True) := by decide
  have hmin : minLength plainSsn = 9 := rfl
  have hmem : groupedSsn ∈ patterns .ssn ∧ plainSsn ∈ patterns .ssn := by
    simp [patterns]
  have hguarded : groupedSsn ∈ guarded ∧ plainSsn ∈ guarded := by
    simp [guarded]
  obtain ⟨s, hs, rfl⟩ := List.mem_map.1 hf
  obtain ⟨t, ht, rfl⟩ := List.mem_map.1 hg
  obtain ⟨hsf, hsl, hspan, -⟩ := spans_of_mem_findAll (searchable_of_mem_patterns hmem.1) hs
  obtain ⟨htf, -, hspan', -⟩ := spans_of_mem_findAll (searchable_of_mem_patterns hmem.2) ht
  obtain ⟨hgrouped, hend⟩ := grouped_of_spans hsf hspan
  obtain ⟨hfirst, hlast⟩ := guarded_of_mem hguarded.1 _ _ hspan
  obtain ⟨hedge, -⟩ := guarded_of_mem hguarded.2 _ _ hspan'
  have hlong := hspan'.minLength_le
  rw [hmin] at hlong
  rw [hsf.2] at hfirst
  rw [hsl.2, hend] at hlast
  rw [htf.2] at hedge
  have hapart := hgrouped.apart hfirst hlast (fun k => hspan'.words hwords htf) hedge hlong
  rw [← hend] at hapart
  exact hapart

theorem pairwise_placed (n : Nat) (parts : List (List Char)) :
    (placed n parts).Pairwise Finding.Apart := by
  induction parts generalizing n with
  | nil => exact .nil
  | cons cs rest ih =>
      rw [placed, List.pairwise_cons]
      refine ⟨fun g hg => .inl ?_, ih _⟩
      exact Nat.le_of_succ_le (le_first_of_mem_placed hg)

/-- The labels whose findings never overlap. -/
def calm : List Label := [.pan, .ssn, .email, .ipAddress]

theorem pairwise_of_calm (h : label ∈ calm) :
    (findings label content).Pairwise Finding.Apart := by
  refine (nodup_eraseDups _).pairwise_of_forall_ne fun f hf g hg hne => ?_
  have hsame {p : Pattern} (hp : p ∈ patterns label)
      (hf : f ∈ (findAll p content).map Finding.ofSpan)
      (hg : g ∈ (findAll p content).map Finding.ofSpan) : f.Apart g :=
    (pairwise_findAll (searchable_of_mem_patterns hp) content).forall hf hg hne
  simp only [calm, List.mem_cons, List.not_mem_nil, or_false] at h
  rcases h with rfl | rfl | rfl | rfl
  · exact (pairwise_placed 0 (wordRuns content)).forall (mem_findings_pan_iff.1 hf).1
      (mem_findings_pan_iff.1 hg).1 hne
  · obtain ⟨p, hp, hf⟩ := mem_findings_iff.1 hf
    obtain ⟨q, hq, hg⟩ := mem_findings_iff.1 hg
    have hp' := hp
    simp only [patterns, List.mem_cons, List.not_mem_nil, or_false] at hp' hq
    rcases hp' with rfl | rfl <;> rcases hq with rfl | rfl
    · exact hsame hp hf hg
    · exact apart_of_ssn hf hg
    · exact (apart_of_ssn hg hf).symm
    · exact hsame hp hf hg
  all_goals
    obtain ⟨p, hp, hf⟩ := mem_findings_iff.1 hf
    obtain ⟨q, hq, hg⟩ := mem_findings_iff.1 hg
    have heq : q = p := (List.mem_singleton.1 hq).trans (List.mem_singleton.1 hp).symm
    exact hsame hp hf (heq ▸ hg)

end Calm

/-! ### Labels with two patterns -/

section Two

variable {label : Label} {content : List Char} {f f' g : Finding}

theorem patterns_of_not_calm (h : label ∉ calm) : ∃ p q, patterns label = [p, q] := by
  cases label with
  | phone | apiKey | secret => exact ⟨_, _, rfl⟩
  | pan | ssn | email | ipAddress => exact absurd (by decide) h

theorem sources_of_enters (hf : f ∈ findings label content) (hg : g ∈ findings label content)
    (h : g.Enters f) : ∃ p ∈ patterns label, ∃ q ∈ patterns label, p ≠ q ∧
      f ∈ (findAll p content).map Finding.ofSpan ∧
      g ∈ (findAll q content).map Finding.ofSpan := by
  obtain ⟨p, hp, hfp⟩ := mem_findings_iff.1 hf
  obtain ⟨q, hq, hgq⟩ := mem_findings_iff.1 hg
  exact ⟨p, hp, q, hq, ne_of_enters (searchable_of_mem_patterns hq) hf hg hfp hgq h, hfp, hgq⟩

/-- Two findings that one enters are found by one pattern, the other of the two. -/
theorem eq_of_enters (hf : f ∈ findings label content) (hf' : f' ∈ findings label content)
    (hg : g ∈ findings label content) (h : g.Enters f) (h' : g.Enters f') : f = f' := by
  by_cases hcalm : label ∈ calm
  · exact absurd h (apart_iff_not_enters.1 (pairwise_of_calm hcalm) f hf g hg)
  · obtain ⟨a, b, hpatterns⟩ := patterns_of_not_calm hcalm
    obtain ⟨q, hq, hgq⟩ := mem_findings_iff.1 hg
    obtain ⟨p, hp, hfp⟩ := mem_findings_iff.1 hf
    obtain ⟨p', hp', hfp'⟩ := mem_findings_iff.1 hf'
    have hsearch := searchable_of_mem_patterns hq
    have hne := ne_of_enters hsearch hf hg hfp hgq h
    have hne' := ne_of_enters hsearch hf' hg hfp' hgq h'
    have hsame : p' = p := by
      rw [hpatterns] at hq hp hp'
      simp only [List.mem_cons, List.not_mem_nil, or_false] at hq hp hp'
      rcases hq with rfl | rfl
      · exact (hp'.resolve_left hne').trans (hp.resolve_left hne).symm
      · exact (hp'.resolve_right hne').trans (hp.resolve_right hne).symm
    by_contra hdiffer
    have hapart := (pairwise_findAll (searchable_of_mem_patterns hp) content).forall hfp
      (hsame ▸ hfp') hdiffer
    simp only [Finding.Enters, Finding.Apart] at h h' hapart
    omega

theorem plus_of_international (hf : f ∈ (findAll internationalPhone content).map Finding.ofSpan) :
    content[f.first]? = some '+' := by
  have hmem : internationalPhone ∈ patterns .phone := by simp [patterns]
  have hbegins : (Pattern.all internationalBody).Begins (fun s => s = .single '+') := rfl
  obtain ⟨s, hs, rfl⟩ := List.mem_map.1 hf
  obtain ⟨hon, -, hspan, -⟩ := spans_of_mem_findAll (searchable_of_mem_patterns hmem) hs
  rw [internationalPhone_eq, spans_upToEdge_iff] at hspan
  obtain ⟨_, x, rfl, hx, hnext⟩ := hspan.1.begins hbegins
  rw [hon.next?, CharSet.contains_single_iff.1 hx] at hnext
  exact hnext

theorem ne_plus_of_domestic (hf : f ∈ (findAll domesticPhone content).map Finding.ofSpan) {n : Nat}
    (hfirst : f.first ≤ n) (hlast : n < f.last) : content[n]? ≠ some '+' := by
  have hmem : domesticPhone ∈ patterns .phone := by simp [patterns]
  have hchars : domesticPhone.Every (fun s => s.contains '+' = false) (fun _ => True) := by
    decide +kernel
  obtain ⟨s, hs, rfl⟩ := List.mem_map.1 hf
  obtain ⟨hon, -, hspan, -⟩ := spans_of_mem_findAll (searchable_of_mem_patterns hmem) hs
  obtain ⟨set, x, hset, hx, hget⟩ := hspan.chars hchars hon hfirst hlast
  rw [hget, Ne, Option.some_inj]
  rintro rfl
  rw [hset] at hx
  cases hx

theorem sources_of_phone (hf : f ∈ findings .phone content) (hg : g ∈ findings .phone content)
    (h : g.Enters f) : f ∈ (findAll internationalPhone content).map Finding.ofSpan ∧
      g ∈ (findAll domesticPhone content).map Finding.ofSpan := by
  obtain ⟨p, hp, q, hq, hne, hfp, hgq⟩ := sources_of_enters hf hg h
  simp only [patterns, List.mem_cons, List.not_mem_nil, or_false] at hp hq
  rcases hp with rfl | rfl <;> rcases hq with rfl | rfl
  · exact absurd rfl hne
  · obtain ⟨hfirst, hlast⟩ := h
    exact absurd (plus_of_international hgq) (ne_plus_of_domestic hfp (by omega) hlast)
  · exact ⟨hfp, hgq⟩
  · exact absurd rfl hne

end Two

/-! ### Counts -/

section Counts

variable {label : Label} {content : List Char}

theorem mem_overlaps_iff {f g : Finding} :
    (f, g) ∈ overlaps label content ↔
      f ∈ findings label content ∧ g ∈ findings label content ∧ g.Enters f := by
  simp only [overlaps, List.mem_flatMap, List.mem_map, List.mem_filter, decide_eq_true_eq,
    Prod.mk.injEq]
  constructor
  · rintro ⟨g, hg, f, ⟨hf, henters⟩, rfl, rfl⟩
    exact ⟨hf, hg, henters⟩
  · rintro ⟨hf, hg, henters⟩
    exact ⟨g, hg, f, ⟨hf, henters⟩, rfl, rfl⟩

theorem apart_iff_overlaps :
    (findings label content).Pairwise Finding.Apart ↔ overlaps label content = [] := by
  rw [apart_iff_not_enters, List.eq_nil_iff_forall_not_mem]
  constructor
  · rintro h ⟨f, g⟩ hmem
    obtain ⟨hf, hg, henters⟩ := mem_overlaps_iff.1 hmem
    exact h f hf g hg henters
  · intro h f hf g hg henters
    exact h (f, g) (mem_overlaps_iff.2 ⟨hf, hg, henters⟩)

theorem pairwise_separate (label : Label) (content : List Char) :
    (separate label content).Pairwise Finding.Apart := by
  refine ((nodup_eraseDups _).filter _).pairwise_of_forall_ne fun f hf g hg hne => ?_
  obtain ⟨hf, halone⟩ := List.mem_filter.1 hf
  obtain ⟨hg, halone'⟩ := List.mem_filter.1 hg
  by_contra hover
  rcases enters_of_not_apart hf hg hne hover with henters | henters
  · exact of_decide_eq_true halone' f hf henters
  · exact of_decide_eq_true halone g hg henters

theorem perm_entered {f g : Finding} (hf : f ∈ findings label content)
    (hg : g ∈ findings label content) (h : g.Enters f) :
    ((findings label content).filter (fun f => g.Enters f)).Perm [f] := by
  refine (List.perm_ext_iff_of_nodup ((nodup_eraseDups _).filter _)
    (List.nodup_singleton f)).2 fun f' => ?_
  rw [List.mem_filter, decide_eq_true_eq, List.mem_singleton]
  constructor
  · rintro ⟨hf', h'⟩
    exact eq_of_enters hf' hf hg h' h
  · rintro rfl
    exact ⟨hf, h⟩

/-- Each of some findings is separate or enters exactly one other. -/
theorem length_split {gs : List Finding} (hgs : ∀ g ∈ gs, g ∈ findings label content) :
    gs.length = (gs.filter (fun g => ∀ f ∈ findings label content, ¬ g.Enters f)).length +
      (gs.flatMap fun g =>
        ((findings label content).filter (fun f => g.Enters f)).map (fun f => (f, g))).length := by
  induction gs with
  | nil => rfl
  | cons g gs ih =>
      have ih := ih fun g hg => hgs g (List.mem_cons_of_mem _ hg)
      have hg := hgs g List.mem_cons_self
      rw [List.flatMap_cons, List.length_append, List.length_map, List.length_cons, ih]
      by_cases halone : ∀ f ∈ findings label content, ¬ g.Enters f
      · have hnone : (findings label content).filter (fun f => g.Enters f) = [] := by
          simpa using halone
        rw [List.filter_cons_of_pos (by simpa using halone), hnone, List.length_cons,
          List.length_nil]
        omega
      · obtain ⟨f, hf, henters⟩ : ∃ f ∈ findings label content, g.Enters f := by
          simpa using halone
        rw [List.filter_cons_of_neg (by simpa using ⟨f, hf, henters⟩),
          (perm_entered hf hg henters).length_eq, List.length_singleton]
        omega

theorem length_findings (label : Label) (content : List Char) :
    (findings label content).length =
      (separate label content).length + (overlaps label content).length :=
  length_split fun _ hg => hg

/-- A count is the number of separate findings and that of overlaps. Overlapping findings come from
the two patterns of the label, and no two findings of most labels overlap. -/
theorem count_eq_separate_add_overlaps (label : Label) (content : List Char) :
    (∀ n, Keyed.get? label.name (detect content).counts = some n ↔
      0 < n ∧ (separate label content).length + (overlaps label content).length = n ∧
        ¬ refuses label (findings label content) = true) ∧
    (separate label content).Pairwise Finding.Apart ∧
    ((findings label content).Pairwise Finding.Apart ↔ overlaps label content = []) ∧
    (label ∈ calm → overlaps label content = []) ∧
    (∀ f g, (f, g) ∈ overlaps label content →
      ∃ p ∈ patterns label, ∃ q ∈ patterns label, p ≠ q ∧
        f ∈ (p.findAll content).map Finding.ofSpan ∧
        g ∈ (q.findAll content).map Finding.ofSpan) ∧
    ∀ f g, (f, g) ∈ overlaps .phone content →
      f ∈ (internationalPhone.findAll content).map Finding.ofSpan ∧
        g ∈ (domesticPhone.findAll content).map Finding.ofSpan := by
  refine ⟨fun n => ?_, pairwise_separate label content, apart_iff_overlaps,
    fun h => apart_iff_overlaps.1 (pairwise_of_calm h), fun f g h => ?_, fun f g h => ?_⟩
  · rw [get?_detect, reported?_eq_some_iff, length_findings]
  · obtain ⟨hf, hg, henters⟩ := mem_overlaps_iff.1 h
    exact sources_of_enters hf hg henters
  · obtain ⟨hf, hg, henters⟩ := mem_overlaps_iff.1 h
    exact sources_of_phone hf hg henters

/-- Ten digits behind a plus sign are found with the sign and without it, and counted twice. -/
theorem counts_number_twice :
    (findings .phone "+1234567890".toList).map (fun f => (f.first, f.last)) =
      [(1, 11), (0, 11)] ∧
    ¬ (findings .phone "+1234567890".toList).Pairwise Finding.Apart ∧
    (separate .phone "+1234567890".toList).length = 1 ∧
    (detect "+1234567890".toList).counts = [("PHONE", 2)] ∧
    (detect "+1234567890".toList).maxCount? = some 2 := by
  have hfindings : findings .phone "+1234567890".toList =
      [⟨1, 11, "1234567890".toList⟩, ⟨0, 11, "+1234567890".toList⟩] := by
    decide +kernel
  refine ⟨by rw [hfindings]; rfl, ?_, ?_, by decide +kernel, by decide +kernel⟩
  · rw [hfindings, List.pairwise_pair]
    simp only [Finding.Apart]
    omega
  · rw [separate, hfindings]
    decide

end Counts

end LossPrevention.Classifier.Catalogue
