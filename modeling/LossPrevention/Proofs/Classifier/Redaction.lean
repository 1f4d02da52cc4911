import LossPrevention.Proofs.Classifier.Catalogue
import Mathlib.Data.List.Pairwise

/-!
What redaction takes out of a text. It is the text with the marker in the place of regions that
lie one behind the other. Seven patterns have all their matches inside of regions; a match of one
of the others may be cut by what was taken out before it.
-/

namespace LossPrevention.Classifier.Catalogue

open Pattern
open Cursor (On WordAt place)

/-! ### Grouped numbers -/

/-- Three digits, two and four behind `n` characters, with dashes between them. -/
structure Grouped (text : List Char) (n : Nat) : Prop where
  dash : ∀ k ∈ [3, 6], text[n + k]? = some '-'
  word : ∀ k < 11, k ∉ [3, 6] → WordAt text (n + k)

section Grouped

variable {text : List Char} {a b : Nat}

theorem Grouped.within (h : Grouped text a) (front after : List Char) :
    Grouped (front ++ text ++ after) (front.length + a) where
  dash k hk := by
    rw [Nat.add_assoc]
    exact Cursor.getElem?_within (h.dash k hk) front after
  word k hk hne := by
    rw [Nat.add_assoc]
    exact (h.word k hk hne).within front after

theorem not_wordAt_of_dash (h : text[a]? = some '-') : ¬ WordAt text a := by
  rintro ⟨x, hx, hword⟩
  rw [h, Option.some_inj] at hx
  subst hx
  exact absurd hword (by decide)

theorem grouped_of_spans {c d : Cursor} (hc : On text c) (h : Spans groupedSsn c d) :
    Grouped text c.pos ∧ d.pos = c.pos + 11 := by
  have hshape : groupedSsn =
      edged [digits 3 3, char '-', digits 2 2, char '-', digits 4 4] := rfl
  rw [hshape, spans_edged_iff] at h
  obtain ⟨-, h, -⟩ := h
  simp only [spans_all_cons] at h
  obtain ⟨e₁, h₁, e₂, h₂, e₃, h₃, e₄, h₄, e₅, h₅, hempty⟩ := h
  cases hempty
  have on₁ := (forward_spans text _ _ _ hc h₁).1
  have on₂ := (forward_spans text _ _ _ on₁ h₂).1
  have on₃ := (forward_spans text _ _ _ on₂ h₃).1
  have on₄ := (forward_spans text _ _ _ on₃ h₄).1
  obtain ⟨next₂, pos₂⟩ := h₂.of_char
  obtain ⟨next₄, pos₄⟩ := h₄.of_char
  rw [on₁.next?] at next₂
  rw [on₃.next?] at next₄
  have pos₁ := h₁.of_times
  have pos₃ := h₃.of_times
  have pos₅ := h₅.of_times
  have hwords (n : Nat) :
      (digits n n).Every (fun s => s.inWords = true) (fun _ => True) := rfl
  refine ⟨⟨?_, ?_⟩, by omega⟩
  · intro k hk
    simp only [List.mem_cons, List.not_mem_nil, or_false] at hk
    rcases hk with rfl | rfl
    · rw [← pos₁]
      exact next₂
    · rw [show c.pos + 6 = e₃.pos by omega]
      exact next₄
  · intro k hk hne
    simp only [List.mem_cons, List.not_mem_nil, or_false, not_or] at hne
    rcases Nat.lt_or_ge k 3 with h3 | h3
    · exact h₁.words (hwords 3) hc (by omega) (by omega)
    · rcases Nat.lt_or_ge k 6 with h6 | h6
      · exact h₃.words (hwords 2) on₂ (by omega) (by omega)
      · exact h₅.words (hwords 4) on₄ (by omega) (by omega)

theorem Grouped.not_lt (ha : Grouped text a) (hb : Grouped text b)
    (hedge : ¬ (place text b).Inside) (hlt : a < b) : a + 11 ≤ b := by
  rw [← Nat.not_lt]
  intro hover
  obtain ⟨k, rfl⟩ := Nat.exists_eq_add_of_lt hlt
  by_cases hk : k ∈ [3, 6]
  · -- The dash of the second number would stand on a digit of the first.
    have hdash := hb.dash 3 (by decide)
    rw [show a + k + 1 + 3 = a + (k + 4) by omega] at hdash
    refine not_wordAt_of_dash hdash ?_
    simp only [List.mem_cons, List.not_mem_nil, or_false] at hk
    rcases hk with rfl | rfl
    · exact ha.word 7 (by decide) (by decide)
    · exact ha.word 10 (by decide) (by decide)
  · exact hedge ((ha.word k (by omega) hk).inside (hb.word 0 (by omega) (by decide)))

theorem Grouped.eq_of_touches (ha : Grouped text a) (hb : Grouped text b)
    (hedge : ¬ (place text a).Inside) (hedge' : ¬ (place text b).Inside) (hab : a < b + 11)
    (hba : b < a + 11) : a = b := by
  rcases Nat.lt_trichotomy a b with hlt | heq | hlt
  · exact absurd (ha.not_lt hb hedge' hlt) (Nat.not_le.2 hba)
  · exact heq
  · exact absurd (hb.not_lt ha hedge hlt) (Nat.not_le.2 hab)

end Grouped

/-! ### What is taken out -/

def cards : List Pattern := [visa, mastercard, amex, discover]

/-- The patterns that always have their matches taken out whole. -/
def sturdy : List Pattern := cards ++ [groupedSsn, plainSsn, accessKeyId]

def fragile : List Pattern := [email, domesticPhone, internationalPhone, apiKey, secret, password,
  ipAddress]

theorem mem_passes_iff {p : Pattern} : p ∈ passes ↔ p ∈ sturdy ∨ p ∈ fragile := by
  rw [passes_eq, sturdy, cards, fragile]
  simp only [List.cons_append, List.nil_append, List.mem_cons, List.not_mem_nil, or_false]
  tauto

/-- The regions of the text that give way to the marker. -/
def removed (content : List Char) : List Region := (Draft.passAll passes (.run content)).regions 0

section Removed

variable {content : List Char}

theorem redact_eq (content : List Char) :
    redact marker content = replaced marker 0 content (removed content) := by
  have hsource := Draft.source_passAll (fun _ => searchable_of_mem) (.run content)
  have hrender := Draft.render_passAll (fun _ => skips_marker) (.run content)
  have hregions := Draft.replaced_regions marker (Draft.passAll passes (.run content)) 0
  rw [hsource, hrender] at hregions
  exact hregions.symm

theorem pairwise_removed (content : List Char) :
    (removed content).Pairwise (fun a b => a.last ≤ b.first) :=
  Draft.regions_pairwise _ 0

theorem bounds_of_mem_removed {r : Region} (h : r ∈ removed content) :
    r.first < r.last ∧ r.last ≤ content.length := by
  have hlast := (Draft.first_le_last_of_mem h).2.2
  rw [Draft.source_passAll (fun _ => searchable_of_mem), Nat.zero_add] at hlast
  exact ⟨Draft.first_lt_last_of_mem (fun _ => searchable_of_mem) content r h, hlast⟩

theorem disjoint_of_mem_removed {r r' : Region} (hr : r ∈ removed content)
    (hr' : r' ∈ removed content) (hne : r ≠ r') : r.last ≤ r'.first ∨ r'.last ≤ r.first := by
  have hsymm : Std.Symm (fun a b : Region => a.last ≤ b.first ∨ b.last ≤ a.first) :=
    ⟨fun _ _ => Or.symm⟩
  have hapart : (removed content).Pairwise (fun a b => a.last ≤ b.first ∨ b.last ≤ a.first) :=
    (pairwise_removed content).imp Or.inl
  exact hapart.forall hr hr' hne

theorem covers_of_touches {r r' : Region} {first last : Nat} (hr : r ∈ removed content)
    (hcovers : r.Covers first last) (hr' : r' ∈ removed content)
    (htouches : r'.Touches first last) : r'.Covers first last := by
  by_cases heq : r = r'
  · exact heq ▸ hcovers
  · obtain ⟨hfirst, hlast⟩ := hcovers
    obtain ⟨hbefore, hbehind⟩ := htouches
    rcases disjoint_of_mem_removed hr hr' heq with hle | hle <;> omega

/-! ### Matches that are taken out whole -/

theorem exists_covers_of_mem_guarded {p : Pattern} (hp : p ∈ guarded)
    (hwords : p.Every (fun s => s.inWords = true) (fun _ => True)) {s : Span}
    (hs : s ∈ findAll p content) : ∃ r ∈ removed content, r.Covers s.first.pos s.last.pos := by
  have hpasses : passes = guarded ++ [accessKeyId, apiKey, secret, password, ipAddress] := rfl
  have hcarried : Carried p := by
    rcases carried_of_mem (hpasses ▸ List.mem_append_left _ hp) with rfl | hcarried
    · exact absurd hwords (by decide)
    · exact hcarried
  obtain ⟨before, after, hparts⟩ := List.append_of_mem hp
  rw [hparts, List.append_assoc, List.cons_append] at hpasses
  rw [removed, hpasses]
  refine Draft.exists_covers_of_guarded ?_ ?_ hcarried hwords hs
  · intro q hq
    exact searchable_of_mem (hpasses ▸ hq)
  · intro q hq
    refine guarded_of_mem ?_
    rw [hparts, List.append_cons]
    exact List.mem_append_left _ hq

theorem exists_covers_of_accessKeyId {s : Span} (hs : s ∈ findAll accessKeyId content) :
    ∃ r ∈ removed content, r.Covers s.first.pos s.last.pos := by
  have hpasses : passes = guarded ++ accessKeyId :: [apiKey, secret, password, ipAddress] := rfl
  rw [removed, hpasses]
  refine Draft.exists_covers_of_wordy ?_ (fun _ => guarded_of_mem) wordy_accessKeyId hs
  intro q hq
  exact searchable_of_mem (hpasses ▸ hq)

/-- A region in a word, longer than any grouped number. -/
def Long (content : List Char) (r : Region) : Prop :=
  r.first + 11 < r.last ∧ ∀ k, r.first ≤ k → k < r.last → WordAt content k

theorem long_of_cards (content : List Char) :
    ∀ r ∈ (Draft.passAll cards (.run content)).regions 0, Long content r := by
  have hcards : ∀ p ∈ cards, 11 < minLength p ∧
      p.Every (fun s => s.inWords = true) (fun _ => True) := by
    decide
  have hps : ∀ p ∈ cards, Searchable p := fun p hp =>
    searchable_of_mem (mem_passes_iff.2 (.inl (List.mem_append_left _ hp)))
  have hsource : (Draft.run content).source = content := rfl
  refine Draft.forall_mem_regions_passAll hps hsource nofun ?_
  intro p hp front text after hparts s hs
  obtain ⟨hmin, hwords⟩ := hcards p hp
  obtain ⟨hf, hl, hspan, -⟩ := spans_of_mem_findAll (hps p hp) hs
  have hlength := hspan.minLength_le
  refine ⟨?_, ?_⟩
  · dsimp only
    omega
  · intro k hle hlt
    dsimp only at hle hlt
    obtain ⟨n, rfl⟩ := Nat.exists_eq_add_of_le (Nat.le_of_add_right_le hle)
    rw [hparts]
    exact (hspan.words hwords hf (by omega) (by omega)).within front after

theorem Long.not_touches {r : Region} (h : Long content r) {a : Nat}
    (hfirst : ¬ (place content a).Inside) (hlast : ¬ (place content (a + 11)).Inside) :
    ¬ r.Touches a (a + 11) := by
  obtain ⟨hlong, hword⟩ := h
  rintro ⟨hbefore, hbehind⟩
  rcases Nat.lt_or_ge r.first a with hlt | hge
  · obtain ⟨k, rfl⟩ := Nat.exists_eq_add_of_lt hlt
    exact hfirst ((hword _ (by omega) (by omega)).inside (hword _ (by omega) hbehind))
  · exact hlast ((hword (a + 10) (by omega) (by omega)).inside (hword _ (by omega) (by omega)))

theorem long_or_grouped (content : List Char) :
    ∀ r ∈ (Draft.passAll (cards ++ [groupedSsn]) (.run content)).regions 0,
      Long content r ∨ Grouped content r.first ∧ r.last = r.first + 11 := by
  have hps : ∀ p ∈ cards, Searchable p := fun p hp =>
    searchable_of_mem (mem_passes_iff.2 (.inl (List.mem_append_left _ hp)))
  have hmem : groupedSsn ∈ passes :=
    mem_passes_iff.2 (.inl (List.mem_append_right _ List.mem_cons_self))
  have hgrouped : ∀ p ∈ [groupedSsn], Searchable p := fun p hp =>
    searchable_of_mem (List.mem_singleton.1 hp ▸ hmem)
  have hsource : (Draft.passAll cards (.run content)).source = content :=
    Draft.source_passAll hps _
  rw [Draft.passAll_append]
  refine Draft.forall_mem_regions_passAll hgrouped hsource
    (fun r hr => Or.inl (long_of_cards content r hr)) ?_
  intro p hp front text after hparts s hs
  have hp' := hgrouped p hp
  rw [List.mem_singleton] at hp
  subst hp
  obtain ⟨hf, hl, hspan, -⟩ := spans_of_mem_findAll hp' hs
  obtain ⟨hshape, hend⟩ := grouped_of_spans hf hspan
  refine .inr ⟨?_, by rw [hend, Nat.add_assoc]⟩
  rw [hparts]
  exact hshape.within front after

theorem exists_covers_of_groupedSsn {s : Span} (hs : s ∈ findAll groupedSsn content) :
    ∃ r ∈ removed content, r.Covers s.first.pos s.last.pos := by
  have hpasses : passes = (cards ++ [groupedSsn]) ++ [plainSsn, email, domesticPhone,
    internationalPhone, accessKeyId, apiKey, secret, password, ipAddress] := rfl
  have hguarded : guarded = (cards ++ [groupedSsn]) ++ [plainSsn, email, domesticPhone,
    internationalPhone] := rfl
  have hps : ∀ p ∈ cards ++ [groupedSsn], Searchable p := fun p hp =>
    searchable_of_mem (hpasses ▸ List.mem_append_left _ hp)
  have hedges : ∀ p ∈ cards ++ [groupedSsn], Draft.Guarded p := fun p hp =>
    guarded_of_mem (hguarded ▸ List.mem_append_left _ hp)
  have hmem : groupedSsn ∈ cards ++ [groupedSsn] := List.mem_append_right _ List.mem_cons_self
  have hcarried : Carried groupedSsn := carried_of_framed (by
    rw [framed_eq]
    simp)
  obtain ⟨hf, hl, hspan, -⟩ := spans_of_mem_findAll (hps _ hmem) hs
  obtain ⟨hgrouped, hend⟩ := grouped_of_spans hf hspan
  obtain ⟨hfirst, hlast⟩ := hedges _ hmem _ _ hspan
  rw [hf.2] at hfirst
  rw [hl.2, hend] at hlast
  obtain ⟨r, hr, htouches⟩ := Draft.exists_touches hps hmem hcarried hs
  have hedge := (Draft.clean_passAll hps hedges rfl (Draft.clean_run content) r hr).1
  rw [hend] at htouches ⊢
  rcases long_or_grouped content r hr with hlong | ⟨hgrouped', hend'⟩
  · exact absurd htouches (hlong.not_touches hfirst hlast)
  · obtain ⟨hbefore, hbehind⟩ := htouches
    rw [hend'] at hbehind
    have heq := hgrouped'.eq_of_touches hgrouped hedge hfirst hbefore hbehind
    rw [removed, hpasses, Draft.passAll_append]
    refine ⟨r, Draft.mem_regions_passAll ?_ hr, Nat.le_of_eq heq, Nat.le_of_eq ?_⟩
    · intro q hq
      exact searchable_of_mem (hpasses ▸ List.mem_append_right _ hq)
    · rw [hend', heq]

theorem exists_covers_of_sturdy {p : Pattern} (hp : p ∈ sturdy) {s : Span}
    (hs : s ∈ findAll p content) : ∃ r ∈ removed content, r.Covers s.first.pos s.last.pos := by
  have hwords : ∀ p ∈ cards ++ [plainSsn], p.Every (fun s => s.inWords = true) (fun _ => True) := by
    decide
  have hguarded : ∀ p ∈ cards ++ [plainSsn], p ∈ guarded := by
    intro p hp
    simp only [cards, guarded, List.mem_append, List.mem_cons, List.not_mem_nil, or_false] at hp ⊢
    tauto
  have hshape : p ∈ cards ++ [plainSsn] ∨ p = groupedSsn ∨ p = accessKeyId := by
    simp only [sturdy, List.mem_append, List.mem_cons, List.not_mem_nil, or_false] at hp ⊢
    tauto
  rcases hshape with hp | rfl | rfl
  · exact exists_covers_of_mem_guarded (hguarded p hp) (hwords p hp) hs
  · exact exists_covers_of_groupedSsn hs
  · exact exists_covers_of_accessKeyId hs

/-! ### Matches that may be cut -/

theorem exists_touches_of_mem {p : Pattern} (hp : p ∈ passes) (hne : p ≠ email) {s : Span}
    (hs : s ∈ findAll p content) : ∃ r ∈ removed content, r.Touches s.first.pos s.last.pos := by
  rcases carried_of_mem hp with heq | hcarried
  · exact absurd heq hne
  · exact Draft.exists_touches (fun _ => searchable_of_mem) hp hcarried hs

theorem forall_findings_iff (content : List Char) (P : Nat → Nat → Prop) :
    (∀ label, ∀ f ∈ findings label content, P f.first f.last) ↔
      ∀ p ∈ passes, ∀ s ∈ findAll p content, P s.first.pos s.last.pos := by
  have hlabel (label : Label) : label ∈ Label.all := by cases label <;> decide
  constructor
  · intro h p hp s hs
    obtain ⟨label, -, hp⟩ := List.mem_flatMap.1 hp
    refine h label (.ofSpan s) ?_
    rw [findings, List.mem_eraseDups, List.mem_flatMap]
    exact ⟨p, hp, List.mem_map_of_mem hs⟩
  · intro h label f hf
    rw [findings, List.mem_eraseDups, List.mem_flatMap] at hf
    obtain ⟨p, hp, hf⟩ := hf
    obtain ⟨s, hs, rfl⟩ := List.mem_map.1 hf
    exact h p (List.mem_flatMap.2 ⟨label, hlabel label, hp⟩) s hs

/-- Redaction puts the marker in the place of regions of the text that lie one behind the other.
All that the catalogue finds is inside of them exactly if no region cuts what a fragile pattern
matches and no e-mail address stands apart from all regions. -/
theorem redact_covers_iff (content : List Char) :
    redact marker content = replaced marker 0 content (removed content) ∧
    (removed content).Pairwise (fun a b => a.last ≤ b.first) ∧
    (∀ r ∈ removed content, r.first < r.last ∧ r.last ≤ content.length) ∧
    (∀ p ∈ sturdy, ∀ s ∈ p.findAll content,
      ∃ r ∈ removed content, r.Covers s.first.pos s.last.pos) ∧
    ((∀ label, ∀ f ∈ findings label content, ∃ r ∈ removed content, r.Covers f.first f.last) ↔
      (∀ p ∈ fragile, ∀ s ∈ p.findAll content, ∀ r ∈ removed content,
        r.Touches s.first.pos s.last.pos → r.Covers s.first.pos s.last.pos) ∧
      ∀ s ∈ email.findAll content,
        ∃ r ∈ removed content, r.Touches s.first.pos s.last.pos) := by
  refine ⟨redact_eq content, pairwise_removed content, fun r => bounds_of_mem_removed,
    fun p hp s => exists_covers_of_sturdy hp, ?_⟩
  rw [forall_findings_iff content (fun first last => ∃ r ∈ removed content, r.Covers first last)]
  constructor
  · intro h
    have hfragile : ∀ p ∈ fragile, p ∈ passes := fun p hp => mem_passes_iff.2 (.inr hp)
    refine ⟨?_, ?_⟩
    · intro p hp s hs r hr htouches
      obtain ⟨r', hr', hcovers⟩ := h p (hfragile p hp) s hs
      exact covers_of_touches hr' hcovers hr htouches
    · intro s hs
      have hemail := hfragile email List.mem_cons_self
      obtain ⟨r, hr, hfirst, hlast⟩ := h email hemail s hs
      obtain ⟨-, -, -, hlt⟩ := spans_of_mem_findAll (searchable_of_mem hemail) hs
      exact ⟨r, hr, Nat.lt_of_le_of_lt hfirst hlt, Nat.lt_of_lt_of_le hlt hlast⟩
  · rintro ⟨hcut, hemail⟩ p hp s hs
    rcases mem_passes_iff.1 hp with hsturdy | hfragile
    · exact exists_covers_of_sturdy hsturdy hs
    · have htouched : ∃ r ∈ removed content, r.Touches s.first.pos s.last.pos := by
        by_cases heq : p = email
        · subst heq
          exact hemail s hs
        · exact exists_touches_of_mem hp heq hs
      obtain ⟨r, hr, htouches⟩ := htouched
      exact ⟨r, hr, hcut p hfragile s hs r hr htouches⟩

end Removed

/-- Nine digits are taken out of an address before the address is looked for, and the rest of it
stays: no choice of regions explains the result and has the address inside. -/
theorem redact_cuts_address :
    ¬ ∃ regions : List Region,
      regions.Pairwise (fun a b => a.last ≤ b.first) ∧
      (∀ r ∈ regions, r.first ≤ r.last ∧ r.last ≤ "123456789@b.co".toList.length) ∧
      redact marker "123456789@b.co".toList = replaced marker 0 "123456789@b.co".toList regions ∧
      ∀ label, ∀ f ∈ findings label "123456789@b.co".toList,
        ∃ r ∈ regions, r.Covers f.first f.last := by
  rintro ⟨regions, hordered, hbounds, hredact, hcovers⟩
  have hsign : '@' ∈ redact marker "123456789@b.co".toList := by decide +kernel
  have haddress : ⟨0, 14, "123456789@b.co".toList⟩ ∈
      findings .email "123456789@b.co".toList := by
    decide +kernel
  obtain ⟨r, hr, hfirst, hlast⟩ := hcovers .email _ haddress
  rw [hredact] at hsign
  rcases mem_replaced hordered (fun r hr => ⟨Nat.zero_le _, (hbounds r hr).1⟩) hsign with
    hmarker | ⟨k, hk, houtside⟩
  · exact absurd hmarker (by decide)
  · have hlt : k < 14 := (List.getElem?_eq_some_iff.1 hk).1
    dsimp only at hfirst hlast
    rcases houtside r hr with hbefore | hbehind <;> omega

end LossPrevention.Classifier.Catalogue
