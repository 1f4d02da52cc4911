import LossPrevention.Classifier.Keywords
import Mathlib.Data.List.MinMax

/-!
Which keywords are taken in a text. The search goes over the places of the text and takes the
longest keyword where one occurs, so that a keyword which occurs may be passed over for one that
reaches over its beginning. Main statement: a label is reported if and only if one of its keywords
is taken, and it is reported for certain where the keywords of no other label are in the way.
Further keywords take a label away only by being taken for another one.
-/

namespace LossPrevention.Classifier.Keywords

/-- The word stands behind `n` characters of the text, in any ASCII case. -/
def OccursAt (content : List Char) (n : Nat) (word : List Char) : Prop :=
  word.map Char.toLower <+: (content.drop n).map Char.toLower

instance (content : List Char) (n : Nat) (word : List Char) :
    Decidable (OccursAt content n word) :=
  inferInstanceAs (Decidable (_ <+: _))

/-- The longest keyword at the place, of equally long ones the first. -/
def Wins (keywords : List Keyword) (content : List Char) (n : Nat) (k : Keyword) : Prop :=
  k ∈ (keywords.filter (fun k => OccursAt content n k.word)).argmax (fun k => k.word.length)

/-- The places where the search looks for a keyword. -/
inductive Reached (keywords : List Keyword) (content : List Char) : Nat → Prop
  | start : Reached keywords content 0
  | pass {n : Nat} (h : Reached keywords content n) (hn : n < content.length)
      (hnone : ∀ k ∈ keywords, ¬ OccursAt content n k.word) : Reached keywords content (n + 1)
  | behind {n : Nat} {k : Keyword} (h : Reached keywords content n)
      (hk : Wins keywords content n k) : Reached keywords content (n + k.word.length)

/-- The search comes to the place and takes the keyword there. -/
def Taken (keywords : List Keyword) (content : List Char) (n : Nat) (k : Keyword) : Prop :=
  Reached keywords content n ∧ Wins keywords content n k

/-! ### One place -/

section Place

variable {keywords : List Keyword} {content : List Char} {n : Nat} {k : Keyword}
  {keep : Keyword → Bool}

theorem leads_iff {word text : List Char} :
    leads word text = true ↔ word.map Char.toLower <+: text.map Char.toLower := by
  induction word generalizing text with
  | nil => simp [leads]
  | cons w word ih =>
      cases text with
      | nil => simp [leads]
      | cons c text => simp [leads, ih]

theorem longest?_eq_argmax (keywords : List Keyword) (content : List Char) (n : Nat) :
    longest? keywords (content.drop n) =
      (keywords.filter (fun k => OccursAt content n k.word)).argmax (fun k => k.word.length) := by
  have hfilter : keywords.filter (fun k => leads k.word (content.drop n)) =
      keywords.filter (fun k => OccursAt content n k.word) :=
    List.filter_congr fun k _ => by rw [Bool.eq_iff_iff, leads_iff, decide_eq_true_eq]; rfl
  rw [longest?, hfilter, List.argmax]
  congr 1
  funext best k
  cases best <;> rfl

theorem longest?_eq_some_iff : longest? keywords (content.drop n) = some k ↔
    Wins keywords content n k := by
  rw [longest?_eq_argmax]
  exact Iff.rfl

theorem longest?_eq_none_iff : longest? keywords (content.drop n) = none ↔
    ∀ k ∈ keywords, ¬ OccursAt content n k.word := by
  rw [longest?_eq_argmax, List.argmax_eq_none, List.filter_eq_nil_iff]
  simp only [decide_eq_true_eq]

theorem Wins.mem (h : Wins keywords content n k) : k ∈ keywords ∧ OccursAt content n k.word := by
  have hmem := List.argmax_mem h
  rw [List.mem_filter, decide_eq_true_eq] at hmem
  exact hmem

theorem Wins.length_le (h : Wins keywords content n k) {other : Keyword} (hother : other ∈ keywords)
    (hoccurs : OccursAt content n other.word) : other.word.length ≤ k.word.length := by
  have hmem : other ∈ keywords.filter (fun k => OccursAt content n k.word) :=
    List.mem_filter.2 ⟨hother, decide_eq_true hoccurs⟩
  exact List.le_of_mem_argmax (f := fun k : Keyword => k.word.length) hmem h

theorem Wins.unique {k' : Keyword} (h : Wins keywords content n k)
    (h' : Wins keywords content n k') : k = k' :=
  Option.mem_unique h h'

/-- The first of the greatest stays the first when others are dropped. -/
theorem mem_argmax_filter {size : Keyword → Nat} (h : k ∈ keywords.argmax size)
    (hk : keep k = true) : k ∈ (keywords.filter keep).argmax size := by
  induction keywords using List.reverseRecOn generalizing k with
  | nil => cases h
  | append_singleton keywords last ih =>
      rw [List.argmax_concat] at h
      cases hbest : keywords.argmax size with
      | none =>
          rw [hbest] at h
          cases h
          rw [List.argmax_eq_none.1 hbest, List.nil_append, List.filter_cons_of_pos hk]
          rfl
      | some best =>
          rw [hbest] at h
          simp only at h
          split at h
          · next hlt =>
              cases h
              rw [List.filter_append, List.filter_cons_of_pos hk, List.filter_nil,
                List.argmax_concat]
              cases hrest : (keywords.filter keep).argmax size with
              | none => rfl
              | some other =>
                  have hmem := (List.mem_filter.1 (List.argmax_mem hrest)).1
                  have hle := List.le_of_mem_argmax hmem hbest
                  exact if_pos (Nat.lt_of_le_of_lt hle hlt)
          · next hge =>
              cases h
              have hrest := ih hbest hk
              rw [List.filter_append]
              by_cases hlast : keep last = true
              · rw [List.filter_cons_of_pos hlast, List.filter_nil, List.argmax_concat, hrest]
                exact if_neg hge
              · rw [List.filter_cons_of_neg hlast, List.filter_nil, List.append_nil]
                exact hrest

theorem Wins.filter (h : Wins keywords content n k) (hk : keep k = true) :
    Wins (keywords.filter keep) content n k := by
  have hcomm : (keywords.filter keep).filter (fun k => OccursAt content n k.word) =
      (keywords.filter (fun k => OccursAt content n k.word)).filter keep := by
    rw [List.filter_filter, List.filter_filter]
    exact List.filter_congr fun _ _ => Bool.and_comm _ _
  rw [Wins, hcomm]
  exact mem_argmax_filter h hk

theorem exists_wins {word : Keyword} (hmem : word ∈ keywords)
    (hoccurs : OccursAt content n word.word) : ∃ k, Wins keywords content n k := by
  cases h : longest? keywords (content.drop n) with
  | none => exact absurd hoccurs (longest?_eq_none_iff.1 h word hmem)
  | some k => exact ⟨k, longest?_eq_some_iff.1 h⟩

theorem OccursAt.le_length {word : List Char} (h : OccursAt content n word) (hword : word ≠ []) :
    n + word.length ≤ content.length := by
  have hle := h.length_le
  have hpos := List.length_pos_iff.2 hword
  rw [List.length_map, List.length_map, List.length_drop] at hle
  omega

end Place

/-! ### The search -/

section Search

variable {keywords : List Keyword} {content : List Char} {n : Nat} {k : Keyword}

theorem hits_skip (keywords : List Keyword) (skip : Nat) (content : List Char) :
    hits keywords skip content = hits keywords 0 (content.drop skip) := by
  induction content generalizing skip with
  | nil => simp [hits]
  | cons c content ih =>
      cases skip with
      | zero => rfl
      | succ skip => rw [hits, ih, List.drop_succ_cons]

theorem hits_of_none (h : n < content.length)
    (hnone : ∀ k ∈ keywords, ¬ OccursAt content n k.word) :
    hits keywords 0 (content.drop n) = hits keywords 0 (content.drop (n + 1)) := by
  have hlongest := longest?_eq_none_iff.2 hnone
  rw [List.drop_eq_getElem_cons h] at hlongest ⊢
  rw [hits, hlongest]

theorem hits_of_wins (hword : k.word ≠ []) (h : Wins keywords content n k) :
    hits keywords 0 (content.drop n) =
      k :: hits keywords 0 (content.drop (n + k.word.length)) := by
  have hlongest := longest?_eq_some_iff.2 h
  have hle := h.mem.2.le_length hword
  have hpos := List.length_pos_iff.2 hword
  have hdrop : n + 1 + (k.word.length - 1) = n + k.word.length := by omega
  rw [List.drop_eq_getElem_cons (by omega)] at hlongest ⊢
  rw [hits, hlongest]
  dsimp only
  rw [hits_skip, List.drop_drop, hdrop]

section Fewer

variable {keep : Keyword → Bool} (htaken : ∀ n k, Taken keywords content n k → keep k = true)

include htaken

theorem Reached.wins_of_filter (hn : Reached keywords content n)
    (h : Wins (keywords.filter keep) content n k) : Wins keywords content n k := by
  obtain ⟨hmem, hoccurs⟩ := h.mem
  obtain ⟨k', hwins⟩ := exists_wins (List.mem_filter.1 hmem).1 hoccurs
  have hsame := h.unique (hwins.filter (htaken n k' ⟨hn, hwins⟩))
  exact hsame ▸ hwins

/-- As long as no other keywords are taken, the search for some comes to the same places. -/
theorem reached_of_filter (h : Reached (keywords.filter keep) content n) :
    Reached keywords content n := by
  induction h with
  | start => exact .start
  | @pass n _ hn hnone ih =>
      refine ih.pass hn fun k hk hoccurs => ?_
      obtain ⟨k', hwins⟩ := exists_wins hk hoccurs
      obtain ⟨hmem, hoccurs'⟩ := hwins.mem
      exact hnone k' (List.mem_filter.2 ⟨hmem, htaken n k' ⟨ih, hwins⟩⟩) hoccurs'
  | behind _ hk ih => exact ih.behind (ih.wins_of_filter htaken hk)

theorem taken_of_filter (h : Taken (keywords.filter keep) content n k) :
    Taken keywords content n k := by
  have hreached := reached_of_filter htaken h.1
  exact ⟨hreached, hreached.wins_of_filter htaken h.2⟩

end Fewer

section Words

variable (hwords : ∀ k ∈ keywords, k.word ≠ [])

include hwords

theorem Reached.hits (h : Reached keywords content n) :
    ∃ before, hits keywords 0 content = before ++ hits keywords 0 (content.drop n) := by
  induction h with
  | start => exact ⟨[], rfl⟩
  | pass _ hn hnone ih =>
      obtain ⟨before, ih⟩ := ih
      exact ⟨before, by rw [ih, hits_of_none hn hnone]⟩
  | @behind n k _ hk ih =>
      obtain ⟨before, ih⟩ := ih
      refine ⟨before ++ [k], ?_⟩
      rw [ih, hits_of_wins (hwords k hk.mem.1) hk, List.append_assoc, List.singleton_append]

theorem exists_taken_of_mem_hits (hn : Reached keywords content n)
    (h : k ∈ hits keywords 0 (content.drop n)) : ∃ place, Taken keywords content place k := by
  induction hm : content.length - n using Nat.strongRecOn generalizing n with
  | ind m ih =>
      rcases Nat.lt_or_ge n content.length with hlt | hge
      · cases hlongest : longest? keywords (content.drop n) with
        | none =>
            have hnone := longest?_eq_none_iff.1 hlongest
            rw [hits_of_none hlt hnone] at h
            exact ih _ (by omega) (hn.pass hlt hnone) h rfl
        | some first =>
            have hwins := longest?_eq_some_iff.1 hlongest
            have hword := hwords first hwins.mem.1
            have hpos := List.length_pos_iff.2 hword
            rw [hits_of_wins hword hwins, List.mem_cons] at h
            rcases h with rfl | h
            · exact ⟨n, hn, hwins⟩
            · exact ih _ (by omega) (hn.behind hwins) h rfl
      · rw [List.drop_eq_nil_of_le hge] at h
        cases h

theorem mem_hits_iff : k ∈ hits keywords 0 content ↔ ∃ n, Taken keywords content n k := by
  constructor
  · exact exists_taken_of_mem_hits hwords .start
  · rintro ⟨n, hreached, hwins⟩
    obtain ⟨before, hhits⟩ := hreached.hits hwords
    rw [hhits, hits_of_wins (hwords k hwins.mem.1) hwins]
    exact List.mem_append_right _ List.mem_cons_self

/-- The search comes to a place or has taken a keyword that reaches over it. -/
theorem reached_or_covered (hn : n ≤ content.length) :
    Reached keywords content n ∨
      ∃ m k, Taken keywords content m k ∧ m < n ∧ n < m + k.word.length := by
  induction n with
  | zero => exact .inl .start
  | succ n ih =>
      have hstep {m : Nat} {k : Keyword} (h : Taken keywords content m k) (hm : m ≤ n)
          (hover : n < m + k.word.length) : Reached keywords content (n + 1) ∨
            ∃ m k, Taken keywords content m k ∧ m < n + 1 ∧ n + 1 < m + k.word.length := by
        rcases Nat.lt_or_eq_of_le (Nat.succ_le_of_lt hover) with hlt | heq
        · exact .inr ⟨m, k, h, Nat.lt_succ_of_le hm, hlt⟩
        · have hbehind := h.1.behind h.2
          rw [← heq] at hbehind
          exact .inl hbehind
      rcases ih (Nat.le_of_succ_le hn) with hreached | ⟨m, k, htaken, hm, hover⟩
      · cases hlongest : longest? keywords (content.drop n) with
        | none => exact .inl (hreached.pass hn (longest?_eq_none_iff.1 hlongest))
        | some k =>
            have hwins := longest?_eq_some_iff.1 hlongest
            have hpos := List.length_pos_iff.2 (hwords k hwins.mem.1)
            exact hstep ⟨hreached, hwins⟩ (Nat.le_refl n) (by omega)
      · exact hstep htaken (Nat.le_of_lt hm) hover

theorem exists_taken_over (hk : k ∈ keywords) (h : OccursAt content n k.word) :
    ∃ m k', Taken keywords content m k' ∧ m ≤ n ∧ n < m + k'.word.length ∧
      (m = n → k.word.length ≤ k'.word.length) := by
  have hle := h.le_length (hwords k hk)
  rcases reached_or_covered hwords (Nat.le_of_add_right_le hle) with hreached | hcovered
  · obtain ⟨k', hwins⟩ := exists_wins hk h
    have hpos := List.length_pos_iff.2 (hwords k' hwins.mem.1)
    exact ⟨n, k', ⟨hreached, hwins⟩, Nat.le_refl n, by omega, fun _ => hwins.length_le hk h⟩
  · obtain ⟨m, k', htaken, hm, hover⟩ := hcovered
    exact ⟨m, k', htaken, Nat.le_of_lt hm, hover, fun heq => absurd heq (Nat.ne_of_lt hm)⟩

/-- The search takes keywords one behind the other. -/
theorem le_or_behind {m : Nat} (hm : Reached keywords content m)
    (hn : Taken keywords content n k) : m ≤ n ∨ n + k.word.length ≤ m := by
  induction hsum : m + n using Nat.strongRecOn generalizing m n k with
  | ind sum ih =>
      cases hm with
      | start => exact .inl (Nat.zero_le n)
      | @pass m hm _ hnone =>
          rcases ih (m + n) (by omega) hm hn rfl with hle | hbehind
          · have hne : m ≠ n := by
              rintro rfl
              exact hnone k hn.2.mem.1 hn.2.mem.2
            omega
          · exact .inr (by omega)
      | @behind m k' hm hk' =>
          have hpos := List.length_pos_iff.2 (hwords k' hk'.mem.1)
          rcases ih (m + n) (by omega) hm hn rfl with hle | hbehind
          · rcases Nat.lt_or_eq_of_le hle with hlt | rfl
            · rcases ih (n + m) (by omega) hn.1 ⟨hm, hk'⟩ rfl with hback | hbehind
              · omega
              · exact .inl hbehind
            · exact .inr (Nat.le_of_eq (by rw [hn.2.unique hk']))
          · exact .inr (by omega)

end Words

end Search

/-! ### Labels -/

section Labels

variable {label : String}

theorem get?_foldl_update (found : List Keyword) (counts : List (String × Nat)) :
    Keyed.get? label (found.foldl (fun counts k => Keyed.update k.label 0 (· + 1) counts) counts) =
      if found.countP (fun k => k.label = label) = 0 then Keyed.get? label counts
      else some ((Keyed.get? label counts).getD 0 + found.countP (fun k => k.label = label)) := by
  induction found generalizing counts with
  | nil => rfl
  | cons k found ih =>
      rw [List.foldl_cons, ih, Keyed.update]
      by_cases hk : k.label = label
      · subst hk
        rw [Keyed.get?_insert_self, List.countP_cons_of_pos (by simp), Option.getD_some,
          if_neg (Nat.succ_ne_zero _)]
        split
        · next hzero => rw [hzero]
        · rw [Nat.add_assoc, Nat.add_comm 1]
      · rw [Keyed.get?_insert_of_ne (Ne.symm hk), List.countP_cons_of_neg (by simpa using hk)]

theorem contains_detect_iff {keywords : List Keyword} {content : List Char} :
    Keyed.contains label (detect keywords content) = true ↔
      ∃ k ∈ hits keywords 0 content, k.label = label := by
  rw [Keyed.contains, detect, get?_foldl_update, Keyed.get?_nil]
  split
  · next hzero =>
      rw [List.countP_eq_zero] at hzero
      simpa using hzero
  · next hne =>
      rw [← Ne, ← Nat.pos_iff_ne_zero, List.countP_pos_iff] at hne
      simpa using hne

theorem mem_ofEntries_iff {entries : List (String × List String)} {k : Keyword} :
    k ∈ ofEntries entries ↔ ∃ words, (k.label, words) ∈ entries ∧
      ∃ w ∈ words, Text.trimChars w.toList ≠ [] ∧ k.word = w.toList := by
  simp only [ofEntries, List.mem_flatMap, List.mem_map, List.mem_filter, Bool.not_eq_true',
    List.isEmpty_eq_false_iff]
  constructor
  · rintro ⟨⟨label, words⟩, hentry, w, ⟨hw, hblank⟩, rfl⟩
    exact ⟨words, hentry, w, hw, hblank, rfl⟩
  · obtain ⟨label, word⟩ := k
    rintro ⟨words, hentry, w, hw, hblank, rfl⟩
    exact ⟨(label, words), hentry, w, ⟨hw, hblank⟩, rfl⟩

theorem word_ne_nil {entries : List (String × List String)} :
    ∀ k ∈ ofEntries entries, k.word ≠ [] := by
  intro k hk hnil
  obtain ⟨_, _, w, _, hblank, hword⟩ := mem_ofEntries_iff.1 hk
  rw [← hword, hnil] at hblank
  exact hblank Text.trimChars_nil

theorem contains_detect_iff_taken {keywords : List Keyword} {content : List Char}
    (hwords : ∀ k ∈ keywords, k.word ≠ []) :
    Keyed.contains label (detect keywords content) = true ↔
      ∃ n k, Taken keywords content n k ∧ k.label = label := by
  rw [contains_detect_iff]
  simp only [mem_hits_iff hwords]
  constructor
  · rintro ⟨k, ⟨n, hn⟩, hlabel⟩
    exact ⟨n, k, hn, hlabel⟩
  · rintro ⟨n, k, hn, hlabel⟩
    exact ⟨k, ⟨n, hn⟩, hlabel⟩

/-- Further keywords take a label away only where one of another label is taken. -/
theorem contains_detect_of_filter {keywords : List Keyword} {content : List Char}
    {keep : Keyword → Bool} (hwords : ∀ k ∈ keywords, k.word ≠ [])
    (h : Keyed.contains label (detect (keywords.filter keep) content) = true) :
    Keyed.contains label (detect keywords content) = true ∨
      ∃ n k, Taken keywords content n k ∧ keep k = false ∧ k.label ≠ label := by
  by_cases hother : ∃ n k, Taken keywords content n k ∧ keep k = false
  · obtain ⟨n, k, hn, hkeep⟩ := hother
    by_cases hlabel : k.label = label
    · exact .inl ((contains_detect_iff_taken hwords).2 ⟨n, k, hn, hlabel⟩)
    · exact .inr ⟨n, k, hn, hkeep, hlabel⟩
  · have htaken : ∀ n k, Taken keywords content n k → keep k = true := by simpa using hother
    have hfewer : ∀ k ∈ keywords.filter keep, k.word ≠ [] := fun k hk =>
      hwords k (List.mem_filter.1 hk).1
    obtain ⟨n, k, hn, hlabel⟩ := (contains_detect_iff_taken hfewer).1 h
    exact .inl ((contains_detect_iff_taken hwords).2
      ⟨n, k, taken_of_filter htaken hn, hlabel⟩)

/-- A label is reported exactly if one of its keywords is taken, where the taken keywords lie one
behind the other. Each of them occurs and is not blank; and where a keyword occurs that is not
blank, one is taken that reaches over its beginning, no shorter one in the same place. So a label
is reported if one of its keywords begins where no keyword of another label reaches over, and a
label that some of the keywords report is lost to the others only where one of another label is
taken. -/
theorem detect_iff_taken (entries : List (String × List String)) (content : List Char) :
    (∀ label, Keyed.contains label (detect (ofEntries entries) content) = true ↔
      ∃ n k, Taken (ofEntries entries) content n k ∧ k.label = label) ∧
    (∀ n k, Taken (ofEntries entries) content n k → OccursAt content n k.word ∧
      ∃ words, (k.label, words) ∈ entries ∧
        ∃ w ∈ words, Text.trimChars w.toList ≠ [] ∧ k.word = w.toList) ∧
    (∀ m k n k', Taken (ofEntries entries) content m k → Taken (ofEntries entries) content n k' →
      m < n → m + k.word.length ≤ n) ∧
    (∀ k ∈ ofEntries entries, ∀ n, OccursAt content n k.word →
      ∃ m k', Taken (ofEntries entries) content m k' ∧ m ≤ n ∧ n < m + k'.word.length ∧
        (m = n → k.word.length ≤ k'.word.length)) ∧
    (∀ k ∈ ofEntries entries, ∀ n, OccursAt content n k.word →
      (∀ k' ∈ ofEntries entries, k'.label ≠ k.label →
        ∀ m, OccursAt content m k'.word → m ≤ n → m + k'.word.length ≤ n) →
      Keyed.contains k.label (detect (ofEntries entries) content) = true) ∧
    ∀ keep label,
      Keyed.contains label (detect ((ofEntries entries).filter keep) content) = true →
        Keyed.contains label (detect (ofEntries entries) content) = true ∨
          ∃ n k, Taken (ofEntries entries) content n k ∧ keep k = false ∧ k.label ≠ label := by
  refine ⟨fun _ => contains_detect_iff_taken word_ne_nil, fun n k h => ?_,
    fun m k n k' hm hn hlt => ?_, fun k hk n hoccurs => ?_, fun k hk n hoccurs hfree => ?_,
    fun _ _ h => contains_detect_of_filter word_ne_nil h⟩
  · exact ⟨h.2.mem.2, mem_ofEntries_iff.1 h.2.mem.1⟩
  · rcases le_or_behind word_ne_nil hn.1 hm with hle | hbehind
    · exact absurd hle (Nat.not_le.2 hlt)
    · exact hbehind
  · exact exists_taken_over word_ne_nil hk hoccurs
  · obtain ⟨m, k', hk', hle, hover, -⟩ := exists_taken_over word_ne_nil hk hoccurs
    obtain ⟨hmem, hoccurs'⟩ := hk'.2.mem
    refine (contains_detect_iff_taken word_ne_nil).2 ⟨m, k', hk', ?_⟩
    by_contra hother
    exact absurd (hfree k' hmem hother m hoccurs' hle) (Nat.not_le.2 hover)

/-- The keyword of one label takes the beginning of another one's from it. -/
theorem detect_passes_over :
    (⟨"B", "bcd".toList⟩ : Keyword) ∈ ofEntries [("A", ["abc"]), ("B", ["bcd"])] ∧
    OccursAt "abcd".toList 1 "bcd".toList ∧
    Keyed.contains "B" (detect (ofEntries [("A", ["abc"]), ("B", ["bcd"])]) "abcd".toList) =
      false ∧
    Keyed.contains "B" (detect (ofEntries [("B", ["bcd"])]) "abcd".toList) = true := by
  refine ⟨mem_ofEntries_iff.2 ⟨["bcd"], by simp, "bcd", by simp, ?_, rfl⟩, ?_, ?_, ?_⟩ <;>
    decide +kernel

end Labels

end LossPrevention.Classifier.Keywords
