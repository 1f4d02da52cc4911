import LossPrevention.Classifier.Basic
import LossPrevention.Proofs.Binary64.Order
import LossPrevention.Proofs.Classifier.Detection

/-!
What the sources of a classifier contribute. Main statements: a classification holds what its
sources find each for itself, put together, and it holds no less when more documents are known or a
scorer is asked in addition.
-/

namespace LossPrevention.Classifier

open Binary64 (isNaN isNaN_right)

/-! ### Scores -/

section Scores

variable {x y limit : Float} {xs ys : List Float}

theorem le_greater (h : isNaN x = false) (y : Float) : x ≤ greater x y := by
  unfold greater
  split
  · exact Binary64.le_of_lt ‹_›
  · exact Binary64.le_refl h

theorem le_greater_right (h : isNaN x = false) (h' : isNaN y = false) : y ≤ greater x y := by
  unfold greater
  split
  · exact Binary64.le_refl h'
  · exact Binary64.le_of_not_lt h h' ‹_›

theorem foldl_greater_mem (xs : List Float) (x : Float) :
    xs.foldl greater x = x ∨ xs.foldl greater x ∈ xs := by
  induction xs generalizing x with
  | nil => exact .inl rfl
  | cons y xs ih =>
      rw [List.foldl_cons]
      rcases ih (greater x y) with h | h
      · rw [h, greater]
        split
        · exact .inr List.mem_cons_self
        · exact .inl rfl
      · exact .inr (List.mem_cons_of_mem _ h)

theorem le_foldl_greater (h : isNaN x = false) (xs : List Float) : x ≤ xs.foldl greater x := by
  induction xs generalizing x with
  | nil => exact Binary64.le_refl h
  | cons y xs ih =>
      have hstep := le_greater h y
      exact Binary64.le_trans hstep (ih (isNaN_right hstep))

theorem le_foldl_greater_of_mem (h : isNaN x = false) (hy : y ∈ xs) (h' : isNaN y = false) :
    y ≤ xs.foldl greater x := by
  induction xs generalizing x with
  | nil => cases hy
  | cons z xs ih =>
      have hnext := isNaN_right (le_greater h z)
      rcases List.mem_cons.1 hy with rfl | hy
      · exact Binary64.le_trans (le_greater_right h h') (le_foldl_greater hnext xs)
      · exact ih hnext hy

/-- More scores have no lesser greatest one. -/
theorem foldl_greater_mono (h : isNaN x = false) (hsub : xs ⊆ ys) :
    xs.foldl greater x ≤ ys.foldl greater x := by
  rcases foldl_greater_mem xs x with hmem | hmem
  · rw [hmem]
    exact le_foldl_greater h ys
  · exact le_foldl_greater_of_mem h (hsub hmem)
      (isNaN_right (le_foldl_greater h xs))

theorem atMost_mono (hlimit : isNaN limit = false) (h : x ≤ y) :
    atMost limit x ≤ atMost limit y := by
  unfold atMost
  split
  · split
    · exact h
    · exact Binary64.le_of_lt ‹_›
  · split
    · rename_i hx hy
      exact absurd (Binary64.lt_of_le_of_lt h hy) hx
    · exact Binary64.le_refl hlimit

end Scores

/-! ### Counts -/

/-- Counts by ascending labels, none of them zero. -/
structure Tally (counts : List (String × Nat)) : Prop where
  ascending : Keyed.Ascending counts
  positive : ∀ e ∈ counts, 1 ≤ e.2

section Counts

variable {label : String} {n : Nat} {total counts : List (String × Nat)}

theorem tally_nil : Tally [] := ⟨.nil, List.forall_mem_nil _⟩

theorem Tally.insert (h : Tally counts) (label : String) (hn : 1 ≤ n) :
    Tally (Keyed.insert label n counts) where
  ascending := Keyed.ascending_insert h.ascending label n
  positive := fun e he => by
    rcases Keyed.mem_insert he with rfl | he
    · exact hn
    · exact h.positive e he

theorem tally_detect (content : List Char) : Tally (Catalogue.detect content).counts := by
  have hfold : ∀ (labels : List Label) (d : Catalogue.Detection), Tally d.counts →
      Tally (labels.foldl (Catalogue.addLabel content) d).counts := by
    intro labels
    induction labels with
    | nil => exact fun _ h => h
    | cons label labels ih =>
        refine fun d h => ih _ ?_
        rw [Catalogue.counts_addLabel]
        cases hn : Catalogue.reported? label content with
        | none => exact h
        | some n => exact h.insert _ (Catalogue.reported?_eq_some_iff.1 hn).1
  exact hfold Label.all ⟨[], []⟩ tally_nil

theorem tally_keywords (keywords : List Keywords.Keyword) (content : List Char) :
    Tally (Keywords.detect keywords content) := by
  have hfold : ∀ (found : List Keywords.Keyword) (counts : List (String × Nat)), Tally counts →
      Tally (found.foldl (fun counts k => Keyed.update k.label 0 (· + 1) counts) counts) := by
    intro found
    induction found with
    | nil => exact fun _ h => h
    | cons k found ih => exact fun counts h => ih _ (h.insert _ (Nat.le_add_left 1 _))
  exact hfold _ [] tally_nil

theorem tally_addCounts (h : Tally total) (hcounts : ∀ e ∈ counts, 1 ≤ e.2) :
    Tally (addCounts total counts) := by
  induction counts generalizing total with
  | nil => exact h
  | cons e counts ih =>
      obtain ⟨he, hcounts⟩ := List.forall_mem_cons.1 hcounts
      exact ih (h.insert _ (Nat.le_add_left_of_le he)) hcounts

/-- Counts are added label by label. -/
theorem get?_addCounts (h : (Keyed.keys counts).Nodup) :
    Keyed.get? label (addCounts total counts) =
      (Keyed.get? label total).merge (· + ·) (Keyed.get? label counts) := by
  induction counts generalizing total with
  | nil => exact (Option.merge_none_right).symm
  | cons e counts ih =>
      obtain ⟨other, n⟩ := e
      obtain ⟨hnew, hcounts⟩ := List.nodup_cons.1 h
      have hstep : addCounts total ((other, n) :: counts) =
          addCounts (Keyed.update other 0 (· + n) total) counts := rfl
      rw [hstep, ih hcounts, Keyed.get?, Keyed.update]
      by_cases hlabel : other = label
      · subst hlabel
        rw [Keyed.get?_insert_self, Keyed.get?_eq_none_iff.2 hnew, if_pos rfl]
        cases Keyed.get? other total <;> simp
      · rw [Keyed.get?_insert_of_ne (Ne.symm hlabel), if_neg hlabel]

end Counts

/-! ### Sources -/

section Sources

variable {c c' : Classifier} {order order' : Entropy.Order} {content : List Char} {m : Method}
  {f : Contribution} {label : String}

/-- The entropy of a text, added up in that order, is above the threshold. -/
def Spread (c : Classifier) (order : Entropy.Order) (content : List Char) : Prop :=
  c.config.entropyThreshold < Entropy.shannon order content

def keywordCounts (c : Classifier) (content : List Char) : List (String × Nat) :=
  Keywords.detect (Keywords.ofEntries c.config.keywords) content

/-- A source finds a label on a text, whatever the other sources find. -/
inductive Yields (c : Classifier) (order : Entropy.Order) (content : List Char) :
    Method → String → Prop
  | known (hne : content ≠ [])
      (h : c.known.contains (Sha256.ofText (String.ofList content)) = true) :
      Yields c order content .fingerprint knownDocument
  | pattern {label : String} (h : label ∈ Keyed.keys (Catalogue.detect content).counts) :
      Yields c order content .regex label
  | spread (h : c.Spread order content) :
      Yields c order content .entropy highEntropy
  | keyword {label : String} (h : label ∈ Keyed.keys (c.keywordCounts content)) :
      Yields c order content .keyword label
  | verdict {scorer : List Char → Verdict} (hscorer : c.scorer = some scorer)
      (h : c.config.scorerThreshold < (scorer content).score) :
      Yields c order content .scorer (scorer content).label

/-- All that a source can contribute, and when. -/
inductive Contributes (c : Classifier) (order : Entropy.Order) (content : List Char) :
    Contribution → Prop
  | known (hne : content ≠ [])
      (h : c.known.contains (Sha256.ofText (String.ofList content)) = true) :
      Contributes c order content ⟨.fingerprint, 1.0, [knownDocument], []⟩
  | patterns {n : Nat} (h : ((Catalogue.detect content).counts.map Prod.snd).max? = some n) :
      Contributes c order content ⟨.regex, densityScore n,
        Keyed.keys (Catalogue.detect content).counts, (Catalogue.detect content).counts⟩
  | spread (h : c.Spread order content) :
      Contributes c order content ⟨.entropy, c.config.entropyScore, [highEntropy], []⟩
  | keywords {n : Nat} (h : ((c.keywordCounts content).map Prod.snd).max? = some n) :
      Contributes c order content ⟨.keyword, densityScore n, Keyed.keys (c.keywordCounts content),
        c.keywordCounts content⟩
  | verdict {scorer : List Char → Verdict} (hscorer : c.scorer = some scorer)
      (h : c.config.scorerThreshold < (scorer content).score) :
      Contributes c order content ⟨.scorer, (scorer content).score * c.config.scorerWeight,
        [(scorer content).label], []⟩

theorem fromFingerprint_eq_some_iff : c.fromFingerprint content = some f ↔
    (content ≠ [] ∧ c.known.contains (Sha256.ofText (String.ofList content)) = true) ∧
      f = ⟨.fingerprint, 1.0, [knownDocument], []⟩ := by
  have hempty : c.known.contains (Sha256.ofText (String.ofList content)) = true →
      c.known.isEmpty = false := fun h => by
    rw [Fingerprints.contains, List.contains_iff_mem] at h
    exact List.isEmpty_eq_false_iff.2 (List.ne_nil_of_mem h)
  rw [fromFingerprint, Option.ite_none_right_eq_some, Option.some_inj, eq_comm (a := f)]
  refine and_congr_left fun _ => ?_
  rw [Bool.and_eq_true, Bool.and_eq_true, Bool.not_eq_true', Bool.not_eq_true',
    List.isEmpty_eq_false_iff]
  exact ⟨fun h => ⟨h.1.1, h.2⟩, fun h => ⟨⟨h.1, hempty h.2⟩, h.2⟩⟩

theorem fromCounts_eq_some_iff {counts : List (String × Nat)} :
    fromCounts m counts = some f ↔
      ∃ n, (counts.map Prod.snd).max? = some n ∧
        f = ⟨m, densityScore n, Keyed.keys counts, counts⟩ := by
  rw [fromCounts, Option.map_eq_some_iff]
  exact exists_congr fun n => and_congr_right fun _ => eq_comm

theorem fromEntropy_eq_some_iff : c.fromEntropy order content = some f ↔
    c.Spread order content ∧ f = ⟨.entropy, c.config.entropyScore, [highEntropy], []⟩ := by
  rw [fromEntropy, Spread, Option.ite_none_right_eq_some, Option.some_inj, eq_comm (a := f)]

theorem fromScorer_eq_some_iff : c.fromScorer content = some f ↔
    ∃ scorer, c.scorer = some scorer ∧
      c.config.scorerThreshold < (scorer content).score ∧
        f = ⟨.scorer, (scorer content).score * c.config.scorerWeight,
          [(scorer content).label], []⟩ := by
  rw [fromScorer, Option.bind_eq_some_iff]
  refine exists_congr fun scorer => and_congr_right fun _ => ?_
  rw [Option.ite_none_right_eq_some, Option.some_inj, eq_comm (a := f)]

theorem mem_contributions : f ∈ c.contributions order content ↔ Contributes c order content f := by
  have hsources : f ∈ c.contributions order content ↔
      c.fromFingerprint content = some f ∨ fromPatterns content = some f ∨
        c.fromEntropy order content = some f ∨ c.fromKeywords content = some f ∨
          c.fromScorer content = some f := by
    simp [contributions, eq_comm]
  rw [hsources, fromFingerprint_eq_some_iff, fromPatterns, fromCounts_eq_some_iff,
    fromEntropy_eq_some_iff, fromKeywords, fromCounts_eq_some_iff, fromScorer_eq_some_iff]
  constructor
  · rintro (⟨⟨hne, h⟩, rfl⟩ | ⟨n, h, rfl⟩ | ⟨h, rfl⟩ | ⟨n, h, rfl⟩ | ⟨scorer, hscorer, h, rfl⟩)
    · exact .known hne h
    · exact .patterns h
    · exact .spread h
    · exact .keywords h
    · exact .verdict hscorer h
  · intro h
    cases h with
    | known hne h => exact .inl ⟨⟨hne, h⟩, rfl⟩
    | patterns h => exact .inr (.inl ⟨_, h, rfl⟩)
    | spread h => exact .inr (.inr (.inl ⟨h, rfl⟩))
    | keywords h => exact .inr (.inr (.inr (.inl ⟨_, h, rfl⟩)))
    | verdict hscorer h => exact .inr (.inr (.inr (.inr ⟨_, hscorer, h, rfl⟩)))

theorem exists_max?_iff {counts : List (String × Nat)} :
    (∃ n, (counts.map Prod.snd).max? = some n) ↔ Keyed.keys counts ≠ [] := by
  rw [← Option.ne_none_iff_exists', ne_eq, List.max?_eq_none_iff, List.map_eq_nil_iff, Keyed.keys,
    ne_eq, List.map_eq_nil_iff]

/-- No source contributes without a label. -/
theorem Contributes.labels_ne_nil (h : Contributes c order content f) : f.labels ≠ [] := by
  cases h with
  | known | spread | verdict => exact List.cons_ne_nil _ _
  | patterns h | keywords h => exact exists_max?_iff.1 ⟨_, h⟩

theorem yields_iff :
    Yields c order content m label ↔
      ∃ f, Contributes c order content f ∧ f.method = m ∧ label ∈ f.labels := by
  constructor
  · intro h
    cases h with
    | known hne h => exact ⟨_, .known hne h, rfl, List.mem_singleton.2 rfl⟩
    | pattern h =>
        obtain ⟨n, hn⟩ := exists_max?_iff.2 (List.ne_nil_of_mem h)
        exact ⟨_, .patterns hn, rfl, h⟩
    | spread h => exact ⟨_, .spread h, rfl, List.mem_singleton.2 rfl⟩
    | keyword h =>
        obtain ⟨n, hn⟩ := exists_max?_iff.2 (List.ne_nil_of_mem h)
        exact ⟨_, .keywords hn, rfl, h⟩
    | verdict hscorer h => exact ⟨_, .verdict hscorer h, rfl, List.mem_singleton.2 rfl⟩
  · rintro ⟨f, hf, rfl, hlabel⟩
    cases hf with
    | known hne h =>
        rw [List.mem_singleton.1 hlabel]
        exact .known hne h
    | patterns => exact .pattern hlabel
    | spread h =>
        rw [List.mem_singleton.1 hlabel]
        exact .spread h
    | keywords => exact .keyword hlabel
    | verdict hscorer h =>
        rw [List.mem_singleton.1 hlabel]
        exact .verdict hscorer h

theorem exists_yields_iff :
    (∃ label, Yields c order content m label) ↔
      ∃ f, Contributes c order content f ∧ f.method = m := by
  simp only [yields_iff]
  constructor
  · rintro ⟨label, f, hf, hm, -⟩
    exact ⟨f, hf, hm⟩
  · rintro ⟨f, hf, hm⟩
    obtain ⟨label, hlabel⟩ := List.exists_mem_of_ne_nil _ hf.labels_ne_nil
    exact ⟨label, f, hf, hm, hlabel⟩

/-! ### Their sum -/

theorem Method.name_injective : Function.Injective Method.name := by
  intro m m' h
  cases m <;> cases m' <;> first | rfl | exact absurd h (by decide)

theorem mem_ascending {text : String} {texts : List String} :
    text ∈ ascending texts ↔ text ∈ texts := by
  rw [ascending, Keyed.mem_keys_ofList, Keyed.keys, List.map_map]
  simp

theorem ascending_ascending (texts : List String) : (ascending texts).Pairwise (· < ·) :=
  List.pairwise_map.2 (Keyed.ascending_ofList _)

theorem mem_labels_classify :
    label ∈ (c.classify order content).labels ↔ ∃ m, Yields c order content m label := by
  have hclassify : label ∈ (c.classify order content).labels ↔
      label ∈ ascending ((c.contributions order content).flatMap Contribution.labels) := Iff.rfl
  rw [hclassify, mem_ascending, List.mem_flatMap]
  simp only [mem_contributions, yields_iff]
  constructor
  · rintro ⟨f, hf, hlabel⟩
    exact ⟨_, f, hf, rfl, hlabel⟩
  · rintro ⟨m, f, hf, -, hlabel⟩
    exact ⟨f, hf, hlabel⟩

theorem mem_methods_classify {name : String} :
    name ∈ (c.classify order content).methods ↔
      ∃ m, m.name = name ∧ ∃ label, Yields c order content m label := by
  have hclassify : name ∈ (c.classify order content).methods ↔
      name ∈ ascending ((c.contributions order content).map (fun f => f.method.name)) := Iff.rfl
  rw [hclassify, mem_ascending, List.mem_map]
  simp only [mem_contributions, exists_yields_iff]
  constructor
  · rintro ⟨f, hf, hname⟩
    exact ⟨_, hname, f, hf, rfl⟩
  · rintro ⟨m, hname, f, hf, rfl⟩
    exact ⟨f, hf, hname⟩

theorem exists_yields_entropy_iff :
    (∃ label, Yields c order content .entropy label) ↔ c.Spread order content :=
  ⟨fun ⟨_, hyield⟩ => by cases hyield; assumption, fun h => ⟨_, .spread h⟩⟩

theorem mem_methods_entropy :
    Method.entropy.name ∈ (c.classify order content).methods ↔ c.Spread order content := by
  rw [mem_methods_classify, ← exists_yields_entropy_iff]
  exact ⟨fun ⟨m, hname, h⟩ => Method.name_injective hname ▸ h, fun h => ⟨.entropy, rfl, h⟩⟩

/-- What a source adds to the counts. -/
def counted (o : Option Contribution) : List (String × Nat) :=
  (o.map Contribution.counts).getD []

theorem counted_fromCounts (m : Method) (counts : List (String × Nat)) :
    counted (fromCounts m counts) = counts := by
  cases h : fromCounts m counts with
  | some f =>
      obtain ⟨n, -, rfl⟩ := fromCounts_eq_some_iff.1 h
      rfl
  | none =>
      rw [fromCounts, Option.map_eq_none_iff, List.max?_eq_none_iff, List.map_eq_nil_iff] at h
      exact h.symm

theorem counted_eq_nil {o : Option Contribution} (h : ∀ f, o = some f → f.counts = []) :
    counted o = [] := by
  cases o with
  | none => rfl
  | some f => exact h f rfl

theorem foldl_addCounts_filterMap (os : List (Option Contribution))
    (total : List (String × Nat)) :
    ((os.filterMap id).map Contribution.counts).foldl addCounts total =
      (os.map counted).foldl addCounts total := by
  induction os generalizing total with
  | nil => rfl
  | cons o os ih =>
      cases o with
      | none => exact ih total
      | some f => exact ih (addCounts total f.counts)

/-- Only patterns and keywords are counted. -/
theorem labelCounts_classify (c : Classifier) (order : Entropy.Order) (content : List Char) :
    (c.classify order content).labelCounts =
      addCounts (addCounts [] (Catalogue.detect content).counts) (c.keywordCounts content) := by
  have hfingerprint : counted (c.fromFingerprint content) = [] := counted_eq_nil fun f hf => by
    rw [(fromFingerprint_eq_some_iff.1 hf).2]
  have hentropy : counted (c.fromEntropy order content) = [] := counted_eq_nil fun f hf => by
    rw [(fromEntropy_eq_some_iff.1 hf).2]
  have hscorer : counted (c.fromScorer content) = [] := counted_eq_nil fun f hf => by
    obtain ⟨scorer, -, -, rfl⟩ := fromScorer_eq_some_iff.1 hf
    rfl
  have hpatterns : counted (fromPatterns content) = (Catalogue.detect content).counts :=
    counted_fromCounts _ _
  have hkeywords : counted (c.fromKeywords content) = c.keywordCounts content :=
    counted_fromCounts _ _
  have hfold : (c.classify order content).labelCounts =
      ([c.fromFingerprint content, fromPatterns content, c.fromEntropy order content,
        c.fromKeywords content, c.fromScorer content].map counted).foldl addCounts [] :=
    foldl_addCounts_filterMap _ _
  rw [hfold]
  simp only [List.map_cons, List.map_nil, hfingerprint, hpatterns, hentropy, hkeywords, hscorer]
  rfl

theorem get?_labelCounts :
    Keyed.get? label (c.classify order content).labelCounts =
      (Keyed.get? label (Catalogue.detect content).counts).merge (· + ·)
        (Keyed.get? label (c.keywordCounts content)) := by
  have hpatterns := (tally_detect content).ascending.nodup
  have hkeywords : (Keyed.keys (c.keywordCounts content)).Nodup :=
    (tally_keywords _ content).ascending.nodup
  rw [labelCounts_classify, get?_addCounts hkeywords, get?_addCounts hpatterns, Keyed.get?_nil,
    Option.merge_none_left]

theorem tally_labelCounts (c : Classifier) (order : Entropy.Order) (content : List Char) :
    Tally (c.classify order content).labelCounts := by
  rw [labelCounts_classify]
  exact tally_addCounts (tally_addCounts tally_nil (tally_detect content).positive)
    (tally_keywords _ content).positive

theorem mem_labels_of_counted (h : label ∈ Keyed.keys (c.classify order content).labelCounts) :
    label ∈ (c.classify order content).labels := by
  have hsome : Keyed.get? label (c.classify order content).labelCounts ≠ none :=
    fun hnone => Keyed.get?_eq_none_iff.1 hnone h
  rw [get?_labelCounts, ne_eq, Option.merge_eq_none_iff, Keyed.get?_eq_none_iff,
    Keyed.get?_eq_none_iff, not_and_or, not_not, not_not] at hsome
  rcases hsome with h | h
  · exact mem_labels_classify.2 ⟨_, .pattern h⟩
  · exact mem_labels_classify.2 ⟨_, .keyword h⟩

/-! ### More sources -/

/-- The classifier knows more or asks more, and is the same otherwise. -/
structure Extends (c c' : Classifier) : Prop where
  config : c'.config = c.config
  known : ∀ digest, c.known.contains digest = true → c'.known.contains digest = true
  scorer : ∀ scorer, c.scorer = some scorer → c'.scorer = some scorer

theorem Extends.refl (c : Classifier) : Extends c c := ⟨rfl, fun _ h => h, fun _ h => h⟩

theorem Extends.trans {c'' : Classifier} (h : Extends c c') (h' : Extends c' c'') :
    Extends c c'' where
  config := h'.config.trans h.config
  known := fun digest hc => h'.known digest (h.known digest hc)
  scorer := fun scorer hc => h'.scorer scorer (h.scorer scorer hc)

theorem Extends.keywordCounts_eq (h : Extends c c') (content : List Char) :
    c'.keywordCounts content = c.keywordCounts content := by
  rw [keywordCounts, keywordCounts, h.config]

/-- What contributes goes on to contribute the same, the entropy if it stays above the threshold. -/
theorem Extends.contributes (h : Extends c c')
    (hspread : c.Spread order content → c.Spread order' content)
    (hf : Contributes c order content f) : Contributes c' order' content f := by
  have hthreshold : c.Spread order' content → c'.Spread order' content := by
    rw [Spread, Spread, h.config]
    exact id
  cases hf with
  | known hne hknown => exact .known hne (h.known _ hknown)
  | patterns hn => exact .patterns hn
  | spread hs => exact h.config ▸ .spread (hthreshold (hspread hs))
  | keywords hn =>
      exact h.keywordCounts_eq content ▸ .keywords ((h.keywordCounts_eq content).symm ▸ hn)
  | verdict hscorer hverdict =>
      exact h.config ▸ .verdict (h.scorer _ hscorer) (h.config.symm ▸ hverdict)

theorem Extends.yields (h : Extends c c')
    (hspread : c.Spread order content → c.Spread order' content)
    (hyield : Yields c order content m label) : Yields c' order' content m label := by
  obtain ⟨f, hf, hm⟩ := yields_iff.1 hyield
  exact yields_iff.2 ⟨f, h.contributes hspread hf, hm⟩

/-- Says no less, and counts the same. -/
structure Within (r r' : Classification) : Prop where
  labels : r.labels ⊆ r'.labels
  methods : r.methods ⊆ r'.methods
  counts : r'.labelCounts = r.labelCounts
  score : r.score ≤ r'.score

theorem Extends.labelCounts_eq (h : Extends c c') (content : List Char) :
    (c'.classify order' content).labelCounts = (c.classify order content).labelCounts := by
  rw [labelCounts_classify, labelCounts_classify, h.keywordCounts_eq]

theorem Extends.within (h : Extends c c')
    (hspread : c.Spread order content → c.Spread order' content) :
    Within (c.classify order content) (c'.classify order' content) := by
  have hscores : (c.contributions order content).map Contribution.score ⊆
      (c'.contributions order' content).map Contribution.score :=
    List.map_subset _ fun f hf =>
      mem_contributions.2 (h.contributes hspread (mem_contributions.1 hf))
  refine ⟨fun label hlabel => ?_, fun name hname => ?_, h.labelCounts_eq content, ?_⟩
  · obtain ⟨m, hyield⟩ := mem_labels_classify.1 hlabel
    exact mem_labels_classify.2 ⟨m, h.yields hspread hyield⟩
  · obtain ⟨m, hm, label, hyield⟩ := mem_methods_classify.1 hname
    exact mem_methods_classify.2 ⟨m, hm, label, h.yields hspread hyield⟩
  · exact atMost_mono (by decide) (foldl_greater_mono (by decide) hscores)

/-- What a classification with more sources keeps of one with less, if the entropies were added up
in two orders: always the counts, and the rest unless the entropy has fallen to the threshold. -/
structure Keeps (c : Classifier) (order order' : Entropy.Order) (content : List Char)
    (r r' : Classification) : Prop where
  counts : r'.labelCounts = r.labelCounts
  within : Within r r' ↔ (c.Spread order content → c.Spread order' content)

theorem Extends.keeps (h : Extends c c') (order order' : Entropy.Order) (content : List Char) :
    Keeps c order order' content (c.classify order content) (c'.classify order' content) where
  counts := h.labelCounts_eq content
  within := by
    refine ⟨fun hwithin hspread => ?_, h.within⟩
    have hmethod := hwithin.methods (mem_methods_classify.2 ⟨.entropy, rfl, _, .spread hspread⟩)
    have hspread' := mem_methods_entropy.1 hmethod
    rwa [Spread, h.config] at hspread'

/-- What a classification holds of what its sources find. -/
structure Combines (c : Classifier) (order : Entropy.Order) (content : List Char)
    (r : Classification) : Prop where
  labels : ∀ label, label ∈ r.labels ↔ ∃ m, Yields c order content m label
  methods : ∀ m : Method, m.name ∈ r.methods ↔ ∃ label, Yields c order content m label
  named : ∀ name ∈ r.methods, ∃ m : Method, m.name = name
  ascending : r.labels.Pairwise (· < ·) ∧ r.methods.Pairwise (· < ·)
  counts : ∀ label, Keyed.get? label r.labelCounts =
    (Keyed.get? label (Catalogue.detect content).counts).merge (· + ·)
      (Keyed.get? label (c.keywordCounts content))
  counted : ∀ e ∈ r.labelCounts, e.1 ∈ r.labels ∧ 1 ≤ e.2
  sensitive : r.isSensitive = true ↔ r.methods ≠ []
  silent : r.methods = [] → r.score = 0.0

theorem methods_ne_nil_iff :
    (c.classify order content).methods ≠ [] ↔ ∃ m label, Yields c order content m label := by
  constructor
  · intro h
    obtain ⟨name, hname⟩ := List.exists_mem_of_ne_nil _ h
    obtain ⟨m, -, hyield⟩ := mem_methods_classify.1 hname
    exact ⟨m, hyield⟩
  · rintro ⟨m, hyield⟩
    exact List.ne_nil_of_mem (mem_methods_classify.2 ⟨m, rfl, hyield⟩)

theorem isSensitive_iff :
    (c.classify order content).isSensitive = true ↔ ∃ m label, Yields c order content m label := by
  rw [Classification.isSensitive, Bool.not_eq_true', List.isEmpty_eq_false_iff]
  constructor
  · intro h
    obtain ⟨label, hlabel⟩ := List.exists_mem_of_ne_nil _ h
    obtain ⟨m, hyield⟩ := mem_labels_classify.1 hlabel
    exact ⟨m, label, hyield⟩
  · rintro ⟨m, label, hyield⟩
    exact List.ne_nil_of_mem (mem_labels_classify.2 ⟨m, hyield⟩)

theorem score_of_silent (h : (c.classify order content).methods = []) :
    (c.classify order content).score = 0.0 := by
  have hnone : c.contributions order content = [] := by
    refine List.eq_nil_iff_forall_not_mem.2 fun f hf => ?_
    exact methods_ne_nil_iff.2 ⟨_, exists_yields_iff.2 ⟨f, mem_contributions.1 hf, rfl⟩⟩ h
  have hscore : (c.classify order content).score =
      atMost 1.0 (((c.contributions order content).map Contribution.score).foldl greater 0.0) := rfl
  rw [hscore, hnone]
  exact if_pos (by decide)

theorem combines_classify (c : Classifier) (order : Entropy.Order) (content : List Char) :
    Combines c order content (c.classify order content) where
  labels := fun _ => mem_labels_classify
  methods := fun m => by
    rw [mem_methods_classify]
    exact ⟨fun ⟨m', hname, h⟩ => Method.name_injective hname ▸ h, fun h => ⟨m, rfl, h⟩⟩
  named := fun name h => by
    obtain ⟨m, hname, -⟩ := mem_methods_classify.1 h
    exact ⟨m, hname⟩
  ascending := ⟨ascending_ascending _, ascending_ascending _⟩
  counts := fun _ => get?_labelCounts
  counted := fun e he => ⟨mem_labels_of_counted (List.mem_map_of_mem he),
    (tally_labelCounts c order content).positive e he⟩
  sensitive := isSensitive_iff.trans methods_ne_nil_iff.symm
  silent := score_of_silent

end Sources

end LossPrevention.Classifier
