import LossPrevention.Proofs.Classifier.Detection
import LossPrevention.Proofs.Doubles
import LossPrevention.Proofs.Pattern.Runs

/-!
Card numbers in a text. The four patterns of the label take digits between two edges, so that what
they find are words of the text, each with a place of its own. Main statement: card numbers are
reported and refused by a look at every word, without any pattern.
-/

namespace LossPrevention.Classifier

open Pattern
open Text (CharSet)

/-! ### Numbers by their digits -/

/-- The numbers of one kind of cards: how long they are, and what they begin with. -/
structure Brand where
  lengths : List Nat
  leads : List String

namespace Brand

def issues (b : Brand) (token : List Char) : Bool :=
  token.all Char.isDigit && b.lengths.contains token.length &&
    b.leads.any (fun lead => lead.toList.isPrefixOf token)

def visa : Brand := ⟨[13, 16], ["4"]⟩

def mastercard : Brand := ⟨[16], ["51", "52", "53", "54", "55"]⟩

def amex : Brand := ⟨[15], ["34", "37"]⟩

def discover : Brand := ⟨[16], ["6011", "65"]⟩

theorem issues_iff {b : Brand} {token : List Char} :
    b.issues token = true ↔ (∀ c ∈ token, c.isDigit = true) ∧ token.length ∈ b.lengths ∧
      ∃ lead ∈ b.leads, lead.toList <+: token := by
  simp [issues, and_assoc]

theorem issues_iff_exists {b : Brand} {token : List Char}
    (h : b.leads.all (fun lead => lead.toList.all Char.isDigit) = true) :
    b.issues token = true ↔ ∃ lead ∈ b.leads, ∃ rest, token = lead.toList ++ rest ∧
      lead.toList.length + rest.length ∈ b.lengths ∧ ∀ c ∈ rest, c.isDigit = true := by
  rw [issues_iff]
  constructor
  · rintro ⟨hdigits, hlength, lead, hlead, rest, rfl⟩
    rw [List.length_append] at hlength
    exact ⟨lead, hlead, rest, rfl, hlength, (List.forall_mem_append.1 hdigits).2⟩
  · rintro ⟨lead, hlead, rest, rfl, hlength, hdigits⟩
    rw [← List.length_append] at hlength
    have hlead' := List.all_eq_true.1 (List.all_eq_true.1 h lead hlead)
    exact ⟨List.forall_mem_append.2 ⟨hlead', hdigits⟩, hlength, lead, hlead, rest, rfl⟩

end Brand

/-- ASCII digits in the length and with the beginning of a card number. -/
def isCard (token : List Char) : Bool :=
  [Brand.visa, .mastercard, .amex, .discover].any (fun b => b.issues token)

/-- The words of a text that are card numbers by their digits. -/
def cardTokens (content : List Char) : List (List Char) := (wordRuns content).filter isCard

namespace Catalogue

/-! ### What the patterns take -/

/-- What stands between the edges, for each kind of cards. -/
def cardBodies : List (Brand × List Pattern) := [
  (.visa, [char '4', asciiDigits 12, optional (asciiDigits 3)]),
  (.mastercard, [char '5', .set (.range 0x31 0x35), asciiDigits 14]),
  (.amex, [char '3', oneOf ['4', '7'], asciiDigits 13]),
  (.discover, [char '6', .alt (word "011") (.seq (char '5') (asciiDigits 2)), asciiDigits 12])]

theorem patterns_pan : patterns .pan = cardBodies.map (fun k => edged k.2) := rfl

theorem wholeWord_of_mem {k : Brand × List Pattern} (h : k ∈ cardBodies) : WholeWord k.2 := by
  have hall : ∀ k ∈ cardBodies, Proper (edged k.2) ∧ 0 < minLength (edged k.2) ∧
      0 < minLength (Pattern.all k.2) ∧
      (Pattern.all k.2).Every (fun s => s.inWords = true) (fun _ => False) := by
    decide +kernel
  obtain ⟨hproper, hlength, htakes, hwords⟩ := hall k h
  exact ⟨⟨hproper, hlength⟩, htakes, hwords⟩

theorem contains_asciiDigit_iff {c : Char} :
    CharSet.asciiDigit.contains c = true ↔ c.isDigit = true := by
  rw [CharSet.asciiDigit, CharSet.contains, Bool.and_eq_true, decide_eq_true_eq,
    decide_eq_true_eq, Char.isDigit_iff_toNat]
  exact Iff.rfl

section Takes

variable {cs : List Char} {n : Nat}

theorem takes_asciiDigits :
    Takes (asciiDigits n) cs ↔ cs.length = n ∧ ∀ c ∈ cs, c.isDigit = true := by
  rw [asciiDigits, takes_times_set]
  simp only [contains_asciiDigit_iff]

theorem takes_asciiDigits_pair {m : Nat} :
    Takes (Pattern.all [asciiDigits m, asciiDigits n]) cs ↔ Takes (asciiDigits (m + n)) cs :=
  takes_times_pair

theorem takes_visa :
    Takes (Pattern.all [char '4', asciiDigits 12, optional (asciiDigits 3)]) cs ↔
      Brand.visa.issues cs = true := by
  have hlength (n : Nat) : (1 + n = 13 ↔ n = 12) ∧ (1 + n = 16 ↔ n = 15) := by omega
  rw [Brand.issues_iff_exists (by decide), takes_char_cons]
  simp only [takes_optional_last, takes_asciiDigits_pair, takes_asciiDigits, Brand.visa,
    List.exists_mem_cons_iff]
  simp [hlength, or_and_right]

theorem takes_mastercard :
    Takes (Pattern.all [char '5', .set (.range 0x31 0x35), asciiDigits 14]) cs ↔
      Brand.mastercard.issues cs = true := by
  have hset (x : Char) :
      (CharSet.range 0x31 0x35).contains x = true ↔ x ∈ ['1', '2', '3', '4', '5'] := by
    rw [CharSet.contains, Bool.and_eq_true, decide_eq_true_eq, decide_eq_true_eq]
    constructor
    · rintro ⟨hlow, hhigh⟩
      obtain ⟨k, hk⟩ := Nat.exists_eq_add_of_le hlow
      have hall : ∀ k < 5, Char.ofNat (0x31 + k) ∈ ['1', '2', '3', '4', '5'] := by decide
      rw [← Char.ofNat_toNat x, hk]
      exact hall k (by omega)
    · simp only [List.mem_cons, List.not_mem_nil, or_false]
      rintro (rfl | rfl | rfl | rfl | rfl) <;> decide
  have hlength (n : Nat) : 2 + n = 16 ↔ n = 14 := by omega
  rw [Brand.issues_iff_exists (by decide), takes_char_cons]
  simp only [takes_choice_cons hset, takes_last, takes_asciiDigits, Brand.mastercard,
    List.exists_mem_cons_iff]
  simp [hlength, and_or_left, exists_or]

theorem takes_amex :
    Takes (Pattern.all [char '3', oneOf ['4', '7'], asciiDigits 13]) cs ↔
      Brand.amex.issues cs = true := by
  have hset (x : Char) : (CharSet.unions (['4', '7'].map .single)).contains x = true ↔
      x ∈ ['4', '7'] := by
    simp [CharSet.unions, CharSet.contains, ← CharSet.contains_single_iff]
  have hlength (n : Nat) : 2 + n = 15 ↔ n = 13 := by omega
  rw [Brand.issues_iff_exists (by decide), takes_char_cons]
  simp only [oneOf, takes_choice_cons hset, takes_last, takes_asciiDigits, Brand.amex,
    List.exists_mem_cons_iff]
  simp [hlength, and_or_left, exists_or]

theorem takes_discover :
    Takes (Pattern.all [char '6', .alt (word "011") (.seq (char '5') (asciiDigits 2)),
      asciiDigits 12]) cs ↔ Brand.discover.issues cs = true := by
  have hlength (n : Nat) : (4 + n = 16 ↔ n = 12) ∧ (2 + n = 16 ↔ n = 14) := by omega
  rw [Brand.issues_iff_exists (by decide), takes_char_cons]
  simp only [takes_alt_cons, takes_word_cons, takes_seq_cons, takes_char_cons,
    takes_asciiDigits_pair, takes_last, takes_asciiDigits, Brand.discover,
    List.exists_mem_cons_iff]
  simp [hlength, and_or_left, exists_or]

end Takes

theorem takes_of_mem {k : Brand × List Pattern} (h : k ∈ cardBodies) (cs : List Char) :
    k.1.issues cs = true ↔ Takes (Pattern.all k.2) cs := by
  simp only [cardBodies, List.mem_cons, List.not_mem_nil, or_false] at h
  rcases h with rfl | rfl | rfl | rfl
  · exact takes_visa.symm
  · exact takes_mastercard.symm
  · exact takes_amex.symm
  · exact takes_discover.symm

/-! ### Words in their places -/

/-- Parts of a text with one character between any two, where they stand in it. -/
def placed : Nat → List (List Char) → List Finding
  | _, [] => []
  | n, cs :: rest => ⟨n, n + cs.length, cs⟩ :: placed (n + cs.length + 1) rest

def Finding.shift (n : Nat) (f : Finding) : Finding := ⟨f.first + n, f.last + n, f.chars⟩

section Placed

variable {parts : List (List Char)} {n : Nat}

theorem placed_add (n k : Nat) (parts : List (List Char)) :
    placed (n + k) parts = (placed n parts).map (Finding.shift k) := by
  induction parts generalizing n with
  | nil => rfl
  | cons cs rest ih =>
      rw [placed, placed, List.map_cons, ← ih]
      have hlast : n + k + cs.length = n + cs.length + k := by omega
      have hnext : n + cs.length + k + 1 = n + cs.length + 1 + k := by omega
      rw [hlast, hnext]
      rfl

theorem map_chars_placed (n : Nat) (parts : List (List Char)) :
    (placed n parts).map Finding.chars = parts := by
  induction parts generalizing n with
  | nil => rfl
  | cons cs rest ih => rw [placed, List.map_cons, ih]

theorem le_first_of_mem_placed {f : Finding} (h : f ∈ placed n parts) : n ≤ f.first := by
  induction parts generalizing n with
  | nil => cases h
  | cons cs rest ih =>
      rcases List.mem_cons.1 h with rfl | h
      · exact Nat.le_refl n
      · have hle := ih h
        omega

theorem nodup_placed (n : Nat) (parts : List (List Char)) : (placed n parts).Nodup := by
  induction parts generalizing n with
  | nil => exact List.nodup_nil
  | cons cs rest ih =>
      rw [placed, List.nodup_cons]
      refine ⟨fun hmem => ?_, ih _⟩
      have hle := le_first_of_mem_placed hmem
      dsimp only at hle
      omega

end Placed

theorem ofSpan_within (s : Span) (front : List Char) :
    Finding.ofSpan (s.within front []) = (Finding.ofSpan s).shift front.length := by
  simp [Finding.ofSpan, Finding.shift, Span.within, Span.chars, Span.length, Cursor.within,
    Nat.add_sub_add_right]

theorem ofSpan_word (cs after : List Char) :
    Finding.ofSpan (Span.within [] after ⟨Cursor.start cs, Cursor.last cs⟩) =
      ⟨0, 0 + cs.length, cs⟩ := by
  simp [Finding.ofSpan, Span.within, Span.chars, Span.length, Cursor.within, Cursor.start,
    Cursor.last, Cursor.place]

/-- What a pattern for whole words finds in a text. -/
theorem findAll_eq_placed {body : List Pattern} (h : WholeWord body) {fits : List Char → Bool}
    (hfits : ∀ cs, fits cs = true ↔ Takes (Pattern.all body) cs) (text : List Char) :
    (findAll (edged body) text).map Finding.ofSpan =
      (placed 0 (wordRuns text)).filter (fun f => fits f.chars) := by
  have hword {cs : List Char} (hcs : ∀ c ∈ cs, Text.isWord c = true) (after : List Char) :
      ((findAll (edged body) cs).map (Span.within [] after)).map Finding.ofSpan =
        [⟨0, 0 + cs.length, cs⟩].filter (fun f => fits f.chars) := by
    rw [h.findAll_word hcs hfits]
    cases hfit : fits cs <;> simp [hfit, ofSpan_word]
  induction text using wordRuns_induct with
  | word cs hcs =>
      have hself (s : Span) : s.within [] [] = s := by
        simp [Span.within, Cursor.within]
      have hall := hword hcs []
      rw [funext hself, List.map_id'] at hall
      rw [wordRuns_word hcs]
      exact hall
  | more cs x rest hcs hx ih =>
      have hnext : 0 + cs.length + 1 = 0 + (cs ++ [x]).length := by simp
      have hback : ((findAll (edged body) rest).map (Span.within (cs ++ [x]) [])).map
          Finding.ofSpan =
          (placed (0 + cs.length + 1) (wordRuns rest)).filter (fun f => fits f.chars) := by
        rw [hnext, placed_add, List.filter_map, List.map_map]
        have hshift : (fun f : Finding => fits f.chars) ∘ Finding.shift (cs ++ [x]).length =
            fun f => fits f.chars := rfl
        rw [hshift, ← ih, List.map_map]
        exact List.map_congr_left fun s _ => ofSpan_within s (cs ++ [x])
      rw [findAll_append (h.divides hx), List.map_append, hword hcs, hback, ← List.filter_append,
        wordRuns_append hcs hx]
      rfl

/-! ### Card numbers -/

theorem mem_findings_pan_iff {content : List Char} {f : Finding} :
    f ∈ findings .pan content ↔ f ∈ placed 0 (wordRuns content) ∧ isCard f.chars = true := by
  have hfound {k : Brand × List Pattern} (hk : k ∈ cardBodies) :
      f ∈ (findAll (edged k.2) content).map Finding.ofSpan ↔
        f ∈ placed 0 (wordRuns content) ∧ k.1.issues f.chars = true := by
    rw [findAll_eq_placed (wholeWord_of_mem hk) (takes_of_mem hk), List.mem_filter]
  have hcard : isCard f.chars = true ↔ ∃ k ∈ cardBodies, k.1.issues f.chars = true := by
    have hbrands : [Brand.visa, .mastercard, .amex, .discover] = cardBodies.map Prod.fst := rfl
    rw [isCard, hbrands, List.any_map, List.any_eq_true]
    exact Iff.rfl
  rw [findings, List.mem_eraseDups, patterns_pan, List.mem_flatMap, hcard]
  constructor
  · rintro ⟨p, hp, hf⟩
    obtain ⟨k, hk, rfl⟩ := List.mem_map.1 hp
    obtain ⟨hplaced, hissues⟩ := (hfound hk).1 hf
    exact ⟨hplaced, k, hk, hissues⟩
  · rintro ⟨hplaced, k, hk, hissues⟩
    exact ⟨edged k.2, List.mem_map_of_mem hk, (hfound hk).2 ⟨hplaced, hissues⟩⟩

/-- What is found is every word that is a card number by its digits, once where it stands. -/
theorem map_chars_findings_pan (content : List Char) :
    ((findings .pan content).map Finding.chars).Perm (cardTokens content) := by
  have hperm : (findings .pan content).Perm
      ((placed 0 (wordRuns content)).filter (fun f => isCard f.chars)) := by
    refine (List.perm_ext_iff_of_nodup (nodup_eraseDups _)
      ((nodup_placed 0 (wordRuns content)).filter _)).2 fun f => ?_
    rw [List.mem_filter]
    exact mem_findings_pan_iff
  have hchars : ((placed 0 (wordRuns content)).filter (fun f => isCard f.chars)).map
      Finding.chars = cardTokens content := by
    conv_rhs => rw [cardTokens, ← map_chars_placed 0 (wordRuns content), List.filter_map]
    rfl
  rw [← hchars]
  exact hperm.map Finding.chars

theorem isDigit_of_isCard {token : List Char} (h : isCard token = true) :
    ∀ c ∈ token, c.isDigit = true := by
  obtain ⟨b, -, hissues⟩ := List.any_eq_true.1 h
  exact (Brand.issues_iff.1 hissues).1

theorem mem_cardTokens_iff {content token : List Char} :
    token ∈ cardTokens content ↔ isCard token = true ∧ StandsIn token content := by
  rw [cardTokens, List.mem_filter, and_comm]
  refine and_congr_right fun hcard => mem_wordRuns_iff fun c hc => ?_
  exact Text.isWord_of_isDigit (isDigit_of_isCard hcard c hc)

example : cardTokens "4111111111111111, x4111111111111111 4111111111111111_".toList =
    ["4111111111111111".toList] := by
  decide +kernel

theorem length_findings_pan (content : List Char) :
    (findings .pan content).length = (cardTokens content).length := by
  rw [← (map_chars_findings_pan content).length_eq, List.length_map]

theorem refuses_findings_pan_iff {content : List Char} :
    refuses .pan (findings .pan content) = true ↔
      ∃ token ∈ cardTokens content, Luhn.valid token = false := by
  have htokens (P : List Char → Prop) : (∃ f ∈ findings .pan content, P f.chars) ↔
      ∃ token ∈ cardTokens content, P token := by
    simp only [← (map_chars_findings_pan content).mem_iff, List.mem_map]
    constructor
    · rintro ⟨f, hf, hP⟩
      exact ⟨f.chars, ⟨f, hf, rfl⟩, hP⟩
    · rintro ⟨-, ⟨f, hf, rfl⟩, hP⟩
      exact ⟨f, hf, hP⟩
  rw [← htokens (fun token => Luhn.valid token = false)]
  simp [refuses]

/-- Card numbers are counted if there are some and all of them have a valid checksum; they are
refused if one of them has not. A card number is a word of its own, and every such word is one. -/
theorem detects_card_tokens (content : List Char) :
    (∀ n, Keyed.get? "PAN" (detect content).counts = some n ↔
      0 < n ∧ (cardTokens content).length = n ∧
        ∀ token ∈ cardTokens content, Luhn.valid token = true) ∧
    (.pan ∈ (detect content).rejected ↔
      ∃ token ∈ cardTokens content, Luhn.valid token = false) ∧
    (Keyed.get? "PAN" (detect content).counts = none ∧ .pan ∉ (detect content).rejected ↔
      cardTokens content = []) ∧
    ∀ token, token ∈ cardTokens content ↔ isCard token = true ∧ StandsIn token content := by
  have hvalid : ¬ (∃ token ∈ cardTokens content, Luhn.valid token = false) ↔
      ∀ token ∈ cardTokens content, Luhn.valid token = true := by
    simp
  have hcounted (n : Nat) : Keyed.get? "PAN" (detect content).counts = some n ↔
      0 < n ∧ (cardTokens content).length = n ∧
        ∀ token ∈ cardTokens content, Luhn.valid token = true := by
    have hname : "PAN" = Label.pan.name := rfl
    rw [hname, get?_detect, reported?_eq_some_iff, length_findings_pan, refuses_findings_pan_iff,
      hvalid]
  have hrejected : .pan ∈ (detect content).rejected ↔
      ∃ token ∈ cardTokens content, Luhn.valid token = false := by
    have hne : findings .pan content ≠ [] ↔ cardTokens content ≠ [] := by
      rw [← List.length_pos_iff, length_findings_pan, List.length_pos_iff]
    rw [mem_rejected_detect, Refused, refuses_findings_pan_iff, hne]
    refine and_iff_right_of_imp ?_
    rintro ⟨token, htoken, -⟩
    exact List.ne_nil_of_mem htoken
  refine ⟨hcounted, hrejected, ?_, fun token => mem_cardTokens_iff⟩
  rw [hrejected, hvalid]
  constructor
  · rintro ⟨hnone, hall⟩
    by_contra hne
    rw [(hcounted _).2 ⟨List.length_pos_iff.2 hne, rfl, hall⟩] at hnone
    cases hnone
  · intro hnil
    rw [hnil]
    refine ⟨Option.eq_none_iff_forall_ne_some.2 fun n hn => ?_, List.forall_mem_nil _⟩
    obtain ⟨hpos, hlength, -⟩ := (hcounted n).1 hn
    rw [hnil, List.length_nil] at hlength
    omega

end Catalogue

end LossPrevention.Classifier
