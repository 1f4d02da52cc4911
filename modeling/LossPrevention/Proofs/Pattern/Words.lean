import LossPrevention.Proofs.Pattern.Matches

/-!
What a match takes, and where it stands among the words of its text. A match between two edges of
words that begins and finishes inside words stands at the same edges in every part of the text
that holds it.
-/

namespace LossPrevention

namespace Text.CharSet

theorem contains_single_iff {c x : Char} : (single c).contains x = true ↔ x = c := by
  rw [single, contains, Bool.and_eq_true, decide_eq_true_eq, decide_eq_true_eq]
  constructor
  · rintro ⟨hge, hle⟩
    exact Char.ext (UInt32.toNat_inj.1 (Nat.le_antisymm hle hge))
  · rintro rfl
    exact ⟨Nat.le_refl _, Nat.le_refl _⟩

/-- Whether all characters of the range are digits or letters of ASCII. -/
def rangeInWords (first last : Nat) : Bool :=
  (0x30 ≤ first && last ≤ 0x39) || (0x41 ≤ first && last ≤ 0x5a) || (0x61 ≤ first && last ≤ 0x7a)

/-- A check that all members occur in words. -/
def inWords : CharSet → Bool
  | range first last => rangeInWords first last
  | ranges all => all.all (fun r => rangeInWords r.1 r.2)
  | digit => true
  | union a b => a.inWords && b.inWords
  | _ => false

theorem isWord_of_rangeInWords {first last : Nat} (h : rangeInWords first last = true) {x : Char}
    (hfirst : first ≤ x.toNat) (hlast : x.toNat ≤ last) : isWord x = true := by
  have halnum : x.isAlphanum = true := by
    simp only [rangeInWords, Bool.or_eq_true, Bool.and_eq_true, decide_eq_true_eq] at h
    have hval : x.val.toNat = x.toNat := rfl
    have hranges : x.isAlphanum =
        ((decide (65 ≤ x.val ∧ x.val ≤ 90) || (decide (97 ≤ x.val) && decide (x.val ≤ 122))) ||
          (decide (48 ≤ x.val) && decide (x.val ≤ 57))) := rfl
    rw [hranges]
    simp [UInt32.le_iff_toNat_le, hval]
    omega
  simp [isWord, isAsciiWord, halnum]

theorem isWord_of_decimal {x : Char} (h : isDigit x = true) : isWord x = true := by
  rw [isDigit, Bool.or_eq_true] at h
  rcases h with h | h
  · exact isWord_of_isDigit h
  · rw [Bool.and_eq_true] at h
    simp [isWord, h.1, h.2]

theorem isWord_of_inWords {s : CharSet} (h : s.inWords = true) {x : Char}
    (hx : s.contains x = true) : isWord x = true := by
  induction s with
  | range first last =>
      rw [contains, Bool.and_eq_true, decide_eq_true_eq, decide_eq_true_eq] at hx
      exact isWord_of_rangeInWords h hx.1 hx.2
  | ranges all =>
      rw [contains, Ranges.contains, List.any_eq_true] at hx
      obtain ⟨r, hr, hin⟩ := hx
      rw [Bool.and_eq_true, decide_eq_true_eq, decide_eq_true_eq] at hin
      exact isWord_of_rangeInWords (List.all_eq_true.1 h r hr) hin.1 hin.2
  | digit => exact isWord_of_decimal hx
  | union a b iha ihb =>
      rw [inWords, Bool.and_eq_true] at h
      rw [contains, Bool.or_eq_true] at hx
      rcases hx with hx | hx
      · exact iha h.1 hx
      · exact ihb h.2 hx
  | _ => cases h

end Text.CharSet

namespace Cursor

/-- The place is inside a word. -/
def Inside (c : Cursor) : Prop := Look.inWord false c.before = true ∧ Look.inWord false c.next? = true

instance (c : Cursor) : Decidable c.Inside := inferInstanceAs (Decidable (_ ∧ _))

/-- The place is at an edge of a word. -/
def AtEdge (c : Cursor) : Prop := (Look.edge false).holds c.before c.next? = true

theorem AtEdge.not_inside {c : Cursor} (h : c.AtEdge) : ¬ c.Inside := by
  rintro ⟨hbefore, hnext⟩
  simp [AtEdge, Look.holds, hbefore, hnext] at h

theorem Inside.within {c : Cursor} (h : c.Inside) (front after : List Char) :
    (c.within front after).Inside := by
  obtain ⟨hbefore, hnext⟩ := h
  simp only [Cursor.Inside, Cursor.within, Cursor.next?, List.head?_append, Look.inWord,
    Option.any_eq_true] at hbefore hnext ⊢
  obtain ⟨x, hx, hxw⟩ := hbefore
  obtain ⟨y, hy, hyw⟩ := hnext
  rw [hx, hy, Option.some_or, Option.some_or]
  exact ⟨⟨x, rfl, hxw⟩, y, rfl, hyw⟩

theorem On.next? {text : List Char} {c : Cursor} (h : On text c) : c.next? = text[c.pos]? := by
  conv_lhs => rw [h.2]
  rw [Cursor.next?, place, List.head?_drop]

theorem On.before {text : List Char} {c : Cursor} (h : On text c) {n : Nat} (hn : c.pos = n + 1) :
    c.before = text[n]? := by
  have hle := h.1
  conv_lhs => rw [h.2, hn]
  rw [place, List.getLast?_take, if_neg (Nat.succ_ne_zero n), Nat.add_sub_cancel,
    List.getElem?_eq_getElem (by omega), Option.some_or]

theorem getElem?_within {text : List Char} {n : Nat} {x : Char} (h : text[n]? = some x)
    (front after : List Char) : (front ++ text ++ after)[front.length + n]? = some x := by
  have hlt : n < text.length := (List.getElem?_eq_some_iff.1 h).1
  rw [List.append_assoc, List.getElem?_append_right (Nat.le_add_right _ _),
    Nat.add_sub_cancel_left, List.getElem?_append_left hlt, h]

/-- The character with `n` before it belongs to a word. -/
def WordAt (text : List Char) (n : Nat) : Prop := ∃ x, text[n]? = some x ∧ Text.isWord x = true

theorem WordAt.inside {text : List Char} {n : Nat} (h : WordAt text n)
    (h' : WordAt text (n + 1)) : (place text (n + 1)).Inside := by
  obtain ⟨x, hx, hxw⟩ := h
  obtain ⟨y, hy, hyw⟩ := h'
  have hlt : n + 1 < text.length := (List.getElem?_eq_some_iff.1 hy).1
  have hon : On text (place text (n + 1)) := on_place (Nat.le_of_lt hlt)
  have hbefore : (place text (n + 1)).before = text[n]? := hon.before rfl
  have hnext : (place text (n + 1)).next? = text[n + 1]? := hon.next?
  simp [Inside, Look.inWord, hbefore, hnext, hx, hxw, hy, hyw]

theorem WordAt.within {text : List Char} {n : Nat} (h : WordAt text n)
    (front after : List Char) : WordAt (front ++ text ++ after) (front.length + n) := by
  obtain ⟨x, hx, hxw⟩ := h
  exact ⟨x, getElem?_within hx front after, hxw⟩

end Cursor

namespace Pattern

open Cursor (On)
open Text (CharSet)

/-! ### The characters of a match -/

section Chars

variable {S : CharSet → Prop} {text : List Char}

/-- Every match begins with a character of such a set. -/
def Begins (S : CharSet → Prop) : Pattern → Prop
  | empty | look _ => False
  | set s => S s
  | seq p _ => Begins S p
  | alt p q => Begins S p ∧ Begins S q
  | rep p least _ _ => 0 < least ∧ Begins S p
  | group _ p => Begins S p

/-- Every match that takes a character finishes with one of such a set. -/
def Finishes (S : CharSet → Prop) : Pattern → Prop
  | empty | look _ => True
  | set s => S s
  | seq p q => Finishes S q ∧ (0 < minLength q ∨ Finishes S p)
  | alt p q => Finishes S p ∧ Finishes S q
  | rep p _ _ _ => Finishes S p
  | group _ p => Finishes S p

instance decidableBegins (S : CharSet → Prop) [DecidablePred S] :
    (p : Pattern) → Decidable (Begins S p)
  | empty | look _ => isFalse id
  | set s => inferInstanceAs (Decidable (S s))
  | seq p _ => decidableBegins S p
  | alt p q => @instDecidableAnd _ _ (decidableBegins S p) (decidableBegins S q)
  | rep p _ _ _ => @instDecidableAnd _ _ inferInstance (decidableBegins S p)
  | group _ p => decidableBegins S p

instance decidableFinishes (S : CharSet → Prop) [DecidablePred S] :
    (p : Pattern) → Decidable (Finishes S p)
  | empty | look _ => isTrue trivial
  | set s => inferInstanceAs (Decidable (S s))
  | seq p q =>
      @instDecidableAnd _ _ (decidableFinishes S q)
        (@instDecidableOr _ _ inferInstance (decidableFinishes S p))
  | alt p q => @instDecidableAnd _ _ (decidableFinishes S p) (decidableFinishes S q)
  | rep p _ _ _ => decidableFinishes S p
  | group _ p => decidableFinishes S p

theorem Spans.begins {p : Pattern} {c d : Cursor} (h : Spans p c d) (hp : p.Begins S) :
    ∃ s x, S s ∧ s.contains x = true ∧ c.next? = some x := by
  induction h with
  | empty c | look h => exact hp.elim
  | @set s c x rest hr hx => exact ⟨s, x, hp, hx, by rw [Cursor.next?, hr, List.head?_cons]⟩
  | seq _ _ ih _ => exact ih hp
  | altLeft _ ih => exact ih hp.1
  | altRight _ ih => exact ih hp.2
  | done c => exact absurd hp.1 (Nat.lt_irrefl 0)
  | once _ _ _ ih _ => exact ih hp.2
  | group _ ih => exact ih hp

theorem Spans.finishes {p : Pattern} {c d : Cursor} (h : Spans p c d) (hp : p.Finishes S)
    (hc : On text c) (hlt : c.pos < d.pos) :
    ∃ s x, S s ∧ s.contains x = true ∧ d.before = some x := by
  induction h with
  | empty c | look h | done c => exact absurd hlt (Nat.lt_irrefl _)
  | @set s c x rest hr hx => exact ⟨s, x, hp, hx, rfl⟩
  | @seq p q a b c hab hbc ihp ihq =>
      have hb := (forward_spans text p a b hc hab).1
      obtain ⟨hon, hle⟩ := forward_spans text q b c hb hbc
      rcases Nat.lt_or_eq_of_le hle with hbc' | hbc'
      · exact ihq hp.1 hb hbc'
      · have hmin := hbc.minLength_le
        rw [hb.eq_of_pos hon hbc'] at ihp
        rcases hp.2 with hpos | hfin
        · omega
        · exact ihp hfin hc hlt
  | altLeft _ ih => exact ih hp.1 hc hlt
  | altRight _ ih => exact ih hp.2 hc hlt
  | @once p least most greedy a b c _ hab hbc ihp ihq =>
      have hb := (forward_spans text p a b hc hab).1
      obtain ⟨hon, hle⟩ := forward_spans text _ b c hb hbc
      rcases Nat.lt_or_eq_of_le hle with hbc' | hbc'
      · exact ihq hp hb hbc'
      · rw [hb.eq_of_pos hon hbc'] at ihp
        exact ihp hp hc hlt
  | group _ ih => exact ih hp hc hlt

theorem Spans.chars {p : Pattern} {Q : Look → Prop} {c d : Cursor} (h : Spans p c d)
    (hp : p.Every S Q) (hc : On text c) {k : Nat} (hck : c.pos ≤ k) (hkd : k < d.pos) :
    ∃ s x, S s ∧ s.contains x = true ∧ text[k]? = some x := by
  induction h with
  | empty c | look h | done c => omega
  | @set s c x rest hr hx =>
      have hk : k = c.pos := by
        simp only at hkd
        omega
      refine ⟨s, x, hp, hx, ?_⟩
      rw [hk, ← hc.next?, Cursor.next?, hr, List.head?_cons]
  | @seq p q a b c hab hbc ihp ihq =>
      have hb := (forward_spans text p a b hc hab).1
      by_cases hkb : k < b.pos
      · exact ihp hp.1 hc hck hkb
      · exact ihq hp.2 hb (Nat.not_lt.1 hkb) hkd
  | altLeft _ ih => exact ih hp.1 hc hck hkd
  | altRight _ ih => exact ih hp.2 hc hck hkd
  | @once p least most greedy a b c _ hab hbc ihp ihq =>
      have hb := (forward_spans text p a b hc hab).1
      by_cases hkb : k < b.pos
      · exact ihp hp hc hck hkb
      · exact ihq hp hb (Nat.not_lt.1 hkb) hkd
  | group _ ih => exact ih hp hc hck hkd

theorem Spans.words {p : Pattern} {Q : Look → Prop} {c d : Cursor} (h : Spans p c d)
    (hp : p.Every (fun s => s.inWords = true) Q) (hc : On text c) {k : Nat} (hck : c.pos ≤ k)
    (hkd : k < d.pos) : Cursor.WordAt text k := by
  obtain ⟨s, x, hs, hx, hget⟩ := h.chars hp hc hck hkd
  exact ⟨x, hget, CharSet.isWord_of_inWords hs hx⟩

end Chars

/-! ### Patterns in a row -/

theorem spans_all_cons {p : Pattern} {ps : List Pattern} {c d : Cursor} :
    Spans (Pattern.all (p :: ps)) c d ↔ ∃ e, Spans p c e ∧ Spans (Pattern.all ps) e d := by
  constructor
  · intro h
    cases h with
    | seq hp hrest => exact ⟨_, hp, hrest⟩
  · rintro ⟨e, hp, hrest⟩
    exact .seq hp hrest

theorem Spans.of_char {x : Char} {c d : Cursor} (h : Spans (char x) c d) :
    c.next? = some x ∧ d.pos = c.pos + 1 := by
  cases h with
  | set hr hx =>
      rw [CharSet.contains_single_iff.1 hx] at hr
      exact ⟨by rw [Cursor.next?, hr, List.head?_cons], rfl⟩

theorem Spans.of_times {s : CharSet} {n : Nat} {greedy : Bool} {c d : Cursor}
    (h : Spans (.rep (.set s) n (some n) greedy) c d) : d.pos = c.pos + n := by
  obtain ⟨k, hle, hmost, hiter⟩ := spans_rep_iff.1 h
  have hk : k = n := Nat.le_antisymm (hmost n rfl) hle
  clear h hle hmost
  subst hk
  induction k generalizing c with
  | zero =>
      cases hiter
      rfl
  | succ k ih =>
      obtain ⟨e, he, hrest⟩ := hiter
      cases he with
      | set hr hx =>
          have hrest := ih hrest
          dsimp only at hrest
          omega

theorem spans_all_append {ps qs : List Pattern} {c d : Cursor} :
    Spans (Pattern.all (ps ++ qs)) c d ↔
      ∃ e, Spans (Pattern.all ps) c e ∧ Spans (Pattern.all qs) e d := by
  induction ps generalizing c with
  | nil =>
      constructor
      · intro h
        exact ⟨c, .empty c, h⟩
      · rintro ⟨e, he, h⟩
        cases he
        exact h
  | cons p ps ih =>
      rw [List.cons_append, spans_all_cons]
      simp only [ih, spans_all_cons]
      constructor
      · rintro ⟨b, hb, e, he, hd⟩
        exact ⟨e, ⟨b, hb, he⟩, hd⟩
      · rintro ⟨e, ⟨b, hb, he⟩, hd⟩
        exact ⟨b, hb, e, he, hd⟩

theorem spans_edge_iff {c d : Cursor} : Spans edge c d ↔ c.AtEdge ∧ d = c := by
  constructor
  · intro h
    cases h with
    | look hl => exact ⟨hl, rfl⟩
  · rintro ⟨hl, rfl⟩
    exact .look hl

/-- Patterns in a row that have to finish at an edge. -/
def upToEdge (body : List Pattern) : Pattern := Pattern.all (body ++ [edge])

/-- Patterns in a row between two edges. -/
def edged (body : List Pattern) : Pattern := Pattern.all (edge :: (body ++ [edge]))

theorem spans_upToEdge_iff {body : List Pattern} {c d : Cursor} :
    Spans (upToEdge body) c d ↔ Spans (Pattern.all body) c d ∧ d.AtEdge := by
  rw [upToEdge, spans_all_append]
  constructor
  · rintro ⟨e, he, hrest⟩
    cases hrest with
    | seq hedge hempty =>
        cases hempty
        obtain ⟨hat, rfl⟩ := spans_edge_iff.1 hedge
        exact ⟨he, hat⟩
  · rintro ⟨hbody, hat⟩
    exact ⟨d, hbody, .seq (spans_edge_iff.2 ⟨hat, rfl⟩) (.empty d)⟩

theorem spans_edged_iff {body : List Pattern} {c d : Cursor} :
    Spans (edged body) c d ↔ c.AtEdge ∧ Spans (Pattern.all body) c d ∧ d.AtEdge := by
  rw [← spans_upToEdge_iff]
  constructor
  · intro h
    cases h with
    | seq hedge hrest =>
        obtain ⟨hat, rfl⟩ := spans_edge_iff.1 hedge
        exact ⟨hat, hrest⟩
  · rintro ⟨hat, hrest⟩
    exact .seq (spans_edge_iff.2 ⟨hat, rfl⟩) hrest

/-! ### From a text to its parts -/

section Carried

variable {text front after : List Char}

/-- A pattern without demands sees no more of a text than it takes. -/
theorem Spans.of_within {p : Pattern} (hp : p.Every (fun _ => True) (fun _ => False))
    {c e : Cursor} (hc : On text c) (h : Spans p (c.within front after) e)
    (he : e.pos ≤ text.length + front.length) :
    ∃ d, On text d ∧ e = d.within front after ∧ Spans p c d := by
  generalize hw : c.within front after = w at h
  induction h generalizing c with
  | empty w => exact ⟨c, hc, hw.symm, .empty c⟩
  | look h => exact hp.elim
  | done w => exact ⟨c, hc, hw.symm, .done c⟩
  | @set s w x rest hr hx =>
      subst hw
      cases hcr : c.rest with
      | nil =>
          have hpos : c.pos = text.length := by rw [hc.eq_last hcr]; rfl
          simp only [Cursor.within] at he
          omega
      | cons y rest' =>
          simp only [Cursor.within, hcr, List.cons_append, List.cons.injEq] at hr
          obtain ⟨rfl, rfl⟩ := hr
          refine ⟨⟨c.pos + 1, some y, rest'⟩, hc.step hcr, ?_, .set hcr hx⟩
          simp only [Cursor.within, Option.some_or, Cursor.mk.injEq, and_true]
          omega
  | seq hab hbc ihp ihq =>
      have hle := hbc.minLength_le
      obtain ⟨b, hb, rfl, hcb⟩ := ihp hp.1 hc (by omega) hw
      obtain ⟨d, hd, rfl, hbd⟩ := ihq hp.2 hb he rfl
      exact ⟨d, hd, rfl, .seq hcb hbd⟩
  | altLeft _ ih =>
      obtain ⟨d, hd, rfl, hcd⟩ := ih hp.1 hc he hw
      exact ⟨d, hd, rfl, .altLeft hcd⟩
  | altRight _ ih =>
      obtain ⟨d, hd, rfl, hcd⟩ := ih hp.2 hc he hw
      exact ⟨d, hd, rfl, .altRight hcd⟩
  | once hm hab hbc ihp ihq =>
      have hle := hbc.minLength_le
      obtain ⟨b, hb, rfl, hcb⟩ := ihp hp hc (by omega) hw
      obtain ⟨d, hd, rfl, hbd⟩ := ihq hp hb he rfl
      exact ⟨d, hd, rfl, .once hm hcb hbd⟩
  | group _ ih =>
      obtain ⟨d, hd, rfl, hcd⟩ := ih hp hc he hw
      exact ⟨d, hd, rfl, .group hcd⟩

/-- What matches in a text matches in every part of the text that holds it. -/
def Carried (p : Pattern) : Prop :=
  ∀ (text front after : List Char) (c d : Cursor), On text c → On text d →
    Spans p (c.within front after) (d.within front after) → Spans p c d

theorem spans_of_within {p : Pattern} (hp : p.Every (fun _ => True) (fun _ => False))
    {c d : Cursor} (hc : On text c) (hd : On text d)
    (h : Spans p (c.within front after) (d.within front after)) : Spans p c d := by
  have hle : (d.within front after).pos ≤ text.length + front.length :=
    Nat.add_le_add_right hd.1 _
  obtain ⟨e, he, hwithin, hspan⟩ := h.of_within hp hc hle
  have hpos : d.pos + front.length = e.pos + front.length := congrArg Cursor.pos hwithin
  rw [hd.eq_of_pos he (Nat.add_right_cancel hpos)]
  exact hspan

theorem carried_of_no_demand {p : Pattern} (hp : p.Every (fun _ => True) (fun _ => False)) :
    Carried p := by
  intro text front after c d hc hd h
  exact spans_of_within hp hc hd h

/-- The edge before a word is one in the part too, even where the part begins with the word. -/
theorem atEdge_of_within_next {c : Cursor} {x : Char} (hx : c.next? = some x)
    (hword : Text.isWord x = true) (h : (c.within front after).AtEdge) : c.AtEdge := by
  have hnext : (c.within front after).next? = some x := by
    rw [Cursor.next?] at hx ⊢
    rw [Cursor.within, List.head?_append, hx, Option.some_or]
  simp only [Cursor.AtEdge, Look.holds, hnext, hx, Look.inWord, Option.any_some] at h ⊢
  cases hb : c.before with
  | none => simp [hword]
  | some y =>
      rw [Cursor.within, hb, Option.some_or] at h
      exact h

theorem atEdge_of_within_before {c : Cursor} {x : Char} (hx : c.before = some x)
    (hword : Text.isWord x = true) (h : (c.within front after).AtEdge) : c.AtEdge := by
  have hbefore : (c.within front after).before = some x := by
    rw [Cursor.within, hx, Option.some_or]
  simp only [Cursor.AtEdge, Look.holds, hbefore, hx, Look.inWord, Option.any_some] at h ⊢
  cases hn : c.next? with
  | none => simp [hword]
  | some y =>
      have hnext : (c.within front after).next? = some y := by
        rw [Cursor.next?] at hn ⊢
        rw [Cursor.within, List.head?_append, hn, Option.some_or]
      rw [hnext] at h
      exact h

/-- The body of a match that takes characters and finishes inside a word. -/
structure Firm (body : List Pattern) : Prop where
  no_demand : (Pattern.all body).Every (fun _ => True) (fun _ => False)
  takes : 0 < minLength (Pattern.all body)
  finishes : (Pattern.all body).Finishes (fun s => s.inWords = true)

theorem carried_upToEdge {body : List Pattern} (h : Firm body) : Carried (upToEdge body) := by
  intro text front after c d hc hd hspan
  obtain ⟨hbody, hedge⟩ := spans_upToEdge_iff.1 hspan
  have hpart := spans_of_within h.no_demand hc hd hbody
  have hmin := hpart.minLength_le
  have htakes := h.takes
  obtain ⟨s, x, hs, hx, hbefore⟩ := hpart.finishes h.finishes hc (by omega)
  have hword := CharSet.isWord_of_inWords hs hx
  exact spans_upToEdge_iff.2 ⟨hpart, atEdge_of_within_before hbefore hword hedge⟩

theorem carried_edged {body : List Pattern} (h : Firm body)
    (hbegins : (Pattern.all body).Begins (fun s => s.inWords = true)) :
    Carried (edged body) := by
  intro text front after c d hc hd hspan
  obtain ⟨hfirst, hbody, hlast⟩ := spans_edged_iff.1 hspan
  obtain ⟨hpart, hedge⟩ := spans_upToEdge_iff.1
    (carried_upToEdge h text front after c d hc hd (spans_upToEdge_iff.2 ⟨hbody, hlast⟩))
  obtain ⟨s, x, hs, hx, hnext⟩ := hpart.begins hbegins
  have hword := CharSet.isWord_of_inWords hs hx
  exact spans_edged_iff.2 ⟨atEdge_of_within_next hnext hword hfirst, hpart, hedge⟩

end Carried

end Pattern

end LossPrevention
