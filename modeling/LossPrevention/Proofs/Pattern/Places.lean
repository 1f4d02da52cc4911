import LossPrevention.Pattern.Search
import Mathlib.Data.List.Basic

/-!
The search against the meaning of patterns. On the places of one text `Pattern.ends` lists just
those that `Pattern.Spans` leads to: places are told apart by their position, so dropping doubles
loses nothing, and neither does stopping a repetition that no longer moves.
-/

namespace LossPrevention

namespace Cursor

/-- The place behind `n` characters of a text. -/
def place (text : List Char) (n : Nat) : Cursor := ⟨n, (text.take n).getLast?, text.drop n⟩

/-- A place of the text. -/
def On (text : List Char) (c : Cursor) : Prop := c.pos ≤ text.length ∧ c = place text c.pos

theorem on_place {text : List Char} {n : Nat} (h : n ≤ text.length) : On text (place text n) :=
  ⟨h, rfl⟩

theorem on_start (text : List Char) : On text (start text) := ⟨Nat.zero_le _, rfl⟩

theorem On.eq_of_pos {text : List Char} {c d : Cursor} (hc : On text c) (hd : On text d)
    (h : c.pos = d.pos) : c = d := by
  rw [hc.2, hd.2, h]

theorem On.length_rest {text : List Char} {c : Cursor} (h : On text c) :
    c.rest.length = text.length - c.pos := by
  conv_lhs => rw [h.2]
  exact List.length_drop

theorem On.step {text : List Char} {c : Cursor} (h : On text c) {x : Char} {rest : List Char}
    (hr : c.rest = x :: rest) : On text ⟨c.pos + 1, some x, rest⟩ := by
  have hdrop : text.drop c.pos = x :: rest := by
    rw [← hr]
    exact (congrArg Cursor.rest h.2).symm
  have hlt : c.pos < text.length := by
    rw [← Nat.not_le]
    intro hle
    rw [List.drop_eq_nil_of_le hle] at hdrop
    cases hdrop
  have hget : text[c.pos] = x ∧ text.drop (c.pos + 1) = rest := by
    rw [List.drop_eq_getElem_cons hlt] at hdrop
    exact List.cons.inj hdrop
  refine ⟨hlt, ?_⟩
  simp only [place, List.take_succ_eq_append_getElem hlt, hget.1, hget.2, List.getLast?_concat]

theorem On.of_step {text : List Char} {c d : Cursor} (h : On text c) (hd : c.step? = some d) :
    On text d := by
  cases hr : c.rest with
  | nil =>
      rw [step?, hr] at hd
      cases hd
  | cons x rest =>
      rw [step?, hr] at hd
      cases hd
      exact h.step hr

end Cursor

namespace Pattern

open Cursor (On)

/-! ### Lists of places -/

section Distinct

theorem mem_of_mem_go {c : Cursor} {seen : Nat} {cs : List Cursor}
    (h : c ∈ distinct.go seen cs) : c ∈ cs := by
  induction cs generalizing seen with
  | nil => exact h
  | cons d cs ih =>
      rw [distinct.go] at h
      split at h
      · exact List.mem_cons_of_mem _ (ih h)
      · rcases List.mem_cons.1 h with rfl | h
        · exact List.mem_cons_self
        · exact List.mem_cons_of_mem _ (ih h)

theorem testBit_insert {seen i j : Nat} :
    (seen ||| 1 <<< i).testBit j = true ↔ seen.testBit j = true ∨ i = j := by
  rw [Nat.testBit_or, Bool.or_eq_true, Nat.one_shiftLeft, Nat.testBit_two_pow]
  simp

theorem exists_mem_go {c : Cursor} {seen : Nat} {cs : List Cursor} (h : c ∈ cs)
    (hs : seen.testBit c.pos = false) : ∃ d ∈ distinct.go seen cs, d.pos = c.pos := by
  induction cs generalizing seen with
  | nil => cases h
  | cons d cs ih =>
      rw [distinct.go]
      by_cases hpos : d.pos = c.pos
      · rw [if_neg (by simp [hpos, hs])]
        exact ⟨d, List.mem_cons_self, hpos⟩
      · have hc : c ∈ cs := by
          rcases List.mem_cons.1 h with rfl | h
          · exact absurd rfl hpos
          · exact h
        split
        · exact ih hc hs
        · have hs' : (seen ||| 1 <<< d.pos).testBit c.pos = false := by
            rw [← Bool.not_eq_true, testBit_insert]
            simp [hs, hpos]
          obtain ⟨e, he, heq⟩ := ih hc hs'
          exact ⟨e, List.mem_cons_of_mem _ he, heq⟩

/-- On the places of one text nothing is lost with the doubles. -/
theorem mem_distinct {text : List Char} {cs : List Cursor} (h : ∀ c ∈ cs, On text c) {c : Cursor} :
    c ∈ distinct cs ↔ c ∈ cs := by
  unfold distinct
  split
  · exact Iff.rfl
  · constructor
    · exact mem_of_mem_go
    · intro hc
      obtain ⟨d, hd, hpos⟩ := exists_mem_go hc (Nat.zero_testBit _)
      have hdc : d = c := (h d (mem_of_mem_go hd)).eq_of_pos (h c hc) hpos
      exact hdc ▸ hd

theorem eq_of_map_pos {text : List Char} {cs ds : List Cursor} (hc : ∀ c ∈ cs, On text c)
    (hd : ∀ d ∈ ds, On text d) (h : cs.map Cursor.pos = ds.map Cursor.pos) : cs = ds := by
  induction cs generalizing ds with
  | nil => exact (List.map_eq_nil_iff.1 h.symm).symm
  | cons c cs ih =>
      cases ds with
      | nil => cases h
      | cons d ds =>
          obtain ⟨hpos, hrest⟩ := List.cons.inj h
          rw [(hc c List.mem_cons_self).eq_of_pos (hd d List.mem_cons_self) hpos,
            ih (fun e he => hc e (List.mem_cons_of_mem _ he))
              (fun e he => hd e (List.mem_cons_of_mem _ he)) hrest]

end Distinct

/-! ### Repetition -/

/-- `n` steps of a relation one behind the other. -/
def Iter (R : Cursor → Cursor → Prop) : Nat → Cursor → Cursor → Prop
  | 0, c, d => c = d
  | n + 1, c, d => ∃ e, R c e ∧ Iter R n e d

section Iter

variable {R : Cursor → Cursor → Prop}

theorem Iter.add {m n : Nat} {a b c : Cursor} (hab : Iter R m a b) (hbc : Iter R n b c) :
    Iter R (m + n) a c := by
  induction m generalizing a with
  | zero =>
      cases hab
      rw [Nat.zero_add]
      exact hbc
  | succ m ih =>
      obtain ⟨e, he, hrest⟩ := hab
      rw [Nat.succ_add]
      exact ⟨e, he, ih hrest⟩

theorem Iter.split {m n : Nat} {a c : Cursor} (h : Iter R (m + n) a c) :
    ∃ b, Iter R m a b ∧ Iter R n b c := by
  induction m generalizing a with
  | zero =>
      rw [Nat.zero_add] at h
      exact ⟨a, rfl, h⟩
  | succ m ih =>
      rw [Nat.succ_add] at h
      obtain ⟨e, he, hrest⟩ := h
      obtain ⟨b, hb, hc⟩ := ih hrest
      exact ⟨b, ⟨e, he, hb⟩, hc⟩

theorem Iter.mono {S : Cursor → Cursor → Prop} (h : ∀ c d, R c d → S c d) {n : Nat} {a b : Cursor}
    (hab : Iter R n a b) : Iter S n a b := by
  induction n generalizing a with
  | zero => exact hab
  | succ n ih =>
      obtain ⟨e, he, hrest⟩ := hab
      exact ⟨e, h _ _ he, ih hrest⟩

end Iter

/-- The relation keeps to the places of the text and does not go back. -/
def Forward (text : List Char) (R : Cursor → Cursor → Prop) : Prop :=
  ∀ c d, On text c → R c d → On text d ∧ c.pos ≤ d.pos

section Forward

variable {text : List Char} {R : Cursor → Cursor → Prop}

theorem Forward.iter (h : Forward text R) (n : Nat) : Forward text (Iter R n) := by
  induction n with
  | zero =>
      intro c d hc hcd
      cases hcd
      exact ⟨hc, Nat.le_refl _⟩
  | succ n ih =>
      rintro c d hc ⟨e, he, hrest⟩
      obtain ⟨hoe, hce⟩ := h c e hc he
      obtain ⟨hod, hed⟩ := ih e d hoe hrest
      exact ⟨hod, Nat.le_trans hce hed⟩

theorem Forward.iter_congr {S : Cursor → Cursor → Prop} (h : Forward text R)
    (hRS : ∀ c, On text c → ∀ d, R c d ↔ S c d) (n : Nat) {c : Cursor} (hc : On text c)
    (d : Cursor) : Iter R n c d ↔ Iter S n c d := by
  induction n generalizing c with
  | zero => exact Iff.rfl
  | succ n ih =>
      constructor
      · rintro ⟨e, he, hrest⟩
        exact ⟨e, (hRS c hc e).1 he, (ih (h c e hc he).1).1 hrest⟩
      · rintro ⟨e, he, hrest⟩
        have hce := (hRS c hc e).2 he
        exact ⟨e, hce, (ih (h c e hc hce).1).2 hrest⟩

/-- Steps that stand still can be left out. -/
theorem Forward.drop_still (h : Forward text R) {n : Nat} {c d : Cursor} (hc : On text c)
    (hcd : Iter R n c d) :
    ∃ k ≤ n, k ≤ d.pos - c.pos ∧ Iter (fun a b => R a b ∧ a.pos < b.pos) k c d := by
  induction n generalizing c with
  | zero => exact ⟨0, Nat.le_refl _, Nat.zero_le _, hcd⟩
  | succ n ih =>
      obtain ⟨e, he, hrest⟩ := hcd
      obtain ⟨hoe, hce⟩ := h c e hc he
      obtain ⟨k, hk, hkd, hiter⟩ := ih hoe hrest
      rcases Nat.lt_or_eq_of_le hce with hlt | heq
      · have hed := (h.iter n e d hoe hrest).2
        exact ⟨k + 1, by omega, by omega, e, ⟨he, hlt⟩, hiter⟩
      · have hsame : c = e := hc.eq_of_pos hoe heq
        exact ⟨k, by omega, by rw [hsame]; exact hkd, hsame ▸ hiter⟩

end Forward

section Steps

variable {text : List Char} {step : Cursor → List Cursor}

theorem mem_flatMap_step (h : Forward text (fun c d => d ∈ step c)) {cs : List Cursor}
    (hcs : ∀ c ∈ cs, On text c) : ∀ d ∈ cs.flatMap step, On text d := by
  intro d hd
  obtain ⟨c, hc, hcd⟩ := List.mem_flatMap.1 hd
  exact (h c d (hcs c hc) hcd).1

/-- Places that one step reproduces are reproduced by any number of them. -/
theorem iter_of_stable {cs : List Cursor} (h : ∀ d, d ∈ cs ↔ ∃ c ∈ cs, d ∈ step c) (n : Nat)
    (d : Cursor) : d ∈ cs ↔ ∃ c ∈ cs, Iter (fun c d => d ∈ step c) n c d := by
  induction n with
  | zero => simp [Iter]
  | succ n ih =>
      rw [ih]
      constructor
      · rintro ⟨e, he, hiter⟩
        obtain ⟨c, hc, hce⟩ := (h e).1 he
        exact ⟨c, hc, e, hce, hiter⟩
      · rintro ⟨c, hc, e, hce, hiter⟩
        exact ⟨e, (h e).2 ⟨c, hc, hce⟩, hiter⟩

theorem mem_exactly (h : Forward text (fun c d => d ∈ step c)) (n : Nat) {cs : List Cursor}
    (hcs : ∀ c ∈ cs, On text c) (d : Cursor) :
    d ∈ exactly step n cs ↔ ∃ c ∈ cs, Iter (fun c d => d ∈ step c) n c d := by
  induction n generalizing cs with
  | zero => simp [exactly, Iter]
  | succ n ih =>
      have hflat := mem_flatMap_step h hcs
      have hnext : ∀ e, e ∈ distinct (cs.flatMap step) ↔ ∃ c ∈ cs, e ∈ step c := by
        intro e
        rw [mem_distinct hflat, List.mem_flatMap]
      have hon : ∀ e ∈ distinct (cs.flatMap step), On text e := by
        intro e he
        exact hflat e ((mem_distinct hflat).1 he)
      rw [exactly]
      split
      · rename_i hsame
        have heq := eq_of_map_pos hon hcs hsame
        rw [heq] at hnext ⊢
        exact iter_of_stable hnext (n + 1) d
      · rw [ih hon]
        constructor
        · rintro ⟨e, he, hiter⟩
          obtain ⟨c, hc, hce⟩ := (hnext e).1 he
          exact ⟨c, hc, e, hce, hiter⟩
        · rintro ⟨c, hc, e, hce, hiter⟩
          exact ⟨e, (hnext e).2 ⟨c, hc, hce⟩, hiter⟩

theorem mem_foldr {f : Cursor → List Cursor → List Cursor} {P : Cursor → Prop} {d : Cursor}
    (h : ∀ c tail, d ∈ f c tail ↔ d ∈ tail ∨ (P c)) (cs tail : List Cursor) :
    d ∈ cs.foldr f tail ↔ d ∈ tail ∨ ∃ c ∈ cs, P c := by
  induction cs with
  | nil => simp
  | cons c cs ih =>
      rw [List.foldr_cons, h, ih, List.exists_mem_cons_iff]
      exact or_assoc.trans (or_congr_right or_comm)

theorem mem_upTo (greedy : Bool) (n : Nat) (c : Cursor) (tail : List Cursor) (d : Cursor) :
    d ∈ upTo step greedy n c tail ↔
      d ∈ tail ∨ ∃ k ≤ n, Iter (fun a b => b ∈ step a ∧ a.pos < b.pos) k c d := by
  induction n generalizing c tail with
  | zero => simp [upTo, Iter, or_comm, eq_comm]
  | succ n ih =>
      have hmore : (∃ e ∈ (step c).filter (fun e => c.pos < e.pos),
          ∃ k ≤ n, Iter (fun a b => b ∈ step a ∧ a.pos < b.pos) k e d) ↔
          ∃ k ≤ n, Iter (fun a b => b ∈ step a ∧ a.pos < b.pos) (k + 1) c d := by
        constructor
        · rintro ⟨e, he, k, hk, hiter⟩
          obtain ⟨hstep, hlt⟩ := List.mem_filter.1 he
          exact ⟨k, hk, e, ⟨hstep, of_decide_eq_true hlt⟩, hiter⟩
        · rintro ⟨k, hk, e, ⟨hstep, hlt⟩, hiter⟩
          exact ⟨e, List.mem_filter.2 ⟨hstep, decide_eq_true hlt⟩, k, hk, hiter⟩
      have hall : (∃ k ≤ n + 1, Iter (fun a b => b ∈ step a ∧ a.pos < b.pos) k c d) ↔
          d = c ∨ ∃ k ≤ n, Iter (fun a b => b ∈ step a ∧ a.pos < b.pos) (k + 1) c d := by
        constructor
        · rintro ⟨k, hk, hiter⟩
          cases k with
          | zero => exact .inl hiter.symm
          | succ k => exact .inr ⟨k, Nat.le_of_succ_le_succ hk, hiter⟩
        · rintro (rfl | ⟨k, hk, hiter⟩)
          · exact ⟨0, Nat.zero_le _, rfl⟩
          · exact ⟨k + 1, Nat.succ_le_succ hk, hiter⟩
      rw [hall, ← hmore]
      cases greedy with
      | true =>
          rw [upTo, if_pos rfl, mem_foldr (fun e tail => ih e tail), List.mem_cons]
          exact or_assoc.trans or_left_comm
      | false =>
          rw [upTo, if_neg (by simp), List.mem_cons, mem_foldr (fun e tail => ih e tail)]
          exact or_left_comm

end Steps

/-! ### The search and the meaning -/

/-- A repetition with room between its bounds, everywhere in the pattern. -/
def Proper : Pattern → Prop
  | empty | set _ | look _ => True
  | seq p q | alt p q => Proper p ∧ Proper q
  | rep p least most _ => Proper p ∧ ∀ m, most = some m → least ≤ m
  | group _ p => Proper p

instance decidableProper : (p : Pattern) → Decidable (Proper p)
  | empty | set _ | look _ => isTrue trivial
  | seq p q | alt p q => @instDecidableAnd _ _ (decidableProper p) (decidableProper q)
  | rep p least most _ =>
      have : Decidable (∀ m, most = some m → least ≤ m) :=
        decidable_of_iff (most.all (fun m => decide (least ≤ m)) = true) (by cases most <;> simp)
      @instDecidableAnd _ _ (decidableProper p) this
  | group _ p => decidableProper p

theorem spans_rep_iff {p : Pattern} {least : Nat} {most : Option Nat} {greedy : Bool}
    {a c : Cursor} :
    Spans (.rep p least most greedy) a c ↔
      ∃ k, least ≤ k ∧ (∀ m, most = some m → k ≤ m) ∧ Iter (Spans p) k a c := by
  constructor
  · intro h
    generalize hq : Pattern.rep p least most greedy = q at h
    induction h generalizing least most with
    | done c =>
        cases hq
        exact ⟨0, Nat.le_refl _, fun _ _ => Nat.zero_le _, rfl⟩
    | once hm hab _ _ ih =>
        cases hq
        obtain ⟨k, hk, hmost, hiter⟩ := ih rfl
        refine ⟨k + 1, by omega, ?_, _, hab, hiter⟩
        rintro m rfl
        have hle := hmost (m - 1) rfl
        have hpos : m ≠ 0 := fun h0 => hm (h0 ▸ rfl)
        omega
    | _ => cases hq
  · rintro ⟨k, hk, hmost, hiter⟩
    induction k generalizing least most a with
    | zero =>
        cases hiter
        cases Nat.le_zero.1 hk
        exact .done _
    | succ k ih =>
        obtain ⟨b, hab, hrest⟩ := hiter
        have hm : most ≠ some 0 := fun h0 => absurd (hmost 0 h0) (by omega)
        refine .once hm hab (ih (by omega) ?_ hrest)
        intro m hmap
        obtain ⟨m', hm', rfl⟩ := Option.map_eq_some_iff.1 hmap
        have hle := hmost m' hm'
        omega

theorem forward_spans (text : List Char) (p : Pattern) : Forward text (Spans p) := by
  intro c d hc h
  induction h with
  | empty c => exact ⟨hc, Nat.le_refl _⟩
  | set hr hx => exact ⟨hc.step hr, Nat.le_succ _⟩
  | look h => exact ⟨hc, Nat.le_refl _⟩
  | seq _ _ ihp ihq =>
      obtain ⟨hb, hab⟩ := ihp hc
      obtain ⟨hd, hbd⟩ := ihq hb
      exact ⟨hd, Nat.le_trans hab hbd⟩
  | altLeft _ ih => exact ih hc
  | altRight _ ih => exact ih hc
  | done c => exact ⟨hc, Nat.le_refl _⟩
  | once _ _ _ ihp ihq =>
      obtain ⟨hb, hab⟩ := ihp hc
      obtain ⟨hd, hbd⟩ := ihq hb
      exact ⟨hd, Nat.le_trans hab hbd⟩
  | group _ ih => exact ih hc

/-- How many repetitions there may be at most behind the first ones. -/
def room (least : Nat) (most : Option Nat) (c : Cursor) : Nat :=
  match most with
  | some m => m - least
  | none => c.rest.length

theorem mem_ends_rep {text : List Char} {p : Pattern}
    (hends : ∀ c, On text c → ∀ d, d ∈ ends p c ↔ Spans p c d) {least : Nat} {most : Option Nat}
    (hmost : ∀ m, most = some m → least ≤ m) (greedy : Bool) {c : Cursor} (hc : On text c)
    (d : Cursor) : d ∈ ends (.rep p least most greedy) c ↔ Spans (.rep p least most greedy) c d := by
  have hforward : Forward text (fun a b => b ∈ ends p a) := by
    intro a b ha hab
    exact forward_spans text p a b ha ((hends a ha b).1 hab)
  have hall (n : Nat) {a : Cursor} (ha : On text a) (b : Cursor) :
      Iter (fun a b => b ∈ ends p a) n a b ↔ Iter (Spans p) n a b :=
    hforward.iter_congr hends n ha b
  have hmem : ∀ e, e ∈ (exactly (ends p) least [c]).flatMap
      (fun e => upTo (ends p) greedy (room least most e) e []) ↔
      ∃ b, Iter (fun a b => b ∈ ends p a) least c b ∧
        ∃ k ≤ room least most b, Iter (fun a b => b ∈ ends p a ∧ a.pos < b.pos) k b e := by
    intro e
    have hsingle : ∀ a ∈ [c], On text a := by simpa using hc
    rw [List.mem_flatMap]
    simp only [mem_exactly hforward least hsingle, mem_upTo, List.mem_singleton, exists_eq_left,
      List.not_mem_nil, false_or]
  have hon : ∀ e ∈ (exactly (ends p) least [c]).flatMap
      (fun e => upTo (ends p) greedy (room least most e) e []), On text e := by
    intro e he
    obtain ⟨b, hb, k, _, hk⟩ := (hmem e).1 he
    have hob := (hforward.iter least c b hc hb).1
    exact (hforward.iter k b e hob (hk.mono fun _ _ h => h.1)).1
  have hdistinct : d ∈ ends (.rep p least most greedy) c ↔
      d ∈ distinct ((exactly (ends p) least [c]).flatMap
        (fun e => upTo (ends p) greedy (room least most e) e [])) := Iff.rfl
  rw [hdistinct, mem_distinct hon, hmem, spans_rep_iff]
  constructor
  · rintro ⟨b, hb, k, hk, hiter⟩
    have hob := (hforward.iter least c b hc hb).1
    refine ⟨least + k, Nat.le_add_right _ _, ?_, ?_⟩
    · rintro m rfl
      have hle := hmost m rfl
      simp only [room] at hk
      omega
    · exact ((hall least hc b).1 hb).add ((hall k hob d).1 (hiter.mono fun _ _ h => h.1))
  · rintro ⟨n, hn, hbound, hiter⟩
    obtain ⟨r, rfl⟩ := Nat.exists_eq_add_of_le hn
    obtain ⟨b, hb, hrest⟩ := hiter.split
    have hb' := (hall least hc b).2 hb
    have hob := (hforward.iter least c b hc hb').1
    have hrest' := (hall r hob d).2 hrest
    have hod := (hforward.iter r b d hob hrest').1
    obtain ⟨k, hkr, hkd, hk⟩ := hforward.drop_still hob hrest'
    refine ⟨b, hb', k, ?_, hk⟩
    cases most with
    | some m =>
        have hle := hbound m rfl
        simp only [room]
        omega
    | none =>
        have hlen := hod.1
        simp only [room, hob.length_rest]
        omega

/-- The search lists what the pattern leads to. -/
theorem mem_ends_iff {p : Pattern} (hp : Proper p) {text : List Char} {c : Cursor}
    (hc : On text c) (d : Cursor) : d ∈ ends p c ↔ Spans p c d := by
  induction p generalizing c d with
  | empty =>
      rw [ends, List.mem_singleton]
      constructor
      · rintro rfl
        exact .empty d
      · intro h
        cases h
        rfl
  | set s =>
      rw [ends]
      constructor
      · intro h
        split at h
        · cases h
        · rename_i x rest hr
          split at h
          · rename_i hx
            rw [List.mem_singleton.1 h]
            exact .set hr hx
          · cases h
      · intro h
        cases h with
        | set hr hx => simp [hr, hx]
  | look l =>
      rw [ends]
      constructor
      · intro h
        split at h
        · rename_i hl
          rw [List.mem_singleton.1 h]
          exact .look hl
        · cases h
      · intro h
        cases h with
        | look hl => simp [hl]
  | seq p q ihp ihq =>
      have hon : ∀ e ∈ (ends p c).flatMap (ends q), On text e := by
        intro e he
        obtain ⟨b, hb, hbe⟩ := List.mem_flatMap.1 he
        have hob := (forward_spans text p c b hc ((ihp hp.1 hc b).1 hb)).1
        exact (forward_spans text q b e hob ((ihq hp.2 hob e).1 hbe)).1
      rw [ends, mem_distinct hon, List.mem_flatMap]
      constructor
      · rintro ⟨b, hb, hbd⟩
        have hspan := (ihp hp.1 hc b).1 hb
        exact .seq hspan ((ihq hp.2 (forward_spans text p c b hc hspan).1 d).1 hbd)
      · intro h
        cases h with
        | seq hab hbd =>
            have hob := (forward_spans text p c _ hc hab).1
            exact ⟨_, (ihp hp.1 hc _).2 hab, (ihq hp.2 hob d).2 hbd⟩
  | alt p q ihp ihq =>
      have hon : ∀ e ∈ ends p c ++ ends q c, On text e := by
        intro e he
        rcases List.mem_append.1 he with he | he
        · exact (forward_spans text p c e hc ((ihp hp.1 hc e).1 he)).1
        · exact (forward_spans text q c e hc ((ihq hp.2 hc e).1 he)).1
      rw [ends, mem_distinct hon, List.mem_append, ihp hp.1 hc d, ihq hp.2 hc d]
      constructor
      · rintro (h | h)
        · exact .altLeft h
        · exact .altRight h
      · intro h
        cases h with
        | altLeft h => exact .inl h
        | altRight h => exact .inr h
  | rep p least most greedy ih => exact mem_ends_rep (fun e he => ih hp.1 he) hp.2 greedy hc d
  | group keeps p ih =>
      rw [ends, ih hp hc d]
      constructor
      · exact .group
      · intro h
        cases h with
        | group h => exact h

theorem forward_ends (text : List Char) {p : Pattern} (hp : Proper p) :
    Forward text (fun c d => d ∈ ends p c) := by
  intro c d hc h
  exact forward_spans text p c d hc ((mem_ends_iff hp hc d).1 h)

end Pattern

end LossPrevention
