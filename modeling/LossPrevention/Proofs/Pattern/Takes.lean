import LossPrevention.Proofs.Pattern.Words

/-!
The texts that a pattern takes. A pattern without demands goes over the same texts wherever they
stand: main statement, it leads from one place to another if and only if it takes what stands
between them.
-/

namespace LossPrevention

namespace Cursor

variable {text : List Char} {c d : Cursor}

theorem On.eq_of_rest (hc : On text c) (hd : On text d) (h : c.rest = d.rest) : c = d := by
  have hlength := congrArg List.length h
  rw [hc.length_rest, hd.length_rest] at hlength
  have hc' := hc.1
  have hd' := hd.1
  exact hc.eq_of_pos hd (by omega)

theorem On.exists_rest (hc : On text c) {cs rest : List Char} (h : c.rest = cs ++ rest) :
    ∃ d, On text d ∧ d.rest = rest := by
  have hlength := hc.length_rest
  rw [h, List.length_append] at hlength
  have hle := hc.1
  refine ⟨place text (c.pos + cs.length), on_place (by omega), ?_⟩
  have hrest : text.drop c.pos = cs ++ rest := by
    rw [← h, hc.2]
    rfl
  rw [place, ← List.drop_drop, hrest, List.drop_left]

end Cursor

namespace Pattern

open Cursor (On)
open Text (CharSet)

/-- `n` texts of a kind one behind the other. -/
def InRow (T : List Char → Prop) : Nat → List Char → Prop
  | 0, cs => cs = []
  | n + 1, cs => ∃ ds es, cs = ds ++ es ∧ T ds ∧ InRow T n es

/-- The pattern takes the text from one end to the other, and asks nothing of what is around. -/
def Takes : Pattern → List Char → Prop
  | empty, cs => cs = []
  | set s, cs => ∃ x, cs = [x] ∧ s.contains x = true
  | look _, _ => False
  | seq p q, cs => ∃ ds es, cs = ds ++ es ∧ Takes p ds ∧ Takes q es
  | alt p q, cs => Takes p cs ∨ Takes q cs
  | rep p least most _, cs =>
      ∃ n, least ≤ n ∧ (∀ m, most = some m → n ≤ m) ∧ InRow (Takes p) n cs
  | group _ p, cs => Takes p cs

/-! ### Between two places -/

section Between

variable {text : List Char} {c d : Cursor}

theorem iter_iff_inRow {R : Cursor → Cursor → Prop} {T : List Char → Prop} (h : Forward text R)
    (hRT : ∀ c d, On text c → On text d → (R c d ↔ ∃ cs, T cs ∧ c.rest = cs ++ d.rest)) (n : Nat)
    (hc : On text c) (hd : On text d) :
    Iter R n c d ↔ ∃ cs, InRow T n cs ∧ c.rest = cs ++ d.rest := by
  induction n generalizing c with
  | zero =>
      constructor
      · rintro rfl
        exact ⟨[], rfl, rfl⟩
      · rintro ⟨cs, rfl, hrest⟩
        exact hc.eq_of_rest hd hrest
  | succ n ih =>
      constructor
      · rintro ⟨e, he, hiter⟩
        have hon := (h c e hc he).1
        obtain ⟨ds, hds, hfirst⟩ := (hRT c e hc hon).1 he
        obtain ⟨es, hes, hrest⟩ := (ih hon).1 hiter
        refine ⟨ds ++ es, ⟨ds, es, rfl, hds, hes⟩, ?_⟩
        rw [hfirst, hrest, List.append_assoc]
      · rintro ⟨cs, ⟨ds, es, rfl, hds, hes⟩, hrest⟩
        rw [List.append_assoc] at hrest
        obtain ⟨e, hon, he⟩ := hc.exists_rest hrest
        rw [← he] at hrest
        exact ⟨e, (hRT c e hc hon).2 ⟨ds, hds, hrest⟩, (ih hon).2 ⟨es, hes, he⟩⟩

theorem spans_iff_takes {p : Pattern} (hp : p.Every (fun _ => True) (fun _ => False))
    (hc : On text c) (hd : On text d) :
    Spans p c d ↔ ∃ cs, Takes p cs ∧ c.rest = cs ++ d.rest := by
  induction p generalizing c d with
  | empty =>
      constructor
      · rintro ⟨⟩
        exact ⟨[], rfl, rfl⟩
      · rintro ⟨cs, rfl, hrest⟩
        rw [hc.eq_of_rest hd hrest]
        exact .empty d
  | set s =>
      constructor
      · rintro ⟨⟩
        rename_i x rest hx hr
        exact ⟨[x], ⟨x, rfl, hx⟩, hr⟩
      · rintro ⟨cs, ⟨x, rfl, hx⟩, hrest⟩
        have hcons : c.rest = x :: d.rest := hrest
        have hd' : On text ⟨c.pos + 1, some x, d.rest⟩ := hc.step hcons
        rw [← hd'.eq_of_rest hd rfl]
        exact .set hcons hx
  | look l => exact hp.elim
  | seq p q ihp ihq =>
      constructor
      · rintro ⟨⟩
        rename_i b hcb hbd
        have hb := (forward_spans text p c b hc hcb).1
        obtain ⟨ds, hds, hfirst⟩ := (ihp hp.1 hc hb).1 hcb
        obtain ⟨es, hes, hrest⟩ := (ihq hp.2 hb hd).1 hbd
        refine ⟨ds ++ es, ⟨ds, es, rfl, hds, hes⟩, ?_⟩
        rw [hfirst, hrest, List.append_assoc]
      · rintro ⟨cs, ⟨ds, es, rfl, hds, hes⟩, hrest⟩
        rw [List.append_assoc] at hrest
        obtain ⟨b, hon, hb⟩ := hc.exists_rest hrest
        rw [← hb] at hrest
        exact .seq ((ihp hp.1 hc hon).2 ⟨ds, hds, hrest⟩) ((ihq hp.2 hon hd).2 ⟨es, hes, hb⟩)
  | alt p q ihp ihq =>
      have hsides : Spans (.alt p q) c d ↔ Spans p c d ∨ Spans q c d := by
        constructor
        · rintro (_ | _)
          · exact .inl ‹_›
          · exact .inr ‹_›
        · rintro (h | h)
          · exact .altLeft h
          · exact .altRight h
      rw [hsides, ihp hp.1 hc hd, ihq hp.2 hc hd, ← exists_or]
      simp only [Takes, or_and_right]
  | rep p least most greedy ih =>
      have hiter (n : Nat) := iter_iff_inRow (forward_spans text p)
        (fun c d hc hd => ih hp hc hd) n hc hd
      rw [spans_rep_iff]
      simp only [hiter, Takes]
      constructor
      · rintro ⟨n, hle, hmost, cs, hcs, hrest⟩
        exact ⟨cs, ⟨n, hle, hmost, hcs⟩, hrest⟩
      · rintro ⟨cs, ⟨n, hle, hmost, hcs⟩, hrest⟩
        exact ⟨n, hle, hmost, cs, hcs, hrest⟩
  | group keeps p ih =>
      have hinner : Spans (.group keeps p) c d ↔ Spans p c d := by
        constructor
        · rintro ⟨⟩
          assumption
        · exact .group
      rw [hinner, ih hp hc hd]
      rfl

theorem spans_whole_iff {p : Pattern} (hp : p.Every (fun _ => True) (fun _ => False))
    (cs : List Char) : Spans p (Cursor.start cs) (Cursor.last cs) ↔ Takes p cs := by
  have hlast : On cs (Cursor.last cs) := Cursor.on_place (Nat.le_refl _)
  rw [spans_iff_takes hp (Cursor.on_start cs) hlast]
  have hstart : (Cursor.start cs).rest = cs := rfl
  simp [Cursor.rest_last, hstart]

end Between

/-! ### Patterns in a row -/

section Row

variable {s : CharSet} {p q : Pattern} {ps : List Pattern} {cs : List Char}

theorem takes_set_cons :
    Takes (Pattern.all (.set s :: ps)) cs ↔
      ∃ x rest, cs = x :: rest ∧ s.contains x = true ∧ Takes (Pattern.all ps) rest := by
  constructor
  · rintro ⟨-, rest, rfl, ⟨x, rfl, hx⟩, hrest⟩
    exact ⟨x, rest, rfl, hx, hrest⟩
  · rintro ⟨x, rest, rfl, hx, hrest⟩
    exact ⟨[x], rest, rfl, ⟨x, rfl, hx⟩, hrest⟩

/-- A set that has few members. -/
theorem takes_choice_cons {s : CharSet} {choices : List Char}
    (h : ∀ x, s.contains x = true ↔ x ∈ choices) :
    Takes (Pattern.all (.set s :: ps)) cs ↔
      ∃ x ∈ choices, ∃ rest, cs = x :: rest ∧ Takes (Pattern.all ps) rest := by
  rw [takes_set_cons]
  constructor
  · rintro ⟨x, rest, hcs, hx, hrest⟩
    exact ⟨x, (h x).1 hx, rest, hcs, hrest⟩
  · rintro ⟨x, hx, rest, hcs, hrest⟩
    exact ⟨x, rest, hcs, (h x).2 hx, hrest⟩

theorem takes_char_cons {x : Char} :
    Takes (Pattern.all (char x :: ps)) cs ↔ ∃ rest, cs = x :: rest ∧ Takes (Pattern.all ps) rest := by
  rw [char, takes_set_cons]
  simp only [CharSet.contains_single_iff]
  constructor
  · rintro ⟨_, rest, rfl, rfl, hrest⟩
    exact ⟨rest, rfl, hrest⟩
  · rintro ⟨rest, rfl, hrest⟩
    exact ⟨x, rest, rfl, rfl, hrest⟩

theorem takes_word {w : String} : Takes (word w) cs ↔ cs = w.toList := by
  rw [word]
  induction w.toList generalizing cs with
  | nil => exact Iff.rfl
  | cons x xs ih =>
      rw [List.map_cons, takes_char_cons]
      simp only [ih, exists_eq_right]

theorem inRow_set_iff {n : Nat} :
    InRow (Takes (.set s)) n cs ↔ cs.length = n ∧ ∀ x ∈ cs, s.contains x = true := by
  induction n generalizing cs with
  | zero =>
      rw [InRow, List.length_eq_zero_iff]
      constructor
      · rintro rfl
        exact ⟨rfl, nofun⟩
      · exact And.left
  | succ n ih =>
      constructor
      · rintro ⟨-, es, rfl, ⟨x, rfl, hx⟩, hes⟩
        obtain ⟨hlength, hall⟩ := ih.1 hes
        exact ⟨congrArg (· + 1) hlength, List.forall_mem_cons.2 ⟨hx, hall⟩⟩
      · rintro ⟨hlength, hall⟩
        cases cs with
        | nil => cases hlength
        | cons x es =>
            obtain ⟨hx, hes⟩ := List.forall_mem_cons.1 hall
            exact ⟨[x], es, rfl, ⟨x, rfl, hx⟩, ih.2 ⟨Nat.succ.inj hlength, hes⟩⟩

theorem takes_times_set {n : Nat} :
    Takes (times n (.set s)) cs ↔ cs.length = n ∧ ∀ x ∈ cs, s.contains x = true := by
  rw [← inRow_set_iff]
  constructor
  · rintro ⟨k, hle, hmost, hrow⟩
    rwa [Nat.le_antisymm (hmost n rfl) hle] at hrow
  · intro hrow
    exact ⟨n, Nat.le_refl n, fun m hm => Nat.le_of_eq (Option.some.inj hm), hrow⟩

theorem takes_optional : Takes (optional p) cs ↔ cs = [] ∨ Takes p cs := by
  constructor
  · rintro ⟨n, -, hmost, hrow⟩
    match n, hmost 1 rfl, hrow with
    | 0, _, hrow => exact .inl hrow
    | 1, _, ⟨ds, es, hcs, hds, hes⟩ =>
        cases hes
        rw [List.append_nil] at hcs
        exact .inr (hcs ▸ hds)
  · rintro (rfl | hp)
    · exact ⟨0, Nat.le_refl 0, fun _ _ => Nat.zero_le _, rfl⟩
    · refine ⟨1, Nat.zero_le 1, fun m hm => Nat.le_of_eq (Option.some.inj hm), cs, [], ?_, hp, rfl⟩
      rw [List.append_nil]

theorem takes_last : Takes (Pattern.all [p]) cs ↔ Takes p cs := by
  constructor
  · rintro ⟨ds, es, rfl, hds, rfl⟩
    rwa [List.append_nil]
  · intro h
    exact ⟨cs, [], (List.append_nil cs).symm, h, rfl⟩

/-- Two rows of one set are one row. -/
theorem takes_times_pair {m n : Nat} :
    Takes (Pattern.all [times m (.set s), times n (.set s)]) cs ↔
      Takes (times (m + n) (.set s)) cs := by
  rw [takes_times_set]
  constructor
  · rintro ⟨ds, es, rfl, hds, hes⟩
    obtain ⟨rfl, hall⟩ := takes_times_set.1 hds
    obtain ⟨rfl, hall'⟩ := takes_times_set.1 (takes_last.1 hes)
    exact ⟨List.length_append, List.forall_mem_append.2 ⟨hall, hall'⟩⟩
  · rintro ⟨hlength, hall⟩
    refine ⟨cs.take m, cs.drop m, (List.take_append_drop m cs).symm, takes_times_set.2 ⟨?_, ?_⟩,
      takes_last.2 (takes_times_set.2 ⟨?_, ?_⟩)⟩
    · exact List.length_take_of_le (by omega)
    · exact fun c hc => hall c (List.mem_of_mem_take hc)
    · rw [List.length_drop, hlength, Nat.add_sub_cancel_left]
    · exact fun c hc => hall c (List.mem_of_mem_drop hc)

theorem takes_optional_last :
    Takes (Pattern.all [p, optional q]) cs ↔ Takes p cs ∨ Takes (Pattern.all [p, q]) cs := by
  constructor
  · rintro ⟨ds, es, rfl, hds, hes⟩
    rcases takes_optional.1 (takes_last.1 hes) with rfl | hes
    · rw [List.append_nil]
      exact .inl hds
    · exact .inr ⟨ds, es, rfl, hds, takes_last.2 hes⟩
  · rintro (h | ⟨ds, es, rfl, hds, hes⟩)
    · exact ⟨cs, [], (List.append_nil cs).symm, h, takes_last.2 (takes_optional.2 (.inl rfl))⟩
    · exact ⟨ds, es, rfl, hds, takes_last.2 (takes_optional.2 (.inr (takes_last.1 hes)))⟩

theorem takes_alt_cons : Takes (Pattern.all (.alt p q :: ps)) cs ↔
    Takes (Pattern.all (p :: ps)) cs ∨ Takes (Pattern.all (q :: ps)) cs := by
  constructor
  · rintro ⟨ds, es, rfl, hds | hds, hes⟩
    · exact .inl ⟨ds, es, rfl, hds, hes⟩
    · exact .inr ⟨ds, es, rfl, hds, hes⟩
  · rintro (⟨ds, es, rfl, hds, hes⟩ | ⟨ds, es, rfl, hds, hes⟩)
    · exact ⟨ds, es, rfl, .inl hds, hes⟩
    · exact ⟨ds, es, rfl, .inr hds, hes⟩

theorem takes_seq_cons :
    Takes (Pattern.all (.seq p q :: ps)) cs ↔ Takes (Pattern.all (p :: q :: ps)) cs := by
  constructor
  · rintro ⟨-, es, rfl, ⟨as, bs, rfl, has, hbs⟩, hes⟩
    exact ⟨as, bs ++ es, List.append_assoc as bs es, has, bs, es, rfl, hbs, hes⟩
  · rintro ⟨as, -, rfl, has, bs, es, rfl, hbs, hes⟩
    exact ⟨as ++ bs, es, (List.append_assoc as bs es).symm, ⟨as, bs, rfl, has, hbs⟩, hes⟩

theorem takes_word_cons {w : String} : Takes (Pattern.all (word w :: ps)) cs ↔
    ∃ rest, cs = w.toList ++ rest ∧ Takes (Pattern.all ps) rest := by
  constructor
  · rintro ⟨ds, es, rfl, hds, hes⟩
    exact ⟨es, by rw [takes_word.1 hds], hes⟩
  · rintro ⟨rest, rfl, hrest⟩
    exact ⟨w.toList, rest, rfl, takes_word.2 rfl, hrest⟩

end Row

end Pattern

end LossPrevention
