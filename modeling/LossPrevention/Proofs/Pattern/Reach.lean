import LossPrevention.Pattern.Reach
import LossPrevention.Proofs.Pattern.Places

/-!
Whether a text holds a match, decided by sets of places, against the meaning of patterns. A number
stands for the places of the text at its bits; what the moves of a pattern make of it are the
places that the pattern leads to from there.
-/

namespace LossPrevention.Pattern

open Cursor (On)

def Occurs (p : Pattern) (text : List Char) : Prop := ∃ c d, On text c ∧ Spans p c d

namespace Reach

/-- The place is one of those that the number stands for. -/
def At (text : List Char) (s : Nat) (c : Cursor) : Prop := On text c ∧ s.testBit c.pos = true

/-- The number stands for nothing but places of the text. -/
def Inside (text : List Char) (s : Nat) : Prop := ∀ i, s.testBit i = true → i ≤ text.length

/-- From a set of places the function goes to where the relation leads from them. -/
def Follows (text : List Char) (f : Nat → Nat) (R : Cursor → Cursor → Prop) : Prop :=
  ∀ s d, At text (f s) d ↔ ∃ c, At text s c ∧ R c d

/-! ### Characters and demands -/

theorem testBit_first (b : Bool) (n : Nat) :
    ((if b then 1 else 0) + 2 * n).testBit 0 = b := by
  cases b <;> simp [Nat.testBit_zero]

theorem testBit_later (b : Bool) (n i : Nat) :
    ((if b then 1 else 0) + 2 * n).testBit (i + 1) = n.testBit i := by
  have hhalf : ((if b then 1 else 0) + 2 * n) / 2 = n := by
    cases b
    · simp
    · simp only [if_true]
      omega
  rw [Nat.testBit_succ, hhalf]

theorem testBit_members (s : Text.CharSet) (text : List Char) (i : Nat) :
    (members s text).testBit i = text[i]?.any s.contains := by
  induction text generalizing i with
  | nil => simp [members]
  | cons c cs ih =>
      cases i with
      | zero => rw [members, testBit_first]; rfl
      | succ i => rw [members, testBit_later, ih, List.getElem?_cons_succ]

theorem testBit_meets (l : Look) (before : Option Char) (text : List Char) {i : Nat}
    (h : i ≤ text.length) :
    (meets l before text).testBit i =
      l.holds ((text.take i).getLast?.or before) (text.drop i).head? := by
  induction text generalizing before i with
  | nil =>
      obtain rfl : i = 0 := Nat.le_zero.1 h
      cases hl : l.holds before none <;> simp [meets, hl]
  | cons c cs ih =>
      cases i with
      | zero => rw [meets, testBit_first]; rfl
      | succ i =>
          rw [meets, testBit_later, ih _ (Nat.le_of_succ_le_succ h), List.take_succ_cons,
            List.drop_succ_cons, List.getLast?_cons]
          cases (cs.take i).getLast? <;> rfl

theorem lt_of_testBit_members {s : Text.CharSet} {text : List Char} {i : Nat}
    (h : (members s text).testBit i = true) : i < text.length := by
  rw [testBit_members] at h
  by_contra hle
  rw [List.getElem?_eq_none (Nat.not_lt.1 hle)] at h
  cases h

theorem follows_over (text : List Char) (s : Text.CharSet) :
    Follows text (fun t => (t &&& members s text) <<< 1) (Spans (.set s)) := by
  intro t d
  simp only [At, Nat.testBit_shiftLeft, Nat.testBit_and, Bool.and_eq_true, decide_eq_true_eq]
  constructor
  · rintro ⟨hd, hpos, hbit, hset⟩
    have hlt := lt_of_testBit_members hset
    rw [testBit_members, List.getElem?_eq_getElem hlt] at hset
    have hc : On text (Cursor.place text (d.pos - 1)) := Cursor.on_place (Nat.le_of_lt hlt)
    have hrest : (Cursor.place text (d.pos - 1)).rest =
        text[d.pos - 1] :: text.drop (d.pos - 1 + 1) := List.drop_eq_getElem_cons hlt
    have hspan := Spans.set hrest hset
    have hsame : (Cursor.place text (d.pos - 1)).pos + 1 = d.pos := Nat.sub_add_cancel hpos
    exact ⟨_, ⟨hc, hbit⟩, (hc.step hrest).eq_of_pos hd hsame ▸ hspan⟩
  · rintro ⟨c, ⟨hc, hbit⟩, hspan⟩
    cases hspan with
    | @set _ _ x rest hr hx =>
        have hdrop : text.drop c.pos = x :: rest :=
          (congrArg Cursor.rest hc.2).symm.trans hr
        have hget : text[c.pos]? = some x := by rw [← List.head?_drop, hdrop, List.head?_cons]
        refine ⟨hc.step hr, Nat.le_add_left 1 c.pos, hbit, ?_⟩
        rw [testBit_members, Nat.add_sub_cancel, hget]
        exact hx

theorem follows_at (text : List Char) (l : Look) :
    Follows text (fun t => t &&& meets l none text) (Spans (.look l)) := by
  intro t d
  rw [At, Nat.testBit_and, Bool.and_eq_true]
  constructor
  · rintro ⟨hd, hbit, hmeets⟩
    refine ⟨d, ⟨hd, hbit⟩, .look ?_⟩
    rw [testBit_meets l none text hd.1, Option.or_none] at hmeets
    rw [hd.2]
    exact hmeets
  · rintro ⟨c, ⟨hc, hbit⟩, hspan⟩
    cases hspan with
    | look h =>
        refine ⟨hc, hbit, ?_⟩
        rw [testBit_meets l none text hc.1, Option.or_none]
        rw [hc.2] at h
        exact h

/-! ### Repetition -/

theorem At.or {text : List Char} {s t : Nat} {c : Cursor} :
    At text (s ||| t) c ↔ At text s c ∨ At text t c := by
  rw [At, Nat.testBit_or, Bool.or_eq_true, and_or_left, At, At]

section Follows

variable {text : List Char} {f : Nat → Nat} {R : Cursor → Cursor → Prop}

theorem Follows.comp {g : Nat → Nat} {S : Cursor → Cursor → Prop} (hf : Follows text f R)
    (hg : Follows text g S) :
    Follows text (fun s => g (f s)) (fun c e => ∃ d, R c d ∧ S d e) := by
  intro s e
  rw [hg]
  constructor
  · rintro ⟨d, hd, hde⟩
    obtain ⟨c, hc, hcd⟩ := (hf s d).1 hd
    exact ⟨c, hc, d, hcd, hde⟩
  · rintro ⟨c, hc, d, hcd, hde⟩
    exact ⟨d, (hf s d).2 ⟨c, hc, hcd⟩, hde⟩

theorem Follows.congr {S : Cursor → Cursor → Prop} (h : Follows text f R)
    (hRS : ∀ c d, On text c → (R c d ↔ S c d)) : Follows text f S := by
  intro s d
  rw [h]
  exact exists_congr fun c => and_congr_right fun hc => hRS c d hc.1

/-- A set that a step reproduces is reproduced by any number of them. -/
theorem Follows.of_still (h : Follows text f R) {s : Nat} (hs : f s = s) (n : Nat) (d : Cursor) :
    At text s d ↔ ∃ c, At text s c ∧ Iter R n c d := by
  induction n generalizing d with
  | zero => simp [Iter]
  | succ n ih =>
      constructor
      · intro hd
        obtain ⟨e, he, hiter⟩ := (ih d).1 hd
        rw [← hs] at he
        obtain ⟨c, hc, hce⟩ := (h s e).1 he
        exact ⟨c, hc, e, hce, hiter⟩
      · rintro ⟨c, hc, e, hce, hiter⟩
        have he : At text s e := hs ▸ (h s e).2 ⟨c, hc, hce⟩
        exact (ih d).2 ⟨e, he, hiter⟩

theorem follows_exactly (h : Follows text f R) (n : Nat) :
    Follows text (exactly f n) (Iter R n) := by
  induction n with
  | zero => simp [Follows, exactly, Iter]
  | succ n ih =>
      intro s d
      rw [exactly]
      split
      · rename_i hs
        exact h.of_still hs (n + 1) d
      · exact h.comp ih s d

/-- All that one step reaches from `all` is there already or one step away from `front`. -/
def Front (text : List Char) (R : Cursor → Cursor → Prop) (all front : Nat) : Prop :=
  (∀ c, At text front c → At text all c) ∧
    ∀ c d, At text all c → R c d → At text all d ∨ ∃ e, At text front e ∧ R e d

theorem at_upTo (h : Follows text f R) (n : Nat) {all front : Nat}
    (hfront : Front text R all front) (d : Cursor) :
    At text (upTo f n all front) d ↔ ∃ k ≤ n, ∃ c, At text all c ∧ Iter R k c d := by
  induction n generalizing all front with
  | zero => simp [upTo, Iter]
  | succ n ih =>
      obtain ⟨hsub, hstep⟩ := hfront
      have hnext : ∀ c, At text (all ||| f front) c ↔
          At text all c ∨ ∃ e, At text front e ∧ R e c := by
        intro c
        rw [At.or, h]
      rw [upTo]
      split
      · rename_i hs
        -- nothing new: what is there is closed under steps
        have hclosed : ∀ c e, At text all c → R c e → At text all e := by
          intro c e hc hce
          rw [← hs, hnext]
          exact hstep c e hc hce
        constructor
        · exact fun hd => ⟨0, Nat.zero_le _, d, hd, rfl⟩
        · rintro ⟨k, -, c, hc, hiter⟩
          clear hs hnext
          induction k generalizing c with
          | zero => exact hiter ▸ hc
          | succ k ihk =>
              obtain ⟨e, hce, hrest⟩ := hiter
              exact ihk e (hclosed c e hc hce) hrest
      · have hnew : ∀ c, At text ((all ||| f front) ^^^ all) c ↔
            At text (all ||| f front) c ∧ ¬ At text all c := by
          intro c
          simp only [At, Nat.testBit_xor, Nat.testBit_or]
          cases all.testBit c.pos <;> simp
        have hfront' : Front text R (all ||| f front) ((all ||| f front) ^^^ all) := by
          refine ⟨fun c hc => ((hnew c).1 hc).1, fun c e hc hce => ?_⟩
          by_cases hall : At text all c
          · exact .inl ((hnext e).2 (hstep c e hall hce))
          · exact .inr ⟨c, (hnew c).2 ⟨hc, hall⟩, hce⟩
        rw [ih hfront']
        constructor
        · rintro ⟨k, hk, c, hc, hiter⟩
          rcases (hnext c).1 hc with hall | ⟨e, he, hec⟩
          · exact ⟨k, Nat.le_succ_of_le hk, c, hall, hiter⟩
          · exact ⟨k + 1, Nat.succ_le_succ hk, e, hsub e he, c, hec, hiter⟩
        · rintro ⟨k, hk, c, hc, hiter⟩
          cases k with
          | zero => exact ⟨0, Nat.zero_le _, c, (hnext c).2 (.inl hc), hiter⟩
          | succ k =>
              obtain ⟨e, hce, hrest⟩ := hiter
              exact ⟨k, Nat.le_of_succ_le_succ hk, e, (hnext e).2 (hstep c e hc hce), hrest⟩

theorem follows_upTo (h : Follows text f R) (n : Nat) :
    Follows text (fun s => upTo f n s s) (fun c d => ∃ k ≤ n, Iter R k c d) := by
  intro s d
  have hfront : Front text R s s := ⟨fun _ hc => hc, fun c _ hc hcd => .inr ⟨c, hc, hcd⟩⟩
  rw [at_upTo h n hfront]
  constructor
  · rintro ⟨k, hk, c, hc, hiter⟩
    exact ⟨c, hc, k, hk, hiter⟩
  · rintro ⟨c, hc, k, hk, hiter⟩
    exact ⟨k, hk, c, hc, hiter⟩

end Follows

/-- How often a repetition goes on behind its first rounds, in a text of `length`. -/
def bound (length least : Nat) (most : Option Nat) : Nat :=
  match most with
  | some m => min (m - least) (length + 1)
  | none => length + 1

/-- Rounds that stand still can be left out, so no more of them count than the text is long. -/
theorem spans_rep_iff_bound {text : List Char} {p : Pattern} {least : Nat} {most : Option Nat}
    (hmost : ∀ m, most = some m → least ≤ m) (greedy : Bool) {c : Cursor} (hc : On text c)
    (d : Cursor) :
    (∃ e, Iter (Spans p) least c e ∧ ∃ k ≤ bound text.length least most, Iter (Spans p) k e d) ↔
      Spans (.rep p least most greedy) c d := by
  have hforward := forward_spans text p
  rw [spans_rep_iff]
  constructor
  · rintro ⟨e, hce, k, hk, hed⟩
    refine ⟨least + k, Nat.le_add_right _ _, ?_, hce.add hed⟩
    rintro m rfl
    have hle := hmost m rfl
    simp only [bound] at hk
    omega
  · rintro ⟨n, hn, hbound, hiter⟩
    obtain ⟨r, rfl⟩ := Nat.exists_eq_add_of_le hn
    obtain ⟨e, hce, hed⟩ := hiter.split
    have he := (hforward.iter least c e hc hce).1
    have hd := (hforward.iter r e d he hed).1
    obtain ⟨k, hkr, hkd, hk⟩ := hforward.drop_still he hed
    refine ⟨e, hce, k, ?_, hk.mono fun _ _ h => h.1⟩
    have hlength := hd.1
    cases most with
    | some m =>
        have hle := hbound m rfl
        simp only [bound]
        omega
    | none =>
        simp only [bound]
        omega

/-! ### All moves -/

/-- The moves of a pattern lead from a set of places to where the pattern leads from them. -/
theorem follows_reach (text : List Char) {p : Pattern} (hp : Proper p) :
    Follows text (reach text.length (moves text p)) (Spans p) := by
  induction p with
  | empty =>
      intro s d
      constructor
      · exact fun hd => ⟨d, hd, .empty d⟩
      · rintro ⟨c, hc, hspan⟩
        cases hspan
        exact hc
  | set s => exact follows_over text s
  | look l => exact follows_at text l
  | seq p q ihp ihq =>
      refine ((ihp hp.1).comp (ihq hp.2)).congr fun c e _ => ⟨?_, ?_⟩
      · rintro ⟨d, hcd, hde⟩
        exact .seq hcd hde
      · intro h
        cases h with
        | seq hcd hde => exact ⟨_, hcd, hde⟩
  | alt p q ihp ihq =>
      intro s d
      have hor : At text (reach text.length (moves text (.alt p q)) s) d ↔
          At text (reach text.length (moves text p) s) d ∨
            At text (reach text.length (moves text q) s) d := At.or
      rw [hor, ihp hp.1, ihq hp.2]
      constructor
      · rintro (⟨c, hc, h⟩ | ⟨c, hc, h⟩)
        · exact ⟨c, hc, .altLeft h⟩
        · exact ⟨c, hc, .altRight h⟩
      · rintro ⟨c, hc, h⟩
        cases h with
        | altLeft h => exact .inl ⟨c, hc, h⟩
        | altRight h => exact .inr ⟨c, hc, h⟩
  | rep p least most greedy ih =>
      have hp' := ih hp.1
      exact ((follows_exactly hp' least).comp
        (follows_upTo hp' (bound text.length least most))).congr
          fun c d hc => spans_rep_iff_bound hp.2 greedy hc d
  | group keeps p ih =>
      refine (ih hp).congr fun c d _ => ⟨.group, ?_⟩
      intro h
      cases h with
      | group h => exact h

/-! ### No place outside the text -/

section Inside

variable {text : List Char} {s t : Nat}

theorem Inside.or (hs : Inside text s) (ht : Inside text t) : Inside text (s ||| t) := by
  intro i h
  rw [Nat.testBit_or, Bool.or_eq_true] at h
  exact h.elim (hs i) (ht i)

theorem Inside.xor (hs : Inside text s) (ht : Inside text t) : Inside text (s ^^^ t) := by
  intro i h
  rw [Nat.testBit_xor] at h
  cases hi : s.testBit i with
  | true => exact hs i hi
  | false =>
      rw [hi, Bool.false_xor] at h
      exact ht i h

theorem Inside.and (hs : Inside text s) (t : Nat) : Inside text (s &&& t) := by
  intro i h
  rw [Nat.testBit_and, Bool.and_eq_true] at h
  exact hs i h.1

variable {f : Nat → Nat}

theorem Inside.exactly (hf : ∀ s, Inside text s → Inside text (f s)) (hs : Inside text s)
    (n : Nat) : Inside text (exactly f n s) := by
  induction n generalizing s with
  | zero => exact hs
  | succ n ih =>
      rw [Reach.exactly]
      split
      · exact hs
      · exact ih (hf s hs)

theorem Inside.upTo (hf : ∀ s, Inside text s → Inside text (f s)) (hs : Inside text s)
    (ht : Inside text t) (n : Nat) : Inside text (upTo f n s t) := by
  induction n generalizing s t with
  | zero => exact hs
  | succ n ih =>
      have hnext : Inside text (s ||| f t) := hs.or (hf t ht)
      rw [Reach.upTo]
      split
      · exact hs
      · exact ih hnext (hnext.xor hs)

theorem Inside.reach (hs : Inside text s) (p : Pattern) :
    Inside text (reach text.length (moves text p) s) := by
  induction p generalizing s with
  | empty => exact hs
  | set cs =>
      intro i h
      rw [moves, Reach.reach, Nat.testBit_shiftLeft, Nat.testBit_and, Bool.and_eq_true,
        Bool.and_eq_true, decide_eq_true_eq] at h
      have hlt := lt_of_testBit_members h.2.2
      omega
  | look l => exact hs.and _
  | seq p q ihp ihq => exact ihq (ihp hs)
  | alt p q ihp ihq => exact (ihp hs).or (ihq hs)
  | rep p least most greedy ih =>
      have hf : ∀ s, Inside text s → Inside text (Reach.reach text.length (moves text p) s) :=
        fun s h => ih h
      have hleast := Inside.exactly hf hs least
      exact Inside.upTo hf hleast hleast _
  | group keeps p ih => exact ih hs

end Inside

theorem testBit_everywhere (n i : Nat) : (Nat.pow 2 (n + 1) - 1).testBit i = true ↔ i ≤ n := by
  have hpow : Nat.pow 2 (n + 1) = 2 ^ (n + 1) := rfl
  rw [hpow, Nat.testBit_two_pow_sub_one, decide_eq_true_eq]
  exact Nat.lt_succ_iff

end Reach

open Reach in
theorem isMatch_iff_occurs {p : Pattern} (hp : Proper p) (text : List Char) :
    p.isMatch text = true ↔ p.Occurs text := by
  have hfollows := follows_reach text hp (Nat.pow 2 (text.length + 1) - 1)
  have hinside : Inside text (reach text.length (moves text p)
      (Nat.pow 2 (text.length + 1) - 1)) :=
    Inside.reach (fun i h => (testBit_everywhere _ i).1 h) p
  rw [isMatch, decide_eq_true_eq]
  constructor
  · intro hne
    obtain ⟨i, hi⟩ := Nat.exists_testBit_of_ne_zero hne
    have hd := Cursor.on_place (hinside i hi)
    obtain ⟨c, hc, hspan⟩ := (hfollows (Cursor.place text i)).1 ⟨hd, hi⟩
    exact ⟨c, _, hc.1, hspan⟩
  · rintro ⟨c, d, hc, hspan⟩ hzero
    have hd := (hfollows d).2 ⟨c, ⟨hc, (testBit_everywhere _ _).2 hc.1⟩, hspan⟩
    rw [hzero, At, Nat.zero_testBit] at hd
    cases hd.2

end LossPrevention.Pattern
