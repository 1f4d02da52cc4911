import LossPrevention.Proofs.Pattern.Places

/-!
A text as a part of a longer one. A pattern that cannot take the character behind the part, and
that asks nothing about which the longer text would give another answer, leads to the same places
in the part as in the longer text, and in the same order.
-/

namespace LossPrevention

open Text (CharSet)

namespace Cursor

/-- A place of a part, seen from the text that has `front` before the part and `after` behind it. -/
def within (front after : List Char) (c : Cursor) : Cursor :=
  ⟨c.pos + front.length, c.before.or front.getLast?, c.rest ++ after⟩

theorem on_within {text : List Char} {c : Cursor} (h : On text c) (front after : List Char) :
    On (front ++ text ++ after) (c.within front after) := by
  have hle := h.1
  refine ⟨by simp [within]; omega, ?_⟩
  conv_lhs => rw [h.2]
  simp only [within, place, Cursor.mk.injEq, true_and]
  constructor
  · rw [List.take_append_of_le_length (by simp; omega), List.take_append, Nat.add_sub_cancel,
      List.take_of_length_le (Nat.le_add_left _ _), List.getLast?_append]
  · rw [List.drop_append_of_le_length (by simp; omega), List.drop_append, Nat.add_sub_cancel,
      List.drop_eq_nil_of_le (Nat.le_add_left _ _), List.nil_append]

def last (text : List Char) : Cursor := place text text.length

theorem rest_last (text : List Char) : (last text).rest = [] := List.drop_length

theorem On.eq_last {text : List Char} {c : Cursor} (h : On text c) (hr : c.rest = []) :
    c = last text := by
  have hlen := h.length_rest
  rw [hr, List.length_nil] at hlen
  have hpos : c.pos = text.length := Nat.le_antisymm h.1 (by omega)
  rw [h.2, hpos, last]

end Cursor

namespace Pattern

open Cursor (On)

/-- All sets of a pattern and all its demands are of the given kinds. -/
def Every (P : CharSet → Prop) (Q : Look → Prop) : Pattern → Prop
  | empty => True
  | set s => P s
  | look l => Q l
  | seq p q | alt p q => Every P Q p ∧ Every P Q q
  | rep p _ _ _ | group _ p => Every P Q p

instance decidableEvery (P : CharSet → Prop) (Q : Look → Prop) [DecidablePred P]
    [DecidablePred Q] : (p : Pattern) → Decidable (Every P Q p)
  | empty => isTrue trivial
  | set s => inferInstanceAs (Decidable (P s))
  | look l => inferInstanceAs (Decidable (Q l))
  | seq p q | alt p q =>
      @instDecidableAnd _ _ (decidableEvery P Q p) (decidableEvery P Q q)
  | rep p _ _ _ | group _ p => decidableEvery P Q p

theorem Every.imp {P P' : CharSet → Prop} {Q Q' : Look → Prop} (hP : ∀ s, P s → P' s)
    (hQ : ∀ l, Q l → Q' l) {p : Pattern} (h : Every P Q p) : Every P' Q' p := by
  induction p with
  | empty => trivial
  | set s => exact hP s h
  | look l => exact hQ l h
  | seq p q ihp ihq | alt p q ihp ihq => exact ⟨ihp h.1, ihq h.2⟩
  | rep p _ _ _ ih | group _ p ih => exact ih h

/-- The least number of characters that a pattern takes. -/
def minLength : Pattern → Nat
  | empty | look _ => 0
  | set _ => 1
  | seq p q => minLength p + minLength q
  | alt p q => min (minLength p) (minLength q)
  | rep p least _ _ => least * minLength p
  | group _ p => minLength p

theorem Spans.minLength_le {p : Pattern} {c d : Cursor} (h : Spans p c d) :
    c.pos + minLength p ≤ d.pos := by
  induction h with
  | empty c | look h | done c => simp [minLength]
  | set hr hx => simp [minLength]
  | seq _ _ ihp ihq =>
      simp only [minLength]
      omega
  | altLeft _ ih | altRight _ ih =>
      simp only [minLength]
      omega
  | @once p least _ _ _ _ _ _ _ _ ihp ihq =>
      simp only [minLength] at *
      cases least with
      | zero => omega
      | succ n =>
          rw [Nat.add_sub_cancel] at ihq
          rw [Nat.succ_mul]
          omega
  | group _ ih => exact ih

/-! ### Lists of places in a longer text -/

section Within

variable {front after : List Char}

theorem inRow_map (before : Nat → Nat → Bool) (h : ∀ i j, before (i + front.length) (j + front.length) = before i j)
    (cs : List Cursor) :
    inRow (fun c d => before c.pos d.pos) (cs.map (Cursor.within front after)) =
      inRow (fun c d => before c.pos d.pos) cs := by
  induction cs with
  | nil => rfl
  | cons c cs ih =>
      cases cs with
      | nil => rfl
      | cons d cs =>
          rw [List.map_cons] at ih
          rw [List.map_cons, List.map_cons, inRow, inRow, ih]
          simp only [Cursor.within, h]

theorem go_map {seen seen' : Nat} (h : ∀ i, seen'.testBit (i + front.length) = seen.testBit i)
    (cs : List Cursor) :
    distinct.go seen' (cs.map (Cursor.within front after)) =
      (distinct.go seen cs).map (Cursor.within front after) := by
  induction cs generalizing seen seen' with
  | nil => rfl
  | cons c cs ih =>
      have hpos : (c.within front after).pos = c.pos + front.length := rfl
      rw [List.map_cons, distinct.go, distinct.go, hpos, h]
      split
      · exact ih h
      · rw [List.map_cons, ih]
        intro i
        rw [Bool.eq_iff_iff, testBit_insert, testBit_insert, h]
        simp

theorem distinct_map (cs : List Cursor) :
    distinct (cs.map (Cursor.within front after)) =
      (distinct cs).map (Cursor.within front after) := by
  unfold distinct
  rw [inRow_map (fun i j => decide (j < i)) (by simp),
    inRow_map (fun i j => decide (i < j)) (by simp)]
  split
  · rfl
  · exact go_map (by simp) cs

theorem map_pos_within_inj {cs ds : List Cursor} :
    (cs.map (Cursor.within front after)).map Cursor.pos =
      (ds.map (Cursor.within front after)).map Cursor.pos ↔
        cs.map Cursor.pos = ds.map Cursor.pos := by
  have hshift (cs : List Cursor) : (cs.map (Cursor.within front after)).map Cursor.pos =
      (cs.map Cursor.pos).map (· + front.length) := by
    rw [List.map_map, List.map_map]
    rfl
  rw [hshift, hshift]
  have hinj : Function.Injective (· + front.length : Nat → Nat) := fun _ _ h => Nat.add_right_cancel h
  exact (List.map_injective_iff.2 hinj).eq_iff

variable {text : List Char} {step step' : Cursor → List Cursor}

theorem exactly_map (hstep : ∀ c, On text c → step' (c.within front after) =
      (step c).map (Cursor.within front after))
    (h : Forward text (fun c d => d ∈ step c)) (k : Nat) {cs : List Cursor}
    (hcs : ∀ c ∈ cs, On text c) :
    exactly step' k (cs.map (Cursor.within front after)) =
      (exactly step k cs).map (Cursor.within front after) := by
  induction k generalizing cs with
  | zero => rfl
  | succ k ih =>
      have hflat : (cs.map (Cursor.within front after)).flatMap step' =
          (cs.flatMap step).map (Cursor.within front after) := by
        rw [List.flatMap_map, List.map_flatMap]
        exact List.flatMap_congr (fun c hc => hstep c (hcs c hc))
      have hon : ∀ d ∈ distinct (cs.flatMap step), On text d := by
        intro d hd
        have hmem := mem_flatMap_step h hcs
        exact hmem d ((mem_distinct hmem).1 hd)
      rw [exactly, exactly, hflat, distinct_map]
      simp only [map_pos_within_inj]
      split
      · rfl
      · exact ih hon

/-- More repetitions than there are characters left make no difference. -/
theorem upTo_stable (h : Forward text (fun c d => d ∈ step c)) (greedy : Bool) {k m : Nat}
    {c : Cursor} (hc : On text c) (hk : c.rest.length ≤ k) (hm : c.rest.length ≤ m)
    (tail : List Cursor) : upTo step greedy k c tail = upTo step greedy m c tail := by
  have hnone (c : Cursor) (hc : On text c) (hr : c.rest.length = 0) :
      (step c).filter (fun d => c.pos < d.pos) = [] := by
    apply List.filter_eq_nil_iff.2
    intro d hd hlt
    have hod := (h c d hc hd).1.1
    have hlen := hc.length_rest
    have hpos := of_decide_eq_true hlt
    omega
  induction k generalizing m c tail with
  | zero =>
      cases m with
      | zero => rfl
      | succ m =>
          rw [upTo, upTo, hnone c hc (Nat.le_zero.1 hk)]
          cases greedy <;> rfl
  | succ k ih =>
      cases m with
      | zero =>
          rw [upTo, upTo, hnone c hc (Nat.le_zero.1 hm)]
          cases greedy <;> rfl
      | succ m =>
          have hmore : ∀ d ∈ (step c).filter (fun d => c.pos < d.pos), ∀ tail,
              upTo step greedy k d tail = upTo step greedy m d tail := by
            intro d hd tail
            obtain ⟨hstep, hlt⟩ := List.mem_filter.1 hd
            have hod := (h c d hc hstep).1
            have hlen := hc.length_rest
            have hlen' := hod.length_rest
            have hpos := of_decide_eq_true hlt
            have hle := hod.1
            exact ih hod (by omega) (by omega) tail
          rw [upTo, upTo]
          rw [List.foldr_ext _ _ _ hmore, List.foldr_ext _ _ _ hmore]

theorem upTo_map (hstep : ∀ c, On text c → step' (c.within front after) =
      (step c).map (Cursor.within front after))
    (h : Forward text (fun c d => d ∈ step c)) (greedy : Bool) (k : Nat) {c : Cursor}
    (hc : On text c) (tail : List Cursor) :
    upTo step' greedy k (c.within front after) (tail.map (Cursor.within front after)) =
      (upTo step greedy k c tail).map (Cursor.within front after) := by
  induction k generalizing c tail with
  | zero => rfl
  | succ k ih =>
      have hmore : (step' (c.within front after)).filter
          (fun d => (c.within front after).pos < d.pos) =
            ((step c).filter (fun d => c.pos < d.pos)).map (Cursor.within front after) := by
        rw [hstep c hc, List.filter_map]
        congr 1
        apply List.filter_congr
        intro d _
        simp [Cursor.within]
      have hfold (ds : List Cursor) (hds : ∀ d ∈ ds, On text d) (tail : List Cursor) :
          (ds.map (Cursor.within front after)).foldr (upTo step' greedy k)
            (tail.map (Cursor.within front after)) =
          (ds.foldr (upTo step greedy k) tail).map (Cursor.within front after) := by
        induction ds with
        | nil => rfl
        | cons d ds ihds =>
            rw [List.map_cons, List.foldr_cons, List.foldr_cons,
              ihds (fun e he => hds e (List.mem_cons_of_mem _ he))]
            exact ih (hds d List.mem_cons_self) _
      have hon : ∀ d ∈ (step c).filter (fun d => c.pos < d.pos), On text d := by
        intro d hd
        exact (h c d hc (List.mem_filter.1 hd).1).1
      rw [upTo, upTo, hmore]
      cases greedy with
      | true =>
          rw [if_pos rfl, if_pos rfl, ← List.map_cons, hfold _ hon]
      | false =>
          rw [if_neg (by simp), if_neg (by simp), hfold _ hon, List.map_cons]

end Within

/-! ### The search in a longer text -/

/-- The set does not take the character behind the part. -/
def Blocked (after : List Char) (s : CharSet) : Prop := ∀ x ∈ after.head?, s.contains x = false

/-- The demand is answered in the longer text as in the part. -/
def Settled (text front after : List Char) (l : Look) : Prop :=
  ∀ c, On text c →
    l.holds (c.within front after).before (c.within front after).next? = l.holds c.before c.next?

/-- The part decides what the pattern does. -/
structure Apart (p : Pattern) (text front after : List Char) : Prop where
  proper : Proper p
  every : p.Every (Blocked after) (Settled text front after)

section Apart

variable {p q : Pattern} {text front after : List Char}

theorem ends_set_within {s : CharSet} (h : Blocked after s) (c : Cursor) :
    ends (.set s) (c.within front after) = (ends (.set s) c).map (Cursor.within front after) := by
  have hrest : (c.within front after).rest = c.rest ++ after := rfl
  cases hr : c.rest with
  | nil =>
      cases ha : after with
      | nil => simp [ends, Cursor.within, hr]
      | cons x rest =>
          have hx : s.contains x = false := h x (by rw [ha]; rfl)
          simp [ends, Cursor.within, hr, hx]
  | cons x rest =>
      by_cases hx : s.contains x = true
      · have hpos : c.pos + front.length + 1 = c.pos + 1 + front.length := by omega
        simp [ends, Cursor.within, hr, hx, hpos]
      · simp [ends, Cursor.within, hr, hx]

theorem ends_rep_within {least : Nat} {most : Option Nat} {greedy : Bool} (hp : Proper p)
    (h : ∀ c, On text c → ends p (c.within front after) = (ends p c).map (Cursor.within front after))
    {c : Cursor} (hc : On text c) :
    ends (.rep p least most greedy) (c.within front after) =
      (ends (.rep p least most greedy) c).map (Cursor.within front after) := by
  have hforward := forward_ends text hp
  have hsingle : ∀ d ∈ [c], On text d := by simpa using hc
  have htail (d : Cursor) (hd : On text d) :
      upTo (ends p) greedy (room least most (d.within front after)) (d.within front after) [] =
        (upTo (ends p) greedy (room least most d) d []).map (Cursor.within front after) := by
    rw [← List.map_nil, upTo_map h hforward greedy _ hd]
    cases most with
    | some m => rfl
    | none =>
        have hlong : d.rest.length ≤ (d.within front after).rest.length := by
          simp [Cursor.within]
        exact congrArg _ (upTo_stable hforward greedy hd hlong (Nat.le_refl _) [])
  have hflat : (exactly (ends p) least [c.within front after]).flatMap
      (fun d => upTo (ends p) greedy (room least most d) d []) =
        ((exactly (ends p) least [c]).flatMap
          (fun d => upTo (ends p) greedy (room least most d) d [])).map
            (Cursor.within front after) := by
    have hexactly := exactly_map h hforward least hsingle
    rw [List.map_singleton] at hexactly
    rw [hexactly, List.flatMap_map, List.map_flatMap]
    apply List.flatMap_congr
    intro d hd
    obtain ⟨e, he, hiter⟩ := (mem_exactly hforward least hsingle d).1 hd
    exact htail d (hforward.iter least e d (hsingle e he) hiter).1
  exact (congrArg distinct hflat).trans (distinct_map _)

theorem ends_within (h : Apart p text front after) {c : Cursor} (hc : On text c) :
    ends p (c.within front after) = (ends p c).map (Cursor.within front after) := by
  obtain ⟨hp, he⟩ := h
  induction p generalizing c with
  | empty => rfl
  | set s => exact ends_set_within he c
  | look l =>
      rw [ends, ends, he c hc]
      split <;> rfl
  | seq p q ihp ihq =>
      rw [ends, ends, ihp hc hp.1 he.1, ← distinct_map, List.flatMap_map, List.map_flatMap]
      congr 1
      apply List.flatMap_congr
      intro d hd
      exact ihq (forward_ends text hp.1 c d hc hd).1 hp.2 he.2
  | alt p q ihp ihq =>
      rw [ends, ends, ihp hc hp.1 he.1, ihq hc hp.2 he.2, ← List.map_append, distinct_map]
  | rep p least most greedy ih => exact ends_rep_within hp.1 (fun d hd => ih hd hp.1 he) hc
  | group keeps p ih =>
      rw [ends, ends]
      exact ih hc hp he

end Apart

end Pattern

end LossPrevention
