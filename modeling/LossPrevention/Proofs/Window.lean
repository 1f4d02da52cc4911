import LossPrevention.Policy.Definition
import LossPrevention.Proofs.Text.Blank
import Mathlib.Data.List.TakeDrop

/-!
How the lengths of windows are written. A length is spelled by a number of seconds, which a plus
sign may lead, or by a number and a unit, with white space around it and before the unit. Main
statement: just these texts are read, each as the number of seconds that it spells, and a number is
read like its decimal text.
-/

namespace LossPrevention.Window

open Policy (WindowSpec)
open Text (Bare Blank digitsValue)

/-- Decimal digits, at least one. -/
structure Numeral (ds : List Char) : Prop where
  ne_nil : ds ≠ []
  digits : ∀ d ∈ ds, d.isDigit = true

def value (ds : List Char) : Nat := Nat.ofDigitChars 10 ds 0

/-- The units, each with the number of its seconds. -/
def units : List (Char × Nat) := [('s', 1), ('m', 60), ('h', 3600), ('d', 86400)]

/-- The lengths with their spellings. A length has 64 bits, and so has the number before a unit. -/
inductive Spells : List Char → Nat → Prop
  | seconds {sign ds : List Char} (hsign : sign = [] ∨ sign = ['+']) (hds : Numeral ds)
      (hn : value ds < 2 ^ 64) : Spells (sign ++ ds) (value ds)
  | inUnits {ds gap : List Char} {unit : Char} {k : Nat} (hds : Numeral ds) (hgap : Blank gap)
      (hunit : (unit, k) ∈ units) (hn : value ds < 2 ^ 64) (hlength : value ds * k < 2 ^ 64) :
      Spells (ds ++ gap ++ [unit]) (value ds * k)

/-- White space may stand around a spelling. -/
def Written (text : String) (length : Nat) : Prop :=
  ∃ front core back, text.toList = front ++ core ++ back ∧ Blank front ∧ Blank back ∧
    Spells core length

/-! ### Digits, signs and units -/

section Numbers

variable {cs ds gap : List Char} {c unit : Char} {n k length : Nat}

theorem bounded?_eq_some_iff : bounded? n = some k ↔ n < 2 ^ 64 ∧ n = k := by
  rw [bounded?, Option.ite_none_right_eq_some, Option.some_inj]
  rfl

theorem unitSeconds?_eq_some_iff : unitSeconds? unit = some k ↔ (unit, k) ∈ units := by
  rw [unitSeconds?.eq_def]
  split <;> simp_all [units, eq_comm]

theorem isBlank_of_isDigit (h : c.isDigit = true) : Text.isBlank c = false := by
  simp only [Char.isDigit, Bool.and_eq_true, decide_eq_true_eq, UInt32.le_iff_toNat_le] at h
  have hlow : 48 ≤ c.toNat := h.1
  have hhigh : c.toNat ≤ 57 := h.2
  simp only [Text.isBlank, Bool.or_eq_false_iff, Bool.and_eq_false_iff, decide_eq_false_iff_not]
  omega

theorem isDigit_of_isBlank (h : Text.isBlank c = true) : c.isDigit = false := by
  by_contra hdigit
  rw [isBlank_of_isDigit (Bool.not_eq_false _ ▸ hdigit)] at h
  cases h

theorem unit_apart (h : (unit, k) ∈ units) : unit.isDigit = false ∧ Text.isBlank unit = false := by
  simp only [units, List.mem_cons, Prod.mk.injEq, List.not_mem_nil, or_false] at h
  rcases h with ⟨rfl, -⟩ | ⟨rfl, -⟩ | ⟨rfl, -⟩ | ⟨rfl, -⟩ <;> decide

/-- No unit follows the digits. -/
theorem seconds?_eq_some_iff :
    (if ds.isEmpty || !ds.all Char.isDigit then none else bounded? (digitsValue ds)) =
      some length ↔ Numeral ds ∧ value ds < 2 ^ 64 ∧ value ds = length := by
  have hnumeral : ¬ (ds.isEmpty || !ds.all Char.isDigit) = true ↔ Numeral ds := by
    rw [Bool.or_eq_true, Bool.not_eq_true', not_or, List.isEmpty_iff, Bool.not_eq_false,
      List.all_eq_true]
    exact ⟨fun h => ⟨h.1, h.2⟩, fun h => ⟨h.1, h.2⟩⟩
  rw [Option.ite_none_left_eq_some, hnumeral, bounded?_eq_some_iff, Text.digitsValue_eq]
  rfl

theorem plain?_eq_some_iff : plain? cs = some length ↔
    ∃ sign ds, (sign = [] ∨ sign = ['+']) ∧ Numeral ds ∧ value ds < 2 ^ 64 ∧
      cs = sign ++ ds ∧ value ds = length := by
  constructor
  · intro h
    rw [plain?.eq_def] at h
    split at h
    · rename_i rest
      obtain ⟨hds, hn, hlength⟩ := seconds?_eq_some_iff.1 h
      exact ⟨['+'], rest, .inr rfl, hds, hn, rfl, hlength⟩
    · obtain ⟨hds, hn, hlength⟩ := seconds?_eq_some_iff.1 h
      exact ⟨[], cs, .inl rfl, hds, hn, rfl, hlength⟩
  · rintro ⟨sign, ds, rfl | rfl, hds, hn, rfl, hlength⟩
    · rw [plain?.eq_def]
      split
      · -- a plus sign is no digit
        exact absurd (hds.digits '+' List.mem_cons_self) (by decide)
      · exact seconds?_eq_some_iff.2 ⟨hds, hn, hlength⟩
    · exact seconds?_eq_some_iff.2 ⟨hds, hn, hlength⟩

theorem withUnit?_eq_some_iff : withUnit? cs = some length ↔
    ∃ ds gap unit k, Numeral ds ∧ Blank gap ∧ (unit, k) ∈ units ∧ value ds < 2 ^ 64 ∧
      value ds * k < 2 ^ 64 ∧ cs = ds ++ gap ++ [unit] ∧ value ds * k = length := by
  rw [withUnit?]
  simp only [List.span_eq_takeWhile_dropWhile, Text.digitsValue_eq]
  constructor
  · intro h
    split at h
    · cases h
    rename_i hne
    split at h
    · rename_i unit hunit
      obtain ⟨k, hk, h⟩ := Option.bind_eq_some_iff.1 h
      obtain ⟨n, hn, hlength⟩ := Option.bind_eq_some_iff.1 h
      obtain ⟨hlimit, rfl⟩ := bounded?_eq_some_iff.1 hn
      obtain ⟨hlt, hlength⟩ := bounded?_eq_some_iff.1 hlength
      have hds : Numeral (cs.takeWhile Char.isDigit) :=
        ⟨fun hnil => hne (List.isEmpty_iff.2 hnil), fun _ => List.mem_takeWhile_imp⟩
      refine ⟨_, (cs.dropWhile Char.isDigit).takeWhile Text.isBlank, unit, k, hds,
        fun _ => List.mem_takeWhile_imp, unitSeconds?_eq_some_iff.1 hk, hlimit, hlt, ?_, hlength⟩
      rw [← hunit, List.append_assoc, List.takeWhile_append_dropWhile,
        List.takeWhile_append_dropWhile]
    · cases h
  · rintro ⟨ds, gap, unit, k, hds, hgap, hunit, hn, hlt, rfl, hlength⟩
    have hhead : ∀ c ∈ (gap ++ [unit]).head?, c.isDigit = false := by
      intro c hc
      rcases List.mem_append.1 (List.mem_of_head? hc) with hc | hc
      · exact isDigit_of_isBlank (hgap c hc)
      · exact List.mem_singleton.1 hc ▸ (unit_apart hunit).1
    have hbehind : ∀ c ∈ [unit].head?, Text.isBlank c = false := by
      rintro _ ⟨⟩
      exact (unit_apart hunit).2
    rw [List.append_assoc, Text.takeWhile_append_of_head hds.digits hhead,
      Text.dropWhile_append_of_head hds.digits hhead, Text.dropWhile_append_of_head hgap hbehind,
      if_neg (mt List.isEmpty_iff.1 hds.ne_nil)]
    refine Option.bind_eq_some_iff.2 ⟨k, unitSeconds?_eq_some_iff.2 hunit, ?_⟩
    exact Option.bind_eq_some_iff.2
      ⟨_, bounded?_eq_some_iff.2 ⟨hn, rfl⟩, bounded?_eq_some_iff.2 ⟨hlt, hlength⟩⟩

end Numbers

/-! ### Spellings -/

section Spellings

variable {core : List Char} {text : String} {k length : Nat}

theorem spells_iff :
    Spells core length ↔ plain? core = some length ∨ withUnit? core = some length := by
  rw [plain?_eq_some_iff, withUnit?_eq_some_iff]
  constructor
  · intro h
    cases h with
    | seconds hsign hds hn => exact .inl ⟨_, _, hsign, hds, hn, rfl, rfl⟩
    | inUnits hds hgap hunit hn hlt =>
        exact .inr ⟨_, _, _, _, hds, hgap, hunit, hn, hlt, rfl, rfl⟩
  · rintro (⟨sign, ds, hsign, hds, hn, rfl, rfl⟩ |
      ⟨ds, gap, unit, k, hds, hgap, hunit, hn, hlt, rfl, rfl⟩)
    · exact .seconds hsign hds hn
    · exact .inUnits hds hgap hunit hn hlt

/-- A text that ends with a unit is no number of seconds. -/
theorem plain?_eq_none_of_withUnit? (h : withUnit? core = some length) : plain? core = none := by
  obtain ⟨ds, gap, unit, k, -, -, hunit, -, -, rfl, -⟩ := withUnit?_eq_some_iff.1 h
  refine Option.eq_none_iff_forall_ne_some.2 fun n hn => ?_
  obtain ⟨sign, es, -, hes, -, heq, -⟩ := plain?_eq_some_iff.1 hn
  have hlast := congrArg List.getLast? heq
  rw [List.getLast?_concat, List.getLast?_append, List.getLast?_eq_some_getLast hes.ne_nil,
    Option.some_or, Option.some_inj] at hlast
  have hdigit := hes.digits _ (List.getLast_mem hes.ne_nil)
  rw [← hlast, (unit_apart hunit).1] at hdigit
  cases hdigit

theorem orElse_eq_some_iff : ((plain? core).orElse fun _ => withUnit? core) = some length ↔
    Spells core length := by
  rw [spells_iff]
  constructor
  · cases hplain : plain? core with
    | none => exact .inr
    | some n => exact .inl
  · rintro (h | h)
    · rw [h]
      rfl
    · rw [plain?_eq_none_of_withUnit? h, h]
      rfl

theorem Numeral.isBlank_of_mem {ds : List Char} (h : Numeral ds) {c : Char} (hc : c ∈ ds) :
    Text.isBlank c = false :=
  isBlank_of_isDigit (h.digits c hc)

theorem Spells.bare (h : Spells core length) : Bare core ∧ core ≠ [] := by
  cases h with
  | seconds hsign hds hn =>
      refine ⟨⟨fun c hc => ?_, fun c hc => ?_⟩, List.append_ne_nil_of_right_ne_nil _ hds.ne_nil⟩
      · rcases hsign with rfl | rfl
        · exact hds.isBlank_of_mem (List.mem_of_head? hc)
        · cases hc
          decide
      · rw [List.getLast?_append, List.getLast?_eq_some_getLast hds.ne_nil, Option.some_or] at hc
        cases hc
        exact hds.isBlank_of_mem (List.getLast_mem hds.ne_nil)
  | @inUnits ds gap unit k hds hgap hunit hn hlt =>
      refine ⟨⟨fun c hc => ?_, fun c hc => ?_⟩, List.concat_ne_nil _ _⟩
      · obtain ⟨d, ds, rfl⟩ := List.exists_cons_of_ne_nil hds.ne_nil
        cases hc
        exact hds.isBlank_of_mem List.mem_cons_self
      · rw [List.getLast?_concat] at hc
        cases hc
        exact (unit_apart hunit).2

theorem parse?_eq_some_iff : parse? text = some length ↔ Written text length := by
  rw [parse?, orElse_eq_some_iff]
  constructor
  · intro h
    obtain ⟨front, back, hfront, hback, htext⟩ := Text.exists_trimChars text.toList
    exact ⟨front, _, back, htext, hfront, hback, h⟩
  · rintro ⟨front, core, back, htext, hfront, hback, h⟩
    obtain ⟨hbare, hne⟩ := h.bare
    rwa [htext, Text.trimChars_append hfront hbare hne hback]

theorem Written.lt (h : Written text length) : length < 2 ^ 64 := by
  obtain ⟨_, _, _, -, -, -, h⟩ := h
  cases h with
  | seconds hsign hds hn => exact hn
  | inUnits hds hgap hunit hn hlt => exact hlt

theorem parse_lt (text : String) : parse text < 2 ^ 64 := by
  rw [parse]
  cases h : parse? text with
  | none => decide
  | some length => exact (parse?_eq_some_iff.1 h).lt

theorem written_toString {n : Nat} (hn : n < 2 ^ 64) : Written (toString n) n := by
  have hds : Numeral (Nat.toDigits 10 n) :=
    ⟨Nat.toDigits_ne_nil, fun _ => Nat.isDigit_of_mem_toDigits (by decide) (by decide)⟩
  have hvalue : value (Nat.toDigits 10 n) = n := Nat.ofDigitChars_ten_toDigits
  have hspells := Spells.seconds (.inl rfl) hds (hvalue.symm ▸ hn)
  rw [hvalue] at hspells
  refine ⟨[], Nat.toDigits 10 n, [], ?_, Text.blank_nil, Text.blank_nil, hspells⟩
  rw [Nat.toString_eq_repr, Nat.toList_repr, List.nil_append, List.append_nil]

end Spellings

/-- Just the texts that spell a length are read, each as the length that it spells, and every other
text stands for what it falls back to. A number of 64 bits means what its decimal text means. -/
theorem reads_spellings (text : String) (fallback : Nat) :
    (∀ length, parse? text = some length ↔ Written text length) ∧
    (parse? text = none ↔ ∀ length, ¬ Written text length) ∧
    parse text = (parse? text).getD 300 ∧
    parse text < 2 ^ 64 ∧
    WindowSpec.ofDocument? (.text text) = some (.text text) ∧
    WindowSpec.length fallback (.text text) = (parse? text).getD fallback ∧
    ∀ n : Nat, n < 2 ^ 64 →
      WindowSpec.ofDocument? (.number (.int n)) = some (.seconds n) ∧
      WindowSpec.length fallback (.seconds n) = n ∧
      WindowSpec.length fallback (.text (toString n)) = n := by
  refine ⟨fun _ => parse?_eq_some_iff, ?_, rfl, parse_lt text, rfl, rfl, fun n hn => ⟨?_, rfl, ?_⟩⟩
  · rw [Option.eq_none_iff_forall_ne_some]
    exact forall_congr' fun _ => not_congr parse?_eq_some_iff
  · have hword : Document.isWord n = true := by
      simp only [Document.isWord, Bool.and_eq_true, decide_eq_true_eq]
      exact ⟨Int.natCast_nonneg n, Int.ofNat_lt.2 hn⟩
    rw [WindowSpec.ofDocument?, Document.asNat?, if_pos hword]
    rfl
  · rw [WindowSpec.length, parse?_eq_some_iff.2 (written_toString hn)]
    rfl

/-- A no-break space is white space like any other, and the greatest number of 64 bits is one. -/
theorem reads_spellings_hours :
    parse? "\u00a036 h" = some 129600 ∧ parse "36H" = 300 ∧
      (¬ ∃ length, Written "+36h" length) ∧
      WindowSpec.length 60 (.text (toString (2 ^ 64 - 1))) = 2 ^ 64 - 1 := by
  obtain ⟨hhours, -⟩ := reads_spellings "\u00a036 h" 60
  obtain ⟨-, -, hupper, -⟩ := reads_spellings "36H" 60
  obtain ⟨-, hsigned, -, -, -, -, hnumbers⟩ := reads_spellings "+36h" 60
  have hspells : Spells "36 h".toList 129600 :=
    @Spells.inUnits ['3', '6'] [' '] 'h' 3600 ⟨by decide, List.all_eq_true.1 (by decide)⟩
      (List.all_eq_true.1 (by decide)) (by decide) (by decide) (by decide)
  have hwritten : Written "\u00a036 h" 129600 :=
    ⟨['\u00a0'], "36 h".toList, [], by decide, List.all_eq_true.1 (by decide), Text.blank_nil,
      hspells⟩
  refine ⟨(hhours _).2 hwritten, hupper.trans (by decide), ?_, ?_⟩
  · exact not_exists.2 (hsigned.1 (by decide))
  · exact (hnumbers (2 ^ 64 - 1) (by decide)).2.2

end LossPrevention.Window
