import LossPrevention.Proofs.Text.Digits
import LossPrevention.Proofs.Time.Calendar
import LossPrevention.Time.Timestamp

/-!
Instants and their texts. A text is read from its end: the fraction, then five numbers of two
digits, each with its own sign in front. The year is different: it has no sign in front and may be
longer than four digits, so where the text of an instant stands behind other text, all of it but
the year can be told. Main statement: two instants that show the same are equal, leap seconds in
the middle of a minute apart.
-/

namespace LossPrevention.Time.Instant

open Text

attribute [ext] Date Instant

/-! ### What the text shows -/

def year (t : Instant) : Int := (Date.ofDays (t.seconds / 86400)).year

/-- What the text of an instant shows of it behind the year. -/
@[ext]
structure Shown where
  month : Nat
  day : Nat
  hour : Nat
  minute : Nat
  second : Nat
  fraction : Nat

def shown (t : Instant) : Shown :=
  let date := Date.ofDays (t.seconds / 86400)
  let inDay := (t.seconds % 86400).toNat
  { month := date.month
    day := date.day
    hour := inDay / 3600
    minute := inDay / 60 % 60
    second := inDay % 60 + t.nanos / unit
    fraction := t.nanos % unit }

def fractionDigits (nanos : Nat) : List Char :=
  if nanos % 1000000 = 0 then (padded 3 (nanos / 1000000)).toList
  else if nanos % 1000 = 0 then (padded 6 (nanos / 1000)).toList
  else (padded 9 nanos).toList

def fractionChars (nanos : Nat) : List Char :=
  if nanos = 0 then [] else '.' :: fractionDigits nanos

def Shown.chars (s : Shown) : List Char :=
  '-' :: (padded 2 s.month).toList ++ '-' :: (padded 2 s.day).toList ++
    'T' :: (padded 2 s.hour).toList ++ ':' :: (padded 2 s.minute).toList ++
    ':' :: (padded 2 s.second).toList ++ fractionChars s.fraction

theorem toList_fractionText (nanos : Nat) : (fractionText nanos).toList = fractionChars nanos := by
  unfold fractionText fractionChars fractionDigits
  split
  · rfl
  · split
    · rw [String.toList_append]; rfl
    · split <;> rw [String.toList_append] <;> rfl

theorem toList_textWith (offset : String) (t : Instant) :
    (t.textWith offset).toList =
      (yearText t.year).toList ++ t.shown.chars ++ offset.toList := by
  simp [textWith, Shown.chars, shown, year, String.toList_append, toList_fractionText]

/-! ### Reading it back -/

/-- The digits of a fraction are so many of a number, and the rest of its digits are zeros. -/
theorem exists_fractionDigits {nanos : Nat} (h : nanos < unit) : ∃ width n : Nat,
    (width = 3 ∨ width = 6 ∨ width = 9) ∧ n < 10 ^ width ∧ nanos = n * 10 ^ (9 - width) ∧
      fractionDigits nanos = (padded width n).toList := by
  have hunit : unit = 1000000000 := rfl
  unfold fractionDigits
  split
  · exact ⟨3, nanos / 1000000, by omega, by omega, by omega, rfl⟩
  · split
    · exact ⟨6, nanos / 1000, by omega, by omega, by omega, rfl⟩
    · exact ⟨9, nanos, by omega, by omega, by omega, rfl⟩

theorem fractionDigits_inj {m n : Nat} (hm : m < unit) (hn : n < unit)
    (h : fractionDigits m = fractionDigits n) : m = n := by
  obtain ⟨v, a, hv, ha, hma, hdigits⟩ := exists_fractionDigits hm
  obtain ⟨w, b, hw, hb, hnb, hdigits'⟩ := exists_fractionDigits hn
  rw [hdigits, hdigits'] at h
  have hwidth : v = w := by
    rw [← length_padded (by omega) ha, h, length_padded (by omega) hb]
  subst hwidth
  rw [hma, hnb, padded_inj h]

theorem isDigit_of_mem_fractionDigits {nanos : Nat} {c : Char} (h : c ∈ fractionDigits nanos) :
    c.isDigit = true := by
  unfold fractionDigits at h
  split at h
  · exact isDigit_of_mem_padded h
  · split at h <;> exact isDigit_of_mem_padded h

/-- A number at the end of a text, with a sign in front. -/
theorem append_padded_inj {width m n : Nat} {a b : List Char} {c : Char} (hc : c.isDigit = false)
    (h : a ++ c :: (padded width m).toList = b ++ c :: (padded width n).toList) :
    a = b ∧ m = n := by
  obtain ⟨hab, -, hdigits⟩ := append_run_inj (fun _ => isDigit_of_mem_padded)
    (fun _ => isDigit_of_mem_padded) hc hc h
  exact ⟨hab, padded_inj hdigits⟩

/-- A fraction at the end, behind a number that it is a fraction of. -/
theorem append_fraction_inj {width m n k l : Nat} {a b : List Char} (hk : k < unit)
    (hl : l < unit)
    (h : a ++ ':' :: (padded width m).toList ++ fractionChars k =
      b ++ ':' :: (padded width n).toList ++ fractionChars l) : a = b ∧ m = n ∧ k = l := by
  have hcolon : Char.isDigit ':' = false := rfl
  have hpoint : Char.isDigit '.' = false := rfl
  unfold fractionChars at h
  by_cases hk0 : k = 0 <;> by_cases hl0 : l = 0
  · rw [if_pos hk0, if_pos hl0, List.append_nil, List.append_nil] at h
    obtain ⟨hab, hmn⟩ := append_padded_inj hcolon h
    exact ⟨hab, hmn, by rw [hk0, hl0]⟩
  · rw [if_pos hk0, if_neg hl0, List.append_nil] at h
    have hsign := (append_run_inj (fun _ => isDigit_of_mem_padded)
      (fun _ => isDigit_of_mem_fractionDigits) hcolon hpoint h).2.1
    cases hsign
  · rw [if_neg hk0, if_pos hl0, List.append_nil] at h
    have hsign := (append_run_inj (fun _ => isDigit_of_mem_fractionDigits)
      (fun _ => isDigit_of_mem_padded) hpoint hcolon h).2.1
    cases hsign
  · rw [if_neg hk0, if_neg hl0] at h
    obtain ⟨hfront, -, hdigits⟩ := append_run_inj (fun _ => isDigit_of_mem_fractionDigits)
      (fun _ => isDigit_of_mem_fractionDigits) hpoint hpoint h
    obtain ⟨hab, hmn⟩ := append_padded_inj hcolon hfront
    exact ⟨hab, hmn, fractionDigits_inj hk hl hdigits⟩

theorem append_shown_inj {a b : List Char} {p q : Shown} (hp : p.fraction < unit)
    (hq : q.fraction < unit) (h : a ++ p.chars = b ++ q.chars) : a = b ∧ p = q := by
  have hdash : Char.isDigit '-' = false := rfl
  have hcolon : Char.isDigit ':' = false := rfl
  have hmark : Char.isDigit 'T' = false := rfl
  simp only [Shown.chars, ← List.append_assoc] at h
  obtain ⟨h, hsecond, hfraction⟩ := append_fraction_inj hp hq h
  obtain ⟨h, hminute⟩ := append_padded_inj hcolon h
  obtain ⟨h, hhour⟩ := append_padded_inj hmark h
  obtain ⟨h, hday⟩ := append_padded_inj hdash h
  obtain ⟨h, hmonth⟩ := append_padded_inj hdash h
  exact ⟨h, Shown.ext hmonth hday hhour hminute hsecond hfraction⟩

theorem yearText_eq (year : Int) : (yearText year).toList =
    if 0 ≤ year ∧ year ≤ 9999 then (padded 4 year.toNat).toList
    else (if year < 0 then '-' else '+') :: (padded 4 year.natAbs).toList := by
  unfold yearText
  split
  · rfl
  · rw [String.toList_append]
    split <;> rfl

/-- A year of four digits begins with one, any other with its sign. -/
theorem yearText_inj {y z : Int} (h : (yearText y).toList = (yearText z).toList) : y = z := by
  have hsigned {n : Nat} {sign : Char} {cs : List Char} (hsign : sign.isDigit = false) :
      (padded 4 n).toList ≠ sign :: cs := by
    intro heq
    have hdigit : sign.isDigit = true :=
      isDigit_of_mem_padded (heq ▸ List.mem_cons_self : sign ∈ (padded 4 n).toList)
    rw [hsign] at hdigit
    cases hdigit
  have hsign (y : Int) : Char.isDigit (if y < 0 then '-' else '+') = false := by
    split <;> rfl
  rw [yearText_eq, yearText_eq] at h
  by_cases hy : 0 ≤ y ∧ y ≤ 9999 <;> by_cases hz : 0 ≤ z ∧ z ≤ 9999
  · rw [if_pos hy, if_pos hz] at h
    have hnat := padded_inj h
    omega
  · rw [if_pos hy, if_neg hz] at h
    exact absurd h (hsigned (hsign z))
  · rw [if_neg hy, if_pos hz] at h
    exact absurd h.symm (hsigned (hsign y))
  · rw [if_neg hy, if_neg hz] at h
    obtain ⟨hfirst, hdigits⟩ := List.cons.inj h
    have habs := padded_inj hdigits
    have hnegative : y < 0 ↔ z < 0 := by
      have hsigns : (if y < 0 then '-' else '+') = '-' ↔ (if z < 0 then '-' else '+') = '-' := by
        rw [hfirst]
      simpa using hsigns
    omega

/-- Behind other text only the years of four digits can be told. -/
theorem append_yearText_inj {a b : List Char} {y z : Int} (hy : 0 ≤ y ∧ y ≤ 9999)
    (hz : 0 ≤ z ∧ z ≤ 9999) (h : a ++ (yearText y).toList = b ++ (yearText z).toList) :
    a = b ∧ y = z := by
  have hlength {y : Int} (hy : 0 ≤ y ∧ y ≤ 9999) : (yearText y).toList.length = 4 := by
    rw [yearText_eq, if_pos hy, length_padded (by decide) (by omega)]
  obtain ⟨hab, hyear⟩ := List.append_inj' h (by rw [hlength hy, hlength hz])
  exact ⟨hab, yearText_inj hyear⟩

/-! ### Instants with one text -/

/-- Not in a leap second, or in one at the end of a minute, which alone is written as 60. -/
def Genuine (t : Instant) : Prop :=
  t.nanos < unit ∨ (t.nanos < 2 * unit ∧ t.seconds % 60 = 59)

/-- The year is written without a sign. -/
def Plain (t : Instant) : Prop := 0 ≤ t.year ∧ t.year ≤ 9999

instance (t : Instant) : Decidable t.Genuine := inferInstanceAs (Decidable (_ ∨ _))

instance (t : Instant) : Decidable t.Plain := inferInstanceAs (Decidable (_ ∧ _))

theorem eq_of_shown_eq {s t : Instant} (hyear : s.year = t.year) (hshown : s.shown = t.shown)
    (hleap : s.nanos / unit = t.nanos / unit) : s = t := by
  have hdate : Date.ofDays (s.seconds / 86400) = Date.ofDays (t.seconds / 86400) :=
    Date.ext hyear (congrArg Shown.month hshown) (congrArg Shown.day hshown)
  have hdays : s.seconds / 86400 = t.seconds / 86400 := by
    rw [← Date.toDays_ofDays (s.seconds / 86400), hdate, Date.toDays_ofDays]
  have hhour := congrArg Shown.hour hshown
  have hminute := congrArg Shown.minute hshown
  have hsecond := congrArg Shown.second hshown
  have hfraction := congrArg Shown.fraction hshown
  simp only [shown] at hhour hminute hsecond hfraction
  have hinDay : (s.seconds % 86400).toNat = (t.seconds % 86400).toNat := by omega
  have hseconds : s.seconds = t.seconds := by omega
  have hnanos : s.nanos = t.nanos := by
    rw [← Nat.div_add_mod s.nanos unit, hleap, hfraction, Nat.div_add_mod]
  exact Instant.ext hseconds hnanos

theorem Genuine.leap_eq {t : Instant} (h : t.Genuine) :
    t.nanos / unit = if t.shown.second = 60 then 1 else 0 := by
  have hsecond : t.shown.second = (t.seconds % 86400).toNat % 60 + t.nanos / unit := rfl
  by_cases hplain : t.nanos < unit
  · have hzero : t.nanos / unit = 0 := Nat.div_eq_of_lt hplain
    rw [if_neg (by omega), hzero]
  · obtain ⟨hlt, hlast⟩ := h.resolve_left hplain
    have hone : t.nanos / unit = 1 := Nat.div_eq_of_lt_le (by omega) (by omega)
    rw [if_pos (by omega), hone]

theorem Genuine.eq_of_shown_eq {s t : Instant} (hs : s.Genuine) (ht : t.Genuine)
    (hyear : s.year = t.year) (hshown : s.shown = t.shown) : s = t :=
  Instant.eq_of_shown_eq hyear hshown (by rw [hs.leap_eq, ht.leap_eq, hshown])

theorem fraction_shown_lt (t : Instant) : t.shown.fraction < unit :=
  Nat.mod_lt _ (by decide)

end LossPrevention.Time.Instant
