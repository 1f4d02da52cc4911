import LossPrevention.Time.Date

/-!
Days and dates. The year of a day is found by one division of the day of the cycle, corrected for
the leap days before it. Main statement: the date of a day counts back to the same day.
-/

namespace LossPrevention.Time.Date

/-- A day of the cycle of 400 years by centuries, spans of four years, years and days. -/
structure Parts (day century span year rest : Int) : Prop where
  day_eq : day = 36524 * century + 1461 * span + 365 * year + rest
  century_le : 0 ≤ century ∧ century ≤ 3
  span_le : 0 ≤ span ∧ span ≤ 24
  year_le : 0 ≤ year ∧ year ≤ 3
  rest_le : 0 ≤ rest ∧ rest ≤ 365
  leap_year : rest = 365 → year = 3
  leap_century : span = 24 → rest = 365 → century = 3

theorem exists_parts {day : Int} (h : 0 ≤ day ∧ day < cycle) :
    ∃ century span year rest, Parts day century span year rest := by
  have hcycle : cycle = 146097 := rfl
  obtain ⟨century, inCentury, hcentury, hinCentury, hlast, hday⟩ : ∃ century inCentury : Int,
      (0 ≤ century ∧ century ≤ 3) ∧ (0 ≤ inCentury ∧ inCentury ≤ 36524) ∧
        (inCentury = 36524 → century = 3) ∧ day = 36524 * century + inCentury := by
    by_cases hlast : day < 3 * 36524
    · exact ⟨day / 36524, day % 36524, by omega, by omega, by omega, by omega⟩
    · exact ⟨3, day - 3 * 36524, by omega, by omega, by omega, by omega⟩
  obtain ⟨year, rest, hyear, hrest, hleap, hspan⟩ : ∃ year rest : Int,
      (0 ≤ year ∧ year ≤ 3) ∧ (0 ≤ rest ∧ rest ≤ 365) ∧ (rest = 365 → year = 3) ∧
        inCentury % 1461 = 365 * year + rest := by
    by_cases hlast : inCentury % 1461 < 3 * 365
    · exact ⟨inCentury % 1461 / 365, inCentury % 1461 % 365, by omega, by omega, by omega,
        by omega⟩
    · exact ⟨3, inCentury % 1461 - 3 * 365, by omega, by omega, by omega, by omega⟩
  exact ⟨century, inCentury / 1461, year, rest, by omega, hcentury, by omega, hyear, hrest, hleap,
    by omega⟩

theorem Parts.year_eq {day century span year rest : Int} (h : Parts day century span year rest) :
    (day - day / 1460 + day / 36524 - day / 146096) / 365 = 100 * century + 4 * span + year := by
  obtain ⟨hday, hcentury, hspan, hyear, hrest, hleap, hlast⟩ := h
  -- the last day of all is the only one on which the two divisions go beyond the century
  have hlate : day / 36524 - day / 146096 = century := by
    by_cases hday' : day = 146096
    · have hthree : century = 3 := by omega
      rw [hday', hthree]
      rfl
    · have hin : 1461 * span + 365 * year + rest < 36524 := by omega
      have hfirst : day / 36524 = century := by omega
      have hsecond : day / 146096 = 0 := by omega
      omega
  have hspans : day / 1460 = 25 * century + span +
      (24 * century + span + 365 * year + rest) / 1460 := by omega
  omega

theorem Parts.before_year {day century span year rest : Int}
    (h : Parts day century span year rest) :
    365 * (100 * century + 4 * span + year) + (100 * century + 4 * span + year) / 4 -
      (100 * century + 4 * span + year) / 100 = day - rest := by
  obtain ⟨hday, hcentury, hspan, hyear, -, -, -⟩ := h
  have hfour : (100 * century + 4 * span + year) / 4 = 25 * century + span := by omega
  have hhundred : (100 * century + 4 * span + year) / 100 = century := by omega
  omega

/-- The days up to a date, with the year and the month counted from March on. -/
theorem toDays_eq {date : Date} {year : Int} {month : Nat}
    (hyear : (if date.month ≤ 2 then date.year - 1 else date.year) = year)
    (hmonth : (if date.month ≤ 2 then date.month + 9 else date.month - 3) = month) :
    date.toDays = year / 400 * cycle + (year % 400 * 365 + year % 400 / 4 - year % 400 / 100 +
      ((153 * month + 2) / 5 + date.day - 1)) - epoch := by
  subst hyear hmonth
  rfl

/-- The date of the day `rest` of a year of its cycle. -/
theorem toDays_of_month {cycles year rest : Int} (hyear : 0 ≤ year ∧ year ≤ 399)
    (hrest : 0 ≤ rest ∧ rest ≤ 365) :
    let month := (5 * rest + 2) / 153
    let day := rest - (153 * month + 2) / 5 + 1
    let named := if month < 10 then month + 3 else month - 9
    let counted := cycles * 400 + year
    toDays ⟨if named ≤ 2 then counted + 1 else counted, named.toNat, day.toNat⟩ =
      cycles * cycle + (365 * year + year / 4 - year / 100 + rest) - epoch := by
  intro month day named counted
  have hmonth : 0 ≤ month ∧ month ≤ 11 := by omega
  have hday : 1 ≤ day := by omega
  have hcycles : counted / 400 = cycles := by omega
  have hin : counted % 400 = year := by omega
  have hnamed : 1 ≤ named ∧ (named ≤ 2 ↔ 10 ≤ month) := by omega
  have hyear' : (if named.toNat ≤ 2 then (if named ≤ 2 then counted + 1 else counted) - 1
      else if named ≤ 2 then counted + 1 else counted) = counted := by omega
  have hmonth' : (if named.toNat ≤ 2 then named.toNat + 9 else named.toNat - 3) =
      month.toNat := by split <;> omega
  rw [toDays_eq hyear' hmonth', hcycles, hin, Int.toNat_of_nonneg hmonth.1,
    Int.toNat_of_nonneg (by omega : 0 ≤ day)]
  omega

theorem toDays_ofDays (days : Int) : (ofDays days).toDays = days := by
  have hcycle : cycle = 146097 := rfl
  have hbounds : 0 ≤ (days + epoch) % cycle ∧ (days + epoch) % cycle < cycle :=
    ⟨Int.emod_nonneg _ (by decide), Int.emod_lt_of_pos _ (by decide)⟩
  obtain ⟨century, span, year, rest, h⟩ := exists_parts hbounds
  have hin : (days + epoch) % cycle - (365 * (100 * century + 4 * span + year) +
      (100 * century + 4 * span + year) / 4 - (100 * century + 4 * span + year) / 100) = rest := by
    rw [h.before_year]; omega
  have hwhole := Int.ediv_mul_add_emod (days + epoch) cycle
  have hcentury := h.century_le
  have hspan := h.span_le
  have hyear := h.year_le
  simp only [ofDays, h.year_eq, hin]
  rw [toDays_of_month (by omega) h.rest_le, h.before_year]
  omega

end LossPrevention.Time.Date
