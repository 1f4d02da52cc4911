import LossPrevention.Classifier.Catalogue
import LossPrevention.Proofs.Pattern.Removal

/-!
The patterns of the catalogue one by one: which of them keep to words, which stand between edges,
and that none of them has anything to do with the default marker.
-/

namespace LossPrevention.Classifier.Catalogue

open Pattern
open Text (CharSet)

/-- The patterns in the order in which they give way to the marker. -/
def passes : List Pattern := Label.all.flatMap patterns

def marker : List Char := "[REDACTED]".toList

/-! ### All patterns -/

theorem searchable_of_mem {p : Pattern} (h : p ∈ passes) : Searchable p := by
  have hall : ∀ p ∈ passes, Proper p ∧ 0 < minLength p := by decide +kernel
  exact ⟨(hall p h).1, (hall p h).2⟩

/-- No pattern takes a bracket, and beside a bracket every edge is where it would be at an end of
the text. -/
theorem divides_of_mem {p : Pattern} (h : p ∈ passes) : Divides p '[' ∧ Divides p ']' := by
  have hall : ∀ p ∈ passes,
      p.Every (fun s => s.contains '[' = false) (fun l => l = .edge false) ∧
        p.Every (fun s => s.contains ']' = false) (fun l => l = .edge false) := by
    decide +kernel
  have hwords : Text.isWord '[' = false ∧ Text.isWord ']' = false := by decide +kernel
  obtain ⟨hopening, hclosing⟩ := hall p h
  have hs := searchable_of_mem h
  exact ⟨⟨hs, hopening.imp (fun _ h => h) (fun _ h => ⟨h, hwords.1⟩)⟩,
    ⟨hs, hclosing.imp (fun _ h => h) (fun _ h => ⟨h, hwords.2⟩)⟩⟩

theorem skips_marker {p : Pattern} (h : p ∈ passes) : Draft.Skips p marker := by
  have hall : ∀ p ∈ passes, (findAll p "REDACTED".toList).length = 0 := by decide +kernel
  obtain ⟨hopening, hclosing⟩ := divides_of_mem h
  exact ⟨'[', "REDACTED".toList, ']', by decide, hopening, hclosing,
    List.length_eq_zero_iff.1 (hall p h)⟩

/-! ### Shapes -/

/-- What stands between the edges, where that begins and finishes inside words. -/
def framed : List (List Pattern) := [
  [char '4', asciiDigits 12, optional (asciiDigits 3)],
  [char '5', .set (.range 0x31 0x35), asciiDigits 14],
  [char '3', oneOf ['4', '7'], asciiDigits 13],
  [char '6', .alt (word "011") (.seq (char '5') (asciiDigits 2)), asciiDigits 12],
  [digits 3 3, char '-', digits 2 2, char '-', digits 4 4],
  [digits 9 9],
  [digits 3 3, phoneMark, digits 3 3, phoneMark, digits 4 4],
  [times 3 (.seq (digits 1 3) (char '.')), digits 1 3]]

theorem framed_eq : framed.map edged =
    [visa, mastercard, amex, discover, groupedSsn, plainSsn, domesticPhone, ipAddress] := rfl

def emailBody : List Pattern := [
  atLeast 1 (.set (withSigns alphanumerics ['.', '_', '%', '+', '-'])), char '@',
  atLeast 1 (.set (withSigns alphanumerics ['.', '-'])), char '.', atLeast 2 (.set letters)]

theorem email_eq : email = edged emailBody := rfl

def internationalBody : List Pattern := [char '+', digits 1 3, phoneMark, digits 1 14]

theorem internationalPhone_eq : internationalPhone = upToEdge internationalBody := rfl

theorem passes_eq : passes = [visa, mastercard, amex, discover, groupedSsn, plainSsn, email,
    domesticPhone, internationalPhone, accessKeyId, apiKey, secret, password, ipAddress] := rfl

/-- The patterns that ask nothing of the characters around a match. -/
def edgeless : List Pattern := [accessKeyId, apiKey, secret, password]

theorem no_demand_of_edgeless : ∀ p ∈ edgeless, p.Every (fun _ => True) (fun _ => False) := by
  decide

theorem carried_of_framed {p : Pattern} (h : p ∈ framed.map edged) : Carried p := by
  have hall : ∀ body ∈ framed,
      (Pattern.all body).Every (fun _ => True) (fun _ => False) ∧
        0 < minLength (Pattern.all body) ∧
        (Pattern.all body).Finishes (fun s => s.inWords = true) ∧
        (Pattern.all body).Begins (fun s => s.inWords = true) := by
    decide
  obtain ⟨body, hbody, rfl⟩ := List.mem_map.1 h
  obtain ⟨hdemand, htakes, hfinishes, hbegins⟩ := hall body hbody
  exact carried_edged ⟨hdemand, htakes, hfinishes⟩ hbegins

theorem carried_internationalPhone : Carried internationalPhone := by
  have hfirm : Firm internationalBody := ⟨by decide, by decide, by decide⟩
  rw [internationalPhone_eq]
  exact carried_upToEdge hfirm

/-- Every pattern but one can do with the part of the text that holds its match. An e-mail address
may begin with a sign, at an edge that needs the character before it. -/
theorem carried_of_mem {p : Pattern} (h : p ∈ passes) : p = email ∨ Carried p := by
  have hshape : p = email ∨ p ∈ framed.map edged ∨ p = internationalPhone ∨ p ∈ edgeless := by
    rw [passes_eq] at h
    rw [framed_eq, edgeless]
    simp only [List.mem_cons, List.not_mem_nil, or_false] at h ⊢
    tauto
  rcases hshape with rfl | hframed | rfl | hmem
  · exact .inl rfl
  · exact .inr (carried_of_framed hframed)
  · exact .inr carried_internationalPhone
  · exact .inr (carried_of_no_demand (no_demand_of_edgeless p hmem))

/-! ### Words -/

theorem guarded_edged (body : List Pattern) : Draft.Guarded (edged body) := by
  intro c d h
  obtain ⟨hfirst, -, hlast⟩ := spans_edged_iff.1 h
  exact ⟨hfirst.not_inside, hlast.not_inside⟩

theorem guarded_internationalPhone : Draft.Guarded internationalPhone := by
  rw [internationalPhone_eq]
  intro c d h
  obtain ⟨hbody, hlast⟩ := spans_upToEdge_iff.1 h
  refine ⟨?_, hlast.not_inside⟩
  have hbegins : (Pattern.all internationalBody).Begins (fun s => s = .single '+') := rfl
  obtain ⟨s, x, rfl, hx, hnext⟩ := hbody.begins hbegins
  rw [CharSet.contains_single_iff.1 hx] at hnext
  rintro ⟨-, hinside⟩
  rw [hnext] at hinside
  exact absurd hinside (by decide)

/-- The patterns before the first one that may match in the middle of a word. -/
def guarded : List Pattern := [visa, mastercard, amex, discover, groupedSsn, plainSsn, email,
  domesticPhone, internationalPhone]

theorem shape_of_mem_guarded {p : Pattern} (h : p ∈ guarded) :
    p = email ∨ p ∈ framed.map edged ∨ p = internationalPhone := by
  rw [framed_eq]
  simp only [guarded, List.mem_cons, List.not_mem_nil, or_false] at h ⊢
  tauto

theorem guarded_of_mem {p : Pattern} (h : p ∈ guarded) : Draft.Guarded p := by
  rcases shape_of_mem_guarded h with rfl | hframed | rfl
  · rw [email_eq]
    exact guarded_edged emailBody
  · obtain ⟨body, -, rfl⟩ := List.mem_map.1 hframed
    exact guarded_edged body
  · exact guarded_internationalPhone

theorem wordy_accessKeyId : Draft.Wordy accessKeyId where
  searchable := searchable_of_mem (by rw [passes_eq]; simp)
  every := by decide

end LossPrevention.Classifier.Catalogue
