import LossPrevention.Audit.Record
import LossPrevention.Proofs.Time.Text

/-!
What the hash of a record is taken of. The texts of the record stand there one after another: the
severity is told by its last letter and the timestamp by its shape, all but the year, but what is
in front of these has no ends of its own, zero bytes behind policy ids apart. Main statement: two
records after the same one give the same bytes just if they agree on severity and timestamp, the
year apart, and on the text up to the year as a whole; if the fields in there end at the same
places too, the records are the same.
-/

namespace LossPrevention

/-! ### Texts as bytes -/

namespace Sha256

theorem toList_loop_eq (bs : ByteArray) (i : Nat) (read : List UInt8) :
    ByteArray.toList.loop bs i read = read.reverse ++ bs.data.toList.drop i := by
  fun_induction ByteArray.toList.loop bs i read with
  | case1 i read hlt ih =>
    have hi : i < bs.data.toList.length := hlt
    have hget : bs.get! i = bs.data.toList[i] := getElem!_pos bs.data i hlt
    rw [ih, List.drop_eq_getElem_cons hi, hget, List.reverse_cons, List.append_assoc,
      List.singleton_append]
  | case2 i read hge =>
    have hi : bs.data.toList.length ≤ i := Nat.le_of_not_lt hge
    rw [List.drop_eq_nil_of_le hi, List.append_nil]

theorem bytes_eq (s : String) : bytes s = s.toByteArray.data.toList := by
  rw [bytes, String.toUTF8_eq_toByteArray, ByteArray.toList, toList_loop_eq]
  rfl

theorem bytes_empty : bytes "" = [] := by
  rw [bytes_eq]
  rfl

theorem bytes_append (s t : String) : bytes (s ++ t) = bytes s ++ bytes t := by
  rw [bytes_eq, bytes_eq, bytes_eq, String.toByteArray_append, ByteArray.data_append,
    Array.toList_append]

theorem bytes_inj {s t : String} : bytes s = bytes t ↔ s = t := by
  rw [bytes_eq, bytes_eq, Array.toList_inj, ← String.toByteArray_inj]
  exact ⟨ByteArray.ext, congrArg ByteArray.data⟩

end Sha256

namespace Audit

open Time (Instant)
open Time.Instant (yearText)

theorem Grade.append_name_inj {a b : List Char} {g h : Grade}
    (heq : a ++ g.name.toList = b ++ h.name.toList) : a = b ∧ g = h := by
  have hlast (g : Grade) (a : List Char) :
      (a ++ g.name.toList).getLast? = g.name.toList.getLast? := by
    cases g <;> simp [name]
  have hletter : g.name.toList.getLast? = h.name.toList.getLast? := by
    rw [← hlast g a, heq, hlast h b]
  have hgrade : g = h := by
    revert hletter
    cases g <;> cases h <;> decide
  subst hgrade
  exact ⟨List.append_cancel_right heq, rfl⟩

namespace Record

/-! ### The text of a record -/

def optionChars : Option String → List Char
  | some s => s.toList
  | none => []

def terminated (ids : List String) : List Char := ids.flatMap (fun p => p.toList ++ ['\x00'])

/-- What stands before the timestamp. -/
def lead (r : Record) : List Char :=
  r.id.toList ++ r.eventType.toList ++ optionChars r.subject ++ terminated r.policyIds ++
    optionChars r.data

def line (r : Record) : List Char :=
  r.lead ++ r.time.text.toList ++ r.severity.name.toList ++ optionChars r.previousHash

theorem terminated_cons (p : String) (ids : List String) :
    terminated (p :: ids) = p.toList ++ ['\x00'] ++ terminated ids := List.flatMap_cons

theorem optionBytes_eq (o : Option String) :
    optionBytes o = Sha256.bytes (String.ofList (optionChars o)) := by
  cases o with
  | none => exact Sha256.bytes_empty.symm
  | some s => rw [optionBytes, optionChars, String.ofList_toList]

theorem terminatedBytes_eq (ids : List String) :
    ids.flatMap (fun p => Sha256.bytes p ++ [0]) =
      Sha256.bytes (String.ofList (terminated ids)) := by
  induction ids with
  | nil => exact Sha256.bytes_empty.symm
  | cons p ids ih =>
    have hzero : Sha256.bytes (String.ofList ['\x00']) = [0] := by rw [Sha256.bytes_eq]; rfl
    rw [List.flatMap_cons, ih, terminated_cons, String.ofList_append, Sha256.bytes_append,
      String.ofList_append, Sha256.bytes_append, String.ofList_toList, hzero]

theorem bytes_eq (r : Record) : r.bytes = Sha256.bytes (String.ofList r.line) := by
  simp only [bytes, line, lead, optionBytes_eq, terminatedBytes_eq, String.ofList_append,
    String.ofList_toList, Sha256.bytes_append]

theorem bytes_eq_iff_line_eq {a b : Record} : a.bytes = b.bytes ↔ a.line = b.line := by
  rw [bytes_eq, bytes_eq, Sha256.bytes_inj, String.ofList_inj]

/-! ### Where the fields end -/

/-- Agreement on all that is given of a record. -/
structure Agree (a b : Record) : Prop where
  id : a.id = b.id
  eventType : a.eventType = b.eventType
  subject : a.subject = b.subject
  policyIds : a.policyIds = b.policyIds
  data : a.data = b.data
  time : a.time = b.time
  severity : a.severity = b.severity

/-- The fields in front of the timestamp end at the same places, and those that may be left out
are there in both records or in none. -/
structure SameEnds (a b : Record) : Prop where
  id : a.id.length = b.id.length
  eventType : a.eventType.length = b.eventType.length
  subject : a.subject.map String.length = b.subject.map String.length
  policyIds : a.policyIds.map String.length = b.policyIds.map String.length
  data : a.data.map String.length = b.data.map String.length

theorem text_append_inj {s t : String} {a b : List Char} (hlength : s.length = t.length)
    (h : s.toList ++ a = t.toList ++ b) : s = t ∧ a = b := by
  have hchars : s.toList.length = t.toList.length := by
    rw [String.length_toList, String.length_toList, hlength]
  obtain ⟨hst, hab⟩ := List.append_inj h hchars
  exact ⟨String.toList_inj.1 hst, hab⟩

theorem option_append_inj {s t : Option String} {a b : List Char}
    (hlength : s.map String.length = t.map String.length)
    (h : optionChars s ++ a = optionChars t ++ b) : s = t ∧ a = b := by
  cases s with
  | none =>
    cases t with
    | none => exact ⟨rfl, h⟩
    | some t => cases hlength
  | some s =>
    cases t with
    | none => cases hlength
    | some t =>
      obtain ⟨hst, hab⟩ := text_append_inj (Option.some.inj hlength) h
      exact ⟨congrArg some hst, hab⟩

theorem terminated_append_inj {ps qs : List String} {a b : List Char}
    (hlength : ps.map String.length = qs.map String.length)
    (h : terminated ps ++ a = terminated qs ++ b) : ps = qs ∧ a = b := by
  induction ps generalizing qs with
  | nil =>
    cases qs with
    | nil => exact ⟨rfl, h⟩
    | cons q qs => cases hlength
  | cons p ps ih =>
    cases qs with
    | nil => cases hlength
    | cons q qs =>
      obtain ⟨hfirst, hrest⟩ := List.cons.inj hlength
      rw [terminated_cons, terminated_cons, List.append_assoc, List.append_assoc,
        List.append_assoc, List.append_assoc] at h
      obtain ⟨hpq, h⟩ := text_append_inj hfirst h
      obtain ⟨hpsqs, hab⟩ := ih hrest (List.append_cancel_left h)
      exact ⟨by rw [hpq, hpsqs], hab⟩

theorem SameEnds.lead_append_inj {a b : Record} (h : SameEnds a b) {y z : List Char}
    (heq : a.lead ++ y = b.lead ++ z) :
    (a.id = b.id ∧ a.eventType = b.eventType ∧ a.subject = b.subject ∧
      a.policyIds = b.policyIds ∧ a.data = b.data) ∧ y = z := by
  simp only [lead, List.append_assoc] at heq
  obtain ⟨hid, heq⟩ := text_append_inj h.id heq
  obtain ⟨htype, heq⟩ := text_append_inj h.eventType heq
  obtain ⟨hsubject, heq⟩ := option_append_inj h.subject heq
  obtain ⟨hids, heq⟩ := terminated_append_inj h.policyIds heq
  obtain ⟨hdata, heq⟩ := option_append_inj h.data heq
  exact ⟨⟨hid, htype, hsubject, hids, hdata⟩, heq⟩

theorem Agree.sameEnds {a b : Record} (h : Agree a b) : SameEnds a b where
  id := by rw [h.id]
  eventType := by rw [h.eventType]
  subject := by rw [h.subject]
  policyIds := by rw [h.policyIds]
  data := by rw [h.data]

theorem Agree.bytes_eq {a b : Record} (h : Agree a b)
    (hprevious : a.previousHash = b.previousHash) : a.bytes = b.bytes := by
  simp only [bytes, h.id, h.eventType, h.subject, h.policyIds, h.data, h.time, h.severity,
    hprevious]

/-- The text up to the year of the timestamp, the year included. -/
def yearLead (r : Record) : List Char := r.lead ++ (yearText r.time.year).toList

theorem line_eq (r : Record) :
    r.line = r.yearLead ++ r.time.shown.chars ++ "+00:00".toList ++ r.severity.name.toList ++
      optionChars r.previousHash := by
  rw [line, Instant.text, Instant.toList_textWith, yearLead]
  simp only [List.append_assoc]

theorem line_eq_iff {a b : Record} (hprevious : a.previousHash = b.previousHash) :
    a.line = b.line ↔
      a.severity = b.severity ∧ a.time.shown = b.time.shown ∧ a.yearLead = b.yearLead := by
  rw [line_eq, line_eq, hprevious]
  constructor
  · intro h
    obtain ⟨h, hseverity⟩ := Grade.append_name_inj (List.append_cancel_right h)
    obtain ⟨h, hshown⟩ := Instant.append_shown_inj (Instant.fraction_shown_lt a.time)
      (Instant.fraction_shown_lt b.time) (List.append_cancel_right h)
    exact ⟨hseverity, hshown, h⟩
  · rintro ⟨hseverity, hshown, h⟩
    rw [hseverity, hshown, h]

/-- Fields that end at the same places, and leap seconds told from others, are all that is
missing. -/
theorem agree_iff {a b : Record} (hprevious : a.previousHash = b.previousHash) :
    Agree a b ↔ a.bytes = b.bytes ∧ SameEnds a b ∧
      a.time.nanos / Instant.unit = b.time.nanos / Instant.unit := by
  constructor
  · intro h
    exact ⟨h.bytes_eq hprevious, h.sameEnds, by rw [h.time]⟩
  · rintro ⟨hbytes, hends, hleap⟩
    obtain ⟨hseverity, hshown, hlead⟩ :=
      (line_eq_iff hprevious).1 (bytes_eq_iff_line_eq.1 hbytes)
    obtain ⟨⟨hid, htype, hsubject, hids, hdata⟩, hyear⟩ := hends.lead_append_inj hlead
    have htime : a.time = b.time :=
      Instant.eq_of_shown_eq (Instant.yearText_inj hyear) hshown hleap
    exact ⟨hid, htype, hsubject, hids, hdata, htime, hseverity⟩

/-- With years of four digits the timestamp is told as a whole. -/
theorem bytes_eq_iff_lead_eq {a b : Record} (hprevious : a.previousHash = b.previousHash)
    (ha : a.time.Genuine) (hb : b.time.Genuine) (hpa : a.time.Plain) (hpb : b.time.Plain) :
    a.bytes = b.bytes ↔ a.severity = b.severity ∧ a.time = b.time ∧ a.lead = b.lead := by
  rw [bytes_eq_iff_line_eq, line_eq_iff hprevious]
  constructor
  · rintro ⟨hseverity, hshown, hyearLead⟩
    obtain ⟨hlead, hyear⟩ := Instant.append_yearText_inj hpa hpb hyearLead
    exact ⟨hseverity, ha.eq_of_shown_eq hb hyear hshown, hlead⟩
  · rintro ⟨hseverity, htime, hlead⟩
    exact ⟨hseverity, by rw [htime], by rw [yearLead, hlead, htime, ← yearLead]⟩

/-- Two different records after the same one that give the same bytes. -/
def Collide (a b : Record) : Prop :=
  a.previousHash = b.previousHash ∧ a.bytes = b.bytes ∧ ¬ Agree a b

theorem collide_of_line {a b : Record} (hprevious : a.previousHash = b.previousHash)
    (hline : a.line = b.line) (h : ¬ Agree a b) : Collide a b :=
  ⟨hprevious, bytes_eq_iff_line_eq.2 hline, h⟩

theorem bytes_bind (a b : Record) (hprevious : a.previousHash = b.previousHash) :
    (a.bytes = b.bytes ↔
      a.severity = b.severity ∧ a.time.shown = b.time.shown ∧ a.yearLead = b.yearLead) ∧
    (a.time.Genuine → b.time.Genuine → a.time.Plain → b.time.Plain →
      (a.bytes = b.bytes ↔ a.severity = b.severity ∧ a.time = b.time ∧ a.lead = b.lead)) ∧
    (Agree a b ↔ a.bytes = b.bytes ∧ SameEnds a b ∧
      a.time.nanos / Instant.unit = b.time.nanos / Instant.unit) ∧
    (a.time.Genuine → b.time.Genuine → (Agree a b ↔ a.bytes = b.bytes ∧ SameEnds a b)) := by
  have hline := bytes_eq_iff_line_eq.trans (line_eq_iff hprevious)
  refine ⟨hline, bytes_eq_iff_lead_eq hprevious, agree_iff hprevious, fun ha hb => ?_⟩
  rw [agree_iff hprevious]
  constructor
  · rintro ⟨hbytes, hends, -⟩
    exact ⟨hbytes, hends⟩
  · rintro ⟨hbytes, hends⟩
    -- a second of 60 is shown, so which of the two is a leap second is no secret
    exact ⟨hbytes, hends, by rw [ha.leap_eq, hb.leap_eq, (hline.1 hbytes).2.1]⟩

theorem bytes_bind_moved_letter :
    let a : Record := { id := "a", eventType := "bc", time := ⟨1772366400, 0⟩ }
    let b : Record := { id := "ab", eventType := "c", time := ⟨1772366400, 0⟩ }
    a.previousHash = b.previousHash ∧ a.time.Genuine ∧ a.time.Plain ∧ a.bytes = b.bytes ∧
      ¬ SameEnds a b ∧ ¬ Agree a b := by
  intro a b
  have hgenuine : a.time.Genuine := by decide
  have hplain : a.time.Plain := by decide +kernel
  obtain ⟨-, hlead, -, hagree⟩ := bytes_bind a b rfl
  have hbytes : a.bytes = b.bytes :=
    (hlead hgenuine hgenuine hplain hplain).2 ⟨rfl, rfl, by decide +kernel⟩
  have hends : ¬ SameEnds a b := fun h => absurd h.id (by decide)
  exact ⟨rfl, hgenuine, hplain, hbytes, hends,
    fun h => hends ((hagree hgenuine hgenuine).1 h).2⟩

theorem collide_moved_text :
    let noon : Instant := ⟨1772366400, 0⟩
    let laterNoon : Instant := ⟨1772366400 + 25 * Time.Date.cycle * 86400, 0⟩
    Collide { id := "a", eventType := "bc", time := noon }
        { id := "ab", eventType := "c", time := noon } ∧
      Collide { id := "a", eventType := "bc", time := noon }
        { id := "a", eventType := "b", subject := some "c", time := noon } ∧
      Collide { id := "a", eventType := "b", time := noon }
        { id := "a", eventType := "b", subject := some "", time := noon } ∧
      Collide { id := "a", eventType := "b", subject := some "p", policyIds := ["q"], time := noon }
        { id := "a", eventType := "b", policyIds := ["pq"], time := noon } ∧
      Collide { id := "a", eventType := "b", policyIds := ["p", "q"], time := noon }
        { id := "a", eventType := "b", policyIds := ["p\x00q"], time := noon } ∧
      Collide { id := "a", eventType := "b", data := none, time := noon }
        { id := "a", eventType := "b", data := some "", time := noon } ∧
      Collide { id := "a", eventType := "b", data := some "+1", time := noon }
        { id := "a", eventType := "b", data := some "", time := laterNoon } := by
  intro noon laterNoon
  exact ⟨collide_of_line rfl (by decide +kernel) fun h => absurd h.id (by decide),
    collide_of_line rfl (by decide +kernel) fun h => absurd h.subject (by decide),
    collide_of_line rfl (by decide +kernel) fun h => absurd h.subject (by decide),
    collide_of_line rfl (by decide +kernel) fun h => absurd h.subject (by decide),
    collide_of_line rfl (by decide +kernel) fun h => absurd h.policyIds (by decide),
    collide_of_line rfl (by decide +kernel) fun h => absurd h.data (by decide),
    collide_of_line rfl (by decide +kernel) fun h => absurd h.data (by decide)⟩

end Record

end Audit

end LossPrevention
