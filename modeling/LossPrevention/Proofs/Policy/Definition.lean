import LossPrevention.Policy.Directory
import LossPrevention.Proofs.Condition.Spec
import LossPrevention.Proofs.Json.RoundTrip
import LossPrevention.Proofs.Policy.Action

/-!
Policies read back as they are written. Whatever the text of a policy looked like, the text of what
was read of it is read as the same policy, in whichever order its fields are put.
-/

namespace LossPrevention.Policy

open Document
open Json (Number Value writtenField textField_eq map_toList_eq)

variable {d : Document} {n : Nat}

/-! ### Thresholds and windows -/

namespace WindowSpec

theorem restores_text (s : String) (n : Nat) :
    Restores ofDocument? n (text s).toValue (text s) where
  canonical := (Document.restores_text s n).canonical
  reads h := by
    rw [show _ = Document.text s from h]
    rfl

theorem restores_seconds {k : Nat} (h : Restores asNat? n (.ofNat k) k) :
    Restores ofDocument? n (seconds k).toValue (seconds k) where
  canonical := h.canonical
  reads hspells := by
    rw [ofDocument?, h.reads hspells]
    rfl

/-- A scalar is spelled in one way only, and a list or an object is neither number nor text. -/
theorem restores_other {v : Value} (hstrict : d.Strict Number.Fits) (hdepth : d.depth ≤ n)
    (hnat : asNat? d = none) (htext : asText? d = none) (hv : d.toValue? = some v) :
    Restores ofDocument? n (other v).toValue (other v) := by
  have hrestores := faithful_value hstrict hdepth (Nat.zero_le n) hv
  refine ⟨hrestores.canonical, fun {e} hspells => ?_⟩
  have hvalue := hrestores.reads hspells
  have hneither : asNat? e = none ∧ asText? e = none := by
    cases d with
    | null | bool b =>
        cases hv
        rw [show e = _ from hspells]
        exact ⟨rfl, rfl⟩
    | number i =>
        have heq : e = number i := by
          cases i with
          | int i => cases hv; exact hspells
          | float x =>
              have hfinite : Binary64.isFinite x = true := hstrict
              rw [Document.toValue?, if_pos hfinite] at hv
              cases hv
              exact hspells
        rw [heq]
        exact ⟨hnat, htext⟩
    | text s => cases htext
    | list items =>
        obtain ⟨vs, -, rfl⟩ := Option.map_eq_some_iff.1 hv
        obtain ⟨ds, rfl, -⟩ := hspells
        exact ⟨rfl, rfl⟩
    | record entries =>
        obtain ⟨fs, -, rfl⟩ := Option.map_eq_some_iff.1 hv
        obtain ⟨pairs, -, rfl, -⟩ := hspells
        exact ⟨rfl, rfl⟩
    | _ => exact hstrict.elim
  rw [ofDocument?, hneither.1, hneither.2, hvalue]
  rfl

theorem restores_default (n : Nat) : Restores ofDocument? n default.toValue default :=
  restores_text "5m" n

theorem faithful : Faithful ofDocument? toValue 0 := by
  intro d w n hstrict hdepth _ h
  rcases of_orElse_eq_some h with h | ⟨hnat, h⟩
  · obtain ⟨k, hk, rfl⟩ := Option.map_eq_some_iff.1 h
    exact restores_seconds (faithful_nat hstrict hdepth (Nat.zero_le n) hk)
  rcases of_orElse_eq_some h with h | ⟨htext, h⟩
  · obtain ⟨s, -, rfl⟩ := Option.map_eq_some_iff.1 h
    exact restores_text s n
  · obtain ⟨v, hv, rfl⟩ := Option.map_eq_some_iff.1 h
    exact restores_other hstrict hdepth (Option.map_eq_none_iff.1 hnat)
      (Option.map_eq_none_iff.1 htext) hv

end WindowSpec

namespace ThresholdSpec

def written (t : ThresholdSpec) : List (String × Option Value) :=
  [("count", some (.ofNat t.count)), ("distinct_field", t.distinctField.map .text)]

theorem toValue_eq (t : ThresholdSpec) :
    t.toValue = .ofFields (t.written.flatMap writtenField) := by
  have hkeys : ["count", "distinct_field"].Pairwise (· < ·) := by decide
  rw [@Json.ofFields_written t.written hkeys]
  obtain ⟨count, field⟩ := t
  cases field <;> rfl

theorem faithful : Faithful ofDocument? toValue 1 := by
  intro d t n hstrict hdepth hn h
  obtain _ | n := n
  · cases hn
  obtain ⟨slots, hslots, h⟩ := Option.bind_eq_some_iff.1 h
  have hinside := inside_fields? hslots hstrict hdepth
  split at h
  · obtain ⟨count, hcount, h⟩ := Option.bind_eq_some_iff.1 h
    obtain ⟨field, hfield, h⟩ := Option.bind_eq_some_iff.1 h
    cases h
    simp only [List.forall_mem_cons] at hinside
    have hcount := faithful_nat.orElse? hinside.1 (Nat.zero_le n)
      (restores_nat (by decide) n) hcount
    have hfield := faithful_text.optional? hinside.2.1 (Nat.zero_le n) text_ne_null hfield
    rw [toValue_eq]
    refine restores_fields? (by decide) rfl ?_ ?_
    · simp only [written, List.forall_mem_cons]
      exact ⟨hcount.canonical, hfield.canonical, nofun⟩
    · rintro _ (_ | ⟨hrel, _ | ⟨hrel', _ | _⟩⟩)
      simp only [hcount.reads hrel, hfield.reads hrel', Option.bind_eq_bind, Option.bind_some]
  · cases h

theorem restores_default (hn : 1 ≤ n) : Restores ofDocument? n (toValue {}) {} :=
  faithful (d := .record []) trivial hn hn rfl

end ThresholdSpec

namespace StatefulSpec

def written (s : StatefulSpec) : List (String × Option Value) :=
  [("window", some s.window.toValue), ("threshold", some s.threshold.toValue)]

theorem toValue_eq (s : StatefulSpec) : s.toValue = .ofFields (s.written.flatMap writtenField) := by
  have hkeys : ["threshold", "window"].Pairwise (· < ·) := by decide
  have hascending : Keyed.Ascending
      [("threshold", s.threshold.toValue), ("window", s.window.toValue)] :=
    List.pairwise_map.1 hkeys
  exact congrArg _ (Keyed.ofList_of_perm hascending (.swap _ _ _)).symm

theorem faithful : Faithful ofDocument? toValue 2 := by
  intro d s n hstrict hdepth hn h
  obtain _ | n := n
  · cases hn
  have hn := Nat.le_of_succ_le_succ hn
  obtain ⟨slots, hslots, h⟩ := Option.bind_eq_some_iff.1 h
  have hinside := inside_fields? hslots hstrict hdepth
  split at h
  · obtain ⟨window, hwindow, h⟩ := Option.bind_eq_some_iff.1 h
    obtain ⟨threshold, hthreshold, h⟩ := Option.bind_eq_some_iff.1 h
    cases h
    simp only [List.forall_mem_cons] at hinside
    have hwindow := WindowSpec.faithful.orElse? hinside.1 (Nat.zero_le n)
      (WindowSpec.restores_default n) hwindow
    have hthreshold := ThresholdSpec.faithful.orElse? hinside.2.1 hn
      (ThresholdSpec.restores_default hn) hthreshold
    rw [toValue_eq]
    refine restores_fields? (by decide) rfl ?_ ?_
    · simp only [written, List.forall_mem_cons]
      exact ⟨hwindow.canonical, hthreshold.canonical, nofun⟩
    · rintro _ (_ | ⟨hrel, _ | ⟨hrel', _ | _⟩⟩)
      simp only [hwindow.reads hrel, hthreshold.reads hrel', Option.bind_eq_bind, Option.bind_some]
  · cases h

/-- The clause with its fields as they are declared. -/
def declared (s : StatefulSpec) : Value := .object (s.written.flatMap writtenField)

theorem spells_declared (s : StatefulSpec) : Spells s.toValue (ofValue s.declared) := by
  rw [toValue_eq]
  have hkeys : ["window", "threshold"].Nodup := by decide
  exact spells_object hkeys

theorem toValue_ne_null {d : Document} {s : StatefulSpec} (_ : d.Strict Number.Fits) (_ : d ≠ null)
    (_ : ofDocument? d = some s) : s.toValue ≠ .null := nofun

end StatefulSpec

/-! ### Policies -/

namespace Definition

/-- The fields with what there is to write in them. -/
def writtenBy (stateful : StatefulSpec → Value) (action : Action → Value) (p : Definition) :
    List (String × Option Value) :=
  [("id", some (.text p.id)), ("name", some (.text p.name)),
    ("description", p.description.map .text), ("version", p.version.map .text),
    ("enabled", some (.bool p.enabled)), ("priority", some (.ofInt p.priority)),
    ("severity", p.severity.map fun s => .text s.name),
    ("conditions", some p.conditions.toValue), ("stateful", p.stateful.map stateful),
    ("actions", some (.list (p.actions.map action))),
    ("compliance_tags", some (.list (p.complianceTags.map .text))),
    ("stop_on_match", some (.bool p.stopOnMatch))]

def written : Definition → List (String × Option Value) :=
  writtenBy StatefulSpec.toValue Action.toValue

/-- The policy with the fields of all objects as they are declared. -/
def declared (p : Definition) : Value :=
  .object ((writtenBy StatefulSpec.declared Action.declared p).flatMap writtenField)

theorem nodup_keys_written (p : Definition) :
    (Keyed.keys (p.written.flatMap writtenField)).Nodup := by
  have hnames : (fieldNames.map fun names => names.headD "").Nodup := by decide
  exact List.Nodup.sublist (Json.keys_written_sublist _) hnames

theorem toValue_eq (p : Definition) : p.toValue = .ofFields (p.written.flatMap writtenField) := by
  rw [toValue, textField_eq, textField_eq, textField_eq, map_toList_eq, Option.map_map]
  simp only [written, writtenBy, List.flatMap_cons, List.flatMap_nil, List.append_nil,
    List.append_assoc]
  rfl

theorem spells_declared (p : Definition) : Spells p.toValue (ofValue p.declared) := by
  have hsame (v : Option Value) : Option.Rel (fun v w => Spells v (ofValue w)) v v := by
    cases v with
    | none => exact .none
    | some v => exact .some (spells_ofValue v)
  have hstateful : Option.Rel (fun v w => Spells v (ofValue w))
      (p.stateful.map StatefulSpec.toValue) (p.stateful.map StatefulSpec.declared) := by
    cases p.stateful with
    | none => exact .none
    | some s => exact .some s.spells_declared
  have hactions : Option.Rel (fun v w => Spells v (ofValue w))
      (some (.list (p.actions.map Action.toValue)))
      (some (.list (p.actions.map Action.declared))) :=
    .some ⟨_, rfl, spellsItems_map Action.spells_declared p.actions⟩
  rw [toValue_eq, declared, ofValue, record_ofFields]
  refine spells_ofFields_of_nodup (nodup_keys_written p) (spellsFields_written ?_)
  exact .cons ⟨rfl, hsame _⟩ <| .cons ⟨rfl, hsame _⟩ <| .cons ⟨rfl, hsame _⟩ <|
    .cons ⟨rfl, hsame _⟩ <| .cons ⟨rfl, hsame _⟩ <| .cons ⟨rfl, hsame _⟩ <|
    .cons ⟨rfl, hsame _⟩ <| .cons ⟨rfl, hsame _⟩ <| .cons ⟨rfl, hstateful⟩ <|
    .cons ⟨rfl, hactions⟩ <| .cons ⟨rfl, hsame _⟩ <| .cons ⟨rfl, hsame _⟩ .nil

theorem faithful_readFields? : Faithful readFields? toValue 4 := by
  intro d p n hstrict hdepth hn h
  obtain _ | n := n
  · cases hn
  have hn := Nat.le_of_succ_le_succ hn
  obtain ⟨slots, hslots, h⟩ := Option.bind_eq_some_iff.1 h
  have hinside := inside_fields? hslots hstrict hdepth
  split at h
  · obtain ⟨id, hid, h⟩ := Option.bind_eq_some_iff.1 h
    obtain ⟨name, hname, h⟩ := Option.bind_eq_some_iff.1 h
    obtain ⟨description, hdescription, h⟩ := Option.bind_eq_some_iff.1 h
    obtain ⟨version, hversion, h⟩ := Option.bind_eq_some_iff.1 h
    obtain ⟨enabled, henabled, h⟩ := Option.bind_eq_some_iff.1 h
    obtain ⟨priority, hpriority, h⟩ := Option.bind_eq_some_iff.1 h
    obtain ⟨severity, hseverity, h⟩ := Option.bind_eq_some_iff.1 h
    obtain ⟨conditions, hconditions, h⟩ := Option.bind_eq_some_iff.1 h
    obtain ⟨stateful, hstateful, h⟩ := Option.bind_eq_some_iff.1 h
    obtain ⟨actions, hactions, h⟩ := Option.bind_eq_some_iff.1 h
    obtain ⟨tags, htags, h⟩ := Option.bind_eq_some_iff.1 h
    obtain ⟨stop, hstop, h⟩ := Option.bind_eq_some_iff.1 h
    cases h
    simp only [List.forall_mem_cons] at hinside
    obtain ⟨iid, iname, idescription, iversion, ienabled, ipriority, iseverity, iconditions,
      istateful, iactions, itags, istop, -⟩ := hinside
    have h0 : 0 ≤ n := Nat.zero_le n
    have hid := faithful_text.bind iid h0 hid
    have hname := faithful_text.bind iname h0 hname
    have hdescription := faithful_text.optional? idescription h0 text_ne_null hdescription
    have hversion := faithful_text.optional? iversion h0 text_ne_null hversion
    have henabled := faithful_bool.orElse? ienabled h0 (restores_bool true n) henabled
    have hpriority := faithful_int.orElse? ipriority h0
      (restores_int (by decide) (by decide) n) hpriority
    have hseverity := Severity.faithful.optional? iseverity h0 nofun hseverity
    have hconditions := Condition.Spec.faithful.bind iconditions h0 hconditions
    have hstateful := StatefulSpec.faithful.optional? istateful (by omega)
      StatefulSpec.toValue_ne_null hstateful
    have hactions := Faithful.orElse? Action.faithful.list iactions hn
      (restores_nil (by omega)) hactions
    have htags := Faithful.orElse? faithful_text.list itags (by omega)
      (restores_nil (by omega)) htags
    have hstop := faithful_bool.orElse? istop h0 (restores_bool false n) hstop
    rw [toValue_eq]
    refine restores_fields? (by decide) rfl ?_ ?_
    · simp only [written, writtenBy, List.forall_mem_cons]
      exact ⟨hid.canonical, hname.canonical, hdescription.canonical, hversion.canonical,
        henabled.canonical, hpriority.canonical, hseverity.canonical, hconditions.canonical,
        hstateful.canonical, hactions.canonical, htags.canonical, hstop.canonical, nofun⟩
    · rintro _ (_ | ⟨rid, _ | ⟨rname, _ | ⟨rdescription, _ | ⟨rversion, _ | ⟨renabled, _ |
        ⟨rpriority, _ | ⟨rseverity, _ | ⟨rconditions, _ | ⟨rstateful, _ | ⟨ractions, _ | ⟨rtags, _ |
        ⟨rstop, _ | _⟩⟩⟩⟩⟩⟩⟩⟩⟩⟩⟩⟩)
      simp only [hid.reads rid, hname.reads rname, hdescription.reads rdescription,
        hversion.reads rversion, henabled.reads renabled, hpriority.reads rpriority,
        hseverity.reads rseverity, hconditions.reads rconditions, hstateful.reads rstateful,
        hactions.reads ractions, htags.reads rtags, hstop.reads rstop, Option.bind_eq_bind,
        Option.bind_some]
  · cases h

theorem faithful : Faithful ofDocument? toValue 4 := by
  intro d p n hstrict hdepth hn h
  have hrestores : Restores readFields? n p.toValue p := by
    rcases of_orElse_eq_some h with h | ⟨-, h⟩
    · obtain ⟨e, he, h⟩ := Option.bind_eq_some_iff.1 h
      obtain ⟨hinner, hless⟩ := inside_of_under? (P := Number.Fits) he
      exact faithful_readFields? (hinner hstrict) (by omega) hn h
    · exact faithful_readFields? hstrict hdepth hn h
  refine ⟨hrestores.canonical, fun {e} hspells => ?_⟩
  have hread := hrestores.reads hspells
  rw [toValue_eq] at hspells
  obtain ⟨pairs, rfl, hrecord⟩ := exists_pairs_of_spells (nodup_keys_written p) hspells
  have hpolicy : "policy" ∉ Keyed.keys (p.written.flatMap writtenField) := by
    have hnames : "policy" ∉ fieldNames.map fun names => names.headD "" := by decide
    exact fun hmem => hnames ((Json.keys_written_sublist _).subset hmem)
  rw [ofDocument?, hrecord.under?_eq_none hpolicy, hread]
  rfl

theorem ofJson_eq_ok_iff {text : String} {p : Definition} :
    ofJson text = .ok p ↔ (Json.read? text).bind ofDocument? = some p := by
  rw [ofJson]
  cases (Json.read? text).bind ofDocument? <;> simp

/-- Whatever text a policy is read of, what is written for it is read as the same policy, with the
fields of all objects as they are declared, by their keys, or in any other order, as long as its
binary numbers read back. -/
theorem ofJson_compact {text : String} {p : Definition} (h : ofJson text = .ok p)
    (hfloats : ∀ x ∈ p.toValue.floats, (Number.float x).ReadsBack) :
    ofJson p.declared.compact = .ok p ∧ ofJson p.toValue.compact = .ok p ∧
      ∀ v, Spells p.toValue (ofValue v) → ofJson v.compact = .ok p := by
  obtain ⟨d, hd, hp⟩ := Option.bind_eq_some_iff.1 (ofJson_eq_ok_iff.1 h)
  obtain ⟨hstrict, hdepth⟩ := Json.strict_of_read? hd
  have hrestores := faithful hstrict hdepth (by decide) hp
  have hcanonical := hrestores.canonical
  have hany (v : Value) (hv : Spells p.toValue (ofValue v)) : ofJson v.compact = .ok p := by
    have hback := hv.strict (Json.readsBack_of_floats hcanonical.fits hfloats)
    rw [ofJson_eq_ok_iff, Json.read?_compact hback (hv.depth_le hcanonical.depth_le)]
    exact hrestores.reads hv
  exact ⟨hany _ p.spells_declared, hany _ (spells_ofValue _), hany⟩

/-- A policy under the key `policy`, in part as lists of fields, with a number that has a
fraction. -/
def wrapped : String :=
  "\x7b\"policy\":\x7b\"id\":\"p\",\"name\":\"n\"," ++
    "\"conditions\":\x7b\"not\":\x7b\"field\":\"a\",\"value\":1.5\x7d\x7d," ++
    "\"stateful\":[\"5m\",[3]],\"actions\":[[\"block\"]],\"compliance\":[\"x\"]\x7d\x7d"

theorem ofJson_compact_wrapped :
    ∃ p, ofJson wrapped = .ok p ∧ p.toValue.floats = [1.5] ∧
      ofJson p.declared.compact = .ok p := by
  have hread : (ofJson wrapped).toOption.map (fun p => p.toValue.floats) = some [1.5] := by
    decide +kernel
  cases hp : ofJson wrapped with
  | error e =>
      rw [hp] at hread
      cases hread
  | ok p =>
      rw [hp] at hread
      have hfloats : p.toValue.floats = [1.5] := Option.some.inj hread
      have hback : ∀ x ∈ p.toValue.floats, (Number.float x).ReadsBack := by
        rw [hfloats]
        exact List.forall_mem_singleton.2 (by decide +kernel)
      exact ⟨p, rfl, hfloats, (ofJson_compact hp hback).1⟩

end Definition

end LossPrevention.Policy
