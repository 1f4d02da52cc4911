import LossPrevention.Policy.Action
import LossPrevention.Proofs.Document.Readers

/-!
Actions read back as they are written, the type among the other fields.
-/

namespace LossPrevention

open Document
open Json (Number Value writtenField)

theorem Severity.faithful : Faithful Severity.ofDocument? (fun s => .text s.name) 0 :=
  fun {_ s n} _ _ _ _ => ⟨⟨trivial, trivial, Nat.zero_le n⟩, fun h => by
    rw [show _ = Document.text s.name from h]
    cases s <;> rfl⟩

theorem LogLevel.restores (l : LogLevel) (n : Nat) :
    Restores LogLevel.ofDocument? n (.text l.name) l :=
  ⟨⟨trivial, trivial, Nat.zero_le n⟩, fun h => by
    rw [show _ = Document.text l.name from h]
    cases l <;> rfl⟩

theorem LogLevel.faithful : Faithful LogLevel.ofDocument? (fun l => .text l.name) 0 :=
  fun {_ l n} _ _ _ _ => l.restores n

namespace Action

variable {d : Document} {a : Action} {kind : Kind} {n : Nat}

/-- What there is to write of an action besides its type. -/
def details : Action → List (String × Option Value)
  | block message => [("message", message.map .text)]
  | alert severity message =>
      [("severity", severity.map fun s => .text s.name), ("message", message.map .text)]
  | quarantine destination => [("destination", some (.text destination))]
  | notify channels message =>
      [("channels", some (.textList channels)), ("message", message.map .text)]
  | log level message => [("level", some (.text level.name)), ("message", message.map .text)]

/-- An action of the kind that reads back from its details. -/
structure RestoresDetails (kind : Kind) (n : Nat) (a : Action) : Prop where
  kind_eq : a.kind = kind
  canonical : ∀ e ∈ a.details, ∀ v, e.2 = some v → Canonical n v
  reads : ∀ {pairs}, SpellsRecord (a.details.flatMap writtenField) pairs →
    readFields? kind (ofPairs pairs) = some a

section Details

variable (hstrict : d.Strict Number.Fits) (hdepth : d.depth ≤ n + 1)

include hstrict hdepth

theorem restoresDetails_block (h : readFields? .block d = some a) : RestoresDetails .block n a := by
  obtain ⟨slots, hslots, h⟩ := Option.bind_eq_some_iff.1 h
  have hinside := inside_fields? hslots hstrict hdepth
  split at h
  · obtain ⟨message, hmessage, h⟩ := Option.bind_eq_some_iff.1 h
    cases h
    simp only [List.forall_mem_cons] at hinside
    have hmessage := faithful_text.optional? hinside.1 (Nat.zero_le n) text_ne_null hmessage
    refine ⟨rfl, List.forall_mem_singleton.2 hmessage.canonical,
      SpellsRecord.fields? (by decide) rfl ?_⟩
    rintro _ (_ | ⟨hrel, _ | _⟩)
    simp only [hmessage.reads hrel, Option.bind_eq_bind, Option.bind_some]
  · cases h

theorem restoresDetails_alert (h : readFields? .alert d = some a) : RestoresDetails .alert n a := by
  obtain ⟨slots, hslots, h⟩ := Option.bind_eq_some_iff.1 h
  have hinside := inside_fields? hslots hstrict hdepth
  split at h
  · obtain ⟨severity, hseverity, h⟩ := Option.bind_eq_some_iff.1 h
    obtain ⟨message, hmessage, h⟩ := Option.bind_eq_some_iff.1 h
    cases h
    simp only [List.forall_mem_cons] at hinside
    have hseverity := Severity.faithful.optional? hinside.1 (Nat.zero_le n) nofun hseverity
    have hmessage := faithful_text.optional? hinside.2.1 (Nat.zero_le n) text_ne_null hmessage
    refine ⟨rfl, ?_, SpellsRecord.fields? (by decide) rfl ?_⟩
    · simp only [details, List.forall_mem_cons]
      exact ⟨hseverity.canonical, hmessage.canonical, nofun⟩
    · rintro _ (_ | ⟨hrel, _ | ⟨hrel', _ | _⟩⟩)
      simp only [hseverity.reads hrel, hmessage.reads hrel', Option.bind_eq_bind,
        Option.bind_some]
  · cases h

theorem restoresDetails_quarantine (h : readFields? .quarantine d = some a) :
    RestoresDetails .quarantine n a := by
  obtain ⟨slots, hslots, h⟩ := Option.bind_eq_some_iff.1 h
  have hinside := inside_fields? hslots hstrict hdepth
  split at h
  · obtain ⟨destination, hdestination, h⟩ := Option.bind_eq_some_iff.1 h
    cases h
    simp only [List.forall_mem_cons] at hinside
    have hdestination := faithful_text.orElse? hinside.1 (Nat.zero_le n)
      (restores_text defaultDestination n) hdestination
    refine ⟨rfl, List.forall_mem_singleton.2 hdestination.canonical,
      SpellsRecord.fields? (by decide) rfl ?_⟩
    rintro _ (_ | ⟨hrel, _ | _⟩)
    simp only [hdestination.reads hrel, Option.bind_eq_bind, Option.bind_some]
  · cases h

theorem restoresDetails_notify (hn : 1 ≤ n) (h : readFields? .notify d = some a) :
    RestoresDetails .notify n a := by
  obtain ⟨slots, hslots, h⟩ := Option.bind_eq_some_iff.1 h
  have hinside := inside_fields? hslots hstrict hdepth
  split at h
  · obtain ⟨channels, hchannels, h⟩ := Option.bind_eq_some_iff.1 h
    obtain ⟨message, hmessage, h⟩ := Option.bind_eq_some_iff.1 h
    cases h
    simp only [List.forall_mem_cons] at hinside
    have hchannels := Faithful.orElse? faithful_text.list hinside.1 hn (restores_nil hn) hchannels
    have hmessage := faithful_text.optional? hinside.2.1 (Nat.zero_le n) text_ne_null hmessage
    refine ⟨rfl, ?_, SpellsRecord.fields? (by decide) rfl ?_⟩
    · simp only [details, List.forall_mem_cons]
      exact ⟨hchannels.canonical, hmessage.canonical, nofun⟩
    · rintro _ (_ | ⟨hrel, _ | ⟨hrel', _ | _⟩⟩)
      simp only [hchannels.reads hrel, hmessage.reads hrel', Option.bind_eq_bind,
        Option.bind_some]
  · cases h

theorem restoresDetails_log (h : readFields? .log d = some a) : RestoresDetails .log n a := by
  obtain ⟨slots, hslots, h⟩ := Option.bind_eq_some_iff.1 h
  have hinside := inside_fields? hslots hstrict hdepth
  split at h
  · obtain ⟨level, hlevel, h⟩ := Option.bind_eq_some_iff.1 h
    obtain ⟨message, hmessage, h⟩ := Option.bind_eq_some_iff.1 h
    cases h
    simp only [List.forall_mem_cons] at hinside
    have hlevel :=
      LogLevel.faithful.orElse? hinside.1 (Nat.zero_le n) (LogLevel.info.restores n) hlevel
    have hmessage := faithful_text.optional? hinside.2.1 (Nat.zero_le n) text_ne_null hmessage
    refine ⟨rfl, ?_, SpellsRecord.fields? (by decide) rfl ?_⟩
    · simp only [details, List.forall_mem_cons]
      exact ⟨hlevel.canonical, hmessage.canonical, nofun⟩
    · rintro _ (_ | ⟨hrel, _ | ⟨hrel', _ | _⟩⟩)
      simp only [hlevel.reads hrel, hmessage.reads hrel', Option.bind_eq_bind, Option.bind_some]
  · cases h

theorem restoresDetails (hn : 1 ≤ n) (h : readFields? kind d = some a) :
    RestoresDetails kind n a := by
  cases kind with
  | block => exact restoresDetails_block hstrict hdepth h
  | alert => exact restoresDetails_alert hstrict hdepth h
  | quarantine => exact restoresDetails_quarantine hstrict hdepth h
  | notify => exact restoresDetails_notify hstrict hdepth hn h
  | log => exact restoresDetails_log hstrict hdepth h

end Details

/-! ### The type -/

def written (a : Action) : List (String × Value) :=
  (typeKey, .text a.kind.name) :: a.details.flatMap writtenField

theorem toValue_eq (a : Action) : a.toValue = .ofFields a.written := by
  cases a with
  | block message => cases message <;> rfl
  | alert severity message => cases severity <;> cases message <;> rfl
  | quarantine destination => rfl
  | notify channels message => cases message <;> rfl
  | log level message => cases message <;> rfl

theorem typeKey_not_mem_details (a : Action) :
    typeKey ∉ Keyed.keys (a.details.flatMap writtenField) := by
  have hkeys : typeKey ∉ Keyed.keys a.details := by
    cases a <;> simp [details, Keyed.keys, typeKey]
  exact fun h => hkeys ((Json.keys_written_sublist _).subset h)

theorem nodup_keys_details (a : Action) : (Keyed.keys a.details).Nodup := by
  cases a <;> simp [details, Keyed.keys]

theorem kindOf?_name (kind : Kind) : kindOf? true (.text kind.name) = some kind := by
  cases kind <;> rfl

theorem nodup_keys_written (a : Action) : (Keyed.keys a.written).Nodup :=
  List.nodup_cons.2 ⟨typeKey_not_mem_details a,
    (nodup_keys_details a).sublist (Json.keys_written_sublist _)⟩

/-- The action with its fields as they are declared, the type first. -/
def declared (a : Action) : Value := .object a.written

theorem spells_declared (a : Action) : Spells a.toValue (ofValue a.declared) := by
  rw [toValue_eq]
  exact spells_object (nodup_keys_written a)

/-- The type and the details are found in any document that may hold an action. -/
theorem exists_details_of_ofDocument? (hstrict : d.Strict Number.Fits) (hdepth : d.depth ≤ n + 1)
    (h : ofDocument? true d = some a) : ∃ kind e, e.Strict Number.Fits ∧ e.depth ≤ n + 1 ∧
      readFields? kind e = some a := by
  rw [ofDocument?.eq_def] at h
  split at h
  · rename_i t items
    obtain ⟨kind, -, h⟩ := Option.bind_eq_some_iff.1 h
    refine ⟨kind, .list items, hstrict.2, ?_, h⟩
    exact Nat.succ_le_succ (Nat.max_le.1 (Nat.le_of_succ_le_succ hdepth)).2
  · rename_i entries
    split at h
    · obtain ⟨kind, -, h⟩ := Option.bind_eq_some_iff.1 h
      refine ⟨kind, _, ?_, ?_, h⟩
      · exact strictFields_iff.2 fun e he =>
          strictFields_iff.1 hstrict e (List.mem_of_mem_filter he)
      · exact Nat.succ_le_succ (fieldsDepth_le_iff.2 fun e he =>
          fieldsDepth_le_iff.1 (Nat.le_of_succ_le_succ hdepth) e (List.mem_of_mem_filter he))
    · cases h
  · cases h

theorem ofDocument?_pairs {pairs : List (String × Document)} {t : Document}
    (hkeys : (Keyed.keys pairs).Nodup) (ht : Keyed.get? typeKey pairs = some t) (nested : Bool) :
    ofDocument? nested (ofPairs pairs) =
      (kindOf? nested t).bind fun kind =>
        readFields? kind (ofPairs (Keyed.erase typeKey pairs)) := by
  have hfilter (p : Document → Bool) :
      (pairs.map fun e => (text e.1, e.2)).filter (fun e => p e.1) =
        (pairs.filter fun e => p (text e.1)).map fun e => (text e.1, e.2) := List.filter_map
  have htype : (pairs.filter fun e => isTypeKey (text e.1)) = [(typeKey, t)] :=
    Keyed.filter_key_eq hkeys ht
  have hothers : (pairs.map fun e => (text e.1, e.2)).filter (fun e => !isTypeKey e.1) =
      (Keyed.erase typeKey pairs).map fun e => (text e.1, e.2) := by
    rw [hfilter fun k => !isTypeKey k]
    exact congrArg _ (List.filter_congr fun e _ => decide_not.symm)
  rw [ofPairs, ofDocument?, hfilter, htype, hothers]
  rfl

theorem faithful : Faithful (ofDocument? true) toValue 2 := by
  intro d a n hstrict hdepth hn h
  obtain _ | n := n
  · cases hn
  obtain ⟨kind, e, he, hedepth, hread⟩ := exists_details_of_ofDocument? hstrict hdepth h
  obtain ⟨hkind, hcanonical, hreads⟩ :=
    restoresDetails he hedepth (Nat.le_of_succ_le_succ hn) hread
  rw [toValue_eq]
  refine ⟨canonical_ofFields ?_, fun {d} hspells => ?_⟩
  · refine List.forall_mem_cons.2 ⟨⟨trivial, trivial, Nat.zero_le n⟩, fun e he => ?_⟩
    obtain ⟨e', he', -, hvalue⟩ := Json.mem_written he
    exact hcanonical e' he' e.2 hvalue
  · obtain ⟨pairs, rfl, hrecord⟩ := exists_pairs_of_spells (nodup_keys_written a) hspells
    have hrel := hrecord.rel typeKey
    rw [written, Keyed.get?, if_pos rfl] at hrel
    cases ht : Keyed.get? typeKey pairs with
    | none => rw [ht] at hrel; cases hrel
    | some t =>
        rw [ht] at hrel
        cases hrel with
        | some htype =>
            rw [ofDocument?_pairs hrecord.nodup ht, show t = _ from htype, kindOf?_name,
              Option.bind_some, hkind]
            exact hreads (hrecord.erase (typeKey_not_mem_details a))

end Action

end LossPrevention
