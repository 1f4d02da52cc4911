import LossPrevention.Proofs.Enforcement.Outcome
import LossPrevention.Proofs.Json.Fields
import LossPrevention.Proofs.Processor.Frame

/-!
What a processed event says of the decision on it. Everything that the decision has to say is
written, but a field in which it has nothing to say stays as the event brought it.
-/

namespace LossPrevention.Processor

open Enforcement (Alert Outcome)
open Json (Value writtenField textField_eq map_toList_eq keys_written_sublist get?_written)
open Policy (Match)
open Time (Instant)

variable {σ : Type}

/-- The fields that are there just if the decision has something to say in them. -/
def optionalKeys : List String :=
  ["policy", "policies_matched", "policy_evaluated_at", "block_reason", "quarantine_path",
    "quarantine_reason", "alert", "notifications", "action_failures"]

def decisionKeys : List String := "blocked" :: "quarantined" :: optionalKeys

/-- Whether a decision has something to say in a field. -/
def speaks (matched : List Match) (outcome : Outcome) : String → Bool
  | "policy" | "policies_matched" | "policy_evaluated_at" => !matched.isEmpty
  | "block_reason" => outcome.blocked
  | "quarantine_path" | "quarantine_reason" => outcome.quarantined
  | "alert" => !outcome.alerts.isEmpty
  | "notifications" => !outcome.notifications.isEmpty
  | "action_failures" => !outcome.failures.isEmpty
  | _ => true

def listOrNothing {α : Type} (encode : α → Value) (items : List α) : Option Value :=
  if items.isEmpty then none else some (.list (items.map encode))

/-- What there is to say of a decision, field by field. -/
def statement (now : Instant) (matched : List Match) (outcome : Outcome) :
    List (String × Option Value) :=
  [("blocked", some (.bool outcome.blocked)),
    ("quarantined", some (.bool outcome.quarantined)),
    ("policy", matched.head?.map Match.toValue),
    ("policies_matched", listOrNothing Match.toValue matched),
    ("policy_evaluated_at", matched.head?.map fun _ => .text now.text),
    ("block_reason", outcome.blockReason.map .text),
    ("quarantine_path", outcome.quarantinePath.map .text),
    ("quarantine_reason", outcome.quarantineReason.map .text),
    ("alert", outcome.alerts.head?.map Alert.toValue),
    ("notifications", listOrNothing (·.toValue) outcome.notifications),
    ("action_failures", listOrNothing (·.toValue) outcome.failures)]

/-- Fields that say of a decision what there is to say, and nothing else. -/
structure Describes (now : Instant) (matched : List Match) (outcome : Outcome)
    (field? : String → Option Value) : Prop where
  exact : ∀ e ∈ statement now matched outcome, field? e.1 = e.2
  present : ∀ key ∈ optionalKeys, (field? key).isSome = speaks matched outcome key
  silent : matched = [] → ∀ key ∈ optionalKeys, field? key = none

/-! ### What is written -/

theorem listField_eq {α : Type} (key : String) (encode : α → Value) (items : List α) :
    listField key (items.map encode) = writtenField (key, listOrNothing encode items) := by
  cases items <;> rfl

theorem decisionFields_eq (now : Instant) {matched : List Match} {outcome : Outcome}
    (hempty : matched = [] → outcome = {}) :
    decisionFields now matched outcome =
      (statement now matched outcome).flatMap writtenField := by
  cases matched with
  | nil =>
      cases hempty rfl
      rfl
  | cons primary rest =>
      simp only [decisionFields, textField_eq, listField_eq, map_toList_eq, List.append_assoc]
      simp only [statement, List.flatMap_cons, List.flatMap_nil, List.append_nil]
      rfl

theorem get?_setFields_of_nodup {fields : List (String × Value)} (h : (Keyed.keys fields).Nodup)
    (key : String) (event : Value) :
    (setFields fields event).get? key = (Keyed.get? key fields).or (event.get? key) := by
  induction fields generalizing event with
  | nil => rfl
  | cons f rest ih =>
      obtain ⟨k, v⟩ := f
      obtain ⟨hnew, hrest⟩ := List.nodup_cons.1 h
      rw [setFields, List.foldl_cons, ← setFields, ih hrest, Keyed.get?]
      by_cases hk : k = key
      · subst hk
        rw [Keyed.get?_eq_none_iff.2 hnew, get?_setField_self, if_pos rfl]
        rfl
      · rw [get?_setField_of_ne (Ne.symm hk), if_neg hk]

/-! ### What a decision says -/

section Statement

variable {now : Instant} {matched : List Match} {outcome : Outcome}

theorem keys_statement (now : Instant) (matched : List Match) (outcome : Outcome) :
    Keyed.keys (statement now matched outcome) = decisionKeys := rfl

theorem isSome_listOrNothing {α : Type} (encode : α → Value) (items : List α) :
    (listOrNothing encode items).isSome = !items.isEmpty := by
  cases items <;> rfl

theorem isSome_statement (hcoherent : outcome.Coherent) :
    ∀ e ∈ statement now matched outcome, e.2.isSome = speaks matched outcome e.1 := by
  have hhead {α : Type} (items : List α) : items.head?.isSome = !items.isEmpty := by
    cases items <;> rfl
  simp only [statement, List.forall_mem_cons, Option.isSome_map, isSome_listOrNothing, hhead,
    hcoherent.block, hcoherent.path, hcoherent.reason]
  exact ⟨rfl, rfl, rfl, rfl, rfl, rfl, rfl, rfl, rfl, rfl, rfl, nofun⟩

/-- Of both decisions something is said always. -/
theorem mem_optionalKeys {key : String} (h : key ∈ decisionKeys)
    (hsilent : speaks matched outcome key = false) : key ∈ optionalKeys := by
  rcases List.mem_cons.1 h with rfl | h
  · cases hsilent
  rcases List.mem_cons.1 h with rfl | h
  · cases hsilent
  · exact h

theorem exists_mem_statement {key : String} (h : key ∈ decisionKeys) :
    ∃ value, (key, value) ∈ statement now matched outcome := by
  rw [← keys_statement now matched outcome] at h
  obtain ⟨⟨k, value⟩, he, rfl⟩ := List.mem_map.1 h
  exact ⟨value, he⟩

theorem describes_iff (hcoherent : outcome.Coherent) (hempty : matched = [] → outcome = {})
    {field? : String → Option Value} :
    Describes now matched outcome field? ↔
      ∀ e ∈ statement now matched outcome, field? e.1 = e.2 := by
  refine ⟨Describes.exact, fun h => ?_⟩
  have hpresent : ∀ key ∈ optionalKeys, (field? key).isSome = speaks matched outcome key := by
    intro key hkey
    obtain ⟨value, he⟩ : ∃ value, (key, value) ∈ statement now matched outcome :=
      exists_mem_statement (List.mem_cons_of_mem _ (List.mem_cons_of_mem _ hkey))
    rw [h _ he]
    exact isSome_statement hcoherent _ he
  refine ⟨h, hpresent, fun hnil key hkey => ?_⟩
  have hsilent : ∀ key ∈ optionalKeys, speaks [] {} key = false := by decide
  have hkey' := hpresent key hkey
  rw [hempty hnil, hnil, hsilent key hkey] at hkey'
  exact Option.isNone_iff_eq_none.1 (by rw [← Option.not_isSome, hkey']; rfl)

end Statement

/-! ### The completed event -/

section Completed

variable {p : Processor σ} {occasion : Occasion} {event : Value} {set : Engine.PolicySet}

theorem coherent_enforced : (p.enforced occasion event set).1.Coherent :=
  Enforcement.coherent_enforce _ _ _ _

theorem enforced_of_not_found (h : p.found occasion event set = []) :
    (p.enforced occasion event set).1 = {} := by
  rw [enforced, h]
  rfl

theorem get?_completed {key : String} (hcontent : p.contentField.first ≠ key)
    (hkey : key ≠ redactedKey) :
    (p.completed occasion event set).event.get? key =
      (p.decided occasion event set).get? key := by
  have htop (v : Value) : (FieldPath.top key).resolve v = v.get? key := by
    rw [FieldPath.resolve, FieldPath.segments, FieldPath.top, FieldPath.resolveAt]
    cases v.get? key <;> rfl
  have happart : (FieldPath.top key).Apart p.contentField :=
    (FieldPath.apart_top_iff.2 hcontent).symm
  rcases completed_cases p occasion event set with heq | ⟨-, -, heq⟩
  · rw [heq]
  · rw [heq, ← htop, resolve_redact_of_apart happart hkey, htop]

theorem get?_decided_of_mem {e : String × Option Value}
    (he : e ∈ statement occasion.now (p.found occasion event set)
      (p.enforced occasion event set).1) :
    (p.decided occasion event set).get? e.1 = e.2.or ((p.seen occasion event).get? e.1) := by
  have hfields := decisionFields_eq occasion.now
    (@enforced_of_not_found _ p occasion event set)
  have hkeys : (Keyed.keys (statement occasion.now (p.found occasion event set)
      (p.enforced occasion event set).1)).Nodup := by
    rw [keys_statement]
    decide
  rw [decided, get?_setFields_of_nodup, hfields, get?_written hkeys he]
  rw [hfields]
  exact hkeys.sublist (keys_written_sublist _)

/-- Before the decision is written its optional fields are those that the event brought. -/
theorem get?_seen {key : String} (h : key ∈ optionalKeys) :
    (p.seen occasion event).get? key = event.get? key := by
  have hothers : ∀ key ∈ optionalKeys, key ≠ "classification" ∧ key ≠ "event" ∧
      key ≠ "blocked" ∧ key ≠ "quarantined" := by decide
  obtain ⟨hclass, hevent, hblocked, hquarantined⟩ := hothers key h
  rw [← Event.get?_normalize_of_ne hevent hblocked hquarantined event, seen]
  cases p.verdict occasion event with
  | none => rfl
  | some c => exact get?_setField_of_ne hclass _ _

theorem get?_completed_of_mem (hfield : p.contentField.first ∉ decisionKeys)
    {e : String × Option Value}
    (he : e ∈ statement occasion.now (p.found occasion event set)
      (p.enforced occasion event set).1) :
    (p.completed occasion event set).event.get? e.1 = e.2.or (event.get? e.1) := by
  have hkey : e.1 ∈ decisionKeys := List.mem_map_of_mem he
  have hcontent : p.contentField.first ≠ e.1 := fun heq => hfield (heq ▸ hkey)
  have hredacted : ∀ key ∈ decisionKeys, key ≠ redactedKey := by decide
  rw [get?_completed hcontent (hredacted _ hkey), get?_decided_of_mem he]
  cases hvalue : e.2 with
  | some v => rfl
  | none =>
      have hsilent := isSome_statement coherent_enforced e he
      rw [hvalue] at hsilent
      rw [Option.none_or, Option.none_or, get?_seen (mem_optionalKeys hkey hsilent.symm)]

end Completed

/-- What a decision has to say is written, and where it has nothing to say a field stays as the
event brought it. So the fields describe the decision just if the event brought none of those in
which there is nothing to say. -/
theorem decision_written {p p' : Processor σ} {occasion : Occasion} {event : Value}
    {processed : Processed} (hfield : p.contentField.first ∉ decisionKeys)
    (h : p.process occasion event = (.ok processed, p')) :
    (∀ e ∈ statement occasion.now processed.matched processed.outcome,
      processed.event.get? e.1 = e.2.or (event.get? e.1)) ∧
    (Describes occasion.now processed.matched processed.outcome (processed.event.get? ·) ↔
      ∀ key ∈ optionalKeys, speaks processed.matched processed.outcome key = false →
        event.get? key = none) := by
  rcases process_cases p occasion event with ⟨fault, -, hp⟩ | ⟨-, -, hp⟩ | ⟨-, set, -, hp⟩
  · cases h.symm.trans hp
  · cases h.symm.trans hp
  · cases h.symm.trans hp
    have hsays := @isSome_statement occasion.now (p.found occasion event set) _
      (@coherent_enforced _ p occasion event set)
    refine ⟨fun e => get?_completed_of_mem hfield,
      (describes_iff coherent_enforced enforced_of_not_found).trans ⟨?_, ?_⟩⟩
    · intro hexact key hkey hsilent
      obtain ⟨value, he⟩ : ∃ value, (key, value) ∈ statement occasion.now
          (p.found occasion event set) (p.enforced occasion event set).1 :=
        exists_mem_statement (List.mem_cons_of_mem _ (List.mem_cons_of_mem _ hkey))
      have hnone : value = none := by
        rw [← Option.isNone_iff_eq_none, ← Option.not_isSome, hsays _ he]
        exact congrArg not hsilent
      have hsame := (get?_completed_of_mem hfield he).symm.trans (hexact _ he)
      rwa [hnone, Option.none_or] at hsame
    · intro hfresh e he
      refine (get?_completed_of_mem hfield he).trans ?_
      cases hvalue : e.2 with
      | some v => rfl
      | none =>
          have hsilent := hsays e he
          rw [hvalue] at hsilent
          rw [Option.none_or,
            hfresh _ (mem_optionalKeys (List.mem_map_of_mem he) hsilent.symm) hsilent.symm]

/-! ### Events that were processed before -/

/-- A processor with no policies in the set that is in force. -/
def idle : Processor Unit := { redacting with config := {} }

def brought (fields : Json.Fields) : Value :=
  .ofFields (("event", .object [("severity", .text "low"), ("type", .text "chat")]) :: fields)

/-- A decision that an event brings is overwritten, in an optional field it would stay. -/
theorem decision_written_anew :
    ∃ processed p', idle.process someTime (brought [("blocked", .text "yes")]) =
        (.ok processed, p') ∧
      processed.event.get? "blocked" = some (.bool false) ∧
      Describes someTime.now processed.matched processed.outcome (processed.event.get? ·) := by
  have hp : idle.process someTime (brought [("blocked", .text "yes")]) =
      (.ok (idle.completed someTime (brought [("blocked", .text "yes")]) ⟨[], 1⟩),
        idle.after someTime (brought [("blocked", .text "yes")]) ⟨[], 1⟩) :=
    process_of_loaded rfl rfl
  obtain ⟨hwritten, hiff⟩ := decision_written (by decide) hp
  have hfresh : ∀ key ∈ optionalKeys, (brought [("blocked", .text "yes")]).get? key = none := by
    decide
  exact ⟨_, _, hp, hwritten _ List.mem_cons_self, hiff.2 (fun key hkey _ => hfresh key hkey)⟩

/-- Nothing matches an event, and still it leaves with the policy that it brought. -/
theorem brought_policy_stays :
    ∃ processed p', idle.contentField.first ∉ decisionKeys ∧
      idle.process someTime (brought [("policy", .text "card")]) = (.ok processed, p') ∧
      processed.matched = [] ∧ processed.event.get? "policy" = some (.text "card") ∧
      ¬ Describes someTime.now processed.matched processed.outcome (processed.event.get? ·) := by
  have hp : idle.process someTime (brought [("policy", .text "card")]) =
      (.ok (idle.completed someTime (brought [("policy", .text "card")]) ⟨[], 1⟩),
        idle.after someTime (brought [("policy", .text "card")]) ⟨[], 1⟩) :=
    process_of_loaded rfl rfl
  have hpolicy : (idle.completed someTime (brought [("policy", .text "card")]) ⟨[], 1⟩).event.get?
      "policy" = some (.text "card") := by
    rw [get?_completed (by decide) (by decide),
      get?_decided_of_mem (e := ("policy", none)) (by decide), Option.none_or,
      get?_seen (by decide)]
    rfl
  refine ⟨_, _, by decide, hp, rfl, hpolicy, fun hdescribes => ?_⟩
  have hnone := hdescribes.silent rfl "policy" (by decide)
  exact absurd (hpolicy.symm.trans hnone) nofun

end LossPrevention.Processor
