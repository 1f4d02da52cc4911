import LossPrevention.Proofs.Engine.Run

/-!
What a load puts into force and what it leaves alone. Every definition gets a verdict that hangs on
the ones before it: a policy, or a rejection. Main statement: a load replaces the policies by the
accepted ones in the order of their rank, reports the others, keeps the windows of the ids that
stay and counts on; a directory is loaded as the definitions in its files, and one that cannot be
listed changes nothing.
-/

namespace LossPrevention.Engine

open Time (Instant)

/-! ### Successes and failures of a list of attempts -/

section Attempts

variable {ε α : Type}

def successes (attempts : List (Except ε α)) : List α := attempts.filterMap Except.toOption

def failures (attempts : List (Except ε α)) : List ε :=
  attempts.filterMap fun
    | .ok _ => none
    | .error e => some e

@[simp] theorem successes_ok (a : α) (rest : List (Except ε α)) :
    successes (.ok a :: rest) = a :: successes rest := rfl

@[simp] theorem successes_error (e : ε) (rest : List (Except ε α)) :
    successes (.error e :: rest) = successes rest := rfl

@[simp] theorem failures_ok (a : α) (rest : List (Except ε α)) :
    failures (.ok a :: rest) = failures rest := rfl

@[simp] theorem failures_error (e : ε) (rest : List (Except ε α)) :
    failures (.error e :: rest) = e :: failures rest := rfl

/-- Every attempt is one or the other. -/
theorem length_successes_add_length_failures (attempts : List (Except ε α)) :
    (successes attempts).length + (failures attempts).length = attempts.length := by
  induction attempts with
  | nil => rfl
  | cons a rest ih =>
    cases a with
    | ok a => rw [successes_ok, failures_ok, List.length_cons, List.length_cons]; omega
    | error e => rw [successes_error, failures_error, List.length_cons, List.length_cons]; omega

end Attempts

/-! ### Verdicts -/

/-- What becomes of a definition that stands behind `earlier` ones. -/
def verdict (defaultWindow : Nat) (earlier : List Policy.Definition) (d : Policy.Definition) :
    Except Rejection Policy :=
  if d.id ∈ earlier.map Policy.Definition.id then .error ⟨d.id, .duplicate⟩
  else (Policy.compile defaultWindow d).mapError (fun fault => ⟨d.id, .fault fault⟩)

/-- The verdicts on the definitions of a list, in their order. -/
def verdicts (defaultWindow : Nat) (definitions : List Policy.Definition) :
    List (Except Rejection Policy) :=
  definitions.mapIdx fun i d => verdict defaultWindow (definitions.take i) d

/-- Sifting gives the verdicts on what comes after `earlier`, as long as it has seen the ids of
these. -/
theorem sift_eq {defaultWindow : Nat} {seen : List String} {earlier : List Policy.Definition}
    (h : ∀ id, id ∈ seen ↔ id ∈ earlier.map Policy.Definition.id)
    (definitions : List Policy.Definition) :
    let verdicts := definitions.mapIdx fun i d =>
      verdict defaultWindow (earlier ++ definitions.take i) d
    sift defaultWindow seen definitions = (successes verdicts, failures verdicts) := by
  induction definitions generalizing seen earlier with
  | nil => rfl
  | cons d rest ih =>
    simp only [List.mapIdx_cons, List.take_zero, List.append_nil, List.take_succ_cons]
    have hnext {seen' : List String}
        (h' : ∀ id, id ∈ seen' ↔ id ∈ (earlier ++ [d]).map Policy.Definition.id) :
        sift defaultWindow seen' rest = _ := ih h'
    simp only [List.append_assoc, List.singleton_append] at hnext
    by_cases hd : d.id ∈ seen
    · have hverdict : verdict defaultWindow earlier d = .error ⟨d.id, .duplicate⟩ :=
        if_pos ((h _).1 hd)
      have hseen : ∀ id, id ∈ seen ↔ id ∈ (earlier ++ [d]).map Policy.Definition.id := by
        intro id
        rw [List.map_append, List.mem_append, ← h]
        simpa using fun he => he ▸ hd
      rw [sift, if_pos (by simpa using hd), hnext hseen, hverdict, successes_error,
        failures_error]
    · have hverdict : verdict defaultWindow earlier d =
          (Policy.compile defaultWindow d).mapError (fun fault => ⟨d.id, .fault fault⟩) :=
        if_neg (fun hm => hd ((h _).2 hm))
      have hseen : ∀ id, id ∈ d.id :: seen ↔
          id ∈ (earlier ++ [d]).map Policy.Definition.id := by
        intro id
        rw [List.map_append, List.mem_append, ← h, List.mem_cons, or_comm]
        simp
      rw [sift, if_neg (by simpa using hd), hnext hseen, hverdict]
      cases hc : Policy.compile defaultWindow d with
      | ok policy => rw [Except.mapError, successes_ok, failures_ok]
      | error fault => rw [Except.mapError, successes_error, failures_error]

theorem sift_nil_eq (defaultWindow : Nat) (definitions : List Policy.Definition) :
    sift defaultWindow [] definitions =
      (successes (verdicts defaultWindow definitions),
        failures (verdicts defaultWindow definitions)) := by
  have hseen : ∀ id, id ∈ ([] : List String) ↔
      id ∈ ([] : List Policy.Definition).map Policy.Definition.id := fun _ => Iff.rfl
  exact sift_eq hseen definitions

/-! ### Ranks -/

/-- Ranking is stable: policies of one priority stay in their order. -/
theorem filter_ranked (policies : List Policy) (priority : Int) :
    (ranked policies).filter (fun p => p.priority = priority) =
      policies.filter (fun p => p.priority = priority) := by
  have hequal : (policies.filter (fun p => p.priority = priority)).Pairwise
      (fun a b => decide (b.priority ≤ a.priority) = true) := by
    apply List.pairwise_of_forall_mem_list
    intro a ha b hb
    have hpa : a.priority = priority := of_decide_eq_true (List.mem_filter.1 ha).2
    have hpb : b.priority = priority := of_decide_eq_true (List.mem_filter.1 hb).2
    simp [hpa, hpb]
  have hsub : (policies.filter (fun p => p.priority = priority)).Sublist (ranked policies) := by
    apply List.sublist_mergeSort _ _ hequal List.filter_sublist
    · intro a b c hab hbc
      simp only [decide_eq_true_eq] at *
      omega
    · intro a b
      simp only [Bool.or_eq_true, decide_eq_true_eq]
      omega
  have hfiltered := hsub.filter (fun p => p.priority = priority)
  rw [List.filter_filter] at hfiltered
  simp only [Bool.and_self] at hfiltered
  have hlength := ((ranked_perm policies).filter (fun p => p.priority = priority)).length_eq
  exact (hfiltered.eq_of_length hlength.symm).symm

/-! ### A load -/

/-- What a load of the definitions makes of an engine, with the policies `set` in force after it.
-/
structure Replaces (e : Engine) (definitions : List Policy.Definition) (report : Report)
    (after : Engine) (set : PolicySet) : Prop where
  active : after.active = some set
  accepted : set.policies.Perm (successes (verdicts e.defaultWindow definitions))
  ranked : set.policies.Pairwise (fun a b => b.priority ≤ a.priority)
  stable : ∀ priority : Int, set.policies.filter (fun p => p.priority = priority) =
    (successes (verdicts e.defaultWindow definitions)).filter (fun p => p.priority = priority)
  distinct : (set.policies.map Policy.id).Nodup
  rejected : report.rejected = failures (verdicts e.defaultWindow definitions)
  loaded : report.loaded = set.policies.length
  total : report.loaded + report.rejected.length = definitions.length
  generation : set.generation = e.generation + 1
  reported : report.generation = set.generation
  windows : ∀ id, Keyed.get? id after.tracker.windows =
    if id ∈ set.policies.map Policy.id then Keyed.get? id e.tracker.windows else none
  metrics : after.metrics = { e.metrics with
    policiesRejected := e.metrics.policiesRejected + report.rejected.length }
  limit : after.tracker.limit = e.tracker.limit
  defaultWindow : after.defaultWindow = e.defaultWindow

theorem load_rejected (e : Engine) (definitions : List Policy.Definition) :
    (e.load definitions).1.rejected = failures (verdicts e.defaultWindow definitions) :=
  congrArg Prod.snd (sift_nil_eq e.defaultWindow definitions)

theorem loadedPolicies_eq (defaultWindow : Nat) (definitions : List Policy.Definition) :
    loadedPolicies defaultWindow definitions =
      Engine.ranked (successes (verdicts defaultWindow definitions)) :=
  congrArg Engine.ranked (congrArg Prod.fst (sift_nil_eq defaultWindow definitions))

theorem load_loaded (e : Engine) (definitions : List Policy.Definition) :
    (e.load definitions).1.loaded = (loadedPolicies e.defaultWindow definitions).length := rfl

theorem loaded_add_rejected (e : Engine) (definitions : List Policy.Definition) :
    (e.load definitions).1.loaded + (e.load definitions).1.rejected.length =
      definitions.length := by
  rw [load_rejected, load_loaded, loadedPolicies_eq, (ranked_perm _).length_eq,
    length_successes_add_length_failures, verdicts, List.length_mapIdx]

theorem replaces_load (e : Engine) (definitions : List Policy.Definition) :
    Replaces e definitions (e.load definitions).1 (e.load definitions).2
      ⟨loadedPolicies e.defaultWindow definitions, e.generation + 1⟩ where
  active := load_active e definitions
  accepted := loadedPolicies_eq e.defaultWindow definitions ▸ ranked_perm _
  ranked := ranked_pairwise _
  stable := fun priority => loadedPolicies_eq e.defaultWindow definitions ▸ filter_ranked _ priority
  distinct := nodup_loadedPolicies _ _
  rejected := load_rejected e definitions
  loaded := load_loaded e definitions
  total := loaded_add_rejected e definitions
  generation := rfl
  reported := rfl
  windows := fun id => by
    rw [load_tracker, Tracker.retain, Keyed.get?_filter_keys (fun k => List.contains _ k)]
    simp
  metrics := rfl
  limit := rfl
  defaultWindow := rfl

/-! ### A load of a directory -/

def isFile : Policy.Item → Bool
  | .directory => false
  | .file _ | .unreadable _ => true

/-- The files of a directory that may hold a policy. -/
def policyFiles (items : List (String × Policy.Item)) : List (String × Policy.Item) :=
  items.filter fun i => Policy.isPolicyFile i.1 && isFile i.2

/-- The policy in a file. -/
def contents : String × Policy.Item → Except Rejection Policy.Definition
  | (name, .file content) =>
      (Policy.readFile name content).mapError (fun fault => ⟨name, .file fault⟩)
  | (name, .unreadable error) => .error ⟨name, .file (.unreadable error)⟩
  | (name, .directory) => .error ⟨name, .file (.unreadable "is a directory")⟩

theorem readFiles_eq {files : List (String × Policy.Item)}
    (h : ∀ f ∈ files, Policy.isPolicyFile f.1 = true) :
    (Policy.readFiles files).1 = successes ((policyFiles files).map contents) ∧
      (Policy.readFiles files).2.map (fun f => (⟨f.name, .file f.fault⟩ : Rejection)) =
        failures ((policyFiles files).map contents) := by
  induction files with
  | nil => exact ⟨rfl, rfl⟩
  | cons file rest ih =>
    obtain ⟨name, item⟩ := file
    have hname : Policy.isPolicyFile name = true := h _ List.mem_cons_self
    have hrest := ih (fun f hf => h f (List.mem_cons_of_mem _ hf))
    unfold policyFiles at hrest ⊢
    cases item with
    | directory =>
      rw [List.filter_cons_of_neg (by simp [isFile])]
      exact hrest
    | unreadable error =>
      rw [List.filter_cons_of_pos (by simpa [isFile] using hname), List.map_cons, contents]
      simpa [Policy.readFiles] using hrest
    | file content =>
      rw [List.filter_cons_of_pos (by simpa [isFile] using hname), List.map_cons, contents]
      cases hread : Policy.readFile name content <;>
        simpa [Policy.readFiles, hread, Except.mapError] using hrest

/-- The files of a directory in the order in which they are read. -/
def orderedFiles (items : List (String × Policy.Item)) : List (String × Policy.Item) :=
  policyFiles (Keyed.ofList (items.filter (fun i => Policy.isPolicyFile i.1)))

section Directory

variable {items : List (String × Policy.Item)} (h : (Keyed.keys items).Nodup)

include h

theorem ofList_named_perm :
    (Keyed.ofList (items.filter (fun i => Policy.isPolicyFile i.1))).Perm
      (items.filter (fun i => Policy.isPolicyFile i.1)) :=
  Keyed.ofList_perm (h.sublist (List.filter_sublist.map _))

theorem readDirectory_eq :
    (Policy.readDirectory items).1 = successes ((orderedFiles items).map contents) ∧
      (Policy.readDirectory items).2.map
          (fun f => (⟨f.name, .file f.fault⟩ : Rejection)) =
        failures ((orderedFiles items).map contents) := by
  apply readFiles_eq
  intro f hf
  exact (List.mem_filter.1 ((ofList_named_perm h).mem_iff.1 hf)).2

theorem orderedFiles_perm : (orderedFiles items).Perm (policyFiles items) := by
  have hperm := (ofList_named_perm h).filter (fun i => Policy.isPolicyFile i.1 && isFile i.2)
  have hsame : (items.filter (fun i => Policy.isPolicyFile i.1)).filter
      (fun i => Policy.isPolicyFile i.1 && isFile i.2) = policyFiles items := by
    rw [List.filter_filter, policyFiles]
    apply List.filter_congr
    intro i _
    cases Policy.isPolicyFile i.1 <;> simp
  exact hsame ▸ hperm

end Directory

theorem orderedFiles_ascending (items : List (String × Policy.Item)) :
    Keyed.Ascending (orderedFiles items) :=
  (Keyed.ascending_ofList _).sublist List.filter_sublist

/-- What a load of a directory makes of an engine: a load of the definitions in its policy files,
in the order of their names, and a report on the files without one behind that. -/
structure ReplacesFrom (e : Engine) (items files : List (String × Policy.Item))
    (report : Report) (after : Engine) : Prop where
  perm : files.Perm (policyFiles items)
  ascending : Keyed.Ascending files
  reported : report = { (e.load (successes (files.map contents))).1 with
    rejected := (e.load (successes (files.map contents))).1.rejected ++
      failures (files.map contents) }
  after_eq : after = { (e.load (successes (files.map contents))).2 with
    metrics := { e.metrics with
      policiesRejected := e.metrics.policiesRejected + report.rejected.length } }
  total : report.loaded + report.rejected.length = (policyFiles items).length

theorem replacesFrom_loadDirectory (e : Engine) {items : List (String × Policy.Item)}
    (h : (Keyed.keys items).Nodup) :
    ReplacesFrom e items (orderedFiles items) (e.loadDirectory items).1
      (e.loadDirectory items).2 := by
  obtain ⟨hdefinitions, hunreadable⟩ := readDirectory_eq h
  have hreport : (e.loadDirectory items).1 =
      { (e.load (successes ((orderedFiles items).map contents))).1 with
        rejected := (e.load (successes ((orderedFiles items).map contents))).1.rejected ++
          failures ((orderedFiles items).map contents) } := by
    rw [← hdefinitions, ← hunreadable]
    rfl
  have hcount : (Policy.readDirectory items).2.length =
      (failures ((orderedFiles items).map contents)).length := by
    rw [← hunreadable, List.length_map]
  exact {
    perm := orderedFiles_perm h
    ascending := orderedFiles_ascending items
    reported := hreport
    after_eq := by
      have hmetrics : (e.loadDirectory items).2.metrics = { e.metrics with
          policiesRejected := e.metrics.policiesRejected +
            (e.load (Policy.readDirectory items).1).1.rejected.length +
              (Policy.readDirectory items).2.length } := rfl
      rw [hcount, hdefinitions, Nat.add_assoc, ← List.length_append] at hmetrics
      rw [hreport]
      dsimp only
      rw [← hmetrics, ← hdefinitions]
      rfl
    total := by
      have htotal := loaded_add_rejected e (successes ((orderedFiles items).map contents))
      rw [hreport]
      dsimp only
      rw [List.length_append, ← Nat.add_assoc, htotal, length_successes_add_length_failures,
        List.length_map, (orderedFiles_perm h).length_eq] }

/-! ### Loads in a run -/

theorem generation_step (s : Clocked) (x : Step) :
    (s.step x).2.engine.generation = s.engine.generation + x.loads?.toList.length := by
  cases hx : x.loads? with
  | some definitions =>
    rw [Engine.generation, (Clocked.step_of_loads s hx).1, load_active]
    rfl
  | none =>
    rw [Engine.generation, Clocked.active_step_of_loads_none s hx]
    rfl

theorem generation_run (s : Clocked) (steps : List Step) :
    (s.run steps).engine.generation =
      s.engine.generation + (steps.filterMap Step.loads?).length := by
  induction steps generalizing s with
  | nil => rfl
  | cons x rest ih =>
    rw [Clocked.run_cons, ih, generation_step, List.filterMap_cons]
    cases x.loads? with
    | none => rfl
    | some definitions =>
      rw [Option.toList_some, List.length_singleton, List.length_cons]
      omega

/-- Loads of lists, of directories and of directories that cannot be listed, from any state of an
engine, and how many there have been in a run. -/
theorem load_replaces (e : Engine) (definitions : List Policy.Definition)
    (items : List (String × Policy.Item)) (hnames : (Keyed.keys items).Nodup) :
    (∃ set, Replaces e definitions (e.load definitions).1 (e.load definitions).2 set) ∧
      (∃ files report after, e.loadListing (.ok items) = (.ok report, after) ∧
        ReplacesFrom e items files report after) ∧
      (∀ error, e.loadListing (.error error) = (.error ⟨.io, error⟩, e)) ∧
      (∀ config start steps, ((Clocked.fresh config start).run steps).engine.generation =
        (steps.filterMap Step.loads?).length) := by
  refine ⟨⟨_, replaces_load e definitions⟩,
    ⟨_, _, _, rfl, replacesFrom_loadDirectory e hnames⟩, fun _ => rfl, ?_⟩
  intro config start steps
  rw [generation_run]
  exact Nat.zero_add _

/-- Two files of policies, neither of which holds one, and a file of another kind. -/
theorem load_replaces_broken_files :
    let items : List (String × Policy.Item) :=
      [("b.yml", .unreadable "no text"), ("a.json", .file "{}"), ("notes.txt", .file "")]
    (Keyed.keys items).Nodup ∧
      ∃ files report after, (ofConfig {}).loadListing (.ok items) = (.ok report, after) ∧
        ReplacesFrom (ofConfig {}) items files report after ∧
        report.loaded + report.rejected.length = 2 := by
  intro items
  have hnames : (Keyed.keys items).Nodup := by decide
  obtain ⟨-, ⟨files, report, after, hload, hfrom⟩, -, -⟩ :=
    load_replaces (ofConfig {}) [] items hnames
  refine ⟨hnames, files, report, after, hload, hfrom, ?_⟩
  have hcount : (policyFiles items).length = 2 := by decide
  rw [hfrom.total, hcount]

end LossPrevention.Engine
