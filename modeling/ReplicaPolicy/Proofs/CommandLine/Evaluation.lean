import ReplicaPolicy.CommandLine.Run
import ReplicaPolicy.Proofs.Config.Requirement

set_option relaxedAutoImplicit false
set_option autoImplicit false

/-!
# Evaluations

The decisions that a call asks for rest on a time, on the definition of a stack in a file, on an
inventory in a file, on the stack that is built and on the replicas that are selected. Together they
are an evaluation. A call leads to decisions exactly when it has one, and then these are what its
stack decides about its replicas.

## Main definitions

* `ReplicaPolicy.StackConfig.IsWrittenIn`, `ReplicaPolicy.Inventory.IsWrittenIn` — what a file
  writes.
* `ReplicaPolicy.CommandLine.Evaluation` — all that decisions rest on.
* `ReplicaPolicy.CommandLine.Compilation` — all that a stack rests on.

## Main results

* `ReplicaPolicy.CommandLine.decisions_eq_ok_iff` — a call leads to the decisions of its evaluation.
* `ReplicaPolicy.CommandLine.stackAt_eq_ok_iff` — a call leads to the stack of its compilation.
-/

namespace ReplicaPolicy

/-! ## Files -/

/-- A file writes the definition of a stack: it can be read, its text is TOML, the document is a
definition, and the definition is sound. Paths of list files are taken from its directory. -/
def StackConfig.IsWrittenIn (c : StackConfig) (files : Files) (path : String) : Prop :=
  ∃ text table written, files path = some text ∧ Toml.read? text = some table ∧
    ofNode? .toml (.ofToml table) = some written ∧ written.check = .ok () ∧
    c = { written with directory := Path.parent path }

/-- A file writes an inventory: it can be read, and its text is a document that tells one. -/
def Inventory.IsWrittenIn (inv : Inventory) (files : Files) (path : String) : Prop :=
  ∃ text document, files path = some text ∧ Json.read? text = some document ∧
    ofJson? document = some inv

/-- A text writes a definition if its document is one and it is sound. -/
lemma StackConfig.ofText_eq_ok_iff {text : String} {c : StackConfig} :
    ofText text = .ok c ↔
      ∃ table, Toml.read? text = some table ∧ ofNode? .toml (.ofToml table) = some c ∧
        c.check = .ok () := by
  have hread : ((Toml.read? text).bind fun table => ofNode? .toml (.ofToml table)) = some c ↔
      ∃ table, Toml.read? text = some table ∧ ofNode? .toml (.ofToml table) = some c :=
    Option.bind_eq_some_iff
  simp only [← and_assoc, exists_and_right, ← hread]
  unfold ofText
  cases (Toml.read? text).bind fun table => ofNode? .toml (.ofToml table) with
  | none => simp
  | some written =>
    rw [Option.some.injEq]
    dsimp only
    constructor
    · intro h
      cases hcheck : written.check with
      | error reason => simp [hcheck] at h
      | ok u =>
        obtain rfl : written = c := by simpa [hcheck] using h
        exact ⟨rfl, hcheck⟩
    · rintro ⟨rfl, hcheck⟩
      rw [hcheck]

/-- The definition in a file is what the file writes. -/
lemma StackConfig.ofFile_eq_ok_iff {files : Files} {path : String} {c : StackConfig} :
    ofFile files path = .ok c ↔ c.IsWrittenIn files path := by
  unfold ofFile IsWrittenIn
  cases files path with
  | none => simp
  | some text =>
    rw [except_map_eq_ok_iff]
    constructor
    · rintro ⟨written, hwritten, rfl⟩
      obtain ⟨table, htable, hnode, hcheck⟩ := ofText_eq_ok_iff.1 hwritten
      exact ⟨text, table, written, rfl, htable, hnode, hcheck, rfl⟩
    · rintro ⟨_, table, written, htext, htable, hnode, hcheck, rfl⟩
      obtain rfl := Option.some.inj htext
      exact ⟨written, ofText_eq_ok_iff.2 ⟨table, htable, hnode, hcheck⟩, rfl⟩

/-- The inventory in a file is what the file writes. -/
lemma Inventory.ofFile_eq_ok_iff {files : Files} {path : String} {inv : Inventory} :
    ofFile files path = .ok inv ↔ inv.IsWrittenIn files path := by
  have htext (text : String) :
      ofText text = .ok inv ↔ (Json.read? text).bind ofJson? = some inv := by
    unfold ofText
    cases (Json.read? text).bind ofJson? <;> simp
  unfold ofFile IsWrittenIn
  cases files path with
  | none => simp
  | some text =>
    dsimp only
    rw [htext, Option.bind_eq_some_iff]
    simp

namespace CommandLine

/-! ## Times -/

/-- The time that a call is about: the present, unless it tells one. -/
inductive IsAbout (present : Instant) : Option String → Instant → Prop
  /-- No time is told. -/
  | present : IsAbout present none present
  /-- A time is told. -/
  | told {text : String} {t : Instant} (h : Instant.read? text = some t) :
    IsAbout present (some text) t

lemma referenceTime_eq_ok_iff {present t : Instant} {now : Option String} :
    referenceTime present now = .ok t ↔ IsAbout present now t := by
  cases now with
  | none =>
    constructor
    · intro h
      obtain rfl := Except.ok.inj h
      exact .present
    · rintro ⟨⟩
      rfl
  | some text =>
    rw [referenceTime]
    constructor
    · intro h
      cases hread : Instant.read? text with
      | none => simp [hread] at h
      | some t' =>
        obtain rfl : t' = t := by simpa [hread] using h
        exact .told hread
    · rintro (_ | hread)
      rw [hread]

/-! ## Evaluations -/

/-- All that the decisions of a call rest on. -/
structure Evaluation (files : Files) (present : Instant) (stack inventory : String)
    (partition now : Option String) where
  /-- The time from which ages are counted back. -/
  time : Instant
  /-- The definition of the stack. -/
  config : StackConfig
  /-- The inventory. -/
  inv : Inventory
  /-- The stack, which is built from the definition in the partition of the call. -/
  built : PolicyStack
  /-- The replicas that are decided. -/
  selected : List (View × Demand)
  isAbout_time : IsAbout present now time
  isWrittenIn_stack : config.IsWrittenIn files stack
  isWrittenIn_inventory : inv.IsWrittenIn files inventory
  build_eq : StackConfig.build files time
    { config with partition := partition <|> config.partition } = .ok built
  selects : StackConfig.Selects { config with partition := partition <|> config.partition } inv
    selected

variable {files : Files} {present : Instant} {stack inventory : String}
  {partition now : Option String}

/-- What the stack decides about the replicas, in order: its verdict on each, without the name of
the rule that took it. -/
def Evaluation.decided (e : Evaluation files present stack inventory partition now) :
    List ReplicaDecision :=
  e.selected.map fun (v, demand) =>
    let verdict := e.built.evaluate v demand
    ⟨⟨v.site.name, v.dataset.name⟩, verdict.decision, verdict.reason⟩

/-- **A call leads to decisions exactly when it has an evaluation**, and to those of its
evaluation. -/
theorem decisions_eq_ok_iff {decided : List ReplicaDecision} :
    decisions files present stack inventory partition now = .ok decided ↔
      ∃ e : Evaluation files present stack inventory partition now, e.decided = decided := by
  rw [decisions]
  simp only [except_bind_eq_ok_iff, referenceTime_eq_ok_iff, StackConfig.ofFile_eq_ok_iff,
    Inventory.ofFile_eq_ok_iff, StackConfig.evaluate_eq_ok_iff_selects]
  constructor
  · rintro ⟨time, htime, config, hconfig, inv, hinv, built, selected, hbuilt, hselects, rfl⟩
    exact ⟨⟨time, config, inv, built, selected, htime, hconfig, hinv, hbuilt, hselects⟩, rfl⟩
  · rintro ⟨e, rfl⟩
    exact ⟨_, e.isAbout_time, _, e.isWrittenIn_stack, _, e.isWrittenIn_inventory, _, _, e.build_eq,
      e.selects, rfl⟩

/-- All that a stack rests on that a call asks for. -/
structure Compilation (files : Files) (present : Instant) (stack : String) where
  /-- The definition. -/
  config : StackConfig
  /-- The stack that is built from it. -/
  built : PolicyStack
  isWrittenIn_stack : config.IsWrittenIn files stack
  build_eq : config.build files present = .ok built

/-- A call leads to a stack exactly when it has a compilation, and to that of its compilation. -/
theorem stackAt_eq_ok_iff {s : PolicyStack} :
    stackAt files present stack = .ok s ↔ ∃ c : Compilation files present stack, c.built = s := by
  rw [stackAt]
  simp only [except_bind_eq_ok_iff, StackConfig.ofFile_eq_ok_iff]
  constructor
  · rintro ⟨config, hconfig, hbuilt⟩
    exact ⟨⟨config, s, hconfig, hbuilt⟩, rfl⟩
  · rintro ⟨c, rfl⟩
    exact ⟨_, c.isWrittenIn_stack, c.build_eq⟩

end CommandLine

end ReplicaPolicy
