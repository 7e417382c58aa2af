import Mathlib.Tactic.Lemma
import ReplicaPolicy.CommandLine.Arguments

set_option relaxedAutoImplicit false
set_option autoImplicit false

/-!
# Options

Options may come in any order. So arguments that do not give an option mean the same where it has
been given before them, and give it besides. The option that asks for documents can be put before
any arguments that ask for decisions as texts. With the values of options behind equals signs, every
command whose paths are not empty can be asked for.

## Main definitions

* `ReplicaPolicy.CommandLine.Command.arguments` — the arguments that write a command.

## Main results

* `ReplicaPolicy.CommandLine.scan_append_given` — an option given before is given besides.
* `ReplicaPolicy.CommandLine.Request.ofArguments_json` — the same decisions are asked for as
  documents.
* `ReplicaPolicy.CommandLine.Request.ofArguments_arguments` — every command is what its arguments
  ask for.
-/

namespace ReplicaPolicy.CommandLine

variable {specs : List OptionSpec} {given g : Given}

/-- An option that is not given in the end is another than one that is given on the way. -/
lemma ne_of_suffix {name value : String} {e : String × String}
    (hsuffix : (name, value) :: given <:+ g) (hnew : g.lookup e.1 = none) : e.1 ≠ name := by
  rintro rfl
  obtain ⟨later, rfl⟩ := hsuffix
  simp [List.lookup_append] at hnew

/-- An option that is given on the way is accepted as well where another option is given besides
that is not given in the end. -/
lemma accepts_append {name attached value : String} {spec : OptionSpec} {e : String × String}
    (hspec : specs.find? (fun spec => spec.name == name) = some spec)
    (hsuffix : (name, attached) :: given <:+ g) (hnew : g.lookup e.1 = none)
    (h : accepts given spec value = true) : accepts (given ++ [e]) spec value = true := by
  have hname : spec.name = name := by
    simpa using List.find?_some hspec
  have hlookup : [e].lookup spec.name = none := by
    simpa [hname] using (ne_of_suffix hsuffix hnew).symm
  rwa [accepts, List.lookup_append, hlookup, Option.or_none]

/-- **An option that some arguments do not give is given besides where it was given before them.**

**Proof sketch.** Induction on the arguments. An option that is read stays given to the end, so it
is not the one that was given before, and it is accepted as without that one. -/
theorem scan_append_given {arguments : List String} {e : String × String}
    (h : scan specs given arguments = .given g) (hnew : g.lookup e.1 = none) :
    given <:+ g ∧ scan specs (given ++ [e]) arguments = .given (g ++ [e]) := by
  fun_induction scan specs given arguments with
  | case1 given =>
    obtain rfl := Scan.given.inj h
    exact ⟨List.suffix_refl _, by rw [scan]⟩
  | case2 given argument rest hend hlast =>
    obtain rfl := Scan.given.inj h
    refine ⟨List.suffix_refl _, ?_⟩
    rw [scan]
    simp [hend, hlast]
  | case7 given argument cs hcs hargument name hhelp spec hspec rest hkind haccepts hsplit ih =>
    obtain ⟨hsuffix, hscan⟩ := ih h
    have hadmits := accepts_append hspec hsuffix hnew haccepts
    refine ⟨(List.suffix_cons _ _).trans hsuffix, ?_⟩
    rw [scan]
    simpa [hargument, hsplit, hhelp, hspec, hkind, hadmits] using hscan
  | case10 given argument cs hcs hargument name hhelp spec hspec value rest hkind haccepts hsplit
      ih =>
    obtain ⟨hsuffix, hscan⟩ := ih h
    have hadmits := accepts_append hspec hsuffix hnew haccepts
    refine ⟨(List.suffix_cons _ _).trans hsuffix, ?_⟩
    rw [scan]
    simpa [hargument, hsplit, hhelp, hspec, hkind, hadmits] using hscan
  | case12 given argument cs hcs hargument name hhelp spec hspec value rest hkind haccepts hsplit
      ih =>
    obtain ⟨hsuffix, hscan⟩ := ih h
    obtain ⟨hvalue, haccepts⟩ := Bool.and_eq_true_iff.1 haccepts
    have hadmits := accepts_append hspec hsuffix hnew haccepts
    refine ⟨(List.suffix_cons _ _).trans hsuffix, ?_⟩
    rw [scan]
    simpa [hargument, hsplit, hhelp, hspec, hkind, hvalue, hadmits] using hscan
  | _ => cases h

namespace Request

/-- After the name of a command come its options. -/
lemma ofArguments_name (topic : Topic) (arguments : List String) :
    ofArguments (topic.name :: arguments) = ofTopic topic arguments := by
  cases topic <;> rfl

/-- A command is run just if its options are given and all that it requires are among them. -/
lemma ofTopic_eq_run_iff {topic : Topic} {arguments : List String} {command : Command} :
    ofTopic topic arguments = .run command ↔
      ∃ g, scan topic.options [] arguments = .given g ∧
        (topic.options.all fun spec => !spec.isRequired || (g.lookup spec.name).isSome) = true ∧
        Command.ofGiven? g topic = some command := by
  rw [ofTopic, scanAll]
  cases hscan : scan topic.options [] arguments with
  | help | refused => simp
  | given g =>
    by_cases hrequired :
        (topic.options.all fun spec => !spec.isRequired || (g.lookup spec.name).isSome) = true
    · simp only [if_pos hrequired]
      constructor
      · intro h
        cases hgiven : Command.ofGiven? g topic with
        | none => exact absurd (hgiven ▸ h) (by simp)
        | some given =>
          obtain rfl : given = command := by simpa [hgiven] using h
          exact ⟨g, rfl, hrequired, hgiven⟩
      · rintro ⟨_, hg, -, hgiven⟩
        obtain rfl := Scan.given.inj hg
        rw [hgiven]
    · simp only [if_neg hrequired]
      refine iff_of_false (by simp) ?_
      rintro ⟨_, hg, hall, -⟩
      obtain rfl := Scan.given.inj hg
      exact hrequired hall

/-- **Decisions that are asked for as texts are asked for as documents with one more argument.** -/
theorem ofArguments_json {arguments : List String} {stack inventory : String}
    {partition now : Option String}
    (h : ofArguments (Topic.evaluate.name :: arguments) =
      .run (.evaluate stack inventory partition now false)) :
    ofArguments (Topic.evaluate.name :: "--json" :: arguments) =
      .run (.evaluate stack inventory partition now true) := by
  rw [ofArguments_name, ofTopic_eq_run_iff] at h ⊢
  obtain ⟨g, hscan, hrequired, hgiven⟩ := h
  have hread : scan Topic.evaluate.options [] ("--json" :: arguments) =
      scan Topic.evaluate.options [("json", "")] arguments := by
    rw [scan]
    rfl
  simp only [Command.ofGiven?, Option.bind_eq_bind, Option.bind_eq_some_iff, Option.some.injEq,
    Command.evaluate.injEq] at hgiven
  obtain ⟨s, hs, i, hi, rfl, rfl, rfl, rfl, hjson⟩ := hgiven
  have hnew : g.lookup "json" = none := Option.not_isSome_iff_eq_none.1 (by simp [hjson])
  refine ⟨g ++ [("json", "")], ?_, ?_, ?_⟩
  · rw [hread]
    exact (scan_append_given (e := ("json", "")) hscan hnew).2
  · rw [List.all_eq_true] at hrequired ⊢
    intro spec hspec
    have hspec := hrequired spec hspec
    rw [Bool.or_eq_true] at hspec ⊢
    refine hspec.imp_right fun hsome => ?_
    rw [List.lookup_append, Option.isSome_or, hsome, Bool.true_or]
  · simp [Command.ofGiven?, List.lookup_append, hs, hi]

end Request

/-! ## Written commands -/

/-- An option as an argument, with its value behind an equals sign. -/
def valued (name value : String) : String :=
  "--" ++ name ++ "=" ++ value

/-- An option with a value is given. -/
lemma scan_valued (name : String) {spec : OptionSpec} {value : String}
    (hspec : specs.find? (fun spec => spec.name == name) = some spec)
    (hkind : (spec.kind == .flag) = false) (hname : '=' ∉ name.toList) (hhelp : name ≠ "help")
    (haccepts : accepts given spec value = true) (rest : List String) :
    scan specs given (valued name value :: rest) = scan specs ((name, value) :: given) rest := by
  have hchars : (valued name value).toList =
      '-' :: '-' :: (name.toList ++ '=' :: value.toList) := by
    simp [valued]
  have htake : (name.toList ++ '=' :: value.toList).takeWhile (· != '=') = name.toList := by
    rw [List.takeWhile_append_of_pos fun c hc => by simpa using ne_of_mem_of_not_mem hc hname]
    simp
  have hsplit : splitValue (name.toList ++ '=' :: value.toList) = (name, some value) := by
    rw [splitValue, htake]
    simp
  obtain ⟨c, cs, hcons⟩ : ∃ c cs, name.toList ++ '=' :: value.toList = c :: cs :=
    List.exists_cons_of_ne_nil (by simp)
  rw [hcons] at hchars hsplit
  rw [scan, hchars]
  simp [hsplit, hhelp, hspec, hkind, haccepts]

/-- The arguments that write a command, with the values of its options behind equals signs. -/
def Command.arguments : Command → List String
  | .evaluate stack inventory partition now asJson =>
    "evaluate" :: ((if asJson then ["--json"] else []) ++
      valued "stack" stack :: valued "inventory" inventory ::
        (partition.toList.map (valued "partition") ++ now.toList.map (valued "now")))
  | .check stack => ["check", valued "stack" stack]
  | .condition text partition =>
    "condition" :: valued "expr" text :: partition.toList.map (valued "partition")

/-- No path of a command is empty. -/
def Command.HasPaths : Command → Prop
  | .evaluate stack inventory _ _ _ => stack ≠ "" ∧ inventory ≠ ""
  | .check stack => stack ≠ ""
  | .condition _ _ => True

/-- An option that may be left out is given if it has a value. -/
lemma scan_optional (name : String) {spec : OptionSpec}
    (hspec : specs.find? (fun spec => spec.name == name) = some spec)
    (hkind : (spec.kind == .flag) = false) (hname : '=' ∉ name.toList) (hhelp : name ≠ "help")
    (haccepts : ∀ value, accepts given spec value = true) (value : Option String)
    (rest : List String) :
    scan specs given (value.toList.map (valued name) ++ rest) =
      scan specs (value.toList.map (Prod.mk name) ++ given) rest := by
  cases value with
  | none => rfl
  | some value => exact scan_valued name hspec hkind hname hhelp (haccepts value) rest

/-- Decisions as texts are what their arguments ask for. -/
lemma Request.ofArguments_evaluate {stack inventory : String} (hstack : stack ≠ "")
    (hinventory : inventory ≠ "") (partition now : Option String) :
    Request.ofArguments (Topic.evaluate.name :: valued "stack" stack ::
        valued "inventory" inventory ::
          (partition.toList.map (valued "partition") ++ now.toList.map (valued "now"))) =
      .run (.evaluate stack inventory partition now false) := by
  have hpath : accepts [] ⟨"stack", .path, true, "TOML stack definition"⟩ stack = true := by
    simp [accepts, hstack]
  have hpath' : accepts [("stack", stack)] ⟨"inventory", .path, true, "JSON inventory snapshot"⟩
      inventory = true := by
    simp [accepts, hinventory]
  rw [Request.ofArguments_name, Request.ofTopic_eq_run_iff,
    ← List.append_nil (now.toList.map _),
    scan_valued "stack" rfl rfl (by decide) (by decide) hpath,
    scan_valued "inventory" rfl rfl (by decide) (by decide) hpath',
    scan_optional "partition" rfl rfl (by decide) (by decide) fun _ => rfl,
    scan_optional "now" rfl rfl (by decide) (by decide) fun _ => by cases partition <;> rfl, scan]
  refine ⟨_, rfl, ?_, ?_⟩
  · cases partition <;> cases now <;> rfl
  · cases partition <;> cases now <;> rfl

/-- **Every command is what its arguments ask for.** -/
theorem Request.ofArguments_arguments {command : Command} (h : command.HasPaths) :
    Request.ofArguments command.arguments = .run command := by
  cases command with
  | evaluate stack inventory partition now asJson =>
    have htexts := ofArguments_evaluate h.1 h.2 partition now
    cases asJson with
    | false => exact htexts
    | true => exact Request.ofArguments_json htexts
  | check stack =>
    have hpath : accepts [] ⟨"stack", .path, true, ""⟩ stack = true := by
      have hstack : stack ≠ "" := h
      simp [accepts, hstack]
    show Request.ofArguments (Topic.check.name :: _) = _
    rw [Request.ofArguments_name, Request.ofTopic_eq_run_iff,
      scan_valued "stack" rfl rfl (by decide) (by decide) hpath, scan]
    exact ⟨_, rfl, rfl, rfl⟩
  | condition text partition =>
    show Request.ofArguments (Topic.condition.name :: _) = _
    rw [Request.ofArguments_name, Request.ofTopic_eq_run_iff,
      ← List.append_nil (partition.toList.map _),
      scan_valued "expr" rfl rfl (by decide) (by decide) rfl,
      scan_optional "partition" rfl rfl (by decide) (by decide) fun _ => rfl, scan]
    refine ⟨_, rfl, ?_, ?_⟩
    · cases partition <;> rfl
    · cases partition <;> rfl

end ReplicaPolicy.CommandLine
