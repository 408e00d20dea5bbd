import PatternSearch.Command
import PatternSearch.Proofs.Search.Ends

/-!
# What the command prints

A call that names no file, or a file that cannot be read or does not decode, prints nothing on the
first channel. Any other call prints what it has loaded, a line for each report of the search, and the
outcome if the search has one. Only an outcome makes the exit code zero. What goes to the other channel
is not described here.
-/

namespace PatternSearch

/-- Lines as they are printed, each with a line feed behind it. -/
def printed (lines : List String) : String := String.join (lines.map (· ++ "\n"))

/-- The text on the first channel. -/
def Console.output (console : Console) (seconds : String) : String := printed (console.told seconds)

/-- The settings are the usual ones, or those of a document that can be read and decodes. -/
inductive Call.Configures (call : Call) : Option String → Settings → Prop
  | usual : Configures call none {}
  | given {path document : String} {settings : Settings} (read : call.read path = .ok document)
      (decoded : Settings.form.decode document = .ok settings) :
      Configures call (some path) settings

/-- The call names a file of examples that can be read. With the settings they make up a search. -/
inductive Call.Loads (call : Call) : String → Search → Prop
  | intro {path text : String} {more : List String} {settings : Settings}
      (named : call.arguments = path :: more) (read : call.read path = .ok text)
      (configured : call.Configures more.head? settings) :
      Loads call path { settings, examples := Examples.parse text }

/-- What is said of a search: how many examples it has, its reports, and its outcome. -/
def Search.account (search : Search) (path seconds : String) : List String :=
  let positive := search.examples.positive.length
  let negative := search.examples.negative.length
  s!"Loaded {positive} +examples, {negative} -examples from {path}" ::
  search.run.reports.map (fun report => s!"{report.score} {report.pattern}") ++
    match search.run.result with
    | .ok outcome => outcome.lines seconds
    | .error _ => []

namespace Command

variable {call : Call}

theorem settings_eq_ok_iff {config : Option String} {s : Settings} :
    settings call config = .ok s ↔ call.Configures config s := by
  constructor
  · intro h
    cases config with
    | none =>
      cases h
      exact .usual
    | some path =>
      rw [settings] at h
      split at h
      · cases h
      · next document read =>
        split at h
        · cases h
        · next decoded =>
          cases h
          exact .given read decoded
  · intro h
    cases h with
    | usual => rfl
    | given read decoded => simp only [settings, read, decoded]

/-- No call loads two searches. -/
theorem loads_unique {path path' : String} {search search' : Search}
    (h : call.Loads path search) (h' : call.Loads path' search') :
    path = path' ∧ search = search' := by
  obtain ⟨named, read, configured⟩ := h
  obtain ⟨named', read', configured'⟩ := h'
  cases named.symm.trans named'
  cases read.symm.trans read'
  have same := (settings_eq_ok_iff.mpr configured).symm.trans (settings_eq_ok_iff.mpr configured')
  cases same
  exact ⟨rfl, rfl⟩

/-- What a call comes to, unless it asks for the usual settings. -/
inductive Comes (call : Call) (console : Console) : Prop
  | unloaded (none : ∀ path search, ¬call.Loads path search) (exit : console.exit = 1)
      (told : ∀ seconds, console.told seconds = [])
  | loaded (path : String) (search : Search) (loads : call.Loads path search)
      (exit : console.exit = if search.run.result.isOk then 0 else 1)
      (told : ∀ seconds, console.told seconds = search.account path seconds)

theorem comes_of_search {path : String} {more : List String} (say : List Event → List String)
    (named : call.arguments = path :: more) : Comes call (search call say path more.head?) := by
  cases read : call.read path with
  | error fault =>
    simp only [search, read]
    refine .unloaded ?_ rfl fun _ => rfl
    rintro _ _ ⟨named', read', -⟩
    cases named.symm.trans named'
    cases read.symm.trans read'
  | ok text =>
    cases configured : settings call more.head? with
    | error message =>
      simp only [search, read, configured]
      refine .unloaded ?_ rfl fun _ => rfl
      rintro _ _ ⟨named', read', configured'⟩
      cases named.symm.trans named'
      cases configured.symm.trans (settings_eq_ok_iff.mpr configured')
    | ok settings =>
      have loads := Call.Loads.intro named read (settings_eq_ok_iff.mp configured)
      simp only [search, read, configured]
      cases result : ({ settings, examples := Examples.parse text } : Search).run.result with
      | error failure =>
        refine .loaded path _ loads (by rw [result]; rfl) fun seconds => ?_
        rw [Search.account, result]
        rfl
      | ok outcome =>
        refine .loaded path _ loads (by rw [result]; rfl) fun seconds => ?_
        rw [Search.account, result]
        rfl

/-- It makes no difference what goes to the other channel. -/
theorem Comes.withErr {console : Console} (h : Comes call console) (err : List String) :
    Comes call { console with err } := by
  cases h with
  | unloaded none exit told => exact .unloaded none exit told
  | loaded path search loads exit told => exact .loaded path search loads exit told

theorem comes_of_run (searches : call.arguments.head? ≠ some "--example-config") :
    Comes call (run call) := by
  refine Comes.withErr ?_ _
  cases named : call.arguments with
  | nil =>
    rw [answer, named]
    refine .unloaded ?_ rfl fun _ => rfl
    rintro _ _ ⟨named', -, -⟩
    cases named.symm.trans named'
  | cons path more =>
    have other : path ≠ "--example-config" := by
      rintro rfl
      exact searches (by rw [named]; rfl)
    simp only [answer, named, if_neg other]
    exact comes_of_search _ named

/-- With settings that do not do, nothing is told but what was loaded. -/
theorem account_of_defect {search : Search} {defect : Defect} (path seconds : String)
    (h : search.settings.defect? = some defect) :
    search.account path seconds = [loadedLine search.examples path] := by
  rw [Search.account, Search.run_of_defect h]
  rfl

theorem isOk_iff {ε α : Type} {result : Except ε α} :
    result.isOk = true ↔ ∃ a, result = .ok a := by
  cases result <;> simp [Except.isOk, Except.toBool]

/-- The exit code and the text on the first channel, for every call that does not ask for the usual
settings. -/
theorem output_run (call : Call) (seconds : String)
    (searches : call.arguments.head? ≠ some "--example-config") :
    ((run call).exit = 0 ↔ ∃ path search outcome,
      call.Loads path search ∧ search.run.result = .ok outcome) ∧
    ((run call).exit = 0 ∨ (run call).exit = 1) ∧
    ((∀ path search, ¬call.Loads path search) → (run call).output seconds = "") ∧
    ∀ path search, call.Loads path search →
      (run call).output seconds = printed (search.account path seconds) ∧
      ∀ defect, search.settings.defect? = some defect →
        (run call).output seconds = printed [loadedLine search.examples path] := by
  cases comes_of_run searches with
  | unloaded none exit told =>
    refine ⟨?_, Or.inr exit, fun _ => ?_, fun path search loads => absurd loads (none path search)⟩
    · constructor
      · intro zero
        cases exit.symm.trans zero
      · rintro ⟨path, search, -, loads, -⟩
        exact absurd loads (none path search)
    · rw [Console.output, told]
      rfl
  | loaded path search loads exit told =>
    refine ⟨?_, ?_, fun none => absurd loads (none path search), ?_⟩
    · constructor
      · intro zero
        obtain ⟨outcome, result⟩ : ∃ outcome, search.run.result = .ok outcome :=
          isOk_iff.mp (by simpa [zero] using exit)
        exact ⟨path, search, outcome, loads, result⟩
      · rintro ⟨path', search', outcome, loads', result⟩
        obtain ⟨rfl, rfl⟩ := loads_unique loads loads'
        rw [exit, if_pos (isOk_iff.mpr ⟨outcome, result⟩)]
    · rw [exit]
      split
      · exact Or.inl rfl
      · exact Or.inr rfl
    · intro path' search' loads'
      obtain ⟨rfl, rfl⟩ := loads_unique loads loads'
      rw [Console.output, told]
      exact ⟨rfl, fun defect bad => congrArg printed (account_of_defect path seconds bad)⟩

/-- One row of examples, and settings for one generation. -/
theorem output_run_one_row :
    let document := "\x7b\"seed_fragments\":[\"[0-9]\"],\"max_generations\":1\x7d"
    let call : Call :=
      { program := "search", arguments := ["rows", "settings"], filter := none, stamp := ""
        read := fun path => if path = "rows" then .ok "7\tx\n" else .ok document }
    call.arguments.head? ≠ some "--example-config" ∧ (run call).exit = 0 ∧
    (run call).output "0.001" = "Loaded 1 +examples, 1 -examples from rows\n" ++ "1 ^[0-9]$\n" ++
      "[Solved] Generated regex: ^[0-9]$\n" ++
      "Generations: 1, evaluations: 2, invalid patterns: 0, time: 0.001s\n" := by
  intro document call
  let search : Search :=
    { settings := { seeds := [⟨"[0-9]"⟩], maxGenerations := 1 }
      examples := Examples.parse "7\tx\n" }
  have decoded : Settings.form.decode document = .ok search.settings := by decide +kernel
  have result : search.run.result = .ok
    ⟨.solved, ⟨0, 0, none, [⟨"[0-9]"⟩], 1, .ofNat 1, "^[0-9]$"⟩, ⟨1, 2, 0, .zero⟩⟩ := by decide +kernel
  have loads : call.Loads "rows" search :=
    @Call.Loads.intro call "rows" "7\tx\n" ["settings"] search.settings rfl rfl (.given rfl decoded)
  obtain ⟨zero, -, -, told⟩ := output_run call "0.001" (by decide)
  refine ⟨by decide, zero.mpr ⟨_, _, _, loads, result⟩, ?_⟩
  rw [(told _ _ loads).1, Search.account, result]
  decide +kernel

end Command

end PatternSearch
