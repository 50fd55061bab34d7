import Projection.Invocation
import Projection.Proofs.Assignments

/-! Where the settings come from. Each has its own option, its own variable and its own place in the
file `gadgetry.toml`, and takes its value from the first of these that has one. -/

set_option autoImplicit false

namespace Projection

def firstOf {α : Type} (sources : List (Option α)) : Option α := sources.findSome? id

theorem firstOf_cons {α : Type} (source : Option α) (sources : List (Option α)) :
    firstOf (source :: sources) = source.or (firstOf sources) := by
  cases source <;> simp [firstOf]

theorem firstOf_nil {α : Type} : firstOf ([] : List (Option α)) = none := rfl

namespace Toml

def flagSaidIn? (name : String) : Toml → Option (Option Bool)
  | table entries => setting? entries name none fun value => value.bool?.map some
  | array [] | moment _ => some none
  | array (flag :: _) => flag.bool?.map some
  | _ => none

theorem setting?_eq {α : Type} {missing : α} {read : Toml → Option α}
    {said : Toml → Option (Option α)}
    (same : ∀ value, read value = (said value).map (·.getD missing))
    (entries : List (String × Toml)) (name : String) :
    setting? entries name missing read =
      (setting? entries name none said).map (·.getD missing) := by
  unfold setting?
  cases entries.lookup name with
  | none => rfl
  | some value => exact same value

theorem flagIn?_eq (name : String) (value : Toml) :
    flagIn? name value = (flagSaidIn? name value).map (·.getD false) := by
  have alone : ∀ flag : Toml, flag.bool? = (flag.bool?.map some).map (·.getD false) := by
    intro flag
    cases flag.bool? <;> rfl
  cases value with
  | table entries => exact setting?_eq alone entries name
  | array items =>
    cases items with
    | nil => rfl
    | cons flag _ => exact alone flag
  | moment _ | string _ | integer _ | float _ | bool _ => rfl

end Toml

namespace Config

/-- What is said about each setting, nothing where it is left out. -/
structure Layer where
  logFilter : Option String := none
  data : Option Path := none
  caseSensitive : Option Bool := none
  pretty : Option Bool := none
  deriving DecidableEq

namespace Layer

def ofToml? (entries : List (String × Toml)) : Option Layer := do
  let logFilter ← Toml.setting? entries "log_filter" none fun value => value.string?.map some
  let data ← Toml.setting? entries "data" none fun value => value.path?.map some
  let caseSensitive ← Toml.setting? entries "lexer" none (Toml.flagSaidIn? "case_sensitive")
  let pretty ← Toml.setting? entries "output" none (Toml.flagSaidIn? "pretty")
  return { logFilter, data, caseSensitive, pretty }

def fill (layer : Layer) : Config where
  logFilter := layer.logFilter.getD "gadgetry=info,gadgetry_core=info"
  data := layer.data
  caseSensitive := layer.caseSensitive.getD false
  pretty := layer.pretty.getD false

theorem ofToml?_eq (entries : List (String × Toml)) :
    Config.ofToml? entries = (ofToml? entries).map fill := by
  have text : ∀ value : Toml, value.string? = (value.string?.map some).map
      (·.getD "gadgetry=info,gadgetry_core=info") := by
    intro value
    cases value.string? <;> rfl
  simp only [Config.ofToml?, ofToml?, Toml.setting?_eq text, Toml.setting?_eq (Toml.flagIn?_eq _)]
  cases Toml.setting? entries "log_filter" none fun value => value.string?.map some with
  | none => rfl
  | some logFilter =>
    cases Toml.setting? entries "data" none fun value => value.path?.map some with
    | none => rfl
    | some data =>
      cases Toml.setting? entries "lexer" none (Toml.flagSaidIn? "case_sensitive") with
      | none => rfl
      | some caseSensitive =>
        cases Toml.setting? entries "output" none (Toml.flagSaidIn? "pretty") <;> rfl

/-- The file `gadgetry.toml` of a directory can be read and says this. Without such a file nothing is
said. -/
inductive StandsIn (files : Files) (directory : Path) : Layer → Prop
  | missing (absent : files (directory.join "gadgetry.toml") = none) :
      StandsIn files directory {}
  | file {text : String} {entries : List (String × Toml)} {said : Layer}
      (stored : files.text? (directory.join "gadgetry.toml") = some text)
      (parsed : Toml.ofText text = some entries) (means : ofToml? entries = some said) :
      StandsIn files directory said

theorem ofDirectory_of_standsIn {files : Files} {directory : Path} {said : Layer}
    (stands : StandsIn files directory said) :
    ofDirectory files directory = .ok (said.fill.relativeTo directory) := by
  cases stands with
  | missing absent =>
    simp only [ofDirectory, absent]
    rfl
  | @file text entries said stored parsed means =>
    have present : ∃ entry, files (directory.join "gadgetry.toml") = some entry := by
      rw [Files.text?, Files.bytes?] at stored
      cases found : files (directory.join "gadgetry.toml") with
      | some entry => exact ⟨entry, rfl⟩
      | none => simp [found] at stored
    obtain ⟨entry, present⟩ := present
    have decoded : ofText? text = some said.fill := by
      rw [ofText?, parsed, Option.bind_some, ofToml?_eq, means]
      rfl
    simp only [ofDirectory, present, stored, decoded]

theorem exists_standsIn_iff {files : Files} {directory : Path} :
    (∃ said, StandsIn files directory said) ↔ ∃ config, ofDirectory files directory = .ok config := by
  constructor
  · rintro ⟨said, stands⟩
    exact ⟨_, ofDirectory_of_standsIn stands⟩
  · rintro ⟨config, read⟩
    simp only [ofDirectory] at read
    split at read
    · next absent => exact ⟨{}, .missing absent⟩
    · cases read
    · next text _ stored =>
      split at read
      · cases read
      · next decoded =>
        obtain ⟨entries, parsed, means⟩ := Option.bind_eq_some_iff.mp decoded
        rw [ofToml?_eq] at means
        obtain ⟨said, means, _⟩ := Option.map_eq_some_iff.mp means
        exact ⟨said, .file stored parsed means⟩

end Layer

def assignmentsIn (files : Files) (environment : Environment) (directory : Path) :
    List (String × String) :=
  ((files.bytes? (directory.join ".env")).map fun bytes =>
    EnvFile.assignmentsOf environment (EnvFile.linesOf bytes)).getD []

section Environment

variable {files : Files} {environment : Environment} {directory : Path}

theorem isName_of_mem_assignmentsIn :
    ∀ assignment ∈ assignmentsIn files environment directory, Environment.IsName assignment.1 := by
  unfold assignmentsIn
  cases files.bytes? (directory.join ".env") with
  | none => simp
  | some bytes => exact EnvFile.isName_of_mem_assignmentsOf

theorem environmentIn_eq (files : Files) (environment : Environment) (directory : Path) :
    environmentIn files environment directory =
      match environment.assignAll? (assignmentsIn files environment directory) with
      | none => .error .environment
      | some after => .ok after := by
  unfold environmentIn assignmentsIn
  cases files.bytes? (directory.join ".env") with
  | none => rfl
  | some bytes =>
    simp only [EnvFile.assign?, EnvFile.assignLines?_eq]
    rfl

theorem environmentIn_of_takes
    (takes : environment.Takes (assignmentsIn files environment directory)) :
    ∃ after, environmentIn files environment directory = .ok after ∧
      ∀ name, Environment.IsName name →
        after.text? name = environment.textAfter (assignmentsIn files environment directory) name := by
  have assigned := (Environment.isSome_assignAll?_iff isName_of_mem_assignmentsIn).mpr takes
  obtain ⟨after, assigned⟩ := Option.isSome_iff_exists.mp assigned
  refine ⟨after, ?_, fun name named =>
    Environment.text?_of_assignAll? assigned isName_of_mem_assignmentsIn named⟩
  rw [environmentIn_eq, assigned]

theorem environmentIn_of_not_takes
    (refuses : ¬environment.Takes (assignmentsIn files environment directory)) :
    environmentIn files environment directory = .error .environment := by
  rw [← Environment.isSome_assignAll?_iff isName_of_mem_assignmentsIn,
    Option.not_isSome_iff_eq_none] at refuses
  rw [environmentIn_eq, refuses]

end Environment

theorem flagOfText?_eq_some_iff {text : String} {flag : Bool} :
    flagOfText? text = some flag ↔ String.ofList ((Text.trim text.toList).map Char.toLower) ∈
      if flag then ["1", "true", "yes", "on"] else ["0", "false", "no", "off"] := by
  have apart : ∀ word ∈ ["1", "true", "yes", "on"], word ∉ ["0", "false", "no", "off"] := by decide
  unfold flagOfText?
  simp only
  generalize String.ofList ((Text.trim text.toList).map Char.toLower) = word
  split
  · next yes => cases flag <;> simp [yes, apart word yes]
  · next yes =>
    split
    · next no => cases flag <;> simp [yes, no]
    · next no => cases flag <;> simp [yes, no]

theorem textIn?_eq (environment : Environment) (name : String) :
    textIn? environment name = (environment.text? name).filter (· ≠ "") := by
  have not_empty : (fun text : String => !text.isEmpty) = fun text => decide (text ≠ "") := by
    funext text
    by_cases empty : text = "" <;> simp [empty]
  rw [textIn?, not_empty]

theorem flag_eq_firstOf (given : Bool) (spelled said : Option Bool) :
    (given || spelled.getD (said.getD false)) =
      (firstOf [if given then some true else none, spelled, said]).getD false := by
  cases given <;> cases spelled <;> cases said <;> rfl

theorem load_eq {files : Files} {environment after : Environment} {directory : Path} {said : Layer}
    (assigned : environmentIn files environment directory = .ok after)
    (stands : Layer.StandsIn files directory said) :
    load files environment directory =
      .ok ((said.fill.relativeTo directory).overrideBy after directory) := by
  rw [load, assigned, Layer.ofDirectory_of_standsIn stands]
  rfl

end Config

theorem Path.join_cases (directory path : Path) :
    if path.isAbsolute then directory.join path = path
    else ∃ between ∈ [[], [slash]],
      (directory.join path).bytes = directory.bytes ++ between ++ path.bytes := by
  unfold join
  split
  · next absolute => rw [absolute, Bool.true_or, if_pos rfl]
  · next relative =>
    rw [Bool.of_not_eq_true relative, Bool.false_or]
    split
    · next empty =>
      refine ⟨[], List.mem_cons_self, ?_⟩
      rw [List.isEmpty_iff.mp empty]
      rfl
    · split
      · exact ⟨[], List.mem_cons_self, congrArg (· ++ path.bytes) (List.append_nil _).symm⟩
      · exact ⟨[slash], List.mem_cons_of_mem _ List.mem_cons_self, rfl⟩

/-- Each setting has the value of its first source that has one: its option, its variable, which is
first what the process has and then what the file `.env` assigns first, and its place in the file
`gadgetry.toml`. What the process has counts only in UTF-8. Where a text with NUL would have to be
assigned there are no settings. -/
theorem Invocation.config_by_layers (invocation : Invocation) (files : Files)
    (environment : Environment) :
    let directory := invocation.directoryOrDefault
    let assignments := Config.assignmentsIn files environment directory
    let text := environment.textAfter assignments
    (¬environment.Takes assignments →
      invocation.config files environment = .error .environment ∧
        invocation.run files environment = .error .environment) ∧
    (environment.Takes assignments → ∀ said, Config.Layer.StandsIn files directory said →
      ∃ config : Config, invocation.config files environment = .ok config ∧
        invocation.run files environment =
          (if LogFilter.stops (text LogFilter.sharedVariable) config.logFilter then
            .error .logFilter
          else invocation.mode.run files config invocation.statementOrDefault) ∧
        config.caseSensitive = (firstOf [if invocation.caseSensitive then some true else none,
          (text "GADGETRY_CASE_SENSITIVE").bind Config.flagOfText?, said.caseSensitive]).getD false ∧
        config.pretty = (firstOf [if invocation.pretty then some true else none,
          (text "GADGETRY_PRETTY").bind Config.flagOfText?, said.pretty]).getD false ∧
        config.data = firstOf [invocation.data,
          ((text "GADGETRY_DATA").filter (· ≠ "")).map fun path =>
            directory.join (RawText.ofString path),
          said.data.map directory.join] ∧
        config.logFilter = (firstOf [(text "GADGETRY_LOG").filter (· ≠ ""),
          said.logFilter]).getD "gadgetry=info,gadgetry_core=info") ∧
    ((∃ said, Config.Layer.StandsIn files directory said) ↔
      ∃ decoded, Config.ofDirectory files directory = .ok decoded) ∧
    (∀ text flag, Config.flagOfText? text = some flag ↔
      String.ofList ((Text.trim text.toList).map Char.toLower) ∈
        if flag then ["1", "true", "yes", "on"] else ["0", "false", "no", "off"]) ∧
    ∀ path : Path, if path.isAbsolute then directory.join path = path
      else ∃ between ∈ [[], [Path.slash]],
        (directory.join path).bytes = directory.bytes ++ between ++ path.bytes := by
  intro directory assignments text
  refine ⟨fun refuses => ?_, fun takes said stands => ?_, Config.Layer.exists_standsIn_iff,
    fun _ _ => Config.flagOfText?_eq_some_iff, Path.join_cases directory⟩
  · have refused := Config.environmentIn_of_not_takes refuses
    have unconfigured : invocation.config files environment = .error .environment := by
      rw [config, Config.load, refused]
      rfl
    refine ⟨unconfigured, ?_⟩
    rw [run, unconfigured]
    rfl
  · obtain ⟨after, assigned, found⟩ := Config.environmentIn_of_takes takes
    have text_eq : ∀ name, Environment.IsName name → text name = after.text? name :=
      fun name named => (found name named).symm
    have configured : invocation.config files environment = .ok (invocation.override
        ((said.fill.relativeTo directory).overrideBy after directory)) := by
      rw [config, Config.load_eq assigned stands]
      rfl
    refine ⟨_, configured, ?_, ?_, ?_, ?_, ?_⟩
    · rw [run, configured, text_eq LogFilter.sharedVariable (by decide)]
      simp only [bind, Except.bind, show Config.environmentIn files environment
        invocation.directoryOrDefault = .ok after from assigned]
      rfl
    · rw [text_eq "GADGETRY_CASE_SENSITIVE" (by decide)]
      exact Config.flag_eq_firstOf _ _ _
    · rw [text_eq "GADGETRY_PRETTY" (by decide)]
      exact Config.flag_eq_firstOf _ _ _
    · rw [text_eq "GADGETRY_DATA" (by decide), ← Config.textIn?_eq, firstOf_cons, firstOf_cons,
        firstOf_cons, firstOf_nil, Option.or_none]
      rfl
    · rw [text_eq "GADGETRY_LOG" (by decide), ← Config.textIn?_eq, firstOf_cons, firstOf_cons,
        firstOf_nil, Option.or_none]
      exact Option.getD_or.symm

/-- A variable that is no flag hides the file `.env`, as an empty one does, and one that is not UTF-8
does not. -/
theorem Invocation.config_by_layers_hidden :
    let invocation : Invocation := { directory := some "conf", caseSensitive := true }
    let files : Files := fun path =>
      if path = "conf/.env" then
        some (.file "GADGETRY_PRETTY=off\nGADGETRY_DATA=b.json\nGADGETRY_LOG=debug\n".toUTF8)
      else if path = "conf/gadgetry.toml" then
        some (.file "log_filter='warn'\ndata='/a.json'\noutput.pretty=true\n".toUTF8)
      else none
    let environment : Environment := [Environment.entry "GADGETRY_PRETTY" "maybe",
      Environment.front "GADGETRY_DATA" ++ ⟨[255]⟩, Environment.entry "GADGETRY_LOG" ""]
    ∃ config : Config, invocation.config files environment = .ok config ∧
      config.caseSensitive = true ∧ config.pretty = true ∧
      config.data = some "conf/b.json" ∧ config.logFilter = "warn" := by
  intro invocation files environment
  obtain ⟨_, layered, _⟩ := config_by_layers invocation files environment
  have takes : environment.Takes (Config.assignmentsIn files environment "conf") :=
    (Environment.isSome_assignAll?_iff Config.isName_of_mem_assignmentsIn).mp (by decide +kernel)
  let written := "log_filter='warn'\ndata='/a.json'\noutput.pretty=true\n"
  have stored : files.text? (Path.join "conf" "gadgetry.toml") = some written := by decide +kernel
  have decoded : (Toml.ofText written).bind Config.Layer.ofToml? =
      some ⟨some "warn", some "/a.json", none, some true⟩ := by decide +kernel
  obtain ⟨_, parsed, means⟩ := Option.bind_eq_some_iff.mp decoded
  obtain ⟨config, configured, _, case_sensitive, pretty, data, log_filter⟩ :=
    layered takes _ (.file stored parsed means)
  refine ⟨config, configured, case_sensitive, pretty.trans ?_, data.trans ?_, log_filter.trans ?_⟩
  · decide +kernel
  · decide +kernel
  · decide +kernel

/-- A text that is no flag gives way to the next source, but one with NUL stops the program, which
would print the names otherwise. -/
theorem Invocation.nul_assignment_leaves_no_config :
    let files : Files := fun path =>
      if path = "./.env" then some (.file "GADGETRY_PRETTY=\x00\n".toUTF8) else none
    Config.Layer.StandsIn files "." {} ∧
      Config.assignmentsIn files [] "." = [("GADGETRY_PRETTY", "\x00")] ∧
      Config.flagOfText? "\x00" = none ∧
      (∀ config, ({} : Invocation).config files [] ≠ .ok config) ∧
      ({} : Invocation).run files [] = .error .environment ∧
      Mode.run files {} ({} : Invocation).statementOrDefault .execute =
        .ok "[\x7b\"Name\":\"Joe\"\x7d,\x7b\"Name\":\"Fred\"\x7d]" := by
  intro files
  have unconfigured : ({} : Invocation).config files [] = .error .environment := by decide +kernel
  refine ⟨.missing (by decide +kernel), by decide +kernel, by decide +kernel, ?_, by decide +kernel,
    by decide +kernel⟩
  intro config configured
  rw [unconfigured] at configured
  cases configured

end Projection
