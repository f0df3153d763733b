import OperationLint.Config.Session
import OperationLint.Proofs.FileWrites
import OperationLint.Proofs.JsonTexts

/-!
# Runs of configuration sessions

Over any run a session holds the configuration of the last load that succeeded, while other
programs may change files in between. Requests change no file but the one that a new configuration
is written to, and what was written is what the project's configuration then is.

## Main result

`Session.run_consistent` puts together what holds of every run and of every request.

## Proof strategy

- `Session.frame_step` is what one request leaves as it was, and `Session.current_run` follows by
  induction over the events.
- `FileTree.loadConfig_unnamed`: the first of the usual files decides alone.
- `FileTree.readJson_created`: the text of a template is read back, by `Json.parse?_indented`.
-/

namespace OperationLint

/-! ### Templates -/

theorem RuleConfig.legible_toJson (rule : RuleConfig) : rule.toJson.Legible := by
  obtain ⟨enabled, severity⟩ := rule
  have enabledName : Json.arrayIndex? "enabled" = none := by decide
  have severityName : Json.arrayIndex? "severity" = none := by decide
  have boolean (value : Bool) : (Json.bool value).Legible := .bool value
  have text (value : String) : (Json.string value).Legible := .string value
  apply Json.Legible.object
  · apply Json.ofMembers_of_names
    · cases enabled <;> cases severity <;> simp
    · cases enabled <;> cases severity <;> simp [enabledName, severityName]
  · cases enabled <;> cases severity <;> simp [boolean, text]

/-- The text of a configuration can be read back when its rules have distinct names. -/
theorem Config.legible_toJson {config : Config} (distinct : (config.rules.map (·.1)).Nodup)
    (names : ∀ rule ∈ config.rules, Json.arrayIndex? rule.1 = none) : config.toJson.Legible := by
  have rulesName : Json.arrayIndex? "rules" = none := by decide
  have flagName : Json.arrayIndex? "buildingExtension" = none := by decide
  apply Json.Legible.object
  · exact Json.ofMembers_of_names (by simp) (by simp [rulesName, flagName])
  · intro member listed
    rcases List.mem_cons.mp listed with rfl | later
    · -- The section of rules is an object under the names of the rules.
      apply Json.Legible.object
      · apply Json.ofMembers_of_names
        · simpa [Function.comp_def] using distinct
        · intro member listed
          obtain ⟨rule, inside, rfl⟩ := List.mem_map.mp listed
          exact names rule inside
      · intro member listed
        obtain ⟨rule, _, rfl⟩ := List.mem_map.mp listed
        exact rule.2.legible_toJson
    · obtain rfl := List.mem_singleton.mp later
      exact .bool config.buildingExtension

theorem ConfigTemplate.parse?_fileText (template : ConfigTemplate) :
    Json.parse? template.config.fileText = some template.config.toJson := by
  have legible : template.config.toJson.Legible := by
    apply Config.legible_toJson
    · cases template <;> decide
    · cases template <;> decide
  exact Json.parse?_indented legible (.inr rfl)

/-- Both formats read the configuration of a template. -/
theorem ConfigTemplate.read_toJson (template : ConfigTemplate) :
    ∃ file, ConfigFile.readPartial template.config.toJson = .valid file ∧
      ConfigFile.readComplete template.config.toJson = .valid file ∧
      file.config = template.config := by
  cases template with
  | default => exact ⟨_, rfl, rfl, rfl⟩
  | strict => exact ⟨_, rfl, rfl, rfl⟩

/-! ### Files of a project -/

theorem isName_configFile {name : String} (usual : name ∈ configFileNames) : Files.IsName name := by
  have names : name = ".opguard.json" ∨ name = "opguard.config.json" := by
    simpa [configFileNames] using usual
  rcases names with rfl | rfl
  · exact ⟨by decide, by decide, by decide, by decide⟩
  · exact ⟨by decide, by decide, by decide, by decide⟩

namespace FileTree

variable {files : FileTree}

theorem readConfigFile_eq_ok {format : Json → Schema.Validation ConfigFile} {path : String}
    {file : ConfigFile} :
    files.readConfigFile format path = .ok file ↔
      ∃ json, files.readJson path = .ok json ∧ format json = .valid file := by
  rw [readConfigFile, ConfigFile.ofContent, ← readJson]
  cases files.readJson path with
  | error reason => simp
  | ok json => cases read : format json <;> simp [read]

/-- Without a named file, the first of the usual files that is there decides alone. -/
theorem loadConfig_unnamed (files : FileTree) (project : String) {named : Option String}
    (unnamed : named.filter (· ≠ "") = none) :
    files.loadConfig project named =
      if files.contains (Files.join project ".opguard.json") then
        Config.ofContent (Files.join project ".opguard.json")
          (files.read (Files.join project ".opguard.json"))
      else if files.contains (Files.join project "opguard.config.json") then
        Config.ofContent (Files.join project "opguard.config.json")
          (files.read (Files.join project "opguard.config.json"))
      else .ok Config.default := by
  rw [loadConfig, unnamed]
  simp only [projectConfigFile?, configFileNames, List.map_cons, List.map_nil]
  by_cases first : files.contains (Files.join project ".opguard.json") = true
  · simp only [List.find?_cons_of_pos first, if_pos first]
  · rw [List.find?_cons_of_neg first, if_neg first]
    by_cases second : files.contains (Files.join project "opguard.config.json") = true
    · simp only [List.find?_cons_of_pos second, if_pos second]
    · rw [List.find?_cons_of_neg second, if_neg second]
      rfl

/-- A first file that cannot be used is an error, whatever the second one is. -/
theorem loadConfig_invalid {project : String} {named : Option String}
    (unnamed : named.filter (· ≠ "") = none)
    (there : files.contains (Files.join project ".opguard.json") = true)
    (invalid : ∀ file, files.readConfigFile ConfigFile.readPartial
      (Files.join project ".opguard.json") ≠ .ok file) :
    ∃ fault, files.loadConfig project named =
      .error ⟨fault, some (Files.join project ".opguard.json")⟩ := by
  rw [loadConfig_unnamed files project unnamed, if_pos there, Config.ofContent]
  generalize Files.join project ".opguard.json" = path at invalid ⊢
  unfold readConfigFile at invalid
  generalize files.read path = content at invalid ⊢
  unfold ConfigFile.ofContent at invalid ⊢
  cases read : Json.ofContent path content with
  | error reason => exact ⟨.unparsable reason, rfl⟩
  | ok json =>
    simp only [read] at invalid ⊢
    cases shaped : ConfigFile.readPartial json with
    | invalid issues => exact ⟨.malformed issues, rfl⟩
    | valid file =>
      simp only [shaped] at invalid
      exact absurd rfl (invalid file)

section Created

variable {after : FileTree} {project path : String} {template : ConfigTemplate}

theorem createConfig_of_write
    (wrote : files.write (newConfigFile project) template.config.fileText = .ok after) :
    files.createConfig project template = .ok (newConfigFile project, after) := by
  unfold createConfig
  simp only [wrote]

theorem write_of_created (created : files.createConfig project template = .ok (path, after)) :
    path = newConfigFile project ∧ files.write path template.config.fileText = .ok after := by
  unfold createConfig at created
  dsimp only at created
  split at created
  next => cases created
  next wrote =>
    cases created
    exact ⟨rfl, wrote⟩

/-- A new configuration changes the file `.opguard.json` in the project's directory only. -/
theorem node?_of_created (created : files.createConfig project template = .ok (path, after)) :
    ∃ directory, files.projectPlace project = .ok directory ∧
      ∀ place, place ≠ directory ++ [".opguard.json"] → after.node? place = files.node? place := by
  obtain ⟨rfl, wrote⟩ := write_of_created created
  obtain ⟨written, resolved, changed⟩ := node?_of_write wrote
  obtain ⟨directory, found, _, rfl⟩ :=
    resolve_join (isName_configFile List.mem_cons_self) resolved
  refine ⟨directory, found, ?_⟩
  intro place other
  rw [changed, if_neg other]

theorem readJson_created (created : files.createConfig project template = .ok (path, after)) :
    after.readJson path = .ok template.config.toJson := by
  obtain ⟨_, wrote⟩ := write_of_created created
  exact readJson_eq_ok (read_of_write wrote) template.parse?_fileText

theorem loadConfig_created (created : files.createConfig project template = .ok (path, after))
    {named : Option String} (unnamed : named.filter (· ≠ "") = none) :
    after.loadConfig project named = .ok template.config := by
  have read := readJson_created created
  obtain ⟨rfl, wrote⟩ := write_of_created created
  obtain ⟨file, valid, _, stands⟩ := template.read_toJson
  -- The file that was written is the first that is looked for, so the other one does not matter.
  have there : after.contains (newConfigFile project) = true := contains_of_write wrote
  rw [loadConfig_unnamed after project unnamed, ← newConfigFile, if_pos there, Config.ofContent,
    ← readConfigFile, readConfigFile_eq_ok.mpr ⟨_, read, valid⟩]
  exact congrArg Except.ok stands

theorem validateConfig_created (created : files.createConfig project template = .ok (path, after)) :
    after.validateConfig path = ([], true) := by
  obtain ⟨file, _, valid, _⟩ := template.read_toJson
  have read := readJson_created created
  simp only [validateConfig, readConfigFile_eq_ok.mpr ⟨_, read, valid⟩]

end Created

end FileTree

/-! ### Sessions -/

namespace Session

/-- What happens around a session: it is asked for something, or others change files. -/
inductive Event where
  | asked (request : Request)
  | edited (files : FileTree)

/-- A session after some events, and its answers in order. -/
def run (session : Session) : List Event → Session × List Response
  | [] => (session, [])
  | .asked request :: rest =>
    let (next, response) := session.step request
    let (last, responses) := next.run rest
    (last, response :: responses)
  | .edited files :: rest => run { session with files } rest

/-- The configuration that a load gave. -/
def Response.loaded? : Response → Option Config
  | .loaded (.ok config) => some config
  | _ => none

/-- The configuration of the last load that succeeded, or another one if none did. -/
def lastLoaded (responses : List Response) (initial : Config) : Config :=
  (responses.filterMap Response.loaded?).getLast?.getD initial

theorem lastLoaded_cons (response : Response) (responses : List Response) (initial : Config) :
    lastLoaded (response :: responses) initial =
      lastLoaded responses (response.loaded?.getD initial) := by
  unfold lastLoaded
  cases given : response.loaded? with
  | none => rw [List.filterMap_cons_none given, Option.getD_none]
  | some config => rw [List.filterMap_cons_some given, List.getLast?_cons, Option.getD_some,
      Option.getD_some]

/-- The places whose node a request may change. -/
inductive Request.Touches (files : FileTree) : Request → List String → Prop
  | created {project : String} {template : ConfigTemplate} {directory : List String}
      (found : files.projectPlace project = .ok directory) :
      Touches files (.create project template) (directory ++ [".opguard.json"])

/-- A request could not be carried out. -/
def Response.IsFailure : Response → Prop
  | .loaded (.error _) => True
  | .created (.error _) => True
  | _ => False

/-- What one request leaves as it was: the configuration unless a load succeeds, all files unless a
configuration is created, all but one file even then, and everything if it fails. -/
structure Frame (session : Session) (request : Request) (next : Session) (response : Response) :
    Prop where
  current : next.current = response.loaded?.getD session.current
  files : (∀ project template, request ≠ .create project template) → next.files = session.files
  touched : ∀ place, next.files.node? place ≠ session.files.node? place →
    request.Touches session.files place
  workingDirectory : next.files.workingDirectory = session.files.workingDirectory
  failed : response.IsFailure → next = session

theorem step_create {session : Session} {project path : String} {template : ConfigTemplate}
    {after : FileTree}
    (created : session.files.createConfig project template = .ok (path, after)) :
    session.step (.create project template) =
      ({ session with files := after }, .created (.ok path)) := by
  unfold step
  simp only [created]

theorem step_create_of_error {session : Session} {project : String} {template : ConfigTemplate}
    {error : FileError} (refused : session.files.createConfig project template = .error error) :
    session.step (.create project template) = (session, .created (.error error)) := by
  unfold step
  simp only [refused]

theorem step_load {session : Session} {project : String} {named : Option String} {config : Config}
    (loaded : session.files.loadConfig project named = .ok config) :
    session.step (.load project named) =
      ({ session with current := config }, .loaded (.ok config)) := by
  unfold step
  simp only [loaded]

theorem step_load_of_error {session : Session} {project : String} {named : Option String}
    {error : ConfigError} (refused : session.files.loadConfig project named = .error error) :
    session.step (.load project named) = (session, .loaded (.error error)) := by
  unfold step
  simp only [refused]

theorem step_validate (session : Session) (path : String) :
    session.step (.validate path) =
      (session, .validated (session.files.validateConfig path).1
        (session.files.validateConfig path).2) := rfl

/-- A request that leaves the session as it is. -/
theorem Frame.unchanged {session : Session} {request : Request} {response : Response}
    (nothing : response.loaded? = none) : Frame session request session response where
  current := by rw [nothing, Option.getD_none]
  files _ := rfl
  touched _ changed := absurd rfl changed
  workingDirectory := rfl
  failed _ := rfl

theorem frame_step (session : Session) (request : Request) :
    Frame session request (session.step request).1 (session.step request).2 := by
  cases request with
  | load project named =>
    cases loaded : session.files.loadConfig project named with
    | error error =>
      rw [step_load_of_error loaded]
      exact .unchanged rfl
    | ok config =>
      rw [step_load loaded]
      exact ⟨rfl, fun _ => rfl, fun _ changed => absurd rfl changed, rfl, False.elim⟩
  | create project template =>
    cases created : session.files.createConfig project template with
    | error error =>
      rw [step_create_of_error created]
      exact .unchanged rfl
    | ok written =>
      -- The one request that changes files: what it writes is in the project's directory.
      obtain ⟨path, after⟩ := written
      obtain ⟨directory, found, kept⟩ := FileTree.node?_of_created created
      obtain ⟨_, wrote⟩ := FileTree.write_of_created created
      rw [step_create created]
      refine ⟨rfl, fun other => absurd rfl (other project template), ?_,
        FileTree.workingDirectory_of_write wrote, False.elim⟩
      intro place changed
      by_cases here : place = directory ++ [".opguard.json"]
      · subst here
        exact .created found
      · exact absurd (kept place here) changed
  | validate path => exact .unchanged rfl
  | current => exact .unchanged rfl

theorem current_run (session : Session) (events : List Event) :
    (session.run events).1.current = lastLoaded (session.run events).2 session.current := by
  -- The induction is over the events; the session, and with it what is current, varies.
  induction events generalizing session with
  | nil => rfl
  | cons event rest ih =>
    cases event with
    | asked request =>
      have later := ih (session.step request).1
      rw [(frame_step session request).current] at later
      simp only [run, lastLoaded_cons]
      exact later
    | edited files => exact ih { session with files }

/-- A session answers with the configuration of the last load that succeeded, changes no more than
it has to, finds a project's configuration in the first of its files, and reads back what it
wrote. -/
theorem run_consistent :
    (∀ (files : FileTree) (events : List Event),
      ((start files).run events).1.step .current =
        (((start files).run events).1,
          .current (lastLoaded ((start files).run events).2 Config.default))) ∧
    (∀ (session : Session) (request : Request),
      Frame session request (session.step request).1 (session.step request).2) ∧
    (∀ (files : FileTree) (project : String) (named : Option String),
      named.filter (· ≠ "") = none →
      files.loadConfig project named =
        (if files.contains (Files.join project ".opguard.json") then
          Config.ofContent (Files.join project ".opguard.json")
            (files.read (Files.join project ".opguard.json"))
        else if files.contains (Files.join project "opguard.config.json") then
          Config.ofContent (Files.join project "opguard.config.json")
            (files.read (Files.join project "opguard.config.json"))
        else .ok Config.default) ∧
      (files.contains (Files.join project ".opguard.json") = true →
        (∀ file, files.readConfigFile ConfigFile.readPartial
          (Files.join project ".opguard.json") ≠ .ok file) →
        ∃ fault, files.loadConfig project named =
          .error ⟨fault, some (Files.join project ".opguard.json")⟩)) ∧
    ∀ (session next : Session) (project path : String) (template : ConfigTemplate),
      session.step (.create project template) = (next, .created (.ok path)) →
      (next.step (.load project none)).2 = .loaded (.ok template.config) ∧
        next.step (.validate path) = (next, .validated [] true) := by
  refine ⟨?_, frame_step, ?_, ?_⟩
  · intro files events
    have current := current_run (start files) events
    exact congrArg (fun config => (((start files).run events).1, Response.current config)) current
  · intro files project named unnamed
    exact ⟨files.loadConfig_unnamed project unnamed, FileTree.loadConfig_invalid unnamed⟩
  · intro session next project path template stepped
    cases created : session.files.createConfig project template with
    | error error =>
      rw [step_create_of_error created] at stepped
      cases stepped
    | ok written =>
      obtain ⟨written, after⟩ := written
      rw [step_create created] at stepped
      cases stepped
      constructor
      · have loads : after.loadConfig project none = .ok template.config :=
          FileTree.loadConfig_created created rfl
        rw [step_load loads]
      · rw [step_validate, FileTree.validateConfig_created created]

/-- A project with a valid configuration in its second file, and a first one that is no JSON
text. -/
def brokenProject : FileTree :=
  FileTree.ofFiles ["work"] [(".opguard.json", "["), ("opguard.config.json", "\x7b\x7d")]

theorem run_consistent_brokenProject :
    (∃ fault, brokenProject.loadConfig "." none =
      .error ⟨fault, some (Files.join "." ".opguard.json")⟩) ∧
    ∃ next path,
      (start brokenProject).step (.create "." .strict) = (next, .created (.ok path)) ∧
      (next.step (.load "." none)).2 = .loaded (.ok ConfigTemplate.strict.config) ∧
      next.step (.validate path) = (next, .validated [] true) := by
  obtain ⟨_, _, discovered, readBack⟩ := run_consistent
  constructor
  · refine (discovered brokenProject "." none rfl).2 rfl ?_
    intro file valid
    have content : brokenProject.read (Files.join "." ".opguard.json") = .ok "[" := rfl
    have unparsed : Json.parse? "[" = none := rfl
    simp [FileTree.readConfigFile, ConfigFile.ofContent, Json.ofContent, content, unparsed] at valid
  · obtain ⟨after, wrote⟩ : ∃ after, brokenProject.write (newConfigFile ".")
        ConfigTemplate.strict.config.fileText = .ok after := ⟨_, rfl⟩
    have stepped : (start brokenProject).step (.create "." .strict) =
        (⟨after, Config.default⟩, .created (.ok (newConfigFile "."))) :=
      step_create (FileTree.createConfig_of_write wrote)
    exact ⟨_, _, stepped, readBack _ _ _ _ _ stepped⟩

end Session

end OperationLint
