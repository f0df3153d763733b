import OperationLint.Compilation.Parsing
import OperationLint.Config.Reader
import OperationLint.Config.Template
import OperationLint.Console
import OperationLint.Files.JsonFile

/-!
# Configuration sessions

A session holds the files it works on and the configuration that was loaded last. Loading looks at
a file that is named, or at the first of the usual files that a project has. A load that fails
leaves the session as it was.
-/

namespace OperationLint

/-- Why a configuration file cannot be used. -/
inductive ConfigFault where
  | notFound
  | unparsable (reason : String)
  | malformed (issues : List Schema.Issue)

def ConfigFault.message : ConfigFault → String
  | notFound => "configuration file not found"
  | unparsable reason => "cannot parse configuration: " ++ reason
  | malformed issues => "invalid configuration: " ++ Schema.describe issues

structure ConfigError where
  fault : ConfigFault
  path : Option String

def ConfigError.message (error : ConfigError) : String :=
  attributed error.path error.fault.message

/-- The names of configuration files, in the order in which they are looked for. -/
def configFileNames : List String := [".opguard.json", "opguard.config.json"]

/-- The file that a new configuration is written to. -/
def newConfigFile (project : String) : String := Files.join project ".opguard.json"

/-- What the content of a configuration file of a given format says. -/
def ConfigFile.ofContent (format : Json → Schema.Validation ConfigFile) (path : String)
    (content : Except FileFault String) : Except ConfigError ConfigFile :=
  match Json.ofContent path content with
  | .error reason => .error ⟨.unparsable reason, some path⟩
  | .ok json =>
    match format json with
    | .invalid issues => .error ⟨.malformed issues, some path⟩
    | .valid file => .ok file

/-- The configuration that the content of a file stands for. -/
def Config.ofContent (path : String) (content : Except FileFault String) :
    Except ConfigError Config :=
  ConfigFile.config <$> ConfigFile.ofContent ConfigFile.readPartial path content

namespace FileTree

/-- What a configuration file of a given format says. -/
def readConfigFile (files : FileTree) (format : Json → Schema.Validation ConfigFile)
    (path : String) : Except ConfigError ConfigFile :=
  ConfigFile.ofContent format path (files.read path)

/-- The configuration file of a project. -/
def projectConfigFile? (files : FileTree) (project : String) : Option String :=
  (configFileNames.map (Files.join project)).find? files.contains

/-- The configuration of a project, from a named file or from its own; nothing is configured in a
project without a file. -/
def loadConfig (files : FileTree) (project : String) (named : Option String) :
    Except ConfigError Config :=
  match named.filter (· ≠ "") with
  | some path =>
    if files.contains path then Config.ofContent path (files.read path)
    else .error ⟨.notFound, some path⟩
  | none =>
    match files.projectConfigFile? project with
    | some path => Config.ofContent path (files.read path)
    | none => .ok Config.default

/-- Writes the configuration of a template; gives the path that was written. -/
def createConfig (files : FileTree) (project : String) (template : ConfigTemplate) :
    Except FileError (String × FileTree) :=
  let path := newConfigFile project
  match files.write path template.config.fileText with
  | .error fault => .error ⟨fault, path⟩
  | .ok files => .ok (path, files)

/-- Whether a file is a valid configuration; if not, the reason goes to the console. -/
def validateConfig (files : FileTree) (path : String) : Transcript × Bool :=
  match files.readConfigFile ConfigFile.readComplete path with
  | .ok _ => ([], true)
  | .error error => ([⟨.error, [error.message]⟩], false)

end FileTree

/-! ### Sessions -/

structure Session where
  files : FileTree
  current : Config

/-- A session on some files, with nothing configured. -/
def Session.start (files : FileTree) : Session := ⟨files, Config.default⟩

/-- What a session is asked to do. -/
inductive Session.Request where
  | load (project : String) (named : Option String)
  | create (project : String) (template : ConfigTemplate)
  | validate (path : String)
  | current

/-- What it answers. -/
inductive Session.Response where
  | loaded (result : Except ConfigError Config)
  | created (result : Except FileError String)
  | validated (transcript : Transcript) (valid : Bool)
  | current (config : Config)

/-- One request. -/
def Session.step (session : Session) : Request → Session × Response
  | .load project named =>
    match session.files.loadConfig project named with
    | .ok config => ({ session with current := config }, .loaded (.ok config))
    | .error error => (session, .loaded (.error error))
  | .create project template =>
    match session.files.createConfig project template with
    | .ok (path, files) => ({ session with files }, .created (.ok path))
    | .error error => (session, .created (.error error))
  | .validate path =>
    let (transcript, valid) := session.files.validateConfig path
    (session, .validated transcript valid)
  | .current => (session, .current session.current)

end OperationLint
