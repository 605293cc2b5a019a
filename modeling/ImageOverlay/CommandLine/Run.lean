import ImageOverlay.Annotation.Document
import ImageOverlay.CommandLine.Simulation
import ImageOverlay.Settings.File
import ImageOverlay.Settings.Schema

set_option autoImplicit false

/-!
# Running a command

A command reads the settings, then its input, and writes one text or fails with one message. What
it reads are the files and the standard input it is given as an `Environment`, so a run is a
function.
-/

namespace ImageOverlay.CommandLine

/-- What is behind a path. -/
inductive FileContent where
  | missing
  | unreadable
  | bytes (content : ByteArray)

/-- The directories that the user's settings may be in, as far as they are known. -/
structure Directories where
  configHome : Option String
  home : Option String
deriving DecidableEq, Repr

/-- What a command can see of the world: the files, the standard input, the user's directories and
a supply of random bits. -/
structure Environment where
  file : String → FileContent
  input : ByteArray
  directories : Directories
  supply : Identity.Supply

/-- Why a command fails. -/
inductive RunError where
  | noConfigDirectory
  | configUnreadable (path : String)
  | configMalformed (path : String)
  | fileUnreadable (path : String)
  | inputUnreadable
  | drawnMalformed
  | documentMalformed
  | notARectangle (kind : ShapeKind)
  | conversion (cause : ConvertError)
  | simulation (cause : SimulationError)
  | schemaNotWritten (path : String)
deriving DecidableEq, Repr

/-- The error in words. -/
def RunError.message : RunError → String
  | .noConfigDirectory => "Could not find config directory"
  | .configUnreadable path => "Failed to read config from " ++ path
  | .configMalformed path => "Failed to parse config from " ++ path
  | .fileUnreadable path => "Failed to read " ++ path
  | .inputUnreadable => "Failed to read standard input"
  | .drawnMalformed => "Failed to parse drawn annotation"
  | .documentMalformed => "Failed to parse annotation document"
  | .notARectangle kind => "expected a rectangle, got a " ++ kind.name
  | .conversion cause => cause.message
  | .simulation cause => cause.message
  | .schemaNotWritten path => "Failed to write schema to " ++ path

/-! ## Reading -/

/-- The text that bytes write. -/
def textOf? (bytes : ByteArray) : Option String := String.fromUTF8? bytes

/-- Whether a path starts at the root. -/
def isAbsolutePath (path : String) : Bool := path.toList.head? == some '/'

/-- Where the settings are if no file is given: in the directory for settings, or in the one that
is usual for it in the user's home. -/
def Directories.configPath? (d : Directories) : Option String :=
  let directory := match d.configHome.filter isAbsolutePath with
    | some directory => some directory
    | none => (d.home.filter (· ≠ "")).map (· ++ "/.config")
  directory.map (· ++ "/tilemark/config.toml")

/-- The path of the settings. -/
def Directories.settingsPath (d : Directories) (given : Option String) :
    Except RunError String :=
  match given <|> d.configPath? with
  | some path => .ok path
  | none => .error .noConfigDirectory

/-- The settings in a file; a file that is not there has the default ones. -/
def Environment.settings (env : Environment) (path : String) : Except RunError Settings :=
  match env.file path with
  | .missing => .ok {}
  | .unreadable => .error (.configUnreadable path)
  | .bytes bytes =>
    match textOf? bytes with
    | none => .error (.configUnreadable path)
    | some text =>
      match Settings.parse? text with
      | some settings => .ok settings
      | none => .error (.configMalformed path)

/-- The text of a file, or of the standard input. -/
def Environment.text (env : Environment) : Option String → Except RunError String
  | none =>
    match textOf? env.input with
    | some text => .ok text
    | none => .error .inputUnreadable
  | some path =>
    match env.file path with
    | .bytes bytes =>
      match textOf? bytes with
      | some text => .ok text
      | none => .error (.fileUnreadable path)
    | _ => .error (.fileUnreadable path)

/-- A drawn shape. -/
def Environment.drawn (env : Environment) (file : Option String) : Except RunError Drawn := do
  match Drawn.decoder.read (← env.text file) with
  | some drawn => .ok drawn
  | none => .error .drawnMalformed

/-- An annotation. -/
def Environment.document (env : Environment) (file : Option String) :
    Except RunError Document := do
  match Document.decoder.read (← env.text file) with
  | some document => .ok document
  | none => .error .documentMalformed

/-! ## Commands -/

/-- The region of a drawn rectangle. -/
def regionOf (drawn : Drawn) : Except ConvertError Region := do
  Region.ofElement (← ImageOverlay.convert drawn)

/-- A value on lines of its own. -/
def printed (v : Json) : String := v.pretty ++ "\n"

/-- What a command prints. -/
def execute (env : Environment) (path : String) (settings : Settings) :
    Command → Except RunError String
  | .params image => .ok (printed (settings.mapParams image.item image.info).toJson)
  | .convert file withId => do
    let drawn ← env.drawn file
    let element ← (ImageOverlay.convert drawn).mapError .conversion
    let element := if withId then (element.identified env.supply).1 else element
    .ok (printed element.toJson)
  | .region file => do
    let drawn ← env.drawn file
    if drawn.kind = .rectangle then
      let region ← (regionOf drawn).mapError .conversion
      .ok (printed region.toJson)
    else .error (.notARectangle drawn.kind)
  | .geojson file => do
    let document ← env.document file
    .ok (printed document.features.toJson)
  | .simulate image region file => do
    let drawn ← env.drawn file
    let report ← (simulate settings image drawn region env.supply).mapError .simulation
    .ok (printed report.toJson)
  | .config .schema => .ok (printed settingsSchema)
  | .config .path => .ok (path ++ "\n")
  | .config .values => .ok settings.render

/-- What a run leaves behind. -/
inductive Outcome where
  | printed (text : String)
  | failed (e : RunError)
  | refused
deriving DecidableEq, Repr

/-- The input a command reads: `none` if it reads none, and otherwise the file, if one is given. -/
def Command.input? : Command → Option (Option String)
  | .params _ | .config _ => none
  | .convert file _ | .region file | .geojson file | .simulate _ _ file => some file

/-- The paths that a command line may have read. -/
def pathsRead (d : Directories) (words : List String) : List String :=
  match parse words with
  | .run given command =>
    (given <|> d.configPath?).toList ++ (command.input?.bind id).toList
  | _ => []

/-- Whether a command line may have the standard input read. -/
def readsInput (words : List String) : Bool :=
  match parse words with
  | .run _ command => command.input? == some none
  | _ => false

/-- The name and the version of the program. -/
def versionText : String := "tilemark 0.3.0\n"

/-- Run a command line. -/
def run (env : Environment) (words : List String) : Outcome :=
  match parse words with
  | .version => .printed versionText
  | .refused => .refused
  | .run given command =>
    let result : Except RunError String := do
      let path ← env.directories.settingsPath given
      execute env path (← env.settings path) command
    match result with
    | .ok text => .printed text
    | .error e => .failed e

/-! ## The schema as a file -/

/-- What to do with the schema of the settings. -/
inductive SchemaRequest where
  | print (text : String)
  | write (path text : String)
deriving DecidableEq, Repr

/-- Print the schema, or write it to the file that is named first. -/
def schemaRequest : List String → SchemaRequest
  | [] => .print (printed settingsSchema)
  | path :: _ => .write path settingsSchema.pretty

end ImageOverlay.CommandLine
