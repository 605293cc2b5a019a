import ImageOverlay.Number.Decimal
import ImageOverlay.Text.Substitute

set_option autoImplicit false

/-!
# Arguments

The words of a command line: global options, the name of a command, and the options and files of
that command. An option has a long name only; its value is the next word, or stands behind an
equals sign. The next word is no value if it looks like an option itself. Behind two hyphens every
word is a file. No option may be given twice to the same command.

The words are read from the left, and the first one that makes no sense has the line refused. The
one exception is the question for the version, which is answered as soon as it comes up.
-/

namespace ImageOverlay.CommandLine

/-- What is said of an image. -/
structure ImageOptions where
  width : UInt32 := 1024
  height : UInt32 := 1024
  tileWidth : UInt32 := 256
  tileHeight : UInt32 := 256
  item : String := "image"
deriving DecidableEq, Repr

/-- What to show of the settings. -/
inductive SettingsView where
  | values
  | schema
  | path
deriving DecidableEq, Repr

/-- What to do. A file that is not given is the standard input. -/
inductive Command where
  | params (image : ImageOptions)
  | convert (file : Option String) (withId : Bool)
  | region (file : Option String)
  | geojson (file : Option String)
  | simulate (image : ImageOptions) (region : Bool) (file : Option String)
  | config (view : SettingsView)
deriving DecidableEq, Repr

/-- What a command line asks for. -/
inductive Arguments where
  | version
  | refused
  | run (settings : Option String) (command : Command)
deriving DecidableEq, Repr

/-! ## Words -/

/-- An option a command has. -/
structure OptionName where
  name : String
  hasValue : Bool
deriving DecidableEq, Repr

/-- The options and files given to a command, in their order. -/
structure Given where
  options : List (String × Option String) := []
  files : List String := []
deriving DecidableEq, Repr

/-- Whether a word looks like an option. A single hyphen does not. -/
def isOption (word : String) : Bool :=
  match word.toList with
  | '-' :: _ :: _ => true
  | _ => false

/-- The name of a long option and the value behind its equals sign. -/
def longOption? (word : String) : Option (String × Option String) :=
  match word.toList with
  | '-' :: '-' :: rest =>
    let name := String.ofList (rest.takeWhile (· ≠ '='))
    match rest.dropWhile (· ≠ '=') with
    | _ :: v => some (name, some (String.ofList v))
    | [] => some (name, none)
  | _ => none

/-- Whether an option may be written with or without a value behind its equals sign, or needs
the next word. -/
inductive Attachment where
  | complete
  | needsNext

/-- How an option goes on, if a command has it. -/
def attachment? (known : List OptionName) (name : String) (v : Option String) :
    Option Attachment :=
  match known.find? (·.name == name) with
  | none => none
  | some o =>
    match o.hasValue, v with
    | true, none => some .needsNext
    | true, some _ => some .complete
    | false, none => some .complete
    | false, some _ => none

/-- One more option. -/
def Given.addOption (name : String) (v : Option String) (g : Given) : Given :=
  { g with options := g.options ++ [(name, v)] }

/-- More files. -/
def Given.addFiles (files : List String) (g : Given) : Given :=
  { g with files := g.files ++ files }

/-- The words of a command; `none` if one makes no sense. -/
def scan (known : List OptionName) : List String → Given → Option Given
  | [], given => some given
  | word :: rest, given =>
    if word = "--" then some (given.addFiles rest)
    else
      match longOption? word with
      | some (name, v) =>
        match attachment? known name v with
        | none => none
        | some .complete => scan known rest (given.addOption name v)
        | some .needsNext =>
          match rest with
          | [] => none
          | next :: rest =>
            if isOption next then none else scan known rest (given.addOption name (some next))
      | none => if isOption word then none else scan known rest (given.addFiles [word])

/-! ## Values -/

/-- Whether no option is given twice. -/
def Given.isProper (g : Given) : Bool := (g.options.map (·.1)).Nodup

/-- Whether a flag is given. -/
def Given.has (name : String) (g : Given) : Bool := (g.options.map (·.1)).contains name

/-- A number of 32 bits with a sign if one is wanted. -/
def number? (text : String) : Option UInt32 :=
  let (negative, ds) : Bool × List Char := match text.toList with
    | '-' :: ds => (true, ds)
    | '+' :: ds => (false, ds)
    | ds => (false, ds)
  if ds.isEmpty || !ds.all Decimal.isDigit then none
  else
    let n := Decimal.toNat ds
    if (negative && n != 0) || Nat.pow 2 32 ≤ n then none else some (UInt32.ofNat n)

/-- The number given to an option, or its default. -/
def Given.number? (name : String) (dflt : UInt32) (g : Given) : Option UInt32 :=
  match g.options.lookup name with
  | some (some text) => CommandLine.number? text
  | _ => some dflt

/-- A path, which is never empty. -/
def path? (text : String) : Option String := if text.isEmpty then none else some text

/-- The path given to an option, if there is one. -/
def Given.path? (name : String) (g : Given) : Option (Option String) :=
  match g.options.lookup name with
  | some (some text) => (CommandLine.path? text).map some
  | _ => some none

/-- The one file that may be given. -/
def Given.file? (g : Given) : Option (Option String) :=
  match g.files with
  | [] => some none
  | [file] => (CommandLine.path? file).map some
  | _ => none

/-- A command that takes no file. -/
def Given.noFile? (g : Given) : Option Unit := if g.files.isEmpty then some () else none

/-- What is said of the image. -/
def Given.image? (g : Given) : Option ImageOptions := do
  let dflt : ImageOptions := {}
  some
    { width := ← g.number? "width" dflt.width
      height := ← g.number? "height" dflt.height
      tileWidth := ← g.number? "tile-width" dflt.tileWidth
      tileHeight := ← g.number? "tile-height" dflt.tileHeight
      item := ((g.options.lookup "item").bind id).getD dflt.item }

/-! ## Commands -/

/-- The option that every command has. -/
def settingsOption : OptionName := ⟨"config", true⟩

/-- The options about the image. -/
def imageOptions : List OptionName :=
  ["width", "height", "tile-width", "tile-height", "item"].map (⟨·, true⟩)

/-- The options of a command, and the command that they make. -/
structure Grammar where
  options : List OptionName
  command? : Given → Option Command

/-- The commands by name. -/
def grammars : List (String × Grammar) :=
  [("params", ⟨imageOptions, fun g => do
      g.noFile?
      some (.params (← g.image?))⟩),
    ("convert", ⟨[⟨"with-id", false⟩], fun g => do
      some (.convert (← g.file?) (g.has "with-id"))⟩),
    ("region", ⟨[], fun g => do some (.region (← g.file?))⟩),
    ("geojson", ⟨[], fun g => do some (.geojson (← g.file?))⟩),
    ("simulate", ⟨⟨"region", false⟩ :: imageOptions, fun g => do
      some (.simulate (← g.image?) (g.has "region") (← g.file?))⟩),
    ("config", ⟨[⟨"schema", false⟩, ⟨"path", false⟩], fun g => do
      g.noFile?
      match g.has "schema", g.has "path" with
      | true, true => none
      | true, false => some (.config .schema)
      | false, true => some (.config .path)
      | false, false => some (.config .values)⟩)]

/-- The words behind the name of a command. Settings given here win over those given before. -/
def parseCommand (g : Grammar) (settings : Option String) (words : List String) : Arguments :=
  let parsed : Option Arguments := do
    let given ← scan (settingsOption :: g.options) words {}
    if given.isProper then
      let own ← given.path? settingsOption.name
      some (.run (own <|> settings) (← g.command? given))
    else none
  parsed.getD .refused

/-- Whether a word asks for the version. -/
def asksVersion (word : String) : Bool :=
  word == "--version" ||
    match word.toList with
    | '-' :: 'V' :: _ => true
    | _ => false

/-- All words of a command line, when `settings` were given already. -/
def parseFrom : List String → (settings : Option String) → Arguments
  | [], _ => .refused
  | word :: rest, settings =>
    if asksVersion word then .version
    else
      match longOption? word with
      | some (name, v) =>
        if settings.isSome then .refused
        else
          match attachment? [settingsOption] name v with
          | none => .refused
          | some .complete =>
            match v.bind path? with
            | some path => parseFrom rest (some path)
            | none => .refused
          | some .needsNext =>
            match rest with
            | [] => .refused
            | next :: rest =>
              match isOption next, path? next with
              | false, some path => parseFrom rest (some path)
              | _, _ => .refused
      | none =>
        match grammars.lookup word with
        | some g => parseCommand g settings rest
        | none => .refused

/-- All words of a command line. -/
def parse (words : List String) : Arguments := parseFrom words none

end ImageOverlay.CommandLine
