import ScopedViews.Project
/-!
# The command line

`build`, which is also called `atelier` and is what is done without a command, builds the project
in a directory.
-/

namespace ScopedViews.CommandLine

/-- What a build writes to the output. -/
inductive Format where
  | stats | json
deriving DecidableEq, Repr

structure BuildArguments where
  root : Option Path := none
  options : Option Path := none
  minify : Bool := false
  versionTag : Option String := none
  format : Option Format := none
deriving DecidableEq, Repr

inductive Invocation where
  | build (a : BuildArguments)
  | version
deriving DecidableEq, Repr

/-- The options of `build` that take a value. -/
inductive Valued where
  | root | options | versionTag | format
deriving DecidableEq, Repr

/-- Takes a value, unless the option has one already or the value does not fit. -/
def BuildArguments.give? (a : BuildArguments) (o : Valued) (value : String) :
    Option BuildArguments :=
  match o with
  | .root => if a.root.isSome || value = "" then none else some { a with root := some ⟨value⟩ }
  | .options =>
    if a.options.isSome || value = "" then none else some { a with options := some ⟨value⟩ }
  | .versionTag => if a.versionTag.isSome then none else some { a with versionTag := some value }
  | .format =>
    if a.format.isSome then none
    else
      match value with
      | "stats" => some { a with format := some .stats }
      | "json" => some { a with format := some .json }
      | _ => none

/-- The option that a long name stands for. -/
def longOption? : String → Option Valued
  | "root" => some .root
  | "config" => some .options
  | "version-tag" => some .versionTag
  | "format" => some .format
  | _ => none

def shortOption? : Char → Option Valued
  | 'r' => some .root
  | 'c' => some .options
  | 'f' => some .format
  | _ => none

/-- An argument as it is written. -/
inductive Written where
  /-- `--name` or `--name=value` -/
  | long (name : String) (value : Option String)
  /-- `-x`, with what follows the letter -/
  | short (letter : Char) (rest : List Char)
  | separator
  | plain (text : String)
deriving DecidableEq, Repr

def Written.ofText (text : String) : Written :=
  match text.toList with
  | ['-', '-'] => .separator
  | '-' :: '-' :: name =>
    match name.span (· ≠ '=') with
    | (name, _ :: value) => .long (String.ofList name) (some (String.ofList value))
    | (name, []) => .long (String.ofList name) none
  | '-' :: letter :: rest => .short letter rest
  | _ => .plain text

/-- Whether an argument can be the value of the option in front of it. -/
def isValue (text : String) : Bool :=
  match Written.ofText text with
  | .plain _ => true
  | _ => false

/-- The value written behind a letter. -/
def attachedValue : List Char → String
  | '=' :: value => String.ofList value
  | value => String.ofList value

/-- Reads the arguments of `build`. -/
def buildArguments? : List String → BuildArguments → Option BuildArguments
  | [], a => some a
  | text :: rest, a =>
    match Written.ofText text with
    | .separator => if rest.isEmpty then some a else none
    | .plain _ => none
    | .long "minify" none =>
      if a.minify then none else buildArguments? rest { a with minify := true }
    | .long name (some value) =>
      ((longOption? name).bind (a.give? · value)).bind (buildArguments? rest)
    | .long name none =>
      match longOption? name, rest with
      | some o, value :: rest =>
        if isValue value then (a.give? o value).bind (buildArguments? rest) else none
      | _, _ => none
    | .short letter [] =>
      match shortOption? letter, rest with
      | some o, value :: rest =>
        if isValue value then (a.give? o value).bind (buildArguments? rest) else none
      | _, _ => none
    | .short letter value =>
      ((shortOption? letter).bind (a.give? · (attachedValue value))).bind (buildArguments? rest)

/-- What the arguments ask for, if they make sense. -/
def invocation? : List String → Option Invocation
  | [] => some (.build { })
  | first :: rest =>
    match Written.ofText first with
    | .plain name =>
      if name = "build" || name = "atelier" then (buildArguments? rest { }).map Invocation.build
      else none
    | .long "version" none | .short 'V' _ => some .version
    | .separator => if rest.isEmpty then some (.build { }) else none
    | _ => none

/-- What a run leaves behind: its exit code, what it writes, and the files. -/
structure Result where
  exit : Nat
  output : String := ""
  notices : List Notice := []
  notes : List String := []
  /-- What sums a build up; how long it took belongs behind it. -/
  summary : Option String := none
  tree : FileTree

/-- The name and number of the program. -/
def versionLine : String := "vernis 0.3.0\n"

/-- The options of a build: those of the project's file, of which some are given anew. -/
def optionsFor (a : BuildArguments) (t : FileTree) (root : Path) :
    Except Project.OptionsFileError Options := do
  let o ← Project.readOptions t ((a.options).getD (root.join ⟨Project.optionsFile⟩))
  return { o with
    minify := o.minify || a.minify
    version := (a.versionTag).getD o.version }

/-- Builds the views of a project. -/
def build (e : Engine) (a : BuildArguments) (t : FileTree) (root : Path) : Result :=
  let viewRoot := root.join e.options.templateRoot
  match Project.views t viewRoot e.options.templateSuffix with
  | [] =>
    { exit := 1, tree := t
      notes := ["No *" ++ e.options.templateSuffix ++ " files found under " ++ viewRoot.text] }
  | views =>
    let b := e.compileAll (Project.load viewRoot) views (DirectoryStore.mk root t)
    { exit := if b.failures = 0 then 0 else 1
      output := if a.format = some .json then b.report ++ "\n" else ""
      notices := b.notices
      summary := some b.summary
      tree := b.store.tree }

/-- What is said to arguments that make no sense. -/
def usage : String :=
  "Usage: vernis [build] [-r ROOT] [-c CONFIG] [--minify] [--version-tag TAG] [-f stats|json]"

/-- Does what arguments ask for in the directory `here`. -/
def perform (t : FileTree) (here : Path) : Invocation → Result
  | .version => { exit := 0, output := versionLine, tree := t }
  | .build a =>
    let root := (a.root).getD here
    match optionsFor a t root with
    | .error e => { exit := 2, notes := ["Error: " ++ e.message], tree := t }
    | .ok o =>
      match Engine.ofOptions o with
      | .error e =>
        { exit := 2, notes := ["Error: invalid configuration: " ++ e.message], tree := t }
      | .ok e => build e a t root

/-- Runs the program with arguments in the directory `here`, if they make sense. -/
def run? (arguments : List String) (t : FileTree) (here : Path) : Option Result :=
  (invocation? arguments).map (perform t here)

end ScopedViews.CommandLine
