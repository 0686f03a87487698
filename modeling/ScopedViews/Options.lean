import ScopedViews.Json.Basic
import ScopedViews.OrderedMap
import ScopedViews.Path
import ScopedViews.Script.Platform
import ScopedViews.Text.Blank
import ScopedViews.Text.Find
/-!
# Options of a build

Where compiled files go, how they are included, and what scripts are lowered to.  Options are
read from JSON, where each one that is missing has a default; `Options.validate` checks what does
not depend on any view.
-/

namespace ScopedViews

/-- What stands for a path in an include directive. -/
def pathPlaceholder : String := "$path"

/-- What stands for a function in the readiness wrapper. -/
def functionPlaceholder : String := "$fn"

/-- A directive with the first occurrence of its placeholder filled in. -/
def fillIn (directive placeholder value : String) : String :=
  Text.replaceFirst directive placeholder value

/-- The commands that compile styles of other dialects, by dialect. -/
abbrev StyleDialects := OrderedMap String (List String)

structure Options where
  scriptDist : String := ""
  styleDist : String := ""
  publicRoot : Path := ⟨"public"⟩
  templateRoot : Path := ⟨"resources/views"⟩
  templateDist : Path := ⟨"storage/vernis/views"⟩
  templateSuffix : String := ".blade.php"
  minify : Bool := false
  version : String := ""
  styleInclude : String :=
    "@push('css')\n    <link href=\"\x7b\x7b asset('$path') \x7d\x7d\" rel=\"stylesheet\" " ++
      "type=\"text/css\">\n@endpush"
  scriptInclude : String :=
    "@push('scripts')\n    <script src=\"\x7b\x7b asset('$path') \x7d\x7d\"></script>\n@endpush"
  loaderInclude : String := "@include('$path')"
  scriptTarget : String := "es5"
  readyWrapper : String := "$($fn);"
  styleDialects : StyleDialects := .empty

/-- What can be wrong with options. -/
inductive OptionsError where
  | missingScriptDist
  | missingStyleDist
  | missingPlaceholder (option placeholder : String)
  | invalidScriptTarget (target : String) (fault : Script.PlatformFault)
deriving Repr, DecidableEq

namespace OptionsError

def message : OptionsError → String
  | .missingScriptDist => "missing `scriptDistPath` option"
  | .missingStyleDist => "missing `styleDistPath` option"
  | .missingPlaceholder option placeholder =>
    "option `" ++ option ++ "` must contain the `" ++ placeholder ++ "` placeholder"
  | .invalidScriptTarget target fault =>
    "invalid `scriptTarget` `" ++ target ++ "`: " ++ fault.message

end OptionsError

namespace Options

/-- The names of the options in JSON, in the order in which an array gives them. -/
def keys : List String := [
  "scriptDistPath", "styleDistPath", "publicRoot", "templateRoot", "templateDist",
  "templateSuffix", "minify", "version", "styleInclude", "scriptInclude", "loaderInclude",
  "scriptTarget", "readyWrapper", "styleDialects"]

/-- The commands by dialect that a JSON object gives; a dialect given twice has the later one. -/
def dialects? (j : Json) : Option StyleDialects := do
  let members ← j.members?
  let entries ← members.mapM fun (dialect, command) => (command.strings?).map (dialect, ·)
  return .ofList entries

/-- The options of which some are given; one of the wrong kind makes all of them unreadable. -/
def ofGiven? (given : String → Option Json) : Option Options := do
  let read {α : Type} (key : String) (kind : Json → Option α) (default : α) : Option α :=
    match given key with
    | none => some default
    | some j => kind j
  let path (j : Json) : Option Path := j.string?.map fun (text : String) => ⟨text⟩
  let d : Options := { }
  return {
    scriptDist := ← read "scriptDistPath" Json.string? d.scriptDist
    styleDist := ← read "styleDistPath" Json.string? d.styleDist
    publicRoot := ← read "publicRoot" path d.publicRoot
    templateRoot := ← read "templateRoot" path d.templateRoot
    templateDist := ← read "templateDist" path d.templateDist
    templateSuffix := ← read "templateSuffix" Json.string? d.templateSuffix
    minify := ← read "minify" Json.bool? d.minify
    version := ← read "version" Json.string? d.version
    styleInclude := ← read "styleInclude" Json.string? d.styleInclude
    scriptInclude := ← read "scriptInclude" Json.string? d.scriptInclude
    loaderInclude := ← read "loaderInclude" Json.string? d.loaderInclude
    scriptTarget := ← read "scriptTarget" Json.string? d.scriptTarget
    readyWrapper := ← read "readyWrapper" Json.string? d.readyWrapper
    styleDialects := ← read "styleDialects" dialects? d.styleDialects }

/-- Options from an object, where no option may be given twice, or from an array that gives them
in order.  Other members of an object are passed over. -/
def ofJson? : Json → Option Options
  | .object members =>
    if ((members.map Prod.fst).filter keys.contains).Nodup then
      ofGiven? fun key => members.lookup key
    else none
  | .array items =>
    if items.length ≤ keys.length then ofGiven? fun key => (keys.zip items).lookup key else none
  | _ => none

/-- The directives that must hold a placeholder, in the order in which they are checked. -/
def placeholders (o : Options) : List (String × String × String) := [
  ("styleInclude", o.styleInclude, pathPlaceholder),
  ("scriptInclude", o.scriptInclude, pathPlaceholder),
  ("loaderInclude", o.loaderInclude, pathPlaceholder),
  ("readyWrapper", o.readyWrapper, functionPlaceholder)]

/-- The first directive that lacks its placeholder. -/
def lacking? (o : Options) : Option OptionsError :=
  (o.placeholders.find? fun (_, directive, placeholder) => !Text.contains directive placeholder).map
    fun (option, _, placeholder) => .missingPlaceholder option placeholder

/-- The first thing that is wrong with the options. -/
def fault? (o : Options) : Option OptionsError :=
  if (Text.trim o.scriptDist).isEmpty then some .missingScriptDist
  else if (Text.trim o.styleDist).isEmpty then some .missingStyleDist
  else
    match o.lacking? with
    | some e => some e
    | none => (Script.Platform.fault? o.scriptTarget).map (.invalidScriptTarget o.scriptTarget)

/-- Whether nothing is wrong with the options. -/
def isValid (o : Options) : Bool := o.fault?.isNone

end Options

end ScopedViews
