import ScopedViews.Block
import ScopedViews.Css.Minify
import ScopedViews.CompileFault
import ScopedViews.Style.Command
/-!
# Style assets

A style block is compiled by what its dialect calls for, and minified if the build is.  Plain
style sheets stay as they are until then.
-/

namespace ScopedViews

/-- What a style is compiled to, or what is said of the failure. -/
abbrev StyleCompiler := (source dialect filename : String) → Except String String

namespace StyleCompiler

/-- Hands a style to the command of its dialect.  Dialects are named in lower case. -/
def ofCommands (commands : StyleDialects) : StyleCompiler := fun source dialect _ =>
  let byName := (commands.entries.toList.map fun (d, c) => (Text.asciiLower d, c)).reverse
  match byName.lookup dialect with
  | some command => Command.apply command source
  | none =>
    if dialect = Block.defaultDialect then .ok source
    else
      .error ("no compiler configured for dialect \x60" ++ dialect ++
        "\x60 (add it to \x60styleDialects\x60)")

end StyleCompiler

/-- The contents of a style asset. -/
def compileStyle (compiler : StyleCompiler) (source dialect filename : String) (minify : Bool) :
    Except CompileFault String :=
  match compiler source dialect filename with
  | .error message => .error (.style dialect message)
  | .ok css =>
    if minify then
      match Css.minify? css with
      | some short => .ok short
      | none => .error (.style dialect "CSS parse error")
    else .ok css

end ScopedViews
