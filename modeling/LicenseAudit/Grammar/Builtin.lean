import LicenseAudit.Grammar.Basic

/-!
# The built-in grammars

The table that files are looked up in. A grammar has line comments, block comments, or both.
-/

namespace LicenseAudit

/-- Block comments between `/*` and `*/`, with a star before every line. -/
def starBlock : BlockDelimiters where
  opener := "/*"
  closer := "*/"
  decoration := some "*"
  writtenOpener := some "/**"
  writtenCloser := some " */"
  writtenLinePrefix := some " *"

/-- Block comments of markup. -/
def markupBlock : BlockDelimiters where
  opener := "<!--"
  closer := "-->"
  writtenLinePrefix := some " "

/-- A grammar with slash line comments and star block comments. -/
def slashGrammar (name : Text) (extensions : List Text) (filenames : List Text := []) : Grammar :=
  ⟨name, extensions, filenames, ["//"], [starBlock]⟩

/-- A grammar with hash line comments only. -/
def hashGrammar (name : Text) (extensions : List Text) (filenames : List Text := []) : Grammar :=
  ⟨name, extensions, filenames, ["#"], []⟩

/-- The grammars in the order in which they are tried. -/
def builtinGrammars : List Grammar :=
  [slashGrammar "javascript" ["js", "mjs", "cjs", "jsx"],
    slashGrammar "typescript" ["ts", "tsx"],
    slashGrammar "java" ["java", "groovy"] ["jenkinsfile"],
    slashGrammar "c" ["c", "h", "cc", "cpp", "hpp"],
    hashGrammar "shell" ["sh", "bash"],
    hashGrammar "python" ["py"],
    hashGrammar "yaml" ["yml", "yaml"],
    hashGrammar "make" [] ["makefile", "dockerfile"],
    ⟨"css", ["css", "less", "sass", "scss"], [], [], [starBlock]⟩,
    ⟨"html", ["html", "htm", "xml", "svg"], [], [], [markupBlock]⟩]

/-- The built-in grammar of a name. -/
def grammarNamed? (name : Text) : Option Grammar := builtinGrammars.find? (·.name == name)

end LicenseAudit
