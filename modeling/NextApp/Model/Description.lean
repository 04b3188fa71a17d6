import NextApp.Lib.TextSearch

/-! # The description of a document

`formatDescription`, over the code units of a string. -/

namespace NextApp
open TextSearch

def newline : UInt16 := 10

/-- The tags as they are replaced, one after the other. -/
def replaceTags (text : Text) : Text :=
  let text :=
    if contains (codeUnits "<div class=\"ql-editor read-mode\">") text then
      replaceAll (replaceAll text (codeUnits "<div class=\"ql-editor read-mode\">") []) (codeUnits "</div>") []
    else text
  let text := replaceAll text (codeUnits "<br>") [newline]
  let text := replaceAll text (codeUnits "<br>") [newline]
  let text := replaceAll text (codeUnits "<p>") []
  replaceAll text (codeUnits "</p>") [newline]

/-- None when it throws. -/
def formatDescription (tr : String → Text) : Option Text → Option Text
  | none => some (tr "none")
  | some text =>
    let text := collapse newline (replaceTags text)
    if contains (codeUnits "<p>") text then
      substring text (indexOf (codeUnits "<p>") text + 3) (indexOf (codeUnits "</p") text)
    else some text

end NextApp
