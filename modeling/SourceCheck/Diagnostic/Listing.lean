import SourceCheck.Diagnostic.Basic

/-!
The listing of diagnostics for a terminal: each message, then the source line when it is known, then
a caret under the column when that is known. The caret is indented by the tabs of the line and by a
space for every other character.
-/

namespace SourceCheck

def caretIndent (lineText : String) (column : Int) : List Char :=
  (lineText.toList.take (column - 1).toNat).map fun c => if c = '\t' then '\t' else ' '

namespace Message

def excerpt (m : Message) : String :=
  if m.location.lineText.isEmpty then ""
  else
    "    " ++ m.location.lineText ++ "\n" ++
      if 0 < m.location.position.column then
        "    " ++
          String.ofList (caretIndent m.location.lineText m.location.position.column) ++ "^\n"
      else ""

def listing (m : Message) (severity : Severity) : String :=
  m.display severity ++ "\n" ++ m.excerpt

end Message

namespace Diagnostic

def listing (d : Diagnostic) : String :=
  d.message.listing d.severity ++ String.join (d.notes.map fun note => note.listing .warning)

def listings (ds : List Diagnostic) : String := String.join (ds.map listing)

end Diagnostic

end SourceCheck
