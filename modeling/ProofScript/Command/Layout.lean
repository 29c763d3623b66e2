import ProofScript.Failure.Report

/-!
# Laying out reports

A report as lines of text: the title, the marked line with carets below the mark, and the footers.
This is how reports are printed on a terminal without colours. Nothing that is reported depends on
it.
-/
namespace ProofScript.Command

def severityWord : Severity → String
  | .error => "error"
  | .info => "info"
  | .note => "note"

def spaces (count : Nat) : String :=
  String.ofList (List.replicate count ' ')

/-- A line of the source with what is marked on it, below the place where it is found. -/
def layOutSnippet (margin : String) (snippet : Snippet) : List String :=
  let mark := snippet.annotation
  let chars := snippet.lines.toList
  let lead := ((Text.splitBytes? mark.start chars).map fun parts => parts.1.length).getD 0
  let width := ((Text.slice? mark.start mark.stop chars).map List.length).getD 0
  let number := toString snippet.firstLine
  [margin ++ "--> " ++ snippet.origin ++ ":" ++ number ++ ":" ++ toString (lead + 1),
   margin ++ " |",
   number ++ " | " ++ snippet.lines,
   margin ++ " | " ++ spaces lead ++ String.ofList (List.replicate (max 1 width) '^') ++ " " ++
     mark.label,
   margin ++ " |"]

/-- The report as it is printed. -/
def layOut (report : Report) : String :=
  let margin := (report.snippet.map fun snippet => spaces (toString snippet.firstLine).length).getD ""
  let footer (footer : Severity × String) : String :=
    margin ++ " = " ++ severityWord footer.1 ++ ": " ++ footer.2
  let title := severityWord report.severity ++ ": " ++ report.title
  "\n".intercalate
    (title :: ((report.snippet.map (layOutSnippet margin)).getD [] ++ report.footers.map footer))

end ProofScript.Command
