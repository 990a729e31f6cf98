import Poco.Exchange
import Poco.LineIndex

namespace Poco.Cli

def tokenLine (token : Token) : String :=
  "  " ++ Text.padLeft 4 (Text.decimal token.position.line.toNat) ++ ":" ++
    Text.padRight 4 (Text.decimal token.position.column.toNat) ++ " " ++
    Text.padRight 10 token.kind.name ++ " " ++ Text.quoted token.value ++ "\n"

def countLine (run : Run) : String :=
  let counts := TokenCounts.ofTokens run.tokens
  Text.decimal counts.total ++ " tokens (" ++
    Text.decimal counts.statements ++ " statements, " ++
    Text.decimal counts.identifiers ++ " identifiers, " ++
    Text.decimal counts.literals ++ " literals, " ++
    Text.decimal counts.symbols ++ " symbols), " ++
    Text.decimal run.diagnostics.length ++ " diagnostics\n"

def tokenReport (name : String) (run : Run) : String :=
  "Tokens for " ++ name ++ ":\n" ++ String.join (run.tokens.map tokenLine) ++ countLine run

/-- A diagnostic in its line, or on its own where the source has no such place. -/
def renderDiagnostic (index : LineIndex) (diagnostic : Diagnostic) : Except Fault String := do
  let message :=
    match diagnostic.code? with
    | some code => "[" ++ code ++ "] " ++ diagnostic.message
    | none => diagnostic.message
  match ← index.spanAt? diagnostic.line diagnostic.column with
  | some span => .ok (index.underline span message)
  | none => .ok ("Error: " ++ diagnostic.describe)

def diagnosticReport (source : String) (diagnostics : List Diagnostic) : Except Fault String :=
  if diagnostics.isEmpty then
    .ok ""
  else do
    let index := LineIndex.ofSource source.toList
    let rendered ← diagnostics.mapM (renderDiagnostic index)
    .ok ("\n" ++ String.join (rendered.map (· ++ "\n")))

end Poco.Cli
