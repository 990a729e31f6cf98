import Poco.Lexeme
import Poco.Metrics

namespace Poco

structure Run where
  tokens : List Token
  /-- The scan's diagnostics, then that of an open string. -/
  diagnostics : List Diagnostic
  metrics : Metrics
  haltedAt : Option Position

namespace Run

def isSuccess (run : Run) : Bool :=
  run.diagnostics.isEmpty

def hasErrors (run : Run) : Bool :=
  run.diagnostics.any (·.isError)

end Run

/-- The errors of the lexemes.  Where the scan halted, the source did not end,
so an open string there is no error. -/
def Lexeme.errors (halted : Bool) (lexemes : List Lexeme) : List LexicalError :=
  if halted then
    []
  else
    lexemes.filterMap fun lexeme =>
      if lexeme.shape = .openString then
        let position := lexeme.first.span.start
        some (.unterminatedString position.line position.column)
      else
        none

def Metrics.ofRun (preferences : LexicalPreferences) (scan : Scan) (lexemes : List Lexeme)
    (tokens : List Token) : Metrics :=
  tokens.foldl (Metrics.add preferences)
    { whitespaceSkipped := (lexemes.filter (fun lexeme => lexeme.shape == .blank)).length
      unrecognized := scan.rejected.size
      unterminated := (Lexeme.errors scan.halted lexemes).length
      halted := scan.halted }

/-- One run over the characters of `source`. -/
def tokenizeChars (preferences : LexicalPreferences) (source : List Char) : Except Fault Run := do
  let scan ← Scan.ofSource preferences.recoveryPolicy source
  let lexemes := Lexeme.ofGlyphs scan.kept.toList
  let tokens ← Lexeme.tokens lexemes
  .ok
    { tokens
      diagnostics :=
        (scan.rejected.toList ++ Lexeme.errors scan.halted lexemes).map (·.diagnostic)
      metrics := Metrics.ofRun preferences scan lexemes tokens
      haltedAt := scan.haltedAt }

def tokenize (preferences : LexicalPreferences) (source : String) : Except Fault Run :=
  tokenizeChars preferences source.toList

end Poco
