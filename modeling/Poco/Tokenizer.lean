import Poco.Log.Journal
import Poco.Tokenize

namespace Poco

/-- What is logged about a run over `source`: its start, its diagnostics, where
it halted and its end. -/
def Run.entries (preferences : LexicalPreferences) (logging : LoggingPreferences)
    (source : String) (run : Run) : List Entry :=
  let number := fun n : Nat => Text.decimal n
  let place := fun line column : UInt32 =>
    [("line", number line.toNat), ("column", number column.toNat)]
  let policy := ("policy", preferences.recoveryPolicy.name)
  let mirrored := run.diagnostics.filterMap fun diagnostic =>
    diagnostic.code?.map fun code =>
      Entry.error code diagnostic.message (place diagnostic.line diagnostic.column)
  let halts := run.haltedAt.toList.map fun position =>
    Entry.warning Code.haltedOnDiagnostic "Tokenization halted at first unrecognized character"
      (place position.line position.column)
  Entry.debugFor logging "Starting lexical analysis"
      [("chars", number source.length), policy] ++
    (if preferences.mirrorDiagnostics then mirrored else []) ++
    halts ++
    [Entry.success Code.tokenizationComplete "Tokenization completed"
      [("tokens", number run.tokens.length),
        ("diagnostics", number run.metrics.diagnosticCount), policy]]

def Run.log (preferences : LexicalPreferences) (logging : LoggingPreferences) (source : String)
    (run : Run) : Logged Unit :=
  Logged.logAll (run.entries preferences logging source)

structure Tokenizer where
  preferences : LexicalPreferences := {}
  /-- The counts of the last run alone. -/
  metrics : Metrics := {}

/-- Tokenize `source`, appending every diagnostic to `record`. -/
def Tokenizer.run {σ : Type} [Recorder σ] (tokenizer : Tokenizer) (source : String)
    (record : σ) : Except Fault (Run × Tokenizer × σ) := do
  let run ← tokenize tokenizer.preferences source
  .ok
    (run, { tokenizer with metrics := run.metrics },
      Recorder.appendAll record run.diagnostics)

end Poco
