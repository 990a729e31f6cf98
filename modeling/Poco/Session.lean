import Poco.Tokenizer

namespace Poco

/-! Everything happens when its turn comes: the scan reports a character outside the
alphabet as soon as it meets it, an open string is reported when it is read, and
a diagnostic that is mirrored is logged before it is recorded. -/

/-- How the journal mirrors a diagnostic.  Only the lexer's own have a code. -/
def Diagnostic.mirror? (diagnostic : Diagnostic) : Option Entry :=
  diagnostic.code?.map fun code =>
    Entry.error code diagnostic.message
      [("line", Text.decimal diagnostic.line.toNat),
        ("column", Text.decimal diagnostic.column.toNat)]

structure Session (σ : Type) where
  tokenizer : Tokenizer := {}
  record : σ
  journal : Journal := {}

namespace Session

variable {σ : Type}

def preferences (session : Session σ) : LexicalPreferences :=
  session.tokenizer.preferences

def logAll (session : Session σ) (entries : List Entry) : Session σ :=
  { session with journal := session.journal.logAll entries }

def count (session : Session σ) (change : Metrics → Metrics) : Session σ :=
  { session with
    tokenizer := { session.tokenizer with metrics := change session.tokenizer.metrics } }

variable [Recorder σ]

def append (session : Session σ) (diagnostic : Diagnostic) : Session σ :=
  { session with record := Recorder.append session.record diagnostic }

/-- Append a diagnostic that a run has found, mirrored before if that is preferred. -/
def report (session : Session σ) (diagnostic : Diagnostic) : Session σ :=
  let mirrored :=
    if session.preferences.mirrorDiagnostics then diagnostic.mirror?.toList else []
  (session.logAll mirrored).append diagnostic

/-- Go on with a scan that has reached `position`, reporting what it rejects. -/
def extendScan (policy : RecoveryPolicy) (session : Session σ) (scan : Scan)
    (position : Position) : List Char → Except Fault (Scan × Session σ)
  | [] => .ok (scan, session)
  | c :: rest =>
      let kind := CharClass.of c
      if kind = .unrecognized then
        let error := LexicalError.unrecognizedSyntax c position.line position.column
        let session := session.report error.diagnostic
        let scan := scan.reject c position
        match policy with
        | .halt => .ok ({ scan with haltedAt := some position }, session)
        | .resynchronize =>
            match position.advance c with
            | .error fault => .error fault
            | .ok stop => extendScan policy session scan stop rest
      else
        match position.advance c with
        | .error fault => .error fault
        | .ok stop =>
            extendScan policy session (scan.keep kind c { start := position, stop }) stop rest

/-- Count a blank, or report an open string.  Where the scan halted, the source
did not end, so an open string is let go. -/
def passOver (halted : Bool) (session : Session σ) (lexeme : Lexeme) : Session σ :=
  if lexeme.shape = .openString then
    if halted then
      session
    else
      let position := lexeme.first.span.start
      let error := LexicalError.unterminatedString position.line position.column
      (session.count fun metrics =>
        { metrics with unterminated := metrics.unterminated + 1 }).report error.diagnostic
  else
    session.count fun metrics =>
      { metrics with whitespaceSkipped := metrics.whitespaceSkipped + 1 }

/-- Read what is left lexeme by lexeme, adding the tokens to those in `done`. -/
def readOnto (halted : Bool) (session : Session σ) (done : Array Token) :
    List Glyph → Except Fault (Array Token × Session σ)
  | [] => .ok (done, session)
  | first :: tail =>
      let found := Lexeme.read first tail
      match found.1.token? with
      | .error fault => .error fault
      | .ok (some token) =>
          let session := session.count (·.add session.preferences token)
          readOnto halted session (done.push token) found.2
      | .ok none => readOnto halted (session.passOver halted found.1) done found.2
termination_by glyphs => glyphs.length
decreasing_by all_goals exact Lexeme.read_shorter first tail

/-- Tokenize `source`, with the counts starting afresh. -/
def run (session : Session σ) (source : String) : Except Fault (List Token × Session σ) := do
  let preferences := session.preferences
  let policy := ("policy", preferences.recoveryPolicy.name)
  let number := fun n : Nat => Text.decimal n
  let session := (session.count fun _ => {}).logAll
    (Entry.debugFor session.journal.preferences "Starting lexical analysis"
      [("chars", number source.length), policy])
  let (scan, session) ←
    session.extendScan preferences.recoveryPolicy {} Position.start source.toList
  let session := session.count fun metrics =>
    { metrics with unrecognized := scan.rejected.size, halted := scan.halted }
  let (tokens, session) ← session.readOnto scan.halted #[] scan.kept.toList
  let halts := scan.haltedAt.toList.map fun position =>
    Entry.warning Code.haltedOnDiagnostic "Tokenization halted at first unrecognized character"
      [("line", number position.line.toNat), ("column", number position.column.toNat)]
  let found := session.tokenizer.metrics.diagnosticCount
  let session := session.logAll
    (halts ++
      [Entry.success Code.tokenizationComplete "Tokenization completed"
        [("tokens", number tokens.size), ("diagnostics", number found), policy]])
  .ok (tokens.toList, session)

end Session

end Poco
