import Poco.Alphabet
import Poco.Diagnostic
import Poco.Preferences
import Poco.Span

namespace Poco

/-- A kept character with its class and place. -/
structure Glyph where
  kind : CharClass
  char : Char
  span : Span
  deriving DecidableEq

structure Scan where
  kept : Array Glyph := #[]
  rejected : Array LexicalError := #[]
  /-- Where the scan stopped before the end of its source. -/
  haltedAt : Option Position := none

namespace Scan

def halted (scan : Scan) : Bool :=
  scan.haltedAt.isSome

def reject (scan : Scan) (c : Char) (position : Position) : Scan :=
  { scan with
    rejected := scan.rejected.push (.unrecognizedSyntax c position.line position.column) }

def keep (scan : Scan) (kind : CharClass) (c : Char) (span : Span) : Scan :=
  { scan with kept := scan.kept.push { kind, char := c, span } }

/-- Go on with a scan that has reached `position`. -/
def extend (policy : RecoveryPolicy) (scan : Scan) (position : Position) :
    List Char → Except Fault Scan
  | [] => .ok scan
  | c :: rest =>
      let kind := CharClass.of c
      if kind = .unrecognized then
        match policy with
        | .halt => .ok { scan.reject c position with haltedAt := some position }
        | .resynchronize =>
            match position.advance c with
            | .error fault => .error fault
            | .ok stop => extend policy (scan.reject c position) stop rest
      else
        match position.advance c with
        | .error fault => .error fault
        | .ok stop => extend policy (scan.keep kind c { start := position, stop }) stop rest

def ofSource (policy : RecoveryPolicy) (source : List Char) : Except Fault Scan :=
  extend policy {} Position.start source

end Scan

end Poco
