import Poco.Json.Text
import Poco.Preferences.Record
import Poco.Tokenize

namespace Poco

def Json.naturalBelow? (limit : Nat) : Json → Option Nat
  | .integer (.ofNat n) => if n < limit then some n else none
  | _ => none

def Json.word64? (json : Json) : Option UInt64 :=
  (json.naturalBelow? UInt64.size).map UInt64.ofNat

def Json.word32? (json : Json) : Option UInt32 :=
  (json.naturalBelow? UInt32.size).map UInt32.ofNat

def Json.text? : Json → Option String
  | .string text => some text
  | _ => none

def Json.elements? : Json → Option (List Json)
  | .array elements => some elements
  | _ => none

namespace Position

def toJson (position : Position) : Json :=
  .object
    [("offset", .natural position.offset.toNat),
      ("line", .natural position.line.toNat),
      ("column", .natural position.column.toNat)]

def ofJson? (json : Json) : Option Position := do
  match ← json.fields? ["offset", "line", "column"] with
  | [some offset, some line, some column] =>
      let offset ← offset.word64?
      let line ← line.word32?
      let column ← column.word32?
      some { offset, line, column }
  | _ => none

end Position

namespace Span

def toJson (span : Span) : Json :=
  .object [("start", span.start.toJson), ("end", span.stop.toJson)]

def ofJson? (json : Json) : Option Span := do
  match ← json.fields? ["start", "end"] with
  | [some start, some stop] =>
      let start ← Position.ofJson? start
      let stop ← Position.ofJson? stop
      some { start, stop }
  | _ => none

end Span

def TokenKind.ofJson? (json : Json) : Option TokenKind := do
  let label ← json.choice?
  TokenKind.all.find? (fun kind => kind.label == label)

namespace Token

def toJson (token : Token) : Json :=
  .object
    [("kind", .string token.kind.label),
      ("value", .string token.value),
      ("span", token.span.toJson)]

def ofJson? (json : Json) : Option Token := do
  match ← json.fields? ["kind", "value", "span"] with
  | [some kind, some value, some span] =>
      let kind ← TokenKind.ofJson? kind
      let value ← value.text?
      let span ← Span.ofJson? span
      some { kind, value, span }
  | _ => none

def listOfJson? (json : Json) : Option (List Token) := do
  let elements ← json.elements?
  elements.mapM ofJson?

end Token

def Diagnostic.toJson (diagnostic : Diagnostic) : Json :=
  .object
    ([("severity", .string diagnostic.severity.name),
      ("message", .string diagnostic.message),
      ("line", .natural diagnostic.line.toNat),
      ("column", .natural diagnostic.column.toNat)] ++
      (diagnostic.kind.map fun kind => ("kind", Json.string kind.name)).toList)

def TokenCounts.toJson (counts : TokenCounts) : Json :=
  .object
    [("total", .natural counts.total),
      ("statements", .natural counts.statements),
      ("identifiers", .natural counts.identifiers),
      ("numbers", .natural counts.numbers),
      ("strings", .natural counts.strings),
      ("symbols", .natural counts.symbols),
      ("compound_operators", .natural counts.compoundOperators),
      ("literals", .natural counts.literals),
      ("has_content", .bool counts.hasContent)]

def Metrics.toJson (metrics : Metrics) : Json :=
  .object
    [("total_tokens", .natural metrics.totalTokens),
      ("statement_tokens", .natural metrics.statements),
      ("identifier_tokens", .natural metrics.identifiers),
      ("number_tokens", .natural metrics.numbers),
      ("string_tokens", .natural metrics.strings),
      ("symbol_tokens", .natural metrics.symbols),
      ("compound_operators", .natural metrics.compoundOperators),
      ("whitespace_skipped", .natural metrics.whitespaceSkipped),
      ("unrecognized_chars", .natural metrics.unrecognized),
      ("unterminated_strings", .natural metrics.unterminated),
      ("max_string_length", .natural metrics.longestString),
      ("halted", .bool metrics.halted),
      ("operators",
        .object (metrics.operators.entries.map fun entry => (entry.1, Json.natural entry.2))),
      ("diagnostic_count", .natural metrics.diagnosticCount)]

def Run.toJson (run : Run) : Json :=
  .object
    [("tokens", .list Token.toJson run.tokens),
      ("diagnostics", .list Diagnostic.toJson run.diagnostics)]

end Poco
