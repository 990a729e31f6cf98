import Poco.Dictionary
import Poco.Preferences
import Poco.Token

namespace Poco

structure Metrics where
  totalTokens : Nat := 0
  statements : Nat := 0
  identifiers : Nat := 0
  numbers : Nat := 0
  strings : Nat := 0
  symbols : Nat := 0
  compoundOperators : Nat := 0
  whitespaceSkipped : Nat := 0
  unrecognized : Nat := 0
  unterminated : Nat := 0
  /-- The most characters in one string. -/
  longestString : Nat := 0
  halted : Bool := false
  operators : Dictionary Nat := .empty

namespace Metrics

def diagnosticCount (metrics : Metrics) : Nat :=
  metrics.unrecognized + metrics.unterminated

def addDetail (trackOperators : Bool) (metrics : Metrics) (token : Token) : Metrics :=
  match token.kind with
  | .statement => { metrics with statements := metrics.statements + 1 }
  | .identifier => { metrics with identifiers := metrics.identifiers + 1 }
  | .number => { metrics with numbers := metrics.numbers + 1 }
  | .string =>
      { metrics with
        strings := metrics.strings + 1
        longestString := max metrics.longestString token.value.length }
  | .symbol =>
      let compound := if 1 < token.value.length then 1 else 0
      { metrics with
        symbols := metrics.symbols + 1
        compoundOperators := metrics.compoundOperators + compound
        operators :=
          if trackOperators then
            metrics.operators.alter token.value (fun count => count.getD 0 + 1)
          else
            metrics.operators }

def add (preferences : LexicalPreferences) (metrics : Metrics) (token : Token) : Metrics :=
  let metrics := { metrics with totalTokens := metrics.totalTokens + 1 }
  if preferences.detailedMetrics then
    metrics.addDetail preferences.trackOperators token
  else
    metrics

end Metrics

end Poco
