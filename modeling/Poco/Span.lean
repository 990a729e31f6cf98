import Poco.Position
import Poco.Text.Bytes

namespace Poco

/-- From one place up to, not including, another. -/
structure Span where
  start : Position
  stop : Position
  deriving DecidableEq

namespace Span

/-- The span between two positions, which have to come in order. -/
def between (start stop : Position) : Except Fault Span :=
  if start.offset ≤ stop.offset then
    .ok { start, stop }
  else
    .error .reversedSpan

def single (position : Position) (c : Char) : Except Fault Span := do
  let stop ← position.advance c
  .ok { start := position, stop }

/-- The span from the earlier start to the later stop.  On equal offsets the
second span's position is the one kept. -/
def merge (left right : Span) : Span :=
  { start := if left.start.offset < right.start.offset then left.start else right.start
    stop := if right.stop.offset < left.stop.offset then left.stop else right.stop }

def length (span : Span) : Except Fault UInt64 :=
  if span.start.offset ≤ span.stop.offset then
    .ok (span.stop.offset - span.start.offset)
  else
    .error .subtractionOverflow

def isEmpty (span : Span) : Bool :=
  span.start.offset == span.stop.offset

def contains (span : Span) (position : Position) : Bool :=
  decide (span.start.offset ≤ position.offset) && decide (position.offset < span.stop.offset)

/-- The characters that the span covers in `source`, when it fits. -/
def slice (span : Span) (source : List Char) : Option (List Char) :=
  Text.sliceBytes span.start.offset.toNat span.stop.offset.toNat source

/-- Both ends, with the line said once when they share it. -/
def describe (span : Span) : String :=
  if span.start.line = span.stop.line then
    span.start.describe ++ "-" ++ Text.decimal span.stop.column.toNat
  else
    span.start.describe ++ "-" ++ span.stop.describe

end Span

end Poco
