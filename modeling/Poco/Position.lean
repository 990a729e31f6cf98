import Poco.Fault
import Poco.Text.Decimal

namespace Poco

/-- A byte offset, counted from 0, with a line and a column, counted from 1. -/
structure Position where
  offset : UInt64
  line : UInt32
  column : UInt32
  deriving DecidableEq

namespace Position

/-- Where every source text begins. -/
def start : Position :=
  { offset := 0, line := 1, column := 1 }

/-- The position of whatever follows `c` when `c` stands here. -/
def advance (position : Position) (c : Char) : Except Fault Position :=
  if c = '\n' then do
    let offset ← addOffset position.offset 1
    let line ← nextIndex position.line
    .ok { offset, line, column := 1 }
  else do
    let offset ← addOffset position.offset c.utf8Size
    let column ← nextIndex position.column
    .ok { offset, line := position.line, column }

def advanceOver (position : Position) (text : List Char) : Except Fault Position :=
  text.foldlM advance position

def describe (position : Position) : String :=
  Text.decimal position.line.toNat ++ ":" ++ Text.decimal position.column.toNat

@[simp] theorem advanceOver_nil (position : Position) :
    position.advanceOver [] = .ok position := rfl

@[simp] theorem advanceOver_cons (position : Position) (c : Char) (rest : List Char) :
    position.advanceOver (c :: rest) = (position.advance c).bind (·.advanceOver rest) := by
  simp only [advanceOver, List.foldlM_cons]
  rfl

end Position

end Poco
