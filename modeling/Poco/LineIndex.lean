import Poco.Span

namespace Poco

structure SourceLine where
  /-- The byte offset of the first character. -/
  start : Nat
  /-- The characters before the newline. -/
  text : List Char
  deriving DecidableEq

structure LineIndex where
  source : List Char
  lines : Array SourceLine

namespace LineIndex

/-- Go on with a line that began at `start`, whose characters so far are
`text`, last first, and which has reached `offset`. -/
def linesOnto (done : Array SourceLine) (start : Nat) (text : List Char) (offset : Nat) :
    List Char → Array SourceLine
  | [] => done.push { start, text := text.reverse }
  | c :: rest =>
      let next := offset + c.utf8Size
      if c = '\n' then
        linesOnto (done.push { start, text := text.reverse }) next [] next rest
      else
        linesOnto done start (c :: text) next rest

def ofSource (source : List Char) : LineIndex :=
  { source, lines := linesOnto #[] 0 [] 0 source }

def lineStarts (index : LineIndex) : List Nat :=
  index.lines.toList.map (·.start)

def lineCount (index : LineIndex) : Nat :=
  index.lines.size

def line? (index : LineIndex) (line : UInt32) : Option SourceLine :=
  if line = 0 then none else index.lines[line.toNat - 1]?

/-- A line's text without the carriage returns at its end. -/
def lineText? (index : LineIndex) (line : UInt32) : Option (List Char) :=
  (index.line? line).map fun line => (line.text.reverse.dropWhile (· == '\r')).reverse

/-- The span of the first of `text`, which begins at `position`, in the wanted
column. -/
def findColumn (column : UInt32) (position : Position) :
    List Char → Except Fault (Option Span)
  | [] => .ok none
  | c :: rest =>
      if position.column = column then
        (Span.single position c).map some
      else if c = '\n' then
        .ok none
      else
        match position.advance c with
        | .error fault => .error fault
        | .ok next => findColumn column next rest

/-- The span of the character at a line and column, both counted from 1. -/
def spanAt? (index : LineIndex) (line column : UInt32) : Except Fault (Option Span) :=
  match index.line? line with
  | none => .ok none
  | some found =>
      let newline := if line.toNat < index.lines.size then ['\n'] else []
      findColumn column { offset := UInt64.ofNat found.start, line, column := 1 }
        (found.text ++ newline)

/-- How many carets mark `span` under a line of `width` characters: those up to
its end, or up to the end of the line when it goes on behind it, and at least
one. -/
def caretCount (span : Span) (width : Nat) : Nat :=
  let stop :=
    if span.start.line = span.stop.line then span.stop.column.toNat else width + 1
  max 1 (stop - span.start.column.toNat)

/-- A message with the place of `span` and, if there is such a line, the line
with carets below. -/
def underline (index : LineIndex) (span : Span) (message : String) : String :=
  let place := "Error: " ++ message ++ "\n  --> " ++ span.start.describe ++ "\n"
  match index.lineText? span.start.line with
  | none => place
  | some text =>
      let number := Text.decimal span.start.line.toNat
      let margin := Text.spaces number.length
      let carets := String.ofList (List.replicate (caretCount span text.length) '^')
      place ++ margin ++ " |\n" ++
        number ++ " | " ++ String.ofList text ++ "\n" ++
        margin ++ " | " ++ Text.spaces (span.start.column.toNat - 1) ++ carets ++ "\n"

end LineIndex

end Poco
