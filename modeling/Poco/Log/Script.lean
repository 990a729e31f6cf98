import Poco.Log.Journal

namespace Poco

inductive Step where
  | setSource (name : String)
  | clearSource
  | log (entries : List Entry)
  | logDetached (entry : Entry)
  /-- Steps inside a block that names a source. -/
  | block (name : String) (steps : List Step)

/-- What shows after a step. -/
structure Moment where
  source : Option String
  events : List Event

namespace Step

def observe : Logged Moment := do
  let journal ← get
  set { journal with events := #[] }
  return { source := journal.source, events := journal.events.toList }

mutual

def play : Step → Logged (List Moment)
  | .setSource name => do
      Logged.setSource name
      return [← observe]
  | .clearSource => do
      Logged.clearSource
      return [← observe]
  | .log entries => do
      Logged.logAll entries
      return [← observe]
  | .logDetached entry => do
      modify (·.logDetached entry)
      return [← observe]
  | .block name steps => do
      let inner ← Logged.withSource name (playAll steps)
      return inner ++ [← observe]

def playAll : List Step → Logged (List Moment)
  | [] => return []
  | step :: rest => do
      let first ← play step
      let others ← playAll rest
      return first ++ others

end

end Step

end Poco
