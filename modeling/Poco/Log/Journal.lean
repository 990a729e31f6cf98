import Poco.Log.Event

namespace Poco

structure Journal where
  limits : LogLimits := Build.development.log
  preferences : LoggingPreferences := {}
  source : Option String := none
  events : Array Event := #[]

namespace Journal

/-- The source name that events carry. -/
def attachedSource (journal : Journal) : Option String :=
  if journal.preferences.includeSource then journal.source else none

def record (journal : Journal) (event : Event) : Journal :=
  { journal with events := journal.events.push event }

def log (journal : Journal) (entry : Entry) : Journal :=
  journal.record (entry.event journal.limits journal.attachedSource)

def logAll (journal : Journal) (entries : List Entry) : Journal :=
  entries.foldl log journal

/-- Log without the current source. -/
def logDetached (journal : Journal) (entry : Entry) : Journal :=
  journal.record (entry.event journal.limits none)

def setSource (journal : Journal) (source : Option String) : Journal :=
  { journal with source }

end Journal

/-- A program that writes to the journal. -/
abbrev Logged := StateM Journal

namespace Logged

def log (entry : Entry) : Logged Unit :=
  modify (·.log entry)

def logAll (entries : List Entry) : Logged Unit :=
  modify (·.logAll entries)

def setSource (name : String) : Logged Unit :=
  modify (·.setSource (some name))

def clearSource : Logged Unit :=
  modify (·.setSource none)

/-- Run `body` under a source name and bring back the name from before. -/
def withSource {α : Type} (name : String) (body : Logged α) : Logged α := do
  let before := (← get).source
  setSource name
  let result ← body
  modify (·.setSource before)
  return result

end Logged

end Poco
