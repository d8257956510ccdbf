import GridRules.Log.Event
/-!
What a command leaves behind: a status, what it prints as its result, and what it says on the side.
-/

namespace GridRules

namespace Cli

/-- An error as it is shown in a panel. -/
structure ErrorPanel where
  title : String
  message : String
  details : List String
  hint : Option String

inductive Notice where
  | warning (text : String)
  | error (text : String)
  | panel (panel : ErrorPanel)
  /-- An event that the log writes. -/
  | event (fields : Entries)

structure Outcome where
  status : UInt8
  output : String
  notices : List Notice

/-- A command on its way: it can end with a status at any point, and what it has printed and said
until then stays. -/
structure Script (α : Type) where
  result : Except UInt8 α
  output : String
  notices : List Notice

namespace Script

variable {α β : Type}

def done (a : α) : Script α := ⟨.ok a, "", []⟩

def andThen (script : Script α) (next : α → Script β) : Script β :=
  match script.result with
  | .error status => ⟨.error status, script.output, script.notices⟩
  | .ok a =>
    let rest := next a
    ⟨rest.result, script.output ++ rest.output, script.notices ++ rest.notices⟩

instance : Monad Script where
  pure := done
  bind := andThen

def exit (status : UInt8) : Script α := ⟨.error status, "", []⟩

def print (text : String) : Script Unit := ⟨.ok (), text, []⟩

def say (notice : Notice) : Script Unit := ⟨.ok (), "", [notice]⟩

/-- Shows an error in a panel and ends. -/
def refuse (title message : String) (details : List String) (hint : Option String) : Script α := do
  say (.panel ⟨title, message, details, hint⟩)
  exit 1

/-- Logs events, as far as the log writes them. -/
def logAll (setup : LogSetup) (events : List LogEvent) : Script Unit :=
  ⟨.ok (), "", (events.filterMap (LogEvent.written? setup)).map .event⟩

/-- The outcome of a script; one that comes to its end has succeeded. -/
def outcome (script : Script Unit) : Outcome :=
  { status := match script.result with
      | .ok () => 0
      | .error status => status
    output := script.output
    notices := script.notices }

end Script

end Cli

end GridRules
