import GridRules.Log.Event
import GridRules.Options.Context
/-!
Runs of option functions. What a run asks of others is answered by collaborators: whoever fetches,
resolves secrets, extracts rows with a model, or runs a function elsewhere. A run has a result or
breaks off, and keeps its warnings, the calls it made and the events it logged.
-/

namespace GridRules

structure HttpRequest where
  url : String
  headers : Assoc String
  timeout : Binary64
  deriving DecidableEq

structure HttpReply where
  status : Int
  contentType : Option String
  body : List UInt8

inductive FetchAnswer where
  | reply (reply : HttpReply)
  /-- The request failed, in a way that has a name. -/
  | failed (kind : String)
  | cancelled

inductive SecretAnswer where
  | value (v : Value)
  | failed (kind : String)

structure AiRequest where
  prompt : String
  input : Value
  maxRows : Positive
  deriving DecidableEq

inductive AiAnswer where
  | value (v : Value)
  | failed (reason : String)

structure RemoteRequest where
  functionId : String
  context : OptionsContext
  args : Entries
  forceRefresh : Bool
  ttlOverride : Option Int
  deriving DecidableEq

inductive RemoteAnswer where
  | options (options : List OptionItem) (warnings : List String)
  | failed (reason : String)

/-- Those that a run asks. Without a fetcher of its own a run cannot reach the network. -/
structure Collaborators where
  fetch : HttpRequest → FetchAnswer
  secret : Option (String → SecretAnswer)
  ai : Option (AiRequest → AiAnswer)
  remote : Option (RemoteRequest → RemoteAnswer)
  /-- Whether the stack has room to read a JSON text: lists and objects that are nested in each
  other too deeply exhaust it, and how deep that is depends on what else stands on it. -/
  roomFor : String → Bool := fun _ => true
  /-- What the platform reads bytes with under a name, beside the character sets of `Charset`; the
  name may be that of an encoding which is none of texts. -/
  codec : String → Option (List UInt8 → Option String) := fun _ => none

inductive Call where
  | fetch (request : HttpRequest)
  | secret (refId : String)
  | ai (request : AiRequest)
  | remote (request : RemoteRequest)
  deriving DecidableEq

/-- Why a run breaks off. -/
inductive Interruption where
  | fault (fault : Fault)
  | cancelled
  | failed (reason : String)
  deriving DecidableEq

structure Run (α : Type) where
  result : Except Interruption α
  warnings : List String
  calls : List Call
  events : List LogEvent

namespace Run

variable {α β : Type}

def done (a : α) : Run α := ⟨.ok a, [], [], []⟩

def andThen (run : Run α) (next : α → Run β) : Run β :=
  match run.result with
  | .error e => ⟨.error e, run.warnings, run.calls, run.events⟩
  | .ok a =>
    let rest := next a
    ⟨rest.result, run.warnings ++ rest.warnings, run.calls ++ rest.calls,
      run.events ++ rest.events⟩

instance : Monad Run where
  pure := done
  bind := andThen

def interrupt (e : Interruption) : Run α := ⟨.error e, [], [], []⟩

def warn (warning : String) : Run Unit := ⟨.ok (), [warning], [], []⟩

def call (c : Call) : Run Unit := ⟨.ok (), [], [c], []⟩

def report (event : LogEvent) : Run Unit := ⟨.ok (), [], [], [event]⟩

def log (level : LogLevel) (source event : String) (fields : Entries) : Run Unit :=
  report ⟨level, source, event, fields⟩

/-- A computation that may fail on its data. -/
def ofExcept : Except Fault α → Run α
  | .ok a => done a
  | .error f => interrupt (.fault f)

/-- The result of a run together with its warnings. -/
def collect (run : Run α) : Run (α × List String) :=
  ⟨run.result.map fun a => (a, run.warnings), [], run.calls, run.events⟩

end Run

end GridRules
