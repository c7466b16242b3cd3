/-!
Log records: which of them are kept, and how one is written.
-/

namespace SourceDigest.Log

/-- How serious a record is. -/
inductive Level where
  | debug
  | info
  | warning
  | error
  | critical
  deriving DecidableEq, Repr, Inhabited

namespace Level

def rank : Level → Nat
  | debug => 10
  | info => 20
  | warning => 30
  | error => 40
  | critical => 50

def name : Level → String
  | debug => "DEBUG"
  | info => "INFO"
  | warning => "WARNING"
  | error => "ERROR"
  | critical => "CRITICAL"

def ofName? (name : String) : Option Level :=
  [debug, info, warning, error, critical].find? fun level => level.name == name

end Level

/-- The least level that is kept. Asking for silence wins over asking for more. -/
def threshold (verbose quiet : Bool) : Level :=
  if quiet then .error else if verbose then .debug else .warning

/-- The name that all others lie under. -/
def rootName : String :=
  "contextrank"

/-- The full name of a logger. A name that does not start with the root's is put under it. -/
def loggerName (name : Option String) : String :=
  match name with
  | none => rootName
  | some name =>
    if rootName.toList.isPrefixOf name.toList then name else rootName ++ "." ++ name

structure Record where
  logger : Option String
  level : Level
  text : String
  deriving DecidableEq, Repr, Inhabited

/-- A record as a file shows it after the time. -/
def Record.line (r : Record) : String :=
  loggerName r.logger ++ " - " ++ r.level.name ++ " - " ++ r.text

/-- The lines of the records that are kept. -/
def lines (least : Level) (records : List Record) : List String :=
  (records.filter fun r => least.rank ≤ r.level.rank).map Record.line

end SourceDigest.Log
