import SceneMarkup.Error

/-!
# Results with a log

The work reports what it does in log entries. A logged result is a value with the entries written while it was computed,
in order; what is computed never depends on them.
-/

namespace SceneMarkup

/-- How much a log entry matters. -/
inductive LogLevel where
  | warn
  | info
  | debug
deriving DecidableEq, Repr

/-- The name of a level in a log line. -/
def LogLevel.name : LogLevel → String
  | .warn => "WARN"
  | .info => "INFO"
  | .debug => "DEBUG"

/-- One entry of the log. -/
structure LogEntry where
  level : LogLevel
  message : String
deriving DecidableEq, Repr

/-- The line that shows an entry. -/
def LogEntry.line (e : LogEntry) : String :=
  e.level.name ++ " " ++ e.message

/-- A value with the log entries written while it was computed. -/
structure Logged (α : Type) where
  value : α
  log : List LogEntry

namespace Logged

instance : Monad Logged where
  pure a := ⟨a, []⟩
  bind x f := ⟨(f x.value).value, x.log ++ (f x.value).log⟩

/-- Writes one entry. -/
def write (level : LogLevel) (message : String) : Logged Unit :=
  ⟨(), [⟨level, message⟩]⟩

/-- Writes a warning. -/
def warn (message : String) : Logged Unit := write .warn message

/-- Writes an information. -/
def info (message : String) : Logged Unit := write .info message

/-- Writes a detail. -/
def debug (message : String) : Logged Unit := write .debug message

@[simp] theorem value_pure {α : Type} (a : α) : (pure a : Logged α).value = a := rfl

@[simp] theorem value_bind {α β : Type} (x : Logged α) (f : α → Logged β) : (x >>= f).value = (f x.value).value := rfl

@[simp] theorem value_map {α β : Type} (f : α → β) (x : Logged α) : (f <$> x).value = f x.value := rfl

@[simp] theorem value_write (level : LogLevel) (message : String) : (write level message).value = () := rfl

end Logged

/-- A computation that writes a log and may fail; the entries written before it failed are kept. -/
abbrev Outcome := ExceptT SceneError Logged

end SceneMarkup
