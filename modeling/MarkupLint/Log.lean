/-!
Log records.  A run returns the records it makes, in order; what becomes of them is for
the command line to decide.
-/
namespace MarkupLint

inductive Level where
  | debug
  | info
  | warning
  | error
  | critical
  deriving DecidableEq, Repr

namespace Level

def number : Level → Nat
  | debug => 10
  | info => 20
  | warning => 30
  | error => 40
  | critical => 50

def name : Level → String
  | debug => "DEBUG"
  | info => "INFO"
  | warning => "WARNING"
  | error => "ERROR"
  | critical => "CRITICAL"

end Level

/-- The part of the program that a record comes from. -/
inductive Origin where
  | regions
  | validation
  | checkers
  | spelling
  | configuration
  | sources
  | linting
  | commands
  deriving DecidableEq, Repr

/-- The channel that a part writes its records to. -/
def Origin.channel : Origin → String
  | regions => "tsxlint.core.engine.directives"
  | validation => "tsxlint.core.engine.pipeline"
  | checkers => "tsxlint.core.checkers.registry"
  | spelling => "tsxlint.core.checkers.spelling"
  | configuration => "tsxlint.core.config.manager"
  | sources => "tsxlint.core.parsing.treesitter"
  | linting => "tsxlint.core.scanner"
  | commands => "tsxlint.cli._utils"

structure LogRecord where
  level : Level
  origin : Origin
  message : String
  deriving DecidableEq, Repr

def logLine (level channel message : String) : String :=
  level ++ " " ++ channel ++ ": " ++ message

/-- A result and the records made on the way to it. -/
structure Logged (α : Type) where
  value : α
  log : List LogRecord := []

def LogRecord.line (record : LogRecord) : String :=
  logLine record.level.name record.origin.channel record.message

end MarkupLint
