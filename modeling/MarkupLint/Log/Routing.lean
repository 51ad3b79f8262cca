import MarkupLint.Log
import MarkupLint.Project.Path

/-!
Where log lines go.  A configuration attaches one handler, to the console or to a file, in
place of the one that an earlier configuration attached; configuring the same target again
only changes the level.  Without a handler, warnings go to the console as they are.
-/
namespace MarkupLint

/-- The part of the channels that handlers are attached to. -/
def ownChannel : String := "tsxlint"

inductive LogTarget where
  | console
  | file (path : Path)
  deriving DecidableEq, Repr

def LogTarget.text : LogTarget → String
  | console => "<stderr>"
  | file path => path.text

structure Handler where
  /-- Which of all handlers made it is. -/
  number : Nat
  target : LogTarget
  level : Nat
  deriving DecidableEq, Repr

/-- Why a log file cannot be opened: a folder on the way is a file, the folder that is to
hold it is a file, it is a folder itself, or its path is too long. -/
inductive OpenError where
  | notAFolder
  | exists
  | isFolder
  | tooLong
  deriving DecidableEq, Repr

/-- A record by the number of its level. -/
structure Emission where
  level : Int
  channel : String
  message : String
  deriving DecidableEq, Repr

def LogRecord.emission (record : LogRecord) : Emission :=
  ⟨record.level.number, record.origin.channel, record.message⟩

structure Logging where
  /-- Zero when not configured. -/
  level : Nat := 0
  propagates : Bool := true
  attached : List Handler := []
  /-- The number of the handler that the last configuration attached. -/
  current : Option Nat := none
  /-- What the last configuration that succeeded asked for. -/
  target : Option LogTarget := none
  /-- How many handlers have been made. -/
  made : Nat := 0
  deriving DecidableEq, Repr

namespace Logging

/-! ### Levels -/

def levelNumbers : List (String × Nat) :=
  [("CRITICAL", 50), ("FATAL", 50), ("ERROR", 40), ("WARNING", 30), ("WARN", 30), ("INFO", 20),
   ("DEBUG", 10), ("NOTSET", 0)]

/-- The capital that a letter of a level name stands for, the dotless i and the long s being
spellings of such letters. -/
def capital (c : Char) : Char :=
  if c.toNat = 0x131 then 'I' else if c.toNat = 0x17F then 'S' else c.toUpper

/-- The number of a level name in any case; an unknown name stands for warnings. -/
def levelNumber (name : String) : Nat :=
  (levelNumbers.lookup (String.ofList (name.toList.map capital))).getD Level.warning.number

/-- The name of a level, or its number when it has none. -/
def levelText (level : Int) : String :=
  match levelNumbers.find? fun entry => (entry.2 : Int) == level with
  | some entry => entry.1
  | none => "Level " ++ toString level

/-! ### Configuration -/

def isCurrent (logging : Logging) (handler : Handler) : Bool :=
  logging.current == some handler.number

/-- Take the current handler away. -/
def detach (logging : Logging) : Logging :=
  { logging with attached := logging.attached.filter (!logging.isCurrent ·), current := none }

def attach (logging : Logging) (target : LogTarget) (level : Nat) : Logging :=
  { logging with
    attached := logging.attached ++ [⟨logging.made, target, level⟩]
    propagates := false
    current := some logging.made
    target := some target
    made := logging.made + 1 }

/-- Send what is at or above a level to a target; `opened` says whether the target can be
opened. -/
def configure (logging : Logging) (target : LogTarget) (level : Nat)
    (opened : Except OpenError Unit) : Logging × Except OpenError Unit :=
  let logging := { logging with level := level }
  if logging.target = some target && logging.current.isSome then
    ({ logging with
        attached := logging.attached.map fun h =>
          if logging.isCurrent h then { h with level := level } else h }, .ok ())
  else
    let bare := logging.detach
    match opened with
    | .error e => (bare, .error e)
    | .ok () => (bare.attach target level, .ok ())

/-- Back to the beginning. -/
def reset (logging : Logging) : Logging :=
  { logging.detach with level := 0, propagates := true, target := none }

/-- The level that a count of requests for more output asks for. -/
def requestedLevel (verbose : Int) (configured : String) : String :=
  if 2 ≤ verbose then Level.debug.name
  else if verbose = 1 then Level.info.name
  else configured

/-- The record of a configuration. -/
def configuredAt (level : String) : LogRecord :=
  ⟨.debug, .commands, "Logging configured at " ++ level⟩

/-! ### Delivery -/

def isOwn (channel : String) : Bool :=
  channel == ownChannel || (ownChannel ++ ".").toList.isPrefixOf channel.toList

/-- The least level that a channel lets through. -/
def threshold (logging : Logging) (channel : String) : Nat :=
  if isOwn channel && logging.level != 0 then logging.level else Level.warning.number

def lineOf (e : Emission) : String :=
  logLine (levelText e.level) e.channel e.message

/-- What is written of a record, and where. -/
def deliver (logging : Logging) (e : Emission) : List (LogTarget × String) :=
  if e.level < logging.threshold e.channel then []
  else if isOwn e.channel && !logging.attached.isEmpty then
    logging.attached.filterMap fun h =>
      if (h.level : Int) ≤ e.level then some (h.target, lineOf e) else none
  else if (Level.warning.number : Int) ≤ e.level then [(.console, e.message)]
  else []

end Logging

end MarkupLint
