import MarkupLint.Log.Routing
import MarkupLint.Project.Files

/-!
What has been written to the console and to log files.  Opening a file makes the folders on
the way to it; a file that is there already is written on.
-/
namespace MarkupLint

structure Sinks where
  console : List String := []
  files : List (Path × List String) := []
  folders : List Path := []

namespace Sinks

/-- The folders above a path, the nearest first. -/
def above (path : Path) : List Path :=
  ((List.range path.names.length).reverse).map fun n => { path with names := path.names.take n }

def isFile (sinks : Sinks) (path : Path) : Bool :=
  sinks.files.any (·.1 == path)

def openFile (sinks : Sinks) (path : Path) : Except OpenError Sinks :=
  let folders := above path
  if (folders.drop 1).any sinks.isFile then .error .notAFolder
  else if (folders.take 1).any sinks.isFile then .error .exists
  else if path.isLong || path.names.any Entry.isLongName then .error .tooLong
  else if sinks.folders.contains path then .error .isFolder
  else
    .ok
      { sinks with
        files := if sinks.isFile path then sinks.files else sinks.files ++ [(path, [])]
        folders := sinks.folders ++ folders.filter (!sinks.folders.contains ·) }

def openTarget (sinks : Sinks) : LogTarget → Except OpenError Sinks
  | .console => .ok sinks
  | .file path => sinks.openFile path

def write (sinks : Sinks) (target : LogTarget) (line : String) : Sinks :=
  match target with
  | .console => { sinks with console := sinks.console ++ [line] }
  | .file path =>
      { sinks with
        files := sinks.files.map fun file =>
          if file.1 = path then (file.1, file.2 ++ [line]) else file }

def writeAll (sinks : Sinks) (lines : List (LogTarget × String)) : Sinks :=
  lines.foldl (fun sinks line => sinks.write line.1 line.2) sinks

end Sinks

/-- The state of logging with what was written through it. -/
structure Journal where
  logging : Logging := {}
  sinks : Sinks := {}

namespace Journal

def emit (journal : Journal) (e : Emission) : Journal :=
  { journal with sinks := journal.sinks.writeAll (journal.logging.deliver e) }

/-- Configure a target.  One that is configured already is not opened again. -/
def configure (journal : Journal) (target : LogTarget) (level : String) :
    Journal × Except OpenError Unit :=
  let kept := journal.logging.target = some target && journal.logging.current.isSome
  let opened := if kept then .ok journal.sinks else journal.sinks.openTarget target
  let (logging, result) :=
    journal.logging.configure target (Logging.levelNumber level) (opened.map fun _ => ())
  ({ logging := logging, sinks := opened.toOption.getD journal.sinks }, result)

def reset (journal : Journal) : Journal :=
  { journal with logging := journal.logging.reset }

/-- Configure the console as a command does. -/
def setUp (journal : Journal) (verbose : Int) (configured : String) : Journal :=
  let level := Logging.requestedLevel verbose configured
  ((journal.configure .console level).1).emit (Logging.configuredAt level).emission

end Journal

end MarkupLint
