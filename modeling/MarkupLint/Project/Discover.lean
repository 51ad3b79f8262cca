import MarkupLint.Config.Settings
import MarkupLint.Log
import MarkupLint.Project.Files

/-!
Which files a run looks at: every file that is named, and of a named folder the files with a
fitting extension that are not in an excluded folder below it.  Each comes once, in the
order of paths.
-/
namespace MarkupLint

structure SourceFile where
  path : Path
  content : FileContent

namespace Project

def isWanted (scan : ScanSettings) (name : String) : Bool :=
  scan.extensions.contains (Text.lowered (Path.suffixOf name))

/-- Whether a folder below a named one is looked into.  One whose path is too long to be listed
is passed over. -/
def isEntered (scan : ScanSettings) (base folder : Path) : Bool :=
  !scan.excludeDirs.contains folder.name && !base.isLongFrom folder

/-- The files that one path stands for, with a record if it leads nowhere.  A path that is too
long to be looked up is refused. -/
def expand (project : Project) (scan : ScanSettings) (path : Path) :
    Logged (Except ReadError (List SourceFile)) :=
  match project.find path with
  | .ok (.file content) => ⟨.ok [⟨path, content⟩], []⟩
  | .ok (.folder entries) =>
      { value := .ok ((Entry.filesAmong (isEntered scan path) (isWanted scan) path entries).map
          fun found => ⟨found.1, found.2⟩) }
  | .error .tooLong => ⟨.error .tooLong, []⟩
  | .error _ =>
      { value := .ok []
        log := [⟨.warning, .linting, "Path does not exist: " ++ path.text⟩] }

/-- The files that paths stand for, path by path, up to the first that is refused. -/
def expandAll (project : Project) (scan : ScanSettings) :
    List Path → Logged (Except ReadError (List SourceFile))
  | [] => ⟨.ok [], []⟩
  | path :: rest =>
      let first := project.expand scan path
      match first.value with
      | .error e => ⟨.error e, first.log⟩
      | .ok files =>
          let others := project.expandAll scan rest
          ⟨others.value.map (files ++ ·), first.log ++ others.log⟩

/-- Put a file among files in order, unless it is there already. -/
def insert (file : SourceFile) : List SourceFile → List SourceFile
  | [] => [file]
  | other :: rest =>
      if file.path.parts = other.path.parts then other :: rest
      else if Path.before file.path.parts other.path.parts then file :: other :: rest
      else other :: insert file rest

def discover (project : Project) (scan : ScanSettings) (paths : List Path) :
    Logged (Except ReadError (List SourceFile)) :=
  let expanded := project.expandAll scan paths
  { expanded with
    value := expanded.value.map fun found =>
      found.foldl (fun files file => insert file files) [] }

end Project

end MarkupLint
