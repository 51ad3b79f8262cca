import MarkupLint.Project.Path
import MarkupLint.Source.Parse
import MarkupLint.Text.LineEnd

/-!
The files of a project as one tree of folders.  A file holds bytes and, if it is a source,
what its grammar makes of it.
-/
namespace MarkupLint

structure FileContent where
  bytes : List UInt8 := []
  reading : Reading := .syntaxError
  /-- What the system says, if it does not let the file be read. -/
  refusal? : Option String := none

inductive Entry where
  | file (content : FileContent)
  | folder (entries : List (String × Entry))
  deriving Inhabited

/-- Why a file cannot be read. -/
inductive ReadError where
  | notFound
  | isFolder
  | notAFolder
  | undecodable
  /-- A name on the way, or the whole path, is longer than a file system allows. -/
  | tooLong
  /-- A null character, which no path can have. -/
  | nullCharacter
  deriving DecidableEq, Repr

namespace Entry

abbrev Entries := List (String × Entry)

def entries : Entry → Entries
  | file _ => []
  | folder entries => entries

def isFolder : Entry → Bool
  | file _ => false
  | folder _ => true

/-- Put an entry at a path below a folder, making the folders on the way. -/
def put (added : Entry) : List String → Entries → Entries
  | [], entries => entries
  | [name], entries =>
      match added, entries.lookup name with
      | folder [], some (folder _) => entries
      | _, _ => entries.filter (·.1 != name) ++ [(name, added)]
  | name :: path, entries =>
      let inner := ((entries.lookup name).map Entry.entries).getD []
      if (entries.lookup name).isSome then
        entries.map fun entry =>
          if entry.1 = name then (name, folder (put added path inner)) else entry
      else entries ++ [(name, folder (put added path inner))]

/-- Whether a name takes more bytes than a folder can hold. -/
def isLongName (name : String) : Bool :=
  255 < name.utf8ByteSize

/-- Follow names from an entry, going back up the folders passed through for two dots; the first
folder has none above it and is its own. -/
def follow (above : List Entry) (here : Entry) : List String → Except ReadError Entry
  | [] => .ok here
  | name :: rest =>
      match here with
      | file _ => .error .notAFolder
      | folder entries =>
          if name = ".." then
            match above with
            | parent :: others => follow others parent rest
            | [] => follow [] here rest
          else
            match entries.lookup name with
            | some entry => follow (here :: above) entry rest
            | none => .error (if isLongName name then .tooLong else .notFound)

mutual

/-- A file that is wanted, or the files that are wanted below a folder, with their paths;
unwanted folders are not entered. -/
def filesAt (enter : Path → Bool) (keep : String → Bool) (path : Path) (name : String) :
    Entry → List (Path × FileContent)
  | file content => if keep name then [(path.child name, content)] else []
  | folder entries =>
      if enter (path.child name) then filesAmong enter keep (path.child name) entries else []

def filesAmong (enter : Path → Bool) (keep : String → Bool) (path : Path) :
    List (String × Entry) → List (Path × FileContent)
  | [] => []
  | entry :: rest => filesUnder enter keep path entry ++ filesAmong enter keep path rest

def filesUnder (enter : Path → Bool) (keep : String → Bool) (path : Path) :
    String × Entry → List (Path × FileContent)
  | (name, entry) => filesAt enter keep path name entry

end

end Entry

/-- A project and where it lies.  Of the file system nothing is known but the project and the
folders that lead to it. -/
structure Project where
  /-- What is below the folder of the project, which is where relative paths start. -/
  root : Entry := .folder []
  /-- The names that lead to that folder from the topmost one. -/
  location : List String := []

namespace Project

/-- The topmost folder. -/
def system (project : Project) : Entry :=
  project.location.foldr (fun name below => .folder [(name, below)]) project.root

/-- The names that a path stands for, from the topmost folder on.  The two roots are one folder. -/
def fromTop? (project : Project) (path : Path) : Option (List String) :=
  match path.root with
  | "" => some (project.location ++ path.names)
  | "/" | "//" => some path.names
  | _ => none

/-- What a path leads to. -/
def find (project : Project) (path : Path) : Except ReadError Entry :=
  if path.hasNull then .error .nullCharacter
  else if path.isLong then .error .tooLong
  else
    match project.fromTop? path with
    | some names => project.system.follow [] names
    | none => .error .notFound

/-- The characters of a file, line ends unified. -/
def decode (bytes : List UInt8) : Except ReadError (List Char) :=
  match Utf8.strict? bytes with
  | some text => .ok (Text.unifyLineEnds text)
  | none => .error .undecodable

/-- The file that a path leads to. -/
def file (project : Project) (path : Path) : Except ReadError FileContent :=
  match project.find path with
  | .ok (.file content) => .ok content
  | .ok (.folder _) => .error .isFolder
  | .error e => .error e

end Project

end MarkupLint
