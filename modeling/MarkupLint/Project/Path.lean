import MarkupLint.Text.Scan

/-!
Paths: a root and the names below it.  Empty parts and single dots are left out when a path
is read; two dots are kept, since what they lead to depends on the file system.
-/
namespace MarkupLint

structure Path where
  /-- Empty for a relative path; two slashes at the beginning are a root of their own. -/
  root : String := ""
  names : List String := []
  deriving DecidableEq, Repr, Inhabited

namespace Path

def rootOf (text : List Char) : String :=
  match (text.takeWhile (· == '/')).length with
  | 0 => ""
  | 2 => "//"
  | _ => "/"

def ofText (text : String) : Path :=
  { root := rootOf text.toList
    names := (Text.splitText "/" text).filter fun name => !name.isEmpty && name != "." }

def isAbsolute (path : Path) : Bool := !path.root.isEmpty

def hasNull (path : Path) : Bool :=
  path.names.any fun name => name.toList.any (·.toNat == 0)

/-- The written form; a path without parts is a dot. -/
def text (path : Path) : String :=
  let text := path.root ++ "/".intercalate path.names
  if text.isEmpty then "." else text

/-- Whether the written form takes more bytes than a path can have. -/
def isLong (path : Path) : Bool :=
  4096 ≤ path.text.utf8ByteSize

/-- Whether a folder that is come to from a path has too long a path to be listed.  What is below
a lone dot is looked up with the dot and a slash in front. -/
def isLongFrom (base folder : Path) : Bool :=
  4096 ≤ folder.text.utf8ByteSize + if base.text = "." then 2 else 0

/-- A path read from a starting point; an absolute path stands for itself. -/
def join (base path : Path) : Path :=
  if path.isAbsolute then path else { base with names := base.names ++ path.names }

def child (path : Path) (name : String) : Path :=
  { path with names := path.names ++ [name] }

/-- The name that two dots lead back from is dropped with them. -/
def climb (names : List String) : List String :=
  names.foldl (fun done name => if name = ".." then done.dropLast else done ++ [name]) []

/-- A path read from a starting point, by names alone. -/
def resolve (base path : Path) : Path :=
  let joined := base.join path
  { joined with names := climb joined.names }

/-- What leads from a folder to a path below it. -/
def below? (folder path : Path) : Option Path :=
  if folder.root = path.root && folder.names.isPrefixOf path.names then
    some { names := path.names.drop folder.names.length }
  else none

def name (path : Path) : String :=
  path.names.getLast?.getD ""

/-- The last dot of a name and what follows it, provided something stands on either side. -/
def suffixOf (name : String) : String :=
  let after := name.toList.reverse.takeWhile (· != '.')
  if after.isEmpty || name.length ≤ after.length + 1 then ""
  else String.ofList ('.' :: after.reverse)

def suffix (path : Path) : String :=
  suffixOf path.name

/-- The parts by which paths are ordered, the root being the first. -/
def parts (path : Path) : List String :=
  (if path.isAbsolute then [path.root] else []) ++ path.names

def before : List String → List String → Bool
  | [], [] => false
  | [], _ :: _ => true
  | _ :: _, [] => false
  | a :: as, b :: bs => if a = b then before as bs else decide (a < b)

/-- Order of paths, part by part. -/
def atMost (a b : Path) : Bool :=
  !before b.parts a.parts

end Path

end MarkupLint
