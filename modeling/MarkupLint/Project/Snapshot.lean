import MarkupLint.Check.Spelling
import MarkupLint.Number.Reader
import MarkupLint.Project.Files

/-!
A project as a value: its files with their texts or bytes, what the grammar makes of the
sources, the variables that are set, and the dictionaries.
-/
namespace MarkupLint.Snapshot

def text : Value → String
  | .str s => s
  | _ => ""

def number : Value → Int
  | .int n => n
  | .float x => x.truncate?.getD 0
  | _ => 0

def isTrue : Value → Bool
  | .bool b => b
  | _ => false

def items (value : Value) : List Value :=
  value.items?.getD []

def entries (value : Value) : Entries :=
  value.entries?.getD []

/-- A node by its depth, type and place. -/
def treeItem (value : Value) : Nat × String × Span :=
  match items value with
  | [depth, type, start, stop, row] =>
      ((number depth).toNat, text type,
        ⟨(number start).toNat, (number stop).toNat, (number row).toNat⟩)
  | _ => (0, "", default)

/-- What the grammar makes of a source: a tree, or the way in which it fails. -/
def reading (value : Value) : Reading :=
  match value with
  | .list _ nodes => ((SourceNode.ofPreorder? (nodes.map treeItem)).map .tree).getD .syntaxError
  | value =>
      if isTrue (value.field "error") then .syntaxError
      else if isTrue (value.field "interrupt") then .interrupt
      else
        match value.field "crash" with
        | .str message => .crash message
        | _ => .tree (.mk "program" default [])

/-- Bytes written as pairs of hexadecimal digits. -/
def bytes : List Char → List UInt8
  | high :: low :: rest =>
      UInt8.ofNat ((Text.hexValue? high).getD 0 * 16 + (Text.hexValue? low).getD 0) :: bytes rest
  | _ => []

def contentOf (file : Value) : FileContent :=
  { bytes :=
      match file.field "hex" with
      | .str digits => bytes digits.toList
      | _ => Utf8.encode (text (file.field "text"))
    reading := reading (file.field "tree") }

def addFile (entries : Entry.Entries) (file : Value) : Entry.Entries :=
  let added :=
    if isTrue (file.field "dir") then Entry.folder [] else .file (contentOf file)
  added.put (Path.ofText (text (file.field "path"))).names entries

/-- The files stand in a folder of the topmost one. -/
def project (files : Value) : Project :=
  { root := .folder ((items files).foldl addFile []), location := ["project"] }

def environment (value : Value) : List (String × String) :=
  (entries value).map fun entry => (entry.1.display, text entry.2)

def dictionaries (value : Value) : Dictionaries :=
  (entries value).map fun (language, counts) =>
    (language.display, (entries counts).map fun (word, count) => (word.display, number count))

end MarkupLint.Snapshot
