import MarkupLint.Value.Convert

/-!
Writing JSON text: ASCII only, one item on a line at a given indentation or all on one
line.  Keys that are not texts are written as texts, and so are sets, bytes and points in
time.  A container inside itself cannot be written.
-/
namespace MarkupLint.Json

open MarkupLint.Text

def unitEscape (n : Nat) : String :=
  "\\u" ++ hexText false 4 n

def escapedChar (c : Char) : String :=
  if c = '"' then "\\\""
  else if c = '\\' then "\\\\"
  else if c = '\n' then "\\n"
  else if c = '\r' then "\\r"
  else if c = '\t' then "\\t"
  else if c.toNat = 12 then "\\f"
  else if c.toNat = 8 then "\\b"
  else if 32 ≤ c.toNat ∧ c.toNat < 127 then String.singleton c
  else if c.toNat < 0x10000 then unitEscape c.toNat
  else
    let n := c.toNat - 0x10000
    unitEscape (0xD800 + n / 0x400) ++ unitEscape (0xDC00 + n % 0x400)

def stringText (s : String) : String :=
  "\"" ++ String.join (s.toList.map escapedChar) ++ "\""

/-- Why a value has no JSON text. -/
inductive WriteError where
  /-- A key of a kind that stands for no text. -/
  | key (kind : String)
  | circular
  | conversion (error : ConversionError)
  deriving DecidableEq, Repr

def WriteError.message : WriteError → String
  | key kind => "keys must be str, int, float, bool or None, not " ++ kind
  | circular => "Circular reference detected"
  | conversion error => error.message

def scalarText : Scalar → Except WriteError String
  | .null => .ok "null"
  | .bool b => .ok (if b then "true" else "false")
  | .int n => if Number.isWritable n then .ok (toString n) else .error (.conversion .unwritable)
  | .float x => .ok (x.text .json)
  | .nan _ => .ok (Double.nan.text .json)
  | .str s => .ok (stringText s)
  | s => .ok (stringText s.display)

/-- A key as text; bytes and points in time cannot be keys. -/
def keyText (key : Scalar) : Except WriteError String :=
  match key with
  | .str s => .ok (stringText s)
  | .bytes _ | .time _ _ => .error (.key (Value.scalar key).kindName)
  | s => (scalarText s).map fun text => "\"" ++ text ++ "\""

def setText (label : Label) (members : List Scalar) : Except WriteError String :=
  if members.all Scalar.isWritable then .ok (stringText (Value.set label members).display)
  else .error (.conversion .unwritable)

/-- What separates the items of a container at a depth: the line before each of them,
the mark between two, and the line before the closing bracket. -/
structure Breaks where
  opening : String
  between : String
  closing : String

def breaks (indent : Option String) (depth : Nat) : Breaks :=
  match indent with
  | none => ⟨"", ", ", ""⟩
  | some step =>
      let line (level : Nat) : String := "\n" ++ String.join (List.replicate level step)
      ⟨line (depth + 1), "," ++ line (depth + 1), line depth⟩

/-- The parts of a container between its brackets. -/
def bracketed (indent : Option String) (depth : Nat) (opening closing : String)
    (parts : List String) : String :=
  let b := breaks indent depth
  if parts.isEmpty then opening ++ closing
  else opening ++ b.opening ++ b.between.intercalate parts ++ b.closing ++ closing

mutual

/-- The text of a value inside containers, given by their labels. -/
def textWithin (indent : Option String) (around : List Label) (depth : Nat) :
    Value → Except WriteError String
  | .scalar s => scalarText s
  | .list label items =>
      if Value.isOpen around label then .error .circular
      else
        (itemTexts indent (label.toList ++ around) (depth + 1) items).map
          (bracketed indent depth "[" "]")
  | .pair label a b =>
      if around.contains label then .error .circular
      else
        match textWithin indent (label :: around) (depth + 1) a with
        | .error e => .error e
        | .ok first =>
            (textWithin indent (label :: around) (depth + 1) b).map fun second =>
              bracketed indent depth "[" "]" [first, second]
  | .set label members => setText label members
  | .map label entries =>
      if Value.isOpen around label then .error .circular
      else
        (entryTexts indent (label.toList ++ around) (depth + 1) entries).map
          (bracketed indent depth "\x7b" "\x7d")
  | .again _ _ => .error .circular

def itemTexts (indent : Option String) (around : List Label) (depth : Nat) :
    List Value → Except WriteError (List String)
  | [] => .ok []
  | item :: rest =>
      match textWithin indent around depth item with
      | .error e => .error e
      | .ok first => (itemTexts indent around depth rest).map (first :: ·)

def entryTexts (indent : Option String) (around : List Label) (depth : Nat) :
    List (Scalar × Value) → Except WriteError (List String)
  | [] => .ok []
  | (key, value) :: rest =>
      match keyText key, textWithin indent around depth value with
      | .error e, _ => .error e
      | _, .error e => .error e
      | .ok name, .ok text =>
          (entryTexts indent around depth rest).map ((name ++ ": " ++ text) :: ·)

end

/-- The whole text of a value, each level indented by a step if one is given. -/
def write (indent : Option String) (value : Value) : Except WriteError String :=
  textWithin indent [] 0 value

end MarkupLint.Json
