import MarkupLint.Log
import MarkupLint.Markup.Directive

/-!
Regions without checking.  A region is flat: a second start inside it changes nothing
but the file it belongs to, and without an end it lasts to the end of the document.
-/
namespace MarkupLint

/-- The file of the region that is open, if any. -/
abbrev Region := Option String

inductive Boundary where
  | start
  | stop
  deriving DecidableEq, Repr

/-- What a comment does to regions; a start marker is looked for first. -/
def Directives.boundary? (d : Directives) (comment : String) : Option Boundary :=
  if Text.contains comment d.regionStart then some .start
  else if Text.contains comment d.regionEnd then some .stop
  else none

namespace Region

def record (verb : String) (info : Info) : LogRecord :=
  ⟨.debug, .regions, "Ignore region " ++ verb ++ " at " ++ info.fileId ++ ":" ++ toString info.line⟩

/-- The region after a boundary at a node. -/
def after (info : Info) : Boundary → Region
  | .start => some info.fileId
  | .stop => none

/-- A boundary is logged when it changes whether a region is open. -/
def records (region : Region) (info : Info) : Boundary → List LogRecord
  | .start => if region.isSome then [] else [record "starts" info]
  | .stop => if region.isSome then [record "ends" info] else []

/-- A region, and the records of the changes that led to it. -/
structure State where
  region : Region
  log : List LogRecord

def State.cross (info : Info) (state : State) : Option Boundary → State
  | none => state
  | some boundary =>
      ⟨after info boundary, state.log ++ records state.region info boundary⟩

/-- The comments that a node shows, in order: those attached to it, then its own. -/
def comments (info : Info) : List String :=
  info.leading ++ if info.kind = .comment then [info.text] else []

def observe (d : Directives) (region : Region) (info : Info) : State :=
  (comments info).foldl (fun state comment => state.cross info (d.boundary? comment)) ⟨region, []⟩

/-- Whether a node is itself a comment with a region marker. -/
def isControl (d : Directives) (info : Info) : Bool :=
  info.kind == .comment && (d.boundary? info.text).isSome

def suppresses (region : Region) (info : Info) : Bool :=
  region == some info.fileId

end Region

end MarkupLint
