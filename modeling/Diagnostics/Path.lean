import Diagnostics.Text.Pieces

/-!
# Paths

A path is kept in normal form: its root and its parts. Repeated slashes, parts that are a single
dot, and a slash at the end leave no trace; a part of two dots stays, because what it means depends
on symbolic links. Two slashes at the front are a root of their own, three or more are one.
-/

set_option autoImplicit false

namespace Diagnostics

inductive Root where
  | relative
  | slash
  | doubleSlash
  deriving DecidableEq, Repr

/-- A path in normal form. -/
structure Path where
  root : Root
  parts : List Text
  deriving DecidableEq, Repr

def Root.text : Root → String
  | .relative => ""
  | .slash => "/"
  | .doubleSlash => "//"

def Text.isSlash (c : CodePoint) : Bool :=
  c = '/'

def Root.ofText (s : Text) : Root :=
  match (s.takeWhile Text.isSlash).length with
  | 0 => .relative
  | 2 => .doubleSlash
  | _ => .slash

namespace Path

/-- Whether a piece between slashes is a part of the path. -/
def isPart (piece : Text) : Bool :=
  piece ≠ "" && piece ≠ "."

def ofText (s : Text) : Path :=
  { root := Root.ofText s
    parts := (Text.splitAtEach Text.isSlash s).filter isPart }

/-- The written form. The path with no root and no parts is a single dot. -/
def text (p : Path) : Text :=
  if p.root = .relative ∧ p.parts = [] then "."
  else p.root.text ++ Text.join "/" p.parts

/-- The last part; a path without parts has the empty name. -/
def name (p : Path) : Text :=
  p.parts.getLast?.getD ""

def parent (p : Path) : Path :=
  { p with parts := p.parts.dropLast }

/-- The path of an entry of the directory at a path. -/
def child (p : Path) (name : Text) : Path :=
  { p with parts := p.parts ++ [name] }

/-- The path that a written path means from a directory: itself if it has a root. -/
def join (p : Path) (s : Text) : Path :=
  let q := ofText s
  if q.root = .relative then { p with parts := p.parts ++ q.parts } else q

@[simp] theorem name_child (p : Path) (name : Text) : (p.child name).name = name := by
  simp [child, Path.name]

@[simp] theorem parent_child (p : Path) (name : Text) : (p.child name).parent = p := by
  simp [child, parent]

example : (ofText "///a/./b//..").text = ("/a/b/.." : Text) := by decide +kernel
example : (ofText "./").text = ("." : Text) := by decide +kernel
example : ((ofText "stage").join "/abs").text = ("/abs" : Text) := by decide +kernel

end Path

end Diagnostics
