import TraceScript.Text.Blank

/-!
# Paths

A file name in normal form: an anchor, which is empty for a relative path and
one or two slashes for an absolute one, and the list of components between
slashes.  Empty components and `.` carry no meaning and are dropped; `..` is
kept, since only the disk can say where it leads.  Two spellings name the
same output file exactly when their normal forms are equal.

The suffix of a name starts at its last dot, unless that dot is the first or
the last character; `stem` is the name without it.
-/

namespace TraceScript

/-- A file name in normal form. -/
structure Path where
  anchor : Text
  parts : List Text
  deriving DecidableEq, Repr

namespace Path

/-- The anchor of a spelling: three slashes and more count as one. -/
def anchorOf : Text → Text
  | '/' :: '/' :: '/' :: _ => ['/']
  | '/' :: '/' :: _ => ['/', '/']
  | '/' :: _ => ['/']
  | _ => []

/-- The normal form of a spelling. -/
def ofText (t : Text) : Path where
  anchor := anchorOf t
  parts := (Text.words (· == '/') t).filter (· != ['.'])

/-- The spelling of a normal form; the empty path is a dot. -/
def text (p : Path) : Text :=
  if p.anchor.isEmpty && p.parts.isEmpty then ['.']
  else p.anchor ++ Text.joinWith ['/'] p.parts

/-- The last component, or nothing. -/
def name (p : Path) : Text :=
  p.parts.getLast?.getD []

/-- A name without its suffix. -/
def stemOf (name : Text) : Text :=
  match Text.cutAt '.' name.reverse with
  | some (suffix, root) => if suffix.isEmpty || root.isEmpty then name else root.reverse
  | none => name

/-- The last component without its suffix. -/
def stem (p : Path) : Text :=
  stemOf p.name

/-- The path with its last component replaced by the stem. -/
def withoutSuffix (p : Path) : Path where
  anchor := p.anchor
  parts := p.parts.dropLast ++ p.parts.getLast?.toList.map stemOf

/-- The path one component further down. -/
def child (p : Path) (name : Text) : Path where
  anchor := p.anchor
  parts := p.parts ++ [name]

/-- The path one component up; above the starting point, one `..` further. -/
def parent (p : Path) : Path where
  anchor := p.anchor
  parts :=
    match p.parts.getLast? with
    | none => if p.anchor.isEmpty then [['.', '.']] else []
    | some last => if last = ['.', '.'] then p.parts ++ [['.', '.']] else p.parts.dropLast

end Path
end TraceScript
