import TraceScript.Path
import TraceScript.Text.Utf8

/-!
# The disk

Directories and files below the working directory, and the operations that
the program needs of them: loading a file, creating one for writing, adding
octets to it, closing it, and removing it.

A path is located component by component (`Disk.locate`), so that `..` leads
where the directories say.  There are no links, and names that differ in the
case of a letter differ: paths that are located apart name files of their own.
What a file holds (`Disk.read`) is told apart from what the program is given of
it (`Disk.load`).

What the system refuses is planned in the disk's `Faults`.  Every operation on
an open file may be refused; the plan sees the path as it was opened, the number
of the attempt to open a file, and the number of the write within it.  A refused
write changes nothing; a refused closing closes the file all the same.  Files
have no owners and no permissions of their own: that a file may not be read, or
not be written, is a refusal of the plan as well.  So is the lack of memory,
which is asked of the plan just where a caller chooses the size, for a buffer.
The plan `Faults.none` refuses nothing but a buffer beyond all addresses.

`live` lists the attempts whose file is still open.
-/

namespace TraceScript

/-- Why the operating system refuses an operation on a file. -/
inductive Refusal
  | noSuchFile
  | accessDenied
  | notDirectory
  | isDirectory
  | tooManyFiles
  | noSpace
  | nameTooLong
  deriving DecidableEq, Repr

/-- The system's number for a refusal. -/
def Refusal.number : Refusal → Nat
  | noSuchFile => 2
  | accessDenied => 13
  | notDirectory => 20
  | isDirectory => 21
  | tooManyFiles => 24
  | noSpace => 28
  | nameTooLong => 36

/-- The system's words for a refusal. -/
def Refusal.text : Refusal → Text
  | noSuchFile => "No such file or directory".toList
  | accessDenied => "Permission denied".toList
  | notDirectory => "Not a directory".toList
  | isDirectory => "Is a directory".toList
  | tooManyFiles => "Too many open files".toList
  | noSpace => "No space left on device".toList
  | nameTooLong => "File name too long".toList

/-- Why a file cannot be opened: its name is none, or the system refuses. -/
inductive OpenError
  | nullByte
  | refused (reason : Refusal)
  deriving DecidableEq, Repr

/-- The most octets that addresses can tell apart. -/
def addressableOctets : Nat := 0x800000000000

/-- What the system refuses: to open a file for writing, to write to it, to
close it, to open a file for reading, and a buffer of more octets than there
is memory for. -/
structure Faults where
  opening : Path → Nat → Option Refusal
  writing : Path → Nat → Nat → Option Refusal
  closing : Path → Nat → Option Refusal
  reading : Path → Option Refusal := fun _ => .none
  memory : Nat := addressableOctets

/-- Nothing is refused. -/
def Faults.none : Faults where
  opening _ _ := .none
  writing _ _ _ := .none
  closing _ _ := .none

/-- A file open for writing. -/
structure Handle where
  path : Path
  key : Path
  attempt : Nat
  writes : Nat

/-- Directories, files by their located path, and the state of open files. -/
structure Disk where
  directories : List Path
  files : List (Path × Octets)
  faults : Faults
  attempts : Nat
  live : List Nat

namespace Disk

/-- An empty disk. -/
def empty : Disk := ⟨[], [], Faults.none, 0, []⟩

/-- The working directory, those above it and those that were made. -/
def isDirectory (d : Disk) (key : Path) : Bool :=
  key.parts.all (· == ['.', '.']) || d.directories.contains key

/-- The content of the file at a located path. -/
def find? (d : Disk) (key : Path) : Option Octets :=
  d.files.lookup key

/-- The files with a new content at a located path. -/
def putFile (key : Path) (content : Octets) : List (Path × Octets) → List (Path × Octets)
  | [] => [(key, content)]
  | (k, c) :: rest => if k = key then (key, content) :: rest else (k, c) :: putFile key content rest

/-- The disk with a new content at a located path. -/
def put (d : Disk) (key : Path) (content : Octets) : Disk :=
  { d with files := putFile key content d.files }

/-- The disk without the file at a located path. -/
def erase (d : Disk) (key : Path) : Disk :=
  { d with files := d.files.filter (·.1 != key) }

/-- The most octets that the spelling of a path may have. -/
def maxPathOctets : Nat := 4095

/-- The most octets that one component may have. -/
def maxNameOctets : Nat := 255

/-- Where a component leads from a directory. -/
def advance (here : Path) (name : Text) : Path :=
  if name = ['.', '.'] then here.parent else here.child name

/-- One component further from a located path. -/
def enter (d : Disk) (here : Path) (name : Text) : Except Refusal Path :=
  if d.isDirectory here then
    if Text.Utf8.size name > maxNameOctets then .error .nameTooLong else .ok (advance here name)
  else if (d.find? here).isSome then .error .notDirectory
  else .error .noSuchFile

/-- Where a path leads. -/
def locate (d : Disk) (p : Path) : Except Refusal Path :=
  if Text.Utf8.size p.text > maxPathOctets then .error .nameTooLong
  else p.parts.foldlM d.enter ⟨p.anchor.take 1, []⟩

/-- The located path of a file that may be opened under this name. -/
def reach (d : Disk) (p : Path) : Except OpenError Path :=
  if p.text.contains '\x00' then .error .nullByte
  else
    match d.locate p with
    | .error r => .error (.refused r)
    | .ok key => if d.isDirectory key then .error (.refused .isDirectory) else .ok key

/-- The octets of the file under this name. -/
def read (d : Disk) (p : Path) : Except OpenError Octets :=
  match d.reach p with
  | .error e => .error e
  | .ok key =>
      match d.find? key with
      | some content => .ok content
      | none => .error (.refused .noSuchFile)

/-- The octets of the file under this name, unless the system refuses to open
it. -/
def load (d : Disk) (p : Path) : Except OpenError Octets :=
  match d.read p with
  | .error e => .error e
  | .ok content =>
      match d.faults.reading p with
      | some r => .error (.refused r)
      | none => .ok content

/-- Opens an empty file under this name, in place of any earlier one. -/
def create (d : Disk) (p : Path) : Except OpenError Handle × Disk :=
  let counted := { d with attempts := d.attempts + 1 }
  match d.reach p with
  | .error e => (.error e, counted)
  | .ok key =>
      match d.faults.opening p d.attempts with
      | some r => (.error (.refused r), counted)
      | none =>
          (.ok ⟨p, key, d.attempts, 0⟩,
            { counted.put key [] with live := d.live ++ [d.attempts] })

/-- Adds octets to an open file; a refusal is the first part of the answer. -/
def write (d : Disk) (h : Handle) (octets : Octets) : Option Refusal × Handle × Disk :=
  let counted := { h with writes := h.writes + 1 }
  match d.faults.writing h.path h.attempt (h.writes + 1) with
  | some r => (some r, counted, d)
  | none => (none, counted, d.put h.key ((d.find? h.key).getD [] ++ octets))

/-- Closes an open file, also when the system refuses. -/
def close (d : Disk) (h : Handle) : Option Refusal × Disk :=
  (d.faults.closing h.path h.attempt, { d with live := d.live.erase h.attempt })

/-- Removes the file under this name, if there is one. -/
def remove (d : Disk) (p : Path) : Disk :=
  match d.locate p with
  | .ok key => d.erase key
  | .error _ => d

/-- The directories on the way along components. -/
def trail (here : Path) : List Text → List Path
  | [] => [here]
  | name :: rest => here :: trail (advance here name) rest

/-- The disk with a directory and all on the way to it. -/
def withDirectory (d : Disk) (p : Path) : Disk :=
  { d with directories := d.directories ++ trail ⟨p.anchor.take 1, []⟩ p.parts }

/-- The disk with a file of this content. -/
def withFile (d : Disk) (p : Path) (content : Octets) : Disk :=
  match d.locate p with
  | .ok key => d.put key content
  | .error _ => d.put p content

/-- A located path below the working directory. -/
def isBelow (key : Path) : Bool :=
  key.anchor.isEmpty && key.parts.head? != some ['.', '.']

/-- The files whose content is new, different or gone since `before`. -/
def differences (before after : Disk) : List (Path × Option Octets) :=
  let kept := after.files.filter fun (key, content) => before.find? key != some content
  let gone := before.files.filter fun (key, _) => (after.find? key).isNone
  kept.map (fun (key, content) => (key, some content)) ++ gone.map (fun (key, _) => (key, none))

/-- The differences below the working directory, by the order of the names. -/
def listing (before after : Disk) : List (Text × Option Octets) :=
  let below := (differences before after).filter fun (key, _) => isBelow key
  (below.map fun (key, content) => (key.text, content)).mergeSort fun a b => Text.notAfter a.1 b.1

end Disk
end TraceScript
