import TraceScript.Notice
import TraceScript.Script
import TraceScript.Error.Failure

/-!
# Files of expected output

A writer makes the files of expected output of one script, one at a time.  A
checkpoint completes the file being written and opens the next; closing
completes it without a successor; discarding removes it.  A file is reported
as soon as it is complete.

`written` lists the complete files, each once: a checkpoint that takes up an
earlier name overwrites that file and takes it off the list until it is
complete again.  `current` is the file being written.  It stays set after a
closing that the system refused, so that the incomplete file can still be
removed, although no file is open any more.
-/

namespace TraceScript

/-- The state of the expected output of a script. -/
structure Writer where
  disk : Disk
  current : Option Path
  file : Option Handle
  written : List Path
  reported : List Path
  notices : List Notice

namespace Writer

/-- A writer that has written nothing. -/
def start (disk : Disk) : Writer :=
  ⟨disk, none, none, [], [], []⟩

/-- Adds a notice. -/
def note (w : Writer) (n : Notice) : Writer :=
  { w with notices := w.notices ++ [n] }

/-- Lists a file as complete. -/
def complete (w : Writer) (path : Path) : Writer :=
  { w with
    current := none
    written := w.written ++ [path]
    reported := w.reported ++ [path]
    notices := w.notices ++ [.wrote path] }

/-- Completes the file being written, if one is open. -/
def close (w : Writer) : Except Failure Unit × Writer :=
  match w.file with
  | none => (.ok (), w)
  | some h =>
      let (refusal, disk) := w.disk.close h
      let closed := { w with disk := disk, file := none }
      match refusal with
      | some r => (.error (.ofRefusedWrite h.path r), closed)
      | none => (.ok (), closed.complete h.path)

/-- Takes an earlier file of this name off the list. -/
def reuse (w : Writer) (path : Path) : Writer :=
  if w.written.contains path then
    { w with written := w.written.erase path }.note (.overwriting path)
  else w

/-- Opens a file in place of any earlier one. -/
def openFile (w : Writer) (path : Path) : Except Failure Path × Writer :=
  match w.disk.create path with
  | (.error e, disk) => (.error (.ofOpenError path e), { w with disk := disk })
  | (.ok h, disk) =>
      (.ok path, { w with disk := disk, file := some h, current := some path }.note (.opened path))

/-- Completes the file being written and opens the one of this name. -/
def checkpoint (w : Writer) (script : Script) (extra : Text) : Except Failure Path × Writer :=
  match w.close with
  | (.error f, w) => (.error f, w)
  | (.ok (), w) =>
      let path := script.expectationPath extra
      (w.reuse path).openFile path

/-- Adds a line to the file being written, if one is open. -/
def writeLine (w : Writer) (t : Text) : Except Failure Unit × Writer :=
  match w.file with
  | none => (.ok (), w)
  | some h =>
      let (refusal, h, disk) := w.disk.write h (Text.Utf8.encode (t ++ ['\n']))
      let after := { w with disk := disk, file := some h }
      match refusal with
      | some r => (.error (.ofRefusedWrite h.path r), after)
      | none => (.ok (), after)

/-- Closes the file being written, whatever the system says. -/
def abandon (w : Writer) : Writer :=
  match w.file with
  | none => w
  | some h =>
      let (refusal, disk) := w.disk.close h
      let closed := { w with disk := disk, file := none }
      match refusal with
      | some _ => closed.note (.closeIgnored h.path)
      | none => closed

/-- Closes and removes the file being written. -/
def discard (w : Writer) : Writer :=
  let w := w.abandon
  match w.current with
  | none => w
  | some path => { w with disk := w.disk.remove path, current := none }.note (.removing path)

end Writer
end TraceScript
