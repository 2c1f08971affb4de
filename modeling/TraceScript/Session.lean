import TraceScript.Expectation.Pass
import TraceScript.Stream

/-!
# Sessions

A session turns one script into its trace stream and its expected output.
The first pass dispatches the directives, in order and up to the first
terminator, and writes their packets to the stream's file.  The second pass
starts when the labels are complete and writes the expected output; a script
without a terminator has none.

A session runs once: it goes from `ready` through `encoding` and `expanding`
to `done`, or to `failed` from wherever the first failure arises.

The stream's file is closed at the end of the first pass, however that ends;
if the system then refuses, this takes the place of any earlier failure.
-/

namespace TraceScript

/-- How far a session has come. -/
inductive Phase
  | ready
  | encoding
  | expanding
  | done
  | failed
  deriving DecidableEq, Repr

/-- The name of a phase. -/
def Phase.text : Phase → Text
  | ready => "READY".toList
  | encoding => "ENCODING".toList
  | expanding => "EXPANDING".toList
  | done => "DONE".toList
  | failed => "FAILED".toList

/-- The state of the first pass. -/
structure Recording (σ : Type) where
  stream : Stream σ
  handle : Handle
  disk : Disk
  notices : List Notice

namespace Recording

variable {σ : Type}

/-- Writes an emission; the answer says whether it ends the stream. -/
def store (r : Recording σ) : Emission → Except Failure Bool × Recording σ
  | .finished _ => (.ok true, r)
  | .packet _ _ _ octets =>
      let (refusal, handle, disk) := r.disk.write r.handle octets
      let after := { r with handle := handle, disk := disk }
      match refusal with
      | some reason => (.error (.ofRefusedWrite handle.path reason), after)
      | none => (.ok false, after)

/-- Handles a line with a directive. -/
def take (e : Encoder σ) (r : Recording σ) (line : ScriptLine) :
    Except Failure Bool × Recording σ :=
  match Directive.ofLine r.stream.labels line with
  | .error f => (.error f, r)
  | .ok d =>
      match r.stream.dispatch e d with
      | (.error f, stream) => (.error f, { r with stream := stream })
      | (.ok emission, stream) =>
          { r with stream := stream, notices := r.notices ++ emission.notices }.store emission

/-- Handles lines up to the first failure or the end of the stream. -/
def takeAll (e : Encoder σ) : List ScriptLine → Recording σ → Except Failure Bool × Recording σ
  | [], r => (.ok false, r)
  | line :: rest, r =>
      match r.take e line with
      | (.ok false, r) => takeAll e rest r
      | ended => ended

end Recording

/-- One run of the generator over one script. -/
structure Session (σ : Type) where
  script : Script
  encoder : Encoder σ
  phase : Phase
  stream : Stream σ
  disk : Disk
  files : List Path
  reported : List Path
  notices : List Notice

namespace Session

variable {σ : Type}

/-- A session that is ready to run. -/
def start (disk : Disk) (script : Script) (assembly : LabelTable) (encoder : Encoder σ)
    (state : σ) : Session σ where
  script := script
  encoder := encoder
  phase := .ready
  stream := Stream.start ⟨assembly, LabelTable.empty⟩ state
  disk := disk
  files := []
  reported := []
  notices := []

/-- The notice of a stream of this length. -/
def streamNotice (s : Session σ) (size : Nat) : Notice :=
  .streamWritten size s.script.streamPath

/-- The first pass with the stream's file open. -/
def record (s : Session σ) (handle : Handle) : Except Failure Bool × Session σ :=
  let (result, r) :=
    Recording.takeAll s.encoder s.script.directiveLines ⟨s.stream, handle, s.disk, s.notices⟩
  let told :=
    match result with
    | .ok true => r.notices ++ [s.streamNotice r.stream.offset]
    | _ => r.notices
  let (refusal, disk) := r.disk.close r.handle
  let after := { s with stream := r.stream, disk := disk, notices := told }
  match refusal with
  | some reason => (.error (.system reason none), after)
  | none => (result, after)

/-- The first pass; the answer says whether a terminator ended the stream. -/
def encode (s : Session σ) : Except Failure Bool × Session σ :=
  match s.disk.create s.script.streamPath with
  | (.error e, disk) => (.error (.ofOpenError s.script.streamPath e), { s with disk := disk })
  | (.ok handle, disk) =>
      match { s with disk := disk }.record handle with
      | (.ok false, s) =>
          (.ok false,
            { s with
              notices := s.notices ++
                [s.streamNotice s.stream.offset, .noCheckpoint s.script.filename] })
      | ended => ended

/-- The second pass. -/
def expandAll (s : Session σ) : Except Failure (List Path) × Session σ :=
  let (result, w) := Writer.run s.disk s.script s.stream.labels
  (result,
    { s with
      disk := w.disk
      reported := s.reported ++ w.reported
      notices := s.notices ++ w.notices })

/-- Ends a session with a failure. -/
def fail (s : Session σ) (f : Failure) : Except Failure (List Path) × Session σ :=
  (.error f, { s with phase := .failed })

/-- Runs both passes; the answer lists the files of expected output. -/
def run (s : Session σ) : Except Failure (List Path) × Session σ :=
  if s.phase = .ready then
    match { s with phase := .encoding }.encode with
    | (.error f, s) => s.fail f
    | (.ok false, s) => (.ok s.files, { s with phase := .done })
    | (.ok true, s) =>
        match { s with phase := .expanding }.expandAll with
        | (.error f, s) => s.fail f
        | (.ok files, s) => (.ok files, { s with files := files, phase := .done })
  else (.error (.internal (.sessionSpent s.phase.text)), s)

end Session
end TraceScript
