import TraceScript.Command.Script
import TraceScript.Proofs.Session.Failure

/-!
# The status of a script file

Generating from a script file either completes or fails as
`Failure.OfGeneration` says.  Where it completes the status is zero, and where
it fails with something that has a code the status is that code's number, which
is negative.  A refusal of the system counts as a file that cannot be opened, and a
lack of memory has a code of its own.

Five faults have no code, and running the script file has no status then
(`Failure.Escapes`): a null character in the name of the file, octets that are no
text, a buffer larger than any memory, a decimal number that is too long, and a
null character in the name of an output file.  The last two stand in the script.
-/

namespace TraceScript

variable {disk : Disk} {file : Path} {assembly : LabelTable} {size : Nat} {content : Text}
  {f : Failure}

/-- Generates from a script file; the answer lists the files of expected
output. -/
def generated (disk : Disk) (file : Path) (assembly : LabelTable) (size : Nat) :
    Except Failure (List Path) := do
  let session ← prepare disk file assembly size
  session.run.1

/-! ### Failures and their codes -/

namespace Failure

/-- The code that a failure counts as, if it has a status. -/
def status? : Failure → Option ErrorCode
  | .system _ _ => some .fileOpen
  | .value .outOfMemory => some .noMemory
  | f => f.code?

/-- A failure that running a script file has no status for. -/
inductive Escapes (disk : Disk) (file : Path) (size : Nat) : Failure → Prop
  | fileName (hnull : '\x00' ∈ file.text) : Escapes disk file size (.value .nullByte)
  | undecodable (octets : Octets) (m : Text.Utf8.Malformed) (hread : disk.read file = .ok octets)
      (hdecode : Text.Utf8.decode octets = .error m) :
      Escapes disk file size (.value (.undecodable m))
  | bufferSize (hsize : 0x8000000000000000 ≤ size) : Escapes disk file size .overflow
  | longDecimal (content : Text) (digits : Nat) (hread : disk.readText file = .ok content)
      (hlong : content.HoldsLongDecimal digits) :
      Escapes disk file size (.value (.longDecimal digits))
  | outputName (content : Text) (hread : disk.readText file = .ok content)
      (hnull : '\x00' ∈ content) : Escapes disk file size (.value .nullByte)

/-- A failure that generating from a script file may end with. -/
inductive OfGeneration (disk : Disk) (file : Path) (size : Nat) : Failure → Prop
  | script (e : ScriptError) (hfound : e.cause.IsFound) : OfGeneration disk file size (.script e)
  | output (op : FileOperation) (reason : Refusal) :
      OfGeneration disk file size (op.failure reason)
  | internal (fault : InternalFault) : OfGeneration disk file size (.internal fault)
  | unread (reason : Refusal) (hload : disk.load file = .error (.refused reason)) :
      OfGeneration disk file size (.system reason (some file))
  | unaffordable (hmemory : disk.faults.memory < size) :
      OfGeneration disk file size (.value .outOfMemory)
  | unsealed (path : Path) (reason : Refusal)
      (hclose : disk.faults.closing path disk.attempts = some reason) :
      OfGeneration disk file size (.system reason none)
  | escaping (f : Failure) (hescapes : f.Escapes disk file size) : OfGeneration disk file size f

/-- A failure that escapes has no status. -/
theorem Escapes.status? (h : f.Escapes disk file size) : f.status? = none := by
  cases h <;> rfl

end Failure

/-- The codes below the others: those of a script's errors and of refused
outputs. -/
theorem ErrorCode.number_lt_iff (c : ErrorCode) :
    c.number < -2 ↔ c ≠ .success ∧ c ≠ .internal ∧ c ≠ .noMemory := by
  cases c <;> decide

/-- The code of what is found in a script is that of no other family. -/
theorem Cause.IsFound.number_lt {c : Cause} (h : c.IsFound) : c.code.number < -2 := by
  rw [ErrorCode.number_lt_iff]
  cases c with
  | stated => exact h.elim
  | _ => exact ⟨nofun, nofun, nofun⟩

/-- Nor is the code of a refused output that of another family. -/
theorem FileOperation.number_lt (op : FileOperation) : op.code.number < -2 := by
  rw [ErrorCode.number_lt_iff]
  cases op <;> exact ⟨nofun, nofun, nofun⟩

/-- A failure has a code, and not that of success, or no status. -/
theorem Failure.OfGeneration.status?_cases (h : f.OfGeneration disk file size) :
    (∃ code, f.status? = some code ∧ code ≠ .success) ∨ f.Escapes disk file size := by
  cases h with
  | script e hfound => exact .inl ⟨e.code, rfl, (e.code.number_lt_iff.mp hfound.number_lt).1⟩
  | output op => exact .inl ⟨op.code, rfl, (op.code.number_lt_iff.mp op.number_lt).1⟩
  | internal => exact .inl ⟨.internal, rfl, nofun⟩
  | unread => exact .inl ⟨.fileOpen, rfl, nofun⟩
  | unaffordable => exact .inl ⟨.noMemory, rfl, nofun⟩
  | unsealed => exact .inl ⟨.fileOpen, rfl, nofun⟩
  | escaping _ hescapes => exact .inr hescapes

/-- A failure is settled by its status, and is the outcome itself where it has
none. -/
theorem Report.settle_outcome (f : Failure) :
    (settle f).1 = match f.status? with
      | some code => .ok code.number
      | none => .error f := by
  cases f with
  | value fault => cases fault <;> rfl
  | _ => rfl

/-! ### Preparing a session -/

/-- A file that can be read has no null character in its name. -/
theorem Disk.null_of_read {octets : Octets} (h : disk.read file = .ok octets) :
    '\x00' ∉ file.text := by
  intro hnull
  have hreach : disk.reach file = .error .nullByte := by
    rw [reach, if_pos (List.contains_iff_mem.mpr hnull)]
  simp only [read, hreach] at h
  cases h

/-- What cannot even be asked of the system has a null character in its name. -/
theorem Disk.null_of_read_nullByte (h : disk.read file = .error .nullByte) :
    '\x00' ∈ file.text := by
  unfold read at h
  split at h
  · rename_i error hreach
    cases h
    exact List.contains_iff_mem.mp (contains_of_reach_nullByte hreach)
  · split at h <;> cases h

/-- What is loaded is what the file holds. -/
theorem Disk.load_eq_ok_iff {octets : Octets} :
    disk.load file = .ok octets ↔
      disk.read file = .ok octets ∧ disk.faults.reading file = none := by
  unfold load
  cases disk.read file with
  | error error => simp
  | ok content => cases disk.faults.reading file <;> simp

/-- A file that holds something is refused as planned. -/
theorem Disk.load_of_refused {octets : Octets} {reason : Refusal}
    (hread : disk.read file = .ok octets) (hrefused : disk.faults.reading file = some reason) :
    disk.load file = .error (.refused reason) := by
  simp only [load, hread, hrefused]

/-- Only the name of a file can have a null character in it. -/
theorem Disk.null_of_load_nullByte (h : disk.load file = .error .nullByte) :
    '\x00' ∈ file.text := by
  unfold load at h
  split at h
  · rename_i error hread
    cases h
    exact null_of_read_nullByte hread
  · split at h <;> cases h

/-- A text that is loaded is made of the octets that are. -/
theorem Disk.load_of_loadText (h : disk.loadText file = .ok content) :
    ∃ octets, disk.load file = .ok octets ∧ textOfOctets octets = .ok content := by
  unfold loadText at h
  cases hload : disk.load file with
  | error error =>
      rw [hload] at h
      cases h
  | ok octets =>
      rw [hload] at h
      exact ⟨octets, rfl, h⟩

/-- Octets that are loaded are a text as far as they can be decoded. -/
theorem Disk.loadText_of_load {octets : Octets} (h : disk.load file = .ok octets) :
    disk.loadText file = textOfOctets octets := by
  rw [loadText, h]
  rfl

/-- What is not loaded fails for the same reason as a text. -/
theorem Disk.loadText_of_load_error {error : OpenError} (h : disk.load file = .error error) :
    disk.loadText file = .error (.ofReadError file error) := by
  rw [loadText, h]
  rfl

/-- A text that is loaded is the text that the file holds. -/
theorem Disk.readText_of_loadText (h : disk.loadText file = .ok content) :
    disk.readText file = .ok content := by
  obtain ⟨octets, hload, htext⟩ := load_of_loadText h
  rw [readText, (load_eq_ok_iff.mp hload).1]
  exact htext

/-- Octets are no text just where they are no UTF-8. -/
theorem decode_of_textOfOctets_error {octets : Octets} (h : textOfOctets octets = .error f) :
    ∃ m, Text.Utf8.decode octets = .error m ∧ f = .value (.undecodable m) := by
  unfold textOfOctets at h
  split at h
  · rename_i m hdecode
    cases h
    exact ⟨m, hdecode, rfl⟩
  · cases h

/-- A file is no text because it cannot be loaded or decoded. -/
theorem Disk.loadText_error_cases (h : disk.loadText file = .error f) :
    (∃ error, disk.load file = .error error ∧ f = .ofReadError file error) ∨
    ∃ octets m, disk.load file = .ok octets ∧ Text.Utf8.decode octets = .error m ∧
      f = .value (.undecodable m) := by
  cases hload : disk.load file with
  | error error =>
      rw [loadText_of_load_error hload] at h
      cases h
      exact .inl ⟨error, rfl, rfl⟩
  | ok octets =>
      rw [loadText_of_load hload] at h
      obtain ⟨m, hdecode, hf⟩ := decode_of_textOfOctets_error h
      exact .inr ⟨octets, m, rfl, hdecode, hf⟩

/-- What keeps a file from being a text fails the generation from it. -/
theorem Disk.ofGeneration_of_loadText (h : disk.loadText file = .error f) :
    f.OfGeneration disk file size := by
  obtain ⟨error, hload, rfl⟩ | ⟨octets, m, hload, hdecode, rfl⟩ := loadText_error_cases h
  · cases error with
    | nullByte => exact .escaping _ (.fileName (null_of_load_nullByte hload))
    | refused reason => exact .unread reason hload
  · exact .escaping _ (.undecodable octets m (load_eq_ok_iff.mp hload).1 hdecode)

/-- No file is too large to be a text. -/
theorem Disk.loadText_ne_overflow : disk.loadText file ≠ .error .overflow := by
  intro h
  obtain ⟨error, -, hf⟩ | ⟨octets, m, -, -, hf⟩ := loadText_error_cases h
  · cases error <;> cases hf
  · cases hf

/-- A buffer of a natural size can be had unless the size is no signed word,
or more than there is memory for. -/
theorem Scratch.allocate_natCast (memory size : Nat) :
    Scratch.allocate memory size =
      if 0x8000000000000000 ≤ size then .error .overflow
      else if memory < size then .error (.value .outOfMemory)
      else .ok (Scratch.zeros size) := by
  unfold allocate
  by_cases hsize : 0x8000000000000000 ≤ size
  · rw [if_pos hsize, if_pos (by omega)]
  · rw [if_neg hsize, if_neg (by omega), if_neg (by omega), Int.toNat_natCast]
    simp only [Int.ofNat_lt]

/-- What preparing a session over a text comes to. -/
theorem prepare_of_loadText (h : disk.loadText file = .ok content) :
    prepare disk file assembly size =
      if 0x8000000000000000 ≤ size then .error .overflow
      else if disk.faults.memory < size then .error (.value .outOfMemory)
      else .ok (Session.start disk (Script.ofFile file content) assembly ptEncoder
        (Scratch.zeros size)) := by
  unfold prepare
  rw [h, Scratch.allocate_natCast]
  split
  · rfl
  · split <;> rfl

/-- Without the text of the script, no buffer is asked for. -/
theorem prepare_of_loadText_error (h : disk.loadText file = .error f) :
    prepare disk file assembly size = .error f := by
  unfold prepare
  rw [h]
  rfl

/-- A session cannot be prepared, or runs over the text of the file.  The
buffer is asked for last, so a session that is prepared has the whole size
that was asked for. -/
theorem prepare_cases (disk : Disk) (file : Path) (assembly : LabelTable) (size : Nat) :
    (∃ f, prepare disk file assembly size = .error f ∧ f.OfGeneration disk file size) ∨
    ∃ content, disk.loadText file = .ok content ∧
      prepare disk file assembly size =
        .ok (Session.start disk (Script.ofFile file content) assembly ptEncoder
          (Scratch.zeros size)) := by
  cases hload : disk.loadText file with
  | error f => exact .inl ⟨f, prepare_of_loadText_error hload, Disk.ofGeneration_of_loadText hload⟩
  | ok content =>
      rw [prepare_of_loadText hload]
      split
      · rename_i hsize
        exact .inl ⟨_, rfl, .escaping _ (.bufferSize hsize)⟩
      · split
        · rename_i hmemory
          exact .inl ⟨_, rfl, .unaffordable hmemory⟩
        · exact .inr ⟨content, rfl, rfl⟩

/-! ### Running -/

/-- What fails a session over the text of a file fails the generating from
that file.  A long number or a null character then stands in the text: a name
with a null character could not have been loaded. -/
theorem Failure.OfSession.ofGeneration (hload : disk.loadText file = .ok content)
    (h : f.OfSession disk (Script.ofFile file content) content) :
    f.OfGeneration disk file size := by
  cases h with
  | script e hfound => exact .script e hfound
  | output op reason => exact .output op reason
  | internal fault => exact .internal fault
  | longDecimal digits hlong =>
      exact .escaping _ (.longDecimal content digits (Disk.readText_of_loadText hload) hlong)
  | nullName hnull =>
      obtain hroot | hcontent := hnull
      · obtain ⟨octets, hoctets, -⟩ := Disk.load_of_loadText hload
        have hfile := Path.mem_of_mem_text_withoutSuffix (by decide) (by decide) hroot
        exact absurd hfile (Disk.null_of_read (Disk.load_eq_ok_iff.mp hoctets).1)
      · exact .escaping _ (.outputName content (Disk.readText_of_loadText hload) hcontent)
  | unsealed reason hclose => exact .unsealed _ reason hclose

/-- Generating fails in one of these ways. -/
theorem ofGeneration_of_generated (h : generated disk file assembly size = .error f) :
    f.OfGeneration disk file size := by
  obtain ⟨g, hprepare, hg⟩ | ⟨content, hload, hprepare⟩ := prepare_cases disk file assembly size
  · rw [generated, hprepare] at h
    cases h
    exact hg
  · rw [generated, hprepare] at h
    have hlines : ∀ line ∈ (Script.ofFile file content).lines, line.Within content :=
      fun _ => Script.within_of_mem_lines
    exact (Session.ofSession_of_run hlines h).ofGeneration hload

/-- The outcome is what the generation from the script comes to. -/
theorem runScript_outcome (disk : Disk) (file : Path) (assembly : LabelTable) (size : Nat) :
    (runScript disk file assembly size).outcome =
      (Report.settleResult (generated disk file assembly size)).1 := by
  unfold runScript generated
  cases prepare disk file assembly size <;> rfl

/-- So is the diagnostic. -/
theorem runScript_errors (disk : Disk) (file : Path) (assembly : LabelTable) (size : Nat) :
    (runScript disk file assembly size).errors =
      (Report.settleResult (generated disk file assembly size)).2 := by
  unfold runScript generated
  cases prepare disk file assembly size <;> rfl

/-- A failure with a code leaves the number of that code as the status. -/
theorem outcome_of_status? {code : ErrorCode} (h : generated disk file assembly size = .error f)
    (hcode : f.status? = some code) :
    (runScript disk file assembly size).outcome = .ok code.number := by
  rw [runScript_outcome, h, Report.settleResult, Report.settle_outcome, hcode]

/-- The outcome is a failure just where the generation ends with it and it
escapes. -/
theorem outcome_eq_error_iff :
    (runScript disk file assembly size).outcome = .error f ↔
      generated disk file assembly size = .error f ∧ f.Escapes disk file size := by
  rw [runScript_outcome]
  cases hgenerated : generated disk file assembly size with
  | ok files => simp [Report.settleResult]
  | error g =>
      rw [Report.settleResult, Report.settle_outcome]
      obtain ⟨code, hcode, -⟩ | hescapes := (ofGeneration_of_generated hgenerated).status?_cases
      · simp only [hcode, reduceCtorEq, false_iff]
        rintro ⟨⟨⟩, hescapes⟩
        rw [hescapes.status?] at hcode
        cases hcode
      · simp only [hescapes.status?]
        constructor
        · rintro ⟨⟩
          exact ⟨rfl, hescapes⟩
        · rintro ⟨⟨⟩, -⟩
          rfl

/-- Octets that are no text leave a script file without a status.  Nothing
else that can go wrong with a script file is reported so. -/
theorem outcome_undecodable_iff {m : Text.Utf8.Malformed} :
    (runScript disk file assembly size).outcome = .error (.value (.undecodable m)) ↔
      ∃ octets, disk.load file = .ok octets ∧ Text.Utf8.decode octets = .error m := by
  constructor
  · intro h
    obtain ⟨hgenerated, hescapes⟩ := outcome_eq_error_iff.mp h
    cases hescapes with
    | undecodable octets _ hread hdecode =>
        refine ⟨octets, ?_, hdecode⟩
        cases hrefused : disk.faults.reading file with
        | none => exact Disk.load_eq_ok_iff.mpr ⟨hread, hrefused⟩
        | some reason =>
            have htext := Disk.loadText_of_load_error (Disk.load_of_refused hread hrefused)
            rw [generated, prepare_of_loadText_error htext] at hgenerated
            cases hgenerated
  · rintro ⟨octets, hload, hdecode⟩
    have htext : disk.loadText file = .error (.value (.undecodable m)) := by
      rw [Disk.loadText_of_load hload, textOfOctets, hdecode]
    have hgenerated : generated disk file assembly size = .error (.value (.undecodable m)) := by
      rw [generated, prepare_of_loadText_error htext]
      rfl
    have hread := (Disk.load_eq_ok_iff.mp hload).1
    exact outcome_eq_error_iff.mpr ⟨hgenerated, .undecodable octets m hread hdecode⟩

/-- So does a buffer that no memory can have.  The file is read first, so it
must be one that can be read. -/
theorem outcome_overflow_iff :
    (runScript disk file assembly size).outcome = .error .overflow ↔
      0x8000000000000000 ≤ size ∧ ∃ content, disk.loadText file = .ok content := by
  rw [outcome_eq_error_iff]
  constructor
  · rintro ⟨hgenerated, ⟨⟩⟩
    rename_i hsize
    cases hload : disk.loadText file with
    | ok content => exact ⟨hsize, content, rfl⟩
    | error g =>
        rw [generated, prepare_of_loadText_error hload] at hgenerated
        cases hgenerated
        exact absurd hload Disk.loadText_ne_overflow
  · rintro ⟨hsize, content, hload⟩
    rw [generated, prepare_of_loadText hload, if_pos hsize]
    exact ⟨rfl, .bufferSize hsize⟩

/-- The status of a script file is zero where generating from it completes.
Where that fails, the status is the number of the failure's code, which is
negative, but for the faults that have none; they are the outcome themselves.
Octets that are no text always are such a fault where the system lets them be
read, and so is a buffer larger than any memory where the file is a text. -/
theorem runScript_status (disk : Disk) (file : Path) (assembly : LabelTable) (size : Nat) :
    let outcome := (runScript disk file assembly size).outcome
    (match generated disk file assembly size with
      | .ok _ => outcome = .ok 0
      | .error f =>
          (∃ code, f.status? = some code ∧ code.number < 0 ∧ outcome = .ok code.number) ∨
          f.Escapes disk file size ∧ outcome = .error f) ∧
      (∀ m, outcome = .error (.value (.undecodable m)) ↔
        ∃ octets, disk.load file = .ok octets ∧ Text.Utf8.decode octets = .error m) ∧
      (outcome = .error .overflow ↔
        0x8000000000000000 ≤ size ∧ ∃ content, disk.loadText file = .ok content) := by
  intro outcome
  refine ⟨?_, fun _ => outcome_undecodable_iff, outcome_overflow_iff⟩
  cases hgenerated : generated disk file assembly size with
  | ok files =>
      have houtcome := runScript_outcome disk file assembly size
      rw [hgenerated] at houtcome
      exact houtcome
  | error f =>
      obtain ⟨code, hcode, hne⟩ | hescapes := (ofGeneration_of_generated hgenerated).status?_cases
      · have hneg : code.number < 0 := code.number_neg_iff.mpr hne
        exact .inl ⟨code, hcode, hneg, outcome_of_status? hgenerated hcode⟩
      · exact .inr ⟨hescapes, outcome_eq_error_iff.mpr ⟨hgenerated, hescapes⟩⟩

/-- A file of one octet that no text starts with, the name of an output file
with a null character, and a buffer of more octets than can be counted: none
has a status. -/
theorem runScript_status_escapes :
    let file := Path.ofText "t.ptt".toList
    let broken : Disk := Disk.empty.withFile file [0xff]
    let named : Disk := Disk.empty.withFile file (Text.Utf8.encode "; @pt .exp(\x00)\n".toList)
    let plain : Disk := Disk.empty.withFile file []
    (runScript broken file LabelTable.empty 64).outcome =
        .error (.value (.undecodable ⟨0, [0xff], .invalidStart⟩)) ∧
      (runScript named file LabelTable.empty 64).outcome = .error (.value .nullByte) ∧
      (runScript plain file LabelTable.empty 0x8000000000000000).outcome = .error .overflow := by
  refine ⟨?_, ?_, ?_⟩ <;> decide +kernel

end TraceScript
