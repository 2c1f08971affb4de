import Mathlib.Data.List.Nodup
import TraceScript.Proofs.Expectation.Course

/-!
# A writer under any use

A writer of expected output may be used in any order, by whoever holds it, and
also behind a failure (`Writer.Call`).  What ought to be in its files can be told
from the calls and the answers to them alone: `Ledger` keeps, for the file that
is open and for every complete one, the lines that were written since its name
was last opened, and the names in the order of completion.  It knows nothing of
the disk, and an answer tells it enough: a refused closing loses the file that
was open, any other failure of a checkpoint comes behind the closing.

The writer agrees with its ledger (`Writer.Agrees`), and every operation keeps
the two in step.  Two facts carry this.  The name in hand is never on the list,
since a checkpoint takes it off before it opens it; and different names are
different files, so that no listed file is touched by writing, emptying or
removing the one in hand, not even when that one is stale.
-/

namespace TraceScript

/-- The octets of lines. -/
def storedLines (lines : List Text) : Octets :=
  lines.flatMap fun t => Text.Utf8.encode (t ++ ['\n'])

/-- One more line is stored behind the others, with its line break. -/
theorem storedLines_concat (lines : List Text) (t : Text) :
    storedLines (lines ++ [t]) = storedLines lines ++ Text.Utf8.encode (t ++ ['\n']) := by
  simp [storedLines]

namespace Writer

/-- What a writer can be asked for. -/
inductive Call
  | checkpoint (extra : Text)
  | writeLine (t : Text)
  | close
  | discard

/-- The answer to a call, and the writer behind it. -/
def perform (script : Script) (w : Writer) : Call → Except Failure Unit × Writer
  | .checkpoint extra =>
      let (answer, w) := w.checkpoint script extra
      (answer.map fun _ => (), w)
  | .writeLine t => w.writeLine t
  | .close => w.close
  | .discard => (.ok (), w.discard)

/-- The answers to a row of calls, also behind those that fail, and the writer
behind them. -/
def performAll (script : Script) : List Call → Writer → List (Except Failure Unit) × Writer
  | [], w => ([], w)
  | call :: rest, w =>
      let (answer, w) := w.perform script call
      let (answers, w) := performAll script rest w
      (answer :: answers, w)

/-- The name that a call asks to open. -/
def Call.path? (script : Script) : Call → Option Path
  | .checkpoint extra => some (script.expectationPath extra)
  | .writeLine _ => none
  | .close => none
  | .discard => none

end Writer

/-! ### Ledgers -/

/-- The open file and the complete ones, by their names and with their lines,
and the names in the order in which files were completed. -/
structure Ledger where
  opened : Option (Path × List Text)
  listed : List (Path × List Text)
  completed : List Path

namespace Ledger

/-- The ledger of a writer that has written nothing. -/
def start : Ledger := ⟨none, [], []⟩

/-- The open file is complete. -/
def complete (l : Ledger) : Ledger :=
  match l.opened with
  | none => l
  | some (path, lines) => ⟨none, l.listed ++ [(path, lines)], l.completed ++ [path]⟩

/-- The open file is lost. -/
def lose (l : Ledger) : Ledger :=
  { l with opened := none }

/-- A name is taken off the list. -/
def takeOff (l : Ledger) (path : Path) : Ledger :=
  { l with listed := l.listed.filter (·.1 != path) }

/-- A file is open, and empty. -/
def begin (l : Ledger) (path : Path) : Ledger :=
  { l with opened := some (path, []) }

/-- The open file has one more line. -/
def add (l : Ledger) (t : Text) : Ledger :=
  { l with opened := l.opened.map fun (path, lines) => (path, lines ++ [t]) }

/-- Whether a file that is open was refused to be closed, by the failure. -/
def isRefusedClosing (f : Failure) : Bool :=
  f.code? == some .fileWrite

/-- The ledger behind a call, by the answer to it. -/
def after (script : Script) (l : Ledger) : Writer.Call → Except Failure Unit → Ledger
  | .checkpoint extra, .ok () =>
      (l.complete.takeOff (script.expectationPath extra)).begin (script.expectationPath extra)
  | .checkpoint extra, .error f =>
      if isRefusedClosing f then l.lose else l.complete.takeOff (script.expectationPath extra)
  | .writeLine t, .ok () => l.add t
  | .writeLine _, .error _ => l
  | .close, .ok () => l.complete
  | .close, .error _ => l.lose
  | .discard, _ => l.lose

/-- The ledger behind a row of calls with their answers. -/
def afterAll (script : Script) : List (Writer.Call × Except Failure Unit) → Ledger → Ledger
  | [], l => l
  | (call, answer) :: rest, l => afterAll script rest (l.after script call answer)

/-- The names on the list. -/
def names (l : Ledger) : List Path :=
  l.listed.map (·.1)

/-- Without an open file there is nothing to complete. -/
theorem complete_of_none {l : Ledger} (h : l.opened = none) : l.complete = l := by
  rw [complete, h]

theorem lose_of_none {l : Ledger} (h : l.opened = none) : l.lose = l := by
  rw [lose, ← h]

theorem add_of_none {l : Ledger} (h : l.opened = none) (t : Text) : l.add t = l := by
  rw [add, h]
  obtain ⟨opened, listed, completed⟩ := l
  cases h
  rfl

/-- A name that is taken off the list is taken once, since none is listed
twice. -/
theorem names_takeOff {l : Ledger} (hnodup : l.names.Nodup) (path : Path) :
    (l.takeOff path).names = l.names.erase path := by
  rw [hnodup.erase_eq_filter, names, names, takeOff, List.filter_map]
  rfl

end Ledger

/-! ### Agreement -/

namespace Writer

variable (disk : Disk) (names : List Path)

/-- A writer agrees with a ledger: the list is the ledger's, and the files
hold their lines.  All names are among those that may be opened; the name in
hand is not on the list; and only the file in hand may be open. -/
structure Agrees (l : Ledger) (w : Writer) : Prop where
  written : w.written = l.names
  nodup : l.names.Nodup
  reported : w.reported = l.completed
  listed : ∀ p lines, (p, lines) ∈ l.listed → p ∈ names ∧
    ∃ key, disk.reach p = .ok key ∧ w.disk.find? key = some (storedLines lines)
  current : ∀ p ∈ w.current, p ∉ l.names ∧ p ∈ names ∧ ∃ key, disk.reach p = .ok key
  opened : (w.file = none ∧ l.opened = none) ∨
    ∃ h lines, w.file = some h ∧ l.opened = some (h.path, lines) ∧ w.current = some h.path ∧
      disk.reach h.path = .ok h.key ∧ w.disk.find? h.key = some (storedLines lines)
  directories : w.disk.directories = disk.directories
  live : w.disk.live.Perm ((w.file.map (·.attempt)).toList ++ disk.live)

variable {disk names} {l : Ledger} {w : Writer} {h : Handle} {lines : List Text}

/-- A writer that has done nothing agrees with the empty ledger. -/
theorem agrees_start (disk : Disk) (names : List Path) :
    Agrees disk names Ledger.start (start disk) where
  written := rfl
  nodup := List.nodup_nil
  reported := rfl
  listed := nofun
  current := nofun
  opened := .inl ⟨rfl, rfl⟩
  directories := rfl
  live := .refl _

/-- Without an open file the ledger has none. -/
theorem Agrees.opened_eq_none (ha : Agrees disk names l w) (hfile : w.file = none) :
    l.opened = none := by
  obtain ⟨-, hopened⟩ | ⟨h, lines, hsome, -⟩ := ha.opened
  · exact hopened
  · rw [hfile] at hsome
    cases hsome

/-- An open file is the one in hand, and holds its lines. -/
theorem Agrees.exists_lines (ha : Agrees disk names l w) (hfile : w.file = some h) :
    ∃ lines, l.opened = some (h.path, lines) ∧ w.current = some h.path ∧
      disk.reach h.path = .ok h.key ∧ w.disk.find? h.key = some (storedLines lines) := by
  obtain ⟨hnone, -⟩ | ⟨h', lines, hsome, hlines⟩ := ha.opened
  · rw [hfile] at hnone
    cases hnone
  · obtain rfl := Option.some.inj (hfile.symm.trans hsome)
    exact ⟨lines, hlines⟩

/-- No listed file is at the place of a name that is not on the list. -/
theorem Agrees.place_ne (ha : Agrees disk names l w) (hdistinct : DistinctFiles disk names)
    {p q key place : Path} (hp : (p, lines) ∈ l.listed) (hpkey : disk.reach p = .ok key)
    (hq : q ∈ names) (hnew : q ∉ l.names) (hplace : disk.reach q = .ok place) : key ≠ place := by
  rintro rfl
  obtain rfl := hdistinct p (ha.listed p lines hp).1 q hq key hpkey hplace
  exact hnew (List.mem_map_of_mem hp)

/-! ### Closing -/

/-- A file that cannot be closed, or is not to be kept, is lost. -/
theorem Agrees.released (ha : Agrees disk names l w) (hfile : w.file = some h) :
    Agrees disk names l.lose (w.released h) where
  written := ha.written
  nodup := ha.nodup
  reported := ha.reported
  listed := ha.listed
  current := ha.current
  opened := .inl ⟨rfl, rfl⟩
  directories := ha.directories
  live := by
    have hperm := ha.live
    rw [hfile] at hperm
    simpa [Writer.released, Disk.close] using hperm.erase h.attempt

/-- A file that is closed is complete.  Its name was in hand and not on the
list, so no name is listed twice. -/
theorem Agrees.complete (ha : Agrees disk names l w) (hfile : w.file = some h) :
    Agrees disk names l.complete ((w.released h).complete h.path) := by
  obtain ⟨lines, hopened, hcurrent, hkey, hcontent⟩ := ha.exists_lines hfile
  obtain ⟨hnew, hname, -⟩ := ha.current h.path hcurrent
  have hcomplete : l.complete =
      ⟨none, l.listed ++ [(h.path, lines)], l.completed ++ [h.path]⟩ := by
    rw [Ledger.complete, hopened]
  have hnames : l.complete.names = l.names ++ [h.path] := by
    rw [hcomplete]
    simp [Ledger.names]
  constructor
  · rw [hnames, ← ha.written]
    rfl
  · rw [hnames, ← List.concat_eq_append]
    exact ha.nodup.concat hnew
  · rw [hcomplete, ← ha.reported]
    rfl
  · intro p lines' hp
    rw [hcomplete] at hp
    rcases List.mem_append.mp hp with hp | hp
    · exact ha.listed p lines' hp
    · cases List.mem_singleton.mp hp
      exact ⟨hname, h.key, hkey, hcontent⟩
  · exact nofun
  · exact .inl ⟨rfl, by rw [hcomplete]⟩
  · exact ha.directories
  · exact (ha.released hfile).live

/-- Closing completes the open file, or is refused and loses it. -/
theorem Agrees.close (ha : Agrees disk names l w) :
    (∃ p r w', w.close = (.error (.ofRefusedWrite p r), w') ∧ Agrees disk names l.lose w') ∨
    (∃ w', w.close = (.ok (), w') ∧ Agrees disk names l.complete w' ∧ w'.file = none) := by
  cases hfile : w.file with
  | none =>
      have hnone := ha.opened_eq_none hfile
      refine .inr ⟨w, by rw [Writer.close, hfile], ?_, hfile⟩
      rwa [Ledger.complete_of_none hnone]
  | some h =>
      rw [close_eq hfile]
      cases (w.disk.close h).1 with
      | some r => exact .inl ⟨h.path, r, _, rfl, ha.released hfile⟩
      | none => exact .inr ⟨_, rfl, ha.complete hfile, rfl⟩

/-! ### Opening -/

/-- Taking a name off the list changes no file.  A name that is not on the list
is left as it is, and one that is there goes with its place in the order. -/
theorem Agrees.reuse (ha : Agrees disk names l w) (path : Path) :
    Agrees disk names (l.takeOff path) (w.reuse path) ∧ path ∉ (l.takeOff path).names ∧
      (w.reuse path).file = w.file := by
  have hnames := Ledger.names_takeOff ha.nodup path
  have hsub : (l.takeOff path).names ⊆ l.names := by
    rw [hnames]
    exact List.erase_subset
  have hagrees : ∀ notices, Agrees disk names (l.takeOff path)
      { w with written := w.written.erase path, notices := notices } := fun notices =>
    { written := by rw [hnames, ← ha.written]
      nodup := by
        rw [hnames]
        exact ha.nodup.erase path
      reported := ha.reported
      listed := fun p lines hp => ha.listed p lines (List.mem_of_mem_filter hp)
      current := fun p hp => ⟨fun hmem => (ha.current p hp).1 (hsub hmem), (ha.current p hp).2⟩
      opened := ha.opened
      directories := ha.directories
      live := ha.live }
  refine ⟨?_, ?_, ?_⟩
  · unfold Writer.reuse
    split
    · exact hagrees _
    · rename_i hnew
      have hsame := hagrees w.notices
      rwa [List.erase_of_not_mem (by simpa using hnew)] at hsame
  · rw [hnames]
    exact ha.nodup.not_mem_erase
  · unfold Writer.reuse
    split <;> rfl

/-- A name that is not on the list is opened, or that fails and changes
nothing. -/
theorem Agrees.openFile (ha : Agrees disk names l w) (hdistinct : DistinctFiles disk names)
    (hfile : w.file = none) {path : Path} (hpath : path ∈ names) (hnew : path ∉ l.names) :
    (∃ e w', w.openFile path = (.error (.ofOpenError path e), w') ∧ Agrees disk names l w') ∨
    (∃ w', w.openFile path = (.ok path, w') ∧ Agrees disk names (l.begin path) w') := by
  obtain ⟨e, hopen⟩ | ⟨key, hreach, hopen⟩ := openFile_cases w path
  · left
    exact ⟨e, _, hopen, ha.written, ha.nodup, ha.reported, ha.listed, ha.current, ha.opened,
      ha.directories, ha.live⟩
  · right
    have hkey := Disk.reach_of_directories ha.directories.symm hreach
    refine ⟨_, hopen, ha.written, ha.nodup, ha.reported, ?_, ?_,
      .inr ⟨_, [], rfl, rfl, rfl, hkey, ?_⟩, ha.directories, ?_⟩
    -- opening empties the file, which is none of those that are listed
    · intro p lines hp
      obtain ⟨hname, place, hplace, hcontent⟩ := ha.listed p lines hp
      refine ⟨hname, place, hplace, ?_⟩
      rw [find?_begun, if_neg (ha.place_ne hdistinct hp hplace hpath hnew hkey)]
      exact hcontent
    · rintro p ⟨⟩
      exact ⟨hnew, hpath, key, hkey⟩
    · rw [find?_begun, if_pos rfl]
      rfl
    · have hlive := ha.live
      rw [hfile] at hlive
      exact (hlive.append_right [w.disk.attempts]).trans List.perm_append_comm

/-- A checkpoint completes the open file and begins the next; or it loses the
open file; or it completes that, and only takes the next name off the list. -/
theorem Agrees.checkpoint (ha : Agrees disk names l w) (hdistinct : DistinctFiles disk names)
    {script : Script} {extra : Text} (hpath : script.expectationPath extra ∈ names) :
    Agrees disk names
      (l.after script (.checkpoint extra) (w.perform script (.checkpoint extra)).1)
      (w.perform script (.checkpoint extra)).2 := by
  simp only [perform, Writer.checkpoint]
  obtain ⟨p, r, w', hclose, hlost⟩ | ⟨w', hclose, hcomplete, hfile⟩ := ha.close
  · rw [hclose]
    exact hlost
  · rw [hclose]
    obtain ⟨hoff, hnew, hsame⟩ := hcomplete.reuse (script.expectationPath extra)
    obtain ⟨e, w'', hopen, hw⟩ | ⟨w'', hopen, hw⟩ :=
      hoff.openFile hdistinct (hsame.trans hfile) hpath hnew
    · simp only [hopen]
      cases e with
      | nullByte => exact hw
      | refused reason => exact hw
    · simp only [hopen]
      exact hw

/-! ### Writing -/

/-- A line is added to the open file, or refused; without an open file nothing
is. -/
theorem Agrees.writeLine (ha : Agrees disk names l w) (hdistinct : DistinctFiles disk names)
    (script : Script) (t : Text) :
    Agrees disk names (l.after script (.writeLine t) (w.writeLine t).1) (w.writeLine t).2 := by
  cases hfile : w.file with
  | none =>
      have hnone := ha.opened_eq_none hfile
      have hwrite : w.writeLine t = (.ok (), w) := by rw [Writer.writeLine, hfile]
      rw [hwrite]
      show Agrees disk names (l.add t) w
      rwa [Ledger.add_of_none hnone]
  | some h =>
      obtain ⟨lines, hopened, hcurrent, hkey, hcontent⟩ := ha.exists_lines hfile
      obtain ⟨hnew, hname, -⟩ := ha.current h.path hcurrent
      have hlive := ha.live
      rw [hfile] at hlive
      obtain ⟨r, hwrite⟩ | hwrite := writeLine_cases hfile t
      · rw [hwrite]
        exact ⟨ha.written, ha.nodup, ha.reported, ha.listed, ha.current,
          .inr ⟨_, lines, rfl, hopened, hcurrent, hkey, hcontent⟩, ha.directories, hlive⟩
      · rw [hwrite]
        have hadd : (l.add t).opened = some (h.path, lines ++ [t]) := by
          rw [Ledger.add, hopened]
          rfl
        refine ⟨ha.written, ha.nodup, ha.reported, ?_, ha.current,
          .inr ⟨_, lines ++ [t], rfl, hadd, hcurrent, hkey, ?_⟩, ha.directories, hlive⟩
        -- an older file keeps its lines because distinct names lead to distinct places
        · intro p lines' hp
          obtain ⟨hpname, place, hplace, hstored⟩ := ha.listed p lines' hp
          refine ⟨hpname, place, hplace, ?_⟩
          rw [find?_extended, if_neg (ha.place_ne hdistinct hp hplace hname hnew hkey)]
          exact hstored
        · show (w.extended h _).disk.find? h.key = _
          rw [find?_extended, if_pos rfl, hcontent, storedLines_concat]
          rfl

/-! ### Discarding -/

/-- Abandoning closes the open file, which is lost.  The name stays in hand,
for a later discarding. -/
theorem Agrees.abandon (ha : Agrees disk names l w) :
    Agrees disk names l.lose w.abandon ∧ w.abandon.file = none := by
  cases hfile : w.file with
  | none =>
      have habandon : w.abandon = w := by rw [Writer.abandon, hfile]
      rw [habandon, Ledger.lose_of_none (ha.opened_eq_none hfile)]
      exact ⟨ha, hfile⟩
  | some h =>
      have hr := ha.released hfile
      rw [abandon_eq hfile]
      cases (w.disk.close h).1 with
      | none => exact ⟨hr, rfl⟩
      | some r =>
          exact ⟨⟨hr.written, hr.nodup, hr.reported, hr.listed, hr.current, hr.opened,
            hr.directories, hr.live⟩, rfl⟩

/-- Discarding removes the file in hand, also a stale one, and no listed
file. -/
theorem Agrees.discard (ha : Agrees disk names l w) (hdistinct : DistinctFiles disk names) :
    Agrees disk names l.lose w.discard := by
  obtain ⟨hb, hfile⟩ := ha.abandon
  rw [Writer.discard]
  cases hcurrent : w.abandon.current with
  | none => exact hb
  | some path =>
      -- the name may be stale, but it is still one that no listed file has
      obtain ⟨hnew, hname, place, hplace⟩ := hb.current path hcurrent
      have hlocate := Disk.locate_of_directories hb.directories (Disk.locate_of_reach hplace)
      refine ⟨hb.written, hb.nodup, hb.reported, ?_, by rintro p ⟨⟩, .inl ⟨hfile, rfl⟩,
        (Disk.directories_remove _ _).trans hb.directories, ?_⟩
      · intro p lines hp
        obtain ⟨hpname, key, hkey, hstored⟩ := hb.listed p lines hp
        refine ⟨hpname, key, hkey, ?_⟩
        show (w.abandon.disk.remove path).find? key = _
        rw [Disk.find?_remove hlocate, if_neg (hb.place_ne hdistinct hp hkey hname hnew hplace)]
        exact hstored
      · show (w.abandon.disk.remove path).live.Perm _
        rw [Disk.live_remove]
        exact hb.live

/-! ### Any use -/

/-- A call keeps writer and ledger in step.  The ledger is told the call and
the answer and nothing else. -/
theorem Agrees.perform (ha : Agrees disk names l w) (hdistinct : DistinctFiles disk names)
    (script : Script) (call : Call) (hname : ∀ p ∈ call.path? script, p ∈ names) :
    Agrees disk names (l.after script call (w.perform script call).1)
      (w.perform script call).2 := by
  cases call with
  | checkpoint extra => exact ha.checkpoint hdistinct (hname _ rfl)
  | writeLine t => exact ha.writeLine hdistinct script t
  | close =>
      simp only [Writer.perform]
      obtain ⟨p, r, w', hclose, hlost⟩ | ⟨w', hclose, hcomplete, -⟩ := ha.close
      · rw [hclose]
        exact hlost
      · rw [hclose]
        exact hcomplete
  | discard => exact ha.discard hdistinct

/-- A row of calls keeps writer and ledger in step.  So they agree also behind
calls that have failed. -/
theorem Agrees.performAll (ha : Agrees disk names l w) (hdistinct : DistinctFiles disk names)
    (script : Script) (calls : List Call) (hnames : calls.filterMap (·.path? script) ⊆ names) :
    Agrees disk names
      (l.afterAll script (calls.zip (performAll script calls w).1))
      (performAll script calls w).2 := by
  -- writer and ledger move on together, each from where the first call left it
  induction calls generalizing l w with
  | nil => exact ha
  | cons call rest ih =>
      have hfirst : ∀ p ∈ call.path? script, p ∈ names := fun p hp =>
        hnames (List.mem_filterMap.mpr ⟨call, List.mem_cons_self, hp⟩)
      have hrest : rest.filterMap (·.path? script) ⊆ names := by
        intro p hp
        obtain ⟨c, hc, hpath⟩ := List.mem_filterMap.mp hp
        exact hnames (List.mem_filterMap.mpr ⟨c, List.mem_cons_of_mem call hc, hpath⟩)
      exact ih (ha.perform hdistinct script call hfirst) hrest

/-- A writer keeps its invariant under any use.  Let any calls be made of it,
one behind another and also behind failures, on a disk that may refuse to
open, write and close as it likes, and let different names among those of the
calls be different files.  Then no name is listed twice, and the name in hand
is not listed. Every listed file is there, is not open, and holds exactly the
lines that were written since its name was last opened; no other file is open
than the one in hand. The names have been reported in the order of completion,
each as often as it was completed.  And whatever is discarded, it is no listed
file. -/
theorem performAll_agrees (disk : Disk) (script : Script) (calls : List Call)
    (hdistinct : DistinctFiles disk (calls.filterMap (·.path? script))) :
    let answers := (performAll script calls (start disk)).1
    let w := (performAll script calls (start disk)).2
    let l := Ledger.start.afterAll script (calls.zip answers)
    (w.written = l.listed.map (·.1) ∧ w.written.Nodup ∧ ∀ p ∈ w.current, p ∉ w.written) ∧
    (∀ p lines, (p, lines) ∈ l.listed → w.disk.read p = .ok (storedLines lines) ∧
      ∀ h ∈ w.file, w.disk.reach p ≠ .ok h.key) ∧
    w.disk.live.Perm ((w.file.map (·.attempt)).toList ++ disk.live) ∧
    w.reported = l.completed ∧
    (w.discard.written = w.written ∧ w.discard.reported = w.reported ∧
      ∀ p ∈ w.written, w.discard.disk.read p = w.disk.read p) := by
  intro answers w l
  have ha : Agrees disk (calls.filterMap (·.path? script)) l w :=
    (agrees_start disk _).performAll hdistinct script calls (List.Subset.refl _)
  have hd := ha.discard hdistinct
  -- a listed file reads as its lines, before a discarding and behind it
  have hread {w' : Writer} {l' : Ledger}
      (hw' : Agrees disk (calls.filterMap (·.path? script)) l' w')
      {p : Path} {lines : List Text} (hp : (p, lines) ∈ l'.listed) :
      w'.disk.read p = .ok (storedLines lines) := by
    obtain ⟨-, key, hkey, hcontent⟩ := hw'.listed p lines hp
    exact Disk.read_eq_ok (Disk.reach_of_directories hw'.directories hkey) hcontent
  refine ⟨⟨ha.written, ha.written ▸ ha.nodup, fun p hp => ?_⟩, fun p lines hp => ⟨hread ha hp, ?_⟩,
    ha.live, ha.reported, hd.written.trans ha.written.symm, hd.reported.trans ha.reported.symm, ?_⟩
  · rw [ha.written]
    exact (ha.current p hp).1
  · intro h hfile hreach
    obtain ⟨-, key, hkey, -⟩ := ha.listed p lines hp
    obtain ⟨-, -, hcurrent, hplace, -⟩ := ha.exists_lines hfile
    obtain ⟨hnew, hname, -⟩ := ha.current h.path hcurrent
    have hsame := hreach.symm.trans (Disk.reach_of_directories ha.directories hkey)
    exact ha.place_ne hdistinct hp hkey hname hnew hplace (Except.ok.inj hsame).symm
  · intro p hp
    rw [ha.written] at hp
    obtain ⟨⟨_, lines⟩, hlisted, rfl⟩ := List.mem_map.mp hp
    rw [hread ha hlisted]
    exact hread hd hlisted

/-- A refused line; a refused closing, which leaves a stale name in hand; a
name that is taken off the list and then cannot be opened; and a stale name at
the end. -/
theorem performAll_agrees_stale :
    let script := Script.ofText "t.asm".toList "t".toList []
    let t := Path.ofText "t.exp".toList
    let a := Path.ofText "t-a.exp".toList
    let b := Path.ofText "t-b.exp".toList
    let faults : Faults :=
      { opening := fun _ attempt => if attempt = 2 then some .noSpace else none
        writing := fun _ attempt n => if attempt = 0 ∧ n = 2 then some .noSpace else none
        closing := fun p _ => if p = t then some .noSpace else none }
    let disk : Disk := ⟨[], [(t, [1])], faults, 0, []⟩
    let calls : List Call :=
      [.writeLine ['u'], .checkpoint ['a'], .writeLine ['x'], .writeLine ['r'], .writeLine ['y'],
        .checkpoint [], .writeLine ['z'], .checkpoint ['b'], .checkpoint ['a'], .checkpoint ['b'],
        .writeLine ['w'], .close, .checkpoint [], .writeLine ['v'], .close]
    let w := (performAll script calls (start disk)).2
    w.written = [b] ∧ w.current = some t ∧ w.file = none ∧ w.reported = [a, b] ∧
      w.disk.read b = .ok (storedLines [['w']]) ∧ w.disk.read a = .ok (storedLines [['x'], ['y']]) ∧
      w.discard.disk.read b = .ok (storedLines [['w']]) ∧
      w.discard.disk.read t = .error (.refused .noSuchFile) := by
  intro script t a b faults disk calls w
  have hdistinct : DistinctFiles disk (calls.filterMap (·.path? script)) :=
    distinctFiles_of_self (by decide +kernel)
  obtain ⟨⟨hwritten, -, -⟩, hlisted, -, hreported, -, -, hdiscard⟩ :=
    performAll_agrees disk script calls hdistinct
  have hledger : (Ledger.start.afterAll script
      (calls.zip (performAll script calls (start disk)).1)).listed = [(b, [['w']])] := by
    decide +kernel
  have hcompleted : (Ledger.start.afterAll script
      (calls.zip (performAll script calls (start disk)).1)).completed = [a, b] := by
    decide +kernel
  rw [hledger] at hwritten hlisted
  rw [hcompleted] at hreported
  have hread := (hlisted b [['w']] (by simp)).1
  have hkept := hdiscard b (by rw [hwritten]; simp)
  exact ⟨hwritten, by decide +kernel, by decide +kernel, hreported, hread, by decide +kernel,
    hkept.trans hread, by decide +kernel⟩

end Writer
end TraceScript
