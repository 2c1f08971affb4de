import TraceScript.Proofs.Disk.Content
import TraceScript.Proofs.Stream.Pieces
import TraceScript.Session

/-!
# Recording a stream

How the first pass ends (`PassEnd`), and what it has written then.  A recording
whose file takes every write holds the octets of the pieces that the lines
before the end have made, and nothing behind the line at which it ends matters
(`takeAll_recorded`).
-/

namespace TraceScript

variable {σ : Type}

/-- How the first pass ends behind some pieces, with what answer and what
stream: the script ends; a line fails, and only the encoder is changed; or a
terminator names the end of the stream. -/
inductive PassEnd (e : Encoder σ) (assembly : LabelTable) (pieces : List Piece) (state : σ) :
    List ScriptLine → Except Failure Bool → Stream σ → Prop
  | script : PassEnd e assembly pieces state [] (.ok false) (Stream.behind assembly pieces state)
  | failure {line : ScriptLine} {rest : List ScriptLine} {f : Failure} {encoder : σ}
      (hline : (Stream.behind assembly pieces state).dispatchLine e line =
        (.error f, Stream.behind assembly pieces encoder)) :
      PassEnd e assembly pieces state (line :: rest) (.error f)
        (Stream.behind assembly pieces encoder)
  | terminator {line : ScriptLine} {rest : List ScriptLine} {d : Directive}
      (hline : Directive.ofLine ⟨assembly, tableOf pieces⟩ line = .ok d)
      (hterminator : d.isTerminator = true)
      (hdefine : Labels.define ⟨assembly, tableOf pieces⟩ endLabel (octetsOf pieces).length =
        .ok (Stream.ended assembly pieces state).labels) :
      PassEnd e assembly pieces state (line :: rest) (.ok true)
        (Stream.ended assembly pieces state)

/-- However the first pass ends, the offset is the length of the pieces. -/
theorem PassEnd.offset {e : Encoder σ} {assembly : LabelTable} {pieces : List Piece} {state : σ}
    {rest : List ScriptLine} {result : Except Failure Bool} {stream : Stream σ}
    (h : PassEnd e assembly pieces state rest result stream) :
    stream.offset = (octetsOf pieces).length := by
  cases h <;> rfl

namespace Recording

variable {e : Encoder σ} {assembly : LabelTable} {state before after : σ} {pieces : List Piece}
  {handled : List ScriptLine} {disk : Disk} {h : Handle} {octets : Octets} {r : Recording σ}

variable (disk h octets) in
/-- The file of a recording holds these octets. -/
structure Holds (r : Recording σ) : Prop where
  path : r.handle.path = h.path
  attempt : r.handle.attempt = h.attempt
  key : r.handle.key = h.key
  content : r.disk.find? h.key = some octets
  directories : r.disk.directories = disk.directories
  faults : r.disk.faults = disk.faults

/-- The recording with a packet added to its file. -/
def added (r : Recording σ) (packet : Octets) : Recording σ :=
  { r with
    handle := { r.handle with writes := r.handle.writes + 1 }
    disk := r.disk.put r.handle.key ((r.disk.find? r.handle.key).getD [] ++ packet) }

/-- A packet is refused by the disk and only the attempt is counted, or it is
added to the file. -/
theorem store_cases (r : Recording σ) (offset : Nat) (name : Text) (label : Option Text)
    (packet : Octets) :
    (∃ reason, (r.disk.write r.handle packet).1 = some reason ∧
      r.store (.packet offset name label packet) =
        (.error (.ofRefusedWrite r.handle.path reason),
          { r with handle := { r.handle with writes := r.handle.writes + 1 } })) ∨
    ((r.disk.write r.handle packet).1 = none ∧
      r.store (.packet offset name label packet) = (.ok false, r.added packet)) := by
  obtain ⟨reason, -, hwrite⟩ | hwrite := r.disk.write_cases r.handle packet
  · refine .inl ⟨reason, by rw [hwrite], ?_⟩
    simp only [store, hwrite]
  · refine .inr ⟨by rw [hwrite], ?_⟩
    simp only [store, hwrite]
    rfl

/-- A packet that is added to the file stands behind what the file held. -/
theorem holds_added (hr : Holds disk h octets r) (packet : Octets) :
    Holds disk h (octets ++ packet) (r.added packet) where
  path := hr.path
  attempt := hr.attempt
  key := hr.key
  content := by
    have hfind := Disk.find?_put r.disk r.handle.key h.key
      ((r.disk.find? r.handle.key).getD [] ++ packet)
    rw [hr.key, if_pos rfl, hr.content] at hfind
    rwa [added, hr.key, hr.content]
  directories := hr.directories
  faults := hr.faults

/-- A line is dispatched, and what is emitted is noted and stored. -/
theorem take_eq (e : Encoder σ) (r : Recording σ) (line : ScriptLine) :
    r.take e line =
      match r.stream.dispatchLine e line with
      | (.error f, stream) => (.error f, { r with stream := stream })
      | (.ok emission, stream) =>
          { r with stream := stream, notices := r.notices ++ emission.notices }.store emission := by
  unfold take Stream.dispatchLine
  cases Directive.ofLine r.stream.labels line <;> rfl

/-- The first pass ends with a line, or the line makes a piece.  That is
refused, and then ends the pass, too, or it is added to the file. -/
theorem take_outcomes (line : ScriptLine) (hp : Pieces e assembly state handled pieces before)
    (hstream : r.stream = Stream.behind assembly pieces before)
    (hr : Holds disk h (octetsOf pieces) r) :
    (∃ result r', r.take e line = (result, r') ∧ result ≠ .ok false ∧
      (∀ rest, PassEnd e assembly pieces before (line :: rest) result r'.stream) ∧
      Holds disk h (octetsOf pieces) r') ∨
    (∃ piece after r', Pieces e assembly state (handled ++ [line]) (pieces ++ [piece]) after ∧
      r'.stream = Stream.behind assembly (pieces ++ [piece]) after ∧
      r'.handle.writes = r.handle.writes + 1 ∧
      ((∃ reason, disk.faults.writing h.path h.attempt (r.handle.writes + 1) = some reason ∧
          r.take e line = (.error (.ofRefusedWrite h.path reason), r') ∧
          Holds disk h (octetsOf pieces) r') ∨
        (disk.faults.writing h.path h.attempt (r.handle.writes + 1) = none ∧
          r.take e line = (.ok false, r') ∧ Holds disk h (octetsOf (pieces ++ [piece])) r'))) := by
  rw [take_eq, hstream]
  obtain ⟨f, encoder, hline⟩ | ⟨d, hline, hterminator, hdefine, hfinished⟩ |
    ⟨name, piece, after, hpacket, hp'⟩ := dispatchLine_cases line hp
  · left
    rw [hline]
    exact ⟨.error f, _, rfl, nofun, fun rest => .failure hline,
      ⟨hr.path, hr.attempt, hr.key, hr.content, hr.directories, hr.faults⟩⟩
  · left
    rw [hfinished]
    exact ⟨.ok true, _, rfl, nofun, fun rest => .terminator hline hterminator hdefine,
      ⟨hr.path, hr.attempt, hr.key, hr.content, hr.directories, hr.faults⟩⟩
  · right
    rw [hpacket]
    let told : Recording σ :=
      { r with
        stream := Stream.behind assembly (pieces ++ [piece]) after
        notices := r.notices ++
          (Emission.packet (octetsOf pieces).length name piece.label piece.octets).notices }
    have htold : Holds disk h (octetsOf pieces) told :=
      ⟨hr.path, hr.attempt, hr.key, hr.content, hr.directories, hr.faults⟩
    -- reporting a packet touches neither the file nor its count of writes
    have hanswer : (told.disk.write told.handle piece.octets).1 =
        disk.faults.writing h.path h.attempt (r.handle.writes + 1) := by
      rw [Disk.write_answer, htold.faults, htold.path, htold.attempt]
    obtain ⟨reason, hrefused, hstore⟩ | ⟨hwritten, hstore⟩ :=
      told.store_cases (octetsOf pieces).length name piece.label piece.octets
    · rw [htold.path] at hstore
      exact ⟨piece, after, _, hp', rfl, rfl, .inl ⟨reason, hanswer ▸ hrefused, hstore,
        ⟨hr.path, hr.attempt, hr.key, hr.content, hr.directories, hr.faults⟩⟩⟩
    · refine ⟨piece, after, told.added piece.octets, hp', rfl, rfl,
        .inr ⟨hanswer ▸ hwritten, hstore, ?_⟩⟩
      rw [octetsOf_concat]
      exact holds_added htold piece.octets

/-- Where no write is refused, a line adds a piece, or the first pass ends
with it. -/
theorem take_cases (line : ScriptLine) (hp : Pieces e assembly state handled pieces before)
    (hstream : r.stream = Stream.behind assembly pieces before)
    (hr : Holds disk h (octetsOf pieces) r)
    (hwrite : ∀ n, disk.faults.writing h.path h.attempt n = none) :
    (∃ result r', r.take e line = (result, r') ∧ result ≠ .ok false ∧
      (∀ rest, PassEnd e assembly pieces before (line :: rest) result r'.stream) ∧
      Holds disk h (octetsOf pieces) r') ∨
    (∃ piece after r', r.take e line = (.ok false, r') ∧
      Pieces e assembly state (handled ++ [line]) (pieces ++ [piece]) after ∧
      r'.stream = Stream.behind assembly (pieces ++ [piece]) after ∧
      Holds disk h (octetsOf (pieces ++ [piece])) r') := by
  obtain hends | ⟨piece, after, r', hp', hstream', -, hstored⟩ := take_outcomes line hp hstream hr
  · exact .inl hends
  · obtain ⟨reason, hrefused, -⟩ | ⟨-, htake, hr'⟩ := hstored
    · rw [hwrite] at hrefused
      cases hrefused
    · exact .inr ⟨piece, after, r', htake, hp', hstream', hr'⟩

/-- A line that does not go on ends the pass. -/
theorem takeAll_of_ends {line : ScriptLine} {result : Except Failure Bool} {r' : Recording σ}
    (htake : r.take e line = (result, r')) (hends : result ≠ .ok false)
    (rest : List ScriptLine) : takeAll e (line :: rest) r = (result, r') := by
  rw [takeAll, htake]
  split
  · rename_i heq
    exact absurd (congrArg Prod.fst heq) hends
  · rfl

/-- Lines add their pieces up to the one with which the first pass ends.  What
stands behind that does not matter. -/
theorem takeAll_recorded (lines : List ScriptLine)
    (hp : Pieces e assembly state handled pieces before)
    (hstream : r.stream = Stream.behind assembly pieces before)
    (hr : Holds disk h (octetsOf pieces) r)
    (hwrite : ∀ n, disk.faults.writing h.path h.attempt n = none) :
    ∃ made rest pieces' after result r', lines = made ++ rest ∧
      Pieces e assembly state (handled ++ made) pieces' after ∧
      PassEnd e assembly pieces' after rest result r'.stream ∧
      Holds disk h (octetsOf pieces') r' ∧
      ∀ more, (rest = [] → more = []) →
        takeAll e (made ++ (rest.take 1 ++ more)) r = (result, r') := by
  -- the pieces made so far are the invariant; `more` stays free, since the line that ends
  -- the pass hides whatever follows it
  induction lines generalizing handled pieces before r with
  | nil =>
      refine ⟨[], [], pieces, before, .ok false, r, rfl, by simpa using hp, ?_, hr, ?_⟩
      · rw [hstream]
        exact .script
      · rintro more hmore
        rw [hmore rfl]
        rfl
  | cons line rest ih =>
      obtain ⟨result, r', htake, hends, hending, hr'⟩ |
        ⟨piece, after, r', htake, hp', hstream', hr'⟩ := take_cases line hp hstream hr hwrite
      · exact ⟨[], line :: rest, pieces, before, result, r', rfl, by simpa using hp, hending rest,
          hr', fun more _ => takeAll_of_ends htake hends more⟩
      · obtain ⟨made, rest', pieces', after', result, r'', rfl, hp'', hending, hr'', hall⟩ :=
          ih hp' hstream' hr'
        refine ⟨line :: made, rest', pieces', after', result, r'', rfl, by simpa using hp'',
          hending, hr'', fun more hmore => ?_⟩
        rw [List.cons_append, takeAll, htake]
        exact hall more hmore

end Recording
end TraceScript
