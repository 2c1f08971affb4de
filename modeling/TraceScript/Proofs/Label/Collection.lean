import Mathlib.Data.List.Duplicate
import TraceScript.Command.Run
import TraceScript.Proofs.Label.Growth

/-!
# Tables that are put together

A table is put together from entries, one by one or table by table.  The outcome is always of
one kind: the table of all the entries, or the refusal of a name that two of them have
(`LabelTable.Tabulates`).  Adding an entry is of that kind (`tabulates_add`), and so are two
such steps together (`Tabulates.bind`).  The same follows for tables that are merged in order,
each as soon as it is loaded (`tabulates_collect`) or once all of them are
(`tabulates_collectLoaded`); a command does the first with its labels (`readLabels_eq`).

A merge that fails has added what stands in front of the first name that is taken
(`Clash.merge`).
-/

namespace TraceScript
namespace LabelTable

variable {t t' other : LabelTable} {name : Text} {address : Nat} {value : Int}
  {entries more : List (Text × Nat)} {r : Except Failure LabelTable}

/-! ### One entry -/

/-- A name that stands in the table is refused. -/
theorem add_of_mem (h : name ∈ t.names) : t.add name value = .error (duplicate name .assembly) :=
  if_pos (contains_iff.mpr h)

theorem toWord_natCast (h : address < wordCount) : toWord (address : Int) = address := by
  rw [toWord, Int.emod_eq_of_lt (Int.natCast_nonneg address) (by exact_mod_cast h)]
  rfl

/-- A word is added as it is. -/
theorem add_of_new (hnew : name ∉ t.names) (hword : address < wordCount) :
    t.add name (address : Int) = .ok (t.push name address) := by
  rw [add, if_neg (mt contains_iff.mp hnew), toWord_natCast hword]

/-! ### The kind of outcome -/

/-- An outcome is the table of some entries, or the refusal of a name that two
of them have. -/
structure Tabulates (entries : List (Text × Nat)) (r : Except Failure LabelTable) : Prop where
  distinct : (entries.map (·.1)).Nodup → r = .ok ⟨entries⟩
  repeated : ¬ (entries.map (·.1)).Nodup →
    ∃ name, (entries.map (·.1)).Duplicate name ∧ r = .error (duplicate name .assembly)

/-- A table without repeated names tabulates its own entries. -/
theorem tabulates_ok (h : t.names.Nodup) : Tabulates t.entries (.ok t) :=
  ⟨fun _ => rfl, fun hrepeated => absurd h hrepeated⟩

/-- A name that some entries have twice is refused with any more entries
around them. -/
theorem tabulates_refusal (hpart : entries.Sublist more)
    (h : (entries.map (·.1)).Duplicate name) :
    Tabulates more (.error (duplicate name .assembly)) := by
  have hmore : (more.map (·.1)).Duplicate name := h.mono_sublist (hpart.map _)
  refine ⟨fun hnodup => ?_, fun _ => ⟨name, hmore, rfl⟩⟩
  exact absurd hmore (List.nodup_iff_forall_not_duplicate.mp hnodup name)

/-- A failure is the refusal of a repeated name. -/
theorem Tabulates.refused {f : Failure} (h : Tabulates entries (.error f)) :
    ∃ name, (entries.map (·.1)).Duplicate name ∧ f = duplicate name .assembly := by
  by_cases hdistinct : (entries.map (·.1)).Nodup
  · cases h.distinct hdistinct
  · obtain ⟨name, hname, hf⟩ := h.repeated hdistinct
    exact ⟨name, hname, Except.error.inj hf⟩

/-- What goes on from the table of some entries may have more of them around
these. -/
theorem Tabulates.andThen {g : LabelTable → Except Failure LabelTable} (h : Tabulates entries r)
    (hpart : entries.Sublist more)
    (hg : ∀ t : LabelTable, t.entries = entries → t.names.Nodup → Tabulates more (g t)) :
    Tabulates more (r.bind g) := by
  by_cases hdistinct : (entries.map (·.1)).Nodup
  · rw [h.distinct hdistinct]
    exact hg ⟨entries⟩ rfl hdistinct
  · obtain ⟨name, hname, hr⟩ := h.repeated hdistinct
    rw [hr]
    exact tabulates_refusal hpart hname

/-- Two steps, one behind the other. -/
theorem Tabulates.bind {g : LabelTable → Except Failure LabelTable} (h : Tabulates entries r)
    (hg : ∀ t : LabelTable, t.names.Nodup → Tabulates (t.entries ++ more) (g t)) :
    Tabulates (entries ++ more) (r.bind g) := by
  apply h.andThen (List.sublist_append_left entries more)
  rintro t rfl ht
  exact hg t ht

/-- Adding one more label tabulates one more entry: the table grows by it, or
refuses its name as one that stands there. -/
theorem tabulates_add (ht : t.names.Nodup) (hword : address < wordCount) :
    Tabulates (t.entries ++ [(name, address)]) (t.add name (address : Int)) := by
  by_cases hmem : name ∈ t.names
  · have htwice : ((t.entries ++ [(name, address)]).map (·.1)).Duplicate name := by
      rw [List.map_append, List.duplicate_iff_sublist]
      exact List.Sublist.append (List.singleton_sublist.mpr hmem) (List.Sublist.refl [name])
    rw [add_of_mem hmem]
    exact tabulates_refusal (List.Sublist.refl _) htwice
  · rw [add_of_new hmem hword]
    exact tabulates_ok (nodup_push ht hmem)

/-! ### Entries one after another -/

/-- Entries as they are added, by the integers that their addresses are. -/
def valued (entries : List (Text × Nat)) : List (Text × Int) :=
  entries.map fun (name, address) => (name, (address : Int))

/-- The table with more entries, unless one of them is refused. -/
def extended (t : LabelTable) (entries : List (Text × Nat)) : Except Failure LabelTable :=
  (t.addAll (valued entries)).1.map fun _ => (t.addAll (valued entries)).2

/-- A table is extended by its first new entry, and then by the rest. -/
theorem extended_cons :
    t.extended ((name, address) :: more) = (t.add name address).bind (·.extended more) := by
  cases hadd : t.add name address with
  | ok t' => simp [extended, valued, addAll, hadd, Except.bind]
  | error f => simp [extended, valued, addAll, hadd, Except.bind, Except.map]

/-- Extending a table tabulates the entries behind its own. -/
theorem tabulates_extended (ht : t.names.Nodup) (hwords : ∀ e ∈ entries, e.2 < wordCount) :
    Tabulates (t.entries ++ entries) (t.extended entries) := by
  induction entries generalizing t with
  | nil =>
      rw [List.append_nil]
      exact tabulates_ok ht
  | cons e rest ih =>
      obtain ⟨name, address⟩ := e
      have hword : address < wordCount := hwords _ List.mem_cons_self
      have hrest : ∀ e ∈ rest, e.2 < wordCount := fun e he => hwords e (List.mem_cons_of_mem _ he)
      rw [extended_cons, ← List.singleton_append, ← List.append_assoc]
      exact (tabulates_add ht hword).bind fun t' ht' => ih ht' hrest

/-! ### Tables one after another -/

/-- A table is merged by adding its entries. -/
theorem merge_eq (t other : LabelTable) : t.merge other = t.addAll (valued other.entries) :=
  rfl

/-- The table with the labels of another, unless one of them is refused. -/
def merged (t other : LabelTable) : Except Failure LabelTable :=
  (t.merge other).1.map fun _ => (t.merge other).2

/-- A merge extends the table by the entries of the other. -/
theorem merged_eq (t other : LabelTable) : t.merged other = t.extended other.entries :=
  rfl

/-- Merging a piece tabulates its entries behind those of the table, also
where the piece itself was refused. -/
theorem Tabulates.merged (h : Tabulates entries r) (ht : t.names.Nodup)
    (hwords : ∀ e ∈ entries, e.2 < wordCount) :
    Tabulates (t.entries ++ entries) (r.bind t.merged) := by
  apply h.andThen (List.sublist_append_right t.entries entries)
  rintro other rfl -
  rw [merged_eq]
  exact tabulates_extended ht hwords

/-- Merges tables into one, in order, each as soon as it is loaded. -/
def collect : List (Except Failure LabelTable) → LabelTable → Except Failure LabelTable
  | [], t => .ok t
  | r :: rest, t => (r.bind t.merged).bind (collect rest)

/-- Pieces are merged in two rows as in one. -/
theorem collect_append (rs rs' : List (Except Failure LabelTable)) (t : LabelTable) :
    collect (rs ++ rs') t = (collect rs t).bind (collect rs') := by
  induction rs generalizing t with
  | nil => rfl
  | cons r rest ih =>
      rw [List.cons_append, collect, collect]
      cases r.bind t.merged with
      | error f => rfl
      | ok t' => exact ih t'

/-- Merging keeps what the pieces have in common: all entries are there, or a
name is refused that stands there twice, in one piece or in two. -/
theorem tabulates_collect {parts : List (List (Text × Nat))}
    {rs : List (Except Failure LabelTable)} (h : List.Forall₂ Tabulates parts rs)
    (ht : t.names.Nodup) (hwords : ∀ e ∈ parts.flatten, e.2 < wordCount) :
    Tabulates (t.entries ++ parts.flatten) (collect rs t) := by
  induction h generalizing t with
  | nil =>
      rw [List.flatten_nil, List.append_nil]
      exact tabulates_ok ht
  | @cons part r parts rs hfirst _ ih =>
      have hpart : ∀ e ∈ part, e.2 < wordCount := fun e he =>
        hwords e (List.mem_append_left _ he)
      have hparts : ∀ e ∈ parts.flatten, e.2 < wordCount := fun e he =>
        hwords e (List.mem_append_right _ he)
      rw [List.flatten_cons, ← List.append_assoc]
      exact (hfirst.merged ht hpart).bind fun t' ht' => ih ht' hparts

/-- Merges tables into one, in order, once all of them are loaded. -/
def collectLoaded (rs : List (Except Failure LabelTable)) (t : LabelTable) :
    Except Failure LabelTable :=
  (rs.mapM id).bind fun tables => collect (tables.map .ok) t

/-- All tables are loaded, or one of the failures comes first.  In the second
case the failure is that of the first table that could not be loaded. -/
theorem mapM_cases (rs : List (Except Failure LabelTable)) :
    (∃ tables : List LabelTable, rs = tables.map .ok ∧ rs.mapM id = .ok tables) ∨
      ∃ f, .error f ∈ rs ∧ rs.mapM id = .error f := by
  induction rs with
  | nil => exact .inl ⟨[], rfl, rfl⟩
  | cons r rest ih =>
      rw [List.mapM_cons]
      cases r with
      | error f => exact .inr ⟨f, List.mem_cons_self, rfl⟩
      | ok t =>
          rcases ih with ⟨tables, hrest, hload⟩ | ⟨f, hf, hload⟩
          · refine .inl ⟨t :: tables, by rw [hrest, List.map_cons], ?_⟩
            rw [hload]
            rfl
          · refine .inr ⟨f, List.mem_cons_of_mem _ hf, ?_⟩
            rw [hload]
            rfl

/-- Each result in a row of pieces tabulates one of the pieces. -/
theorem exists_part {parts : List (List (Text × Nat))} {rs : List (Except Failure LabelTable)}
    (h : List.Forall₂ Tabulates parts rs) (hr : r ∈ rs) : ∃ part ∈ parts, Tabulates part r := by
  induction h with
  | nil => cases hr
  | @cons part r' parts rs hfirst _ ih =>
      rcases List.mem_cons.mp hr with rfl | hr
      · exact ⟨part, List.mem_cons_self, hfirst⟩
      · obtain ⟨part', hpart, h⟩ := ih hr
        exact ⟨part', List.mem_cons_of_mem part hpart, h⟩

/-- It does not matter whether the pieces are merged one by one or once all
are loaded: all entries are there, or a repeated name is refused. The names
that are refused may differ. -/
theorem tabulates_collectLoaded {parts : List (List (Text × Nat))}
    {rs : List (Except Failure LabelTable)} (h : List.Forall₂ Tabulates parts rs)
    (ht : t.names.Nodup) (hwords : ∀ e ∈ parts.flatten, e.2 < wordCount) :
    Tabulates (t.entries ++ parts.flatten) (collectLoaded rs t) := by
  rcases mapM_cases rs with ⟨tables, hrs, hload⟩ | ⟨f, hf, hload⟩
  · rw [collectLoaded, hload]
    exact tabulates_collect (hrs ▸ h) ht hwords
  · obtain ⟨part, hpart, hfailed⟩ := exists_part h hf
    obtain ⟨name, hname, rfl⟩ := hfailed.refused
    have hall : part.Sublist (t.entries ++ parts.flatten) :=
      (List.sublist_flatten_of_mem hpart).trans (List.sublist_append_right _ _)
    rw [collectLoaded, hload]
    exact tabulates_refusal hall hname

/-! ### A merge that fails -/

/-- The first name of a table that stands in another, and the entries in front
of it. -/
structure Clash (t other : LabelTable) (before : List (Text × Nat)) (name : Text) : Prop where
  parts : ∃ address after, other.entries = before ++ (name, address) :: after
  fresh : ∀ e ∈ before, e.1 ∉ t.names
  taken : name ∈ t.names

/-- Where two tables have a name in common, there is a first one. -/
theorem exists_clash (h : ∃ name ∈ other.names, name ∈ t.names) :
    ∃ before name, Clash t other before name := by
  obtain ⟨name, hother, hname⟩ := h
  obtain ⟨e, he, rfl⟩ := List.mem_map.mp hother
  have hfind : (other.entries.find? fun e => t.contains e.1).isSome :=
    List.find?_isSome.mpr ⟨e, he, contains_iff.mpr hname⟩
  obtain ⟨⟨name, address⟩, hfirst⟩ := Option.isSome_iff_exists.mp hfind
  obtain ⟨htaken, before, after, hparts, hfresh⟩ := List.find?_eq_some_iff_append.mp hfirst
  refine ⟨before, name, ⟨address, after, hparts⟩, fun e he hmem => ?_, contains_iff.mp htaken⟩
  have hnew := hfresh e he
  rw [contains_iff.mpr hmem] at hnew
  cases hnew

/-- New names are added, whatever is to be added behind them.  By induction on
the names: each is added to a larger table, in which the next ones are still
new. -/
theorem addAll_fresh {before : List (Text × Nat)} (hdistinct : (before.map (·.1)).Nodup)
    (hfresh : ∀ e ∈ before, e.1 ∉ t.names) (hwords : ∀ e ∈ before, e.2 < wordCount)
    (rest : List (Text × Int)) :
    t.addAll (valued before ++ rest) = addAll ⟨t.entries ++ before⟩ rest := by
  induction before generalizing t with
  | nil => rw [List.append_nil]; rfl
  | cons e more ih =>
      obtain ⟨name, address⟩ := e
      have hnew : name ∉ t.names := hfresh _ List.mem_cons_self
      obtain ⟨hname, hmore⟩ := List.nodup_cons.mp hdistinct
      have hadd := add_of_new hnew (hwords _ List.mem_cons_self)
      have hfresh' : ∀ e ∈ more, e.1 ∉ (t.push name address).names := by
        intro e he hmem
        rw [names_push] at hmem
        rcases List.mem_append.mp hmem with hmem | hmem
        · exact hfresh e (List.mem_cons_of_mem _ he) hmem
        · have hsame : e.1 = name := List.mem_singleton.mp hmem
          exact hname (List.mem_map.mpr ⟨e, he, hsame⟩)
      have hrest := ih hmore hfresh' fun e he => hwords e (List.mem_cons_of_mem _ he)
      calc t.addAll (valued ((name, address) :: more) ++ rest)
          = (t.push name address).addAll (valued more ++ rest) := by
            rw [valued, List.map_cons, List.cons_append, addAll, hadd]
            rfl
        _ = addAll ⟨(t.push name address).entries ++ more⟩ rest := hrest
        _ = addAll ⟨t.entries ++ (name, address) :: more⟩ rest := by
            rw [push, List.append_assoc, List.singleton_append]

/-- Before a clash all is added, and nothing behind it.  So a table that could
not be merged holds what stood in front of the clash in the other. -/
theorem Clash.merge {before : List (Text × Nat)} (h : Clash t other before name)
    (hother : other.Assembled) :
    t.merge other = (.error (duplicate name .assembly), ⟨t.entries ++ before⟩) := by
  obtain ⟨address, after, hparts⟩ := h.parts
  have hdistinct : (before.map (·.1)).Nodup := by
    have hnames := hother.nodup
    rw [names, hparts, List.map_append] at hnames
    exact (List.nodup_append.mp hnames).1
  have hwords : ∀ e ∈ before, e.2 < wordCount := by
    intro e he
    exact hother.fits e (hparts ▸ List.mem_append_left _ he)
  have htaken : name ∈ (⟨t.entries ++ before⟩ : LabelTable).names := by
    rw [names, List.map_append]
    exact List.mem_append_left _ h.taken
  have hentries : valued other.entries = valued before ++ valued ((name, address) :: after) := by
    rw [hparts, valued, List.map_append]
    rfl
  calc t.merge other
      = t.addAll (valued before ++ valued ((name, address) :: after)) := by rw [merge_eq, hentries]
    _ = addAll ⟨t.entries ++ before⟩ (valued ((name, address) :: after)) :=
        addAll_fresh hdistinct h.fresh hwords _
    _ = (.error (duplicate name .assembly), ⟨t.entries ++ before⟩) := by
        rw [valued, List.map_cons, addAll, add_of_mem htaken]

/-- A merge fails only for a clash. -/
theorem exists_clash_of_merge {f : Failure} (hother : other.Assembled)
    (h : t.merge other = (.error f, t')) : ∃ before name, Clash t other before name := by
  apply exists_clash
  by_contra hnone
  have hfresh : ∀ e ∈ other.entries, e.1 ∉ t.names := fun e he hname =>
    hnone ⟨e.1, List.mem_map_of_mem he, hname⟩
  have hall := addAll_fresh hother.nodup hfresh hother.fits []
  rw [List.append_nil] at hall
  rw [merge_eq, hall] at h
  cases h

end LabelTable

/-! ### The labels of a command -/

namespace Command

open LabelTable (collect)

/-- The command merges its symbol files one by one.  A file that cannot be
loaded ends the merging before the files behind it are looked at. -/
theorem mergeSymbols_eq (d : Disk) (files : List Path) (t : LabelTable) (notices : List Notice) :
    (mergeSymbols d files t notices).1 =
      collect (files.map fun file => (readSymbols d file).1) t := by
  induction files generalizing t notices with
  | nil => rfl
  | cons file rest ih =>
      rw [mergeSymbols, List.map_cons, collect]
      rcases readSymbols d file with ⟨_ | labels, more⟩
      · rfl
      · dsimp only [Except.bind]
        rw [LabelTable.merged]
        rcases t.merge labels with ⟨_ | _, t'⟩
        · rfl
        · exact ih t' (notices ++ more)

/-- It merges all its definitions as one piece. -/
theorem mergeDefinitions_eq (t : LabelTable) (definitions : List Text) :
    mergeDefinitions t definitions = collect [LabelTable.ofDefinitions definitions] t := by
  rw [mergeDefinitions, collect]
  cases LabelTable.ofDefinitions definitions with
  | error f => rfl
  | ok labels =>
      dsimp only [Except.bind]
      rw [LabelTable.merged]
      rcases t.merge labels with ⟨_ | _, t'⟩ <;> rfl

/-- A command merges the tables of its symbol files and then that of its
definitions. -/
theorem readLabels_eq (d : Disk) (o : Order) :
    (readLabels d o).1 =
      collect (o.symbols.map (fun file => (readSymbols d file).1) ++
        [LabelTable.ofDefinitions o.definitions]) LabelTable.empty := by
  rw [LabelTable.collect_append, ← mergeSymbols_eq d o.symbols LabelTable.empty [], readLabels]
  rcases mergeSymbols d o.symbols LabelTable.empty [] with ⟨_ | t, notices⟩
  · rfl
  · exact mergeDefinitions_eq t o.definitions

end Command
end TraceScript
