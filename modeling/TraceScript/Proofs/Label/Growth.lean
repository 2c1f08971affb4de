import Mathlib.Data.List.Nodup
import TraceScript.Label.Scope

/-!
# Label scopes only grow

Both tables of a scope are made label by label, from nothing
(`LabelTable.Assembled`, `LabelTable.Recorded`).  A scope is `Unambiguous` if no
name stands in it twice, in one table or in both, and every address of a
directive fits a word.

A definition has three outcomes: a name that is there is refused
(`define_of_mem`), a new one whose address does not fit a word is a fault
(`define_of_wide`), and any other name is put at the end (`define_of_fits`).  So
definitions lead from a scope to one that `Extends` it and are never ambiguous.

What a name stands for does not depend on the table that is asked first
(`resolveFrom_eq`), and it never changes (`Extends.resolve`).
-/

namespace TraceScript

namespace LabelTable

variable {t t' : LabelTable} {name : Text} {address : Nat}

/-- A table has no address just for the names that are not in it. -/
theorem find?_eq_none_iff : t.find? name = none ↔ name ∉ t.names := by
  simp only [find?, names, List.lookup_eq_none_iff, List.mem_map, bne_iff_ne, not_exists, not_and]
  constructor
  · intro h entry hentry hname
    exact h entry hentry hname.symm
  · intro h entry hentry hname
    exact h entry hentry hname.symm

/-- A table contains just its names. -/
theorem contains_iff : t.contains name = true ↔ name ∈ t.names := by
  rw [contains, Option.isSome_iff_ne_none, ne_eq, find?_eq_none_iff, not_not]

/-- A label keeps its address when more labels are put behind it. -/
theorem find?_of_prefix (h : t.entries <+: t'.entries) (hfind : t.find? name = some address) :
    t'.find? name = some address := by
  obtain ⟨more, hmore⟩ := h
  unfold find? at hfind ⊢
  rw [← hmore, List.lookup_append, hfind, Option.some_or]

/-- A new name at the end of a table stands in it once. -/
theorem nodup_push (h : t.names.Nodup) (hnew : name ∉ t.names) :
    (t.push name address).names.Nodup := by
  rw [names_push, List.nodup_append]
  refine ⟨h, List.nodup_singleton name, ?_⟩
  rintro a ha b hb rfl
  exact hnew (List.mem_singleton.mp hb ▸ ha)

/-- A value is added under a new name only. -/
theorem add_eq_ok {value : Int} (h : t.add name value = .ok t') :
    name ∉ t.names ∧ t' = t.push name (toWord value) := by
  unfold add at h
  split at h
  · cases h
  · rename_i hnew
    cases h
    exact ⟨fun hmem => hnew (contains_iff.mpr hmem), rfl⟩

/-- An offset is recorded if the name is new and the offset fits a word. -/
theorem append_eq_ok_iff {offset : Int} :
    t.append name offset = .ok t' ↔
      name ∉ t.names ∧ (0 ≤ offset ∧ offset < wordCount) ∧ t' = t.push name offset.toNat := by
  unfold append
  by_cases hname : name ∈ t.names
  · simp [contains_iff.mpr hname, hname]
  · have hnew : t.contains name = false := by
      rw [← Bool.not_eq_true, contains_iff]
      exact hname
    by_cases hfits : 0 ≤ offset ∧ offset < wordCount
    · simp [hnew, hname, hfits, eq_comm]
    · simp [hnew, hname, hfits]

/-- A table of the assembly source: values added one after another. -/
inductive Assembled : LabelTable → Prop
  | empty : Assembled LabelTable.empty
  | add {t t' : LabelTable} {name : Text} {value : Int} (h : Assembled t)
      (hadd : t.add name value = .ok t') : Assembled t'

/-- A table of directives: offsets recorded one after another. -/
inductive Recorded : LabelTable → Prop
  | empty : Recorded LabelTable.empty
  | append {t t' : LabelTable} {name : Text} {offset : Int} (h : Recorded t)
      (happend : t.append name offset = .ok t') : Recorded t'

/-- A table of assembly labels has no name twice, since each was checked when
it was added. -/
theorem Assembled.nodup (h : Assembled t) : t.names.Nodup := by
  induction h with
  | empty => exact List.nodup_nil
  | add _ hadd ih =>
      obtain ⟨hnew, rfl⟩ := add_eq_ok hadd
      exact nodup_push ih hnew

/-- Neither has a table of directive labels. -/
theorem Recorded.nodup (h : Recorded t) : t.names.Nodup := by
  induction h with
  | empty => exact List.nodup_nil
  | append _ happend ih =>
      obtain ⟨hnew, -, rfl⟩ := append_eq_ok_iff.mp happend
      exact nodup_push ih hnew

/-- The addresses of assembly labels are words, since values are wrapped. -/
theorem Assembled.fits (h : Assembled t) : ∀ entry ∈ t.entries, entry.2 < wordCount := by
  induction h with
  | empty => exact nofun
  | add _ hadd ih =>
      obtain ⟨-, rfl⟩ := add_eq_ok hadd
      intro entry hentry
      rcases List.mem_append.mp hentry with hentry | hentry
      · exact ih entry hentry
      · obtain rfl := List.mem_singleton.mp hentry
        exact toWord_lt _

/-- Those of directive labels are words too, since wider ones are refused. -/
theorem Recorded.fits (h : Recorded t) : ∀ entry ∈ t.entries, entry.2 < wordCount := by
  induction h with
  | empty => exact nofun
  | append _ happend ih =>
      obtain ⟨-, hfits, rfl⟩ := append_eq_ok_iff.mp happend
      intro entry hentry
      rcases List.mem_append.mp hentry with hentry | hentry
      · exact ih entry hentry
      · obtain rfl := List.mem_singleton.mp hentry
        show Int.toNat _ < wordCount
        omega

end LabelTable

namespace Labels

variable {l m n : Labels} {name : Text} {address : Int}

/-- The names of both tables. -/
def names (l : Labels) : List Text :=
  l.assembly.names ++ l.directive.names

/-- The scope with one more label of a directive. -/
def push (l : Labels) (name : Text) (address : Nat) : Labels :=
  { l with directive := l.directive.push name address }

/-- A new directive label is the last of all names. -/
@[simp] theorem names_push (l : Labels) (name : Text) (address : Nat) :
    (l.push name address).names = l.names ++ [name] := by
  simp [names, push, LabelTable.names_push]

/-- No name stands for two addresses, and those of directives fit a word. -/
structure Unambiguous (l : Labels) : Prop where
  nodup : l.names.Nodup
  fits : ∀ entry ∈ l.directive.entries, entry.2 < wordCount

/-- Two tables without a common name are unambiguous. -/
theorem unambiguous_of_disjoint (ha : l.assembly.Assembled) (hd : l.directive.Recorded)
    (hdisjoint : ∀ name ∈ l.assembly.names, name ∉ l.directive.names) : l.Unambiguous where
  nodup := by
    refine List.nodup_append.mpr ⟨ha.nodup, hd.nodup, ?_⟩
    rintro a ha b hb rfl
    exact hdisjoint a ha hb
  fits := hd.fits

/-! ### Definitions -/

/-- A name that is in neither table passes the check. -/
theorem checkUnique_of_new (hnew : name ∉ l.names) : l.checkUnique name = .ok () := by
  rw [names, List.mem_append, not_or] at hnew
  rw [checkUnique, if_neg (mt LabelTable.contains_iff.mp hnew.1),
    if_neg (mt LabelTable.contains_iff.mp hnew.2)]

/-- A name that is defined is refused at a look, for a table that it is in. -/
theorem checkUnique_of_mem (h : name ∈ l.names) :
    ∃ origin, name ∈ (l.table origin).names ∧
      l.checkUnique name = .error (LabelTable.duplicate name origin) := by
  unfold checkUnique
  by_cases hassembly : name ∈ l.assembly.names
  · exact ⟨.assembly, hassembly, if_pos (LabelTable.contains_iff.mpr hassembly)⟩
  · have hdirective : name ∈ l.directive.names :=
      (List.mem_append.mp h).resolve_left hassembly
    rw [if_neg (mt LabelTable.contains_iff.mp hassembly),
      if_pos (LabelTable.contains_iff.mpr hdirective)]
    exact ⟨.directive, hdirective, rfl⟩

/-- A new name with an address that is a word is defined, behind all others. -/
theorem define_of_fits (hnew : name ∉ l.names) (hfits : 0 ≤ address ∧ address < wordCount) :
    l.define name address = .ok (l.push name address.toNat) := by
  have hdirective : name ∉ l.directive.names := fun h => hnew (List.mem_append_right _ h)
  rw [define, checkUnique_of_new hnew]
  simp only [LabelTable.append_eq_ok_iff.mpr ⟨hdirective, hfits, rfl⟩]
  rfl

/-- A new name with a wider address is an internal fault. -/
theorem define_of_wide (hnew : name ∉ l.names) (hwide : ¬ (0 ≤ address ∧ address < wordCount)) :
    l.define name address = .error (.internal (.addressTooWide name address)) := by
  have hdirective : name ∉ l.directive.names := fun h => hnew (List.mem_append_right _ h)
  rw [define, checkUnique_of_new hnew]
  simp only [LabelTable.append, if_neg (mt LabelTable.contains_iff.mp hdirective), if_neg hwide]
  rfl

/-- A name that is defined is refused as a second definition. -/
theorem define_of_mem (address : Int) (h : name ∈ l.names) :
    ∃ origin, l.define name address = .error (LabelTable.duplicate name origin) := by
  obtain ⟨origin, -, hcheck⟩ := checkUnique_of_mem h
  exact ⟨origin, by rw [define, hcheck]⟩

/-- A name is there, or it is new and its address fits a word, or does not. -/
theorem define_outcomes (l : Labels) (name : Text) (address : Int) :
    (name ∈ l.names ∧
      ∃ origin, l.define name address = .error (LabelTable.duplicate name origin)) ∨
    ((name ∉ l.names ∧ (0 ≤ address ∧ address < wordCount)) ∧
      l.define name address = .ok (l.push name address.toNat)) ∨
    ((name ∉ l.names ∧ ¬ (0 ≤ address ∧ address < wordCount)) ∧
      l.define name address = .error (.internal (.addressTooWide name address))) := by
  by_cases hname : name ∈ l.names
  · exact .inl ⟨hname, define_of_mem address hname⟩
  · by_cases hfits : 0 ≤ address ∧ address < wordCount
    · exact .inr (.inl ⟨⟨hname, hfits⟩, define_of_fits hname hfits⟩)
    · exact .inr (.inr ⟨⟨hname, hfits⟩, define_of_wide hname hfits⟩)

/-- A label is defined just if its name is new and its address is a word, and
then it is the last one. -/
theorem define_eq_ok_iff :
    l.define name address = .ok m ↔
      name ∉ l.names ∧ (0 ≤ address ∧ address < wordCount) ∧ m = l.push name address.toNat := by
  constructor
  · intro h
    obtain ⟨-, origin, hdefine⟩ | ⟨⟨hnew, hfits⟩, hdefine⟩ | ⟨-, hdefine⟩ :=
      l.define_outcomes name address
    · rw [hdefine] at h
      cases h
    · rw [hdefine] at h
      exact ⟨hnew, hfits, (Except.ok.inj h).symm⟩
    · rw [hdefine] at h
      cases h
  · rintro ⟨hnew, hfits, rfl⟩
    exact define_of_fits hnew hfits

/-- A label is refused as a duplicate just if its name is taken, whatever its
address. -/
theorem define_eq_duplicate_iff :
    (∃ origin, l.define name address = .error (LabelTable.duplicate name origin)) ↔
      name ∈ l.names := by
  refine ⟨fun ⟨origin, hrefused⟩ => ?_, define_of_mem address⟩
  obtain ⟨hname, -⟩ | ⟨-, hdefine⟩ | ⟨-, hdefine⟩ := l.define_outcomes name address
  · exact hname
  · rw [hdefine] at hrefused
    cases hrefused
  · rw [hdefine] at hrefused
    cases hrefused

/-- It is an internal fault just if its name is new and its address is no
word. -/
theorem define_eq_internal_iff :
    (∃ fault, l.define name address = .error (.internal fault)) ↔
      name ∉ l.names ∧ ¬ (0 ≤ address ∧ address < wordCount) := by
  refine ⟨fun ⟨fault, hfault⟩ => ?_, fun h => ⟨_, define_of_wide h.1 h.2⟩⟩
  obtain ⟨-, origin, hdefine⟩ | ⟨-, hdefine⟩ | ⟨hwide, -⟩ := l.define_outcomes name address
  · rw [hdefine] at hfault
    cases hfault
  · rw [hdefine] at hfault
    cases hfault
  · exact hwide

/-- A new name at an address that fits keeps the scope unambiguous. -/
theorem Unambiguous.push {address : Nat} (h : l.Unambiguous) (hnew : name ∉ l.names)
    (hfits : address < wordCount) : (l.push name address).Unambiguous := by
  constructor
  · rw [names_push, List.nodup_append]
    refine ⟨h.nodup, List.nodup_singleton name, ?_⟩
    rintro a ha b hb rfl
    exact hnew (List.mem_singleton.mp hb ▸ ha)
  · intro entry hentry
    rcases List.mem_append.mp hentry with hentry | hentry
    · exact h.fits entry hentry
    · obtain rfl := List.mem_singleton.mp hentry
      exact hfits

theorem Unambiguous.define (h : l.Unambiguous) (hdefine : l.define name address = .ok m) :
    m.Unambiguous := by
  obtain ⟨hnew, hfits, rfl⟩ := define_eq_ok_iff.mp hdefine
  exact h.push hnew (by omega)

/-! ### Growth -/

/-- One scope has all that another has, and perhaps more labels of directives
behind those. -/
structure Extends (l m : Labels) : Prop where
  assembly : m.assembly = l.assembly
  directive : l.directive.entries <+: m.directive.entries

theorem Extends.refl (l : Labels) : l.Extends l :=
  ⟨rfl, List.prefix_refl _⟩

/-- What extends an extension extends the first labels. -/
theorem Extends.trans (h : l.Extends m) (h' : m.Extends n) : l.Extends n :=
  ⟨h'.assembly.trans h.assembly, h.directive.trans h'.directive⟩

theorem extends_push (l : Labels) (name : Text) (address : Nat) :
    l.Extends (l.push name address) :=
  ⟨rfl, List.prefix_append _ _⟩

/-- A definition that succeeds extends the labels. -/
theorem extends_define (h : l.define name address = .ok m) : l.Extends m := by
  obtain ⟨-, -, rfl⟩ := define_eq_ok_iff.mp h
  exact extends_push l name _

/-! ### What a name stands for -/

/-- In an unambiguous scope it does not matter which table is asked first.  A
name that the first table has is not in the second. -/
theorem Unambiguous.resolveFrom_eq (h : l.Unambiguous) (first : LabelOrigin) (name : Text) :
    l.resolveFrom first name = l.resolve name := by
  cases first with
  | assembly => rfl
  | directive =>
      rw [resolve, resolveFrom, resolveFrom]
      cases hdirective : l.directive.find? name with
      | none => cases hassembly : l.assembly.find? name <;> simp [table, other, *]
      | some found =>
          have hmem : name ∈ l.directive.names := by
            by_contra hnone
            rw [LabelTable.find?_eq_none_iff.mpr hnone] at hdirective
            cases hdirective
          have hassembly : l.assembly.find? name = none := by
            rw [LabelTable.find?_eq_none_iff]
            intro hname
            exact (List.nodup_append.mp h.nodup).2.2 name hname name hmem rfl
          simp [table, other, hdirective, hassembly]

/-- A name stands for an address just if one of the tables has it, whichever
is asked first. -/
theorem exists_resolveFrom_iff (l : Labels) (first : LabelOrigin) (name : Text) :
    (∃ found, l.resolveFrom first name = .ok found) ↔ name ∈ l.names := by
  have hsome {t : LabelTable} {a : Nat} (hfind : t.find? name = some a) : name ∈ t.names := by
    by_contra hnone
    rw [LabelTable.find?_eq_none_iff.mpr hnone] at hfind
    cases hfind
  have htable (origin : LabelOrigin) (hmem : name ∈ (l.table origin).names) : name ∈ l.names := by
    cases origin with
    | assembly => exact List.mem_append_left _ hmem
    | directive => exact List.mem_append_right _ hmem
  unfold resolveFrom
  cases hfirst : (l.table first).find? name with
  | some a => exact ⟨fun _ => htable first (hsome hfirst), fun _ => ⟨_, rfl⟩⟩
  | none =>
      cases hother : (l.table (other first)).find? name with
      | some a => exact ⟨fun _ => htable (other first) (hsome hother), fun _ => ⟨_, rfl⟩⟩
      | none =>
          refine ⟨nofun, fun hmem => ?_⟩
          have hnone := LabelTable.find?_eq_none_iff.mp hfirst
          have hnone' := LabelTable.find?_eq_none_iff.mp hother
          rcases List.mem_append.mp hmem with hmem | hmem
          · cases first with
            | assembly => exact absurd hmem hnone
            | directive => exact absurd hmem hnone'
          · cases first with
            | assembly => exact absurd hmem hnone'
            | directive => exact absurd hmem hnone

/-- A name that stands for an address stands for it in every larger scope.
The entries of directives are searched from the front, and the new ones stand
behind the old. -/
theorem Extends.resolve {found : Nat × LabelOrigin} (h : l.Extends m)
    (hfound : l.resolve name = .ok found) : m.resolve name = .ok found := by
  have hassembly : (m.table .assembly).find? name = (l.table .assembly).find? name := by
    rw [table, table, h.assembly]
  unfold Labels.resolve resolveFrom at hfound ⊢
  rw [hassembly]
  cases hfind : (l.table .assembly).find? name with
  | some address =>
      rw [hfind] at hfound
      exact hfound
  | none =>
      rw [hfind] at hfound
      simp only [other, table] at hfound ⊢
      cases hdirective : l.directive.find? name with
      | none =>
          rw [hdirective] at hfound
          cases hfound
      | some address =>
          rw [hdirective] at hfound
          rw [LabelTable.find?_of_prefix h.directive hdirective]
          exact hfound

end Labels
end TraceScript
