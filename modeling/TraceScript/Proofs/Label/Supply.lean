import TraceScript.Proofs.Directive.Notation
import TraceScript.Proofs.Label.Collection
import TraceScript.Proofs.Text.Encoding

/-!
# Ways of supplying labels

A label of the assembly source is given as a name with a literal (`GivenLabel`).  Labels are
loaded from a mapping, from the lines of a symbol file (`SymbolText`), which may have gaps and
comments and other lines between them, or from definitions (`Loaded`).  They may also be cut
into pieces that are loaded in any of these ways and merged (`Supplied`), and a command does
so with its symbol files and definitions.

Each reader adds the labels it is given in order, and nothing else
(`tabulates_readSymbolLines`, `tabulates_readDefinitions`).  So all ways lead to the same
table, or refuse a name that stands twice among the labels (`supplies_agree`).
-/

namespace TraceScript

/-- A label as it is given: a name, and a literal without blanks that is read
as its value. -/
structure GivenLabel where
  name : Text
  literal : Text
  value : Nat
  name_ne_nil : name ≠ []
  name_plain : ∀ c ∈ name, Text.isBlank c = false ∧ c ≠ '#' ∧ c ≠ '='
  literal_plain : ∀ c ∈ literal, Text.isBlank c = false
  read : readWord literal = .ok value

namespace GivenLabel

/-- The entry that a label makes in a table. -/
def entry (l : GivenLabel) : Text × Nat :=
  (l.name, l.value)

/-- A label as a definition. -/
def definition (l : GivenLabel) : Text :=
  l.name ++ '=' :: l.literal

/-- The literal of a label is written as one, and its value is the word that
it stands for. -/
theorem exists_literal (l : GivenLabel) :
    ∃ i : Literal, i.Written ∧ l.literal = i.text ∧ l.value = i.word := by
  obtain ⟨i, hi⟩ := exists_denoted_of_readWord l.read
  have hread := readWord_denoted hi
  rw [l.read] at hread
  refine ⟨i, hi.written, ?_, ?_⟩
  · rw [← hi.text, Text.trim_eq_self (Text.tight_of_no_blank l.literal_plain)]
  · split at hread
    · cases hread
    · exact Except.ok.inj hread

/-- So a value is a word, also where the literal is negative or too large for
one. -/
theorem value_lt (l : GivenLabel) : l.value < wordCount := by
  obtain ⟨i, -, -, hvalue⟩ := l.exists_literal
  rw [hvalue]
  exact toWord_lt i.value

theorem literal_ne_nil (l : GivenLabel) : l.literal ≠ [] := by
  obtain ⟨i, hi, hliteral, -⟩ := l.exists_literal
  rw [hliteral]
  exact hi.text_ne_nil

theorem hash_not_mem_literal (l : GivenLabel) : '#' ∉ l.literal := by
  obtain ⟨i, hi, hliteral, -⟩ := l.exists_literal
  rw [hliteral]
  intro hc
  exact absurd (hi.chars '#' hc) (by decide)

theorem hash_not_mem_name (l : GivenLabel) : '#' ∉ l.name := fun hc =>
  (l.name_plain '#' hc).2.1 rfl

/-- A definition is cut behind the name, at its first equals sign. -/
theorem equals_not_mem_name (l : GivenLabel) : '=' ∉ l.name := fun hc =>
  (l.name_plain '=' hc).2.2 rfl

theorem name_no_blank (l : GivenLabel) : ∀ c ∈ l.name, Text.isBlank c = false := fun c hc =>
  (l.name_plain c hc).1

end GivenLabel

open GivenLabel (entry definition)

namespace LabelTable

variable {d : Disk} {file : Path} {t : LabelTable} {l : GivenLabel} {ls : List GivenLabel}
  {r : Except Failure LabelTable}

/-! ### Definitions -/

/-- A definition is cut into the name and the literal of its label. -/
theorem splitDefinition_definition (l : GivenLabel) :
    splitDefinition l.definition = .ok (l.name, l.literal) := by
  have htrim : Text.trim l.name = l.name :=
    Text.trim_eq_self (Text.tight_of_no_blank l.name_no_blank)
  have hname : l.name.isEmpty = false := by simpa using l.name_ne_nil
  rw [splitDefinition, definition, Text.cutAt_append l.literal l.equals_not_mem_name]
  simp only [htrim, hname]
  rfl

/-- The first definition adds its label, and then the rest are read. -/
theorem readDefinitions_cons (l : GivenLabel) (ls : List GivenLabel) (t : LabelTable) :
    readDefinitions ((l :: ls).map definition) t =
      (t.add l.name (l.value : Int)).bind (readDefinitions (ls.map definition)) := by
  rw [List.map_cons, readDefinitions, splitDefinition_definition]
  show (readWord l.literal >>= _) = _
  rw [l.read]
  rfl

/-- The labels of definitions are added in order. -/
theorem tabulates_readDefinitions (ls : List GivenLabel) (ht : t.names.Nodup) :
    Tabulates (t.entries ++ ls.map entry) (readDefinitions (ls.map definition) t) := by
  induction ls generalizing t with
  | nil =>
      rw [List.map_nil, List.append_nil]
      exact tabulates_ok ht
  | cons l rest ih =>
      rw [readDefinitions_cons, List.map_cons, ← List.singleton_append, ← List.append_assoc]
      exact (tabulates_add ht l.value_lt).bind fun t' ht' => ih ht'

/-! ### Lines of a symbol file -/

/-- What may stand around the parts of a line: blanks that do not end it. -/
def IsGap (t : Text) : Prop :=
  ∀ c ∈ t, Text.isBlank c ∧ Text.isLineBoundary c = false

/-- What may stand at the end of a line: nothing, or a comment. -/
inductive IsRemark : Text → Prop
  | none : IsRemark []
  | comment {t : Text} (h : ∀ c ∈ t, Text.isLineBoundary c = false) : IsRemark ('#' :: t)

/-- A line of a symbol file, with its label or with none. -/
inductive SymbolLine : Option GivenLabel → Text → Prop
  | bare {gap remark : Text} (hgap : IsGap gap) (hremark : IsRemark remark) :
      SymbolLine none (gap ++ remark)
  | label (l : GivenLabel) {before between after remark : Text} (hbefore : IsGap before)
      (hbetween : IsGap between) (hne : between ≠ []) (hafter : IsGap after)
      (hremark : IsRemark remark) :
      SymbolLine (some l) (before ++ (l.name ++ (between ++ (l.literal ++ (after ++ remark)))))

/-- The text of a symbol file with some labels.  Any boundary ends a line, so
none stands in a line or in its comment; the last line may go without an end. -/
inductive SymbolText : List GivenLabel → Text → Prop
  | last {label : Option GivenLabel} {line : Text} (hline : SymbolLine label line) :
      SymbolText label.toList line
  | line {label : Option GivenLabel} {ls : List GivenLabel} {line ending rest : Text}
      (hline : SymbolLine label line) (hending : Text.IsLineEnd ending)
      (hrest : SymbolText ls rest) :
      SymbolText (label.toList ++ ls) (line ++ (ending ++ rest))

/-- What is read of a line ends where its comment starts. -/
theorem symbolText_remark {line remark : Text} (hline : '#' ∉ line) (hremark : IsRemark remark) :
    symbolText (line ++ remark) = Text.trim line := by
  have htake : (line ++ remark).takeWhile (· != '#') = line := by
    apply Text.takeWhile_append_of_ends
    · intro c hc
      simpa using fun h : c = '#' => hline (h ▸ hc)
    · cases hremark <;> rfl
  rw [symbolText, htake]

theorem IsGap.hash_not_mem {gap : Text} (h : IsGap gap) : '#' ∉ gap := fun hc =>
  absurd (h '#' hc).1 (by decide)

/-- A line of a symbol file is one line: neither its gaps nor its label nor
its comment has a boundary in it. -/
theorem SymbolLine.no_boundary {label : Option GivenLabel} {line : Text}
    (h : SymbolLine label line) : ∀ c ∈ line, Text.isLineBoundary c = false := by
  have hremark {remark : Text} (h : IsRemark remark) :
      ∀ c ∈ remark, Text.isLineBoundary c = false := by
    cases h with
    | none => nofun
    | comment ht =>
        intro c hc
        rcases List.mem_cons.mp hc with rfl | hc
        · rfl
        · exact ht c hc
  intro c hc
  cases h with
  | bare hgap hend =>
      rcases List.mem_append.mp hc with hc | hc
      · exact (hgap c hc).2
      · exact hremark hend c hc
  | label l hbefore hbetween _ hafter hend =>
      simp only [List.mem_append] at hc
      rcases hc with hc | hc | hc | hc | hc | hc
      · exact (hbefore c hc).2
      · exact Text.isLineBoundary_of_not_isBlank (l.name_no_blank c hc)
      · exact (hbetween c hc).2
      · exact Text.isLineBoundary_of_not_isBlank (l.literal_plain c hc)
      · exact (hafter c hc).2
      · exact hremark hend c hc

/-- Nothing is read of a line without a label. -/
theorem symbolText_bare {gap remark : Text} (hgap : IsGap gap) (hremark : IsRemark remark) :
    symbolText (gap ++ remark) = [] := by
  rw [symbolText_remark hgap.hash_not_mem hremark]
  exact Text.trim_eq_nil_iff.mpr fun c hc => (hgap c hc).1

/-- Of a line with a label, its name and its literal are read.  The blanks
around them and the remark are taken, and what is left has no blanks at its
ends. -/
theorem symbolText_label (l : GivenLabel) {before between after remark : Text}
    (hbefore : IsGap before) (hbetween : IsGap between) (hafter : IsGap after)
    (hremark : IsRemark remark) :
    symbolText (before ++ (l.name ++ (between ++ (l.literal ++ (after ++ remark))))) =
      l.name ++ (between ++ l.literal) := by
  have hparts : before ++ (l.name ++ (between ++ (l.literal ++ (after ++ remark)))) =
      before ++ (l.name ++ (between ++ l.literal) ++ after) ++ remark := by
    simp only [List.append_assoc]
  have hhash : '#' ∉ before ++ (l.name ++ (between ++ l.literal) ++ after) := by
    simp only [List.mem_append, not_or]
    exact ⟨hbefore.hash_not_mem, ⟨l.hash_not_mem_name, hbetween.hash_not_mem,
      l.hash_not_mem_literal⟩, hafter.hash_not_mem⟩
  have htight : Text.Tight (l.name ++ (between ++ l.literal)) := by
    have hliteral := (Text.tight_of_no_blank l.literal_plain).last
    refine ⟨Text.head?_not_append_of_ne l.name_ne_nil l.name_no_blank _, ?_⟩
    apply Text.last_append
    · exact Text.last_append hliteral fun hempty => absurd hempty l.literal_ne_nil
    · intro hempty
      exact absurd (List.append_eq_nil_iff.mp hempty).2 l.literal_ne_nil
  have hne : l.name ++ (between ++ l.literal) ≠ [] :=
    List.append_ne_nil_of_left_ne_nil l.name_ne_nil _
  rw [hparts]
  calc symbolText (before ++ (l.name ++ (between ++ l.literal) ++ after) ++ remark)
      = Text.trim (before ++ (l.name ++ (between ++ l.literal) ++ after)) :=
        symbolText_remark hhash hremark
    _ = l.name ++ (between ++ l.literal) :=
        Text.trim_append (fun c hc => (hbefore c hc).1) (fun c hc => (hafter c hc).1) htight hne

/-- The words of a line with a label are the name and the literal.  Between
the two stands a blank at least, and there is none in either. -/
theorem blankWords_label (l : GivenLabel) {between : Text} (hbetween : IsGap between)
    (hne : between ≠ []) :
    Text.blankWords (l.name ++ (between ++ l.literal)) = [l.name, l.literal] := by
  obtain ⟨s, more, rfl⟩ := List.exists_cons_of_ne_nil hne
  have hs : Text.isBlank s = true := (hbetween s List.mem_cons_self).1
  have hmore : ∀ c ∈ more, Text.isBlank c := fun c hc =>
    (hbetween c (List.mem_cons_of_mem s hc)).1
  calc Text.blankWords (l.name ++ (s :: more ++ l.literal))
      = l.name :: Text.blankWords (more ++ l.literal) :=
        Text.words_append_sep _ l.name_ne_nil l.name_no_blank hs
    _ = l.name :: Text.blankWords l.literal := by
        rw [Text.blankWords, Text.words_of_sep_append _ hmore]
        rfl
    _ = [l.name, l.literal] := by
        rw [Text.blankWords, Text.words_of_not_sep l.literal_ne_nil l.literal_plain]

/-! ### Reading a symbol file -/

/-- A line of which nothing is read changes nothing. -/
theorem readSymbolLines_bare {line : Text} (h : symbolText line = []) (rows : List Text)
    (t : LabelTable) (notices : List Notice) :
    readSymbolLines file (line :: rows) t notices = readSymbolLines file rows t notices := by
  simp only [readSymbolLines, h]
  rfl

/-- A line with a label adds it, and then the rest are read. Notices apart,
this is what a definition does. -/
theorem readSymbolLines_label {line between : Text} (hbetween : IsGap between)
    (hne : between ≠ []) (h : symbolText line = l.name ++ (between ++ l.literal))
    (rows : List Text) (t : LabelTable) (notices : List Notice) :
    (readSymbolLines file (line :: rows) t notices).1 =
      (t.add l.name (l.value : Int)).bind fun t => (readSymbolLines file rows t notices).1 := by
  have hsome : (l.name ++ (between ++ l.literal)).isEmpty = false := by
    simpa using fun hempty => absurd hempty l.name_ne_nil
  simp only [readSymbolLines, h, hsome, blankWords_label l hbetween hne, l.read]
  simp only [Bool.false_eq_true, if_false, Except.bind]
  cases t.add l.name (l.value : Int) <;> rfl

/-- One line adds its label, where it has one.  The rest of the lines is
tabulated behind it, or a name of the rest is refused. -/
theorem tabulates_line {label : Option GivenLabel} {line : Text} {rows : List Text}
    {notices : List Notice} (hline : SymbolLine label line) (ht : t.names.Nodup)
    (hrows : ∀ t : LabelTable, t.names.Nodup →
      Tabulates (t.entries ++ ls.map entry) (readSymbolLines file rows t notices).1) :
    Tabulates (t.entries ++ (label.toList ++ ls).map entry)
      (readSymbolLines file (line :: rows) t notices).1 := by
  cases hline with
  | bare hgap hremark =>
      rw [readSymbolLines_bare (symbolText_bare hgap hremark)]
      exact hrows t ht
  | label l hbefore hbetween hne hafter hremark =>
      have htext := symbolText_label l hbefore hbetween hafter hremark
      rw [readSymbolLines_label hbetween hne htext, List.map_append, ← List.append_assoc]
      exact (tabulates_add ht l.value_lt).bind fun t' ht' => hrows t' ht'

/-- An empty line changes nothing, as it has no label. -/
theorem readSymbolLines_empty (rows : List Text) (t : LabelTable) (notices : List Notice) :
    readSymbolLines file ([] :: rows) t notices = readSymbolLines file rows t notices :=
  readSymbolLines_bare rfl rows t notices

/-- What no boundary breaks is read as one line, also where there is nothing
to read. -/
theorem readSymbolLines_last {line : Text} (h : ∀ c ∈ line, Text.isLineBoundary c = false)
    (t : LabelTable) (notices : List Notice) :
    readSymbolLines file (Text.lines (Text.unifyNewlines line)) t notices =
      readSymbolLines file [line] t notices := by
  have hreturn : '\r' ∉ line := fun hc => absurd (h '\r' hc) (by decide)
  rw [Text.unifyNewlines_of_not_mem hreturn]
  by_cases hnone : line = []
  · rw [hnone, readSymbolLines_empty]
    rfl
  · rw [Text.lines_of_no_boundary h hnone]

/-- The labels on the lines of a symbol file are added in order.  Generalized
over the table, since every line is read into the table of the lines before
it. -/
theorem tabulates_readSymbolLines {content : Text} (h : SymbolText ls content)
    (ht : t.names.Nodup) (notices : List Notice) :
    Tabulates (t.entries ++ ls.map entry)
      (readSymbolLines file (Text.lines (Text.unifyNewlines content)) t notices).1 := by
  induction h generalizing t with
  | @last label line hline =>
      rw [readSymbolLines_last hline.no_boundary, ← List.append_nil label.toList]
      apply tabulates_line hline ht
      intro t' ht'
      rw [List.map_nil, List.append_nil]
      exact tabulates_ok ht'
  | @line label ls line ending rest hline hending _ ih =>
      obtain ⟨rows, hlines, hrows⟩ := Text.exists_lines_append hline.no_boundary hending rest
      rw [hlines]
      apply tabulates_line hline ht
      intro t' ht'
      have hrest := ih ht'
      rcases hrows with hrows | hrows
      · rwa [hrows] at hrest
      · rwa [hrows, readSymbolLines_empty] at hrest

/-! ### All ways -/

/-- A file that can be loaded is a symbol file with some labels. -/
def HoldsLabels (d : Disk) (ls : List GivenLabel) (file : Path) : Prop :=
  ∃ content, SymbolText ls content ∧ d.load file = .ok (Text.Utf8.encode content)

/-- The ways in which a row of labels is loaded: from a mapping of the names
to their values, from a symbol file, or from definitions. -/
inductive Loaded (d : Disk) (ls : List GivenLabel) : Except Failure LabelTable → Prop
  | mapping (hdistinct : (ls.map (·.name)).Nodup) :
      Loaded d ls (LabelTable.empty.extended (ls.map entry))
  | symbols {file : Path} (hfile : HoldsLabels d ls file) :
      Loaded d ls (Command.readSymbols d file).1
  | definitions : Loaded d ls (ofDefinitions (ls.map definition))

/-- The ways in which labels are supplied: loaded as a whole, cut into pieces
that are merged in order, each as soon as it is loaded or once all of them
are, or told to the command in symbol files first and then in definitions. -/
inductive Supplied (d : Disk) : List GivenLabel → Except Failure LabelTable → Prop
  | whole {ls : List GivenLabel} {r : Except Failure LabelTable} (h : Loaded d ls r) :
      Supplied d ls r
  | pieces {parts : List (List GivenLabel)} {rs : List (Except Failure LabelTable)}
      (h : List.Forall₂ (Loaded d) parts rs) :
      Supplied d parts.flatten (collect rs LabelTable.empty)
  | loadedPieces {parts : List (List GivenLabel)} {rs : List (Except Failure LabelTable)}
      (h : List.Forall₂ (Loaded d) parts rs) :
      Supplied d parts.flatten (collectLoaded rs LabelTable.empty)
  | command {parts : List (List GivenLabel)} {rest : List GivenLabel} {o : Order}
      (hfiles : List.Forall₂ (HoldsLabels d) parts o.symbols)
      (hdefinitions : o.definitions = rest.map definition) :
      Supplied d (parts.flatten ++ rest) (Command.readLabels d o).1

/-- The values of a row of labels are words. -/
theorem words_of_labels (ls : List GivenLabel) : ∀ e ∈ ls.map entry, e.2 < wordCount := by
  intro e he
  obtain ⟨l, -, rfl⟩ := List.mem_map.mp he
  exact l.value_lt

theorem nodup_empty : LabelTable.empty.names.Nodup :=
  List.nodup_nil

/-- A symbol file adds the labels that it holds to an empty table, in order. -/
theorem HoldsLabels.tabulates (h : HoldsLabels d ls file) :
    Tabulates (ls.map entry) (Command.readSymbols d file).1 := by
  obtain ⟨content, hcontent, hload⟩ := h
  have htext : d.loadText file = .ok (Text.unifyNewlines content) := by
    rw [Disk.loadText, hload]
    exact Text.textOfOctets_encode_unified content
  rw [Command.readSymbols, htext]
  exact tabulates_readSymbolLines hcontent nodup_empty []

/-- However a row of labels is loaded, they are added to an empty table in
order. -/
theorem Loaded.tabulates (h : Loaded d ls r) : Tabulates (ls.map entry) r := by
  cases h with
  | mapping _ => exact tabulates_extended nodup_empty (words_of_labels ls)
  | symbols hfile => exact hfile.tabulates
  | definitions => exact tabulates_readDefinitions ls nodup_empty

/-- The values of labels in pieces are words. -/
theorem words_of_parts (parts : List (List GivenLabel)) :
    ∀ e ∈ (parts.map (·.map entry)).flatten, e.2 < wordCount := by
  rw [← List.map_flatten]
  exact words_of_labels parts.flatten

/-- Each piece of labels is loaded on its own. -/
theorem Loaded.tabulates_parts {parts : List (List GivenLabel)}
    {rs : List (Except Failure LabelTable)} (h : List.Forall₂ (Loaded d) parts rs) :
    List.Forall₂ Tabulates (parts.map (·.map entry)) rs :=
  List.forall₂_map_left_iff.mpr (h.imp fun _ _ => Loaded.tabulates)

/-- However labels are supplied, they are added to an empty table in order:
pieces that are merged add up to the whole. -/
theorem Supplied.tabulates (h : Supplied d ls r) : Tabulates (ls.map entry) r := by
  cases h with
  | whole h => exact h.tabulates
  | @pieces parts rs h =>
      rw [List.map_flatten]
      exact tabulates_collect (Loaded.tabulates_parts h) nodup_empty (words_of_parts parts)
  | @loadedPieces parts rs h =>
      rw [List.map_flatten]
      exact tabulates_collectLoaded (Loaded.tabulates_parts h) nodup_empty (words_of_parts parts)
  | @command parts rest o hfiles hdefinitions =>
      have hsymbols : List.Forall₂ Tabulates (parts.map (·.map entry))
          (o.symbols.map fun file => (Command.readSymbols d file).1) :=
        List.forall₂_map_left_iff.mpr
          (List.forall₂_map_right_iff.mpr (hfiles.imp fun _ _ => HoldsLabels.tabulates))
      have hrest : Tabulates (rest.map entry) (ofDefinitions o.definitions) :=
        hdefinitions ▸ tabulates_readDefinitions rest nodup_empty
      have hwords := words_of_parts (parts ++ [rest])
      have hall := List.rel_append hsymbols (List.Forall₂.cons hrest .nil)
      have hparts : (parts.flatten ++ rest).map entry =
          (parts.map (·.map entry) ++ [rest.map entry]).flatten := by
        simp [List.map_flatten]
      rw [List.map_append] at hwords
      rw [Command.readLabels_eq, hparts]
      exact tabulates_collect hall nodup_empty hwords

/-- **All ways of supplying labels agree.**  Where the names are distinct,
every way gives the table of the labels in their order, with the words that
their literals are read as.  Where a name stands twice, every way refuses such
a name.  A merge is refused just for a name that is taken, and has then added
what stands in front of the first one. -/
theorem supplies_agree (d : Disk) (ls : List GivenLabel) :
    (∀ r, Supplied d ls r → (ls.map (·.name)).Nodup → r = .ok ⟨ls.map entry⟩) ∧
    (∀ l ∈ ls, l.value < wordCount) ∧
    (∀ r, Supplied d ls r → ¬ (ls.map (·.name)).Nodup →
      ∃ name, (ls.map (·.name)).Duplicate name ∧ r = .error (duplicate name .assembly)) ∧
    ∀ t other : LabelTable, other.Assembled →
      (∀ before name, Clash t other before name →
        t.merge other = (.error (duplicate name .assembly), ⟨t.entries ++ before⟩)) ∧
      ∀ f t', t.merge other = (.error f, t') → ∃ before name, Clash t other before name := by
  have hnames : (ls.map entry).map (·.1) = ls.map (·.name) := List.map_map
  refine ⟨fun r h hdistinct => ?_, fun l _ => l.value_lt, fun r h hrepeated => ?_, ?_⟩
  · exact h.tabulates.distinct (hnames ▸ hdistinct)
  · rw [← hnames] at hrepeated ⊢
    exact h.tabulates.repeated hrepeated
  · intro t other hother
    exact ⟨fun before name h => h.merge hother, fun f t' h => exists_clash_of_merge hother h⟩

/-- A remark, a gap and a return on the lines of a symbol file, a value that
is wrapped in a definition, a name that two pieces have, and a merge that
stops at it. -/
theorem supplies_agree_wrapped :
    ∃ (d : Disk) (file : Path) (a b : GivenLabel),
      (a.definition = "a=$10".toList ∧ b.definition = "b=-1".toList) ∧
      d.read file = .ok (Text.Utf8.encode "# labels\r\n\ta  $10 #\r".toList) ∧
      collect [(Command.readSymbols d file).1, ofDefinitions ["b=-1".toList]] empty =
        .ok ⟨[("a".toList, 16), ("b".toList, 0xFFFFFFFFFFFFFFFF)]⟩ ∧
      (∀ l ∈ [a, b], l.value < wordCount) ∧
      (∃ name, ["a".toList, "b".toList, "a".toList].Duplicate name ∧
        collect [(Command.readSymbols d file).1, ofDefinitions ["b=-1".toList, "a=$10".toList]]
          empty = .error (duplicate name .assembly)) ∧
      merge ⟨[("a".toList, 16)]⟩ ⟨[("b".toList, 1), ("a".toList, 2)]⟩ =
        (.error (duplicate "a".toList .assembly), ⟨[("a".toList, 16), ("b".toList, 1)]⟩) ∧
      ∃ before name,
        Clash ⟨[("a".toList, 16)]⟩ ⟨[("b".toList, 1), ("a".toList, 2)]⟩ before name := by
  have hplain {t : Text} {p : Char → Bool} (h : t.all (fun c => !p c) = true) :
      ∀ c ∈ t, p c = false := by simpa using h
  let file : Path := ⟨[], ["t".toList]⟩
  let d := Disk.empty.withFile file (Text.Utf8.encode "# labels\r\n\ta  $10 #\r".toList)
  let a : GivenLabel := ⟨['a'], "$10".toList, 16, List.cons_ne_nil _ _,
    List.forall_mem_singleton.mpr (by decide), hplain (by decide), by decide⟩
  let b : GivenLabel := ⟨['b'], "-1".toList, 0xFFFFFFFFFFFFFFFF, List.cons_ne_nil _ _,
    List.forall_mem_singleton.mpr (by decide), hplain (by decide), by decide⟩
  have hread : d.read file = .ok (Text.Utf8.encode "# labels\r\n\ta  $10 #\r".toList) := by
    decide +kernel
  have hload : d.load file = .ok (Text.Utf8.encode "# labels\r\n\ta  $10 #\r".toList) := by
    rw [Disk.load, hread]
    rfl
  have hcontent : SymbolText [a] "# labels\r\n\ta  $10 #\r".toList := by
    have hspaces (n : Nat) : IsGap (List.replicate n ' ') := by
      intro c hc
      obtain rfl := List.eq_of_mem_replicate hc
      decide
    have hremark : SymbolLine none "# labels".toList :=
      @SymbolLine.bare [] "# labels".toList nofun (.comment (hplain (by decide)))
    have hlabel : SymbolLine (some a) "\ta  $10 #".toList :=
      @SymbolLine.label a ['\t'] [' ', ' '] [' '] ['#'] (List.forall_mem_singleton.mpr (by decide))
        (hspaces 2) (List.cons_ne_nil _ _) (hspaces 1) (.comment nofun)
    have hnothing : SymbolLine none [] := @SymbolLine.bare [] [] nofun .none
    exact .line hremark .pair (.line hlabel (.boundary rfl) (.last hnothing))
  have hpiece : Loaded d [a] (Command.readSymbols d file).1 := .symbols ⟨_, hcontent, hload⟩
  have hdistinct : Supplied d [a, b]
      (collect [(Command.readSymbols d file).1, ofDefinitions ["b=-1".toList]] empty) :=
    @Supplied.pieces d [[a], [b]] _ (.cons hpiece (.cons .definitions .nil))
  have hrepeated : Supplied d [a, b, a]
      (collect [(Command.readSymbols d file).1, ofDefinitions ["b=-1".toList, "a=$10".toList]]
        empty) :=
    @Supplied.pieces d [[a], [b, a]] _ (.cons hpiece (.cons .definitions .nil))
  have hother : Assembled ⟨[("b".toList, 1), ("a".toList, 2)]⟩ :=
    @Assembled.add _ _ "a".toList 2 (@Assembled.add _ _ "b".toList 1 .empty rfl) rfl
  have hclash : Clash ⟨[("a".toList, 16)]⟩ ⟨[("b".toList, 1), ("a".toList, 2)]⟩
      [("b".toList, 1)] "a".toList :=
    ⟨⟨2, [], rfl⟩, List.forall_mem_singleton.mpr (by decide), List.mem_cons_self⟩
  have hnames : [['a'], ['b']].Nodup := by decide
  have htwice : ¬ [['a'], ['b'], ['a']].Nodup := by decide
  obtain ⟨hall, hvalues, -, hmerges⟩ := supplies_agree d [a, b]
  obtain ⟨hstops, hfails⟩ := hmerges ⟨[("a".toList, 16)]⟩ _ hother
  have hmerge := hstops _ _ hclash
  refine ⟨d, file, a, b, ⟨rfl, rfl⟩, hread, hall _ hdistinct hnames, hvalues, ?_, hmerge,
    hfails _ _ hmerge⟩
  exact (supplies_agree d [a, b, a]).2.2.1 _ hrepeated htwice

end LabelTable
end TraceScript
