import TraceScript.Proofs.Expectation.Course
import TraceScript.Proofs.Expectation.Rendering
import TraceScript.Proofs.Script.Marker
import TraceScript.Proofs.Text.Encoding

/-!
# Lines of expected output

What an expected text of a script is expanded to is finished (`Finished`): there is nothing
in it that would be expanded again, cut off as a comment or trimmed, or that would break the
line.  Three things come together.  The text was on one line, in front of any number sign, and
without blanks at its end; what a placeholder shows is made of digits and question marks, and
is never empty; and of the text itself no percent sign is kept (`mem_of_expands`).

So the lines of a file of expected output are what the texts of its section are expanded to,
and are found again where the file is split (`Section.Fills`).
-/

namespace TraceScript

variable {labels : Labels} {t u : Text} {c : Char}

/-! ### Characters of addresses -/

/-- A character that addresses are shown with. -/
def isAddressChar (c : Char) : Bool :=
  isLabelChar c || c == '?'

/-- The digits of any base are characters of addresses. -/
theorem isAddressChar_of_isDigitOf {base : Nat} (h : Text.isDigitOf base c) : isAddressChar c := by
  rw [isAddressChar, isLabelChar_of_isDigitOf h, Bool.true_or]

/-- Such a character is no blank, and starts neither a placeholder nor a
comment. -/
theorem isAddressChar_plain (h : isAddressChar c) :
    c ≠ '%' ∧ c ≠ '#' ∧ Text.isBlank c = false := by
  rcases Bool.or_eq_true_iff.mp h with h | h
  · refine ⟨?_, ?_, isBlank_of_isLabelChar h⟩
    · rintro rfl
      cases h
    · rintro rfl
      cases h
  · obtain rfl := eq_of_beq h
    decide

/-! ### What addresses are shown as -/

namespace AddressFormat

theorem isAddressChar_of_mem_hex {n : Nat} (h : c ∈ Text.hex n) : isAddressChar c :=
  isAddressChar_of_isDigitOf (Text.isDigitOf_of_mem_numeral (by decide) (by decide) h)

/-- The mark in front of an address has only such characters. -/
theorem isAddressChar_of_mem_mark (h : c ∈ "0x".toList) : isAddressChar c := by
  have hmark : ∀ c ∈ "0x".toList, isAddressChar c := List.all_eq_true.mp (by decide)
  exact hmark c h

/-- An address that is written out is made of them, filled up with zeros or
not. -/
theorem isAddressChar_of_mem_written {zeroPad : Bool} {n : Nat}
    (h : c ∈ written zeroPad (n : Int)) : isAddressChar c := by
  rw [written_filled] at h
  rcases List.mem_append.mp h with h | h
  · exact isAddressChar_of_mem_mark h
  · cases zeroPad with
    | false => exact isAddressChar_of_mem_hex h
    | true =>
        rcases List.mem_append.mp h with h | h
        · obtain rfl := List.eq_of_mem_replicate h
          rfl
        · exact isAddressChar_of_mem_hex h

/-- So is an address whose upper digits are masked. -/
theorem isAddressChar_of_mem_masked {width n : Nat} (h : c ∈ masked width (n : Int)) :
    isAddressChar c := by
  rw [masked, lowDigits_natCast] at h
  rcases List.mem_append.mp h with h | h
  · rcases List.mem_append.mp h with h | h
    · exact isAddressChar_of_mem_mark h
    · obtain rfl := List.eq_of_mem_replicate h
      rfl
  · exact isAddressChar_of_isDigitOf (Text.isDigitOf_of_mem_lastDigits h)

/-- What a width keeps of an address is not less than zero. -/
theorem exists_keep (width : Option Nat) (n : Nat) : ∃ kept : Nat, keep width (n : Int) = kept := by
  cases width with
  | none => exact ⟨n, rfl⟩
  | some size => exact ⟨n % octetRange size, by simp [keep]⟩

/-- However an address is shown, it is shown with these characters. -/
theorem isAddressChar_of_mem_render {f : AddressFormat} {origin : LabelOrigin} {n : Nat}
    (h : c ∈ f.render origin (n : Int)) : isAddressChar c := by
  cases origin with
  | directive => exact isAddressChar_of_mem_written h
  | assembly =>
      obtain ⟨kept, hkept⟩ := exists_keep f.width n
      simp only [render, hkept] at h
      split at h
      · exact isAddressChar_of_mem_masked h
      · exact isAddressChar_of_mem_written h

/-- What stands behind a mark is not empty. -/
theorem mark_append_ne_nil (digits : Text) : "0x".toList ++ digits ≠ [] :=
  List.append_ne_nil_of_left_ne_nil (List.cons_ne_nil '0' ['x']) digits

/-- However an address is shown, it is not shown as nothing: the mark at least
is there. -/
theorem render_ne_nil (f : AddressFormat) (origin : LabelOrigin) (address : Int) :
    f.render origin address ≠ [] := by
  cases origin with
  | directive => exact mark_append_ne_nil _
  | assembly =>
      simp only [render]
      split
      · rw [masked, List.append_assoc]
        exact mark_append_ne_nil _
      · exact mark_append_ne_nil _

end AddressFormat

/-- A placeholder is shown as a row of such characters. -/
theorem Shows.row {p : Placeholder} {rest shown : Text} (h : Shows labels p rest shown) :
    Text.IsRow isAddressChar shown := by
  cases h with
  | intro => exact ⟨AddressFormat.render_ne_nil _ _ _,
      fun c => AddressFormat.isAddressChar_of_mem_render⟩

/-! ### Finished lines -/

/-- A line that is left as it is: nothing in it is expanded, or taken for a
comment, or trimmed, and it is one line. -/
structure Finished (u : Text) : Prop where
  whole : '%' ∉ u
  uncommented : '#' ∉ u
  unbroken : ∀ c ∈ u, Text.isLineBoundary c = false
  trimmed : Text.trimEnd u = u

/-- A finished line has no placeholder, so it is expanded to itself under any
labels. -/
theorem Finished.expand (h : Finished u) (others : Labels) : TraceScript.expand others u = .ok u :=
  expand_of_cutAt_none others (Text.cutAt_eq_none_iff.mpr h.whole)

/-- What a text is expanded to is made of characters of the text, percent
signs apart, and of addresses. -/
theorem mem_of_expands (h : Expands labels t u) (hc : c ∈ u) :
    (c ∈ t ∧ c ≠ '%') ∨ isAddressChar c := by
  induction h with
  | plain hplain => exact .inl ⟨hc, fun hpercent => hplain (hpercent ▸ hc)⟩
  | placeholder hbefore hshown hrest ih =>
      rcases List.mem_append.mp hc with hc | hc
      · rcases List.mem_append.mp hc with hc | hc
        · refine .inl ⟨List.mem_append_left _ (List.mem_append_left _ hc), fun hpercent => ?_⟩
          exact hbefore (hpercent ▸ hc)
        · exact .inr (hshown.row.2 c hc)
      · obtain ⟨hmem, hne⟩ | haddress := ih hc
        · exact .inl ⟨List.mem_append_right _ hmem, hne⟩
        · exact .inr haddress

/-- The end of a text is kept, or an address is shown there: no blank comes to
be at the end. -/
theorem last_of_expands (h : Expands labels t u)
    (hlast : t.getLast?.all (fun c => !Text.isBlank c)) :
    u.getLast?.all (fun c => !Text.isBlank c) := by
  induction h with
  | plain => exact hlast
  | @placeholder before rest shown more p hbefore hshown hrest ih =>
      obtain ⟨hne, hrow⟩ := hshown.row
      have hmore := ih (Text.last_of_suffix (List.suffix_append _ rest) hlast)
      apply Text.last_append hmore
      intro _
      apply Text.last_append
      · cases hend : shown.getLast? with
        | none => rfl
        | some c =>
            obtain ⟨-, -, hblank⟩ := isAddressChar_plain (hrow c (List.mem_of_getLast? hend))
            simp [hblank]
      · exact fun hempty => absurd hempty hne

/-- A text is finished once it is expanded, if it was but for its
placeholders. -/
theorem finished_of_expands (h : Expands labels t u) (huncommented : '#' ∉ t)
    (hunbroken : ∀ c ∈ t, Text.isLineBoundary c = false)
    (hlast : t.getLast?.all (fun c => !Text.isBlank c)) : Finished u := by
  constructor
  · intro hpercent
    obtain ⟨-, hne⟩ | haddress := mem_of_expands h hpercent
    · exact hne rfl
    · exact (isAddressChar_plain haddress).1 rfl
  · intro hcomment
    obtain ⟨hmem, -⟩ | haddress := mem_of_expands h hcomment
    · exact huncommented hmem
    · exact (isAddressChar_plain haddress).2.1 rfl
  · intro c hc
    obtain ⟨hmem, -⟩ | haddress := mem_of_expands h hc
    · exact hunbroken c hmem
    · exact Text.isLineBoundary_of_not_isBlank (isAddressChar_plain haddress).2.2
  · exact Text.trimEnd_eq_self (last_of_expands h hlast)

/-! ### Expected texts -/

/-- An expected text stands in front of any number sign, and ends with no
blank. -/
theorem parts_of_annotation? {line : Text} (h : annotation? line = some t) :
    '#' ∉ t ∧ t.getLast?.all (fun c => !Text.isBlank c) := by
  obtain ⟨⟨before, comment⟩, -, rfl⟩ := Option.map_eq_some_iff.mp h
  obtain ⟨after, hparts, -, hlast⟩ := Text.exists_trimEnd_parts (comment.takeWhile (· != '#'))
  refine ⟨fun hmem => ?_, hlast⟩
  have hfront := (Text.trimEnd_isPrefix _).subset hmem
  exact absurd (List.mem_takeWhile_imp hfront) (by decide)

namespace Script

variable {filename root text : Text} {line : ScriptLine}

theorem unbroken_of_mem_lines (h : line ∈ (ofText filename root text).lines) :
    ∀ c ∈ line.text, Text.isLineBoundary c = false := by
  obtain ⟨number, v, hv, rfl⟩ := exists_of_mem_numberLines h
  rw [ScriptLine.text_ofText]
  exact Text.not_boundary_of_mem_lines hv

/-- What an expected text of a script is expanded to is finished. -/
theorem finished_of_mem_lines (h : line ∈ (ofText filename root text).lines)
    (ht : annotation? line.text = some t) (hu : expand labels t = .ok u) : Finished u := by
  obtain ⟨huncommented, hlast⟩ := parts_of_annotation? ht
  refine finished_of_expands (expand_eq_ok_iff.mp hu) huncommented ?_ hlast
  intro c hc
  exact unbroken_of_mem_lines h c ((infix_of_annotation? ht).subset hc)

/-- The lines of a section are lines of the script.  A section has the lines
up to the next checkpoint, and all of them stand behind its own. -/
theorem mem_of_mem_sectionsOf {script : Script} {lines : List ScriptLine} {s : Section}
    (hs : s ∈ script.sectionsOf lines) (h : line ∈ s.lines) : line ∈ lines := by
  induction lines with
  | nil => cases hs
  | cons first rest ih =>
      rw [sectionsOf] at hs
      cases hfirst : script.checkpoint? first with
      | none =>
          rw [hfirst] at hs
          exact List.mem_cons_of_mem first (ih hs)
      | some path =>
          rw [hfirst] at hs
          rcases List.mem_cons.mp hs with rfl | hs
          · exact List.mem_cons_of_mem first ((List.takeWhile_prefix _).subset h)
          · exact List.mem_cons_of_mem first (ih hs)

/-- An expected text of a section is that of a line. -/
theorem exists_line_of_annotations {script : Script} {s : Section}
    (hs : s ∈ script.sectionsOf script.lines) (h : t ∈ s.annotations) :
    ∃ line ∈ script.lines, annotation? line.text = some t := by
  obtain ⟨line, hline, hexpected⟩ := List.mem_filterMap.mp h
  refine ⟨line, mem_of_mem_sectionsOf hs hline, ?_⟩
  unfold ScriptLine.expected? at hexpected
  split at hexpected
  · cases hexpected
  · exact hexpected

end Script

/-! ### Files -/

/-- A file holds a section: one line for each expected text of the section,
which is what that is expanded to, and nothing else. -/
structure Section.Fills (s : Section) (labels : Labels) (content : Text) (shown : List Text) :
    Prop where
  expanded : List.Forall₂ (fun t u => expand labels t = .ok u) s.annotations shown
  content_eq : content = Text.terminated shown
  newlines : content.count '\n' = s.annotations.length
  split : content.splitOn '\n' = shown ++ [[]]
  lines : Text.lines content = shown

/-- What holds of all that one row is related to holds of the other row. -/
theorem forall_of_forall₂ {α β : Type} {R : α → β → Prop} {P : β → Prop} {as : List α}
    {bs : List β} (h : List.Forall₂ R as bs) (hP : ∀ a ∈ as, ∀ b, R a b → P b) :
    ∀ b ∈ bs, P b := by
  induction h with
  | nil => nofun
  | cons hab _ ih =>
      rw [List.forall_mem_cons]
      exact ⟨hP _ List.mem_cons_self _ hab, ih fun a ha => hP a (List.mem_cons_of_mem _ ha)⟩

section Fills

variable {filename root text : Text} {s : Section}

/-- The octets that a section of a script stands for are a text that the
section fills. -/
theorem Section.Spells.exists_fills {octets : Octets} (h : s.Spells labels octets)
    (hs : s ∈
      (Script.ofText filename root text).sectionsOf (Script.ofText filename root text).lines) :
    ∃ content shown, textOfOctets octets = .ok content ∧ s.Fills labels content shown := by
  obtain ⟨shown, hshown, rfl⟩ := h
  have hfinished : ∀ u ∈ shown, Finished u := by
    refine forall_of_forall₂ hshown fun t ht u hu => ?_
    obtain ⟨line, hline, hannotation⟩ := Script.exists_line_of_annotations hs ht
    exact Script.finished_of_mem_lines hline hannotation hu
  have hunbroken : ∀ u ∈ shown, ∀ c ∈ u, Text.isLineBoundary c = false := fun u hu =>
    (hfinished u hu).unbroken
  have hnewline : ∀ u ∈ shown, '\n' ∉ u := fun u hu hmem =>
    absurd (hunbroken u hu _ hmem) (by decide)
  have hreturn : '\r' ∉ Text.terminated shown := by
    intro hmem
    obtain ⟨u, hu, hmem⟩ := List.mem_flatMap.mp hmem
    rcases List.mem_append.mp hmem with hmem | hmem
    · exact absurd (hunbroken u hu _ hmem) (by decide)
    · exact absurd (List.mem_singleton.mp hmem) (by decide)
  refine ⟨Text.terminated shown, shown, ?_, hshown, rfl, ?_, Text.splitOn_terminated hnewline,
    Text.lines_terminated hunbroken⟩
  · rw [← Text.encode_terminated]
    exact Text.textOfOctets_encode hreturn
  · rw [Text.count_terminated hnewline, hshown.length_eq]

end Fills

namespace Writer

variable {disk : Disk} {script : Script} {files : List Path} {w : Writer} {p : Path}

/-- A file that a run has written is at a place, and holds what the last
section of that place stands for. -/
theorem exists_section_of_run (hrun : run disk script labels = (.ok files, w)) (hp : p ∈ files) :
    ∃ key before s after octets, disk.reach p = .ok key ∧
      script.sectionsOf script.lines = before ++ s :: after ∧ disk.reach s.path = .ok key ∧
      (∀ later ∈ after, disk.reach later.path ≠ .ok key) ∧
      s.Spells labels octets ∧ w.disk.read p = .ok octets := by
  obtain ⟨hw, rfl⟩ := between_of_run hrun
  rw [hw.written] at hp
  obtain ⟨own, hown, rfl⟩ := List.mem_map.mp (List.mem_dedup.mp hp)
  obtain ⟨key, hkey⟩ := hw.reached own hown
  have hstored := hw.stored key
  rw [Stored] at hstored
  cases hat : sectionAt disk (script.sectionsOf script.lines) key with
  | none =>
      have hnone := List.find?_eq_none.mp hat own (List.mem_reverse.mpr hown)
      exact absurd hkey (by simpa using hnone)
  | some s =>
      rw [hat] at hstored
      obtain ⟨octets, hspells, hcontent⟩ := hstored
      obtain ⟨hplace, later, earlier, hsections, hlater⟩ := List.find?_eq_some_iff_append.mp hat
      have hread := Disk.read_eq_ok (Disk.reach_of_directories hw.directories hkey) hcontent
      refine ⟨key, earlier.reverse, s, later.reverse, octets, hkey, ?_, by simpa using hplace, ?_,
        hspells, hread⟩
      · rw [← List.reverse_reverse (script.sectionsOf script.lines), hsections]
        simp
      · intro other hother
        simpa using hlater other (List.mem_reverse.mp hother)

/-- **Expected output is finished.**  What an expected text of a script is
expanded to holds no placeholder, no comment and no boundary, ends with no
blank, and is expanded to itself whatever the labels are.  So each file of a
run that succeeds is read as one line for each expected text of its section,
the last that was written to its place, and splitting it gives back what these
are expanded to. -/
theorem run_finished (filename root text : Text) (labels : Labels) :
    let script := Script.ofText filename root text
    (∀ line ∈ script.lines, ∀ t u, annotation? line.text = some t → expand labels t = .ok u →
      Finished u ∧ ∀ others, expand others u = .ok u) ∧
    ∀ disk files w, run disk script labels = (.ok files, w) → ∀ p ∈ files,
      ∃ key before s after content shown, disk.reach p = .ok key ∧
        script.sectionsOf script.lines = before ++ s :: after ∧ disk.reach s.path = .ok key ∧
        (∀ later ∈ after, disk.reach later.path ≠ .ok key) ∧
        w.disk.readText p = .ok content ∧ s.Fills labels content shown := by
  intro script
  constructor
  · intro line hline t u ht hu
    have hfinished : Finished u := Script.finished_of_mem_lines hline ht hu
    exact ⟨hfinished, hfinished.expand⟩
  · intro disk files w hrun p hp
    obtain ⟨key, before, s, after, octets, hkey, hsections, hplace, hlater, hspells, hread⟩ :=
      exists_section_of_run hrun hp
    have hs : s ∈ script.sectionsOf script.lines := by
      rw [hsections]
      exact List.mem_append_right before List.mem_cons_self
    obtain ⟨content, shown, htext, hfills⟩ := hspells.exists_fills hs
    refine ⟨key, before, s, after, content, shown, hkey, hsections, hplace, hlater, ?_, hfills⟩
    rw [Disk.readText, hread]
    exact htext

/-- A text that ends with a placeholder in front of a comment, one of blanks
only, and one that is followed by blanks. -/
theorem run_finished_three_lines :
    let text := "; @pt .exp(a)\n; x %?l.2 # %l\n;\u00a0\n; plain %p\u2003\n".toList
    let script := Script.ofText "t.asm".toList "t".toList text
    let line := ScriptLine.ofText "t.asm".toList 2 "; x %?l.2 # %l".toList
    let shown := " x 0x????????????1234".toList
    let labels : Labels := ⟨⟨[("l".toList, 0x551234)]⟩, ⟨[("p".toList, 7)]⟩⟩
    let a := Path.ofText "t-a.exp".toList
    (line ∈ script.lines ∧ annotation? line.text = some " x %?l.2".toList ∧
      expand labels " x %?l.2".toList = .ok shown) ∧
    (Finished shown ∧ expand ⟨.empty, .empty⟩ shown = .ok shown) ∧
    ∃ w content, run Disk.empty script labels = (.ok [a], w) ∧ w.disk.readText a = .ok content ∧
      content.count '\n' = 3 ∧ (Text.lines content).length = 3 := by
  intro text script line shown labels a
  obtain ⟨hstable, hfiles⟩ :=
    run_finished "t.asm".toList "t".toList text labels
  have hline : line ∈ script.lines := by decide +kernel
  have hannotation : annotation? line.text = some " x %?l.2".toList := by decide +kernel
  have hshown : expand labels " x %?l.2".toList = .ok shown := by decide +kernel
  obtain ⟨hfinished, hagain⟩ := hstable line hline _ _ hannotation hshown
  have hanswer : (run Disk.empty script labels).1 = .ok [a] := by decide +kernel
  have hrun : run Disk.empty script labels = (.ok [a], (run Disk.empty script labels).2) :=
    Prod.ext hanswer rfl
  obtain ⟨key, before, s, after, content, rows, -, hsections, -, -, hread, hfills⟩ :=
    hfiles Disk.empty [a] _ hrun a (List.mem_singleton_self a)
  -- there is one section, with three texts
  have hone : script.sectionsOf script.lines = [⟨a, script.lines.tail⟩] := by rfl
  have hs : s ∈ [(⟨a, script.lines.tail⟩ : Section)] := by
    rw [← hone, hsections]
    exact List.mem_append_right before List.mem_cons_self
  obtain rfl := List.mem_singleton.mp hs
  have hthree : (Section.annotations ⟨a, script.lines.tail⟩).length = 3 := by decide +kernel
  refine ⟨⟨hline, hannotation, hshown⟩, ⟨hfinished, hagain _⟩, _, content, hrun, hread, ?_, ?_⟩
  · rw [hfills.newlines, hthree]
  · rw [hfills.lines, ← hfills.expanded.length_eq, hthree]

end Writer
end TraceScript
