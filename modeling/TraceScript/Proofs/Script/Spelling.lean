import TraceScript.Proofs.Script.Character
import TraceScript.Proofs.Script.Marker

/-!
# Directives as they are written

A directive stands behind the marker of a line's comment: a label with its colon or none,
a name, and a payload in parentheses or behind blanks (`WrittenLine`).  Each part is
written so that the next does not go on with it.  A label ends where no label character
follows, and only a colon makes it one; a name ends where no name character follows; and
whatever the payload holds, its own parentheses are inside the outermost.

So the line gives back its parts (`split_written`): the first semicolon is that of the
comment, the first colon behind a row of label characters is that of the label, and the
last parenthesis is that of the payload.
-/

namespace TraceScript

open Text (Tight)

variable {name before inner after rest : Text}

/-! ### Written parts -/

/-- A label with its colon and the blanks around that. -/
structure WrittenLabel where
  name : Text
  beforeColon : Text
  afterColon : Text
  name_ne : name ≠ []
  chars : ∀ c ∈ name, isLabelChar c
  beforeColon_blank : ∀ c ∈ beforeColon, isAsciiBlank c
  afterColon_blank : ∀ c ∈ afterColon, Text.isBlank c

/-- A payload in parentheses, or behind blanks.  Bare it must not look like
one in parentheses. -/
inductive WrittenPayload
  | enclosed (before payload after : Text) (before_blank : ∀ c ∈ before, Text.isBlank c)
      (after_blank : ∀ c ∈ after, Text.isBlank c)
  | bare (before payload : Text) (before_blank : ∀ c ∈ before, Text.isBlank c)
      (before_ne : before ≠ []) (payload_ne : Text.trim payload ≠ [])
      (unopened : (Text.trim payload).head? ≠ some '(')

namespace WrittenPayload

/-- The payload alone. -/
def payload : WrittenPayload → Text
  | enclosed _ payload _ _ _ => payload
  | bare _ payload _ _ _ _ => payload

/-- A payload as it is written behind the name. -/
def text : WrittenPayload → Text
  | enclosed before payload after _ _ => before ++ ('(' :: (payload ++ [')']) ++ after)
  | bare before payload _ _ _ _ => before ++ payload

/-- A bare payload that would make a label of the name in front of it. -/
def Coloned : WrittenPayload → Prop
  | enclosed _ _ _ _ _ => False
  | bare _ payload _ _ _ _ => (Text.trim payload).head? = some ':'

end WrittenPayload

/-- A line with a directive. -/
structure WrittenLine where
  code : Text
  beforeMarker : Text
  afterMarker : Text
  label : Option WrittenLabel
  name : Text
  payload : WrittenPayload
  code_plain : ';' ∉ code
  beforeMarker_blank : ∀ c ∈ beforeMarker, Text.isBlank c
  afterMarker_blank : ∀ c ∈ afterMarker, Text.isBlank c
  afterMarker_ne : afterMarker ≠ []
  name_ne : name ≠ []
  chars : ∀ c ∈ name, isNameChar c
  uncoloned : label = none → ¬ payload.Coloned

/-- A label as it is written. -/
def WrittenLabel.text (l : WrittenLabel) : Text :=
  l.name ++ (l.beforeColon ++ ':' :: l.afterColon)

namespace WrittenLine

/-- The label as it is written, if there is one. -/
def labelText (l : WrittenLine) : Text :=
  l.label.elim [] (·.text)

/-- The line up to the directive. -/
def front (l : WrittenLine) : Text :=
  l.code ++ ';' :: (l.beforeMarker ++ ("@pt".toList ++ l.afterMarker))

/-- The directive, from its label or else its name on. -/
def body (l : WrittenLine) : Text :=
  l.labelText ++ (l.name ++ l.payload.text)

/-- The line as it is written. -/
def text (l : WrittenLine) : Text :=
  l.front ++ l.body

end WrittenLine

/-! ### Labels -/

namespace Directive

/-- A row of name characters has no blanks in front. -/
theorem dropWhile_isAsciiBlank (hne : name ≠ []) (hname : ∀ c ∈ name, isNameChar c)
    (rest : Text) : (name ++ rest).dropWhile isAsciiBlank = name ++ rest := by
  apply Text.dropWhile_of_head
  apply Text.head?_not_append_of_ne hne
  intro c hc
  exact isAsciiBlank_of_not_isBlank (isBlank_of_isNameChar (hname c hc))

/-- A written label is read up to its colon.  The blanks around the colon end
the label, whatever stands behind them. -/
theorem splitLabel?_written (l : WrittenLabel) (rest : Text) :
    splitLabel? (l.text ++ rest) = some (l.name, l.afterColon ++ rest) := by
  have htext : l.text ++ rest = l.name ++ (l.beforeColon ++ ':' :: (l.afterColon ++ rest)) := by
    simp [WrittenLabel.text]
  have hstart := dropWhile_isAsciiBlank l.name_ne
    (fun c hc => isNameChar_of_isLabelChar (l.chars c hc))
    (l.beforeColon ++ ':' :: (l.afterColon ++ rest))
  have hends : (l.beforeColon ++ ':' :: (l.afterColon ++ rest)).head?.all
      (fun c => !isLabelChar c) := by
    refine Text.head?_not_append (fun c hc => ?_) rfl
    exact isLabelChar_of_isBlank (isBlank_of_isAsciiBlank (l.beforeColon_blank c hc))
  have hcolon : (l.beforeColon ++ ':' :: (l.afterColon ++ rest)).dropWhile isAsciiBlank =
      ':' :: (l.afterColon ++ rest) :=
    Text.dropWhile_append_of_ends l.beforeColon_blank rfl
  simp only [splitLabel?, htext, hstart, Text.takeWhile_append_of_ends l.chars hends,
    Text.dropWhile_append_of_ends l.chars hends, hcolon]
  rw [if_neg (by simp [l.name_ne])]

/-- Blanks in front of a text make no colon.  Only the ASCII ones are skipped
in front of a colon, and a blank of another script ends the skipping. -/
theorem head?_dropWhile_ne (hbefore : ∀ c ∈ before, Text.isBlank c)
    (hfirst : inner.head?.all (fun c => !Text.isBlank c)) (hcolon : inner.head? ≠ some ':') :
    ((before ++ inner).dropWhile isAsciiBlank).head? ≠ some ':' := by
  induction before with
  | nil =>
      have hstart := Text.head?_not_mono (fun c => isAsciiBlank_of_not_isBlank) hfirst
      rwa [List.nil_append, Text.dropWhile_of_head hstart]
  | cons c more ih =>
      rw [List.cons_append, List.dropWhile_cons]
      split
      · exact ih fun d hd => hbefore d (List.mem_cons_of_mem c hd)
      · -- a blank of another script stops the row, and is no colon
        intro hhead
        obtain rfl := Option.some.inj hhead
        exact absurd (hbefore ':' List.mem_cons_self) (by decide)

/-- Past the label characters of a name stands one of its own that is none, or
what follows the name. -/
theorem head?_behind_label_ne (hname : ∀ c ∈ name, isNameChar c)
    (hends : rest.head?.all (fun c => !isNameChar c))
    (hcolon : (rest.dropWhile isAsciiBlank).head? ≠ some ':') :
    (((name ++ rest).dropWhile isLabelChar).dropWhile isAsciiBlank).head? ≠ some ':' := by
  obtain ⟨label, more, rfl, hlongest, hmore⟩ := Text.exists_row isLabelChar name
  have hlabel := hlongest.holds
  rw [List.append_assoc]
  by_cases hempty : more = []
  · have hrest := Text.head?_not_mono (fun c => isLabelChar_of_not_isNameChar) hends
    rwa [hempty, List.nil_append, Text.dropWhile_append_of_ends hlabel hrest]
  · obtain ⟨c, others, rfl⟩ := List.exists_cons_of_ne_nil hempty
    have hchars : ∀ d ∈ c :: others, isNameChar d := fun d hd =>
      hname d (List.mem_append_right label hd)
    have hfirst : (c :: others ++ rest).head?.all (fun d => !isLabelChar d) := hmore
    rw [Text.dropWhile_append_of_ends hlabel hfirst, dropWhile_isAsciiBlank hempty hchars]
    intro hhead
    obtain rfl := Option.some.inj hhead
    exact absurd (hchars ':' List.mem_cons_self) (by decide)

/-- A name makes no label unless a colon follows. -/
theorem splitLabel?_of_name (hne : name ≠ []) (hname : ∀ c ∈ name, isNameChar c)
    (hends : rest.head?.all (fun c => !isNameChar c))
    (hcolon : (rest.dropWhile isAsciiBlank).head? ≠ some ':') :
    splitLabel? (name ++ rest) = none := by
  have hbehind := head?_behind_label_ne hname hends hcolon
  simp only [splitLabel?, dropWhile_isAsciiBlank hne hname]
  split
  · rename_i after hafter
    rw [hafter] at hbehind
    exact absurd rfl hbehind
  · rfl

/-! ### Payloads -/

/-- What a payload is written as between blanks: what follows the name is not
taken for more of it, or for a colon, and it is read as the payload. -/
structure Core (p : WrittenPayload) (before inner after : Text) : Prop where
  text : p.text = before ++ (inner ++ after)
  before_blank : ∀ c ∈ before, Text.isBlank c
  after_blank : ∀ c ∈ after, Text.isBlank c
  tight : Tight inner
  inner_ne : inner ≠ []
  ends : (before ++ inner).head?.all (fun c => !isNameChar c)
  uncoloned : ¬ p.Coloned → inner.head? ≠ some ':'
  read : ∀ name, payloadOf name inner = .ok (Text.trim p.payload)

/-- A parenthesis that opens a payload has to be closed. -/
theorem payloadOf_unclosed (name : Text) (hnone : ')' ∉ inner) :
    payloadOf name ('(' :: inner) = .error (.missingClose name) := by
  have hcut : Text.cutAt ')' inner.reverse = none :=
    Text.cutAt_eq_none_iff.mpr (mt List.mem_reverse.mp hnone)
  simp only [payloadOf, hcut]

/-- The last parenthesis closes a payload, and only blanks may follow it. -/
theorem payloadOf_closed (name payload : Text) (hlast : ')' ∉ after) :
    payloadOf name ('(' :: (payload ++ ')' :: after)) =
      if Text.trim after = [] then .ok (Text.trim payload) else .error (.textAfterClose name) := by
  have hcut : Text.cutAt ')' (payload ++ ')' :: after).reverse =
      some (after.reverse, payload.reverse) := by
    rw [List.reverse_append, List.reverse_cons, List.append_assoc, List.singleton_append]
    exact Text.cutAt_append _ (mt List.mem_reverse.mp hlast)
  simp only [payloadOf, hcut, List.reverse_reverse, List.isEmpty_iff]

/-- The last parenthesis of a payload in parentheses is its own. -/
theorem payloadOf_enclosed (name payload : Text) :
    payloadOf name ('(' :: (payload ++ [')'])) = .ok (Text.trim payload) := by
  rw [payloadOf_closed name payload List.not_mem_nil]
  exact if_pos rfl

/-- Behind a name, what does not start with a parenthesis is the payload as it
stands. -/
theorem payloadOf_bare (name : Text) (hopen : inner.head? ≠ some '(') :
    payloadOf name inner = .ok inner := by
  unfold payloadOf
  split
  · exact absurd rfl hopen
  · rfl

/-- Every payload has a core.  For a payload in parentheses that is the text
from the first to the last of them; for a bare one, the text between its outer
blanks. -/
theorem exists_core (p : WrittenPayload) :
    ∃ before inner after, Core p before inner after := by
  cases p with
  | enclosed before payload after before_blank after_blank =>
      refine ⟨before, '(' :: (payload ++ [')']), after, rfl, before_blank, after_blank, ?_, nofun,
        ?_, fun _ => by simp, fun name => payloadOf_enclosed name payload⟩
      · refine ⟨rfl, ?_⟩
        rw [← List.cons_append, List.getLast?_concat]
        rfl
      · exact Text.head?_not_append (fun c hc => isNameChar_of_isBlank (before_blank c hc)) rfl
  | bare before payload before_blank before_ne payload_ne unopened =>
      obtain ⟨lead, after, hpayload, hlead, hafter, htight⟩ := Text.exists_trim_parts payload
      have hblank : ∀ c ∈ before ++ lead, Text.isBlank c := by
        intro c hc
        rcases List.mem_append.mp hc with hc | hc
        · exact before_blank c hc
        · exact hlead c hc
      refine ⟨before ++ lead, Text.trim payload, after, ?_, hblank, hafter, htight, payload_ne, ?_,
        id, fun name => payloadOf_bare name unopened⟩
      · rw [WrittenPayload.text, List.append_assoc, ← hpayload]
      · apply Text.head?_not_append_of_ne (List.append_ne_nil_of_left_ne_nil before_ne lead)
        intro c hc
        exact isNameChar_of_isBlank (hblank c hc)

/-! ### Directives -/

/-- Behind a label, or from the start where there is none, the name and the
payload are read. -/
theorem split_of_label {p : WrittenPayload} {t : Text} {label : Option Text}
    (hcore : Core p before inner after) (hname : ∀ c ∈ name, isNameChar c)
    (hlabel : splitLabel? t = label.map (·, rest)) (hwhole : label = none → rest = t)
    (hrest : Text.trimStart rest = name ++ (before ++ inner))
    (location : Option Location) (sourceLine : Option Text) :
    split t location sourceLine = .ok ⟨name, Text.trim p.payload, label, location, sourceLine⟩ := by
  have htrim : Text.trim (before ++ (inner ++ [])) = inner :=
    Text.trim_append hcore.before_blank nofun hcore.tight hcore.inner_ne
  rw [List.append_nil] at htrim
  have hread := hcore.read name
  unfold split
  cases label with
  | none =>
      obtain rfl := hwhole rfl
      simp only [hlabel, Option.map_none, hrest, Text.takeWhile_append_of_ends hname hcore.ends,
        Text.dropWhile_append_of_ends hname hcore.ends, htrim, hread]
  | some found =>
      simp only [hlabel, Option.map_some, hrest, Text.takeWhile_append_of_ends hname hcore.ends,
        Text.dropWhile_append_of_ends hname hcore.ends, htrim, hread]

/-- The directive of a written line, without the blanks behind it, is split
into its parts. -/
theorem split_body (l : WrittenLine) (hcore : Core l.payload before inner after)
    (location : Option Location) (sourceLine : Option Text) :
    split (l.labelText ++ (l.name ++ (before ++ inner))) location sourceLine =
      .ok ⟨l.name, Text.trim l.payload.payload, l.label.map (·.name), location, sourceLine⟩ := by
  have hfirst : (l.name ++ (before ++ inner)).head?.all (fun c => !Text.isBlank c) := by
    apply Text.head?_not_append_of_ne l.name_ne
    intro c hc
    exact isBlank_of_isNameChar (l.chars c hc)
  obtain hnone | ⟨label, hsome⟩ := Option.eq_none_or_eq_some l.label
  · have hcolon := head?_dropWhile_ne hcore.before_blank hcore.tight.first
      (hcore.uncoloned (l.uncoloned hnone))
    have hlabel : splitLabel? (l.name ++ (before ++ inner)) = none :=
      splitLabel?_of_name l.name_ne l.chars hcore.ends hcolon
    rw [WrittenLine.labelText, hnone]
    exact split_of_label hcore l.chars hlabel (fun _ => rfl) (Text.dropWhile_of_head hfirst)
      location sourceLine
  · have hlabel : splitLabel? (label.text ++ (l.name ++ (before ++ inner))) =
        (some label.name).map (·, label.afterColon ++ (l.name ++ (before ++ inner))) :=
      splitLabel?_written label _
    rw [WrittenLine.labelText, hsome]
    exact split_of_label hcore l.chars hlabel nofun
      (Text.trimStart_append label.afterColon_blank hfirst) location sourceLine

end Directive

/-! ### Lines -/

namespace WrittenLine

variable (l : WrittenLine)

/-- A directive starts with the first character of its label, or of its name. -/
theorem head?_labelText_append (rest : Text) :
    (l.labelText ++ (l.name ++ rest)).head?.all (fun c => !Text.isBlank c) := by
  unfold labelText
  cases l.label with
  | none =>
      apply Text.head?_not_append_of_ne l.name_ne
      intro c hc
      exact isBlank_of_isNameChar (l.chars c hc)
  | some label =>
      simp only [Option.elim_some, WrittenLabel.text, List.append_assoc]
      apply Text.head?_not_append_of_ne label.name_ne
      intro c hc
      exact isBlank_of_isLabelChar (label.chars c hc)

/-- Behind the marker stands the directive, between blanks. -/
theorem afterMarker?_written :
    Marked.afterMarker? (l.beforeMarker ++ ("@pt".toList ++ (l.afterMarker ++ l.body))) =
      some (l.afterMarker ++ l.body) := by
  have hblank : (l.afterMarker ++ l.body).head?.all Text.isBlank :=
    Text.head?_all_append l.afterMarker_ne l.afterMarker_blank l.body
  exact Marked.afterMarker?_eq_some_iff.mpr ⟨l.beforeMarker, rfl, l.beforeMarker_blank, hblank⟩

/-- The directive is found where it starts, without the blanks around it.  The
column counts all that stands in front of it, the marker included. -/
theorem find?_written {before inner after : Text}
    (hcore : Directive.Core l.payload before inner after) :
    Marked.find? l.text =
      some ⟨l.labelText ++ (l.name ++ (before ++ inner)), l.front.length + 1⟩ := by
  have hcut : Text.cutAt ';' l.text =
      some (l.code, l.beforeMarker ++ ("@pt".toList ++ (l.afterMarker ++ l.body))) := by
    rw [text, front]
    simp only [List.append_assoc, List.cons_append]
    exact Text.cutAt_append _ l.code_plain
  have hstart : Text.trimStart (l.afterMarker ++ l.body) = l.body :=
    Text.trimStart_append l.afterMarker_blank (l.head?_labelText_append l.payload.text)
  have hbody : l.body = (l.labelText ++ (l.name ++ (before ++ inner))) ++ after := by
    rw [body, hcore.text]
    simp only [List.append_assoc]
  have hne : l.labelText ++ (l.name ++ (before ++ inner)) ≠ [] := by
    simp [l.name_ne]
  have htrim : Text.trim (l.afterMarker ++ l.body) =
      l.labelText ++ (l.name ++ (before ++ inner)) := by
    rw [hbody]
    refine Text.trim_append l.afterMarker_blank hcore.after_blank ⟨?_, ?_⟩ hne
    · exact l.head?_labelText_append (before ++ inner)
    · have hlast :=
        List.getLast?_append_of_ne_nil (l.labelText ++ (l.name ++ before)) hcore.inner_ne
      rw [List.append_assoc, List.append_assoc] at hlast
      rw [hlast]
      exact hcore.tight.last
  have hcolumn : l.text.length - l.body.length = l.front.length := by
    rw [text, List.length_append, Nat.add_sub_cancel]
  simp only [Marked.find?, hcut, l.afterMarker?_written, Option.map_some, htrim, hstart, hcolumn]
  rw [if_neg (by simpa using hne)]

end WrittenLine

/-- **A written directive is read back.**  Whatever code stands before the
comment, and whatever the payload holds, the directive of the line is found at
its first character and split into the label, the name and the payload that it
was written with, the blanks around the payload apart. -/
theorem split_written (l : WrittenLine) (location : Option Location) (sourceLine : Option Text) :
    ∃ m, Marked.find? l.text = some m ∧ m.column = l.front.length + 1 ∧
      Directive.split m.directive location sourceLine =
        .ok ⟨l.name, Text.trim l.payload.payload, l.label.map (·.name), location, sourceLine⟩ := by
  obtain ⟨before, inner, after, hcore⟩ := Directive.exists_core l.payload
  refine ⟨_, l.find?_written hcore, rfl, ?_⟩
  exact Directive.split_body l hcore location sourceLine

/-- The payload may hold whatever ends one, or starts a comment, a label or a
directive. -/
theorem split_written_marks_in_payload :
    ∃ m, Marked.find? "nop ; @pt p1 : tip (;a) @pt b:(c) ".toList = some m ∧ m.column = 11 ∧
      Directive.split m.directive none none =
        .ok ⟨"tip".toList, ";a) @pt b:(c".toList, some "p1".toList, none, none⟩ := by
  have hblank : ∀ c ∈ [' '], Text.isBlank c := List.all_eq_true.mp (by decide)
  have hascii : ∀ c ∈ [' '], isAsciiBlank c := List.all_eq_true.mp (by decide)
  have hlabel : ∀ c ∈ "p1".toList, isLabelChar c := List.all_eq_true.mp (by decide)
  have hname : ∀ c ∈ "tip".toList, isNameChar c := List.all_eq_true.mp (by decide)
  let label : WrittenLabel := ⟨"p1".toList, [' '], [' '], nofun, hlabel, hascii, hblank⟩
  let l : WrittenLine := ⟨"nop ".toList, [' '], [' '], some label, "tip".toList,
    .enclosed [' '] ";a) @pt b:(c".toList [' '] hblank hblank, by decide, hblank, hblank, nofun,
    nofun, hname, nofun⟩
  obtain ⟨m, hfind, hcolumn, hsplit⟩ := split_written l none none
  exact ⟨m, hfind, hcolumn, hsplit⟩

end TraceScript
