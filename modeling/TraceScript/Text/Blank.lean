/-!
# Texts and their blanks

A **text** is a list of code points; scripts, names, operands and messages
are all texts.  A **blank** is a code point of the Unicode white space
property, the four information separators included; `trimStart`, `trimEnd`
and `trim` drop the blanks at the ends of a text, and `words` cuts a text
into its maximal runs of other code points.

Operand lists are separated by other sets, so `words` takes the separator
class as an argument; `blankWords` is the instance for blanks.

Main facts: `words` yields no empty word and no separator
(`ne_nil_of_mem_words`, `not_sep_of_mem_words`).
-/

namespace TraceScript

/-- A sequence of code points. -/
abbrev Text := List Char

namespace Text

/-- White space of any script, and the separators U+001C to U+001F. -/
def isBlank (c : Char) : Bool :=
  let n := c.toNat
  (0x09 ≤ n && n ≤ 0x0D) || (0x1C ≤ n && n ≤ 0x20) || n == 0x85 || n == 0xA0 ||
    n == 0x1680 || (0x2000 ≤ n && n ≤ 0x200A) || n == 0x2028 || n == 0x2029 ||
    n == 0x202F || n == 0x205F || n == 0x3000

/-- The text from its first code point that is no blank. -/
def trimStart (t : Text) : Text :=
  t.dropWhile isBlank

/-- The text up to its last code point that is no blank. -/
def trimEnd (t : Text) : Text :=
  (t.reverse.dropWhile isBlank).reverse

/-- The text without the blanks at both ends. -/
def trim (t : Text) : Text :=
  trimEnd (trimStart t)

/-- Puts a code point in front of the first word. -/
def growFirst (c : Char) : List Text → List Text
  | [] => [[c]]
  | w :: ws => (c :: w) :: ws

/-- The maximal runs of code points outside the separator class, in order. -/
def words (isSep : Char → Bool) : Text → List Text
  | [] => []
  | c :: rest =>
      if isSep c then words isSep rest
      else if rest.head?.all isSep then [c] :: words isSep rest
      else growFirst c (words isSep rest)

/-- The words of a text between blanks. -/
def blankWords (t : Text) : List Text :=
  words isBlank t

/-- The text before the first occurrence of `c` and the text after it. -/
def cutAt (c : Char) : Text → Option (Text × Text)
  | [] => none
  | d :: rest =>
      if d = c then some ([], rest)
      else (cutAt c rest).map fun (before, after) => (d :: before, after)

/-- The run of a class of code points at the start of a text, unless it is
empty, and what follows it. -/
def run? (p : Char → Bool) (t : Text) : Option (Text × Text) :=
  if (t.takeWhile p).isEmpty then none else some (t.takeWhile p, t.dropWhile p)

/-- The texts in order, with `sep` between neighbours. -/
def joinWith (sep : Text) : List Text → Text
  | [] => []
  | [t] => t
  | t :: rest => t ++ sep ++ joinWith sep rest

/-- The first text does not stand behind the second in the order by code
points. -/
def notAfter : Text → Text → Bool
  | [], _ => true
  | _ :: _, [] => false
  | c :: s, d :: t => if c = d then notAfter s t else c.toNat < d.toNat

/-- The text between single quotation marks. -/
def quoted (t : Text) : Text :=
  "'".toList ++ t ++ "'".toList

/-- What follows a cut is shorter than the text. -/
theorem length_of_cutAt {c : Char} {t before after : Text}
    (h : cutAt c t = some (before, after)) : after.length < t.length := by
  induction t generalizing before with
  | nil => simp [cutAt] at h
  | cons d rest ih =>
      rw [cutAt] at h
      split at h
      · cases h
        exact Nat.lt_succ_self _
      · obtain ⟨⟨b, a⟩, hb, he⟩ := Option.map_eq_some_iff.mp h
        cases he
        exact Nat.lt_succ_of_lt (ih hb)

/-- What follows a run is no longer than the text. -/
theorem length_of_run? {p : Char → Bool} {t run rest : Text} (h : run? p t = some (run, rest)) :
    rest.length ≤ t.length := by
  unfold run? at h
  split at h
  · cases h
  · cases h
    exact (List.dropWhile_suffix p).length_le

/-- A character in front of texts that are not empty leaves them so. -/
private theorem ne_nil_of_mem_growFirst {c : Char} {w : Text} {ws : List Text}
    (hws : ∀ v ∈ ws, v ≠ []) (h : w ∈ growFirst c ws) : w ≠ [] := by
  cases ws with
  | nil => simp_all [growFirst]
  | cons v vs =>
      rcases List.mem_cons.mp h with rfl | h
      · simp
      · exact hws w (List.mem_cons_of_mem _ h)

/-- No word is empty. -/
theorem ne_nil_of_mem_words {isSep : Char → Bool} {t w : Text}
    (h : w ∈ words isSep t) : w ≠ [] := by
  induction t generalizing w with
  | nil => simp [words] at h
  | cons c rest ih =>
      rw [words] at h
      split at h
      · exact ih h
      split at h
      · rcases List.mem_cons.mp h with rfl | h
        · simp
        · exact ih h
      · exact ne_nil_of_mem_growFirst (fun v hv => ih hv) h

/-- A word holds no separator.  A separator ends the word in front of it and
belongs to none. -/
theorem not_sep_of_mem_words {isSep : Char → Bool} {t w : Text}
    (h : w ∈ words isSep t) : ∀ c ∈ w, isSep c = false := by
  induction t generalizing w with
  | nil => simp [words] at h
  | cons d rest ih =>
      rw [words] at h
      split at h
      · exact ih h
      rename_i hd
      split at h
      · rcases List.mem_cons.mp h with rfl | h
        · simpa using hd
        · exact ih h
      · cases hw : words isSep rest with
        | nil =>
            rw [hw] at h
            simp only [growFirst, List.mem_singleton] at h
            subst h
            simpa using hd
        | cons v vs =>
            rw [hw] at h
            rcases List.mem_cons.mp h with rfl | h
            · intro c hc
              rcases List.mem_cons.mp hc with rfl | hc
              · simpa using hd
              · exact ih (hw ▸ List.mem_cons_self) c hc
            · exact ih (hw ▸ List.mem_cons_of_mem _ h)

end Text
end TraceScript
