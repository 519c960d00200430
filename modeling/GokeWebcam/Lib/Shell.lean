import GokeWebcam.Lib.ByteMemory

/-!
# The words of a shell command

How a POSIX shell splits a line into words and takes the quotes off: outside quotes blanks separate
words and a backslash quotes the next byte; single quotes quote everything up to the next one; in double quotes
a backslash quotes some bytes. A line that holds anything else (an operator, an expansion, a pattern, a
comment, a quote that is not closed) is not one command with the words as they stand, and has no result.

* `words`: the words of a line; `read`: a step, on a `Reader`.
* `foldlM_read_single`: a text without single quotes is read as it stands between two of them.
* `size_foldlM_read`, `size_lt_of_quote`: no byte is read as more than one, and a quote in unquoted text as
  none.
* `words_quoted_iff`: a text between single quotes is read as it stands iff there is none in it.
-/

namespace GokeWebcam.Lib.Shell

/-- The code of a character. -/
def code (c : Char) : Byte := BitVec.ofNat 8 c.toNat

/-- The bytes of a text. -/
def codes (text : String) : List Byte := text.toList.map code

def quote : Byte := code (Char.ofNat 39)
def doubleQuote : Byte := code '"'
def backslash : Byte := code '\\'

def blanks : List Byte := codes " \t"

/-- What is never plain text outside quotes. -/
def operators : List Byte := codes "|&;<>()$*?[\n" ++ [code (Char.ofNat 96)]

/-- What is not plain text where a word begins. -/
def openers : List Byte := codes "#~"

/-- What an expansion in double quotes begins with. -/
def expansions : List Byte := [code '$', code (Char.ofNat 96)]

/-- Outside quotes, in single or double quotes, behind a backslash outside or in double quotes. -/
inductive Mode
  | plain | single | double | escape | doubleEscape
  deriving DecidableEq, Repr

/-- The words read so far and the one that is being read. -/
structure Reader where
  words : List (List Byte) := []
  word : Option (List Byte) := none
  mode : Mode := .plain
  deriving DecidableEq, Repr

namespace Reader

variable (r : Reader)

/-- The bytes are part of the word. -/
def put (bytes : List Byte) (mode : Mode) : Reader :=
  { r with word := some (r.word.getD [] ++ bytes), mode := mode }

/-- The word ends, if there is one. -/
def endWord : Reader := { words := r.words ++ r.word.toList }

/-- The words of a line that ends here. -/
def finish : Option (List (List Byte)) :=
  if r.mode = .plain then some r.endWord.words else none

end Reader

/-- Outside quotes. -/
def readPlain (r : Reader) (b : Byte) : Option Reader :=
  if b = quote then some (r.put [] .single)
  else if b = doubleQuote then some (r.put [] .double)
  else if b = backslash then some { r with mode := .escape }
  else if b ∈ blanks then some r.endWord
  else if b ∈ operators ∨ r.word = none ∧ b ∈ openers then none
  else some (r.put [b] .plain)

/-- The next byte. -/
def read (r : Reader) (b : Byte) : Option Reader :=
  match r.mode with
  | .plain => readPlain r b
  | .single => some (if b = quote then r.put [] .plain else r.put [b] .single)
  | .double =>
    if b = doubleQuote then some (r.put [] .plain)
    else if b = backslash then some (r.put [] .doubleEscape)
    else if b ∈ expansions then none
    else some (r.put [b] .double)
  | .escape => some (if b = code '\n' then { r with mode := .plain } else r.put [b] .plain)
  | .doubleEscape =>
    if b = code '\n' then some (r.put [] .double)
    else if b = doubleQuote ∨ b = backslash ∨ b ∈ expansions then some (r.put [b] .double)
    else some (r.put [backslash, b] .double)

/-- The words of a line. -/
def words (line : List Byte) : Option (List (List Byte)) :=
  (line.foldlM read {}).bind Reader.finish

variable {r r' : Reader} {b : Byte} {w line text : List Byte} {ws : List (List Byte)} {mode : Mode}

/-! ### Between single quotes -/

theorem foldlM_read_single (htext : quote ∉ text) :
    text.foldlM read ⟨ws, some w, .single⟩ = some ⟨ws, some (w ++ text), .single⟩ := by
  induction text generalizing w with
  | nil => simp
  | cons b text ih =>
      rw [List.mem_cons, not_or] at htext
      have hread : read ⟨ws, some w, .single⟩ b = some ⟨ws, some (w ++ [b]), .single⟩ := by
        rw [read]
        exact congrArg some (if_neg fun h => htext.1 h.symm)
      rw [List.foldlM_cons, hread]
      simpa using @ih (w ++ [b]) htext.2

theorem read_quote : read ⟨ws, some w, .single⟩ quote = some ⟨ws, some w, .plain⟩ := by
  simp [read, Reader.put]

/-! ### How long words get -/

/-- How many bytes have been read into words. -/
def Reader.length (r : Reader) : ℕ := (r.words.map List.length).sum + (r.word.getD []).length

/-- The backslash that may still be read as one. -/
def Mode.pending : Mode → ℕ
  | .doubleEscape => 1
  | _ => 0

theorem length_put : (r.put w mode).length = r.length + w.length := by
  simp [Reader.length, Reader.put, Nat.add_assoc]

theorem mode_put : (r.put w mode).mode = mode := rfl

theorem length_mode : ({ r with mode := mode } : Reader).length = r.length := rfl

theorem length_endWord : r.endWord.length = r.length := by
  rcases hword : r.word with _ | w <;> simp [Reader.length, Reader.endWord, hword]

/-- Outside quotes, what is not kept as it is makes the words shorter. -/
theorem readPlain_cases (h : readPlain r b = some r') :
    (b ≠ quote ∧ r' = r.put [b] .plain) ∨ r'.length = r.length ∧ r'.mode.pending = 0 := by
  rw [readPlain] at h
  split_ifs at h with hquote
  all_goals cases h
  · exact .inr ⟨length_put, rfl⟩
  · exact .inr ⟨length_put, rfl⟩
  · exact .inr ⟨rfl, rfl⟩
  · exact .inr ⟨length_endWord, rfl⟩
  · exact .inl ⟨hquote, rfl⟩

/-- A byte is read as one at most. -/
theorem length_read (h : read r b = some r') :
    r'.length + r'.mode.pending ≤ r.length + r.mode.pending + 1 := by
  rw [read] at h
  split at h
  · rcases readPlain_cases h with ⟨-, rfl⟩ | ⟨hlength, hpending⟩
    · simp only [length_put, mode_put, Mode.pending, List.length_singleton]
      omega
    · omega
  all_goals next hmode =>
    rw [hmode]
    split_ifs at h <;> cases h
    all_goals
      simp only [length_put, mode_put, length_mode, Mode.pending, List.length_nil, List.length_cons]
      omega

theorem length_foldlM_read (h : line.foldlM read r = some r') :
    r'.length + r'.mode.pending ≤ r.length + r.mode.pending + line.length := by
  induction line generalizing r with
  | nil =>
      cases h
      exact le_refl _
  | cons b line ih =>
      rw [List.foldlM_cons] at h
      obtain ⟨r₁, hread, hrest⟩ := Option.bind_eq_some_iff.mp h
      have hstep := length_read hread
      have hline := ih hrest
      rw [List.length_cons]
      omega

/-- A quote outside quotes is not read as a byte. -/
theorem length_lt_of_quote (hmode : r.mode = .plain) (hquote : quote ∈ line)
    (h : line.foldlM read r = some r') : r'.length < r.length + line.length := by
  induction line generalizing r with
  | nil => exact absurd hquote List.not_mem_nil
  | cons b line ih =>
      rw [List.foldlM_cons] at h
      obtain ⟨r₁, hread, hrest⟩ := Option.bind_eq_some_iff.mp h
      rw [read, hmode] at hread
      rw [List.length_cons]
      rcases readPlain_cases hread with ⟨hb, rfl⟩ | ⟨hlength, hpending⟩
      · have hmem : quote ∈ line := (List.mem_cons.mp hquote).resolve_left fun h => hb h.symm
        have hline := ih rfl hmem hrest
        rw [length_put, List.length_singleton] at hline
        omega
      · have hline := length_foldlM_read hrest
        omega

/-! ### A quoted text -/

/-- A text between single quotes, behind words that have been read, is a word as it stands iff it has
no single quote. -/
theorem words_quoted_iff {before : List Byte}
    (hbefore : before.foldlM read {} = some { words := ws }) :
    words (before ++ quote :: (text ++ [quote])) = some (ws ++ [text]) ↔ quote ∉ text := by
  have hwords : words (before ++ quote :: (text ++ [quote])) =
      ((text ++ [quote]).foldlM read ⟨ws, some [], .single⟩).bind Reader.finish := by
    rw [words, List.foldlM_append, hbefore]
    rfl
  rw [hwords]
  constructor
  · intro h hmem
    obtain ⟨r, hread, hfinish⟩ := Option.bind_eq_some_iff.mp h
    obtain ⟨a, b, htext, ha⟩ := List.eq_append_cons_of_mem hmem
    -- the first quote of the text ends the quoting, so that the last one is read outside
    rw [htext, List.append_assoc, List.foldlM_append, foldlM_read_single ha, Option.bind_eq_bind,
      Option.bind_some, List.cons_append, List.foldlM_cons, read_quote, Option.bind_eq_bind,
      Option.bind_some, List.nil_append] at hread
    have hlt := length_lt_of_quote rfl (List.mem_append_right b (List.mem_singleton_self quote)) hread
    rw [Reader.finish] at hfinish
    split_ifs at hfinish
    have hlength : r.endWord.length = ((ws ++ [text]).map List.length).sum := by
      rw [Option.some.inj hfinish.symm]
      simp [Reader.length, Reader.endWord]
    rw [length_endWord] at hlength
    rw [hlength, htext] at hlt
    simp [Reader.length] at hlt
    omega
  · intro hnot
    rw [List.foldlM_append, foldlM_read_single hnot]
    simp [read, Reader.put, Reader.finish, Reader.endWord]

end GokeWebcam.Lib.Shell
