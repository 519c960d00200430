import Mathlib

/-!
# Readers of lists with separators

A reader takes something off the front of a text and gives it with what stands behind, or fails. A list is
read as one item after the other, with blanks around each and a separator behind each but the last.

* `Items`, `Enclosed`: the texts of a list over the texts of an item, and with the bracket that closes it.
* `enclosed_of_text`: the reader of lists reads them, when the reader of items reads its own.
* `text_of_enclosed`: it reads nothing else, when the reader of items reads nothing else.
-/

namespace GokeWebcam.Lib

variable {τ α : Type}

/-- What is read, and what stands behind it. -/
abbrev Reader (τ α : Type) := List τ → Option (α × List τ)

/-- The text behind the blanks; of nothing but blanks the last one is left. -/
def skipBlank (blank : τ → Bool) (input : List τ) : List τ :=
  match input.dropWhile blank with
  | [] => input.drop (input.length - 1)
  | c :: rest => c :: rest

/-- Nothing but blanks. -/
def Blanks (blank : τ → Bool) (ws : List τ) : Prop := ∀ b ∈ ws, blank b = true

/-- Items as long as there is a separator behind the one that was read. -/
def items [DecidableEq τ] (blank : τ → Bool) (separator : τ) (item : Reader τ α) : ℕ → Reader τ (List α)
  | 0, _ => none
  | fuel + 1, input =>
    (item (skipBlank blank input)).bind fun first =>
      let rest := skipBlank blank first.2
      if rest.head? = some separator then
        (items blank separator item fuel rest.tail).map fun later => (first.1 :: later.1, later.2)
      else some ([first.1], rest)

/-- The texts of a list that is not empty. -/
inductive Items (blank : τ → Bool) (separator : τ) (Text : α → List τ → Prop) : List α → List τ → Prop
  | last {a text ws ws'} (before : Blanks blank ws) (item : Text a text) (behind : Blanks blank ws') :
      Items blank separator Text [a] (ws ++ (text ++ ws'))
  | cons {a text ws ws' as rest} (before : Blanks blank ws) (item : Text a text)
      (behind : Blanks blank ws') (later : Items blank separator Text as rest) :
      Items blank separator Text (a :: as) (ws ++ (text ++ (ws' ++ separator :: rest)))

/-- A list up to the bracket that closes it. -/
def enclosed [DecidableEq τ] (blank : τ → Bool) (separator close : τ) (item : Reader τ α) :
    Reader τ (List α) := fun input =>
  let input := skipBlank blank input
  if input.head? = some close then some ([], input.tail)
  else
    (items blank separator item input.length input).bind fun list =>
      if list.2.head? = some close then some (list.1, list.2.tail) else none

/-- The texts of a list and of its end. -/
inductive Enclosed (blank : τ → Bool) (separator close : τ) (Text : α → List τ → Prop) :
    List α → List τ → Prop
  | empty {ws} (blanks : Blanks blank ws) : Enclosed blank separator close Text [] (ws ++ [close])
  | items {as text} (list : Items blank separator Text as text) :
      Enclosed blank separator close Text as (text ++ [close])

/-- What may stand behind an item: a blank, the separator, or the end of the list. -/
def Stops (blank : τ → Bool) (separator close : τ) (rest : List τ) : Prop :=
  ∃ c later, rest = c :: later ∧ (blank c = true ∨ c = separator ∨ c = close)

/-- The text begins, with no blank and with no bracket that closes. -/
def Begins (blank : τ → Bool) (close : τ) (text : List τ) : Prop :=
  ∃ c later, text = c :: later ∧ blank c = false ∧ c ≠ close

variable {blank : τ → Bool} {separator close c : τ} {Text : α → List τ → Prop} {item : Reader τ α}
  {as : List α} {a : α} {text ws rest input : List τ} {fuel : ℕ}

/-! ### Blanks -/

theorem skipBlank_append (hws : Blanks blank ws) (hc : blank c = false) :
    skipBlank blank (ws ++ c :: rest) = c :: rest := by
  have hdrop : (ws ++ c :: rest).dropWhile blank = c :: rest := by
    rw [List.dropWhile_append_of_pos hws, List.dropWhile_cons_of_neg (by simp [hc])]
  rw [skipBlank, hdrop]

/-- The blanks in front of a text are skipped. -/
theorem skipBlank_begins (hws : Blanks blank ws) (h : Begins blank close text) :
    skipBlank blank (ws ++ (text ++ rest)) = text ++ rest := by
  obtain ⟨c, later, rfl, hc, -⟩ := h
  exact skipBlank_append hws hc

/-- What is skipped is blanks. -/
theorem exists_skipBlank (input : List τ) : ∃ ws, Blanks blank ws ∧ input = ws ++ skipBlank blank input := by
  rw [skipBlank]
  rcases hdrop : input.dropWhile blank with _ | ⟨c, later⟩
  · refine ⟨input.take (input.length - 1), fun b hb => ?_, (List.take_append_drop _ _).symm⟩
    exact List.dropWhile_eq_nil_iff.mp hdrop b (List.mem_of_mem_take hb)
  · refine ⟨input.takeWhile blank, fun b hb => List.mem_takeWhile_imp hb, ?_⟩
    have hsplit : input.takeWhile blank ++ input.dropWhile blank = input := List.takeWhile_append_dropWhile
    rwa [hdrop, eq_comm] at hsplit

theorem exists_of_skipBlank (h : skipBlank blank input = rest) : ∃ ws, Blanks blank ws ∧ input = ws ++ rest :=
  h ▸ exists_skipBlank input

theorem stops_append (hws : Blanks blank ws) (hc : c = separator ∨ c = close) :
    Stops blank separator close (ws ++ c :: rest) := by
  rcases ws with _ | ⟨b, ws⟩
  · exact ⟨c, rest, rfl, .inr hc⟩
  · exact ⟨b, ws ++ c :: rest, rfl, .inl (hws b List.mem_cons_self)⟩

/-- The text of a list is that of its first item behind blanks. -/
theorem Items.begins (hbegins : ∀ a text, Text a text → Begins blank close text)
    (h : Items blank separator Text as text) : ∃ ws text', text = ws ++ text' ∧ Blanks blank ws ∧
      Begins blank close text' ∧ Items blank separator Text as text' ∧ as.length ≤ text'.length := by
  induction h with
  | @last a text ws ws' hws htext hws' =>
    obtain ⟨c, later, rfl, hc, hclose⟩ := hbegins a text htext
    refine ⟨ws, c :: (later ++ ws'), by simp, hws, ⟨c, _, rfl, hc, hclose⟩, ?_, by simp⟩
    exact Items.last (List.forall_mem_nil _) htext hws'
  | @cons a text ws ws' as later hws htext hws' hlater ih =>
    obtain ⟨c, front, rfl, hc, hclose⟩ := hbegins a text htext
    obtain ⟨ws'', text', rfl, -, -, -, hlength⟩ := ih
    refine ⟨ws, c :: (front ++ (ws' ++ separator :: (ws'' ++ text'))), by simp, hws,
      ⟨c, _, rfl, hc, hclose⟩, ?_, ?_⟩
    · exact Items.cons (List.forall_mem_nil _) htext hws' hlater
    · simp only [List.length_cons, List.length_append]
      omega

/-- Every item of a list has a text. -/
theorem Items.exists_text (h : Items blank separator Text as text) : ∀ a ∈ as, ∃ t, Text a t := by
  induction h with
  | last _ htext _ =>
    intro a ha
    exact ⟨_, List.mem_singleton.mp ha ▸ htext⟩
  | cons _ htext _ _ ih =>
    intro a ha
    rcases List.mem_cons.mp ha with rfl | ha
    · exact ⟨_, htext⟩
    · exact ih a ha

theorem Enclosed.exists_text (h : Enclosed blank separator close Text as text) :
    ∀ a ∈ as, ∃ t, Text a t := by
  cases h with
  | empty => exact List.forall_mem_nil _
  | items hlist => exact hlist.exists_text

/-- Blanks in front of a list do not matter. -/
theorem Items.blanks (h : Items blank separator Text as text) (hws : Blanks blank ws) :
    Items blank separator Text as (ws ++ text) := by
  have hboth : ∀ {ws' : List τ}, Blanks blank ws' → Blanks blank (ws ++ ws') :=
    fun hws' b hb => (List.mem_append.mp hb).elim (hws b) (hws' b)
  cases h with
  | last hws' htext hbehind =>
    rw [← List.append_assoc]
    exact .last (hboth hws') htext hbehind
  | cons hws' htext hbehind hlater =>
    rw [← List.append_assoc]
    exact .cons (hboth hws') htext hbehind hlater

/-! ### Lists -/

variable [DecidableEq τ]

/-- The texts of a list that is closed are read, given a step for each item. -/
theorem items_of_text (hsep : blank separator = false) (hclose : blank close = false)
    (hne : close ≠ separator) (hbegins : ∀ a text, Text a text → Begins blank close text)
    (hitem : ∀ a text, Text a text → ∀ rest, Stops blank separator close rest →
      item (text ++ rest) = some (a, rest))
    (h : Items blank separator Text as text) (hfuel : as.length ≤ fuel) :
    items blank separator item fuel (text ++ close :: rest) = some (as, close :: rest) := by
  induction h generalizing fuel with
  | @last a text ws ws' hws htext hws' =>
    obtain ⟨fuel, rfl⟩ := Nat.exists_eq_succ_of_ne_zero (Nat.pos_iff_ne_zero.mp hfuel)
    have hread := hitem a text htext (ws' ++ close :: rest) (stops_append hws' (.inr rfl))
    rw [List.append_assoc, List.append_assoc, items, skipBlank_begins hws (hbegins a text htext), hread,
      Option.bind_some]
    simp [skipBlank_append hws' hclose, hne]
  | @cons a text ws ws' as later hws htext hws' _ ih =>
    obtain ⟨fuel, rfl⟩ := Nat.exists_eq_succ_of_ne_zero (Nat.pos_iff_ne_zero.mp (Nat.zero_lt_of_lt hfuel))
    have hread := hitem a text htext (ws' ++ separator :: (later ++ close :: rest))
      (stops_append hws' (.inl rfl))
    rw [List.append_assoc, List.append_assoc, List.append_assoc, List.cons_append, items,
      skipBlank_begins hws (hbegins a text htext), hread, Option.bind_some]
    simp [skipBlank_append hws' hsep, ih (Nat.le_of_succ_le_succ hfuel)]

/-- A list that was read up to its end is one of its texts. -/
theorem text_of_items
    (hitem : ∀ input a rest, item input = some (a, rest) → Stops blank separator close rest →
      ∃ text, input = text ++ rest ∧ Text a text)
    (h : items blank separator item fuel input = some (as, close :: rest)) :
    ∃ text, input = text ++ close :: rest ∧ Items blank separator Text as text := by
  have hbehind : ∀ {input : List τ} {a : α} {rest : List τ}, item (skipBlank blank input) = some (a, rest) →
      Stops blank separator close rest → ∃ ws text, Blanks blank ws ∧ Text a text ∧
        input = ws ++ (text ++ rest) := by
    intro input a rest hread hstops
    obtain ⟨text, hinput, htext⟩ := hitem _ a rest hread hstops
    obtain ⟨ws, hws, rfl⟩ := exists_of_skipBlank hinput
    exact ⟨ws, _, hws, htext, rfl⟩
  induction fuel generalizing input as with
  | zero => cases h
  | succ fuel ih =>
    rw [items] at h
    obtain ⟨⟨a, rest'⟩, hread, h⟩ := Option.bind_eq_some_iff.mp h
    dsimp only at h
    split_ifs at h with hmore
    · obtain ⟨⟨as', rest''⟩, hlater, heq⟩ := Option.map_eq_some_iff.mp h
      cases heq
      obtain ⟨later, hrest⟩ := List.head?_eq_some_iff.mp hmore
      rw [hrest, List.tail_cons] at hlater
      obtain ⟨ws', hws', rfl⟩ := exists_of_skipBlank hrest
      obtain ⟨text', rfl, hitems⟩ := ih hlater
      obtain ⟨ws, text, hws, htext, rfl⟩ := hbehind hread (stops_append hws' (.inl rfl))
      exact ⟨_, by simp, .cons hws htext hws' hitems⟩
    · obtain ⟨rfl, hrest⟩ := Prod.mk.injEq _ _ _ _ ▸ Option.some.inj h
      obtain ⟨ws', hws', rfl⟩ := exists_of_skipBlank hrest
      obtain ⟨ws, text, hws, htext, rfl⟩ := hbehind hread (stops_append hws' (.inr rfl))
      exact ⟨_, by simp, .last hws htext hws'⟩

/-- The texts of a list are read, given a step for each item. -/
theorem enclosed_of_text (hsep : blank separator = false) (hclose : blank close = false)
    (hne : close ≠ separator) (hbegins : ∀ a text, Text a text → Begins blank close text)
    (hitem : ∀ a text, Text a text → ∀ rest, Stops blank separator close rest →
      item (text ++ rest) = some (a, rest))
    (h : Enclosed blank separator close Text as text) :
    enclosed blank separator close item (text ++ rest) = some (as, rest) := by
  cases h with
  | @empty ws hws =>
    rw [enclosed, List.append_assoc, List.singleton_append, skipBlank_append hws hclose]
    simp
  | @items as text hlist =>
    obtain ⟨ws, text', rfl, hws, hfront, hlist', hlength⟩ := hlist.begins hbegins
    have hskip : skipBlank blank (ws ++ (text' ++ close :: rest)) = text' ++ close :: rest :=
      skipBlank_begins hws hfront
    have hhead : (text' ++ close :: rest).head? ≠ some close := by
      obtain ⟨c, later, rfl, -, hc⟩ := hfront
      simpa using hc
    have hlist : items blank separator item (text' ++ close :: rest).length (text' ++ close :: rest) =
        some (as, close :: rest) :=
      items_of_text hsep hclose hne hbegins hitem hlist' (by simp; omega)
    rw [enclosed, List.append_assoc, List.append_assoc, List.singleton_append, hskip]
    simp only [if_neg hhead, hlist, Option.bind_some, List.head?_cons, if_true, List.tail_cons]

/-- Nothing else is read. -/
theorem text_of_enclosed
    (hitem : ∀ input a rest, item input = some (a, rest) → Stops blank separator close rest →
      ∃ text, input = text ++ rest ∧ Text a text)
    (h : enclosed blank separator close item input = some (as, rest)) :
    ∃ text, input = text ++ rest ∧ Enclosed blank separator close Text as text := by
  rw [enclosed] at h
  split_ifs at h with hempty
  · obtain ⟨rfl, rfl⟩ := Prod.mk.injEq _ _ _ _ ▸ Option.some.inj h
    obtain ⟨later, hlater⟩ := List.head?_eq_some_iff.mp hempty
    obtain ⟨ws, hws, rfl⟩ := exists_of_skipBlank hlater
    exact ⟨ws ++ [close], by simp [hlater], .empty hws⟩
  · obtain ⟨⟨as', rest'⟩, hlist, h⟩ := Option.bind_eq_some_iff.mp h
    dsimp only at h
    split_ifs at h with hend
    obtain ⟨rfl, rfl⟩ := Prod.mk.injEq _ _ _ _ ▸ Option.some.inj h
    obtain ⟨later, rfl⟩ := List.head?_eq_some_iff.mp hend
    obtain ⟨text, hinput, hitems⟩ := text_of_items hitem hlist
    obtain ⟨ws, hws, rfl⟩ := exists_of_skipBlank hinput
    exact ⟨ws ++ text ++ [close], by simp, .items (hitems.blanks hws)⟩

end GokeWebcam.Lib
