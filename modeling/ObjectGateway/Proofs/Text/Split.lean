import Mathlib.Data.List.DropRight
import ObjectGateway.Text.Blank
import ObjectGateway.Text.Split

/-!
# Splitting and trimming

What the pieces of a text are: cutting at a character undoes joining with it, for pieces that do not
have the character, and trimming leaves a text alone whose ends are not in the class.
-/

namespace ObjectGateway.Text

variable {c : Char} {cs rest before after : List Char}

/-! ## Starts -/

theorem stripStart?_eq_some_iff {start : List Char} :
    stripStart? start cs = some rest ↔ cs = start ++ rest := by
  unfold stripStart?
  constructor
  · intro h
    split at h
    · next hstart =>
      obtain ⟨tail, rfl⟩ := List.isPrefixOf_iff_prefix.1 hstart
      cases h
      rw [List.drop_left]
    · cases h
  · rintro rfl
    rw [if_pos (List.isPrefixOf_iff_prefix.2 (List.prefix_append _ _)), List.drop_left]

/-! ## Pieces -/

theorem decide_ne_of_notMem (h : c ∉ cs) : ∀ x ∈ cs, decide (x ≠ c) = true := fun _ hx =>
  decide_eq_true fun hxc => h (hxc ▸ hx)

theorem splitOnce_append (h : c ∉ before) :
    splitOnce c (before ++ c :: after) = some (before, after) := by
  have hne := decide_ne_of_notMem h
  unfold splitOnce
  rw [List.dropWhile_append_of_pos hne, List.takeWhile_append_of_pos hne,
    List.dropWhile_cons_of_neg (by simp), List.takeWhile_cons_of_neg (by simp), List.append_nil]

theorem splitOnce_eq_none (h : c ∉ cs) : splitOnce c cs = none := by
  have hnil : cs.dropWhile (fun x => decide (x ≠ c)) = [] :=
    List.dropWhile_eq_nil_iff.2 (decide_ne_of_notMem h)
  unfold splitOnce
  rw [hnil]

/-- A text has a character and is cut at its first occurrence, or has none. -/
theorem splitOnce_eq_some_iff :
    splitOnce c cs = some (before, after) ↔ cs = before ++ c :: after ∧ c ∉ before := by
  constructor
  · intro h
    by_cases hmem : c ∈ cs
    · obtain ⟨a, b, rfl, hnot⟩ := List.eq_append_cons_of_mem hmem
      rw [splitOnce_append hnot] at h
      cases h
      exact ⟨rfl, hnot⟩
    · rw [splitOnce_eq_none hmem] at h
      cases h
  · rintro ⟨rfl, hnot⟩
    exact splitOnce_append hnot

theorem splitOnce_eq_none_iff : splitOnce c cs = none ↔ c ∉ cs := by
  constructor
  · intro h hmem
    obtain ⟨a, b, rfl, hnot⟩ := List.eq_append_cons_of_mem hmem
    cases (splitOnce_append hnot).symm.trans h
  · exact splitOnce_eq_none

theorem splitOn_of_notMem (h : c ∉ cs) : splitOn c cs = [cs] := by
  induction cs with
  | nil => rfl
  | cons x rest ih =>
    rw [List.mem_cons, not_or] at h
    rw [splitOn, if_neg (Ne.symm h.1), ih h.2]

/-- A text is cut before and behind each of its separators on its own. -/
theorem splitOn_append_separator (c : Char) (before after : List Char) :
    splitOn c (before ++ c :: after) = splitOn c before ++ splitOn c after := by
  induction before with
  | nil => simp [splitOn]
  | cons x rest ih =>
    rw [List.cons_append, splitOn, splitOn, ih]
    obtain ⟨piece, pieces, hpieces⟩ := List.exists_cons_of_ne_nil (splitOn_ne_nil c rest)
    rw [hpieces]
    split
    · rfl
    · rfl

theorem splitOn_append_cons (h : c ∉ before) (after : List Char) :
    splitOn c (before ++ c :: after) = before :: splitOn c after := by
  rw [splitOn_append_separator, splitOn_of_notMem h, List.singleton_append]

/-- Texts with a separator before each of them are cut one by one. -/
theorem splitOn_append_flatMap (c : Char) (before : List Char) (texts : List (List Char)) :
    splitOn c (before ++ texts.flatMap (c :: ·)) =
      splitOn c before ++ texts.flatMap (splitOn c) := by
  induction texts generalizing before with
  | nil => rw [List.flatMap_nil, List.flatMap_nil, List.append_nil, List.append_nil]
  | cons text rest ih =>
    rw [List.flatMap_cons, List.flatMap_cons, List.cons_append, splitOn_append_separator, ih text]

/-- Cutting at a character undoes joining with it. -/
theorem splitOn_flatMap {pieces : List (List Char)} (hbefore : c ∉ before)
    (hpieces : ∀ piece ∈ pieces, c ∉ piece) :
    splitOn c (before ++ pieces.flatMap (c :: ·)) = before :: pieces := by
  induction pieces generalizing before with
  | nil => rw [List.flatMap_nil, List.append_nil, splitOn_of_notMem hbefore]
  | cons piece rest ih =>
    have hrest := ih (hpieces piece List.mem_cons_self)
      fun other hother => hpieces other (List.mem_cons_of_mem piece hother)
    rw [List.flatMap_cons, List.cons_append, splitOn_append_cons hbefore, hrest]

/-! ## Trimming -/

variable {p : Char → Bool}

theorem dropTrailing_append_singleton (h : p c = true) (cs : List Char) :
    dropTrailing p (cs ++ [c]) = dropTrailing p cs :=
  List.rdropWhile_concat_pos p cs c h

theorem dropTrailing_append {blanks : List Char} (h : ∀ c ∈ blanks, p c = true) (cs : List Char) :
    dropTrailing p (cs ++ blanks) = dropTrailing p cs := by
  have hreverse : ∀ c ∈ blanks.reverse, p c = true := fun c hc => h c (List.mem_reverse.1 hc)
  rw [dropTrailing, List.reverse_append, List.dropWhile_append_of_pos hreverse, dropTrailing]

theorem dropTrailing_cons (h : p c = false) (cs : List Char) :
    dropTrailing p (c :: cs) = c :: dropTrailing p cs := by
  rw [dropTrailing, dropTrailing, List.reverse_cons, List.dropWhile_append]
  split
  · next hnil => simp [h, List.isEmpty_iff.1 hnil]
  · simp

theorem mem_of_mem_dropTrailing {x : Char} (h : x ∈ dropTrailing p cs) : x ∈ cs := by
  rw [dropTrailing, List.mem_reverse] at h
  exact List.mem_reverse.1 ((List.dropWhile_sublist p).subset h)

theorem dropTrailing_eq_self_iff : dropTrailing p cs = cs ↔ ∀ x ∈ cs.getLast?, p x = false := by
  refine List.rdropWhile_eq_self_iff.trans ⟨fun h x hx => ?_, fun h hne => ?_⟩
  · obtain ⟨hne, rfl⟩ := List.mem_getLast?_eq_getLast hx
    exact Bool.eq_false_iff.2 (h hne)
  · rw [h _ (List.getLast?_eq_some_getLast hne)]
    exact Bool.false_ne_true

theorem dropTrailing_eq_self (h : ∀ x ∈ cs.getLast?, p x = false) : dropTrailing p cs = cs :=
  dropTrailing_eq_self_iff.2 h

theorem dropWhile_eq_self (h : ∀ x ∈ cs.head?, p x = false) : cs.dropWhile p = cs := by
  cases cs with
  | nil => rfl
  | cons x rest => rw [List.dropWhile_cons_of_neg (by simp [h x rfl])]

theorem dropWhile_append_stop (hbefore : ∀ x ∈ before, p x = true)
    (hrest : ∀ x ∈ rest.head?, p x = false) : (before ++ rest).dropWhile p = rest := by
  rw [List.dropWhile_append_of_pos hbefore, dropWhile_eq_self hrest]

theorem takeWhile_append_stop (hbefore : ∀ x ∈ before, p x = true)
    (hrest : ∀ x ∈ rest.head?, p x = false) : (before ++ rest).takeWhile p = before := by
  have hsplit := List.takeWhile_append_dropWhile (p := p) (l := before ++ rest)
  rwa [dropWhile_append_stop hbefore hrest, List.append_left_inj] at hsplit

theorem head?_dropWhile_eq_false : ∀ x ∈ (cs.dropWhile p).head?, p x = false := by
  intro x hx
  have hstop := List.head?_dropWhile_not p cs
  rwa [Option.mem_def.1 hx] at hstop

theorem trimList_eq_self (hhead : ∀ x ∈ cs.head?, p x = false)
    (hlast : ∀ x ∈ cs.getLast?, p x = false) : trimList p cs = cs := by
  rw [trimList, dropWhile_eq_self hhead, dropTrailing_eq_self hlast]

theorem trimList_cons (h : p c = true) (cs : List Char) :
    trimList p (c :: cs) = trimList p cs := by
  rw [trimList, List.dropWhile_cons_of_pos h, trimList]

theorem mem_of_mem_trimList {x : Char} (h : x ∈ trimList p cs) : x ∈ cs :=
  (List.dropWhile_sublist p).subset (mem_of_mem_dropTrailing h)

/-- A text between blanks. -/
theorem trimList_append (hbefore : ∀ x ∈ before, p x = true) (hafter : ∀ x ∈ after, p x = true)
    (cs : List Char) : trimList p (before ++ cs ++ after) = trimList p cs := by
  rw [List.append_assoc, trimList, List.dropWhile_append_of_pos hbefore, List.dropWhile_append,
    trimList]
  split
  · next hblank =>
    rw [List.isEmpty_iff.1 hblank, List.dropWhile_eq_nil_iff.2 hafter]
  · exact dropTrailing_append hafter _

end ObjectGateway.Text
