import ObjectGateway.Proofs.Text.Split

/-!
# Texts on one line

What is left of a text when it must be a single line.  `lineOf_iff` describes it by what stands
around it, so that nothing has to be known of the order in which line breaks and blanks are taken
out.
-/

namespace ObjectGateway.Text

theorem toList_stripLineBreaks (s : String) :
    (stripLineBreaks s).toList = s.toList.filter fun c => c ≠ '\r' ∧ c ≠ '\n' := by
  rw [stripLineBreaks, String.toList_ofList]
  refine List.filter_congr fun c _ => ?_
  rw [Bool.eq_iff_iff]
  simp [isLineBreak, and_comm]

/-- Something is left of a text if it has a character that ends no line. -/
theorem stripLineBreaks_isEmpty_iff {s : String} :
    (stripLineBreaks s).isEmpty = false ↔ ∃ c ∈ s.toList, c ≠ '\r' ∧ c ≠ '\n' := by
  rw [← Bool.not_eq_true, String.isEmpty_iff, ← String.toList_inj, toList_stripLineBreaks,
    String.toList_empty, List.filter_eq_nil_iff]
  simp

section Trim

variable {p : Char → Bool} {cs : List Char}

/-- A text is what trimming leaves of it, with characters of the class around. -/
theorem exists_around_trimList (p : Char → Bool) (cs : List Char) :
    ∃ before after, cs = before ++ trimList p cs ++ after ∧
      (∀ x ∈ before, p x = true) ∧ ∀ x ∈ after, p x = true := by
  refine ⟨cs.takeWhile p, (cs.dropWhile p).rtakeWhile p, ?_, fun x hx => List.mem_takeWhile_imp hx,
    fun x hx => List.mem_rtakeWhile_imp hx⟩
  have hlast : trimList p cs ++ (cs.dropWhile p).rtakeWhile p = cs.dropWhile p :=
    List.rdropWhile_append_rtakeWhile
  rw [List.append_assoc, hlast, List.takeWhile_append_dropWhile]

theorem head?_trimList : ∀ x ∈ (trimList p cs).head?, p x = false := by
  intro x hx
  obtain ⟨rest, hrest⟩ := List.head?_eq_some_iff.1 hx
  obtain ⟨after, hafter⟩ : trimList p cs <+: cs.dropWhile p := List.rdropWhile_prefix p _
  have hhead : (cs.dropWhile p).head? = some x := by
    rw [← hafter, hrest]
    rfl
  exact head?_dropWhile_eq_false x hhead

theorem getLast?_trimList : ∀ x ∈ (trimList p cs).getLast?, p x = false := by
  intro x hx
  obtain ⟨hne, rfl⟩ := List.mem_getLast?_eq_getLast hx
  exact eq_false_of_ne_true (List.rdropWhile_last_not p _ hne)

end Trim

/-- What is left of a text on a single line: its characters that end no line, without the blanks at
both ends. -/
structure LineOf (text line : String) : Prop where
  between : ∃ before after : List Char, (∀ x ∈ before, isBlank x = true) ∧
    (∀ x ∈ after, isBlank x = true) ∧
      (text.toList.filter fun x => x ≠ '\r' ∧ x ≠ '\n') = before ++ line.toList ++ after
  unbroken : '\r' ∉ line.toList ∧ '\n' ∉ line.toList
  begins : ∀ x ∈ line.toList.head?, isBlank x = false
  ends : ∀ x ∈ line.toList.getLast?, isBlank x = false

theorem toList_singleLine (text : String) : (singleLine text).toList =
    trimList isBlank (text.toList.filter fun x => x ≠ '\r' ∧ x ≠ '\n') := by
  rw [singleLine, trim, String.toList_ofList, toList_stripLineBreaks]

theorem singleLine_lineOf (text : String) : LineOf text (singleLine text) where
  between := by
    obtain ⟨before, after, hbetween, hbefore, hafter⟩ := exists_around_trimList isBlank
      (text.toList.filter fun x => x ≠ '\r' ∧ x ≠ '\n')
    rw [← toList_singleLine] at hbetween
    exact ⟨before, after, hbefore, hafter, hbetween⟩
  unbroken := by
    have hmem {x : Char} (hx : x ∈ (singleLine text).toList) : x ≠ '\r' ∧ x ≠ '\n' := by
      rw [toList_singleLine] at hx
      simpa using (List.mem_filter.1 (mem_of_mem_trimList hx)).2
    exact ⟨fun hx => (hmem hx).1 rfl, fun hx => (hmem hx).2 rfl⟩
  begins := by
    rw [toList_singleLine]
    exact head?_trimList
  ends := by
    rw [toList_singleLine]
    exact getLast?_trimList

theorem lineOf_iff {text line : String} : LineOf text line ↔ singleLine text = line := by
  constructor
  · rintro ⟨⟨before, after, hbefore, hafter, hbetween⟩, -, hbegins, hends⟩
    rw [← String.toList_inj, toList_singleLine, hbetween, trimList_append hbefore hafter,
      trimList_eq_self hbegins hends]
  · rintro rfl
    exact singleLine_lineOf text

end ObjectGateway.Text
