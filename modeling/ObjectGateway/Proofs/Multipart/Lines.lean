import ObjectGateway.Proofs.Multipart.Parts
import ObjectGateway.Proofs.Text.Split
import ObjectGateway.Proofs.Text.Utf8

/-!
# The lines that head a part

How lines, the parameters of a line and the values of parameters are read back from their texts, and
where the empty line is found that ends the lines of a part.
-/

namespace ObjectGateway.Multipart

/-! ## Lines -/

section Lines

variable {line : List Char} {lines : List (List Char)}

theorem splitLines_cons {c : Char} (h : c ≠ '\r') (rest : List Char) :
    splitLines (c :: rest) =
      match splitLines rest with
      | line :: lines => (c :: line) :: lines
      | [] => [[c]] :=
  splitLines.eq_3 c rest fun _ hc => absurd hc h

theorem splitLines_of_notMem (h : '\r' ∉ line) : splitLines line = [line] := by
  induction line with
  | nil => rfl
  | cons c rest ih =>
    rw [List.mem_cons, not_or] at h
    rw [splitLines_cons (Ne.symm h.1), ih h.2]

theorem splitLines_append (h : '\r' ∉ line) (rest : List Char) :
    splitLines (line ++ '\r' :: '\n' :: rest) = line :: splitLines rest := by
  induction line with
  | nil => rfl
  | cons c line ih =>
    rw [List.mem_cons, not_or] at h
    rw [List.cons_append, splitLines_cons (Ne.symm h.1), ih h.2]

/-- The line breaks that are put between lines are those at which a text is cut. -/
theorem splitLines_flatMap (hline : '\r' ∉ line) (hlines : ∀ l ∈ lines, '\r' ∉ l) :
    splitLines (line ++ lines.flatMap ('\r' :: '\n' :: ·)) = line :: lines := by
  induction lines generalizing line with
  | nil => rw [List.flatMap_nil, List.append_nil, splitLines_of_notMem hline]
  | cons next rest ih =>
    have hrest := ih (hlines next List.mem_cons_self)
      fun l hl => hlines l (List.mem_cons_of_mem next hl)
    rw [List.flatMap_cons, List.cons_append, List.cons_append, splitLines_append hline, hrest]

end Lines

/-! ## The end of the lines -/

section Octets

open Text.Utf8

variable {d : Bytes} {lines : List (List Char)} {rest : Bytes}

/-- The octets of lines, each with a line break behind it. -/
def encodeLines (lines : List (List Char)) : Bytes :=
  lines.flatMap fun line => encodeList line ++ lineBreak

theorem encodeLines_cons (line : List Char) (lines : List (List Char)) :
    encodeLines (line :: lines) = encodeList line ++ lineBreak ++ encodeLines lines :=
  List.flatMap_cons

theorem encodeList_lineBreak (cs : List Char) :
    encodeList ('\r' :: '\n' :: cs) = lineBreak ++ encodeList cs := rfl

/-- The line breaks behind lines are one more than those between them. -/
theorem encodeLines_eq (line : List Char) (lines : List (List Char)) :
    encodeLines (line :: lines) =
      encodeList (line ++ lines.flatMap ('\r' :: '\n' :: ·)) ++ lineBreak := by
  induction lines generalizing line with
  | nil => simp [encodeLines]
  | cons next rest ih =>
    rw [encodeLines_cons, ih next, List.flatMap_cons, List.cons_append, List.cons_append,
      encodeList_append line, encodeList_lineBreak]
    simp only [List.append_assoc]

theorem not_infix_encodeLines (hd : IsSolid d) (hlines : ∀ line ∈ lines, ¬d <:+: encodeList line)
    (hrest : ¬d <:+: rest) : ¬d <:+: encodeLines lines ++ rest := by
  induction lines with
  | nil => exact hrest
  | cons line lines ih =>
    have htail := ih fun l hl => hlines l (List.mem_cons_of_mem line hl)
    rw [encodeLines_cons, List.append_assoc]
    exact not_infix_append_lineBreak hd (hlines line List.mem_cons_self) htail

/-- A line break before a line that is not empty ends no empty line. -/
theorem find?_lineBreak (h : (13 : UInt8) ∉ rest.head?) :
    find? (lineBreak ++ lineBreak) (lineBreak ++ rest) =
      (find? (lineBreak ++ lineBreak) rest).map (· + 2) := by
  have hreturn : ¬lineBreak ++ lineBreak <+: 13 :: 10 :: rest := fun hstart => by
    have hrest : lineBreak <+: rest := (List.prefix_append_right_inj lineBreak).1 hstart
    obtain ⟨tail, rfl⟩ := hrest
    exact h rfl
  have hfeed : ¬lineBreak ++ lineBreak <+: 10 :: rest := fun hstart =>
    absurd (List.cons_prefix_cons.1 hstart).1 (by decide)
  show find? (lineBreak ++ lineBreak) (13 :: 10 :: rest) = _
  rw [find?_cons_of_not_start hreturn, find?_cons_of_not_start hfeed, Option.map_map]
  rfl

/-- The end of a line is where a carriage return is, so the search for an empty line passes over the
line. -/
theorem find?_encodeList {line : List Char} (h : '\r' ∉ line) (rest : Bytes) :
    find? (lineBreak ++ lineBreak) (encodeList line ++ rest) =
      (find? (lineBreak ++ lineBreak) rest).map (· + (encodeList line).length) :=
  find?_append_of_notMem (d := [10, 13, 10])
    (fun hmem => h ((mem_encodeList_iff (c := '\r') (by decide)).1 hmem)) rest

/-- Behind lines of which none is empty, the first empty line is the one that ends them. -/
theorem find?_encodeLines {line : List Char} (hlines : ∀ l ∈ line :: lines, l ≠ [] ∧ '\r' ∉ l)
    (rest : Bytes) :
    find? (lineBreak ++ lineBreak) (encodeLines (line :: lines) ++ lineBreak ++ rest) =
      some (encodeList (line ++ lines.flatMap ('\r' :: '\n' :: ·))).length := by
  induction lines generalizing line with
  | nil =>
    have hbytes : encodeLines [line] ++ lineBreak ++ rest =
        encodeList line ++ ((lineBreak ++ lineBreak) ++ rest) := by simp [encodeLines]
    rw [hbytes, find?_encodeList (hlines line List.mem_cons_self).2, find?_append (by decide)]
    simp
  | cons next more ih =>
    have hbytes : encodeLines (line :: next :: more) ++ lineBreak ++ rest =
        encodeList line ++ (lineBreak ++ (encodeLines (next :: more) ++ lineBreak ++ rest)) := by
      simp only [encodeLines_cons, List.append_assoc]
    obtain ⟨hne, hreturn⟩ := hlines next (List.mem_cons_of_mem line List.mem_cons_self)
    have hhead : (13 : UInt8) ∉ (encodeLines (next :: more) ++ lineBreak ++ rest).head? := by
      rw [encodeLines_cons]
      simp only [List.append_assoc]
      rw [List.head?_append_of_ne_nil _ (encodeList_ne_nil hne)]
      exact fun h => hreturn ((mem_encodeList_iff (c := '\r') (by decide)).1
        (List.mem_of_mem_head? h))
    have hmore := ih fun l hl => hlines l (List.mem_cons_of_mem line hl)
    rw [hbytes, find?_encodeList (hlines line List.mem_cons_self).2, find?_lineBreak hhead, hmore,
      List.flatMap_cons, List.cons_append, List.cons_append, encodeList_append line,
      encodeList_lineBreak]
    simp [lineBreak]
    omega

end Octets

/-! ## Parameters -/

section Parameters

open Text

/-- A parameter as it stands in a line, behind a semicolon. -/
def parameterText (key value : List Char) : List Char := ' ' :: key ++ '=' :: '"' :: value ++ ['"']

/-- A key that is not changed when the text of a parameter is read. -/
structure IsKey (key : List Char) : Prop where
  noEquals : '=' ∉ key
  trimmed : trim key = key

theorem unquote_quoted (value : List Char) : unquote ('"' :: value ++ ['"']) = value := by
  rw [List.cons_append, unquote, if_pos List.getLast?_concat, List.dropLast_concat]

theorem trim_quoted (value : List Char) :
    trim ('"' :: value ++ ['"']) = '"' :: value ++ ['"'] := by
  refine trimList_eq_self ?_ ?_
  · rintro c ⟨⟩
    decide
  · rw [List.getLast?_concat]
    rintro c ⟨⟩
    decide

/-- What is read of a value between quotes: all of it, or, where it has a semicolon, the quote before
it and the text up to the semicolon. -/
def heldValue (value : List Char) : List Char :=
  if ';' ∈ value then '"' :: dropTrailing isBlank (value.takeWhile (· ≠ ';')) else value

theorem parameterOf?_append {key : List Char} (hkey : IsKey key) (name : String)
    (raw : List Char) :
    parameterOf? name (' ' :: key ++ '=' :: raw) =
      if sameName key name then some (String.ofList (unquote (trim raw))) else none := by
  have hequals : '=' ∉ ' ' :: key := fun h =>
    (List.mem_cons.1 h).elim (by decide) hkey.noEquals
  have htrim : trim (' ' :: key) = key := by
    rw [trim, trimList_cons (by decide)]
    exact hkey.trimmed
  rw [parameterOf?, splitOnce_append hequals]
  simp only [Option.bind_eq_bind, Option.bind_some, htrim]

/-- A quote at the front alone is no pair of quotes. -/
theorem unquote_trim_opened {value : List Char} (h : '"' ∉ value) :
    unquote (trim ('"' :: value)) = '"' :: dropTrailing isBlank value := by
  have hlast : (dropTrailing isBlank value).getLast? ≠ some '"' := fun hlast =>
    h (mem_of_mem_dropTrailing (List.mem_of_getLast? hlast))
  have hquote : isBlank '"' = false := by decide
  rw [trim, trimList, List.dropWhile_cons_of_neg (by rw [hquote]; exact Bool.false_ne_true),
    dropTrailing_cons hquote, unquote, if_neg hlast]

/-- Parameters are looked for behind semicolons alone. -/
theorem parameter?_eq_none {line : List Char} (h : ';' ∉ line) (name : String) :
    parameter? line name = none := by
  rw [parameter?, splitOn_of_notMem h]
  rfl

/-- What the pieces of one parameter give.  A semicolon in its value ends the first piece, and the
others are read as parameters of their own. -/
theorem findSome?_parameterText {key value : List Char} (hkey : IsKey key) (hname : ';' ∉ key)
    (hquote : ';' ∈ value → '"' ∉ value) (name : String) :
    (splitOn ';' (parameterText key value)).findSome? (parameterOf? name) =
      if sameName key name then some (String.ofList (heldValue value))
      else parameter? (value ++ ['"']) name := by
  by_cases hvalue : ';' ∈ value
  · obtain ⟨before, after, rfl, hbefore⟩ := List.eq_append_cons_of_mem hvalue
    have hbare : '"' ∉ before := fun h => hquote hvalue (List.mem_append_left _ h)
    have hpiece : ';' ∉ ' ' :: key ++ '=' :: '"' :: before := by simp [hname, hbefore]
    have htext : parameterText key (before ++ ';' :: after) =
        (' ' :: key ++ '=' :: '"' :: before) ++ ';' :: (after ++ ['"']) := by simp [parameterText]
    have hheld : heldValue (before ++ ';' :: after) = '"' :: dropTrailing isBlank before := by
      rw [heldValue, if_pos hvalue,
        List.takeWhile_append_of_pos (decide_ne_of_notMem hbefore),
        List.takeWhile_cons_of_neg (by simp), List.append_nil]
    have hspilled : parameter? (before ++ ';' :: after ++ ['"']) name =
        (splitOn ';' (after ++ ['"'])).findSome? (parameterOf? name) := by
      rw [List.append_assoc, List.cons_append, parameter?, splitOn_append_cons hbefore,
        List.drop_one, List.tail_cons]
    rw [htext, splitOn_append_cons hpiece, List.findSome?_cons, parameterOf?_append hkey,
      unquote_trim_opened hbare, hheld, hspilled]
    cases sameName key name <;> rfl
  · have hpiece : ';' ∉ parameterText key value := by simp [parameterText, hname, hvalue]
    have hspilled : parameter? (value ++ ['"']) name = none :=
      parameter?_eq_none (by simp [hvalue]) name
    have htext : parameterText key value = ' ' :: key ++ '=' :: ('"' :: value ++ ['"']) := by
      simp [parameterText]
    rw [splitOn_of_notMem hpiece, htext, List.findSome?_singleton, parameterOf?_append hkey,
      trim_quoted, unquote_quoted, heldValue, if_neg hvalue, hspilled]

/-- The parameters of a line: the first piece counts that is one of the name, be it a parameter or
what is behind a semicolon in the value of another. -/
theorem parameter?_line {start : List Char} {parameters : List (List Char × List Char)}
    (hstart : ';' ∉ start)
    (hparameters : ∀ p ∈ parameters, IsKey p.1 ∧ ';' ∉ p.1 ∧ (';' ∈ p.2 → '"' ∉ p.2))
    (name : String) :
    parameter? (start ++ parameters.flatMap fun p => ';' :: parameterText p.1 p.2) name =
      parameters.findSome? fun p =>
        if sameName p.1 name then some (String.ofList (heldValue p.2))
        else parameter? (p.2 ++ ['"']) name := by
  have hsplit := splitOn_append_flatMap ';' start
    (parameters.map fun p => parameterText p.1 p.2)
  rw [List.flatMap_map, splitOn_of_notMem hstart] at hsplit
  rw [parameter?, hsplit, List.singleton_append, List.drop_one, List.tail_cons]
  clear hsplit
  induction parameters with
  | nil => rfl
  | cons p rest ih =>
    obtain ⟨hkey, hname, hquote⟩ := hparameters p List.mem_cons_self
    have hrest := ih fun q hq => hparameters q (List.mem_cons_of_mem p hq)
    rw [List.map_cons, List.flatMap_cons, List.findSome?_append, hrest,
      findSome?_parameterText hkey hname hquote, List.findSome?_cons]
    cases (if sameName p.1 name then some (String.ofList (heldValue p.2))
      else parameter? (p.2 ++ ['"']) name) <;> rfl

/-- Where no value has a semicolon, the first parameter of a name counts. -/
theorem parameter?_eq {start : List Char} {parameters : List (List Char × List Char)}
    (hstart : ';' ∉ start) (hparameters : ∀ p ∈ parameters, IsKey p.1 ∧ ';' ∉ p.1 ∧ ';' ∉ p.2)
    (name : String) :
    parameter? (start ++ parameters.flatMap fun p => ';' :: parameterText p.1 p.2) name =
      (parameters.find? fun p => sameName p.1 name).map fun p => String.ofList p.2 := by
  rw [parameter?_line hstart fun p hp =>
    ⟨(hparameters p hp).1, (hparameters p hp).2.1, fun h => absurd h (hparameters p hp).2.2⟩]
  induction parameters with
  | nil => rfl
  | cons p rest ih =>
    have hrest := ih fun q hq => hparameters q (List.mem_cons_of_mem p hq)
    obtain ⟨-, -, hvalue⟩ := hparameters p List.mem_cons_self
    have hspilled : parameter? (p.2 ++ ['"']) name = none :=
      parameter?_eq_none (by simp [hvalue]) name
    rw [List.findSome?_cons, List.find?_cons, heldValue, if_neg hvalue, hspilled]
    cases sameName p.1 name with
    | true => rfl
    | false => exact hrest

end Parameters

/-! ## Dispositions and types -/

/-- The line that tells what a part is, whatever its parameters are, is found by its start. -/
theorem startsIgnoringCase_disposition (rest : List Char) :
    startsIgnoringCase "content-disposition:"
      ("Content-Disposition: form-data".toList ++ rest) = true :=
  List.isPrefixOf_iff_prefix.2 ⟨(" form-data".toList ++ rest).map Char.toLower, rfl⟩

theorem contentTypeOf?_append {name : List Char} (hname : ':' ∉ name) (value : List Char) :
    contentTypeOf? (name ++ ':' :: value) =
      if sameName (trim name) "content-type" then some (String.ofList (trim value)) else none := by
  simp only [contentTypeOf?, Text.splitOnce_append hname, Option.bind_eq_bind, Option.bind_some]

/-- That line declares no type. -/
theorem contentTypeOf?_disposition (rest : List Char) :
    contentTypeOf? ("Content-Disposition: form-data".toList ++ rest) = none := by
  have hname : sameName (trim "Content-Disposition".toList) "content-type" = false := by decide
  have hcolon : ':' ∉ "Content-Disposition".toList := by decide
  have hstart : "Content-Disposition: form-data".toList =
      "Content-Disposition".toList ++ ':' :: " form-data".toList := by decide
  rw [hstart, List.append_assoc, List.cons_append, contentTypeOf?_append hcolon, hname]
  exact if_neg Bool.false_ne_true

end ObjectGateway.Multipart
