import ObjectGateway.Proofs.Pattern.Threads

/-!
# Leftmost matches

A search tries the offsets of a text from left to right.  So it finds a match exactly if there is
one (`search_isSome_iff`), and what it finds are the groups of a match that no other one begins
before (`search_leftmost`).
-/

namespace ObjectGateway.Pattern

variable {text : List Char}

/-! ## The first offset -/

section FirstMatch

variable {at? : Nat → Option Char → List Char → Option Slots}

/-- The attempt at an offset of a text. -/
def attempt (at? : Nat → Option Char → List Char → Option Slots) (text : List Char) (i : Nat) :
    Option Slots :=
  at? i (placeAt text i).before (text.drop i)

theorem firstMatch_cons {x : Char} {cs : List Char} {i : Nat} (hcs : text.drop i = x :: cs) :
    firstMatch at? i (placeAt text i).before (x :: cs) =
      (attempt at? text i).or (firstMatch at? (i + 1) (placeAt text (i + 1)).before cs) := by
  rw [firstMatch, placeAt_succ (getElem?_of_drop_eq_cons hcs), attempt, hcs]
  cases at? i (placeAt text i).before (x :: cs) with
  | none => rfl
  | some slots => rfl

/-- What is found is found at the first offset where there is something. -/
theorem firstMatch_eq_some {cs : List Char} {i : Nat} {slots : Slots} (hcs : text.drop i = cs)
    (hi : i ≤ text.length) (h : firstMatch at? i (placeAt text i).before cs = some slots) :
    ∃ j ≤ text.length, attempt at? text j = some slots ∧
      ∀ k, i ≤ k → k < j → attempt at? text k = none := by
  induction cs generalizing i with
  | nil => exact ⟨i, hi, by rwa [attempt, hcs], fun k hle hlt => absurd hle (Nat.not_le_of_lt hlt)⟩
  | cons x cs ih =>
    rw [firstMatch_cons hcs, Option.or_eq_some_iff] at h
    rcases h with hhere | ⟨hnone, hlater⟩
    · exact ⟨i, hi, hhere, fun k hle hlt => absurd hle (Nat.not_le_of_lt hlt)⟩
    · have hi' : i < text.length := (List.getElem?_eq_some_iff.1 (getElem?_of_drop_eq_cons hcs)).1
      obtain ⟨j, hj, hfound, hbefore⟩ := ih (drop_succ_of_drop_eq_cons hcs) hi' hlater
      refine ⟨j, hj, hfound, fun k hle hlt => ?_⟩
      rcases Nat.eq_or_lt_of_le hle with rfl | hgt
      · exact hnone
      · exact hbefore k hgt hlt

/-- Nothing is passed over. -/
theorem firstMatch_eq_none {cs : List Char} {i j : Nat} (hcs : text.drop i = cs)
    (h : firstMatch at? i (placeAt text i).before cs = none) (hij : i ≤ j) (hj : j ≤ text.length) :
    attempt at? text j = none := by
  induction cs generalizing i with
  | nil =>
    have hlength := List.drop_eq_nil_iff.1 hcs
    obtain rfl : i = j := by omega
    rwa [attempt, hcs]
  | cons x cs ih =>
    rw [firstMatch_cons hcs, Option.or_eq_none_iff] at h
    rcases Nat.eq_or_lt_of_le hij with rfl | hlt
    · exact h.1
    · exact ih (drop_succ_of_drop_eq_cons hcs) h.2 hlt

end FirstMatch

/-! ## Groups -/

/-- A pattern has a group of a number. -/
def HasGroup (i : Nat) : Pattern → Prop
  | .empty | .one _ | .place _ => False
  | .group k p => i = k ∨ HasGroup i p
  | .seq l r | .alt l r => HasGroup i l ∨ HasGroup i r
  | .repeated p _ _ _ => HasGroup i p

theorem lastGroup_pos_iff {p : Pattern} : 0 < p.lastGroup ↔ ∃ i, 0 < i ∧ HasGroup i p := by
  induction p with
  | empty => simp [lastGroup, HasGroup]
  | one => simp [lastGroup, HasGroup]
  | place => simp [lastGroup, HasGroup]
  | group k p ih => simp [lastGroup, HasGroup, ih, and_or_left, exists_or]
  | seq l r ihl ihr => simp [lastGroup, HasGroup, ihl, ihr, and_or_left, exists_or]
  | alt l r ihl ihr => simp [lastGroup, HasGroup, ihl, ihr, and_or_left, exists_or]
  | repeated p low high greedy ih => exact ih

/-! ## Matches -/

namespace Compiled

variable {p : Compiled}

/-- A pattern has groups beside the whole match. -/
def HasGroups (p : Compiled) : Prop := ∃ i, 0 < i ∧ HasGroup i p.tree

theorem one_lt_groupCount_iff : 1 < p.groupCount ↔ p.HasGroups := by
  rw [groupCount, Nat.lt_add_left_iff_pos]
  exact lastGroup_pos_iff

/-- A match of a pattern begins at an offset of a text and leads to an end. -/
def MatchesFrom (p : Compiled) (text : List Char) (start : Nat) (last : Progress) : Prop :=
  start ≤ text.length ∧
    Matches text (.group 0 p.tree) ⟨start, Array.replicate (2 * p.groupCount) none⟩ last

/-- A pattern matches somewhere in a text. -/
def Occurs (p : Compiled) (text : List Char) : Prop := ∃ start last, p.MatchesFrom text start last

/-- A match that no other one begins before. -/
def Leftmost (p : Compiled) (text : List Char) (last : Progress) : Prop :=
  ∃ start, p.MatchesFrom text start last ∧ ∀ earlier < start, ∀ l, ¬ p.MatchesFrom text earlier l

/-- The text between the places where a group began and ended, if it took part. -/
def capture (text : List Char) (slots : Slots) (i : Nat) : Option (List Char) :=
  match (slots[2 * i]?).join, (slots[2 * i + 1]?).join with
  | some a, some b => some ((text.drop a).take (b - a))
  | _, _ => none

/-- The texts of the groups at the end of a match. -/
def captures (p : Compiled) (text : List Char) (last : Progress) : List (Option (List Char)) :=
  (List.range p.groupCount).map (capture text last.slots)

theorem search_eq : p.search text =
    (firstMatch (matchAt (Program.of (.group 0 p.tree)).1 (Program.of (.group 0 p.tree)).2
      p.groupCount) 0 none text).map fun slots =>
        (List.range p.groupCount).map (capture text slots) := rfl

section Attempt

variable {i : Nat}

theorem matchesFrom_of_attempt {slots : Slots} (hi : i ≤ text.length)
    (h : attempt (matchAt (Program.of (.group 0 p.tree)).1 (Program.of (.group 0 p.tree)).2
      p.groupCount) text i = some slots) : ∃ j, p.MatchesFrom text i ⟨j, slots⟩ := by
  obtain ⟨j, haccepted⟩ := matchAt_sound h
  exact ⟨j, hi, accepted_iff.1 haccepted⟩

theorem not_matchesFrom_of_attempt {last : Progress}
    (h : attempt (matchAt (Program.of (.group 0 p.tree)).1 (Program.of (.group 0 p.tree)).2
      p.groupCount) text i = none) : ¬ p.MatchesFrom text i last := by
  rintro ⟨-, hmatches⟩
  have hsome := matchAt_complete (accepted_iff.2 hmatches)
  rw [attempt] at h
  rw [h] at hsome
  exact Bool.noConfusion hsome

end Attempt

/-- A search yields the groups of a leftmost match. -/
theorem search_leftmost {groups : List (Option (List Char))} (h : p.search text = some groups) :
    ∃ last, p.Leftmost text last ∧ groups = p.captures text last := by
  rw [search_eq, Option.map_eq_some_iff] at h
  obtain ⟨slots, hfirst, rfl⟩ := h
  obtain ⟨start, hstart, hfound, hbefore⟩ := firstMatch_eq_some rfl (Nat.zero_le _) hfirst
  obtain ⟨j, hmatches⟩ := matchesFrom_of_attempt hstart hfound
  refine ⟨⟨j, slots⟩, ⟨start, hmatches, fun earlier hearlier last => ?_⟩, rfl⟩
  exact not_matchesFrom_of_attempt (hbefore earlier (Nat.zero_le _) hearlier)

/-- A search finds something exactly if there is something. -/
theorem search_isSome_iff : (p.search text).isSome = true ↔ p.Occurs text := by
  constructor
  · intro h
    obtain ⟨groups, hgroups⟩ := Option.isSome_iff_exists.1 h
    obtain ⟨last, ⟨start, hmatches, -⟩, -⟩ := search_leftmost hgroups
    exact ⟨start, last, hmatches⟩
  · rintro ⟨start, last, hmatches⟩
    by_contra hnone
    rw [search_eq, Option.isSome_map, Option.not_isSome_iff_eq_none] at hnone
    have hnothing := firstMatch_eq_none rfl hnone (Nat.zero_le start) hmatches.1
    exact not_matchesFrom_of_attempt hnothing hmatches

end Compiled

end ObjectGateway.Pattern
