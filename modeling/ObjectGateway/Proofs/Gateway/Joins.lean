import ObjectGateway.Proofs.Gateway.Links
import ObjectGateway.Proofs.Gateway.Shapes

/-!
# Joined paths

What a join has followed so far is a stack of segments.  A name is put on it, and `..` takes the last
name off; where no name is left, `..` goes up and stays, unless the root is in its way.  `Stacked`
says which stacks there can be, and `Canonical` says the same of texts.

The text of such a stack leads to the same stack again (`stackAfter_normalPath`).  So a join can be
continued from its result as well as from its texts, and the texts that a join leaves alone are
exactly the canonical ones: `joinPath_lexical`.
-/

namespace ObjectGateway

/-- Whether a path begins at the root. -/
def isAtRoot (path : List Char) : Bool := path.head? = some '/'

/-- The segments of a path, behind the slash of the root. -/
def pathSegments : List Char → List (List Char)
  | '/' :: rest => Text.splitOn '/' rest
  | path => Text.splitOn '/' path

/-- No `..` stands behind another segment. -/
def UpFirst (segments : List (List Char)) : Prop :=
  ∃ ups names, segments = List.replicate ups ['.', '.'] ++ names ∧ ['.', '.'] ∉ names

/-- A path that cannot be made shorter by its segments alone. -/
structure Canonical (path : List Char) : Prop where
  nonempty : path ≠ ['/'] → [] ∉ pathSegments path
  undotted : path ≠ ['.'] → ['.'] ∉ pathSegments path
  /-- There is no way up from the root. -/
  rooted : isAtRoot path = true → ['.', '.'] ∉ pathSegments path
  relative : isAtRoot path = false → UpFirst (pathSegments path)
  unended : path ≠ ['/'] → path.getLast? ≠ some '/'

/-- The segments that a path can have led through, the last one first. -/
inductive Stacked (rooted : Bool) : List (List Char) → Prop
  | ups (n : Nat) (h : rooted = true → n = 0) : Stacked rooted (List.replicate n ['.', '.'])
  | name {s : List Char} {parts : List (List Char)} (hs : IsSegment s) (h : Stacked rooted parts) :
    Stacked rooted (s :: parts)

/-- The segments that a text leads to from others, the last one first. -/
def stackAfter (rooted : Bool) (parts : List (List Char)) (cs : List Char) : List (List Char) :=
  (Text.splitOn '/' cs).foldl (followSegment rooted) parts

/-! ## Stacks -/

section Stacks

variable {rooted : Bool} {parts names segments : List (List Char)} {s : List Char}

theorem Stacked.nil (rooted : Bool) : Stacked rooted [] := .ups 0 fun _ => rfl

theorem Stacked.append (h : Stacked rooted parts) (hnames : ∀ s ∈ names, IsSegment s) :
    Stacked rooted (names ++ parts) := by
  induction names with
  | nil => exact h
  | cons s rest ih =>
    exact .name (hnames s List.mem_cons_self)
      (ih fun r hr => hnames r (List.mem_cons_of_mem s hr))

theorem followSegment_name (hs : IsSegment s) (parts : List (List Char)) :
    followSegment rooted parts s = s :: parts := by
  obtain ⟨hempty, hdot, hup, -⟩ := hs
  simp [followSegment, hempty, hdot, hup]

theorem followSegment_blank (h : s = [] ∨ s = ['.']) (parts : List (List Char)) :
    followSegment rooted parts s = parts := by
  simp [followSegment, h]

/-- Where there is no name to take off and no root, the way leads up. -/
theorem followSegment_up (n : Nat) :
    followSegment false (List.replicate n ['.', '.']) ['.', '.'] =
      List.replicate (n + 1) ['.', '.'] := by
  cases n with
  | zero => rfl
  | succ n => rfl

/-- A segment leads from one stack to another. -/
theorem Stacked.next (h : Stacked rooted parts) (hs : '/' ∉ s) :
    Stacked rooted (followSegment rooted parts s) := by
  by_cases hblank : s = [] ∨ s = ['.']
  · rw [followSegment_blank hblank]
    exact h
  rw [not_or] at hblank
  by_cases hup : s = ['.', '.']
  · subst hup
    cases h with
    | name hname h => simpa [followSegment, hname.2.2.1] using h
    | ups n hn =>
      cases rooted with
      | true =>
        obtain rfl := hn rfl
        exact .nil true
      | false =>
        rw [followSegment_up]
        exact .ups (n + 1) fun hrooted => absurd hrooted Bool.false_ne_true
  · have hname : IsSegment s := ⟨hblank.1, hblank.2, hup, hs⟩
    rw [followSegment_name hname]
    exact .name hname h

theorem stacked_stackAfter (h : Stacked rooted parts) (cs : List Char) :
    Stacked rooted (stackAfter rooted parts cs) := by
  have hfold : ∀ segments : List (List Char), (∀ s ∈ segments, '/' ∉ s) →
      Stacked rooted (segments.foldl (followSegment rooted) parts) := by
    intro segments
    induction segments generalizing parts with
    | nil => exact fun _ => h
    | cons s rest ih =>
      intro hsegments
      exact ih (h.next (hsegments s List.mem_cons_self))
        fun r hr => hsegments r (List.mem_cons_of_mem s hr)
  exact hfold _ fun _ => notMem_of_mem_splitOn

/-- The segments of a stack lead to it again. -/
theorem Stacked.foldl_reverse (h : Stacked rooted parts) :
    parts.reverse.foldl (followSegment rooted) [] = parts := by
  induction h with
  | ups n hn =>
    rw [List.reverse_replicate]
    induction n with
    | zero => rfl
    | succ n ih =>
      cases rooted with
      | true => cases hn rfl
      | false =>
        rw [List.replicate_succ', List.foldl_append,
          ih fun hrooted => absurd hrooted Bool.false_ne_true, ← List.replicate_succ']
        exact followSegment_up n
  | name hs _ ih =>
    rw [List.reverse_cons, List.foldl_append, ih]
    exact followSegment_name hs _

theorem Stacked.plain (h : Stacked rooted parts) : ∀ s ∈ parts, s ≠ [] ∧ s ≠ ['.'] ∧ '/' ∉ s := by
  induction h with
  | ups n _ =>
    intro s hs
    rw [List.eq_of_mem_replicate hs]
    decide
  | name hs _ ih => exact List.forall_mem_cons.2 ⟨⟨hs.1, hs.2.1, hs.2.2.2⟩, ih⟩

theorem Stacked.notMem (h : Stacked true parts) : ['.', '.'] ∉ parts := by
  induction h with
  | ups n hn => simp [hn rfl]
  | name hs _ ih =>
    rw [List.mem_cons, not_or]
    exact ⟨Ne.symm hs.2.2.1, ih⟩

theorem Stacked.upFirst (h : Stacked rooted parts) : UpFirst parts.reverse := by
  induction h with
  | ups n _ => exact ⟨n, [], by simp, List.not_mem_nil⟩
  | @name s parts hs _ ih =>
    obtain ⟨n, names, hparts, hnames⟩ := ih
    refine ⟨n, names ++ [s], by rw [List.reverse_cons, hparts, List.append_assoc], ?_⟩
    rw [List.mem_append, List.mem_singleton, not_or]
    exact ⟨hnames, Ne.symm hs.2.2.1⟩

end Stacks

/-! ## Texts of segments -/

section Texts

variable {rooted : Bool} {parts segments : List (List Char)} {cs ds : List Char}

theorem rootedPath_splitOn (cs : List Char) : rootedPath (Text.splitOn '/' cs) = '/' :: cs := by
  induction cs with
  | nil => rfl
  | cons x rest ih =>
    rw [Text.splitOn]
    split
    · next hx => rw [rootedPath_cons, ih, hx, List.singleton_append]
    · obtain ⟨piece, pieces, hpieces⟩ := List.exists_cons_of_ne_nil (Text.splitOn_ne_nil '/' rest)
      rw [hpieces, rootedPath_cons, List.cons_append, List.cons.injEq] at ih
      simp only [hpieces, rootedPath_cons, List.cons_append, ih.2]

/-- Joining undoes cutting. -/
theorem joinSegments_splitOn (cs : List Char) : joinSegments (Text.splitOn '/' cs) = cs := by
  have hjoined := cons_joinSegments (Text.splitOn_ne_nil '/' cs)
  rw [rootedPath_splitOn] at hjoined
  exact (List.cons.inj hjoined).2

/-- Cutting undoes joining. -/
theorem splitOn_joinSegments (hne : segments ≠ []) (h : ∀ s ∈ segments, '/' ∉ s) :
    Text.splitOn '/' (joinSegments segments) = segments := by
  have hsplit : Text.splitOn '/' ('/' :: joinSegments segments) = [] :: segments := by
    rw [cons_joinSegments hne]
    exact Text.splitOn_flatMap List.not_mem_nil h
  rw [Text.splitOn, if_pos rfl] at hsplit
  exact (List.cons.inj hsplit).2

theorem isAtRoot_joinSegments (h : ∀ s ∈ segments, s ≠ [] ∧ '/' ∉ s) :
    isAtRoot (joinSegments segments) = false := by
  cases segments with
  | nil => rfl
  | cons s rest =>
    obtain ⟨hne, hslash⟩ := h s List.mem_cons_self
    obtain ⟨c, s, rfl⟩ := List.exists_cons_of_ne_nil hne
    have hc : c ≠ '/' := fun hc => hslash (hc ▸ List.mem_cons_self)
    cases rest with
    | nil => simp [isAtRoot, joinSegments, hc]
    | cons _ _ => simp [isAtRoot, joinSegments, hc]

theorem pathSegments_of_relative (h : isAtRoot cs = false) :
    pathSegments cs = Text.splitOn '/' cs := by
  unfold pathSegments
  split
  · simp [isAtRoot] at h
  · rfl

theorem exists_of_isAtRoot (h : isAtRoot cs = true) : ∃ rest, cs = '/' :: rest := by
  cases cs with
  | nil => cases h
  | cons c rest =>
    obtain rfl : c = '/' := by simpa [isAtRoot] using h
    exact ⟨rest, rfl⟩

@[simp] theorem stackAfter_nil (rooted : Bool) (parts : List (List Char)) :
    stackAfter rooted parts [] = parts := by
  simp [stackAfter, Text.splitOn, followSegment]

theorem stackAfter_append (rooted : Bool) (parts : List (List Char)) (cs ds : List Char) :
    stackAfter rooted parts (cs ++ '/' :: ds) =
      stackAfter rooted (stackAfter rooted parts cs) ds := by
  rw [stackAfter, Text.splitOn_append_separator, List.foldl_append]
  rfl

/-- The slash of the root leads nowhere else. -/
theorem stackAfter_eq_pathSegments (rooted : Bool) (parts : List (List Char)) (cs : List Char) :
    stackAfter rooted parts cs = (pathSegments cs).foldl (followSegment rooted) parts := by
  cases hroot : isAtRoot cs with
  | false => rw [stackAfter, pathSegments_of_relative hroot]
  | true =>
    obtain ⟨rest, rfl⟩ := exists_of_isAtRoot hroot
    exact (stackAfter_append rooted parts [] rest).trans (by rw [stackAfter_nil]; rfl)

theorem followPath_eq (rooted : Bool) (cs : List Char) :
    followPath rooted cs = (stackAfter rooted [] cs).reverse := rfl

end Texts

/-! ## Paths in their shortest form -/

section Normal

variable {cs ds : List Char}

theorem isAtRoot_iff : isAtRoot cs = true ↔ cs.head? = some '/' := decide_eq_true_iff

theorem normalPath_of_rooted (h : isAtRoot cs = true) :
    normalPath cs = '/' :: joinSegments (followPath true cs) := by
  simp only [normalPath, isAtRoot_iff.1 h, decide_true, if_true]

theorem normalPath_of_relative (h : isAtRoot cs = false) :
    normalPath cs =
      if followPath false cs = [] then ['.'] else joinSegments (followPath false cs) := by
  have hhead : cs.head? ≠ some '/' := of_decide_eq_false h
  have hempty : joinSegments (followPath false cs) = [] ↔ followPath false cs = [] :=
    joinSegments_eq_nil_iff fun s hs => (mem_followPath hs).1
  simp only [normalPath, hhead, decide_false, if_false, List.isEmpty_iff, hempty]

/-- The shortest form of a path is determined by where the path begins and where it leads. -/
theorem normalPath_congr (hroot : isAtRoot cs = isAtRoot ds)
    (hstack : stackAfter (isAtRoot ds) [] cs = stackAfter (isAtRoot ds) [] ds) :
    normalPath cs = normalPath ds := by
  have hfollow : followPath (isAtRoot ds) cs = followPath (isAtRoot ds) ds :=
    congrArg List.reverse hstack
  cases hds : isAtRoot ds with
  | true =>
    rw [hds] at hroot hfollow
    rw [normalPath_of_rooted hroot, normalPath_of_rooted hds, hfollow]
  | false =>
    rw [hds] at hroot hfollow
    rw [normalPath_of_relative hroot, normalPath_of_relative hds, hfollow]

theorem isAtRoot_normalPath (cs : List Char) : isAtRoot (normalPath cs) = isAtRoot cs := by
  cases hroot : isAtRoot cs with
  | true => rw [normalPath_of_rooted hroot]; rfl
  | false =>
    rw [normalPath_of_relative hroot]
    split
    · rfl
    · exact isAtRoot_joinSegments fun s hs => mem_followPath hs

/-- The shortest form of a path has the segments that the path leads through, if there are any. -/
theorem pathSegments_normalPath (h : followPath (isAtRoot cs) cs ≠ []) :
    pathSegments (normalPath cs) = followPath (isAtRoot cs) cs := by
  have hslash : ∀ s ∈ followPath (isAtRoot cs) cs, '/' ∉ s := fun s hs => (mem_followPath hs).2
  have hsplit := splitOn_joinSegments h hslash
  cases hroot : isAtRoot cs with
  | true =>
    rw [hroot] at hsplit
    rw [normalPath_of_rooted hroot]
    exact hsplit
  | false =>
    rw [pathSegments_of_relative ((isAtRoot_normalPath cs).trans hroot)]
    rw [hroot] at h hsplit
    rw [normalPath_of_relative hroot, if_neg h, hsplit]

theorem normalPath_of_nil (h : followPath (isAtRoot cs) cs = []) :
    normalPath cs = if isAtRoot cs then ['/'] else ['.'] := by
  cases hroot : isAtRoot cs with
  | true =>
    rw [hroot] at h
    rw [normalPath_of_rooted hroot, h]
    rfl
  | false =>
    rw [hroot] at h
    rw [normalPath_of_relative hroot, if_pos h]
    rfl

/-- The shortest form of a path leads to where the path does. -/
theorem stackAfter_normalPath (cs : List Char) :
    stackAfter (isAtRoot cs) [] (normalPath cs) = stackAfter (isAtRoot cs) [] cs := by
  by_cases hnil : followPath (isAtRoot cs) cs = []
  · have hnone : stackAfter (isAtRoot cs) [] cs = [] := List.reverse_eq_nil_iff.1 hnil
    rw [normalPath_of_nil hnil, hnone]
    cases isAtRoot cs with
    | true => rfl
    | false => rfl
  · rw [stackAfter_eq_pathSegments, pathSegments_normalPath hnil]
    exact (stacked_stackAfter (.nil _) cs).foldl_reverse

theorem normalPath_ne_nil (cs : List Char) : normalPath cs ≠ [] := by
  cases hroot : isAtRoot cs with
  | true => simp [normalPath_of_rooted hroot]
  | false =>
    rw [normalPath_of_relative hroot]
    split
    · exact List.cons_ne_nil _ _
    · next hne => exact (joinSegments_eq_nil_iff fun s hs => (mem_followPath hs).1).not.2 hne

theorem isAtRoot_append (hne : cs ≠ []) (ds : List Char) : isAtRoot (cs ++ ds) = isAtRoot cs := by
  rw [isAtRoot, List.head?_append_of_ne_nil _ hne, isAtRoot]

/-- A slash at the end of a path is dropped. -/
theorem normalPath_append_slash (hne : cs ≠ []) : normalPath (cs ++ ['/']) = normalPath cs :=
  normalPath_congr (isAtRoot_append hne _) (by rw [stackAfter_append, stackAfter_nil])

/-- Slashes that follow one another are one. -/
theorem normalPath_append_slashes (hne : cs ≠ []) (ds : List Char) :
    normalPath (cs ++ '/' :: '/' :: ds) = normalPath (cs ++ '/' :: ds) := by
  refine normalPath_congr ?_ ?_
  · rw [isAtRoot_append hne, isAtRoot_append hne]
  · rw [stackAfter_append, stackAfter_append, ← List.nil_append ('/' :: ds), stackAfter_append,
      stackAfter_nil]

/-- A path goes on from its shortest form as it goes on from its text. -/
theorem normalPath_normalPath_append (hne : cs ≠ []) (ds : List Char) :
    normalPath (normalPath cs ++ '/' :: ds) = normalPath (cs ++ '/' :: ds) := by
  refine normalPath_congr ?_ ?_
  · rw [isAtRoot_append (normalPath_ne_nil cs), isAtRoot_append hne, isAtRoot_normalPath]
  · rw [stackAfter_append, stackAfter_append, isAtRoot_append hne, stackAfter_normalPath]

theorem normalPath_normalPath (cs : List Char) : normalPath (normalPath cs) = normalPath cs :=
  normalPath_congr (isAtRoot_normalPath cs) (stackAfter_normalPath cs)

theorem canonical_normalPath (cs : List Char) : Canonical (normalPath cs) := by
  have hstacked := stacked_stackAfter (.nil (isAtRoot cs)) cs
  have hlast : normalPath cs ≠ ['/'] → (normalPath cs).getLast? ≠ some '/' := fun hne hslash =>
    let ⟨hhead, hdepth⟩ := normalPath_getLast?_iff.1 hslash
    hne (normalPath_of_depth hhead hdepth)
  by_cases hnil : followPath (isAtRoot cs) cs = []
  · have hshort := normalPath_of_nil hnil
    cases hroot : isAtRoot cs with
    | true =>
      rw [hroot, if_pos rfl] at hshort
      rw [hshort] at hlast ⊢
      exact ⟨fun h => absurd rfl h, fun _ => by decide, fun _ => by decide, nofun, hlast⟩
    | false =>
      rw [hroot, if_neg Bool.false_ne_true] at hshort
      rw [hshort] at hlast ⊢
      exact ⟨fun _ => by decide, fun h => absurd rfl h, nofun,
        fun _ => ⟨0, [['.']], rfl, by decide⟩, hlast⟩
  · have hsegments := pathSegments_normalPath hnil
    have hplain : ∀ s ∈ followPath (isAtRoot cs) cs, s ≠ [] ∧ s ≠ ['.'] ∧ '/' ∉ s := fun s hs =>
      hstacked.plain s (List.mem_reverse.1 hs)
    refine ⟨fun _ => ?_, fun _ => ?_, fun hroot => ?_, fun _ => ?_, hlast⟩
    · rw [hsegments]
      exact fun h => (hplain [] h).1 rfl
    · rw [hsegments]
      exact fun h => (hplain ['.'] h).2.1 rfl
    · rw [isAtRoot_normalPath] at hroot
      rw [hsegments, followPath_eq, List.mem_reverse]
      rw [hroot] at hstacked ⊢
      exact hstacked.notMem
    · rw [hsegments]
      exact hstacked.upFirst

/-- The segments of a canonical path are those of a stack. -/
theorem Canonical.stacked (h : Canonical cs) (hroot : cs ≠ ['/']) (hdot : cs ≠ ['.']) :
    Stacked (isAtRoot cs) (pathSegments cs).reverse := by
  have hslash : ∀ s ∈ pathSegments cs, '/' ∉ s := by
    unfold pathSegments
    split
    · exact fun _ => notMem_of_mem_splitOn
    · exact fun _ => notMem_of_mem_splitOn
  have hsegment : ∀ s ∈ pathSegments cs, s ≠ ['.', '.'] → IsSegment s := fun s hs hup =>
    ⟨fun he => h.nonempty hroot (he ▸ hs), fun he => h.undotted hdot (he ▸ hs), hup, hslash s hs⟩
  cases hrooted : isAtRoot cs with
  | true =>
    rw [← List.append_nil (pathSegments cs).reverse]
    refine (Stacked.nil true).append fun s hs => ?_
    rw [List.mem_reverse] at hs
    exact hsegment s hs fun he => h.rooted hrooted (he ▸ hs)
  | false =>
    obtain ⟨n, names, hsegments, hnames⟩ := h.relative hrooted
    rw [hsegments, List.reverse_append, List.reverse_replicate]
    refine Stacked.append (.ups n nofun) fun s hs => ?_
    rw [List.mem_reverse] at hs
    exact hsegment s (hsegments ▸ List.mem_append_right _ hs) fun he => hnames (he ▸ hs)

/-- The shortest forms of paths are the canonical ones. -/
theorem normalPath_eq_self_iff : normalPath cs = cs ↔ Canonical cs := by
  refine ⟨fun h => h ▸ canonical_normalPath cs, fun h => ?_⟩
  by_cases hroot : cs = ['/']
  · rw [hroot]
    rfl
  by_cases hdot : cs = ['.']
  · rw [hdot]
    rfl
  have hfollow : followPath (isAtRoot cs) cs = pathSegments cs := by
    have hreplay := (h.stacked hroot hdot).foldl_reverse
    rw [List.reverse_reverse] at hreplay
    rw [followPath_eq, stackAfter_eq_pathSegments, hreplay, List.reverse_reverse]
  cases hrooted : isAtRoot cs with
  | true =>
    rw [hrooted] at hfollow
    rw [normalPath_of_rooted hrooted, hfollow]
    obtain ⟨rest, rfl⟩ := exists_of_isAtRoot hrooted
    exact congrArg ('/' :: ·) (joinSegments_splitOn rest)
  | false =>
    rw [hrooted, pathSegments_of_relative hrooted] at hfollow
    rw [normalPath_of_relative hrooted, hfollow, if_neg (Text.splitOn_ne_nil '/' cs),
      joinSegments_splitOn]

end Normal

/-! ## Joins -/

section Joins

variable {a b : String}

theorem joinedText_empty (base : String) : joinedText base "" = base.toList := by
  unfold joinedText
  split
  · next hbase => rw [String.isEmpty_iff.1 hbase]
  · rfl

theorem joinedText_of_ne {base rest : String} (hbase : base ≠ "") (hrest : rest ≠ "") :
    joinedText base rest = base.toList ++ '/' :: rest.toList := by
  rw [joinedText, if_neg (mt String.isEmpty_iff.1 hbase), if_neg (mt String.isEmpty_iff.1 hrest)]

theorem joinedText_eq_nil_iff : joinedText a b = [] ↔ a = "" ∧ b = "" := by
  by_cases ha : a = ""
  · subst ha
    simp [joinedText]
  · by_cases hb : b = ""
    · subst hb
      simp [joinedText_empty]
    · simp [joinedText_of_ne ha hb, ha]

theorem joinPath_of_ne (h : ¬(a = "" ∧ b = "")) :
    joinPath a b = String.ofList (normalPath (joinedText a b)) := by
  rw [joinPath_eq, if_neg]
  rwa [List.isEmpty_iff, joinedText_eq_nil_iff]

theorem joinPath_eq_empty_iff : joinPath a b = "" ↔ a = "" ∧ b = "" := by
  by_cases h : a = "" ∧ b = ""
  · obtain ⟨rfl, rfl⟩ := h
    exact iff_of_true rfl ⟨rfl, rfl⟩
  · rw [joinPath_of_ne h, ← String.toList_eq_nil_iff, String.toList_ofList]
    exact iff_of_false (normalPath_ne_nil _) h

/-- A join begins at the root if the first of its texts that is not empty does. -/
theorem isAtRoot_joinedText (a b : String) :
    isAtRoot (joinedText a b) = isAtRoot (if a = "" then b else a).toList := by
  by_cases ha : a = ""
  · subst ha
    rfl
  · rw [if_neg ha]
    by_cases hb : b = ""
    · rw [hb, joinedText_empty]
    · rw [joinedText_of_ne ha hb, isAtRoot_append (mt String.toList_eq_nil_iff.1 ha)]

/-- A join is continued from its result as from its texts. -/
theorem normalPath_continued (h : ¬(a = "" ∧ b = "")) (c : String) :
    normalPath (joinedText (String.ofList (normalPath (joinedText a b))) c) =
      normalPath (joinedText a b ++ '/' :: c.toList) := by
  have hne : joinedText a b ≠ [] := mt joinedText_eq_nil_iff.1 h
  by_cases hc : c = ""
  · subst hc
    rw [joinedText_empty, String.toList_ofList, normalPath_normalPath]
    exact (normalPath_append_slash hne).symm
  · have hresult : String.ofList (normalPath (joinedText a b)) ≠ "" := by
      rw [Ne, ← String.toList_eq_nil_iff, String.toList_ofList]
      exact normalPath_ne_nil _
    rw [joinedText_of_ne hresult hc, String.toList_ofList, normalPath_normalPath_append hne]

theorem normalPath_joinedText_append (h : ¬(a = "" ∧ b = "")) (c : String) :
    normalPath (joinedText a (b ++ "/" ++ c)) = normalPath (joinedText a b ++ '/' :: c.toList) := by
  have htoList : (b ++ "/" ++ c).toList = b.toList ++ '/' :: c.toList := by simp
  have hnext : b ++ "/" ++ c ≠ "" := by
    rw [Ne, ← String.toList_eq_nil_iff, htoList]
    simp
  by_cases ha : a = ""
  · subst ha
    show normalPath (b ++ "/" ++ c).toList = normalPath (b.toList ++ '/' :: c.toList)
    rw [htoList]
  · rw [joinedText_of_ne ha hnext, htoList]
    by_cases hb : b = ""
    · -- An empty second text leaves two slashes behind the first one.
      subst hb
      rw [joinedText_empty]
      exact normalPath_append_slashes (mt String.toList_eq_nil_iff.1 ha) c.toList
    · rw [joinedText_of_ne ha hb, List.append_assoc, List.cons_append]

/-- What a join of two texts is, by its text alone. -/
structure IsLexicalJoin (base rest joined : String) : Prop where
  empty_iff : joined = "" ↔ base = "" ∧ rest = ""
  rooted_iff : joined ≠ "" →
    (isAtRoot joined.toList = true ↔ isAtRoot (if base = "" then rest else base).toList = true)
  canonical : joined ≠ "" → Canonical joined.toList

theorem isLexicalJoin_joinPath (base rest : String) :
    IsLexicalJoin base rest (joinPath base rest) := by
  refine ⟨joinPath_eq_empty_iff, fun hne => ?_, fun hne => ?_⟩
  · rw [joinPath_of_ne (mt joinPath_eq_empty_iff.2 hne), String.toList_ofList, isAtRoot_normalPath,
      isAtRoot_joinedText]
  · rw [joinPath_of_ne (mt joinPath_eq_empty_iff.2 hne), String.toList_ofList]
    exact canonical_normalPath _

theorem joinPath_empty (hne : a ≠ "") : joinPath a "" = String.ofList (normalPath a.toList) := by
  rw [joinPath_of_ne fun h => hne h.1, joinedText_empty]

/-- A join is empty only where both texts are.  Any other begins at the root as its first text that
is not empty does, and is canonical: no segment of it is empty or `.`, `..` stands only in front and
never below the root, and it does not end with a slash, the root itself and `.` apart.  The texts
that a join leaves alone are the canonical ones, its own results among them, and joining twice is
joining once to the rest of the path. -/
theorem joinPath_lexical :
    (∀ base rest, IsLexicalJoin base rest (joinPath base rest)) ∧
    (∀ path, path ≠ "" → (joinPath path "" = path ↔ Canonical path.toList)) ∧
    (∀ base rest, joinPath (joinPath base rest) "" = joinPath base rest) ∧
    ∀ a b c, ¬(a = "" ∧ b = "") →
      joinPath (joinPath a b) c = joinPath a (b ++ "/" ++ c) := by
  refine ⟨isLexicalJoin_joinPath, fun path hne => ?_, fun base rest => ?_, fun a b c h => ?_⟩
  · rw [joinPath_empty hne, ← normalPath_eq_self_iff, ← String.toList_inj, String.toList_ofList]
  · by_cases h : joinPath base rest = ""
    · rw [h]
      rfl
    · rw [joinPath_empty h, joinPath_of_ne (mt joinPath_eq_empty_iff.2 h), String.toList_ofList,
        normalPath_normalPath]
  · have hresult : ¬(joinPath a b = "" ∧ c = "") := fun hnone => h (joinPath_eq_empty_iff.1 hnone.1)
    have hnext : ¬(a = "" ∧ b ++ "/" ++ c = "") := fun hnone => by simp at hnone
    rw [joinPath_of_ne hresult, joinPath_of_ne hnext, joinPath_of_ne h, normalPath_continued h,
      normalPath_joinedText_append h]

/-- A relative path that goes up beyond its start, joined in two steps and in one. -/
theorem joinPath_lexical_docs :
    joinPath "../a" "b//." = "../a/b" ∧ IsLexicalJoin "../a" "b//." "../a/b" ∧
      "../../c" ≠ "" ∧ Canonical "../../c".toList ∧
      ¬("../a" = "" ∧ "b//." = "") ∧
      joinPath "../a/b" "../../../c" = joinPath "../a" "b//./../../../c" := by
  obtain ⟨hjoin, hcanonical, -, hagain⟩ := joinPath_lexical
  have hresult : joinPath "../a" "b//." = "../a/b" := by decide +kernel
  have hkept : joinPath "../../c" "" = "../../c" := by decide +kernel
  have hne : ¬("../a" = "" ∧ "b//." = "") := by decide
  refine ⟨hresult, hresult ▸ hjoin "../a" "b//.", by decide,
    (hcanonical "../../c" (by decide)).1 hkept, hne, ?_⟩
  exact hresult ▸ hagain "../a" "b//." "../../../c" hne

end Joins

end ObjectGateway
