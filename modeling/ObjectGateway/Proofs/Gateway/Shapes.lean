import Mathlib.Data.List.Forall2
import ObjectGateway.Gateway.Basic
import ObjectGateway.Proofs.Gateway.Runs
import ObjectGateway.Proofs.Text.Split

/-!
# The shapes of listed paths

A listing shows one entry for each descriptor, with everything that is known about it, and the path
of a folder ends with a slash.  The path of a file ends with one only where there is nothing before
it: the mount and the key lead back to the root, and the path is the root itself
(`entries_path_shape`).

How far a path leads is told by its depth, which grows with every segment that stands for itself and
falls with every `..` until the root is reached.
-/

namespace ObjectGateway

/-- The depth behind a segment.  Nothing lies above the root. -/
def depthAfter (n : Nat) (s : List Char) : Nat :=
  if s = [] ∨ s = ['.'] then n else if s = ['.', '.'] then n - 1 else n + 1

/-- How deep below the root a path leads. -/
def pathDepth (cs : List Char) : Nat := (Text.splitOn '/' cs).foldl depthAfter 0

/-- The text of two paths behind one another; an empty one needs no slash. -/
def joinedText (base rest : String) : List Char :=
  if base.isEmpty then rest.toList
  else if rest.isEmpty then base.toList
  else base.toList ++ '/' :: rest.toList

/-- Two paths lead back to the root together. -/
def LeadsToRoot (base rest : String) : Prop :=
  (joinedText base rest).head? = some '/' ∧ pathDepth (joinedText base rest) = 0

/-! ## Segments -/

section Segments

variable {segments parts : List (List Char)} {rooted : Bool}

theorem notMem_of_mem_splitOn {c : Char} {cs s : List Char} (h : s ∈ Text.splitOn c cs) :
    c ∉ s := by
  induction cs generalizing s with
  | nil =>
    obtain rfl : s = [] := by simpa [Text.splitOn] using h
    exact List.not_mem_nil
  | cons x rest ih =>
    rw [Text.splitOn] at h
    split at h
    · rcases List.mem_cons.1 h with rfl | h
      · exact List.not_mem_nil
      · exact ih h
    · next hx =>
      cases hpieces : Text.splitOn c rest with
      | nil => exact absurd hpieces (Text.splitOn_ne_nil c rest)
      | cons piece pieces =>
        rw [hpieces] at h ih
        rcases List.mem_cons.1 h with rfl | h
        · rw [List.mem_cons, not_or]
          exact ⟨Ne.symm hx, ih List.mem_cons_self⟩
        · exact ih (List.mem_cons_of_mem piece h)

/-- A segment that is followed is kept, or takes nothing but the last one back. -/
theorem mem_of_mem_followSegment {s p : List Char} (h : p ∈ followSegment rooted parts s) :
    p ∈ parts ∨ p = s ∧ s ≠ [] := by
  unfold followSegment at h
  split at h
  · exact .inl h
  · next hplain =>
    rw [not_or] at hplain
    have hkept (hp : p ∈ s :: parts) : p ∈ parts ∨ p = s ∧ s ≠ [] := by
      rcases List.mem_cons.1 hp with rfl | hp
      · exact .inr ⟨rfl, hplain.1⟩
      · exact .inl hp
    split at h
    · cases parts with
      | nil => cases rooted <;> simp_all
      | cons q rest =>
        simp only at h
        split at h
        · cases rooted
          · exact hkept h
          · exact .inl h
        · exact .inl (List.mem_cons_of_mem q h)
    · exact hkept h

/-- The segments that a path leads through are not empty, and no slash is in them. -/
theorem mem_followPath {cs s : List Char} (h : s ∈ followPath rooted cs) : s ≠ [] ∧ '/' ∉ s := by
  have hfold : ∀ (segments parts : List (List Char)),
      (∀ s ∈ segments, '/' ∉ s) → (∀ p ∈ parts, p ≠ [] ∧ '/' ∉ p) →
        ∀ p ∈ segments.foldl (followSegment rooted) parts, p ≠ [] ∧ '/' ∉ p := by
    intro segments
    induction segments with
    | nil => exact fun parts _ hparts => hparts
    | cons s rest ih =>
      intro parts hsegments hparts
      refine ih _ (fun r hr => hsegments r (List.mem_cons_of_mem s hr)) fun p hp => ?_
      rcases mem_of_mem_followSegment hp with hp | ⟨rfl, hne⟩
      · exact hparts p hp
      · exact ⟨hne, hsegments p List.mem_cons_self⟩
  exact hfold _ [] (fun _ => notMem_of_mem_splitOn) (fun _ hp => nomatch hp) s
    (List.mem_reverse.1 h)

/-- Below the root as many segments are left as the path is deep. -/
theorem length_foldl_followSegment (h : ['.', '.'] ∉ parts) :
    (segments.foldl (followSegment true) parts).length =
      segments.foldl depthAfter parts.length := by
  induction segments generalizing parts with
  | nil => rfl
  | cons s rest ih =>
    rw [List.foldl_cons, List.foldl_cons]
    -- No segment that is kept below the root goes up, so that each `..` takes one back.
    have hstep : (followSegment true parts s).length = depthAfter parts.length s ∧
        ['.', '.'] ∉ followSegment true parts s := by
      unfold followSegment depthAfter
      by_cases hblank : s = [] ∨ s = ['.']
      · simp [hblank, h]
      · by_cases hup : s = ['.', '.']
        · cases parts with
          | nil => simp [hup]
          | cons p rest =>
            rw [List.mem_cons, not_or] at h
            simp [hup, Ne.symm h.1, h.2]
        · simp [hblank, hup, h, Ne.symm hup]
    rw [ih hstep.2, hstep.1]

theorem followPath_eq_nil_iff {cs : List Char} : followPath true cs = [] ↔ pathDepth cs = 0 := by
  rw [followPath, List.reverse_eq_nil_iff, ← List.length_eq_zero_iff,
    length_foldl_followSegment List.not_mem_nil]
  rfl

theorem joinSegments_getLast? (h : ∀ s ∈ segments, s ≠ [] ∧ '/' ∉ s) :
    (joinSegments segments).getLast? ≠ some '/' := by
  induction segments with
  | nil => simp [joinSegments]
  | cons s rest ih =>
    obtain ⟨hne, hslash⟩ := h s List.mem_cons_self
    have hlast : s.getLast? ≠ some '/' := fun hs => hslash (List.mem_of_getLast? hs)
    cases rest with
    | nil => exact hlast
    | cons next rest =>
      have hrest := ih fun r hr => h r (List.mem_cons_of_mem s hr)
      have hnext : next ≠ [] := (h next (List.mem_cons_of_mem s List.mem_cons_self)).1
      have hjoined : joinSegments (next :: rest) ≠ [] := by
        cases rest with
        | nil => exact hnext
        | cons _ _ => simp [joinSegments]
      rw [joinSegments, List.getLast?_append_of_ne_nil _ (List.cons_ne_nil _ _),
        List.getLast?_cons_of_ne_nil hjoined]
      · exact hrest
      · exact List.cons_ne_nil next rest

theorem joinSegments_eq_nil_iff (h : ∀ s ∈ segments, s ≠ []) :
    joinSegments segments = [] ↔ segments = [] := by
  cases segments with
  | nil => exact iff_of_true rfl rfl
  | cons s rest =>
    have hs := h s List.mem_cons_self
    cases rest with
    | nil => simpa [joinSegments] using hs
    | cons _ _ => simp [joinSegments]

end Segments

/-! ## Paths -/

/-- A path in its shortest form ends with a slash only where it is the root. -/
theorem normalPath_getLast?_iff {cs : List Char} :
    (normalPath cs).getLast? = some '/' ↔ cs.head? = some '/' ∧ pathDepth cs = 0 := by
  have hparts {rooted : Bool} : ∀ s ∈ followPath rooted cs, s ≠ [] ∧ '/' ∉ s := fun _ =>
    mem_followPath
  unfold normalPath
  by_cases hroot : cs.head? = some '/'
  · have hempty : joinSegments (followPath true cs) = [] ↔ followPath true cs = [] :=
      joinSegments_eq_nil_iff fun s hs => (hparts s hs).1
    simp only [hroot, decide_true, if_true, true_and]
    rw [← followPath_eq_nil_iff, ← hempty]
    by_cases hbody : joinSegments (followPath true cs) = []
    · simp [hbody]
    · rw [List.getLast?_cons_of_ne_nil hbody]
      exact iff_of_false (joinSegments_getLast? hparts) hbody
  · simp only [hroot, decide_false, if_false, false_and, iff_false]
    split
    · decide
    · exact joinSegments_getLast? hparts

theorem normalPath_of_depth {cs : List Char} (hroot : cs.head? = some '/')
    (hdepth : pathDepth cs = 0) : normalPath cs = ['/'] := by
  simp only [normalPath, hroot, decide_true, if_true, followPath_eq_nil_iff.2 hdepth]
  rfl

theorem joinPath_eq (base rest : String) :
    joinPath base rest =
      if (joinedText base rest).isEmpty then ""
      else String.ofList (normalPath (joinedText base rest)) :=
  rfl

theorem joinPath_getLast?_iff {base rest : String} :
    (joinPath base rest).toList.getLast? = some '/' ↔ LeadsToRoot base rest := by
  rw [joinPath_eq, LeadsToRoot]
  cases hjoined : joinedText base rest with
  | nil => simp
  | cons c cs => simp [normalPath_getLast?_iff]

theorem joinPath_of_leadsToRoot {base rest : String} (h : LeadsToRoot base rest) :
    joinPath base rest = "/" := by
  rw [joinPath_eq]
  cases hjoined : joinedText base rest with
  | nil =>
    have hhead := h.1
    rw [hjoined] at hhead
    cases hhead
  | cons c cs =>
    rw [← hjoined, normalPath_of_depth h.1 h.2]
    simp [hjoined]

/-! ## Entries -/

/-- An entry shows a descriptor below a mount. -/
structure EntryShows (g : Gateway) (mountPath : String) (d : Descriptor) (e : Entry) : Prop where
  kind : e.kind = d.kind
  key : e.key = d.key
  name : e.name = d.name
  etag : e.etag = d.etag
  size : e.size = d.size
  lastModified : e.lastModified = d.lastModified
  /-- The path of every folder ends with a slash, and that of a file where it is the root. -/
  slash : e.path.toList.getLast? = some '/' ↔
    d.kind = .folder ∨ d.kind = .file ∧ LeadsToRoot mountPath (dropStart g.rootPrefix d.key)
  root : d.kind = .file → LeadsToRoot mountPath (dropStart g.rootPrefix d.key) → e.path = "/"

namespace Gateway

variable {g : Gateway} {mountPath : String} {d : Descriptor}

theorem entryPath_getLast?_iff :
    (g.entryPath mountPath d).toList.getLast? = some '/' ↔
      d.kind = .folder ∨ d.kind = .file ∧ LeadsToRoot mountPath (dropStart g.rootPrefix d.key) := by
  unfold entryPath
  cases d.kind with
  | folder => simp
  | file => simpa using joinPath_getLast?_iff

/-- A listing shows every descriptor, in order. -/
theorem entries_path_shape (g : Gateway) (mountPath : String) (ds : List Descriptor) :
    List.Forall₂ (EntryShows g mountPath) ds (g.entries mountPath ds) := by
  rw [entries, List.forall₂_map_right_iff, List.forall₂_same]
  intro d _
  refine ⟨rfl, rfl, rfl, rfl, rfl, rfl, entryPath_getLast?_iff, fun hfile hroot => ?_⟩
  show g.entryPath mountPath d = "/"
  rw [entryPath, hfile]
  exact joinPath_of_leadsToRoot hroot

/-- A file whose key goes up again is shown with the path of the root, like a folder. -/
theorem file_shown_as_root :
    ((docs [] ⟨none, none, none⟩).entries "/"
        [⟨.file, "docs/..", "..", "\"fake\"", 1, none⟩]).map (fun e => (e.kind, e.path)) =
      [(.file, "/")] := by
  decide +kernel

end Gateway

end ObjectGateway
