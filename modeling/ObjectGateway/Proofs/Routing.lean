import Mathlib.Data.List.MinMax
import Mathlib.Data.Prod.Lex
import ObjectGateway.Proofs.Reload
import ObjectGateway.Proofs.Text.Split
import ObjectGateway.Router

/-!
# Where requests go

A mount path matches a request if the path of the request begins with it and its target is bound to
the host of the request, or to none.  A request goes to the best match: one that is bound to the host
before the others, then the longest, then the first in the configuration.  Since the mount paths of
a valid configuration begin and end with a slash, what follows the match, with this last slash, is a
path again.  `route_best` says all this of the targets that have been loaded, and that the order of
targets and mount paths does not matter where no two matches are equally good.  `NamesHost` says what
the host of a text is: an address in brackets, or what stands before the first colon.
-/

namespace ObjectGateway

variable {α : Type}

/-! ## Best candidates -/

namespace Candidate

/-- How good a candidate is: whether it is bound to the host comes first, and then its length. -/
def rank (c : Candidate α) : Bool ×ₗ Nat := toLex (c.hostBound, c.mountPath.length)

theorem better_iff {c d : Candidate α} : c.better d = true ↔ d.rank < c.rank := by
  unfold better rank
  rw [Prod.Lex.toLex_lt_toLex, Bool.lt_iff, String.length_toList, String.length_toList]
  cases c.hostBound <;> cases d.hostBound <;> simp

theorem best_eq_argmax (cs : List (Candidate α)) : best cs = cs.argmax rank := by
  have hchoose : (choose : Option (Candidate α) → Candidate α → Option (Candidate α)) =
      List.argAux fun c d => rank d < rank c := by
    funext b c
    cases b with
    | none => rfl
    | some b => simp only [choose, List.argAux, better_iff]
  rw [best, hchoose, List.argmax]

end Candidate

/-- All that comes before the element with the greatest value has smaller values. -/
theorem argmax_eq_some_split {β : Type} [LinearOrder β] {f : α → β} {l : List α} {m : α}
    (h : l.argmax f = some m) :
    ∃ before after, l = before ++ m :: after ∧ ∀ a ∈ before, f a < f m := by
  induction l with
  | nil => cases h
  | cons a rest ih =>
    rw [List.argmax_cons] at h
    cases hrest : rest.argmax f with
    | none =>
      rw [hrest] at h
      obtain rfl : a = m := Option.some.inj h
      exact ⟨[], rest, rfl, by simp⟩
    | some c =>
      simp only [hrest] at h
      split at h
      · next hlt =>
        obtain rfl : c = m := Option.some.inj h
        obtain ⟨before, after, hsplit, hbefore⟩ := ih hrest
        refine ⟨a :: before, after, by rw [hsplit, List.cons_append], fun b hb => ?_⟩
        rcases List.mem_cons.1 hb with rfl | hb
        · exact hlt
        · exact hbefore b hb
      · obtain rfl : a = m := Option.some.inj h
        exact ⟨[], rest, rfl, by simp⟩

/-- What stands before an element of some lists in a row: the lists before its own, and what is
before it in there. -/
theorem flatMap_eq_append_cons {β : Type} {f : α → List β} {l : List α} {before after : List β}
    {m : β} (h : l.flatMap f = before ++ m :: after) :
    ∃ earlier a later first last, l = earlier ++ a :: later ∧ f a = first ++ m :: last ∧
      before = earlier.flatMap f ++ first := by
  induction l generalizing before with
  | nil => simp at h
  | cons a rest ih =>
    rw [List.flatMap_cons] at h
    rcases List.append_eq_append_iff.1 h with ⟨middle, rfl, hrest⟩ | ⟨ending, hfirst, hrest⟩
    · obtain ⟨earlier, b, later, first, last, rfl, hb, rfl⟩ := ih hrest
      exact ⟨a :: earlier, b, later, first, last, rfl, hb, by
        rw [List.flatMap_cons, List.append_assoc]⟩
    · cases ending with
      | nil =>
        -- The element comes right behind the first list.
        have hnext : rest.flatMap f = [] ++ m :: after := hrest.symm
        obtain ⟨earlier, b, later, first, last, rfl, hb, hnil⟩ := ih hnext
        refine ⟨a :: earlier, b, later, first, last, rfl, hb, ?_⟩
        rw [List.flatMap_cons, List.append_assoc, ← hnil, hfirst, List.append_nil, List.append_nil]
      | cons c ending =>
        obtain ⟨rfl, -⟩ := List.cons.inj hrest
        exact ⟨[], a, rest, before, ending, rfl, hfirst, rfl⟩

/-! ## Hosts -/

/-- What a text names as a host, apart from the port behind it. -/
inductive NamesHost : List Char → List Char → Prop
  /-- An address in brackets is a host with them, and may have colons in it. -/
  | bracketed {address port : List Char} (h : ']' ∉ address) :
      NamesHost ('[' :: address ++ ']' :: port) ('[' :: address ++ [']'])
  | unclosed {address : List Char} (h : ']' ∉ address) :
      NamesHost ('[' :: address) ('[' :: address)
  | bare {name : List Char} (hstart : name.head? ≠ some '[') (h : ':' ∉ name) : NamesHost name name
  | withPort {name port : List Char} (hstart : name.head? ≠ some '[') (h : ':' ∉ name) :
      NamesHost (name ++ ':' :: port) name

/-- Two texts name one host: they differ at most in their ports and the case of ASCII letters. -/
def SameHost (s t : String) : Prop :=
  ∃ h k, NamesHost s.toList h ∧ NamesHost t.toList k ∧ h.map Char.toLower = k.map Char.toLower

section Hosts

variable {cs host name port : List Char}

theorem hostWithoutPort_of_head?_ne (h : cs.head? ≠ some '[') :
    hostWithoutPort cs = cs.takeWhile fun c => decide (c ≠ ':') := by
  unfold hostWithoutPort
  split
  · exact absurd rfl h
  · rfl

theorem hostWithoutPort_of_notMem (hstart : name.head? ≠ some '[') (h : ':' ∉ name) :
    hostWithoutPort name = name := by
  rw [hostWithoutPort_of_head?_ne hstart, List.takeWhile_eq_self_iff]
  exact Text.decide_ne_of_notMem h

theorem hostWithoutPort_append_port (hstart : name.head? ≠ some '[') (h : ':' ∉ name) :
    hostWithoutPort (name ++ ':' :: port) = name := by
  have hstart' : (name ++ ':' :: port).head? ≠ some '[' := by
    cases name with
    | nil => simp
    | cons c rest => exact hstart
  rw [hostWithoutPort_of_head?_ne hstart']
  exact Text.takeWhile_append_stop (Text.decide_ne_of_notMem h) (by simp)

theorem namesHost_hostWithoutPort (cs : List Char) : NamesHost cs (hostWithoutPort cs) := by
  by_cases hstart : cs.head? = some '['
  · obtain ⟨rest, rfl⟩ := List.head?_eq_some_iff.1 hstart
    unfold hostWithoutPort
    cases hsplit : Text.splitOnce ']' ('[' :: rest) with
    | none =>
      exact .unclosed fun h => Text.splitOnce_eq_none_iff.1 hsplit (List.mem_cons_of_mem '[' h)
    | some pieces =>
      obtain ⟨before, port⟩ := pieces
      obtain ⟨htext, hnot⟩ := Text.splitOnce_eq_some_iff.1 hsplit
      -- The text begins with the other bracket, so that something stands before the first one.
      cases before with
      | nil => simp at htext
      | cons c address =>
        obtain ⟨rfl, rfl⟩ := List.cons.inj htext
        exact .bracketed fun h => hnot (List.mem_cons_of_mem '[' h)
  · by_cases hcolon : ':' ∈ cs
    · obtain ⟨name, port, rfl, hname⟩ := List.eq_append_cons_of_mem hcolon
      have hopen : name.head? ≠ some '[' := fun h => hstart (by rw [List.head?_append, h]; rfl)
      rw [hostWithoutPort_append_port hopen hname]
      exact .withPort hopen hname
    · rw [hostWithoutPort_of_notMem hstart hcolon]
      exact .bare hstart hcolon

theorem hostWithoutPort_eq_iff : hostWithoutPort cs = host ↔ NamesHost cs host := by
  constructor
  · rintro rfl
    exact namesHost_hostWithoutPort cs
  · intro h
    cases h with
    | @bracketed address port h =>
      have hsplit : Text.splitOnce ']' ('[' :: address ++ ']' :: port) =
          some ('[' :: address, port) := Text.splitOnce_append (by simpa using h)
      rw [List.cons_append] at hsplit ⊢
      rw [hostWithoutPort, hsplit]
    | unclosed h => rw [hostWithoutPort, Text.splitOnce_eq_none (by simpa using h)]
    | bare hstart h => exact hostWithoutPort_of_notMem hstart h
    | withPort hstart h => exact hostWithoutPort_append_port hstart h

theorem sameHost_eq_true_iff {s t : String} : sameHost s t = true ↔ SameHost s t := by
  unfold SameHost
  simp only [← hostWithoutPort_eq_iff, exists_eq_left', exists_and_left]
  exact beq_iff_eq

end Hosts

/-! ## Matches -/

/-- A mount path of a target matches a request for a path below a host, if one is named. -/
structure Matches (host : Option String) (path : String) (t : Target) (p : String) : Prop where
  declared : p ∈ t.config.mount.paths
  below : p.toList <+: path.toList
  /-- A target that is bound to a host is reached under this name alone, whatever the port and
  however its letters are written. -/
  host : ∀ wanted, t.config.mount.host = some wanted → ∃ h, host = some h ∧ SameHost h wanted

/-- A target with one of its mount paths, as a candidate. -/
def Target.candidate (t : Target) (p : String) : Candidate Target :=
  ⟨t, t.config.mount.host.isSome, p⟩

/-- The target that a request goes to, and the mount path that leads there. -/
structure BestMatch (targets : List Target) (host : Option String) (path : String) (t : Target)
    (p : String) : Prop where
  isMatch : Matches host path t p
  greatest : ∀ u ∈ targets, ∀ q, Matches host path u q →
    (u.candidate q).rank ≤ (t.candidate p).rank
  /-- No match that is declared before is as good. -/
  first : ∃ earlier later before after, targets = earlier ++ t :: later ∧
    t.config.mount.paths = before ++ p :: after ∧
    (∀ u ∈ earlier, ∀ q, Matches host path u q → (u.candidate q).rank < (t.candidate p).rank) ∧
    ∀ q ∈ before, Matches host path t q → (t.candidate q).rank < (t.candidate p).rank

section Matching

variable {host : Option String} {path p : String} {t : Target} {targets : List Target}

theorem Mount.acceptsHost?_eq_some_iff {m : Mount} {bound : Bool} :
    m.acceptsHost? host = some bound ↔ m.host.isSome = bound ∧
      ∀ wanted, m.host = some wanted → ∃ h, host = some h ∧ SameHost h wanted := by
  simp only [← sameHost_eq_true_iff]
  unfold acceptsHost?
  cases m.host with
  | none => simp
  | some wanted =>
    cases host with
    | none => simp
    | some h => cases hsame : sameHost h wanted <;> simp [hsame]

theorem matches_iff :
    Matches host path t p ↔ p ∈ t.config.mount.paths ∧ p.toList.isPrefixOf path.toList = true ∧
      t.config.mount.acceptsHost? host = some t.config.mount.host.isSome := by
  rw [List.isPrefixOf_iff_prefix, Mount.acceptsHost?_eq_some_iff]
  exact ⟨fun h => ⟨h.declared, h.below, rfl, h.host⟩, fun ⟨hp, hbelow, _, hhost⟩ => ⟨hp, hbelow, hhost⟩⟩

instance : Decidable (Matches host path t p) := decidable_of_iff _ matches_iff.symm

theorem candidates_eq (t : Target) (host : Option String) (path : String) :
    t.config.mount.candidates t host path.toList =
      (t.config.mount.paths.filter (Matches host path t)).map t.candidate := by
  unfold Mount.candidates
  cases haccepts : t.config.mount.acceptsHost? host with
  | none =>
    have hnone : t.config.mount.paths.filter (Matches host path t) = [] := by
      refine List.filter_eq_nil_iff.2 fun p _ h => ?_
      have hmatch := (matches_iff.1 (of_decide_eq_true h)).2.2
      cases haccepts.symm.trans hmatch
    rw [hnone, List.map_nil]
  | some bound =>
    obtain ⟨rfl, hhost⟩ := Mount.acceptsHost?_eq_some_iff.1 haccepts
    have hfilter : t.config.mount.paths.filter (fun p => p.toList.isPrefixOf path.toList) =
        t.config.mount.paths.filter (Matches host path t) := by
      refine List.filter_congr fun p hp => ?_
      rw [Bool.eq_iff_iff, decide_eq_true_iff, matches_iff]
      exact ⟨fun hbelow => ⟨hp, hbelow, haccepts⟩, fun h => h.2.1⟩
    rw [← hfilter]
    rfl

theorem mem_candidates_iff {c : Candidate Target} :
    c ∈ t.config.mount.candidates t host path.toList ↔
      ∃ p, Matches host path t p ∧ t.candidate p = c := by
  rw [candidates_eq, List.mem_map]
  refine exists_congr fun p => and_congr_left fun _ => ?_
  rw [List.mem_filter, decide_eq_true_iff]
  exact ⟨fun h => h.2, fun h => ⟨h.declared, h⟩⟩

theorem mem_flatMap_candidates_iff {c : Candidate Target} :
    c ∈ targets.flatMap (fun t => t.config.mount.candidates t host path.toList) ↔
      ∃ t ∈ targets, ∃ p, Matches host path t p ∧ t.candidate p = c := by
  simp only [List.mem_flatMap, mem_candidates_iff]

/-- Where a request goes to some target, it goes to the best match. -/
theorem bestMatch_of_route {r : Route Target}
    (h : route (fun t : Target => t.config.mount) targets host path = some r) :
    BestMatch targets host path r.target r.mountPath := by
  obtain ⟨c, hbest, rfl⟩ := Option.map_eq_some_iff.1 h
  rw [Candidate.best_eq_argmax] at hbest
  obtain ⟨before, after, hsplit, hbefore⟩ := argmax_eq_some_split hbest
  obtain ⟨earlier, t, later, first, last, rfl, ht, rfl⟩ := flatMap_eq_append_cons hsplit
  rw [candidates_eq] at ht
  obtain ⟨ps, ps', hps, rfl, hps'⟩ := List.map_eq_append_iff.1 ht
  obtain ⟨p, rest, rfl, rfl, -⟩ := List.map_eq_cons_iff.1 hps'
  obtain ⟨before, after, hpaths, hfirst, hlast⟩ := List.filter_eq_append_iff.1 hps
  obtain ⟨skipped, after, rfl, hskipped, hmatch, -⟩ := List.filter_eq_cons_iff.1 hlast
  have hpaths : t.config.mount.paths = before ++ skipped ++ p :: after := by
    rw [hpaths, List.append_assoc]
  refine ⟨of_decide_eq_true hmatch, fun u hu q hq => ?_, earlier, later, before ++ skipped, after,
    rfl, hpaths, fun u hu q hq => ?_, fun q hq hmatches => ?_⟩
  · exact List.le_of_mem_argmax (mem_flatMap_candidates_iff.2 ⟨u, hu, q, hq, rfl⟩) hbest
  · exact hbefore _ (List.mem_append_left _ (mem_flatMap_candidates_iff.2 ⟨u, hu, q, hq, rfl⟩))
  · -- A mount path that was passed over does not match; those before were worse.
    rcases List.mem_append.1 hq with hq | hq
    · refine hbefore _ (List.mem_append_right _ (List.mem_map_of_mem ?_))
      rw [← hfirst, List.mem_filter]
      exact ⟨hq, decide_eq_true hmatches⟩
    · exact absurd (decide_eq_true hmatches) (hskipped q hq)

theorem route_eq_none_iff :
    route (fun t : Target => t.config.mount) targets host path = none ↔
      ∀ t ∈ targets, ∀ p, ¬Matches host path t p := by
  rw [route, Option.map_eq_none_iff, Candidate.best_eq_argmax, List.argmax_eq_none,
    List.eq_nil_iff_forall_not_mem]
  simp only [mem_flatMap_candidates_iff]
  constructor
  · exact fun h t ht p hp => h _ ⟨t, ht, p, hp, rfl⟩
  · rintro h _ ⟨t, ht, p, hp, rfl⟩
    exact h t ht p hp

end Matching

/-! ## Mount paths -/

/-- Targets that have been loaded have the mounts of their configuration, which begin and end with
a slash where it is valid. -/
theorem mounts_of_loaded {H : Type} {l : Loader H} {c : Config} {s : Snapshot}
    {t : Conversation BucketsInterface} (hvalid : c.validate = .ok ())
    (hload : (l.loadSnapshot c).Runs t (.ok s)) :
    ∀ target ∈ s.targets, ∀ p ∈ target.config.mount.paths, Mount.isRooted p = true := by
  intro target htarget p hp
  have hconfigs := (loadSnapshot_runs hload).1.flip
  obtain ⟨config, hconfig, rfl, -⟩ := exists_of_forall₂_mem hconfigs htarget
  have hconfigured := (Config.validate_eq_ok_iff.1 hvalid).targets _ hconfig
  exact Mount.isRooted_iff.2 (hconfigured.rooted p hp)

/-- The path below a mount begins with the last slash of the mount. -/
theorem route_rawPath {α : Type} {mountOf : α → Mount} {targets : List α} {host : Option String}
    {path : String} {r : Route α} (h : route mountOf targets host path = some r) :
    r.rawPath = String.ofList (path.toList.drop (r.mountPath.toList.length - 1)) := by
  obtain ⟨c, -, rfl⟩ := Option.map_eq_some_iff.1 h
  rfl

/-- The path below a mount is cut off before the last slash of the mount path. -/
theorem cut_of_rooted {p path : String} (hrooted : Mount.isRooted p = true)
    (hbelow : p.toList <+: path.toList) :
    ∃ before below : String, p = before ++ "/" ∧ path = p ++ below ∧
      String.ofList (path.toList.drop (p.toList.length - 1)) = "/" ++ below := by
  obtain ⟨start, hstart⟩ := List.getLast?_eq_some_iff.1 (Mount.isRooted_iff.1 hrooted).2
  obtain ⟨rest, hrest⟩ := hbelow
  refine ⟨String.ofList start, String.ofList rest, ?_, ?_, ?_⟩
  · rw [← String.toList_inj]
    simp [hstart]
  · rw [← String.toList_inj]
    simp [hrest]
  · rw [← String.toList_inj, ← hrest, hstart]
    simp

/-! ## Other orders of targets -/

/-- A target with its mount paths in another order. -/
def Target.Reordered (t u : Target) : Prop :=
  ∃ paths, t.config.mount.paths.Perm paths ∧
    u = { t with config := { t.config with mount := { t.config.mount with paths := paths } } }

/-- Targets in another order, each with its mount paths in another order. -/
def Reordering (targets targets' : List Target) : Prop :=
  ∃ us, List.Forall₂ Target.Reordered targets us ∧ us.Perm targets'

/-- No two matches are equally good. -/
def Untied (targets : List Target) (host : Option String) (path : String) : Prop :=
  ∀ t ∈ targets, ∀ u ∈ targets, ∀ p q, Matches host path t p → Matches host path u q →
    (t.candidate p).rank = (u.candidate q).rank → t = u ∧ p = q

section Orders

variable {host : Option String} {path p : String} {t u : Target} {targets targets' : List Target}

theorem Target.Reordered.symm (h : t.Reordered u) : u.Reordered t := by
  obtain ⟨paths, hperm, rfl⟩ := h
  exact ⟨t.config.mount.paths, hperm.symm, rfl⟩

theorem Matches.reordered (h : Matches host path t p) (hsame : t.Reordered u) :
    Matches host path u p := by
  obtain ⟨paths, hperm, rfl⟩ := hsame
  exact ⟨hperm.mem_iff.1 h.declared, h.below, h.host⟩

theorem Target.Reordered.rank (h : t.Reordered u) (p : String) :
    (u.candidate p).rank = (t.candidate p).rank := by
  obtain ⟨paths, -, rfl⟩ := h
  rfl

theorem Reordering.exists_mem (h : Reordering targets targets') (ht : t ∈ targets) :
    ∃ u ∈ targets', t.Reordered u := by
  obtain ⟨us, hall, hperm⟩ := h
  obtain ⟨u, hu, hsame⟩ := exists_of_forall₂_mem hall ht
  exact ⟨u, hperm.mem_iff.1 hu, hsame⟩

theorem Reordering.exists_mem' (h : Reordering targets targets') (hu : u ∈ targets') :
    ∃ t ∈ targets, t.Reordered u := by
  obtain ⟨us, hall, hperm⟩ := h
  exact exists_of_forall₂_mem hall.flip (hperm.mem_iff.2 hu)

theorem BestMatch.mem (h : BestMatch targets host path t p) : t ∈ targets := by
  obtain ⟨earlier, later, before, after, rfl, -⟩ := h.first
  simp

/-- Where no two matches are equally good, a request goes the same way in whichever order they are
declared. -/
theorem route_reordered (huntied : Untied targets host path) (h : Reordering targets targets') :
    Option.Rel (fun r r' : Route Target => r.target.Reordered r'.target ∧
        r'.mountPath = r.mountPath ∧ r'.rawPath = r.rawPath)
      (route (fun t : Target => t.config.mount) targets host path)
      (route (fun t : Target => t.config.mount) targets' host path) := by
  cases hr : route (fun t : Target => t.config.mount) targets host path with
  | none =>
    have hnone : route (fun t : Target => t.config.mount) targets' host path = none := by
      refine route_eq_none_iff.2 fun u hu p hmatch => ?_
      obtain ⟨t, ht, hsame⟩ := h.exists_mem' hu
      exact route_eq_none_iff.1 hr t ht p (hmatch.reordered hsame.symm)
    rw [hnone]
    exact .none
  | some r =>
    have hbest := bestMatch_of_route hr
    obtain ⟨u, hu, hsame⟩ := h.exists_mem hbest.mem
    have hmatch := hbest.isMatch.reordered hsame
    cases hr' : route (fun t : Target => t.config.mount) targets' host path with
    | none => exact absurd hmatch (route_eq_none_iff.1 hr' u hu _)
    | some r' =>
      have hbest' := bestMatch_of_route hr'
      obtain ⟨t, ht, hsame'⟩ := h.exists_mem' hbest'.mem
      have hmatch' := hbest'.isMatch.reordered hsame'.symm
      -- Each of the two is as good as the other, and is a match among the former targets.
      have hle := hbest.greatest t ht _ hmatch'
      have hge := hbest'.greatest u hu _ hmatch
      rw [hsame.rank, hsame'.rank] at hge
      obtain ⟨rfl, hpath⟩ := huntied _ hbest.mem t ht _ _ hbest.isMatch hmatch' (le_antisymm hge hle)
      refine .some ⟨hsame', hpath.symm, ?_⟩
      rw [route_rawPath hr, route_rawPath hr', hpath]

end Orders

/-! ## Routes of a valid configuration -/

/-- A request goes nowhere if no mount path matches, and otherwise to the best match.  The path below
the match is cut off before its last slash, which lies within the path of the request.  Where no two
matches are equally good, their order does not matter. -/
theorem route_best {H : Type} {l : Loader H} {c : Config} {s : Snapshot}
    {t : Conversation BucketsInterface} (hvalid : c.validate = .ok ())
    (hload : (l.loadSnapshot c).Runs t (.ok s)) (host : Option String) (path : String) :
    (route (fun t : Target => t.config.mount) s.targets host path = none ↔
      ∀ target ∈ s.targets, ∀ p, ¬Matches host path target p) ∧
    (∀ r, route (fun t : Target => t.config.mount) s.targets host path = some r →
      BestMatch s.targets host path r.target r.mountPath ∧
        (∃ before, path = before ++ r.rawPath ∧
          before.utf8ByteSize + 1 = r.mountPath.utf8ByteSize) ∧
        ∃ below, path = r.mountPath ++ below ∧ r.rawPath = "/" ++ below) ∧
    ∀ targets', Untied s.targets host path → Reordering s.targets targets' →
      Option.Rel (fun r r' : Route Target => r.target.Reordered r'.target ∧
          r'.mountPath = r.mountPath ∧ r'.rawPath = r.rawPath)
        (route (fun t : Target => t.config.mount) s.targets host path)
        (route (fun t : Target => t.config.mount) targets' host path) := by
  refine ⟨route_eq_none_iff, fun r hr => ?_, fun targets' => route_reordered⟩
  have hbest := bestMatch_of_route hr
  have hrooted := mounts_of_loaded hvalid hload _ hbest.mem _ hbest.isMatch.declared
  obtain ⟨before, below, hmount, hpath, hraw⟩ := cut_of_rooted hrooted hbest.isMatch.below
  rw [← route_rawPath hr] at hraw
  refine ⟨hbest, ⟨before, ?_, ?_⟩, below, hpath, hraw⟩
  · rw [hraw, hpath, hmount, String.append_assoc]
  · rw [hmount, String.utf8ByteSize_append]
    rfl

/-- A target that is bound to a host is reached before one with a longer mount path, and not at all
under another host. -/
theorem route_best_docs :
    let docs : TargetConfig :=
      { name := "docs", mount := ⟨none, ["/", "/a/b/"]⟩,
        bucket := ⟨"docs", "", "us-east-1", none, none, false, 1000, ⟨[], [], [], []⟩⟩,
        rules := [], templates := ⟨[], .const none⟩, actions := ⟨none, none, none⟩ }
    let tenant : TargetConfig :=
      { docs with name := "tenant", mount := ⟨some "tenant.test", ["/", "/a/"]⟩ }
    let c : Config := ⟨.standard, ⟨[], .const none⟩, [docs, tenant]⟩
    let targets : List Target := [⟨docs, [], ""⟩, ⟨tenant, [], ""⟩]
    c.validate = .ok () ∧
      (route (fun t : Target => t.config.mount) targets (some "Tenant.Test:8080") "/a/b/c" =
          some ⟨⟨tenant, [], ""⟩, "/a/", "/b/c"⟩ ∧
        BestMatch targets (some "Tenant.Test:8080") "/a/b/c" ⟨tenant, [], ""⟩ "/a/") ∧
      route (fun t : Target => t.config.mount) targets (some "[::1]:8080") "/a/b/c" =
          some ⟨⟨docs, [], ""⟩, "/a/b/", "/c"⟩ ∧
        BestMatch targets (some "[::1]:8080") "/a/b/c" ⟨docs, [], ""⟩ "/a/b/" ∧
        ∀ p, ¬Matches (some "[::1]:8080") "/a/b/c" ⟨tenant, [], ""⟩ p := by
  intro docs tenant c targets
  have hvalid : c.validate = .ok () := rfl
  let l : Loader Unit := ⟨⟨[]⟩, fun _ => .ok (), fun _ => .ok ()⟩
  have hload : (l.loadSnapshot c).Runs [] (.ok ⟨targets, ⟨[], .const none⟩, ""⟩) := .done _
  have hopen (host : Option String) : docs.mount.acceptsHost? host = some false := rfl
  have hbound : tenant.mount.acceptsHost? (some "Tenant.Test:8080") = some true := by
    decide +kernel
  have hrefused : tenant.mount.acceptsHost? (some "[::1]:8080") = none := by decide +kernel
  have hroute : route (fun t : Target => t.config.mount) targets (some "Tenant.Test:8080")
      "/a/b/c" = some ⟨⟨tenant, [], ""⟩, "/a/", "/b/c"⟩ := by
    simp [route, targets, Mount.candidates, hopen, hbound, docs, tenant, Candidate.best,
      Candidate.choose, Candidate.better]
  have hother : route (fun t : Target => t.config.mount) targets (some "[::1]:8080") "/a/b/c" =
      some ⟨⟨docs, [], ""⟩, "/a/b/", "/c"⟩ := by
    simp [route, targets, Mount.candidates, hopen, hrefused, docs, tenant, Candidate.best,
      Candidate.choose, Candidate.better]
  have hbest (host : Option String) := (route_best hvalid hload host "/a/b/c").2.1
  refine ⟨hvalid, ⟨hroute, (hbest _ _ hroute).1⟩, hother, (hbest _ _ hother).1, fun p hp => ?_⟩
  cases hrefused.symm.trans (matches_iff.1 hp).2.2

end ObjectGateway
