import ObjectGateway.Proofs.TextMap
import ObjectGateway.Template.Value

/-!
# The members of an object as templates see them

An object becomes a map with the same members.  So an attribute of it is the member of this name, if
there is one only: `attr?_ofJson`.
-/

namespace ObjectGateway

/-- A value is the one member of an object with a name. -/
def Json.Has (object : Json) (name : String) (j : Json) : Prop :=
  ∃ members, object = .obj members ∧ (members.map (·.1)).Nodup ∧ (name, j) ∈ members

namespace Template.Value

theorem order_text (k l : String) :
    order (text k) (text l) = if k < l then .lt else if k = l then .eq else .gt := by
  simp only [order, coerce?, text]
  rfl

theorem eqv_text (k l : String) : eqv (text k) (text l) = (k == l) := by
  simp [eqv, coerce?, text]

/-- The entries of a map from texts. -/
def entriesOf (m : TextMap Value) : List (Value × Value) :=
  m.map fun p => (text p.1, p.2)

theorem insertEntry_entriesOf (k : String) (v : Value) (m : TextMap Value) :
    insertEntry (text k) v (entriesOf m) = entriesOf (m.insert k v) := by
  induction m with
  | nil => rfl
  | cons p rest ih =>
    rw [show entriesOf (p :: rest) = (text p.1, p.2) :: entriesOf rest from rfl, insertEntry,
      order_text, TextMap.insert]
    by_cases heq : k = p.1
    · rw [if_neg (heq ▸ String.lt_irrefl k), if_pos heq, if_pos heq]
      rfl
    · rw [if_neg heq, if_neg heq]
      by_cases hlt : k < p.1
      · rw [if_pos hlt, if_pos hlt]
        rfl
      · rw [if_neg hlt, if_neg hlt, ih]
        rfl

theorem lookupEntry_entriesOf (k : String) (m : TextMap Value) :
    lookupEntry (text k) (entriesOf m) = m.get? k := by
  induction m with
  | nil => rfl
  | cons p rest ih =>
    rw [show entriesOf (p :: rest) = (text p.1, p.2) :: entriesOf rest from rfl, lookupEntry,
      eqv_text, TextMap.get?_cons, ih]
    simp only [beq_iff_eq]

/-- The entries of members, put into a map in order. -/
theorem ofEntries_ofJsonMembers (members : List (String × Json)) (m : TextMap Value) :
    (ofJsonMembers members).foldl (fun m (k, v) => insertEntry k v m) (entriesOf m) =
      entriesOf (m.insertAll (members.map fun p => (p.1, ofJson p.2))) := by
  induction members generalizing m with
  | nil => rfl
  | cons p rest ih =>
    rw [ofJsonMembers, List.foldl_cons]
    show List.foldl _ (insertEntry (text p.1) (ofJson p.2) (entriesOf m)) _ = _
    rw [insertEntry_entriesOf, ih]
    rfl

/-- A member is an attribute of the map that an object becomes. -/
theorem attr?_ofJson {object j : Json} {name : String} (h : object.Has name j) :
    (ofJson object).attr? name = some (ofJson j) := by
  obtain ⟨members, rfl, hnodup, hmem⟩ := h
  have hmem : (name, ofJson j) ∈ members.map fun p => (p.1, ofJson p.2) :=
    List.mem_map.2 ⟨_, hmem, rfl⟩
  have hkeys : ((members.map fun p => (p.1, ofJson p.2)).map (·.1)).Nodup := by
    simpa [List.map_map, Function.comp_def] using hnodup
  have hentries := ofEntries_ofJsonMembers members []
  rw [ofJson, attr?, ofEntries, show [] = entriesOf [] from rfl, hentries, lookupEntry_entriesOf]
  exact TextMap.get?_insertAll_of_mem hmem hkeys []

theorem ofJson_arr (items : List Json) : ofJson (.arr items) = .seq (items.map ofJson) := by
  have hitems : ofJsonItems items = items.map ofJson := by
    induction items with
    | nil => rfl
    | cons j rest ih => rw [ofJsonItems, ih, List.map_cons]
  rw [ofJson, hitems]

end Template.Value

end ObjectGateway
