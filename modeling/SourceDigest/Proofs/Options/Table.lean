import SourceDigest.Options.Basic
import SourceDigest.Proofs.Keyed

/-! Options as a table. To set an option by its name replaces its entry and nothing else, so of
several values for one name the last one stays, and a name that is no option changes nothing. -/

namespace SourceDigest.Options

variable {o : Options} {name : String} {v : Value}

def get? (o : Options) (name : String) : Option Value :=
  o.toTable.lookup name

theorem nodup_names : names.Nodup := by
  decide

/-! ## Setting options by name -/

theorem toTable_set (h : name ∈ names) (o : Options) (v : Value) :
    (o.set name v).toTable = Keyed.insert o.toTable name v := by
  simp only [names, fields, List.map_cons, List.map_nil, List.mem_cons, List.not_mem_nil,
    or_false] at h
  rcases h with rfl | rfl | rfl | rfl | rfl | rfl | rfl | rfl | rfl | rfl | rfl | rfl | rfl |
    rfl | rfl
  all_goals rfl

theorem set_of_notMem (h : name ∉ names) (o : Options) (v : Value) : o.set name v = o := by
  have hnone : fields.lookup name = none := by
    rw [← Option.not_isSome_iff_eq_none, Keyed.isSome_lookup_iff]
    exact h
  rw [set, hnone]

theorem get?_set (o : Options) (name : String) (v : Value) {wanted : String}
    (h : wanted ∈ names) :
    (o.set name v).get? wanted = if wanted = name then some v else o.get? wanted := by
  by_cases hname : name ∈ names
  · rw [get?, toTable_set hname, Keyed.lookup_insert]
    rfl
  · have hne : wanted ≠ name := fun heq => hname (heq ▸ h)
    rw [set_of_notMem hname, if_neg hne]

def setAll (o : Options) (table : List (String × Value)) : Options :=
  table.foldl (fun o entry => o.set entry.1 entry.2) o

/-- Of several values for one name the last one stays. -/
theorem get?_setAll (o : Options) (table : List (String × Value)) (h : name ∈ names) :
    (o.setAll table).get? name = (table.reverse.lookup name).or (o.get? name) := by
  induction table generalizing o with
  | nil => rfl
  | cons entry table ih =>
    have hset := ih (o.set entry.1 entry.2)
    rw [get?_set o _ _ h] at hset
    rw [List.reverse_cons, List.lookup_append, Option.or_assoc, Keyed.lookup_cons_eq]
    refine hset.trans ?_
    by_cases hentry : name = entry.1 <;> simp [hentry]

theorem ofTable_eq (table : List (String × Value)) :
    ofTable table =
      (({} : Options).setAll table).check.map fun _ => ({} : Options).setAll table := by
  unfold ofTable setAll
  dsimp only
  cases ({} : Options).setAll table |>.check <;> rfl

theorem ofTable_eq_ok_iff {table : List (String × Value)} :
    ofTable table = .ok o ↔ ({} : Options).setAll table = o ∧ o.check = .ok () := by
  rw [ofTable_eq]
  constructor
  · intro h
    cases hcheck : (({} : Options).setAll table).check with
    | error fault =>
      rw [hcheck] at h
      cases h
    | ok =>
      rw [hcheck] at h
      cases h
      exact ⟨rfl, hcheck⟩
  · rintro ⟨rfl, hcheck⟩
    rw [hcheck]
    rfl

theorem ofTable_eq_error_iff {table : List (String × Value)} {fault : Fault} :
    ofTable table = .error fault ↔ (({} : Options).setAll table).check = .error fault := by
  rw [ofTable_eq]
  cases (({} : Options).setAll table).check <;> simp [Except.map]

end SourceDigest.Options
