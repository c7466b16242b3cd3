import SourceDigest.Options.Layers
import SourceDigest.Proofs.Keyed

/-! Tables that are read from a document hold no key twice, at any depth: statements set keys that
are not there yet, and what a header or a dotted key opens is changed in its place. -/

namespace SourceDigest

/-- No table in a value holds a key twice. -/
inductive Value.DistinctKeys : Value → Prop where
  | null : DistinctKeys .null
  | bool (b : Bool) : DistinctKeys (.bool b)
  | int (n : Int) : DistinctKeys (.int n)
  | float (x : Float) : DistinctKeys (.float x)
  | text (s : String) : DistinctKeys (.text s)
  | moment (m : Moment) : DistinctKeys (.moment m)
  | list {items : List Value} (h : ∀ v ∈ items, DistinctKeys v) : DistinctKeys (.list items)
  | tuple {items : List Value} (h : ∀ v ∈ items, DistinctKeys v) : DistinctKeys (.tuple items)
  | table {entries : List (String × Value)} (hkeys : (entries.map (·.1)).Nodup)
      (h : ∀ e ∈ entries, DistinctKeys e.2) : DistinctKeys (.table entries)

namespace Toml

variable {entries inner result : Entries} {key : String} {v : Value}

/-- Entries of a table that holds no key twice, at any depth. -/
structure DistinctEntries (entries : Entries) : Prop where
  keys : (entries.map (·.1)).Nodup
  values : ∀ e ∈ entries, e.2.DistinctKeys

namespace DistinctEntries

theorem nil : DistinctEntries [] where
  keys := List.nodup_nil
  values _ h := nomatch h

theorem table (h : DistinctEntries entries) : (Value.table entries).DistinctKeys :=
  .table h.keys h.values

theorem of_table (h : (Value.table entries).DistinctKeys) : DistinctEntries entries := by
  cases h with
  | table hkeys hvalues => exact ⟨hkeys, hvalues⟩

theorem of_lookup (h : DistinctEntries entries) (hv : entries.lookup key = some v) :
    v.DistinctKeys :=
  h.values (key, v) ((Keyed.lookup_eq_some_iff h.keys).mp hv)

theorem insert (h : DistinctEntries entries) (hv : v.DistinctKeys) :
    DistinctEntries (Keyed.insert entries key v) where
  keys := Keyed.nodup_keys_insert h.keys
  values e he := by
    rcases Keyed.mem_insert he with rfl | he
    · exact hv
    · exact h.values e he

/-- A key that is not there yet comes at the end. -/
theorem concat (h : DistinctEntries entries) (hnew : entries.lookup key = none)
    (hv : v.DistinctKeys) : DistinctEntries (entries ++ [(key, v)]) := by
  have hkey : key ∉ entries.map (·.1) := by
    intro hm
    rw [← Keyed.isSome_lookup_iff, hnew] at hm
    cases hm
  rw [← Keyed.insert_of_notMem hkey]
  exact h.insert hv

end DistinctEntries

/-! ## Changing a table -/

theorem addKey?_distinct (hv : v.DistinctKeys) (h : DistinctEntries entries)
    (hresult : addKey? key v entries = some result) : DistinctEntries result := by
  unfold addKey? at hresult
  split at hresult
  · cases hresult
  · rename_i hnew
    cases hresult
    exact h.concat (Option.not_isSome_iff_eq_none.mp hnew) hv

theorem appendTable?_distinct (h : DistinctEntries entries)
    (hresult : appendTable? key entries = some result) : DistinctEntries result := by
  have hempty : (Value.table []).DistinctKeys := DistinctEntries.nil.table
  unfold appendTable? at hresult
  split at hresult
  · rename_i hnew
    cases hresult
    exact h.concat hnew (.list fun v hv => List.mem_singleton.mp hv ▸ hempty)
  · rename_i items hitems
    cases hresult
    cases h.of_lookup hitems with
    | list hvalues =>
      refine h.insert (.list fun v hv => ?_)
      rcases List.mem_append.mp hv with hv | hv
      · exact hvalues v hv
      · exact List.mem_singleton.mp hv ▸ hempty
  · cases hresult

/-- A change that keeps keys distinct does so below any path. -/
theorem changeAt?_distinct {throughLists : Bool} {f : Entries → Option Entries}
    (hf : ∀ {old new : Entries}, DistinctEntries old → f old = some new → DistinctEntries new)
    {path : List String} (h : DistinctEntries entries)
    (hresult : changeAt? throughLists f path entries = some result) :
    DistinctEntries result := by
  induction path generalizing entries result with
  | nil => exact hf h hresult
  | cons key path ih =>
    rw [changeAt?] at hresult
    split at hresult
    · rename_i hnew
      obtain ⟨inner, hinner, rfl⟩ := Option.map_eq_some_iff.mp hresult
      exact h.concat hnew (ih .nil hinner).table
    · rename_i old hold
      obtain ⟨inner, hinner, rfl⟩ := Option.map_eq_some_iff.mp hresult
      exact h.insert (ih (.of_table (h.of_lookup hold)) hinner).table
    · rename_i items hitems
      split at hresult
      · split at hresult
        · rename_i old hlast
          obtain ⟨inner, hinner, rfl⟩ := Option.map_eq_some_iff.mp hresult
          cases h.of_lookup hitems with
          | list hvalues =>
            have hold := hvalues _ (List.mem_of_getLast? hlast)
            refine h.insert (.list fun v hv => ?_)
            rcases List.mem_append.mp hv with hv | hv
            · exact hvalues v (List.dropLast_subset items hv)
            · exact List.mem_singleton.mp hv ▸ (ih (.of_table hold) hinner).table
        · cases hresult
      · cases hresult
    · cases hresult

/-! ## Values -/

theorem number?_distinct {text rest : List Char} (h : number? text = some (v, rest)) :
    v.DistinctKeys := by
  unfold number? at h
  dsimp only at h
  split at h
  · cases h
    exact .int _
  · simp only [Option.bind_eq_bind, Option.bind_eq_some_iff] at h
    obtain ⟨_, _, h⟩ := h
    split at h
    · split at h
      · cases h
      · obtain ⟨_, _, h⟩ := Option.bind_eq_some_iff.mp h
        cases h
        exact .int _
    · obtain ⟨_, _, h⟩ := Option.bind_eq_some_iff.mp h
      cases h
      exact .float _

theorem special?_distinct {text rest : List Char} (h : special? text = some (v, rest)) :
    v.DistinctKeys := by
  obtain ⟨_, _, hr⟩ := Option.map_eq_some_iff.mp h
  cases hr
  exact .float _

/-- What the three readers of values yield with some fuel. -/
structure ReadsDistinct (fuel : Nat) : Prop where
  value : ∀ {text v rest}, value? fuel text = some (v, rest) → v.DistinctKeys
  items : ∀ {done text items rest}, (∀ v ∈ done, v.DistinctKeys) →
    items? fuel done text = some (items, rest) → ∀ v ∈ items, v.DistinctKeys
  pairs : ∀ {done closed text entries rest}, DistinctEntries done →
    pairs? fuel done closed text = some (entries, rest) → DistinctEntries entries

variable {fuel : Nat} {text rest : List Char}

theorem ReadsDistinct.value_succ (ih : ReadsDistinct fuel)
    (h : value? (fuel + 1) text = some (v, rest)) : v.DistinctKeys := by
  rw [value?.eq_def] at h
  dsimp only at h
  split at h
  · obtain ⟨_, _, hr⟩ := Option.map_eq_some_iff.mp h
    cases hr
    exact .text _
  · obtain ⟨_, _, hr⟩ := Option.map_eq_some_iff.mp h
    cases hr
    exact .text _
  · cases h
    exact .bool _
  · cases h
    exact .bool _
  · obtain ⟨_, hitems, hr⟩ := Option.map_eq_some_iff.mp h
    cases hr
    exact .list (ih.items (List.forall_mem_nil _) hitems)
  · split at h
    · cases h
      exact DistinctEntries.nil.table
    · obtain ⟨_, hpairs, hr⟩ := Option.map_eq_some_iff.mp h
      cases hr
      exact (ih.pairs .nil hpairs).table
  · split at h
    · cases h
    · cases h
      exact .moment _
    · split at h
      · cases h
        exact .moment _
      · split at h
        · rename_i hnumber
          cases h
          exact number?_distinct hnumber
        · exact special?_distinct h

theorem ReadsDistinct.items_succ (ih : ReadsDistinct fuel) {done items : List Value}
    (hdone : ∀ v ∈ done, v.DistinctKeys) (h : items? (fuel + 1) done text = some (items, rest)) :
    ∀ v ∈ items, v.DistinctKeys := by
  rw [items?.eq_def] at h
  dsimp only at h
  split at h
  · cases h
  · cases h
    exact fun v hv => hdone v (List.mem_reverse.mp hv)
  · split at h
    · cases h
    · rename_i v _ hv
      have hall : ∀ w ∈ v :: done, w.DistinctKeys := by
        intro w hw
        rcases List.mem_cons.mp hw with rfl | hw
        · exact ih.value hv
        · exact hdone w hw
      split at h
      · cases h
        exact fun w hw => hall w (List.mem_reverse.mp hw)
      · exact ih.items hall h
      · cases h

theorem ReadsDistinct.pairs_succ (ih : ReadsDistinct fuel) {done : Entries} {closed : Closed}
    (hdone : DistinctEntries done)
    (h : pairs? (fuel + 1) done closed text = some (entries, rest)) : DistinctEntries entries := by
  rw [pairs?.eq_def] at h
  dsimp only at h
  split at h
  · split at h
    · cases h
    · rename_i hv
      split at h
      · cases h
      · split at h
        · cases h
        · rename_i next hnext
          have hdistinct : DistinctEntries next :=
            changeAt?_distinct (addKey?_distinct (ih.value hv)) hdone hnext
          split at h
          · cases h
            exact hdistinct
          · exact ih.pairs hdistinct h
          · cases h
  · cases h

theorem readsDistinct (fuel : Nat) : ReadsDistinct fuel := by
  induction fuel with
  | zero =>
    refine ⟨fun h => ?_, fun _ h => ?_, fun _ h => ?_⟩
    · rw [value?] at h
      cases h
    · rw [items?] at h
      cases h
    · rw [pairs?] at h
      cases h
  | succ fuel ih => exact ⟨ih.value_succ, ih.items_succ, ih.pairs_succ⟩

/-! ## Documents -/

variable {s next : State}

/-- One statement keeps the keys of what has been read distinct. -/
theorem statement?_distinct (hs : DistinctEntries s.data)
    (h : statement? s text = some (next, rest)) : DistinctEntries next.data := by
  unfold statement? at h
  split at h
  · unfold appendTo? at h
    split at h
    · split at h
      · cases h
      · obtain ⟨data, hdata, hr⟩ := Option.map_eq_some_iff.mp h
        cases hr
        exact changeAt?_distinct appendTable?_distinct hs hdata
    · cases h
  · unfold openTable? at h
    split at h
    · split at h
      · cases h
      · obtain ⟨data, hdata, hr⟩ := Option.map_eq_some_iff.mp h
        cases hr
        exact changeAt?_distinct (fun hold hnew => Option.some.inj hnew ▸ hold) hs hdata
    · cases h
  · cases h
    exact hs
  · unfold setKey? at h
    split at h
    · split at h
      · cases h
      · rename_i hv
        dsimp only at h
        split at h
        · cases h
        · obtain ⟨data, hdata, hr⟩ := Option.map_eq_some_iff.mp h
          cases hr
          exact changeAt?_distinct (addKey?_distinct ((readsDistinct _).value hv)) hs hdata
    · cases h

theorem statements?_distinct (hs : DistinctEntries s.data)
    (h : statements? fuel s text = some entries) : DistinctEntries entries := by
  induction fuel generalizing s text with
  | zero => cases h
  | succ fuel ih =>
    rw [statements?] at h
    split at h
    · cases h
      exact hs
    · exact ih hs h
    · split at h
      · cases h
      · rename_i hstatement
        have hnext := statement?_distinct hs hstatement
        split at h
        · cases h
          exact hnext
        · exact ih hnext h
        · cases h

theorem ofBytes?_distinct {bytes : ByteArray} (h : ofBytes? bytes = some entries) :
    DistinctEntries entries := by
  unfold ofBytes? at h
  split at h
  · exact statements?_distinct .nil h
  · cases h

end Toml

/-- The table that a file sets options with holds no key twice. -/
theorem Options.nodup_keys_ownTable {bytes : ByteArray} {entries : Layer}
    (h : Toml.ofBytes? bytes = some entries) : ((ownTable entries).map (·.1)).Nodup := by
  have hentries := Toml.ofBytes?_distinct h
  unfold ownTable
  split
  · rename_i inner hinner
    exact (Toml.DistinctEntries.of_table (hentries.of_lookup hinner)).keys
  · exact hentries.keys

end SourceDigest
