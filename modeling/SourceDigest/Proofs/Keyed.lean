import Mathlib.Data.List.Induction
import Mathlib.Data.List.Nodup
import SourceDigest.Keyed

/-! Maps whose keys are pairwise different: a look-up finds exactly the pairs that are there, and
building such a map from pairs changes nothing. -/

namespace SourceDigest.Keyed

variable {κ β : Type}

/-! ## Looking up -/

theorem lookup_eq_some_iff [BEq κ] [LawfulBEq κ] {entries : List (κ × β)} {key : κ} {v : β}
    (h : (entries.map (·.1)).Nodup) :
    entries.lookup key = some v ↔ (key, v) ∈ entries := by
  induction entries with
  | nil => simp
  | cons entry entries ih =>
    obtain ⟨k, w⟩ := entry
    rw [List.map_cons, List.nodup_cons] at h
    by_cases hk : key = k
    · subst hk
      have hn : (key, v) ∉ entries := by
        intro hm
        exact h.1 (List.mem_map.mpr ⟨(key, v), hm, rfl⟩)
      simp [hn, eq_comm]
    · have hb : (key == k) = false := beq_eq_false_iff_ne.mpr hk
      simp [List.lookup_cons, hb, hk, ih h.2]

theorem isSome_lookup_iff [BEq κ] [LawfulBEq κ] {entries : List (κ × β)} {key : κ} :
    (entries.lookup key).isSome = true ↔ key ∈ entries.map (·.1) := by
  rw [List.lookup_isSome_iff, List.mem_map]
  constructor
  · rintro ⟨entry, hm, hk⟩
    exact ⟨entry, hm, (eq_of_beq hk).symm⟩
  · rintro ⟨entry, hm, hk⟩
    exact ⟨entry, hm, by simp [hk]⟩

theorem lookup_reverse [BEq κ] [LawfulBEq κ] {entries : List (κ × β)}
    (h : (entries.map (·.1)).Nodup) (key : κ) :
    entries.reverse.lookup key = entries.lookup key := by
  have hreverse : (entries.reverse.map (·.1)).Nodup := by
    rw [List.map_reverse]
    exact List.nodup_reverse.mpr h
  apply Option.ext
  intro v
  rw [lookup_eq_some_iff hreverse, lookup_eq_some_iff h, List.mem_reverse]

theorem lookup_filter [BEq κ] [LawfulBEq κ] {entries : List (κ × β)}
    (h : (entries.map (·.1)).Nodup) (p : κ × β → Bool) (key : κ) :
    (entries.filter p).lookup key = (entries.lookup key).filter fun v => p (key, v) := by
  have hfilter : ((entries.filter p).map (·.1)).Nodup :=
    h.sublist (List.filter_sublist.map _)
  apply Option.ext
  intro v
  rw [lookup_eq_some_iff hfilter, List.mem_filter, Option.filter_eq_some_iff, lookup_eq_some_iff h]

/-! ## Distinct keys -/

theorem eraseDups_concat_of_mem [BEq κ] [LawfulBEq κ] {keys : List κ} {key : κ}
    (h : key ∈ keys) : (keys ++ [key]).eraseDups = keys.eraseDups := by
  simp [List.eraseDups_append, List.removeAll, h]

theorem eraseDups_concat_of_notMem [BEq κ] [LawfulBEq κ] {keys : List κ} {key : κ}
    (h : key ∉ keys) : (keys ++ [key]).eraseDups = keys.eraseDups ++ [key] := by
  simp [List.eraseDups_append, List.removeAll, List.eraseDups_cons, h]

theorem eraseDups_of_nodup [BEq κ] [LawfulBEq κ] {keys : List κ} (h : keys.Nodup) :
    keys.eraseDups = keys := by
  induction keys using List.reverseRecOn with
  | nil => rfl
  | append_singleton keys key ih =>
    obtain ⟨hkeys, -, hkey⟩ := List.nodup_append.mp h
    have hnew : key ∉ keys := fun hm => hkey key hm key List.mem_cons_self rfl
    rw [eraseDups_concat_of_notMem hnew, ih hkeys]

/-! ## Building -/

variable [DecidableEq κ]

theorem insert_of_notMem {entries : List (κ × β)} {key : κ} (h : key ∉ entries.map (·.1))
    (v : β) : insert entries key v = entries ++ [(key, v)] := by
  rw [insert, if_neg (mt isSome_lookup_iff.mp h)]

theorem keys_insert_of_mem {entries : List (κ × β)} {key : κ} (h : key ∈ entries.map (·.1))
    (v : β) : (insert entries key v).map (·.1) = entries.map (·.1) := by
  rw [insert, if_pos (isSome_lookup_iff.mpr h), List.map_map]
  apply List.map_congr_left
  intro e _
  by_cases he : e.1 = key <;> simp [he]

theorem mem_keys_insert {entries : List (κ × β)} {key k : κ} {v : β} :
    k ∈ (insert entries key v).map (·.1) ↔ k ∈ entries.map (·.1) ∨ k = key := by
  by_cases h : key ∈ entries.map (·.1)
  · rw [keys_insert_of_mem h]
    constructor
    · exact Or.inl
    · rintro (hk | rfl)
      · exact hk
      · exact h
  · simp [insert_of_notMem h]

theorem nodup_keys_insert {entries : List (κ × β)} {key : κ} {v : β}
    (h : (entries.map (·.1)).Nodup) : ((insert entries key v).map (·.1)).Nodup := by
  by_cases hkey : key ∈ entries.map (·.1)
  · rw [keys_insert_of_mem hkey]
    exact h
  · rw [insert_of_notMem hkey, List.map_append, List.map_singleton, ← List.concat_eq_append]
    exact h.concat hkey

/-- What is in a map after a value was put into it. -/
theorem mem_insert {entries : List (κ × β)} {key : κ} {v : β} {e : κ × β}
    (h : e ∈ insert entries key v) : e = (key, v) ∨ e ∈ entries := by
  unfold insert at h
  split at h
  · obtain ⟨old, hold, hnew⟩ := List.mem_map.mp h
    split at hnew
    · exact .inl hnew.symm
    · exact .inr (hnew ▸ hold)
  · rcases List.mem_append.mp h with h | h
    · exact .inr h
    · exact .inl (List.mem_singleton.mp h)

theorem lookup_cons_eq (entry : κ × β) (entries : List (κ × β)) (k : κ) :
    (entry :: entries).lookup k = if k = entry.1 then some entry.2 else entries.lookup k := by
  by_cases hk : k = entry.1
  · rw [if_pos hk, hk]
    exact List.lookup_cons_self
  · rw [if_neg hk, List.lookup_cons, beq_eq_false_iff_ne.mpr hk]

theorem lookup_map_replace (entries : List (κ × β)) (key : κ) (v : β) (k : κ) :
    (entries.map fun e => if e.1 = key then (key, v) else e).lookup k =
      if k = key then (entries.lookup key).map fun _ => v else entries.lookup k := by
  induction entries with
  | nil => simp
  | cons entry entries ih =>
    rw [List.map_cons, lookup_cons_eq, lookup_cons_eq, lookup_cons_eq, ih]
    by_cases hold : entry.1 = key
    · by_cases hk : k = key <;> simp [hold, hk]
    · by_cases hk : k = key
      · simp [hold, hk, Ne.symm hold]
      · simp [hold, hk]

theorem lookup_insert (entries : List (κ × β)) (key : κ) (v : β) (k : κ) :
    (insert entries key v).lookup k = if k = key then some v else entries.lookup k := by
  unfold insert
  split
  · rename_i hsome
    obtain ⟨w, hw⟩ := Option.isSome_iff_exists.mp hsome
    rw [lookup_map_replace, hw]
    rfl
  · rename_i hnone
    rw [List.lookup_append, lookup_cons_eq]
    by_cases hk : k = key
    · simp [hk, Option.not_isSome_iff_eq_none.mp hnone]
    · simp [hk]

/-- Entries under other keys leave a value in its place. -/
theorem lookup_foldl_insert_of_notMem {pairs : List (κ × β)} {key : κ}
    (h : key ∉ pairs.map (·.1)) (entries : List (κ × β)) :
    (pairs.foldl (fun entries pair => insert entries pair.1 pair.2) entries).lookup key =
      entries.lookup key := by
  induction pairs generalizing entries with
  | nil => rfl
  | cons pair pairs ih =>
    obtain ⟨hpair, hpairs⟩ := List.ne_and_not_mem_of_not_mem_cons h
    rw [List.foldl_cons, ih hpairs, lookup_insert, if_neg hpair]

private theorem foldl_insert (entries pairs : List (κ × β))
    (h : ((entries ++ pairs).map (·.1)).Nodup) :
    pairs.foldl (fun entries pair => insert entries pair.1 pair.2) entries =
      entries ++ pairs := by
  induction pairs generalizing entries with
  | nil => simp
  | cons pair pairs ih =>
    have hpair : pair.1 ∉ entries.map (·.1) := by
      intro hm
      rw [List.map_append, List.map_cons] at h
      exact (List.nodup_append.mp h).2.2 _ hm _ List.mem_cons_self rfl
    rw [List.foldl_cons, insert_of_notMem hpair, ih _ (by simpa using h)]
    simp

/-- Pairs with different keys are a map already. -/
theorem ofList_of_nodup {pairs : List (κ × β)} (h : (pairs.map (·.1)).Nodup) :
    ofList pairs = pairs :=
  foldl_insert [] pairs (by simpa using h)

end SourceDigest.Keyed
