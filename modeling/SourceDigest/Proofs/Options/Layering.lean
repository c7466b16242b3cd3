import SourceDigest.Proofs.Options.Sources

/-! What layers come to. Whenever options can be loaded, each one has the value of the last source
that sets it, and its default where none does; lists of patterns become tuples. Excluded patterns
are those by default and after them those of all sources, in order, that are no default ones. -/

namespace SourceDigest.Options

variable {w : World} {file : Option String} {overrides : Layer} {m m' : Merged} {o : Options}
  {layer : Layer} {source : String → Option Value}

/-! ## Sources in order -/

/-- The value of the last source that sets an option. -/
def lastSetting (sources : List (String → Option Value)) (name : String) : Option Value :=
  sources.reverse.findSome? fun source => source name

/-- Reads the patterns that an option stands for, where it is set to anything. -/
def readPatterns (setting : Option Value) : Except Fault (List String) :=
  match setting with
  | some v => if v.isSet then patternList v else .ok []
  | none => .ok []

/-- The sources of a run: home file, project file, named file, environment and caller. -/
def sources (w : World) (file : Option String) (overrides : Layer) :
    List (String → Option Value) :=
  [fun name => (fileTable (w.readHome homeFile)).lookup name,
   fun name => (fileTable (w.read projectFile)).lookup name,
   fun name => (namedTable w file).lookup name,
   variableSetting w.environment,
   callerSetting overrides]

def layers (w : World) (file : Option String) (overrides : Layer) : List Layer :=
  [fileTable (w.readHome homeFile), fileTable (w.read projectFile), namedTable w file,
    variableLayer w.environment names, callerLayer overrides]

theorem lastSetting_concat (sources : List (String → Option Value))
    (source : String → Option Value) (name : String) :
    lastSetting (sources ++ [source]) name = (source name).or (lastSetting sources name) := by
  rw [lastSetting, List.reverse_concat, List.findSome?_cons, lastSetting]
  cases source name <;> rfl

/-- The first entry of a layer for excluded patterns, and the last one for any option, are what a
source sets these to. -/
structure Provides (layer : Layer) (source : String → Option Value) : Prop where
  excludes : layer.lookup "exclude_patterns" = source "exclude_patterns"
  last : ∀ name ∈ names, layer.reverse.lookup name = source name

theorem provides_lookup (hkeys : (layer.map (·.1)).Nodup) :
    Provides layer fun name => layer.lookup name where
  excludes := rfl
  last name _ := Keyed.lookup_reverse hkeys name

theorem provides_variableLayer (environment : List (String × String)) :
    Provides (variableLayer environment names) (variableSetting environment) where
  excludes := lookup_variableLayer environment (by decide)
  last name hname := by
    rw [Keyed.lookup_reverse (nodup_keys_variableLayer environment)]
    exact lookup_variableLayer environment hname

theorem provides_callerLayer (hkeys : (overrides.map (·.1)).Nodup) :
    Provides (callerLayer overrides) (callerSetting overrides) where
  excludes := lookup_callerLayer_excludes hkeys
  last _ hname := lookup_callerLayer hkeys hname

theorem layers_provide (w : World) (file : Option String)
    (hkeys : (overrides.map (·.1)).Nodup) :
    List.Forall₂ Provides (layers w file overrides) (sources w file overrides) :=
  .cons (provides_lookup (nodup_keys_fileTable _)) <|
    .cons (provides_lookup (nodup_keys_fileTable _)) <|
      .cons (provides_lookup (nodup_keys_namedTable w file)) <|
        .cons (provides_variableLayer w.environment) <|
          .cons (provides_callerLayer hkeys) .nil

/-! ## Adding layers -/

/-- The part of a layer that replaces what was set before. -/
def replacing (layer : Layer) : Layer :=
  layer.filter fun entry => entry.1 != "exclude_patterns"

theorem lookup_replacing (layer : Layer) {name : String} (h : name ≠ "exclude_patterns") :
    (replacing layer).reverse.lookup name = layer.reverse.lookup name := by
  rw [replacing, ← List.filter_reverse]
  induction layer.reverse with
  | nil => rfl
  | cons entry rest ih =>
    rw [List.filter_cons, Keyed.lookup_cons_eq]
    by_cases hentry : entry.1 = "exclude_patterns"
    · rw [if_neg (by simp [hentry]), if_neg (fun heq => h (heq.trans hentry)), ih]
    · rw [if_pos (by simp [hentry]), Keyed.lookup_cons_eq, ih]

theorem lookup_excludes_replacing (layer : Layer) :
    (replacing layer).reverse.lookup "exclude_patterns" = none := by
  rw [← Option.not_isSome_iff_eq_none, Keyed.isSome_lookup_iff]
  simp [replacing]

theorem add_eq (m : Merged) (layer : Layer) :
    m.add layer = (readPatterns (layer.lookup "exclude_patterns")).map fun patterns =>
      ⟨m.values ++ replacing layer, m.excludes ++ patterns⟩ := by
  unfold Merged.add readPatterns replacing
  cases layer.lookup "exclude_patterns" with
  | none => rfl
  | some v =>
    cases hset : v.isSet with
    | false => simp only [hset]; rfl
    | true =>
      simp only [hset, if_true]
      cases patternList v <;> rfl

theorem add_nil (m : Merged) : m.add [] = .ok m := by
  rw [add_eq]
  simp [readPatterns, replacing, Except.map]

/-- What has been merged is what some sources come to. -/
structure MergedFrom (sources : List (String → Option Value)) (m : Merged) : Prop where
  values : ∀ name ∈ names, name ≠ "exclude_patterns" → m.get? name = lastSetting sources name
  noExcludes : m.get? "exclude_patterns" = none
  excludes : ∃ found,
    List.Forall₂ (fun source patterns => readPatterns (source "exclude_patterns") = .ok patterns)
      sources found ∧ m.excludes = found.flatten

theorem mergedFrom_empty : MergedFrom [] .empty where
  values _ _ _ := rfl
  noExcludes := rfl
  excludes := ⟨[], .nil, rfl⟩

/-- A layer that is added makes its source the last one. -/
theorem MergedFrom.add {sources : List (String → Option Value)} (hm : MergedFrom sources m)
    (hlayer : Provides layer source) (h : m.add layer = .ok m') :
    MergedFrom (sources ++ [source]) m' := by
  rw [add_eq] at h
  obtain ⟨patterns, hpatterns, rfl⟩ := map_eq_ok_iff.mp h
  have hget : ∀ name, Merged.get? ⟨m.values ++ replacing layer, m.excludes ++ patterns⟩ name =
      ((replacing layer).reverse.lookup name).or (m.get? name) := by
    intro name
    rw [Merged.get?, List.reverse_append, List.lookup_append]
    rfl
  constructor
  · intro name hname hne
    rw [hget, lookup_replacing layer hne, hlayer.last name hname, hm.values name hname hne,
      lastSetting_concat]
  · rw [hget, lookup_excludes_replacing, hm.noExcludes]
    rfl
  · obtain ⟨found, hfound, hexcludes⟩ := hm.excludes
    refine ⟨found ++ [patterns], List.rel_append hfound (.cons ?_ .nil), ?_⟩
    · rw [← hlayer.excludes]
      exact hpatterns
    · simp [hexcludes]

theorem MergedFrom.foldlM {sources more : List (String → Option Value)} {layers : List Layer}
    (hm : MergedFrom sources m) (hlayers : List.Forall₂ Provides layers more)
    (h : layers.foldlM Merged.add m = .ok m') : MergedFrom (sources ++ more) m' := by
  induction hlayers generalizing sources m with
  | nil =>
    cases h
    rw [List.append_nil]
    exact hm
  | cons hlayer _ ih =>
    rw [List.foldlM_cons, bind_eq_ok_iff] at h
    obtain ⟨next, hnext, hrest⟩ := h
    have := ih (hm.add hlayer hnext) hrest
    rwa [List.append_assoc] at this

/-! ## Options of all layers -/

/-- The entry for excluded patterns, if a layer has any. -/
def excludeEntries (m : Merged) : Layer :=
  if m.excludes.isEmpty then [] else [("exclude_patterns", m.excludePatterns)]

theorem toOptions_eq {included prioritized : Layer}
    (hincluded : m.patterns "include_patterns" = .ok included)
    (hprioritized : m.patterns "prioritize_files" = .ok prioritized) :
    m.toOptions =
      if m.unknownNames.isEmpty then
        (ofTable (m.values ++ (included ++ prioritized) ++ excludeEntries m)).mapError .options
      else .error (.unknownNames m.unknownNames) := by
  unfold Merged.toOptions excludeEntries
  rw [hincluded, hprioritized]
  cases m.unknownNames.isEmpty <;> rfl

theorem patterns_of_toOptions (h : m.toOptions = .ok o) :
    ∃ included prioritized, m.patterns "include_patterns" = .ok included ∧
      m.patterns "prioritize_files" = .ok prioritized := by
  unfold Merged.toOptions at h
  obtain ⟨_, hlists, -⟩ := bind_eq_ok_iff.mp h
  obtain ⟨included, hincluded, hrest⟩ := bind_eq_ok_iff.mp (mapError_eq_ok_iff.mp hlists)
  obtain ⟨prioritized, hprioritized, -⟩ := bind_eq_ok_iff.mp hrest
  exact ⟨included, prioritized, hincluded, hprioritized⟩

theorem setAll_of_toOptions {included prioritized : Layer}
    (hincluded : m.patterns "include_patterns" = .ok included)
    (hprioritized : m.patterns "prioritize_files" = .ok prioritized) (h : m.toOptions = .ok o) :
    ({} : Options).setAll (m.values ++ (included ++ prioritized) ++ excludeEntries m) = o ∧
      o.check = .ok () := by
  rw [toOptions_eq hincluded hprioritized] at h
  split at h
  · exact ofTable_eq_ok_iff.mp (mapError_eq_ok_iff.mp h)
  · cases h

theorem patterns_eq_ok {name : String} {found : Layer} (h : m.patterns name = .ok found) :
    (m.get? name = none ∧ found = []) ∨
      ∃ v patterns, m.get? name = some v ∧ patternList v = .ok patterns ∧
        found = [(name, .ofTexts patterns)] := by
  unfold Merged.patterns at h
  split at h
  · rename_i v hv
    obtain ⟨patterns, hpatterns, hfound⟩ := bind_eq_ok_iff.mp h
    cases hfound
    exact .inr ⟨v, patterns, hv, hpatterns, rfl⟩
  · rename_i hnone
    cases h
    exact .inl ⟨hnone, rfl⟩

theorem lookup_patterns {name key : String} {found : Layer} (h : m.patterns key = .ok found)
    (hne : name ≠ key) : found.reverse.lookup name = none := by
  obtain ⟨-, rfl⟩ | ⟨v, patterns, -, -, rfl⟩ := patterns_eq_ok h
  · rfl
  · rw [List.reverse_singleton, Keyed.lookup_cons_eq, if_neg hne]
    rfl

theorem lookup_excludeEntries {name : String} (m : Merged) (h : name ≠ "exclude_patterns") :
    (excludeEntries m).reverse.lookup name = none := by
  unfold excludeEntries
  split
  · rfl
  · rw [List.reverse_singleton, Keyed.lookup_cons_eq, if_neg h]
    rfl

theorem lookup_own_excludeEntries (m : Merged) :
    ((excludeEntries m).reverse.lookup "exclude_patterns").or
      (({} : Options).get? "exclude_patterns") = some m.excludePatterns := by
  unfold excludeEntries
  split
  · rename_i hempty
    rw [Merged.excludePatterns, List.isEmpty_iff.mp hempty, List.filter_nil, List.append_nil]
    rfl
  · rw [List.reverse_singleton, List.lookup_cons_self]
    rfl

/-- A list of patterns is the tuple of what it was set to, or its default. -/
def IsTupleOf (setting default got : Option Value) : Prop :=
  match setting with
  | some v => ∃ patterns, patternList v = .ok patterns ∧ got = some (.ofTexts patterns)
  | none => got = default

theorem isTupleOf_patterns {key : String} {found : Layer} (h : m.patterns key = .ok found)
    (default : Option Value) :
    IsTupleOf (m.get? key) default ((found.reverse.lookup key).or ((m.get? key).or default)) := by
  obtain ⟨hnone, rfl⟩ | ⟨v, patterns, hv, hpatterns, rfl⟩ := patterns_eq_ok h
  · rw [hnone]
    rfl
  · rw [hv]
    refine ⟨patterns, hpatterns, ?_⟩
    rw [List.reverse_singleton, List.lookup_cons_self]
    rfl

/-- Options that are lists of patterns, apart from the excluded ones, which are added up. -/
def listed : List String :=
  ["include_patterns", "prioritize_files"]

/-- What every option is when several sources are put one over the other. -/
structure Layered (sources : List (String → Option Value)) (o : Options) : Prop where
  plain : ∀ name ∈ names, name ≠ "exclude_patterns" → name ∉ listed →
    o.get? name = (lastSetting sources name).or (({} : Options).get? name)
  lists : ∀ name ∈ listed,
    IsTupleOf (lastSetting sources name) (({} : Options).get? name) (o.get? name)
  excludes : ∃ found,
    List.Forall₂ (fun source patterns => readPatterns (source "exclude_patterns") = .ok patterns)
      sources found ∧
    o.excludePatterns =
      .ofTexts (defaultExcludes ++ found.flatten.filter fun p => !defaultExcludes.contains p)

/-- The options that are made of what was merged, before they are checked. -/
theorem MergedFrom.layered {sources : List (String → Option Value)} {included prioritized : Layer}
    (hm : MergedFrom sources m) (hincluded : m.patterns "include_patterns" = .ok included)
    (hprioritized : m.patterns "prioritize_files" = .ok prioritized) :
    Layered sources
      (({} : Options).setAll (m.values ++ (included ++ prioritized) ++ excludeEntries m)) := by
  -- The last entry of a name stays, so the parts of the table are searched from the last one on.
  have hget : ∀ name ∈ names,
      (({} : Options).setAll (m.values ++ (included ++ prioritized) ++ excludeEntries m)).get?
          name =
        ((excludeEntries m).reverse.lookup name).or
          (((prioritized.reverse.lookup name).or ((included.reverse.lookup name).or
            (m.get? name))).or (({} : Options).get? name)) := by
    intro name hname
    rw [get?_setAll _ _ hname, Merged.get?]
    simp only [List.reverse_append, List.lookup_append, Option.or_assoc]
  constructor
  · intro name hname hexclude hlisted
    simp only [listed, List.mem_cons, List.not_mem_nil, or_false, not_or] at hlisted
    obtain ⟨hinclude, hprioritize⟩ := hlisted
    rw [hget name hname, lookup_excludeEntries m hexclude, lookup_patterns hprioritized hprioritize,
      lookup_patterns hincluded hinclude, hm.values name hname hexclude]
    rfl
  · intro name hname
    simp only [listed, List.mem_cons, List.not_mem_nil, or_false] at hname
    obtain rfl | rfl := hname
    · rw [hget _ (by decide), lookup_excludeEntries m (by decide),
        lookup_patterns hprioritized (by decide), ← hm.values _ (by decide) (by decide)]
      simpa only [Option.none_or, Option.or_assoc] using isTupleOf_patterns hincluded _
    · rw [hget _ (by decide), lookup_excludeEntries m (by decide),
        lookup_patterns hincluded (by decide), ← hm.values _ (by decide) (by decide)]
      simpa only [Option.none_or, Option.or_assoc] using isTupleOf_patterns hprioritized _
  · obtain ⟨found, hfound, hexcludes⟩ := hm.excludes
    refine ⟨found, hfound, ?_⟩
    have hown := hget "exclude_patterns" (by decide)
    rw [lookup_patterns hprioritized (by decide), lookup_patterns hincluded (by decide),
      hm.noExcludes, Option.none_or, Option.none_or, Option.none_or, lookup_own_excludeEntries,
      Merged.excludePatterns, hexcludes] at hown
    exact Option.some.inj hown

theorem Layered.lists_ofTexts {sources : List (String → Option Value)} (h : Layered sources o)
    {name : String} (hname : name ∈ listed) :
    ∃ texts, o.get? name = some (.ofTexts texts) := by
  have hlist := h.lists name hname
  unfold IsTupleOf at hlist
  split at hlist
  · obtain ⟨texts, -, hget⟩ := hlist
    exact ⟨texts, hget⟩
  · simp only [listed, List.mem_cons, List.not_mem_nil, or_false] at hname
    obtain rfl | rfl := hname
    · exact ⟨["**/*"], hlist⟩
    · exact ⟨defaultPrioritized, hlist⟩

end SourceDigest.Options
