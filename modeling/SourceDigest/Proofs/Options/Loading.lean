import SourceDigest.Proofs.Options.Layering

/-! Loading options. Either something ends it before all layers are there, or the layers of the
sources are added one after the other and the options are made from what they come to. -/

namespace SourceDigest.Options

variable {w : World} {file : Option String} {overrides : Layer} {m : Merged} {o : Options}

/-! ## Single layers -/

theorem addFile_cases (m : Merged) (source : Source) (path : String)
    (bytes : Except PathFault ByteArray) :
    addFile m source path bytes = .error (.badFile source path) ∨
      ∃ next, addFile m source path bytes = .ok next ∧ m.add (fileTable bytes) = .ok next := by
  cases bytes with
  | error fault =>
    cases fault with
    | isDirectory => exact .inl rfl
    | missing | notDirectory | nameTooLong | tooManyLinks => exact .inr ⟨m, rfl, add_nil m⟩
  | ok bytes =>
    cases htable : Toml.ofBytes? bytes with
    | none => exact .inl (by simp only [addFile, htable])
    | some entries =>
      simp only [addFile, fileTable, htable, Option.map_some, Option.getD_some]
      cases hadd : m.add (ownTable entries) with
      | error fault => exact .inl rfl
      | ok next => exact .inr ⟨next, rfl, rfl⟩

/-- The path of a file as it is looked for. -/
def tidied (path : String) : String :=
  String.ofList (Path.tidy path.toList)

def addNamed (w : World) (file : Option String) (m : Merged) : Except LoadFault Merged :=
  match file with
  | none => .ok m
  | some path =>
    match w.find (tidied path) with
    | .error .nameTooLong => .error (.unreachable (tidied path) .nameTooLong)
    | .error _ => .error (.noFile (tidied path))
    | .ok _ => addFile m .named (tidied path) (w.read (tidied path))

/-- What ends loading before all layers are there. -/
inductive Interrupts (w : World) (file : Option String) (overrides : Layer) : LoadFault → Prop where
  | badFile (source : Source) (path : String) : Interrupts w file overrides (.badFile source path)
  | noFile (path : String) : Interrupts w file overrides (.noFile path)
  | unreachable {path : String} (hfile : file = some path)
      (hfind : w.find (tidied path) = .error .nameTooLong) :
      Interrupts w file overrides (.unreachable (tidied path) .nameTooLong)
  | badVariable (fault : VariableFault) : Interrupts w file overrides (.badVariable fault)
  | badExcludes {fault : Fault}
      (h : readPatterns ((callerLayer overrides).lookup "exclude_patterns") = .error fault) :
      Interrupts w file overrides (.options fault)

theorem addNamed_cases (w : World) (file : Option String) (overrides : Layer) (m : Merged) :
    (∃ fault, addNamed w file m = .error fault ∧ Interrupts w file overrides fault) ∨
      ∃ next, addNamed w file m = .ok next ∧ m.add (namedTable w file) = .ok next := by
  cases file with
  | none => exact .inr ⟨m, rfl, add_nil m⟩
  | some path =>
    simp only [addNamed]
    cases hfind : w.find (tidied path) with
    | error fault =>
      cases fault with
      | nameTooLong => exact .inl ⟨_, rfl, .unreachable rfl hfind⟩
      | missing | notDirectory | isDirectory | tooManyLinks => exact .inl ⟨_, rfl, .noFile _⟩
    | ok found =>
      obtain hbad | ⟨next, hok, hadd⟩ :=
        addFile_cases m .named (tidied path) (w.read (tidied path))
      · exact .inl ⟨_, hbad, .badFile .named (tidied path)⟩
      · exact .inr ⟨next, hok, hadd⟩

/-! ## The environment can be added -/

theorem areShowable_texts (patterns : List String) :
    Value.areShowable (patterns.map .text) = true := by
  induction patterns with
  | nil => rfl
  | cons p rest ih => simpa [Value.areShowable, Value.isShowable] using ih

theorem patternList_texts (patterns : List String) :
    patternList (.list (patterns.map .text)) =
      .ok (patterns.map fun p => (Value.text p).shown) := by
  rw [patternList, shownItems, if_pos (areShowable_texts patterns), List.map_map]
  rfl

theorem exists_readPatterns_variableSetting (environment : List (String × String)) :
    ∃ patterns, readPatterns (variableSetting environment "exclude_patterns") = .ok patterns := by
  unfold variableSetting
  cases environment.lookup (variableOf "exclude_patterns") with
  | none => exact ⟨[], rfl⟩
  | some text =>
    have htext : readText "exclude_patterns" text =
        .ok (.list ((splitPatterns text).map .text)) := by
      simp [readText, readingOf]
    simp only [Option.bind_some, htext, Except.toOption, readPatterns, patternList_texts]
    split
    · exact ⟨_, rfl⟩
    · exact ⟨[], rfl⟩

theorem exists_add_variableLayer (m : Merged) (environment : List (String × String)) :
    ∃ next, m.add (variableLayer environment names) = .ok next := by
  obtain ⟨patterns, hpatterns⟩ := exists_readPatterns_variableSetting environment
  rw [add_eq, (provides_variableLayer environment).excludes, hpatterns]
  exact ⟨_, rfl⟩

/-! ## The whole run -/

theorem load_eq (w : World) (file : Option String) (overrides : Layer) :
    load w file overrides = (do
      let m ← addFile .empty .home (w.homeText ++ "/" ++ homeFile) (w.readHome homeFile)
      let m ← addFile m .project (w.hereText ++ "/" ++ projectFile) (w.read projectFile)
      let m ← addNamed w file m
      let settings ← (ofEnvironment w.environment).mapError .badVariable
      let m ← (m.add settings).mapError .options
      let m ← (m.add (callerLayer overrides)).mapError .options
      m.toOptions) := by
  refine bind_congr fun m₁ => bind_congr fun m₂ => ?_
  cases file with
  | none => rfl
  | some path =>
    simp only [addNamed, tidied]
    cases w.find (String.ofList (Path.tidy path.toList)) with
    | error fault => cases fault <;> rfl
    | ok found => rfl

/-- A file holds a table of options; one that is not there holds an empty one. -/
def HoldsTable (bytes : Except PathFault ByteArray) (table : Layer) : Prop :=
  match bytes with
  | .ok bytes => ∃ entries, Toml.ofBytes? bytes = some entries ∧ ownTable entries = table
  | .error fault => fault ≠ .isDirectory ∧ table = []

theorem addFile_of_holdsTable {bytes : Except PathFault ByteArray} {table : Layer} {next : Merged}
    (h : HoldsTable bytes table) (hadd : m.add table = .ok next) (source : Source)
    (path : String) : addFile m source path bytes = .ok next := by
  cases bytes with
  | error fault =>
    obtain ⟨hfault, rfl⟩ := h
    cases (add_nil m).symm.trans hadd
    cases fault with
    | isDirectory => exact absurd rfl hfault
    | missing | notDirectory | nameTooLong | tooManyLinks => rfl
  | ok bytes =>
    obtain ⟨entries, hentries, rfl⟩ := h
    simp only [addFile, hentries, hadd]
    rfl

/-- The file that the caller names is there and holds a table, or no file is named. -/
def HoldsNamed (w : World) (file : Option String) (table : Layer) : Prop :=
  match file with
  | none => table = []
  | some path => w.isThere (tidied path) = true ∧ HoldsTable (w.read (tidied path)) table

theorem addNamed_of_holdsNamed {table : Layer} {next : Merged} (h : HoldsNamed w file table)
    (hadd : m.add table = .ok next) : addNamed w file m = .ok next := by
  cases file with
  | none =>
    obtain rfl : table = [] := h
    cases (add_nil m).symm.trans hadd
    rfl
  | some path =>
    obtain ⟨hthere, htable⟩ := h
    simp only [World.isThere] at hthere
    simp only [addNamed]
    cases hfind : w.find (tidied path) with
    | error fault =>
      rw [hfind] at hthere
      cases hthere
    | ok trail => exact addFile_of_holdsTable htable hadd .named (tidied path)

/-- Where all sources hold tables, options are made of what these come to. -/
theorem load_of_holdsTable {home project named settings : Layer}
    (hhome : HoldsTable (w.readHome homeFile) home)
    (hproject : HoldsTable (w.read projectFile) project) (hnamed : HoldsNamed w file named)
    (hvariables : ofEnvironment w.environment = .ok settings)
    (hadd : [home, project, named, settings, callerLayer overrides].foldlM Merged.add .empty =
      .ok m) :
    load w file overrides = m.toOptions := by
  simp only [List.foldlM_cons, List.foldlM_nil, bind_eq_ok_iff] at hadd
  obtain ⟨m₁, hadd₁, m₂, hadd₂, m₃, hadd₃, m₄, hadd₄, m₅, hadd₅, hm⟩ := hadd
  cases hm
  rw [load_eq, addFile_of_holdsTable hhome hadd₁, ok_bind,
    addFile_of_holdsTable hproject hadd₂, ok_bind, addNamed_of_holdsNamed hnamed hadd₃, ok_bind,
    hvariables, Except.mapError, ok_bind, hadd₄, Except.mapError, ok_bind, hadd₅, Except.mapError,
    ok_bind]

/-- Loading is interrupted, or adds all layers and makes options from them. -/
theorem load_cases (w : World) (file : Option String) (overrides : Layer) :
    (∃ fault, load w file overrides = .error fault ∧ Interrupts w file overrides fault) ∨
      ∃ m, (layers w file overrides).foldlM Merged.add .empty = .ok m ∧
        load w file overrides = m.toOptions := by
  rw [load_eq]
  -- Each step ends loading or adds the layer of its source; what variables set can always be added.
  obtain hbad | ⟨m₁, hload₁, hadd₁⟩ := addFile_cases .empty .home
    (w.homeText ++ "/" ++ homeFile) (w.readHome homeFile)
  · rw [hbad]
    exact .inl ⟨_, rfl, .badFile _ _⟩
  obtain hbad | ⟨m₂, hload₂, hadd₂⟩ := addFile_cases m₁ .project
    (w.hereText ++ "/" ++ projectFile) (w.read projectFile)
  · rw [hload₁, ok_bind, hbad]
    exact .inl ⟨_, rfl, .badFile _ _⟩
  obtain ⟨fault, hbad, hfault⟩ | ⟨m₃, hload₃, hadd₃⟩ := addNamed_cases w file overrides m₂
  · rw [hload₁, ok_bind, hload₂, ok_bind, hbad]
    exact .inl ⟨_, rfl, hfault⟩
  rw [hload₁, ok_bind, hload₂, ok_bind, hload₃, ok_bind]
  cases hvariables : ofEnvironment w.environment with
  | error fault => exact .inl ⟨_, rfl, .badVariable fault⟩
  | ok settings =>
    obtain rfl := ofEnvironment_eq_ok hvariables
    obtain ⟨m₄, hadd₄⟩ := exists_add_variableLayer m₃ w.environment
    rw [Except.mapError, ok_bind, hadd₄, Except.mapError, ok_bind]
    cases hadd₅ : m₄.add (callerLayer overrides) with
    | error fault =>
      refine .inl ⟨_, rfl, .badExcludes ?_⟩
      rw [add_eq] at hadd₅
      exact map_eq_error_iff.mp hadd₅
    | ok m₅ =>
      refine .inr ⟨m₅, ?_, rfl⟩
      simp only [layers, List.foldlM_cons, List.foldlM_nil, hadd₁, hadd₂, hadd₃, hadd₄, hadd₅,
        ok_bind]
      rfl

/-- Options that could be loaded are made of what their sources come to, and were checked. -/
theorem exists_merged_of_load (hkeys : (overrides.map (·.1)).Nodup)
    (h : load w file overrides = .ok o) :
    ∃ m included prioritized, MergedFrom (sources w file overrides) m ∧
      m.patterns "include_patterns" = .ok included ∧
      m.patterns "prioritize_files" = .ok prioritized ∧
      ({} : Options).setAll (m.values ++ (included ++ prioritized) ++ excludeEntries m) = o ∧
      o.check = .ok () := by
  obtain ⟨fault, hfault, -⟩ | ⟨m, hm, hload⟩ := load_cases w file overrides
  · rw [hfault] at h
    cases h
  · rw [hload] at h
    obtain ⟨included, prioritized, hincluded, hprioritized⟩ := patterns_of_toOptions h
    obtain ⟨hset, hcheck⟩ := setAll_of_toOptions hincluded hprioritized h
    exact ⟨m, included, prioritized, mergedFrom_empty.foldlM (layers_provide w file hkeys) hm,
      hincluded, hprioritized, hset, hcheck⟩

/-- Options that could be loaded are the layers of the sources one over the other. -/
theorem load_layered (hkeys : (overrides.map (·.1)).Nodup)
    (h : load w file overrides = .ok o) : Layered (sources w file overrides) o := by
  obtain ⟨m, included, prioritized, hm, hincluded, hprioritized, rfl, -⟩ :=
    exists_merged_of_load hkeys h
  exact hm.layered hincluded hprioritized

/-! ## Worlds of some files

Both directories are the root, and what the files hold is left open. -/

/-- A world of files with their texts, and of variables. -/
def holding (files : List (String × String)) (environment : List (String × String)) : World where
  root := .directory (files.map fun file => (file.1, .file file.2.toUTF8))
  here := []
  home := []
  hereText := "/"
  homeText := "/"
  environment

/-- A path of a single name. -/
structure IsFileName (name : String) : Prop where
  plain : name ∉ ["", ".", ".."]
  length : name.utf8ByteSize ≤ World.nameLimit
  names : World.names name = [name]
  not_rooted : World.isRooted name = false

/-- What such a world holds under a name. -/
def heldAt (files : List (String × String)) (name : String) : Except PathFault ByteArray :=
  match files.lookup name with
  | some text => .ok text.toUTF8
  | none => .error .missing

section Holding

variable {files : List (String × String)} {environment : List (String × String)} {name : String}

theorem lookup_entries (files : List (String × String)) (name : String) :
    (files.map fun file => (file.1, Entry.file file.2.toUTF8)).lookup name =
      (files.lookup name).map fun text => .file text.toUTF8 := by
  induction files with
  | nil => rfl
  | cons file files ih =>
    rw [List.map_cons, Keyed.lookup_cons_eq, Keyed.lookup_cons_eq, ih]
    split <;> rfl

theorem follow_holding (h : IsFileName name) (links : Nat) :
    (holding files environment).follow links [] [name] =
      (heldAt files name).map fun bytes => ([(name, .file bytes)], links) := by
  have hplain := h.plain
  simp only [List.mem_cons, List.not_mem_nil, or_false, not_or] at hplain
  obtain ⟨hempty, hdot, hdots⟩ := hplain
  have hroot : (holding files environment).entryAt [] =
      .directory (files.map fun file => (file.1, .file file.2.toUTF8)) := rfl
  rw [World.follow, hroot]
  simp only [hempty, hdot, hdots, or_self, if_false, if_neg (Nat.not_lt.mpr h.length),
    lookup_entries, heldAt]
  cases files.lookup name with
  | none => rfl
  | some text =>
    simp only [Option.map_some]
    rw [World.follow]
    rfl

theorem readHome_holding (h : IsFileName name) :
    (holding files environment).readHome name = heldAt files name := by
  have hhome : (holding files environment).home ++ [name] = [name] := rfl
  rw [World.readHome, hhome, follow_holding h]
  cases heldAt files name <;> rfl

theorem find_holding (h : IsFileName name) :
    (holding files environment).find name =
      (heldAt files name).map fun bytes => [(name, .file bytes)] := by
  have hempty : ¬name.isEmpty = true := by
    intro hempty
    rw [String.isEmpty_iff.mp hempty] at h
    exact h.plain List.mem_cons_self
  have hlimit : ¬World.pathLimit ≤ name.utf8ByteSize :=
    Nat.not_le.mpr (Nat.lt_of_le_of_lt h.length (by decide))
  have hhere : (holding files environment).hereTrail = [] := by
    rw [World.hereTrail, holding, World.follow]
  rw [World.find, if_neg hempty, if_neg hlimit, World.followPath, h.not_rooted, hhere, h.names,
    if_neg Bool.false_ne_true, follow_holding h]
  cases heldAt files name <;> rfl

theorem read_holding (h : IsFileName name) :
    (holding files environment).read name = heldAt files name := by
  rw [World.read, find_holding h]
  cases heldAt files name <;> rfl

end Holding

/-- A world with two files of options and with variables. -/
def configured (home project : String) (environment : List (String × String)) : World where
  root := .directory [(homeFile, .file home.toUTF8), (projectFile, .file project.toUTF8)]
  here := []
  home := []
  hereText := "/"
  homeText := "/"
  environment

variable (home project : String) (environment : List (String × String))

theorem configured_eq :
    configured home project environment =
      holding [(homeFile, home), (projectFile, project)] environment :=
  rfl

theorem isFileName_homeFile : IsFileName homeFile :=
  ⟨by decide, by decide +kernel, by decide +kernel, by decide +kernel⟩

theorem isFileName_projectFile : IsFileName projectFile :=
  ⟨by decide, by decide +kernel, by decide +kernel, by decide +kernel⟩

theorem readHome_configured :
    (configured home project environment).readHome homeFile = .ok home.toUTF8 := by
  rw [configured_eq, readHome_holding isFileName_homeFile]
  rfl

theorem read_configured :
    (configured home project environment).read projectFile = .ok project.toUTF8 := by
  rw [configured_eq, read_holding isFileName_projectFile]
  rfl

/-- What such a world is loaded from, where no file is named. -/
theorem load_configured (overrides : Layer) :
    load (configured home project environment) none overrides = (do
      let m ← addFile .empty .home ("/" ++ "/" ++ homeFile) (.ok home.toUTF8)
      let m ← addFile m .project ("/" ++ "/" ++ projectFile) (.ok project.toUTF8)
      let settings ← (ofEnvironment environment).mapError .badVariable
      let m ← (m.add settings).mapError .options
      let m ← (m.add (callerLayer overrides)).mapError .options
      m.toOptions) := by
  rw [load_eq, readHome_configured, read_configured]
  rfl

theorem exists_of_isOk {ε β : Type} {x : Except ε β} (h : x.isOk = true) : ∃ b, x = .ok b := by
  cases x with
  | error e => cases h
  | ok b => exact ⟨b, rfl⟩

/-- Four sources that all set something. -/
def layeredWorld : World :=
  configured "max_tokens = 10\nexclude_patterns = [\"a\"]\n"
    "[contextrank]\nmax_tokens = 20\ninclude_patterns = \"*.py, *.js\"\n"
    [("CONTEXTRANK_VERBOSITY", "quiet"), ("CONTEXTRANK_EXCLUDE_PATTERNS", "b, *.log")]

theorem exists_load_layeredWorld :
    ∃ o, load layeredWorld none [("verbose", .bool true)] = .ok o := by
  apply exists_of_isOk
  rw [layeredWorld, load_configured]
  decide +kernel

theorem load_layered_configured :
    ∃ o, load layeredWorld none [("verbose", .bool true)] = .ok o ∧
      Layered (sources layeredWorld none [("verbose", .bool true)]) o := by
  obtain ⟨o, ho⟩ := exists_load_layeredWorld
  exact ⟨o, ho, load_layered (by decide) ho⟩

end SourceDigest.Options
