import SourceDigest.Proofs.Options.Accepted
import SourceDigest.Proofs.Options.Loading
import SourceDigest.Proofs.Text.Cutting
import SourceDigest.Proofs.Toml.Written

/-! Routes on which a list of patterns reaches the options. A list that is given in a file, in a
variable or by the caller, as an array or as one text with commas, sets its option to the same
tuple, so that all routes end in the same options. -/

namespace SourceDigest.Options

open List

variable {key : String} {patterns : List String} {w : World} {file : Option String}
  {overrides : Layer} {m : Merged} {v : Value}

/-! ## Texts with commas -/

/-- A pattern that is a piece between commas: not empty, without a comma, and without white space
around it. -/
structure IsPiece (pattern : String) : Prop where
  ne_nil : pattern.toList ≠ []
  no_comma : ',' ∉ pattern.toList
  head_blank : ∀ c ∈ pattern.toList.head?, Text.isBlank c = false
  last_blank : ∀ c ∈ pattern.toList.getLast?, Text.isBlank c = false

def joined (patterns : List String) : String :=
  ",".intercalate patterns

theorem toList_joined (patterns : List String) :
    (joined patterns).toList = Text.join [','] (patterns.map String.toList) :=
  String.toList_intercalate

/-- What is joined is split into what it was joined of. -/
theorem splitPatterns_joined (hne : patterns ≠ []) (hpieces : ∀ p ∈ patterns, IsPiece p) :
    splitPatterns (joined patterns) = patterns := by
  have hsplit : Text.split ',' (joined patterns).toList = patterns.map String.toList := by
    rw [toList_joined]
    apply splitOn_intercalate
    · intro piece hpiece
      obtain ⟨p, hp, rfl⟩ := mem_map.mp hpiece
      exact (hpieces p hp).no_comma
    · exact mt map_eq_nil_iff.mp hne
  have hstrip : (patterns.map String.toList).map Text.strip = patterns.map String.toList := by
    rw [map_map]
    apply map_congr_left
    intro p hp
    exact Text.strip_eq_self (hpieces p hp).head_blank (hpieces p hp).last_blank
  have hpiece : ∀ p ∈ patterns, ((fun piece : List Char =>
      if piece.isEmpty then none else some (String.ofList piece)) ∘ String.toList) p = some p := by
    intro p hp
    have hsome : ¬p.toList.isEmpty = true := mt isEmpty_iff.mp (hpieces p hp).ne_nil
    rw [Function.comp_apply, if_neg hsome, String.ofList_toList]
  rw [splitPatterns, hsplit, hstrip, filterMap_map, filterMap_congr hpiece]
  exact filterMap_some

theorem joined_ne_empty (hne : patterns ≠ []) (hpieces : ∀ p ∈ patterns, IsPiece p) :
    joined patterns ≠ "" := by
  intro hempty
  have hsplit := splitPatterns_joined hne hpieces
  rw [hempty] at hsplit
  exact hne (hsplit.symm.trans (by decide))

/-! ## A single setting -/

def patternKeys : List String :=
  ["exclude_patterns", "include_patterns", "prioritize_files"]

theorem patternKeys_subset : patternKeys ⊆ names := by
  decide

/-- A value that stands for patterns, of which there is one at least. -/
structure StandsForPatterns (v : Value) (patterns : List String) : Prop where
  isSet : v.isSet = true
  patternList : patternList v = .ok patterns

theorem standsForPatterns_array (hne : patterns ≠ []) :
    StandsForPatterns (.list (patterns.map .text)) patterns where
  isSet := by simpa [Value.isSet] using hne
  patternList := by
    rw [patternList_texts]
    exact congrArg _ (map_id' patterns)

theorem standsForPatterns_joined (hne : patterns ≠ []) (hpieces : ∀ p ∈ patterns, IsPiece p) :
    StandsForPatterns (.text (joined patterns)) patterns where
  isSet := by simpa [Value.isSet] using joined_ne_empty hne hpieces
  patternList := congrArg _ (splitPatterns_joined hne hpieces)

/-- Default options but for one list of patterns; excluded ones come after the default ones. -/
def optionsOf (key : String) (patterns : List String) : Options :=
  if key = "exclude_patterns" then
    ({} : Options).set key
      (.ofTexts (defaultExcludes ++ patterns.filter fun p => !defaultExcludes.contains p))
  else ({} : Options).set key (.ofTexts patterns)

/-- What a single setting comes to. -/
def mergedOf (key : String) (v : Value) (patterns : List String) : Merged :=
  if key = "exclude_patterns" then ⟨[], patterns⟩ else ⟨[(key, v)], []⟩

theorem add_single (key : String) (hv : StandsForPatterns v patterns) :
    Merged.empty.add [(key, v)] = .ok (mergedOf key v patterns) := by
  rw [add_eq, Keyed.lookup_cons_eq, mergedOf]
  by_cases hkey : key = "exclude_patterns"
  · simp [hkey, readPatterns, hv.isSet, hv.patternList, replacing, Except.map, Merged.empty]
  · simp [hkey, Ne.symm hkey, readPatterns, replacing, Except.map, Merged.empty]

theorem accepted_default : Accepted {} := by
  obtain ⟨_, hcheck⟩ := exists_of_isOk (x := ({} : Options).check) (by decide +kernel)
  exact check_eq_ok_iff.mp hcheck

/-- To set a list of patterns breaks no rule, unless it is set to nothing. -/
theorem Accepted.set_patterns {o : Options} (h : Accepted o) (hkey : key ∈ patternKeys)
    (hv : v.isSet = true) : Accepted (o.set key v) := by
  simp only [patternKeys, mem_cons, not_mem_nil, or_false] at hkey
  obtain rfl | rfl | rfl := hkey
  · exact ⟨h.size, h.weight, h.damping, h.rounds, h.format, h.policy, h.verbosity, h.tokens,
      h.included⟩
  · exact ⟨h.size, h.weight, h.damping, h.rounds, h.format, h.policy, h.verbosity, h.tokens, hv⟩
  · exact ⟨h.size, h.weight, h.damping, h.rounds, h.format, h.policy, h.verbosity, h.tokens,
      h.included⟩

theorem check_optionsOf (hkey : key ∈ patternKeys) (hne : patterns ≠ []) :
    (optionsOf key patterns).check = .ok () := by
  have hset (texts : List String) (htexts : texts ≠ []) : (Value.ofTexts texts).isSet = true := by
    simpa [Value.ofTexts, Value.isSet] using htexts
  rw [check_eq_ok_iff, optionsOf]
  split
  · exact accepted_default.set_patterns hkey (hset _ (by simp [defaultExcludes]))
  · exact accepted_default.set_patterns hkey (hset _ hne)

theorem toOptions_excludes (hne : patterns ≠ []) :
    (⟨[], patterns⟩ : Merged).toOptions = .ok (optionsOf "exclude_patterns" patterns) := by
  have hknown : (⟨[], patterns⟩ : Merged).unknownNames.isEmpty = true := by
    simp [Merged.unknownNames]
  have hentries : excludeEntries ⟨[], patterns⟩ = [("exclude_patterns",
      .ofTexts (defaultExcludes ++ patterns.filter fun p => !defaultExcludes.contains p))] := by
    rw [excludeEntries, if_neg (by simpa using hne)]
    rfl
  have hlist (name : String) : (⟨[], patterns⟩ : Merged).patterns name = .ok [] := rfl
  rw [toOptions_eq (hlist "include_patterns") (hlist "prioritize_files"), if_pos hknown, hentries,
    mapError_eq_ok_iff, ofTable_eq_ok_iff]
  exact ⟨rfl, check_optionsOf (by decide) hne⟩

theorem patterns_single (key : String) (hv : StandsForPatterns v patterns) :
    (⟨[(key, v)], []⟩ : Merged).patterns key = .ok [(key, .ofTexts patterns)] := by
  have hget : (⟨[(key, v)], []⟩ : Merged).get? key = some v := lookup_cons_self
  rw [Merged.patterns, hget]
  simp only [hv.patternList]
  rfl

theorem patterns_other {other : String} (h : other ≠ key) :
    (⟨[(key, v)], []⟩ : Merged).patterns other = .ok [] := by
  have hget : (⟨[(key, v)], []⟩ : Merged).get? other = none := by
    simp [Merged.get?, Keyed.lookup_cons_eq, h]
  rw [Merged.patterns, hget]

theorem toOptions_listed (hkey : key ∈ listed) (hne : patterns ≠ [])
    (hv : StandsForPatterns v patterns) :
    (⟨[(key, v)], []⟩ : Merged).toOptions = .ok (optionsOf key patterns) := by
  have hknown : (⟨[(key, v)], []⟩ : Merged).unknownNames.isEmpty = true := by
    have hname : key ∈ names := patternKeys_subset (mem_cons_of_mem _ hkey)
    simp [Merged.unknownNames, hname]
  have hcheck := check_optionsOf (mem_cons_of_mem _ hkey) hne
  have hpatterns := patterns_single key hv
  simp only [listed, mem_cons, not_mem_nil, or_false] at hkey
  obtain rfl | rfl := hkey
  · rw [toOptions_eq hpatterns (patterns_other (by decide)), if_pos hknown, mapError_eq_ok_iff,
      ofTable_eq_ok_iff]
    exact ⟨rfl, hcheck⟩
  · rw [toOptions_eq (patterns_other (by decide)) hpatterns, if_pos hknown, mapError_eq_ok_iff,
      ofTable_eq_ok_iff]
    exact ⟨rfl, hcheck⟩

theorem toOptions_mergedOf (hkey : key ∈ patternKeys) (hne : patterns ≠ [])
    (hv : StandsForPatterns v patterns) :
    (mergedOf key v patterns).toOptions = .ok (optionsOf key patterns) := by
  rw [mergedOf]
  split
  · rename_i hexcludes
    rw [hexcludes]
    exact toOptions_excludes hne
  · rename_i hother
    exact toOptions_listed ((mem_cons.mp hkey).resolve_left hother) hne hv

/-! ## Routes -/

/-- Ways to give a list of patterns: an array or one text in a file, one text in a variable or one
from the caller. -/
inductive Route where
  | array (source : Source)
  | text (source : Source)
  | environment
  | caller
  deriving DecidableEq

def Route.source? : Route → Option Source
  | .array source => some source
  | .text source => some source
  | .environment => none
  | .caller => none

/-- The value that reaches the layers. The text of a variable has been split by then. -/
def Route.value (patterns : List String) : Route → Value
  | .array _ => .list (patterns.map .text)
  | .text _ => .text (joined patterns)
  | .environment => .list (patterns.map .text)
  | .caller => .text (joined patterns)

/-- The table that a file holds on a route. -/
def Route.tableOf (route : Route) (key : String) (patterns : List String) (source : Source) :
    Layer :=
  if route.source? = some source then [(key, route.value patterns)] else []

/-- A run in which one layer sets one list of patterns, and the others set nothing. -/
structure GivesPatterns (route : Route) (key : String) (patterns : List String) (w : World)
    (file : Option String) (overrides : Layer) : Prop where
  home : HoldsTable (w.readHome homeFile) (route.tableOf key patterns .home)
  project : HoldsTable (w.read projectFile) (route.tableOf key patterns .project)
  named : HoldsNamed w file (route.tableOf key patterns .named)
  environment : ∀ name ∈ names, w.environment.lookup (variableOf name) =
    if route = .environment ∧ name = key then some (joined patterns) else none
  caller : callerLayer overrides =
    if route = .caller then [(key, .text (joined patterns))] else []

theorem Route.standsForPatterns_value (route : Route) (hne : patterns ≠ [])
    (hpieces : ∀ p ∈ patterns, IsPiece p) : StandsForPatterns (route.value patterns) patterns := by
  cases route with
  | array | environment => exact standsForPatterns_array hne
  | text | caller => exact standsForPatterns_joined hne hpieces

theorem readText_patterns (hkey : key ∈ patternKeys) (text : String) :
    readText key text = .ok (.list ((splitPatterns text).map .text)) := by
  have hreading : readingOf key = .patterns := if_pos hkey
  rw [readText, hreading]

theorem filterMap_names_single (hkey : key ∈ patternKeys) (v : Value) :
    names.filterMap (fun name => if name = key then some (name, v) else none) = [(key, v)] := by
  simp only [patternKeys, mem_cons, not_mem_nil, or_false] at hkey
  obtain rfl | rfl | rfl := hkey
  all_goals rfl

theorem GivesPatterns.ofEnvironment_eq {route : Route}
    (h : GivesPatterns route key patterns w file overrides)
    (hkey : key ∈ patternKeys) (hne : patterns ≠ []) (hpieces : ∀ p ∈ patterns, IsPiece p) :
    ofEnvironment w.environment =
      .ok (if route = .environment then [(key, route.value patterns)] else []) := by
  have hread : ∀ name ∈ names, ∀ text, w.environment.lookup (variableOf name) = some text →
      ∃ v, readText name text = .ok v := by
    intro name hname text htext
    rw [h.environment name hname] at htext
    split at htext
    · rename_i hroute
      exact ⟨_, hroute.2 ▸ readText_patterns hkey text⟩
    · cases htext
  have hsetting : ∀ name ∈ names, ((variableSetting w.environment name).map fun v => (name, v)) =
      if route = .environment then
        if name = key then some (name, route.value patterns) else none
      else none := by
    intro name hname
    rw [variableSetting, h.environment name hname]
    by_cases hroute : route = .environment
    · subst hroute
      by_cases hname : name = key
      · subst hname
        simp [readText_patterns hkey, splitPatterns_joined hne hpieces, Except.toOption,
          Route.value]
      · simp [hname]
    · simp [hroute]
  rw [ofEnvironment_of_reads hread, variableLayer, filterMap_congr hsetting]
  split
  · rw [filterMap_names_single hkey]
  · rw [filterMap_eq_nil_iff.mpr fun _ _ => rfl]

/-- On every route the options are the default ones but for the patterns. -/
theorem GivesPatterns.load_eq_ok {route : Route}
    (h : GivesPatterns route key patterns w file overrides)
    (hkey : key ∈ patternKeys) (hne : patterns ≠ []) (hpieces : ∀ p ∈ patterns, IsPiece p) :
    load w file overrides = .ok (optionsOf key patterns) := by
  have hlists := route.standsForPatterns_value hne hpieces
  have hsingle := add_single key hlists
  have hadd : [route.tableOf key patterns .home, route.tableOf key patterns .project,
      route.tableOf key patterns .named,
      if route = .environment then [(key, route.value patterns)] else [],
      callerLayer overrides].foldlM Merged.add .empty =
        .ok (mergedOf key (route.value patterns) patterns) := by
    rw [h.caller]
    cases route with
    | array source | text source =>
      cases source <;> simp [Route.tableOf, Route.source?, add_nil, hsingle, ok_bind]
    | environment => simp [Route.tableOf, Route.source?, add_nil, hsingle, ok_bind]
    | caller =>
      simp only [Route.tableOf, Route.source?, foldlM_cons, foldlM_nil, add_nil, ok_bind,
        reduceCtorEq, if_false, if_true]
      exact congrArg (· >>= pure) hsingle
  rw [load_of_holdsTable h.home h.project h.named (h.ofEnvironment_eq hkey hne hpieces) hadd,
    toOptions_mergedOf hkey hne hlists]

/-! ## Every route is open -/

/-- Where each file of options lies in a world whose directories are the root. -/
def fileOf : Source → String
  | .home => homeFile
  | .project => projectFile
  | .named => "options.toml"

/-- What is written into the file of a route. -/
def Route.spelling (patterns : List String) : Route → List Char
  | .array _ => Toml.listText (patterns.map String.toList)
  | _ => Toml.quotedText (joined patterns).toList

def Route.files (route : Route) (key : String) (patterns : List String) :
    List (String × String) :=
  match route.source? with
  | some source =>
    [(fileOf source, String.ofList (Toml.keyLine key.toList (route.spelling patterns)))]
  | none => []

def Route.variablesOf (route : Route) (key : String) (patterns : List String) :
    List (String × String) :=
  if route = .environment then [(variableOf key, joined patterns)] else []

theorem isFileName_fileOf (source : Source) : IsFileName (fileOf source) := by
  cases source with
  | home => exact isFileName_homeFile
  | project => exact isFileName_projectFile
  | named => exact ⟨by decide, by decide +kernel, by decide +kernel, by decide +kernel⟩

theorem fileOf_inj {source other : Source} : fileOf source = fileOf other ↔ source = other := by
  cases source <;> cases other <;> decide

theorem isBareKey_of_mem (hkey : key ∈ patternKeys) : Toml.IsBareKey key.toList := by
  simp only [patternKeys, mem_cons, not_mem_nil, or_false] at hkey
  obtain rfl | rfl | rfl := hkey
  all_goals exact ⟨by decide, all_eq_true.mp (by decide)⟩

theorem Route.spells {route : Route} {source : Source} (hsource : route.source? = some source)
    (hne : patterns ≠ []) (hpieces : ∀ p ∈ patterns, IsPiece p) :
    Toml.SpellsValue (route.spelling patterns) (route.value patterns) := by
  cases route with
  | array =>
    have hvalues : Toml.textValues (patterns.map String.toList) = patterns.map .text := by
      simp [Toml.textValues]
    have htexts : ∀ text ∈ patterns.map String.toList, text ≠ [] := by
      intro text htext
      obtain ⟨p, hp, rfl⟩ := mem_map.mp htext
      exact (hpieces p hp).ne_nil
    have hspells := Toml.spells_listText (mt map_eq_nil_iff.mp hne) htexts
    rwa [hvalues] at hspells
  | text =>
    have hspells := Toml.spells_quotedText
      (mt String.toList_eq_nil_iff.mp (joined_ne_empty hne hpieces))
    rwa [String.ofList_toList] at hspells
  | environment => cases hsource
  | caller => cases hsource

theorem ownTable_single (hkey : key ∈ patternKeys) (v : Value) :
    ownTable [(key, v)] = [(key, v)] := by
  simp only [patternKeys, mem_cons, not_mem_nil, or_false] at hkey
  obtain rfl | rfl | rfl := hkey
  all_goals rfl

theorem Route.holdsTable (route : Route) (hkey : key ∈ patternKeys) (hne : patterns ≠ [])
    (hpieces : ∀ p ∈ patterns, IsPiece p) (source : Source) :
    HoldsTable (heldAt (route.files key patterns) (fileOf source))
      (route.tableOf key patterns source) := by
  rw [Route.tableOf, Route.files]
  cases hroute : route.source? with
  | none => exact ⟨by decide, if_neg (by simp)⟩
  | some written =>
    by_cases hsource : source = written
    · have hread := Toml.ofBytes?_keyLine (isBareKey_of_mem hkey)
        (Route.spells hroute hne hpieces)
      rw [String.ofList_toList] at hread
      rw [heldAt, Keyed.lookup_cons_eq, if_pos (fileOf_inj.mpr hsource), if_pos (by rw [hsource])]
      exact ⟨_, hread, ownTable_single hkey _⟩
    · rw [heldAt, Keyed.lookup_cons_eq, if_neg (mt fileOf_inj.mp hsource)]
      exact ⟨by decide, if_neg fun h => hsource (Option.some.inj h).symm⟩

theorem nodup_variables : (names.map variableOf).Nodup := by
  decide +kernel

theorem Route.lookup_variablesOf (route : Route) (hkey : key ∈ patternKeys) {name : String}
    (hname : name ∈ names) :
    (route.variablesOf key patterns).lookup (variableOf name) =
      if route = .environment ∧ name = key then some (joined patterns) else none := by
  rw [Route.variablesOf]
  by_cases hroute : route = .environment
  · by_cases hsame : name = key
    · simp [hroute, hsame]
    · have hother : variableOf name ≠ variableOf key :=
        mt (inj_on_of_nodup_map nodup_variables hname (patternKeys_subset hkey)) hsame
      simp [hroute, hsame, Keyed.lookup_cons_eq, hother]
  · simp [hroute]

theorem callerLayer_single (hkey : key ∈ patternKeys) (text : String) :
    callerLayer [(key, .text text)] = [(key, .text text)] := by
  simp only [patternKeys, mem_cons, not_mem_nil, or_false] at hkey
  obtain rfl | rfl | rfl := hkey
  all_goals rfl

theorem tidied_fileOf (source : Source) : tidied (fileOf source) = fileOf source := by
  cases source <;> decide +kernel

/-- A world in which a route is taken. -/
theorem Route.exists_gives (route : Route) (hkey : key ∈ patternKeys) (hne : patterns ≠ [])
    (hpieces : ∀ p ∈ patterns, IsPiece p) :
    ∃ w file overrides, GivesPatterns route key patterns w file overrides := by
  refine ⟨holding (route.files key patterns) (route.variablesOf key patterns),
    if route.source? = some .named then some (fileOf .named) else none,
    if route = .caller then [(key, .text (joined patterns))] else [], ?_, ?_, ?_, ?_, ?_⟩
  · exact readHome_holding (isFileName_fileOf .home) ▸ route.holdsTable hkey hne hpieces .home
  · exact read_holding (isFileName_fileOf .project) ▸ route.holdsTable hkey hne hpieces .project
  · split
    · rename_i hroute
      have hfile := isFileName_fileOf .named
      have hthere : ∃ bytes, heldAt (route.files key patterns) (fileOf .named) = .ok bytes := by
        rw [heldAt, Route.files, hroute]
        exact ⟨_, rfl⟩
      obtain ⟨bytes, hbytes⟩ := hthere
      rw [HoldsNamed, tidied_fileOf, World.isThere, find_holding hfile, read_holding hfile]
      exact ⟨by rw [hbytes]; rfl, route.holdsTable hkey hne hpieces .named⟩
    · rename_i hroute
      exact if_neg hroute
  · exact fun name hname => route.lookup_variablesOf hkey hname
  · split
    · exact callerLayer_single hkey _
    · rfl

/-- All routes are open to a list of patterns, and end in the same options. -/
structure Interchangeable (key : String) (patterns : List String) : Prop where
  opened : ∀ route : Route, ∃ w file overrides, GivesPatterns route key patterns w file overrides
  equal : ∀ (route : Route) (w : World) (file : Option String) (overrides : Layer),
    GivesPatterns route key patterns w file overrides →
      load w file overrides = .ok (optionsOf key patterns)

/-- It makes no difference how a list of patterns is given. -/
theorem routes_interchangeable (hkey : key ∈ patternKeys) (hne : patterns ≠ [])
    (hpieces : ∀ p ∈ patterns, IsPiece p) : Interchangeable key patterns where
  opened route := route.exists_gives hkey hne hpieces
  equal _ _ _ _ h := h.load_eq_ok hkey hne hpieces

/-- Patterns with blanks, quotes and stars inside. -/
theorem routes_interchangeable_quoted :
    "exclude_patterns" ∈ patternKeys ∧ ["my docs/**", "\"*\".md"] ≠ [] ∧
      (∀ p ∈ ["my docs/**", "\"*\".md"], IsPiece p) ∧
      Interchangeable "exclude_patterns" ["my docs/**", "\"*\".md"] := by
  have hpieces : ∀ p ∈ ["my docs/**", "\"*\".md"], IsPiece p := by
    intro p hp
    simp only [mem_cons, not_mem_nil, or_false] at hp
    obtain rfl | rfl := hp
    all_goals exact ⟨by decide, by decide, by simp [Text.isBlank], by simp [Text.isBlank]⟩
  exact ⟨by decide, by decide, hpieces, routes_interchangeable (by decide) (by decide) hpieces⟩

end SourceDigest.Options
