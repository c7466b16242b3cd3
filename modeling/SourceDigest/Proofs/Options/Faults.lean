import SourceDigest.Proofs.CommandLine.Overrides
import SourceDigest.Proofs.Options.Accepted
import SourceDigest.Proofs.Options.Loading

/-! What is said when options cannot be loaded. A fault has a notice unless a value stands where
its option cannot take it: something that is no number where numbers are compared, something that
is no list where patterns are listed, or a whole number with too many digits to be shown. -/

namespace SourceDigest.Options

variable {w : World} {file : Option String} {overrides : Layer} {m : Merged} {o : Options}
  {sources : List (String → Option Value)} {key name reason : String} {v : Value}
  {arguments : List String} {r : CommandLine.RankRequest}

/-! ## Faults that a reader is told about -/

theorem general_mem_chain (category : Notice.Category) : .general ∈ category.chain := by
  cases category <;> decide

/-- A fault of options that has a notice. -/
def Tellable (fault : Fault) : Prop :=
  ∃ n, fault.notice? = some n ∧ .general ∈ n.category.chain

/-- A check whose faults all have notices. -/
def Tells (x : Except Fault Unit) : Prop :=
  ∀ fault, x = .error fault → Tellable fault

theorem tells_ok : Tells (.ok ()) := by
  intro fault h
  cases h

theorem tells_refused (h : v.isShowable = true) :
    Tells (.error (.refused key v reason)) := by
  intro fault hfault
  cases hfault
  refine ⟨.ofSetting key v.shown reason, ?_, general_mem_chain _⟩
  rw [Fault.notice?, if_pos h]

theorem Tells.bind {x y : Except Fault Unit} (hx : Tells x) (hy : Tells y) :
    Tells (x >>= fun _ => y) := by
  cases x with
  | error fault => exact fun _ h => hx _ h
  | ok _ => exact hy

/-! ## Single rules -/

/-- A number that can be shown. -/
def IsNumber (v : Value) : Prop :=
  (Amount.ofValue? v).isSome = true ∧ v.isShowable = true

instance : Decidable (IsNumber v) :=
  inferInstanceAs (Decidable (_ ∧ _))

theorem tells_requireNumber (h : IsNumber v) (mismatch : Fault) (keeps : Amount → Bool) :
    Tells (requireNumber key v mismatch keeps reason) := by
  obtain ⟨hnumber, hshow⟩ := h
  obtain ⟨a, ha⟩ := Option.isSome_iff_exists.mp hnumber
  simp only [requireNumber, ha]
  split
  · exact tells_ok
  · exact tells_refused hshow

theorem tells_requireTokens (h : v = .null ∨ IsNumber v) : Tells (requireTokens v) := by
  unfold requireTokens
  split
  · exact tells_ok
  · rename_i hnull
    exact tells_requireNumber (h.resolve_left hnull) _ _

theorem tells_requireOneOf {choices : List String} (h : v.isShowable = true) :
    Tells (requireOneOf key v choices reason) := by
  unfold requireOneOf
  split
  · split
    · exact tells_ok
    · exact tells_refused h
  · exact tells_refused h

theorem tells_requireIncluded (h : v.isShowable = true) : Tells (requireIncluded v) := by
  unfold requireIncluded
  split
  · exact tells_ok
  · exact tells_refused h

/-! ## All rules -/

/-- Options that are compared with numbers. -/
def numeric : List String :=
  ["max_file_size", "ast_weight", "centrality_damping", "centrality_iterations", "max_tokens"]

def chosen : List String :=
  ["output_format", "scoring_policy", "verbosity"]

/-- A value that an option can take: its rules can be applied to it, and it can be shown. -/
structure CanTake (name : String) (v : Value) : Prop where
  number : name ∈ numeric → IsNumber v
  choice : name ∈ chosen → v.isShowable = true
  patterns : name ∈ listed → (patternList v).isOk = true

instance : Decidable (CanTake name v) :=
  decidable_of_iff
    ((name ∈ numeric → IsNumber v) ∧ (name ∈ chosen → v.isShowable = true) ∧
      (name ∈ listed → (patternList v).isOk = true))
    ⟨fun h => ⟨h.1, h.2.1, h.2.2⟩, fun h => ⟨h.number, h.choice, h.patterns⟩⟩

/-- Every option that a source sets is set to what it can take in the end. -/
def AllTaken (sources : List (String → Option Value)) : Prop :=
  ∀ name ∈ names, ∀ v ∈ lastSetting sources name, CanTake name v

instance : Decidable (AllTaken sources) :=
  inferInstanceAs (Decidable (∀ name ∈ names, ∀ v ∈ lastSetting sources name, CanTake name v))

theorem Layered.plain_of (h : Layered sources o) (hname : name ∈ names)
    (hexclude : name ≠ "exclude_patterns") (hlisted : name ∉ listed) {p : Value → Prop}
    (hset : ∀ v, lastSetting sources name = some v → p v)
    (hdefault : ∀ v, ({} : Options).get? name = some v → p v) (hv : o.get? name = some v) :
    p v := by
  rw [h.plain name hname hexclude hlisted] at hv
  cases hlast : lastSetting sources name with
  | none =>
    rw [hlast] at hv
    exact hdefault v hv
  | some found =>
    rw [hlast] at hv
    cases hv
    exact hset v hlast

/-- The defaults are numbers, and the number of tokens is left open. -/
theorem isNumber_default (hname : name ∈ numeric) (hv : ({} : Options).get? name = some v) :
    (name = "max_tokens" ∧ v = .null) ∨ IsNumber v := by
  simp only [numeric, List.mem_cons, List.not_mem_nil, or_false] at hname
  obtain rfl | rfl | rfl | rfl | rfl := hname
  · obtain rfl : .int 1048576 = v := Option.some.inj hv
    exact .inr (by decide +kernel)
  · obtain rfl : .float 0.7 = v := Option.some.inj hv
    exact .inr (by decide +kernel)
  · obtain rfl : .float 0.85 = v := Option.some.inj hv
    exact .inr (by decide +kernel)
  · obtain rfl : .int 10 = v := Option.some.inj hv
    exact .inr (by decide +kernel)
  · exact .inl ⟨rfl, (Option.some.inj hv).symm⟩

theorem plain_of_mem (hname : name ∈ numeric ++ chosen) :
    name ∈ names ∧ name ≠ "exclude_patterns" ∧ name ∉ listed := by
  revert name
  decide

theorem Layered.isNumber (h : Layered sources o) (htaken : AllTaken sources)
    (hname : name ∈ numeric) (hv : o.get? name = some v) :
    (name = "max_tokens" ∧ v = .null) ∨ IsNumber v := by
  obtain ⟨hmem, hexclude, hlisted⟩ := plain_of_mem (List.mem_append_left chosen hname)
  exact h.plain_of (p := fun v => (name = "max_tokens" ∧ v = .null) ∨ IsNumber v) hmem hexclude
    hlisted (fun v hset => .inr ((htaken name hmem v hset).number hname))
    (fun v hdefault => isNumber_default hname hdefault) hv

theorem Layered.chosen_showable (h : Layered sources o) (htaken : AllTaken sources)
    (hname : name ∈ chosen) (hv : o.get? name = some v) : v.isShowable = true := by
  obtain ⟨hmem, hexclude, hlisted⟩ := plain_of_mem (List.mem_append_right numeric hname)
  refine h.plain_of (p := fun v => v.isShowable = true) hmem hexclude hlisted
    (fun v hset => (htaken name hmem v hset).choice hname) ?_ hv
  intro v hdefault
  simp only [chosen, List.mem_cons, List.not_mem_nil, or_false] at hname
  obtain rfl | rfl | rfl := hname <;> cases hdefault <;> rfl

theorem Layered.tells_check (h : Layered sources o) (htaken : AllTaken sources) :
    Tells o.check := by
  have hnumber (name : String) (v : Value) (hname : name ∈ numeric) (hne : name ≠ "max_tokens")
      (hv : o.get? name = some v) : IsNumber v :=
    (h.isNumber htaken hname hv).resolve_left fun hnull => hne hnull.1
  have hchosen (name : String) (v : Value) (hname : name ∈ chosen)
      (hv : o.get? name = some v) : v.isShowable = true :=
    h.chosen_showable htaken hname hv
  unfold check
  refine (tells_requireNumber (hnumber "max_file_size" _ (by decide) (by decide) rfl) _ _).bind ?_
  refine (tells_requireNumber (hnumber "ast_weight" _ (by decide) (by decide) rfl) _ _).bind ?_
  refine (tells_requireNumber
    (hnumber "centrality_damping" _ (by decide) (by decide) rfl) _ _).bind ?_
  refine (tells_requireNumber
    (hnumber "centrality_iterations" _ (by decide) (by decide) rfl) _ _).bind ?_
  refine (tells_requireOneOf
    (hchosen "output_format" _ (by decide) rfl)).bind ?_
  refine (tells_requireOneOf
    (hchosen "scoring_policy" _ (by decide) rfl)).bind ?_
  refine (tells_requireOneOf
    (hchosen "verbosity" _ (by decide) rfl)).bind ?_
  refine (tells_requireTokens ?_).bind (tells_requireIncluded ?_)
  · exact (h.isNumber htaken (show "max_tokens" ∈ numeric by decide) rfl).imp_left And.right
  · obtain ⟨texts, hget⟩ := h.lists_ofTexts (show "include_patterns" ∈ _ by decide)
    rw [show o.includePatterns = .ofTexts texts from Option.some.inj hget]
    exact areShowable_texts texts

/-! ## Loading -/

/-- A fault of loading that has a notice. -/
def LoadTellable (fault : LoadFault) : Prop :=
  ∃ n, fault.notice? = some n ∧ .general ∈ n.category.chain

theorem MergedFrom.exists_patterns (hm : MergedFrom sources m) (htaken : AllTaken sources)
    (hname : name ∈ listed) : ∃ found, m.patterns name = .ok found := by
  have hmem : name ∈ names ∧ name ≠ "exclude_patterns" := by
    revert name
    decide
  unfold Merged.patterns
  rw [hm.values name hmem.1 hmem.2]
  cases hlast : lastSetting sources name with
  | none => exact ⟨[], rfl⟩
  | some v =>
    obtain ⟨patterns, hpatterns⟩ := exists_of_isOk ((htaken name hmem.1 v hlast).patterns hname)
    simp only [hpatterns]
    exact ⟨_, rfl⟩

/-- What was merged from values that their options can take becomes options, or a fault that a
reader is told about. -/
theorem MergedFrom.tells_toOptions (hm : MergedFrom sources m) (htaken : AllTaken sources)
    {fault : LoadFault} (h : m.toOptions = .error fault) : LoadTellable fault := by
  obtain ⟨included, hincluded⟩ := hm.exists_patterns htaken (show "include_patterns" ∈ _ by decide)
  obtain ⟨prioritized, hprioritized⟩ :=
    hm.exists_patterns htaken (show "prioritize_files" ∈ _ by decide)
  rw [toOptions_eq hincluded hprioritized] at h
  split at h
  · obtain ⟨cause, hcause, rfl⟩ := mapError_eq_error_iff.mp h
    exact (hm.layered hincluded hprioritized).tells_check htaken cause
      (ofTable_eq_error_iff.mp hcause)
  · cases h
    exact ⟨_, rfl, general_mem_chain _⟩

/-- Where the caller sets patterns that can be read and every option is set to what it can take,
loading only fails with a notice. -/
theorem load_tells (hfile : ∀ path, file = some path → w.find (tidied path) ≠ .error .nameTooLong)
    (hkeys : (overrides.map (·.1)).Nodup)
    (hexcludes : ∃ patterns,
      readPatterns (callerSetting overrides "exclude_patterns") = .ok patterns)
    (htaken : AllTaken (Options.sources w file overrides)) {fault : LoadFault}
    (h : load w file overrides = .error fault) : LoadTellable fault := by
  obtain ⟨found, hfound, hinterrupts⟩ | ⟨m, hm, hload⟩ := load_cases w file overrides
  · obtain rfl : found = fault := Except.error.inj (hfound.symm.trans h)
    cases hinterrupts with
    | badFile source path => exact ⟨_, rfl, general_mem_chain _⟩
    | noFile path => exact ⟨_, rfl, general_mem_chain _⟩
    | unreachable hpath hfind => exact absurd hfind (hfile _ hpath)
    | badVariable fault => exact ⟨_, rfl, general_mem_chain _⟩
    | badExcludes hbad =>
      obtain ⟨patterns, hpatterns⟩ := hexcludes
      rw [lookup_callerLayer_excludes hkeys, hpatterns] at hbad
      cases hbad
  · rw [hload] at h
    exact (mergedFrom_empty.foldlM (layers_provide w file hkeys) hm).tells_toOptions htaken h

theorem exists_readPatterns_overrides (hrequest : CommandLine.request w arguments = .rank r) :
    ∃ patterns, readPatterns (callerSetting r.overrides "exclude_patterns") = .ok patterns := by
  obtain ⟨s, hs⟩ := CommandLine.exists_rankRequest hrequest
  have hsetting : callerSetting r.overrides "exclude_patterns" =
      unlessNull (r.overrides.lookup "exclude_patterns") := rfl
  cases hlookup : r.overrides.lookup "exclude_patterns" with
  | none =>
    rw [hsetting, hlookup]
    exact ⟨[], rfl⟩
  | some v =>
    have hmem := (Keyed.lookup_eq_some_iff (CommandLine.nodup_keys_overrides hs)).mp hlookup
    obtain ⟨text, rfl⟩ := CommandLine.text_of_mem_overrides hs hmem
    simp only [hsetting, hlookup, unlessNull, readPatterns, patternList]
    split
    · exact ⟨_, rfl⟩
    · exact ⟨_, rfl⟩

/-- Options for a request from the command line are loaded, or a reader is told why not. -/
theorem load_for_request (hrequest : CommandLine.request w arguments = .rank r)
    (hfile : ∀ path, file = some path → w.find (tidied path) ≠ .error .nameTooLong)
    (htaken : AllTaken (Options.sources w file r.overrides)) :
    (∃ o, load w file r.overrides = .ok o) ∨
      ∃ fault, load w file r.overrides = .error fault ∧ LoadTellable fault := by
  obtain ⟨s, hs⟩ := CommandLine.exists_rankRequest hrequest
  cases hload : load w file r.overrides with
  | ok o => exact .inl ⟨o, rfl⟩
  | error fault =>
    exact .inr ⟨fault, rfl, load_tells hfile (CommandLine.nodup_keys_overrides hs)
      (exists_readPatterns_overrides hrequest) htaken hload⟩

/-- A request with nothing but a path and a switch. -/
def quietRequest : CommandLine.RankRequest :=
  ⟨".", none, none, [("verbose", .bool false), ("quiet", .bool true)], true⟩

theorem request_quiet (w : World) : CommandLine.request w [".", "-q"] = .rank quietRequest :=
  rfl

theorem load_for_request_quiet :
    (∃ o, load layeredWorld none quietRequest.overrides = .ok o) ∨
      ∃ fault, load layeredWorld none quietRequest.overrides = .error fault ∧
        LoadTellable fault := by
  have htaken : AllTaken (Options.sources layeredWorld none quietRequest.overrides) := by
    rw [Options.sources, layeredWorld, readHome_configured, read_configured]
    decide +kernel
  have hfile : ∀ path, none = some path →
      layeredWorld.find (tidied path) ≠ .error .nameTooLong := by
    intro path hpath
    cases hpath
  exact load_for_request (request_quiet layeredWorld) hfile htaken

/-- Whether loading failed without a notice. -/
def isUntold (loaded : Except LoadFault Options) : Bool :=
  match loaded with
  | .error fault => fault.notice?.isNone
  | .ok _ => false

/-- A project whose file says that files may be as large as a word. -/
def wordyWorld : World :=
  configured "" "max_file_size = \"big\"\n" []

/-- A size that is no number is compared all the same, and nothing is said about it. -/
theorem load_untold :
    CommandLine.request wordyWorld [".", "-q"] = .rank quietRequest ∧
      (Toml.ofBytes? "max_file_size = \"big\"\n".toUTF8).isSome = true ∧
      ∃ fault, load wordyWorld none quietRequest.overrides = .error fault ∧
        ¬LoadTellable fault := by
  refine ⟨request_quiet wordyWorld, by decide +kernel, ?_⟩
  have huntold : isUntold (load wordyWorld none quietRequest.overrides) = true := by
    rw [wordyWorld, load_configured]
    decide +kernel
  cases hload : load wordyWorld none quietRequest.overrides with
  | error fault =>
    refine ⟨fault, rfl, ?_⟩
    rintro ⟨n, hn, -⟩
    simp [isUntold, hload, hn] at huntold
  | ok o => simp [isUntold, hload] at huntold

end SourceDigest.Options
