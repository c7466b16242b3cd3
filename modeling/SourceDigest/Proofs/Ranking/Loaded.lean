import SourceDigest.Proofs.Options.Accepted
import SourceDigest.Proofs.Options.Loading
import SourceDigest.Proofs.Ranking.Batch

/-! Rankings with options that were loaded. The rules for options allow every number that is not
below one as the number of rounds, and rounds are counted with whole numbers only. Nothing else in
loaded options can stop a ranking. -/

namespace SourceDigest.Ranking

open Options

variable {α : Type} [Scalar α] {w : World} {file : Option String} {overrides : Layer}
  {o : Options} {files : List SourceFile} {v : Value}

/-- A number with places. -/
def IsDecimal (v : Value) : Prop :=
  ∃ x, v = .float x

theorem exists_roundsOf (h : AtLeast v 1) (hwhole : ¬IsDecimal v) :
    ∃ rounds, roundsOf v = .ok rounds := by
  obtain ⟨a, ha, -⟩ := h
  cases v with
  | bool b => exact ⟨_, rfl⟩
  | int n => exact ⟨_, rfl⟩
  | float x => exact absurd ⟨x, rfl⟩ hwhole
  | null | text | list | tuple | table | moment => cases ha

theorem roundsOf_eq_error (hdecimal : IsDecimal v) : ∃ fault, roundsOf v = .error fault := by
  obtain ⟨x, rfl⟩ := hdecimal
  exact ⟨_, rfl⟩

theorem exists_settingsOf (h : AtLeast o.centralityRounds 1)
    (hwhole : files = [] ∨ ¬IsDecimal o.centralityRounds) :
    ∃ s : Settings α, settingsOf o files = .ok s := by
  unfold settingsOf
  obtain rfl | hwhole := hwhole
  · exact ⟨_, rfl⟩
  · obtain ⟨rounds, hrounds⟩ := exists_roundsOf h hwhole
    rw [hrounds]
    cases files.isEmpty
    · exact ⟨_, rfl⟩
    · exact ⟨_, rfl⟩

theorem settingsOf_eq_error (hdecimal : IsDecimal o.centralityRounds) (hfiles : files ≠ []) :
    ∃ fault, (settingsOf o files : Except _ (Settings α)) = .error fault := by
  obtain ⟨fault, hfault⟩ := roundsOf_eq_error hdecimal
  refine ⟨fault, ?_⟩
  rw [settingsOf, if_neg (by simpa using hfiles), hfault]
  rfl

/-! ## Names that are favoured -/

theorem texts_map_text (texts : List String) :
    textItems.texts (texts.map .text) = (texts, none) := by
  induction texts with
  | nil => rfl
  | cons s rest ih => simp [textItems.texts, ih]

theorem textItems_ofTexts (texts : List String) :
    textItems (.ofTexts texts) = (texts, none) :=
  texts_map_text texts

theorem exists_prioritizedOf {texts : List String} (h : o.prioritizeFiles = .ofTexts texts)
    (files : List SourceFile) : ∃ prioritized, prioritizedOf o files = .ok prioritized := by
  refine ⟨_, prioritizedOf_eq_ok ?_ files⟩
  rw [h, textItems_ofTexts]

/-! ## Rankings -/

theorem not_exists_ranking {prioritized : List String}
    (hprioritized : prioritizedOf o files = .ok prioritized) (hset : o.useStructure.isSet = true)
    (hdecimal : IsDecimal o.centralityRounds) (hfiles : files ≠ []) (parser : Option Parser) :
    ¬∃ ranking : Ranking α, ofFiles o parser files = .ok ranking := by
  obtain ⟨fault, hfault⟩ := settingsOf_eq_error (α := α) hdecimal hfiles
  rw [ofFiles, ofFilesWith_of_settings_fault hprioritized hset hfault]
  rintro ⟨ranking, h⟩
  cases h

/-- Loaded options rank every batch, unless there are files to be ranked over a number of rounds
that has places. -/
theorem exists_ranking_iff_of_load (hkeys : (overrides.map (·.1)).Nodup)
    (hload : load w file overrides = .ok o) (parser : Option Parser) (files : List SourceFile) :
    (∃ ranking : Ranking α, ofFiles o parser files = .ok ranking) ↔
      ¬(o.useStructure.isSet = true ∧ files ≠ [] ∧ IsDecimal o.centralityRounds) := by
  obtain ⟨m, included, favoured, hm, hincluded, hfavoured, hmade, hcheck⟩ :=
    exists_merged_of_load hkeys hload
  have hlayered : Layered (sources w file overrides) o := hmade ▸ hm.layered hincluded hfavoured
  obtain ⟨texts, htexts⟩ := hlayered.lists_ofTexts (show "prioritize_files" ∈ _ by decide)
  obtain ⟨prioritized, hprioritized⟩ := exists_prioritizedOf (Option.some.inj htexts) files
  have hrounds := (check_eq_ok_iff.mp hcheck).rounds
  by_cases hset : o.useStructure.isSet = true
  · by_cases hdecimal : files ≠ [] ∧ IsDecimal o.centralityRounds
    · exact iff_of_false (not_exists_ranking hprioritized hset hdecimal.2 hdecimal.1 parser)
        fun h => h ⟨hset, hdecimal⟩
    · have hwhole : files = [] ∨ ¬IsDecimal o.centralityRounds := by
        by_cases hfiles : files = []
        · exact .inl hfiles
        · exact .inr fun h => hdecimal ⟨hfiles, h⟩
      obtain ⟨s, hs⟩ := exists_settingsOf (α := α) hrounds hwhole
      exact iff_of_true ⟨_, ofFiles_eq_ok hprioritized hs parser⟩ fun h => hdecimal h.2
  · have hplain : ofFiles (α := α) o parser files =
        .ok ⟨o.useStructure, sorted (files.map (plainFile (heuristics prioritized files))),
          none, none⟩ := by
      rw [ofFiles, ofFilesWith_plain hprioritized hset]
      rfl
    exact iff_of_true ⟨_, hplain⟩ fun h => hset h.1

/-- A batch of one file. -/
def oneScript : List SourceFile :=
  [⟨"a.py", "import b\n", "python", 9⟩]

theorem exists_ranking_iff_of_load_script :
    ∃ o, load layeredWorld none [("verbose", .bool true)] = .ok o ∧
      ((∃ ranking : Ranking Float, ofFiles o none oneScript = .ok ranking) ↔
        ¬(o.useStructure.isSet = true ∧ oneScript ≠ [] ∧ IsDecimal o.centralityRounds)) := by
  obtain ⟨o, ho⟩ := exists_load_layeredWorld
  exact ⟨o, ho, exists_ranking_iff_of_load (by decide) ho none _⟩

/-- Options with two rounds, written with a place. -/
def decimalWorld : World :=
  configured "use_ast_analysis = true\ncentrality_iterations = 2.0\n" "" []

/-- Whether options were loaded with which one file cannot be ranked. -/
def isUnusable (loaded : Except LoadFault Options) : Bool :=
  match loaded with
  | .ok o => !(ofFiles o none oneScript : Except _ (Ranking Float)).isOk
  | .error _ => false

/-- Options with two rounds pass the rules, and no file can be ranked with them. -/
theorem load_unusable :
    ∃ o, load decimalWorld none [] = .ok o ∧
      ¬∃ ranking : Ranking Float, ofFiles o none oneScript = .ok ranking := by
  have hunusable : isUnusable (load decimalWorld none []) = true := by
    rw [decimalWorld, load_configured]
    decide +kernel
  cases hload : load decimalWorld none [] with
  | error fault => simp [isUnusable, hload] at hunusable
  | ok o =>
    refine ⟨o, rfl, ?_⟩
    rintro ⟨ranking, hranking⟩
    simp [isUnusable, hload, hranking, Except.isOk, Except.toBool] at hunusable

end SourceDigest.Ranking
