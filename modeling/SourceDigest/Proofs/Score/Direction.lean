import Mathlib.Algebra.Order.BigOperators.Group.List
import Mathlib.Tactic.Positivity
import SourceDigest.Proofs.Score.Blend

/-! In which direction the additive score goes. Without rounding it is a sum of bonuses, none of
them negative, times a factor for tests and generated files, less a penalty for imports; each of
these is monotone in what counts for a file and antitone in what counts against it. -/

namespace SourceDigest.Score

open List Scalar

/-- Metrics with no count and no complexity below zero. -/
structure IsCounted (m : Metrics Rat) : Prop where
  importCount : 0 ≤ m.importCount
  exportCount : 0 ≤ m.exportCount
  functionCount : 0 ≤ m.functionCount
  classCount : 0 ≤ m.classCount
  publicMethods : 0 ≤ m.publicMethods
  complexity : 0 ≤ m.complexity

/-- Metrics that have no less of what counts for a file than others, and no more of what counts
against it. A complexity that grows has to stay below the end of the window for main logic. -/
structure Surpasses (better m : Metrics Rat) : Prop where
  exportCount : m.exportCount ≤ better.exportCount
  publicMethods : m.publicMethods ≤ better.publicMethods
  functionCount : m.functionCount ≤ better.functionCount
  classCount : m.classCount ≤ better.classCount
  complexity : m.complexity ≤ better.complexity
  window : better.complexity = m.complexity ∨ better.complexity < 50
  frameworks : m.frameworks <+ better.frameworks
  isEntryPoint : m.isEntryPoint = true → better.isEntryPoint = true
  isConfigFile : m.isConfigFile = true → better.isConfigFile = true
  importCount : better.importCount ≤ m.importCount
  isTestFile : better.isTestFile = true → m.isTestFile = true

/-! ## The score without rounding -/

def frameworkBonus (framework : String) : Rat :=
  (if framework ∈ Traits.frontend then 5 else 0) + if framework ∈ Traits.backend then 6 else 0

/-- Exports without imports: most likely a utility. -/
def isUtility (m : Metrics Rat) : Bool :=
  m.importCount == 0 && 0 < m.exportCount

/-- What tests and generated files count for. -/
def factor (m : Metrics Rat) : Rat :=
  (if m.isTestFile then 3 / 10 else 1) * if m.isGenerated then 1 / 10 else 1

/-- What imports after the tenth cost. -/
def penalty (m : Metrics Rat) : Rat :=
  if 10 < m.importCount then (m.importCount - 10) / 5 else 0

theorem ofInt_rat (n : Int) : (Scalar.ofInt n : Rat) = n :=
  rfl

theorem if_add (p : Prop) [Decidable p] (score bonus : Rat) :
    (if p then score + bonus else score) = score + if p then bonus else 0 := by
  split
  · rfl
  · exact (add_zero score).symm

theorem foldl_addFramework (frameworks : List String) (score : Rat) :
    frameworks.foldl addFramework score = score + (frameworks.map frameworkBonus).sum := by
  induction frameworks generalizing score with
  | nil => simp
  | cons framework frameworks ih =>
    have hone : addFramework score framework = score + frameworkBonus framework := by
      rw [addFramework, if_add, if_add, add_assoc]
      norm_num [frameworkBonus]
    rw [foldl_cons, ih, hone, map_cons, sum_cons, add_assoc]

theorem bonuses_rat (m : Metrics Rat) (centrality : Rat) :
    bonuses m centrality =
      (if m.isEntryPoint then 20 else 0) + (if isMainLogic m then 15 else 0) +
        m.exportCount * 3 + m.publicMethods * 2 + (if isFrameworkCore m then 10 else 0) +
        (if m.isConfigFile then 8 else 0) + (m.frameworks.map frameworkBonus).sum +
        min (m.complexity / 5) 5 + centrality * 10 + if isUtility m then 5 else 0 := by
  simp only [bonuses, if_add, foldl_addFramework, least_rat, ofInt_rat, isUtility]
  norm_num

theorem scaled_rat (m : Metrics Rat) (score : Rat) : scaled m score = score * factor m := by
  unfold scaled factor
  cases m.isTestFile <;> cases m.isGenerated <;> norm_num [mul_assoc]

theorem penalised_rat (m : Metrics Rat) (score : Rat) :
    penalised m score = score - penalty m := by
  unfold penalised penalty
  split
  · rw [ofInt_rat]
    push_cast
    ring
  · exact (sub_zero score).symm

theorem additive_rat (m : Metrics Rat) (centrality : Rat) :
    additive m centrality = max (bonuses m centrality * factor m - penalty m) 0 := by
  have hzero : (0.0 : Rat) = 0 := by norm_num
  rw [additive, most_rat, penalised_rat, scaled_rat, hzero]

/-! ## Its parts -/

variable {m better : Metrics Rat} {centrality higher : Rat}

theorem frameworkBonuses_nonneg (frameworks : List String) :
    ∀ bonus ∈ frameworks.map frameworkBonus, 0 ≤ bonus := by
  intro bonus hbonus
  obtain ⟨framework, -, rfl⟩ := mem_map.mp hbonus
  unfold frameworkBonus
  positivity

theorem bonuses_nonneg (hm : IsCounted m) (hcentrality : 0 ≤ centrality) :
    0 ≤ bonuses m centrality := by
  have hexports : (0 : Rat) ≤ m.exportCount := mod_cast hm.exportCount
  have hmethods : (0 : Rat) ≤ m.publicMethods := mod_cast hm.publicMethods
  have hframeworks := sum_nonneg (frameworkBonuses_nonneg m.frameworks)
  have hcomplexity := hm.complexity
  rw [bonuses_rat]
  positivity

theorem isGenerated_iff (m : Metrics Rat) : m.isGenerated = true ↔
    m.functionCount = 0 ∧ m.classCount = 0 ∧ m.exportCount = 0 ∧ m.complexity = 0 := by
  have hzero : (0.0 : Rat) = 0 := by norm_num
  simp [Metrics.isGenerated, hzero, and_assoc]

theorem isMainLogic_iff (m : Metrics Rat) : isMainLogic m = true ↔
    3 < m.exportCount ∧ 5 < m.functionCount ∧ 5 < m.complexity ∧ m.complexity < 50 := by
  have hfive : (5.0 : Rat) = 5 := by norm_num
  have hfifty : (50.0 : Rat) = 50 := by norm_num
  simp [isMainLogic, hfive, hfifty, and_assoc]

theorem isFrameworkCore_iff (m : Metrics Rat) : isFrameworkCore m = true ↔
    m.frameworks ≠ [] ∧ (0 < m.exportCount ∨ 3 < m.functionCount) := by
  simp [isFrameworkCore]

theorem isUtility_iff (m : Metrics Rat) :
    isUtility m = true ↔ m.importCount = 0 ∧ 0 < m.exportCount := by
  simp [isUtility]

theorem bonus_le {p q : Bool} {bonus : Rat} (h : p = true → q = true) (hbonus : 0 ≤ bonus) :
    (if p then bonus else 0) ≤ if q then bonus else 0 := by
  cases p with
  | false => cases q <;> simp [hbonus]
  | true => simp [h rfl]

theorem share_le {p q : Bool} {share : Rat} (h : q = true → p = true) (hshare : share ≤ 1) :
    (if p then share else 1) ≤ if q then share else 1 := by
  cases q with
  | false => cases p <;> simp [hshare]
  | true => simp [h rfl]

theorem factor_nonneg (m : Metrics Rat) : 0 ≤ factor m := by
  unfold factor
  positivity

namespace Surpasses

theorem refl (m : Metrics Rat) : Surpasses m m := by
  constructor <;> simp

theorem isMainLogic (h : Surpasses better m) (hmain : isMainLogic m = true) :
    isMainLogic better = true := by
  rw [isMainLogic_iff] at *
  obtain ⟨hexports, hfunctions, hlow, hhigh⟩ := hmain
  refine ⟨hexports.trans_le h.exportCount, hfunctions.trans_le h.functionCount,
    hlow.trans_le h.complexity, ?_⟩
  rcases h.window with heq | hbelow
  · rwa [heq]
  · exact hbelow

theorem isFrameworkCore (h : Surpasses better m) (hcore : isFrameworkCore m = true) :
    isFrameworkCore better = true := by
  rw [isFrameworkCore_iff] at *
  obtain ⟨hframeworks, hcode⟩ := hcore
  refine ⟨fun hnil => hframeworks (sublist_nil.mp (hnil ▸ h.frameworks)), ?_⟩
  exact hcode.imp h.exportCount.trans_lt' h.functionCount.trans_lt'

theorem isUtility (h : Surpasses better m) (himports : 0 ≤ better.importCount)
    (hutility : isUtility m = true) : isUtility better = true := by
  rw [isUtility_iff] at *
  have := h.importCount
  have := h.exportCount
  omega

theorem isGenerated (h : Surpasses better m) (hm : IsCounted m)
    (hgenerated : better.isGenerated = true) : m.isGenerated = true := by
  rw [isGenerated_iff] at *
  obtain ⟨hfunctions, hclasses, hexports, hcomplexity⟩ := hgenerated
  exact ⟨(h.functionCount.trans_eq hfunctions).antisymm hm.functionCount,
    (h.classCount.trans_eq hclasses).antisymm hm.classCount,
    (h.exportCount.trans_eq hexports).antisymm hm.exportCount,
    (h.complexity.trans_eq hcomplexity).antisymm hm.complexity⟩

theorem sum_frameworkBonus_le (h : Surpasses better m) :
    (m.frameworks.map frameworkBonus).sum ≤ (better.frameworks.map frameworkBonus).sum :=
  (h.frameworks.map frameworkBonus).sum_le_sum (frameworkBonuses_nonneg better.frameworks)

theorem bonuses_le (h : Surpasses better m) (himports : 0 ≤ better.importCount)
    (hcentrality : centrality ≤ higher) : bonuses m centrality ≤ bonuses better higher := by
  have hentry := bonus_le h.isEntryPoint (show (0 : Rat) ≤ 20 by norm_num)
  have hmain := bonus_le h.isMainLogic (show (0 : Rat) ≤ 15 by norm_num)
  have hexports : (m.exportCount : Rat) ≤ better.exportCount := mod_cast h.exportCount
  have hmethods : (m.publicMethods : Rat) ≤ better.publicMethods := mod_cast h.publicMethods
  have hcore := bonus_le h.isFrameworkCore (show (0 : Rat) ≤ 10 by norm_num)
  have hconfig := bonus_le h.isConfigFile (show (0 : Rat) ≤ 8 by norm_num)
  have hframeworks := h.sum_frameworkBonus_le
  have hcomplexity := h.complexity
  have hutility := bonus_le (h.isUtility himports) (show (0 : Rat) ≤ 5 by norm_num)
  rw [bonuses_rat, bonuses_rat]
  gcongr

theorem factor_le (h : Surpasses better m) (hm : IsCounted m) : factor m ≤ factor better := by
  have htest := share_le h.isTestFile (show (3 / 10 : Rat) ≤ 1 by norm_num)
  have hgenerated := share_le (h.isGenerated hm) (show (1 / 10 : Rat) ≤ 1 by norm_num)
  unfold factor
  gcongr

theorem penalty_le (h : Surpasses better m) : penalty better ≤ penalty m := by
  have himports : (better.importCount : Rat) ≤ m.importCount := mod_cast h.importCount
  unfold penalty
  split
  · rename_i hmany
    rw [if_pos (hmany.trans_le h.importCount)]
    gcongr
  · split
    · rename_i hmany
      have : (10 : Rat) < m.importCount := mod_cast hmany
      linarith
    · exact le_rfl

/-- Metrics that surpass others are scored no lower, at a centrality that is no lower. -/
theorem additive_le (h : Surpasses better m) (hm : IsCounted m)
    (himports : 0 ≤ better.importCount) (h0 : 0 ≤ centrality) (hcentrality : centrality ≤ higher) :
    additive m centrality ≤ additive better higher := by
  have hbonuses := h.bonuses_le himports hcentrality
  have hnonneg := (bonuses_nonneg hm h0).trans hbonuses
  have hfactor := h.factor_le hm
  have hpenalty := h.penalty_le
  have hshare := factor_nonneg m
  rw [additive_rat, additive_rat]
  gcongr

end Surpasses

/-! ## One field at a time -/

/-- What counts for a file goes up in one place, and all else stays. -/
inductive Promoted (m : Metrics Rat) (centrality : Rat) : Metrics Rat → Rat → Prop where
  | exportCount {n : Int} (h : m.exportCount ≤ n) :
      Promoted m centrality { m with exportCount := n } centrality
  | publicMethods {n : Int} (h : m.publicMethods ≤ n) :
      Promoted m centrality { m with publicMethods := n } centrality
  | functionCount {n : Int} (h : m.functionCount ≤ n) :
      Promoted m centrality { m with functionCount := n } centrality
  | classCount {n : Int} (h : m.classCount ≤ n) :
      Promoted m centrality { m with classCount := n } centrality
  | centrality {higher : Rat} (h : centrality ≤ higher) : Promoted m centrality m higher
  | isEntryPoint : Promoted m centrality { m with isEntryPoint := true } centrality
  | isConfigFile : Promoted m centrality { m with isConfigFile := true } centrality
  | frameworks {front back : List String} (tag : String) (h : m.frameworks = front ++ back) :
      Promoted m centrality { m with frameworks := front ++ tag :: back } centrality
  | complexity {x : Rat} (h : m.complexity ≤ x) (hbelow : x < 50) :
      Promoted m centrality { m with complexity := x } centrality

/-- What counts against a file goes up in one place, and all else stays. -/
inductive Demoted (m : Metrics Rat) : Metrics Rat → Prop where
  | importCount {n : Int} (h : m.importCount ≤ n) : Demoted m { m with importCount := n }
  | isTestFile : Demoted m { m with isTestFile := true }

theorem Promoted.surpasses (h : Promoted m centrality better higher) :
    Surpasses better m ∧ better.importCount = m.importCount ∧ centrality ≤ higher := by
  have hm := Surpasses.refl m
  cases h with
  | exportCount h => exact ⟨{ hm with exportCount := h }, rfl, le_rfl⟩
  | publicMethods h => exact ⟨{ hm with publicMethods := h }, rfl, le_rfl⟩
  | functionCount h => exact ⟨{ hm with functionCount := h }, rfl, le_rfl⟩
  | classCount h => exact ⟨{ hm with classCount := h }, rfl, le_rfl⟩
  | centrality h => exact ⟨hm, rfl, h⟩
  | isEntryPoint => exact ⟨{ hm with isEntryPoint := fun _ => rfl }, rfl, le_rfl⟩
  | isConfigFile => exact ⟨{ hm with isConfigFile := fun _ => rfl }, rfl, le_rfl⟩
  | frameworks tag h => exact ⟨{ hm with frameworks := by simp [h] }, rfl, le_rfl⟩
  | complexity h hbelow => exact ⟨{ hm with complexity := h, window := .inr hbelow }, rfl, le_rfl⟩

theorem Demoted.surpasses {worse : Metrics Rat} (h : Demoted m worse) (hm : IsCounted m) :
    Surpasses m worse ∧ IsCounted worse := by
  have hrefl := Surpasses.refl m
  cases h with
  | importCount h =>
    exact ⟨{ hrefl with importCount := h }, { hm with importCount := hm.importCount.trans h }⟩
  | isTestFile => exact ⟨{ hrefl with isTestFile := fun _ => rfl }, { hm with }⟩

/-- The additive score responds to every field in one direction only: it never falls where one
thing that counts for a file goes up, and never rises where one that counts against it does. -/
theorem structural_one_way (hm : IsCounted m) (h0 : 0 ≤ centrality) :
    (∀ better higher, Promoted m centrality better higher →
      structural .additive m centrality ≤ structural .additive better higher) ∧
    ∀ worse, Demoted m worse →
      structural .additive worse centrality ≤ structural .additive m centrality := by
  constructor
  · intro better higher h
    obtain ⟨hsurpasses, himports, hcentrality⟩ := h.surpasses
    exact hsurpasses.additive_le hm (himports ▸ hm.importCount) h0 hcentrality
  · intro worse h
    obtain ⟨hsurpasses, hworse⟩ := h.surpasses hm
    exact hsurpasses.additive_le hworse hm.importCount h0 le_rfl

/-- Many exports and functions, at the edge of what is taken for main logic. -/
def edgeModule (complexity : Rat) : Metrics Rat :=
  { (Metrics.empty : Metrics Rat) with
    exportCount := 4
    functionCount := 6
    complexity := complexity }

/-- A module that becomes main logic, and the same module with an import. -/
theorem structural_one_way_module :
    IsCounted (edgeModule 5) ∧
      structural .additive (edgeModule 5) 0 ≤ structural .additive (edgeModule 6) 0 ∧
      structural .additive { edgeModule 5 with importCount := 1 } 0 ≤
        structural .additive (edgeModule 5) 0 := by
  have hcounted : IsCounted (edgeModule 5) := by constructor <;> decide
  obtain ⟨hpromoted, hdemoted⟩ := structural_one_way hcounted (le_refl (0 : Rat))
  refine ⟨hcounted, hpromoted _ _ (.complexity ?_ ?_), hdemoted _ (.importCount ?_)⟩
  · decide
  · decide
  · decide

/-- A complexity that grows to fifty costs the bonus for main logic. -/
example :
    structural .additive (edgeModule 50) 0 < structural .additive (edgeModule 49) 0 := by
  decide +kernel

end SourceDigest.Score
