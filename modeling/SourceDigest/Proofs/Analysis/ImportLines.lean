import Mathlib.Data.Bool.Count
import SourceDigest.Proofs.Analysis.OpeningLines

/-! Import lines of Python, counted in one scan and captured in two. The scans fall out of step
where a match of one runs over lines at which another one starts, yet each form of import line is
found no more often than it is captured. -/

namespace SourceDigest.Surface.Python

open List Matcher

variable {β : Type} {c s : Cursor}

/-! ## Forms of import lines -/

/-- A line that imports a module whole. -/
def wholeLine : Matcher Bool := do
  lineStart
  lit "import"
  gap
  name
  return true

/-- A line that imports names from a module. -/
def namesLine : Matcher Bool := do
  lineStart
  lit "from"
  gap
  name
  gap
  lit "import"
  return false

/-- An import line, and whether it imports a module whole. -/
def importForm : Matcher Bool :=
  wholeLine <|> namesLine

theorem count_importLine (text : List Char) :
    importLine.count text = (findAll importForm text).length := by
  refine length_scan_congr (fun c => ?_) 0 0 none text
  have hstart : lineStart.run c = [((), c)] ∨ lineStart.run c = [] := by
    unfold lineStart here
    dsimp only
    split <;> simp
  simp only [importLine, importForm, wholeLine, namesLine, run_bind, run_pure, run_orElse]
  rcases hstart with hstart | hstart
  · simp [hstart, map_flatMap, ← map_eq_flatMap, Function.comp_def]
  · simp [hstart]

def openingWord (whole : Bool) : String :=
  if whole then "import" else "from"

theorem isName_openingWord (whole : Bool) : IsName (openingWord whole).toList := by
  cases whole
  · exact ⟨⟨'f', rfl, by decide⟩, by decide⟩
  · exact ⟨⟨'i', rfl, by decide⟩, by decide⟩

theorem wholeLine_yields : wholeLine.Yields (· = true) := by
  unfold wholeLine
  refine yields_bind (yields_any _) fun _ _ => ?_
  refine yields_bind (yields_any _) fun _ _ => ?_
  refine yields_bind (yields_any _) fun _ _ => ?_
  exact yields_bind (yields_any _) fun _ _ => yields_pure rfl

theorem namesLine_yields : namesLine.Yields (· = false) := by
  unfold namesLine
  refine yields_bind (yields_any _) fun _ _ => ?_
  refine yields_bind (yields_any _) fun _ _ => ?_
  refine yields_bind (yields_any _) fun _ _ => ?_
  refine yields_bind (yields_any _) fun _ _ => ?_
  refine yields_bind (yields_any _) fun _ _ => ?_
  exact yields_bind (yields_any _) fun _ _ => yields_pure rfl

theorem passes_name_more {f : Unit → Matcher β} (hf : ∀ u, (f u).Passes fun _ => True) :
    (name >>= f).Passes StartsWord := by
  apply (passes_bind name_passes hf).mono
  rintro _ ⟨text, rest, rfl, htext, -⟩
  exact htext.startsWord.append rest

theorem opensLine_importForm {r : Bool × Cursor} (hr : r ∈ importForm.run c) :
    OpensLine (openingWord r.1) StartsWord c r.2 := by
  rcases mem_append.mp hr with hr | hr
  · rw [wholeLine_yields c r hr]
    exact opensLine_of_mem (passes_name_more fun _ => (passes_pure true).any) hr
  · rw [namesLine_yields c r hr]
    have hmore := passes_bind gap_passes fun _ =>
      passes_bind (passes_lit "import") fun _ => passes_pure false
    exact opensLine_of_mem (passes_name_more fun _ => hmore.any) hr

/-- A match that opens as an import line of a form does holds no more than one find of that form. -/
theorem alone_importForm {whole : Bool} {closing : List Char → Prop}
    (hs : OpensLine (openingWord whole) (Followed IsName (Followed Space closing)) c s)
    (hclosing : ∀ text, closing text →
      Solid text ∧ text.head? ≠ (openingWord whole).toList.head?) :
    Alone importForm whole s.passed c :=
  hs.alone (isName_openingWord whole) hclosing fun _ _ hr hform => hform ▸ opensLine_importForm hr

/-! ## Counts and captures -/

/-- Wherever a name ends, a name with points may end, too. -/
theorem mem_run_dottedName {r : Unit × Cursor} (hr : r ∈ name.run c) :
    (c.textTo r.2, r.2) ∈ (captured dottedName).run c := by
  have hstop : r ∈ (star (do lit "."; name) dotName_advances).run r.2 := by
    change r ∈ star.starFrom _ dotName_advances r.2
    rw [star.starFrom]
    exact mem_append_right _ mem_cons_self
  exact mem_map.mpr ⟨r, mem_run_bind.mpr ⟨r, hr, hstop⟩, rfl⟩

theorem directImport_run_ne_nil {r : Bool × Cursor} (hr : r ∈ wholeLine.run c) :
    directImport.run c ≠ [] := by
  obtain ⟨start, hstart, hr⟩ := mem_run_bind.mp hr
  obtain ⟨word, hword, hr⟩ := mem_run_bind.mp hr
  obtain ⟨space, hspace, hr⟩ := mem_run_bind.mp hr
  obtain ⟨found, hname, -⟩ := mem_run_bind.mp hr
  exact run_bind_ne_nil hstart <| run_bind_ne_nil hword <| run_bind_ne_nil hspace <|
    ne_nil_of_mem (mem_run_dottedName hname)

theorem fromImport_run_ne_nil {r : Bool × Cursor} (hr : r ∈ namesLine.run c) :
    fromImport.run c ≠ [] := by
  obtain ⟨start, hstart, hr⟩ := mem_run_bind.mp hr
  obtain ⟨word, hword, hr⟩ := mem_run_bind.mp hr
  obtain ⟨space, hspace, hr⟩ := mem_run_bind.mp hr
  obtain ⟨found, hname, hr⟩ := mem_run_bind.mp hr
  obtain ⟨between, hbetween, hr⟩ := mem_run_bind.mp hr
  obtain ⟨closing, hclosing, -⟩ := mem_run_bind.mp hr
  exact run_bind_ne_nil hstart <| run_bind_ne_nil hword <| run_bind_ne_nil hspace <|
    run_bind_ne_nil (mem_run_dottedName hname) <| run_bind_ne_nil hbetween <|
      run_bind_ne_nil hclosing <| cons_ne_nil _ _

/-- Lines that import a module whole are captured as often as they are counted. -/
theorem count_whole_le (text : List Char) :
    (findAll importForm text).count true ≤ (findAll directImport text).length := by
  refine count_findAll_le (fun c r hr hwhole => ?_) (fun c s hs => ?_) text
  · rcases mem_append.mp hr with hr | hr
    · exact directImport_run_ne_nil hr
    · exact absurd (hwhole.symm.trans (namesLine_yields c r hr)) Bool.false_ne_true.symm
  · have hline : OpensLine (openingWord true) IsName c s.2 :=
      opensLine_of_mem (passes_captured dottedName_passes) hs
    have hparts : OpensLine (openingWord true) (Followed IsName (Followed Space (· = []))) c s.2 :=
      hline.mono fun text htext => ⟨text, [], by simp, htext, [], [], rfl, by simp [Space], rfl⟩
    apply alone_importForm hparts
    rintro _ rfl
    exact ⟨by decide, by decide⟩

/-- Lines that import names from a module are captured as often as they are counted. -/
theorem count_names_le (text : List Char) :
    (findAll importForm text).count false ≤ (findAll fromImport text).length := by
  refine count_findAll_le (fun c r hr hnames => ?_) (fun c s hs => ?_) text
  · rcases mem_append.mp hr with hr | hr
    · exact absurd ((wholeLine_yields c r hr).symm.trans hnames) Bool.false_ne_true.symm
    · exact fromImport_run_ne_nil hr
  · have hmore := passes_bind (passes_captured dottedName_passes) fun source =>
      passes_bind gap_passes fun _ => passes_bind (passes_lit "import") fun _ => passes_pure source
    have hline : OpensLine (openingWord false)
        (Followed IsName (Followed Space (· = "import".toList))) c s.2 := by
      apply (opensLine_of_mem hmore hs).mono
      rintro _ ⟨name, _, rfl, hname, space, _, rfl, hspace, word, _, rfl, hword, rfl⟩
      exact ⟨name, _, rfl, hname, space, _, rfl, hspace, by simpa using hword⟩
    apply alone_importForm hline
    rintro _ rfl
    exact ⟨by decide, by decide⟩

/-- No more import lines are counted than modules are captured. -/
theorem importCount_le_captured {α : Type} [Scalar α] (content : String) (m : Metrics α) :
    ∃ captured, (analyze content m).dependencies = m.dependencies ++ captured ∧
      (analyze content m).importCount ≤ captured.length := by
  refine ⟨modules content, rfl, ?_⟩
  have hwhole := count_whole_le content.toList
  have hnames := count_names_le content.toList
  have hcount := List.count_false_add_count_true (findAll importForm content.toList)
  have htotal : importLine.count content.toList ≤ (modules content).length := by
    rw [count_importLine, modules, length_map, length_append]
    omega
  exact Int.ofNat_le.mpr htotal

/-- Matches run over line ends: two are counted, in the first two lines and in the last three, while
the lines from the second on, from the first on and from the fourth on are captured. -/
example : importLine.count "import\nfrom\nfrom\nimport\nimport z".toList = 2 ∧
    modules "import\nfrom\nfrom\nimport\nimport z" = ["from", "from", "import"] := by
  cbv

end SourceDigest.Surface.Python
