import SourceDigest.Proofs.Graph.Resolution
import SourceDigest.Proofs.Text.Cutting

/-! Imports of directories. An import that leads to a directory names its index file, unless it
leads to the top: the place of the top is written as a dot, and what is looked for there has a name
that no file of a project has. Slashes at the end of an import make no difference, except for the
one after its first dots, which tells that the import is relative. -/

namespace SourceDigest.Graph

open List SourceDigest.Path

variable {target importer : String} {known : String → Bool}

/-! ## Index files -/

/-- The index files that a directory may have, the preferred one first. -/
def indexFiles : List String :=
  ["index.ts", "index.tsx", "index.js", "index.jsx", "index.py"]

theorem spellings_eq (place : String) :
    spellings place = place :: (sourceExtensions.filter (· != "")).map (place ++ ·) ++
      indexFiles.map fun file => place ++ "/" ++ file := by
  simp only [spellings, indexFiles, String.append_assoc]
  rfl

/-- Where no file goes by the name of the directory, its index files are looked for. -/
theorem find?_spellings {place : String}
    (h : ∀ e ∈ sourceExtensions, known (place ++ e) = false) :
    (spellings place).find? known =
      (indexFiles.map fun file => place ++ "/" ++ file).find? known := by
  have hplace : known place = false := by simpa using h "" (by decide)
  have hnone : (place :: (sourceExtensions.filter (· != "")).map (place ++ ·)).find? known =
      none := by
    rw [List.find?_eq_none]
    intro path hpath
    rcases mem_cons.mp hpath with rfl | hpath
    · simp [hplace]
    · obtain ⟨e, he, rfl⟩ := mem_map.mp hpath
      simp [h e (mem_filter.mp he).1]
  rw [spellings_eq, find?_append, hnone, Option.none_or]

/-- The place of the top is not among the names that files of a project can have, and neither are
its index files as they are spelled. -/
theorem find?_candidates_top (hknown : ∀ path, known path = true → Canonical path.toList) :
    ((candidates (written [])).map String.ofList).find? known =
      ["..ts", "..tsx", "..js", "..jsx", "..py"].find? known := by
  have hdot (path : String) (h : ¬Canonical path.toList) : known path = false :=
    Bool.eq_false_iff.mpr (mt (hknown path) h)
  have hall : (candidates (written [])).map String.ofList =
      [".", "..ts", "..tsx", "..js", "..jsx", "..py", ".", "./index.ts", "./index.tsx",
        "./index.js", "./index.jsx", "./index.py"] := by
    decide
  rw [hall]
  simp only [find?_cons, find?_nil, hdot "." (by decide), hdot "./index.ts" (by decide),
    hdot "./index.tsx" (by decide), hdot "./index.js" (by decide),
    hdot "./index.jsx" (by decide), hdot "./index.py" (by decide)]

/-- What an import of a directory comes to. Below the top it is the first index file of the
directory, where no file goes by the directory's own name; at the top it is never an index file,
but a file that is called two dots and an extension. -/
structure FindsIndex (target importer : String) (known : String → Bool) : Prop where
  below : ∀ segments, destination target importer = some segments → segments ≠ [] →
    let place := String.ofList (Text.join ['/'] segments)
    (∀ e ∈ sourceExtensions, known (place ++ e) = false) →
      resolve target importer known =
        (indexFiles.map fun file => place ++ "/" ++ file).find? known
  top : destination target importer = some [] →
    resolve target importer known = ["..ts", "..tsx", "..js", "..jsx", "..py"].find? known

theorem resolve_findsIndex (himporter : Canonical importer.toList)
    (hrelative : isRelative target.toList = true)
    (hknown : ∀ path, known path = true → Canonical path.toList) :
    FindsIndex target importer known := by
  have hresolve := resolve_eq himporter hrelative known
  refine ⟨?_, ?_⟩
  · intro segments hsegments hne place hplace
    obtain ⟨path, -, -, hpath⟩ := destination_eq himporter hrelative
    have hnames := isName_of_evaluate (hpath.symm.trans hsegments)
    have hsolid : ∀ s ∈ Text.split '/' (Text.join ['/'] segments), s ≠ [] := by
      rw [split_join_names hnames hne]
      exact fun s hs => (hnames s hs).2.1
    rw [hresolve, hsegments, Option.bind_some, written_names hnames hne, find?_candidates hsolid]
    exact find?_spellings hplace
  · intro htop
    rw [hresolve, htop, Option.bind_some]
    exact find?_candidates_top hknown

theorem canonical_of_beq {path other : String} (h : Canonical path.toList)
    (hother : (other == path) = true) : Canonical other.toList :=
  eq_of_beq hother ▸ h

theorem resolve_findsIndex_lib :
    Canonical "src/main.ts".toList ∧ isRelative "./lib/".toList = true ∧
      isRelative "../".toList = true ∧
      (∀ path : String, (path == "src/lib/index.js") = true → Canonical path.toList) ∧
      resolve "./lib/" "src/main.ts" (· == "src/lib/index.js") = some "src/lib/index.js" ∧
      resolve "../" "src/main.ts" (· == "src/lib/index.js") = none := by
  have himporter : Canonical "src/main.ts".toList := by decide
  have hlib : isRelative "./lib/".toList = true := by decide
  have htop : isRelative "../".toList = true := by decide
  have hknown (path : String) : (path == "src/lib/index.js") = true → Canonical path.toList :=
    canonical_of_beq (by decide)
  refine ⟨himporter, hlib, htop, hknown, ?_, ?_⟩
  · rw [(resolve_findsIndex himporter hlib hknown).below ["src".toList, "lib".toList] (by decide)
      (by decide) (by decide)]
    decide
  · rw [(resolve_findsIndex himporter htop hknown).top (by decide)]
    decide

/-- The index file of the top is known, an import leads to the top, and nothing is found. -/
theorem resolve_top_misses_index :
    Canonical "src/main.ts".toList ∧ isRelative "../".toList = true ∧
      destination "../" "src/main.ts" = some [] ∧
      (∀ path : String, (path == "index.ts") = true → Canonical path.toList) ∧
      indexFiles.find? (· == "index.ts") = some "index.ts" ∧
      resolve "../" "src/main.ts" (· == "index.ts") = none :=
  ⟨by decide, by decide, by decide, fun _ => canonical_of_beq (by decide), by decide, by decide⟩

/-! ## Slashes at the end -/

def withoutSlashes (target : String) : String :=
  String.ofList (Text.stripEnd (· == '/') target.toList)

/-- Of what is left without slashes at the end only one dot and two dots are no relative
import. -/
theorem isRelative_or_dots {base back : List Char} (hlast : base.getLast? ≠ some '/')
    (hback : ∀ c ∈ back, c = '/') (h : isRelative (base ++ back) = true) :
    isRelative base = true ∨ base = ['.'] ∨ base = ['.', '.'] := by
  have hhead := head_of_isRelative h
  match base with
  | [] =>
    have hslash : '.' = '/' := hback '.' (mem_of_mem_head? hhead)
    exact absurd hslash (by decide)
  | [a] =>
    obtain rfl : a = '.' := Option.some.inj hhead
    exact Or.inr (Or.inl rfl)
  | [a, b] =>
    obtain rfl : a = '.' := Option.some.inj hhead
    have hstart : '/' = b ∨ '.' = b ∧ ['/'] <+: back := by simpa [isRelative] using h
    rcases hstart with hb | ⟨rfl, -⟩
    · exact absurd (congrArg some hb.symm) hlast
    · exact Or.inr (Or.inr rfl)
  | _ :: _ :: _ :: _ => exact Or.inl h

/-- A slash at the end of an import leads to the same place. -/
theorem place_concat_slash {target : List Char} (hhead : target.head? = some '.')
    (importer : List Char) : place (target ++ ['/']) importer = place target importer := by
  obtain ⟨rest, rfl⟩ := head?_eq_some_iff.mp hhead
  have hroot : ('.' :: rest).head? ≠ some '/' := by simp
  rw [place, place, join_append (cons_ne_nil _ _)]
  apply normalise_concat_slash
  have hdot : ∃ front, join (directory (withSlashes importer)) ('.' :: rest) =
      front ++ '.' :: rest := by
    rw [join, if_neg hroot]
    split
    · exact ⟨_, rfl⟩
    · exact ⟨_ ++ ['/'], (append_cons _ _ _)⟩
  obtain ⟨front, hfront⟩ := hdot
  rw [hfront, append_assoc, cons_append]
  exact rootSlashes_append_dot front _ _

theorem place_append_slashes {target back : List Char} (hhead : target.head? = some '.')
    (hback : ∀ c ∈ back, c = '/') (importer : List Char) :
    place (target ++ back) importer = place target importer := by
  induction back generalizing target with
  | nil => rw [append_nil]
  | cons c back ih =>
    obtain ⟨rfl, hrest⟩ := forall_mem_cons.mp hback
    have hlonger : (target ++ ['/']).head? = some '.' := by
      rw [head?_append, hhead]
      rfl
    rw [append_cons, ih hlonger hrest, place_concat_slash hhead]

/-- Slashes at the end of an import make no difference, unless only dots are left without them:
these are no relative import. -/
theorem resolve_withoutSlashes (hrelative : isRelative target.toList = true) (importer : String)
    (known : String → Bool) :
    resolve (withoutSlashes target) importer known =
      if withoutSlashes target = "." ∨ withoutSlashes target = ".." then none
      else resolve target importer known := by
  obtain ⟨back, htarget, hback⟩ := Text.exists_eq_stripEnd_append (· == '/') target.toList
  have hslashes : ∀ c ∈ back, c = '/' := fun c hc => by simpa using hback c hc
  have hlast : (Text.stripEnd (· == '/') target.toList).getLast? ≠ some '/' := fun h => by
    simpa using Text.getLast_stripEnd (· == '/') target.toList '/' h
  rw [htarget] at hrelative
  split
  · rename_i hdots
    rcases hdots with hdots | hdots
    · rw [hdots]
      exact resolve_of_not_relative (by decide) importer known
    · rw [hdots]
      exact resolve_of_not_relative (by decide) importer known
  · rename_i hdots
    have hbase : isRelative (withoutSlashes target).toList = true := by
      rw [withoutSlashes, String.toList_ofList]
      refine (isRelative_or_dots hlast hslashes hrelative).resolve_right fun h => hdots ?_
      rcases h with h | h
      · exact Or.inl (congrArg String.ofList h)
      · exact Or.inr (congrArg String.ofList h)
    have hplace : place target.toList importer.toList =
        place (withoutSlashes target).toList importer.toList := by
      have happend := place_append_slashes (head_of_isRelative hbase) hslashes importer.toList
      rw [withoutSlashes, String.toList_ofList] at happend ⊢
      rw [← happend, ← htarget]
    rw [← htarget] at hrelative
    rw [resolve, resolve, if_pos hbase, if_pos hrelative, hplace]

theorem resolve_withoutSlashes_lib :
    isRelative "../lib//".toList = true ∧ isRelative "..//".toList = true ∧
      (∀ importer known, resolve "../lib" importer known = resolve "../lib//" importer known) ∧
      ∀ importer known, resolve ".." importer known = none := by
  have hlib : isRelative "../lib//".toList = true := by decide
  have hdots : isRelative "..//".toList = true := by decide
  refine ⟨hlib, hdots, ?_, ?_⟩
  · intro importer known
    have h := resolve_withoutSlashes hlib importer known
    rwa [show withoutSlashes "../lib//" = "../lib" by decide, if_neg (by decide)] at h
  · intro importer known
    have h := resolve_withoutSlashes hdots importer known
    rwa [show withoutSlashes "..//" = ".." by decide, if_pos (Or.inr rfl)] at h

/-- The directory above is found with a slash after the dots, and not without. -/
theorem resolve_dots_differ :
    isRelative "../".toList = true ∧ "../".toList.getLast? = some '/' ∧
      withoutSlashes "../" = ".." ∧
      resolve "../" "src/app/main.ts" (· == "src/index.ts") = some "src/index.ts" ∧
      resolve ".." "src/app/main.ts" (· == "src/index.ts") = none := by
  decide

end SourceDigest.Graph
