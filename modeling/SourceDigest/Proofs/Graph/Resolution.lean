import SourceDigest.Graph.Resolve
import SourceDigest.Proofs.Path.Segments

/-! Resolution of imports as evaluation of segments. An import leads from the directory of the
importer to a place; one that leaves the top leads nowhere, and only the place decides which
file is meant. -/

namespace SourceDigest.Graph

open List SourceDigest.Path

/-- Where an import leads: the segments of the importer's directory and of the import, evaluated
from the top. -/
def destination (target importer : String) : Option (List (List Char)) :=
  evaluate ((Text.split '/' importer.toList).dropLast ++ Text.split '/' target.toList)

/-- The paths that a place may stand for, the preferred one first. -/
def spellings (place : String) : List String :=
  [place, place ++ ".ts", place ++ ".tsx", place ++ ".js", place ++ ".jsx", place ++ ".py",
    place ++ "/index.ts", place ++ "/index.tsx", place ++ "/index.js", place ++ "/index.jsx",
    place ++ "/index.py"]

/-- Ways to write a slash that lead nowhere else. -/
inductive Detour : String → Prop where
  | empty : Detour "//"
  | dot : Detour "/./"
  | back (name : String) (h : IsName name.toList) : Detour ("/" ++ name ++ "/../")

/-! ## Imports -/

theorem head_of_isRelative {target : List Char} (h : isRelative target = true) :
    target.head? = some '.' := by
  cases target with
  | nil => cases h
  | cons c target =>
    have hstart : '.' = c ∧ ['/'] <+: target ∨ '.' = c ∧ ['.', '/'] <+: target := by
      simpa [isRelative] using h
    rcases hstart with ⟨rfl, -⟩ | ⟨rfl, -⟩ <;> rfl

/-- Whether an import is relative shows up to its first slash. -/
theorem isRelative_append (before after other : List Char) :
    isRelative (before ++ '/' :: after) = isRelative (before ++ '/' :: other) := by
  match before with
  | [] => rfl
  | [_] => rfl
  | [_, _] => rfl
  | _ :: _ :: _ :: _ => rfl

theorem isRelative_of_resolve {target importer found : String} {known : String → Bool}
    (h : resolve target importer known = some found) : isRelative target.toList = true := by
  by_contra hrelative
  rw [resolve, if_neg hrelative] at h
  cases h

theorem resolve_of_not_relative {target : String} (h : isRelative target.toList = false)
    (importer : String) (known : String → Bool) : resolve target importer known = none := by
  rw [resolve, if_neg (Bool.not_eq_true _ ▸ h)]

/-! ## Places -/

theorem withSlashes_of_notMem {path : List Char} (h : '\\' ∉ path) : withSlashes path = path := by
  have hid : ∀ c ∈ path, (if c = '\\' then '/' else c) = id c := by
    intro c hc
    have hne : c ≠ '\\' := by
      rintro rfl
      exact h hc
    exact if_neg hne
  rw [withSlashes, map_congr_left hid, map_id]

theorem escapes_written {segments : List (List Char)} (h : ∀ s ∈ segments, IsName s) :
    escapes (written segments) = false := by
  by_cases hne : segments = []
  · rw [hne]
    rfl
  have hdots : ['.', '.'] ∉ segments := fun hm => (h _ hm).2.2.2 rfl
  have hsplit := split_join_names h hne
  rw [written_names h hne, escapes, Bool.or_eq_false_iff]
  constructor
  · apply beq_eq_false_iff_ne.mpr
    intro htext
    rw [htext] at hsplit
    exact hdots (hsplit ▸ mem_cons_self)
  · apply Bool.eq_false_iff.mpr
    intro hprefix
    have hstart : ['.', '.', '/'] <+: Text.join ['/'] segments := by simpa using hprefix
    obtain ⟨rest, hrest⟩ := hstart
    have hcut := split_append_cons ['.', '.'] rest
    change Text.split '/' (['.', '.', '/'] ++ rest) = _ at hcut
    rw [hrest, hsplit] at hcut
    exact hdots (hcut ▸ mem_append_left _ mem_cons_self)

variable {target importer : String}

/-- The import as a path from the top. -/
theorem destination_eq (himporter : Canonical importer.toList)
    (hrelative : isRelative target.toList = true) :
    ∃ path : List Char, path.head? ≠ some '/' ∧
      place target.toList importer.toList = normalise path ∧
      destination target importer = evaluate (Text.split '/' path) := by
  have hhead : target.toList.head? ≠ some '/' := by
    rw [head_of_isRelative hrelative]
    decide
  have hsolid : ∀ s ∈ Text.split '/' importer.toList, s ≠ [] :=
    fun s hs => (himporter.1 s hs).2.1
  obtain ⟨hsplit, hroot⟩ := split_join_directory hsolid hhead
  refine ⟨_, hroot, ?_, ?_⟩
  · rw [place, withSlashes_of_notMem himporter.2]
  · rw [destination, hsplit]

/-- Resolution looks at nothing but the destination. -/
theorem resolve_eq (himporter : Canonical importer.toList)
    (hrelative : isRelative target.toList = true) (known : String → Bool) :
    resolve target importer known = (destination target importer).bind fun segments =>
      ((candidates (written segments)).map String.ofList).find? known := by
  obtain ⟨path, hroot, hplace, hdestination⟩ := destination_eq himporter hrelative
  rw [resolve, if_pos hrelative, hplace, hdestination]
  dsimp only
  cases h : evaluate (Text.split '/' path) with
  | none =>
    have hescapes : escapes (normalise path) = true := by
      rcases normalise_of_none hroot h with hn | ⟨rest, hn⟩
      · rw [hn]
        rfl
      · rw [hn]
        rfl
    rw [if_pos hescapes]
    rfl
  | some segments =>
    have hescapes : ¬ escapes (normalise path) = true := by
      rw [normalise_of_some hroot h, escapes_written (isName_of_evaluate h)]
      exact Bool.false_ne_true
    rw [if_neg hescapes, normalise_of_some hroot h]
    rfl

/-- The place itself stands among its spellings once more, which changes no search. -/
theorem find?_candidates {place : List Char}
    (hsolid : ∀ segment ∈ Text.split '/' place, segment ≠ []) (known : String → Bool) :
    ((candidates place).map String.ofList).find? known =
      (spellings (String.ofList place)).find? known := by
  have hextension : ∀ e : String,
      String.ofList (place ++ e.toList) = String.ofList place ++ e := by
    intro e
    rw [String.ofList_append, String.ofList_toList]
  have hindex : ∀ e : String, String.ofList (Path.join place ("index".toList ++ e.toList)) =
      String.ofList place ++ ("/index" ++ e) := by
    intro e
    have hslash : '/' :: ("index".toList ++ e.toList) = ("/index" ++ e).toList := by
      rw [String.toList_append]
      rfl
    rw [join_of_solid hsolid (by simp), hslash, hextension]
  have hall : (candidates place).map String.ofList =
      String.ofList place :: sourceExtensions.map (fun e => String.ofList place ++ e) ++
        (sourceExtensions.filter (· != "")).map
          fun e => String.ofList place ++ ("/index" ++ e) := by
    simp only [candidates, map_append, map_cons, map_map, Function.comp_def, hextension, hindex]
  rw [hall]
  generalize String.ofList place = place
  by_cases hplace : known place = true
  · simp [spellings, hplace]
  · have hskip : ∀ front rest, (front ++ place :: rest).find? known =
        (front ++ rest).find? known := by
      intro front rest
      rw [find?_append, find?_cons_of_neg hplace, find?_append]
    simpa [spellings, sourceExtensions, hplace] using
      hskip [place ++ ".ts", place ++ ".tsx", place ++ ".js", place ++ ".jsx", place ++ ".py"]
        [place ++ "/index.ts", place ++ "/index.tsx", place ++ "/index.js",
          place ++ "/index.jsx", place ++ "/index.py"]

/-! ## Detours -/

/-- Between its slashes a detour leads from every place back to it. -/
theorem Detour.leads_back {detour : String} (h : Detour detour) :
    ∃ middle : List Char, detour.toList = '/' :: (middle ++ ['/']) ∧
      ∀ place, (Text.split '/' middle).foldlM enter place = some place := by
  cases h with
  | empty => exact ⟨[], rfl, fun _ => rfl⟩
  | dot => exact ⟨['.'], rfl, fun _ => rfl⟩
  | back name hname =>
    refine ⟨name.toList ++ '/' :: ['.', '.'], by simp, ?_⟩
    intro place
    rw [split_append_cons, split_of_notMem hname.1]
    change (enter place name.toList).bind (fun next => enter next ['.', '.'] >>= some) = _
    rw [enter_name hname, Option.bind_some, enter_dots_concat]
    rfl

theorem destination_detour {before after detour : String} (h : Detour detour)
    (importer : String) :
    destination (before ++ detour ++ after) importer =
      destination (before ++ "/" ++ after) importer := by
  obtain ⟨middle, hdetour, hback⟩ := h.leads_back
  have hlong : (before ++ detour ++ after).toList =
      before.toList ++ '/' :: (middle ++ '/' :: after.toList) := by
    simp [hdetour]
  have hshort : (before ++ "/" ++ after).toList = before.toList ++ '/' :: after.toList := by
    simp
  rw [destination, destination, hlong, hshort]
  simp only [split_append_cons, ← append_assoc]
  exact evaluate_insert hback _ _

theorem isRelative_detour {before after detour : String} (h : Detour detour) :
    isRelative (before ++ detour ++ after).toList =
      isRelative (before ++ "/" ++ after).toList := by
  obtain ⟨middle, hdetour, -⟩ := h.leads_back
  simpa [hdetour] using isRelative_append before.toList (middle ++ '/' :: after.toList) after.toList

/-- Resolution is evaluation of segments. An import that leaves the top leads nowhere, any other
one to the first file among the spellings of its place, and detours make no difference. -/
structure BySegments (target importer : String) : Prop where
  outside : destination target importer = none → ∀ known, resolve target importer known = none
  inside : ∀ segments, destination target importer = some segments → segments ≠ [] →
    ∀ known, resolve target importer known =
      (spellings (String.ofList (Text.join ['/'] segments))).find? known
  detour : ∀ before after, target = before ++ "/" ++ after → ∀ detour, Detour detour →
    ∀ known, resolve (before ++ detour ++ after) importer known = resolve target importer known

theorem resolve_bySegments (himporter : Canonical importer.toList)
    (hrelative : isRelative target.toList = true) : BySegments target importer := by
  refine ⟨?_, ?_, ?_⟩
  · intro h known
    rw [resolve_eq himporter hrelative, h]
    rfl
  · intro segments h hne known
    obtain ⟨path, -, -, hpath⟩ := destination_eq himporter hrelative
    have hnames := isName_of_evaluate (hpath.symm.trans h)
    rw [resolve_eq himporter hrelative, h, Option.bind_some, written_names hnames hne]
    apply find?_candidates
    rw [split_join_names hnames hne]
    exact fun s hs => (hnames s hs).2.1
  · rintro before after rfl detour hdetour known
    have hlong := (isRelative_detour hdetour).trans hrelative
    rw [resolve_eq himporter hlong, resolve_eq himporter hrelative, destination_detour hdetour]

theorem resolve_bySegments_util :
    Canonical "src/app/main.ts".toList ∧ isRelative "../lib/./util".toList = true ∧
      isRelative "../../../util".toList = true ∧
      (∀ known, resolve "../lib/./util" "src/app/main.ts" known =
        (spellings "src/lib/util").find? known) ∧
      (∀ known, resolve "../app/../lib/./util" "src/app/main.ts" known =
        resolve "../lib/./util" "src/app/main.ts" known) ∧
      ∀ known, resolve "../../../util" "src/app/main.ts" known = none := by
  have himporter : Canonical "src/app/main.ts".toList := by decide
  have hinside : isRelative "../lib/./util".toList = true := by decide
  have houtside : isRelative "../../../util".toList = true := by decide
  have h := resolve_bySegments himporter hinside
  refine ⟨himporter, hinside, houtside, ?_, ?_, ?_⟩
  · exact h.inside ["src".toList, "lib".toList, "util".toList] (by decide) (by decide)
  · exact h.detour ".." "lib/./util" rfl "/app/../" (.back "app" (by decide))
  · exact (resolve_bySegments himporter houtside).outside (by decide)

end SourceDigest.Graph
