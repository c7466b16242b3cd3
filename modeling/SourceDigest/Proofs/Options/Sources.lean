import SourceDigest.Options.Layers
import SourceDigest.Proofs.Options.Table
import SourceDigest.Proofs.Toml.DistinctKeys

/-! Where options come from. Each source of a run sets some options to values: the table of each of
the three files, the variables of the environment, and the caller with two switches beside plain
values. To load options is to add the layers of these sources one after the other, unless one of
them cannot be read. -/

namespace SourceDigest.Options

/-! ## Steps that may fail -/

theorem ok_bind {ε β γ : Type} (b : β) (f : β → Except ε γ) : (.ok b : Except ε β) >>= f = f b :=
  rfl

theorem bind_eq_ok_iff {ε β γ : Type} {x : Except ε β} {f : β → Except ε γ} {c : γ} :
    x >>= f = .ok c ↔ ∃ b, x = .ok b ∧ f b = .ok c := by
  cases x <;> simp [bind, Except.bind]

theorem map_eq_ok_iff {ε β γ : Type} {x : Except ε β} {f : β → γ} {c : γ} :
    x.map f = .ok c ↔ ∃ b, x = .ok b ∧ f b = c := by
  cases x <;> simp [Except.map]

theorem map_eq_error_iff {ε β γ : Type} {x : Except ε β} {f : β → γ} {e : ε} :
    x.map f = .error e ↔ x = .error e := by
  cases x <;> simp [Except.map]

theorem mapError_eq_ok_iff {ε ε' β : Type} {x : Except ε β} {f : ε → ε'} {b : β} :
    x.mapError f = .ok b ↔ x = .ok b := by
  cases x <;> simp [Except.mapError]

theorem mapError_eq_error_iff {ε ε' β : Type} {x : Except ε β} {f : ε → ε'} {e : ε'} :
    x.mapError f = .error e ↔ ∃ e₀, x = .error e₀ ∧ f e₀ = e := by
  cases x <;> simp [Except.mapError]

/-! ## The files -/

/-- The table that a file sets options with; a file that is not there sets none. -/
def fileTable (bytes : Except PathFault ByteArray) : Layer :=
  match bytes with
  | .ok bytes => ((Toml.ofBytes? bytes).map ownTable).getD []
  | .error _ => []

/-- The table of the file that the caller names. -/
def namedTable (w : World) (file : Option String) : Layer :=
  match file with
  | some path => fileTable (w.read (String.ofList (Path.tidy path.toList)))
  | none => []

theorem nodup_keys_fileTable (bytes : Except PathFault ByteArray) :
    ((fileTable bytes).map (·.1)).Nodup := by
  unfold fileTable
  split
  · rename_i data
    cases htable : Toml.ofBytes? data with
    | none => exact List.nodup_nil
    | some entries => exact nodup_keys_ownTable htable
  · exact List.nodup_nil

theorem nodup_keys_namedTable (w : World) (file : Option String) :
    ((namedTable w file).map (·.1)).Nodup := by
  unfold namedTable
  split
  · exact nodup_keys_fileTable _
  · exact List.nodup_nil

/-! ## The environment -/

def variableSetting (environment : List (String × String)) (name : String) : Option Value :=
  (environment.lookup (variableOf name)).bind fun text => (readText name text).toOption

/-- The settings of all variables, in the order of the options. -/
def variableLayer (environment : List (String × String)) (wanted : List String) : Layer :=
  wanted.filterMap fun name => (variableSetting environment name).map fun v => (name, v)

theorem variableLayer_append (environment : List (String × String)) (first rest : List String) :
    variableLayer environment (first ++ rest) =
      variableLayer environment first ++ variableLayer environment rest :=
  List.filterMap_append

/-- Adds what the variable of one option sets. -/
def noteVariable (environment : List (String × String)) (found : Layer) (name : String) :
    Except VariableFault Layer :=
  match environment.lookup (variableOf name) with
  | none => .ok found
  | some text =>
    match readText name text with
    | .ok v => .ok (found ++ [(name, v)])
    | .error fault => .error ⟨variableOf name, fault⟩

theorem noteVariable_eq_ok {environment : List (String × String)} {found next : Layer}
    {name : String} (h : noteVariable environment found name = .ok next) :
    next = found ++ variableLayer environment [name] := by
  unfold noteVariable at h
  split at h
  · rename_i hnone
    cases h
    simp [variableLayer, variableSetting, hnone]
  · rename_i text htext
    split at h
    · rename_i v hv
      cases h
      simp [variableLayer, variableSetting, htext, hv, Except.toOption]
    · cases h

theorem foldlM_noteVariable_eq_ok {environment : List (String × String)} {wanted : List String}
    {found settings : Layer} (h : wanted.foldlM (noteVariable environment) found = .ok settings) :
    settings = found ++ variableLayer environment wanted := by
  induction wanted generalizing found with
  | nil =>
    cases h
    exact (List.append_nil _).symm
  | cons name rest ih =>
    rw [List.foldlM_cons, bind_eq_ok_iff] at h
    obtain ⟨next, hnext, hrest⟩ := h
    rw [ih hrest, noteVariable_eq_ok hnext, List.append_assoc, ← variableLayer_append]
    rfl

theorem ofEnvironment_eq_ok {environment : List (String × String)} {settings : Layer}
    (h : ofEnvironment environment = .ok settings) :
    settings = variableLayer environment names :=
  foldlM_noteVariable_eq_ok h

theorem noteVariable_of_reads {environment : List (String × String)} {name : String}
    (h : ∀ text, environment.lookup (variableOf name) = some text →
      ∃ v, readText name text = .ok v) (found : Layer) :
    noteVariable environment found name = .ok (found ++ variableLayer environment [name]) := by
  unfold noteVariable
  cases htext : environment.lookup (variableOf name) with
  | none => simp [variableLayer, variableSetting, htext]
  | some text =>
    obtain ⟨v, hv⟩ := h text htext
    simp [variableLayer, variableSetting, htext, hv, Except.toOption]

theorem foldlM_noteVariable_of_reads {environment : List (String × String)} {wanted : List String}
    (h : ∀ name ∈ wanted, ∀ text, environment.lookup (variableOf name) = some text →
      ∃ v, readText name text = .ok v) (found : Layer) :
    wanted.foldlM (noteVariable environment) found =
      .ok (found ++ variableLayer environment wanted) := by
  induction wanted generalizing found with
  | nil =>
    rw [List.foldlM_nil, variableLayer, List.filterMap_nil, List.append_nil]
    rfl
  | cons name rest ih =>
    obtain ⟨hname, hrest⟩ := List.forall_mem_cons.mp h
    rw [List.foldlM_cons, noteVariable_of_reads hname, ok_bind, ih hrest, List.append_assoc,
      ← variableLayer_append]
    rfl

/-- An environment whose texts can all be read gives a layer. -/
theorem ofEnvironment_of_reads {environment : List (String × String)}
    (h : ∀ name ∈ names, ∀ text, environment.lookup (variableOf name) = some text →
      ∃ v, readText name text = .ok v) :
    ofEnvironment environment = .ok (variableLayer environment names) :=
  foldlM_noteVariable_of_reads h []

theorem mem_variableLayer {environment : List (String × String)} {wanted : List String}
    {name : String} {v : Value} :
    (name, v) ∈ variableLayer environment wanted ↔
      name ∈ wanted ∧ variableSetting environment name = some v := by
  rw [variableLayer, List.mem_filterMap]
  constructor
  · rintro ⟨_, hname, hsetting⟩
    obtain ⟨_, hv, heq⟩ := Option.map_eq_some_iff.mp hsetting
    cases heq
    exact ⟨hname, hv⟩
  · rintro ⟨hname, hv⟩
    exact ⟨name, hname, by rw [hv]; rfl⟩

theorem keys_variableLayer_sublist (environment : List (String × String)) (wanted : List String) :
    ((variableLayer environment wanted).map (·.1)).Sublist wanted := by
  induction wanted with
  | nil => exact .slnil
  | cons name rest ih =>
    rw [variableLayer, List.filterMap_cons]
    cases variableSetting environment name with
    | none => exact ih.cons name
    | some v => exact ih.cons_cons name

theorem nodup_keys_variableLayer (environment : List (String × String)) :
    ((variableLayer environment names).map (·.1)).Nodup :=
  nodup_names.sublist (keys_variableLayer_sublist environment names)

theorem lookup_variableLayer (environment : List (String × String)) {name : String}
    (h : name ∈ names) :
    (variableLayer environment names).lookup name = variableSetting environment name := by
  apply Option.ext
  intro v
  rw [Keyed.lookup_eq_some_iff (nodup_keys_variableLayer environment), mem_variableLayer]
  exact and_iff_right h

/-! ## The caller -/

def isOn (overrides : Layer) (switch : String) : Bool :=
  ((overrides.lookup switch).map Value.isSet).getD false

def unlessNull (v : Option Value) : Option Value :=
  match v with
  | some .null => none
  | v => v

/-- What the caller sets an option to: the amount of messages by its switches, the quiet one first,
and any option by a value that is something. -/
def callerSetting (overrides : Layer) (name : String) : Option Value :=
  if name = "verbosity" ∧ isOn overrides "quiet" = true then some (.text "quiet")
  else if name = "verbosity" ∧ isOn overrides "verbose" = true then some (.text "verbose")
  else unlessNull (overrides.lookup name)

def switchEntries (overrides : Layer) : Layer :=
  (if isOn overrides "verbose" then [("verbosity", .text "verbose")] else []) ++
    (if isOn overrides "quiet" then [("verbosity", .text "quiet")] else [])

def isSetting (entry : String × Value) : Bool :=
  entry.1 != "verbose" && entry.1 != "quiet" &&
    match entry.2 with
    | .null => false
    | _ => true

theorem callerLayer_eq (overrides : Layer) :
    callerLayer overrides = overrides.filter isSetting ++ switchEntries overrides := by
  unfold callerLayer switchEntries isOn
  dsimp only
  rw [List.filter_append, List.filter_filter]
  congr 1
  · apply List.filter_congr
    intro entry _
    exact Bool.and_comm _ _
  · cases ((overrides.lookup "verbose").map Value.isSet).getD false <;>
      cases ((overrides.lookup "quiet").map Value.isSet).getD false <;> rfl

theorem lookup_switchEntries (overrides : Layer) (name : String) :
    (switchEntries overrides).reverse.lookup name =
      if name = "verbosity" ∧ isOn overrides "quiet" = true then some (.text "quiet")
      else if name = "verbosity" ∧ isOn overrides "verbose" = true then some (.text "verbose")
      else none := by
  unfold switchEntries
  by_cases hname : name = "verbosity" <;> cases isOn overrides "quiet" <;>
    cases isOn overrides "verbose" <;> simp [hname, Keyed.lookup_cons_eq]

theorem lookup_filter_isSetting {overrides : Layer} (hkeys : (overrides.map (·.1)).Nodup)
    {name : String} (h : name ∈ names) :
    (overrides.filter isSetting).lookup name = unlessNull (overrides.lookup name) := by
  have hswitch : name ≠ "verbose" ∧ name ≠ "quiet" := by
    constructor <;> rintro rfl <;> revert h <;> decide
  rw [Keyed.lookup_filter hkeys]
  cases overrides.lookup name with
  | none => rfl
  | some v => cases v <;> simp [isSetting, hswitch, unlessNull]

theorem lookup_callerLayer {overrides : Layer} (hkeys : (overrides.map (·.1)).Nodup)
    {name : String} (h : name ∈ names) :
    (callerLayer overrides).reverse.lookup name = callerSetting overrides name := by
  have hfilter : ((overrides.filter isSetting).map (·.1)).Nodup :=
    hkeys.sublist (List.filter_sublist.map _)
  rw [callerLayer_eq, List.reverse_append, List.lookup_append, lookup_switchEntries,
    Keyed.lookup_reverse hfilter, lookup_filter_isSetting hkeys h, callerSetting]
  split
  · rfl
  · split
    · rfl
    · rfl

theorem lookup_callerLayer_excludes {overrides : Layer} (hkeys : (overrides.map (·.1)).Nodup) :
    (callerLayer overrides).lookup "exclude_patterns" =
      callerSetting overrides "exclude_patterns" := by
  have hswitches : (switchEntries overrides).lookup "exclude_patterns" = none := by
    unfold switchEntries
    cases isOn overrides "quiet" <;> cases isOn overrides "verbose" <;> rfl
  rw [callerLayer_eq, List.lookup_append, hswitches, Option.or_none,
    lookup_filter_isSetting hkeys (by decide)]
  rfl

end SourceDigest.Options
