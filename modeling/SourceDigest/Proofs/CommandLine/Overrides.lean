import SourceDigest.CommandLine.Arguments

/-! What a request to rank overrides. Its entries come in one order, each at most once, and
patterns that are to be excluded come as one text. -/

namespace SourceDigest.CommandLine

variable {w : World} {s : Sorted} {r : RankRequest} {arguments : List String}

def givenEntry (name : String) (v : Option Value) : List (String × Value) :=
  (v.map fun v => (name, v)).toList

theorem keys_givenEntry (name : String) (v : Option Value) :
    ((givenEntry name v).map (·.1)).Sublist [name] := by
  cases v with
  | none => exact List.nil_sublist _
  | some v => exact List.Sublist.refl _

theorem mem_givenEntry {name : String} {v : Option Value} {entry : String × Value} :
    entry ∈ givenEntry name v ↔ entry.1 = name ∧ v = some entry.2 := by
  cases v with
  | none => simp [givenEntry]
  | some v => simp [givenEntry, Prod.ext_iff, eq_comm]

/-- Options that a request can override, in order. -/
def overridable : List String :=
  ["output_format", "use_ast_analysis", "max_file_size", "exclude_patterns", "include_patterns",
    "include_metadata", "max_tokens", "include_hidden", "verbose", "quiet"]

theorem overrides_of_rankRequest (h : rankRequest? w s = some r) :
    ∃ format maxSize maxTokens : Option Value,
      r.overrides =
        givenEntry "output_format" format ++
          (givenEntry "use_ast_analysis" ((s.switch? "ast").map .bool) ++
          (givenEntry "max_file_size" maxSize ++
          (givenEntry "exclude_patterns" ((s.text? "exclude").map .text) ++
          (givenEntry "include_patterns" ((s.text? "include").map .text) ++
          (givenEntry "include_metadata" ((s.switch? "metadata").map .bool) ++
          (givenEntry "max_tokens" maxTokens ++
          (givenEntry "include_hidden" ((s.switch? "include-hidden").map .bool) ++
            [("verbose", .bool ((s.switch? "verbose").getD false)),
             ("quiet", .bool ((s.switch? "quiet").getD false))]))))))) := by
  simp only [rankRequest?, Option.bind_eq_bind, Option.bind_eq_some_iff] at h
  obtain ⟨format, -, maxSize, -, maxTokens, -, output, -, config, -, hr⟩ := h
  split at hr
  · cases hr
    refine ⟨format.map .text, maxSize.map .int, maxTokens.map .int, ?_⟩
    simp only [givenEntry, List.append_assoc]
  · cases hr

theorem keys_overrides_sublist (h : rankRequest? w s = some r) :
    (r.overrides.map (·.1)).Sublist overridable := by
  obtain ⟨format, maxSize, maxTokens, hr⟩ := overrides_of_rankRequest h
  rw [hr]
  simp only [List.map_append]
  exact (keys_givenEntry _ _).append <| (keys_givenEntry _ _).append <|
    (keys_givenEntry _ _).append <| (keys_givenEntry _ _).append <|
    (keys_givenEntry _ _).append <| (keys_givenEntry _ _).append <|
    (keys_givenEntry _ _).append <| (keys_givenEntry _ _).append <| .refl _

theorem nodup_keys_overrides (h : rankRequest? w s = some r) :
    (r.overrides.map (·.1)).Nodup :=
  (show overridable.Nodup by decide).sublist (keys_overrides_sublist h)

theorem text_of_mem_overrides (h : rankRequest? w s = some r) {v : Value}
    (hv : ("exclude_patterns", v) ∈ r.overrides) : ∃ text, v = .text text := by
  obtain ⟨format, maxSize, maxTokens, hr⟩ := overrides_of_rankRequest h
  rw [hr] at hv
  simp [mem_givenEntry] at hv
  obtain ⟨text, -, rfl⟩ := hv
  exact ⟨text, rfl⟩

/-! ## From the arguments -/

theorem exists_of_orHelp {sorted : Option Sorted} {f : Sorted → Option Request}
    (h : orHelp sorted f = .rank r) : ∃ s, f s = some (.rank r) := by
  unfold orHelp at h
  split at h
  · cases h
  · rename_i s
    split at h
    · cases h
    · refine ⟨s, ?_⟩
      cases hf : f s with
      | none => simp [hf] at h
      | some request => simpa [hf] using h

theorem initRequest_ne_rank : initRequest? w s ≠ some (.rank r) := by
  intro h
  simp only [initRequest?, Option.bind_eq_bind, Option.bind_eq_some_iff] at h
  obtain ⟨directory, -, h⟩ := h
  split at h <;> cases h

theorem exists_rankRequest (h : request w arguments = .rank r) :
    ∃ s, rankRequest? w s = some r := by
  have hrank {sorted : Option Sorted}
      (h : orHelp sorted (fun s => (rankRequest? w s).map .rank) = .rank r) :
      ∃ s, rankRequest? w s = some r := by
    obtain ⟨s, hs⟩ := exists_of_orHelp h
    obtain ⟨_, hr, heq⟩ := Option.map_eq_some_iff.mp hs
    cases heq
    exact ⟨s, hr⟩
  unfold request at h
  split at h
  · cases h
  · cases h
  · cases h
  · obtain ⟨s, hs⟩ := exists_of_orHelp h
    exact absurd hs initRequest_ne_rank
  · obtain ⟨s, hs⟩ := exists_of_orHelp h
    split at hs <;> cases hs
  · exact hrank h
  · exact hrank h

end SourceDigest.CommandLine
