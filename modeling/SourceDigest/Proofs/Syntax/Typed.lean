import Mathlib.Data.List.Infix
import SourceDigest.Proofs.Syntax.Order

/-! Walks with and without types. Two walks over one tree that differ in nothing but `typed` keep
step: what an untyped walk reads, a typed walk reads in the same way, and interfaces, type aliases
and names come on top. -/

namespace SourceDigest.Syntax

open List

variable {α : Type} {start typed untyped : Metrics α}

/-- Metrics of a typed and of an untyped walk that started from the same ones. They agree in
what both read; of the rest the untyped ones are as they were at the start, and the typed ones
have the names of the start before all others. -/
structure KeepsStep (start typed untyped : Metrics α) : Prop where
  importCount : typed.importCount = untyped.importCount
  exportCount : typed.exportCount = untyped.exportCount
  functionCount : typed.functionCount = untyped.functionCount
  classCount : typed.classCount = untyped.classCount
  publicMethods : typed.publicMethods = untyped.publicMethods
  complexity : typed.complexity = untyped.complexity
  dependencies : typed.dependencies = untyped.dependencies
  untyped_interfaceCount : untyped.interfaceCount = start.interfaceCount
  untyped_typeCount : untyped.typeCount = start.typeCount
  untyped_exports : untyped.exports = start.exports
  exports_prefix : start.exports <+: typed.exports

theorem KeepsStep.refl (start : Metrics α) : KeepsStep start start start :=
  ⟨rfl, rfl, rfl, rfl, rfl, rfl, rfl, rfl, rfl, rfl, prefix_rfl⟩

variable [Scalar α]

/-- A node of any kind adds the same to both, wherever the flag sends it. -/
theorem KeepsStep.visit (h : KeepsStep start typed untyped) (parent : Option Node) (node : Node) :
    KeepsStep start (visit true parent node typed) (visit false parent node untyped) := by
  rw [visit_eq, visit_eq]
  refine ⟨?_, ?_, ?_, ?_, ?_, ?_, ?_, ?_, ?_, ?_, ?_⟩
  · exact congrArg (· + countOf .importing node) h.importCount
  · exact congrArg (· + countOf .exporting node) h.exportCount
  · exact congrArg (· + countOf .function node) h.functionCount
  · exact congrArg (· + countOf .classLike node) h.classCount
  · exact congrArg (· + publicOf parent node) h.publicMethods
  · exact congrArg ((pointsOf node).foldl (· + Scalar.ofInt ·)) h.complexity
  · exact congrArg (· ++ importOf node) h.dependencies
  · exact (Int.add_zero _).trans h.untyped_interfaceCount
  · exact (Int.add_zero _).trans h.untyped_typeCount
  · exact (append_nil _).trans h.untyped_exports
  · exact h.exports_prefix.trans (prefix_append _ _)

theorem KeepsStep.foldl_visit (h : KeepsStep start typed untyped) (visits : List Pending) :
    KeepsStep start (visits.foldl (fun m p => Syntax.visit true p.2 p.1 m) typed)
      (visits.foldl (fun m p => Syntax.visit false p.2 p.1 m) untyped) := by
  induction visits generalizing typed untyped with
  | nil => exact h
  | cons p visits ih => exact ih (h.visit p.2 p.1)

/-- The walks over a tree with and without types agree in what both read. -/
theorem walk_keepsStep (root : Node) (m : Metrics α) :
    KeepsStep m (walk true root m) (walk false root m) := by
  rw [walk_eq_foldl, walk_eq_foldl]
  exact (KeepsStep.refl m).foldl_visit (visits root)

end SourceDigest.Syntax
