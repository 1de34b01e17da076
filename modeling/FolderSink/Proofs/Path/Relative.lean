import FolderSink.Proofs.Path.Slash
/-!
Relative paths and resolution on the paths of places. Resolving against an absolute directory
always gives the path of a place (`exists_resolve_eq_ofPlace`), the relative path from a place
to one below it is the names in between (`relative_ofPlace_append`), and distinct places have
distinct paths (`ofPlace_inj`).
-/

namespace FolderSink

namespace Path

/-- Places of entry names are told apart by their paths. -/
theorem ofPlace_inj {P Q : Place} (hP : ∀ n ∈ P, IsName n) (hQ : ∀ n ∈ Q, IsName n) :
    ofPlace P = ofPlace Q ↔ P = Q := by
  constructor
  · intro h
    rw [← normalNames_names_ofPlace hP, ← normalNames_names_ofPlace hQ, h]
  · rintro rfl
    rfl

/-- Resolving against an absolute directory gives the path of a place. -/
theorem exists_resolve_eq_ofPlace {cwd : String} (hcwd : isAbsolute cwd = true)
    (ps : List String) : ∃ P, (∀ n ∈ P, IsName n) ∧ resolve cwd ps = ofPlace P := by
  refine ⟨_, normalNames_names ?_, resolve_of_isAbsolute hcwd ps⟩
  intro n hn
  obtain ⟨p, -, hp⟩ := List.mem_flatMap.mp hn
  exact slash_not_mem_of_mem_splitOn hp

theorem relative_common_append (P Q : List String) : relative.common P (P ++ Q) = ([], Q) := by
  induction P with
  | nil => cases Q <;> rfl
  | cons x P ih => simp [relative.common, ih]

/-- The relative path from a place to one below it: the names in between. -/
theorem relative_ofPlace_append (cwd : String) {P Q : Place} (hP : ∀ n ∈ P, IsName n)
    (hQ : ∀ n ∈ Q, IsName n) : relative cwd (ofPlace P) (ofPlace (P ++ Q)) = joinNames Q := by
  have hPQ : ∀ n ∈ P ++ Q, IsName n := List.forall_mem_append.mpr ⟨hP, hQ⟩
  simp only [relative, resolve_ofPlace_against cwd hP, resolve_ofPlace_against cwd hPQ,
    normalNames_names_ofPlace hP, normalNames_names_ofPlace hPQ, relative_common_append]
  simp

end Path

end FolderSink
