import FolderSink.Proofs.Path.Relative
import FolderSink.Proofs.Format.Integers
import FolderSink.Destination.Binding
/-!
Where generated folders go. A folder stamp is an entry name for every moment, valid or not,
and so is a sanitized configuration name that is not empty; so the generated folder is the
path of a place below the default root, one or two levels deeper (`generated_eq_ofPlace`).
Main statement, `generated_folder_within_root`: the relative path from the default root to
the folder is the sanitized name and the stamp, the folder lies strictly inside the root,
two requests under one root share a folder exactly when their names and stamps agree, one
informational line names the folder, an explicit folder is resolved as given, and a
destination takes the configuration's name, else the project's, and is refused without
either.
-/

namespace FolderSink

open FolderSink.Path

section names

/-- No decimal numeral holds a slash. -/
theorem slash_not_mem_toString_nat (n : Nat) : '/' ∉ (toString n).toList := by
  intro h
  have hdigits : '/' ∈ Nat.toDigits 10 n := by simpa [toString, Nat.repr] using h
  obtain ⟨d, hd, hc⟩ := Render.exists_digitChar_of_mem_toDigits (by decide) hdigits
  have key : ∀ d : Fin 10, (d : Nat).digitChar ≠ '/' := by decide
  exact key ⟨d, hd⟩ hc.symm

theorem slash_not_mem_toString_int (i : Int) : '/' ∉ (toString i).toList := by
  cases i with
  | ofNat n => exact slash_not_mem_toString_nat n
  | negSucc n =>
    have h : toString (Int.negSucc n) = "-" ++ toString (n + 1) := rfl
    rw [h, String.toList_append]
    simpa using slash_not_mem_toString_nat (n + 1)

theorem slash_not_mem_padField {s : String} (h : '/' ∉ s.toList) (w : Nat) :
    '/' ∉ (padField s w).toList := by
  simp [padField, h]

theorem slash_not_mem_intercalate {sep : String} (hsep : '/' ∉ sep.toList) :
    ∀ fs : List String, (∀ f ∈ fs, '/' ∉ f.toList) → '/' ∉ (sep.intercalate fs).toList
  | [], _ => by simp
  | [f], h => by simpa using h f (by simp)
  | f :: g :: fs, h => by
    rw [String.intercalate_cons_cons]
    simp only [String.toList_append, List.mem_append, not_or]
    exact ⟨⟨h f (by simp), hsep⟩,
      slash_not_mem_intercalate hsep (g :: fs) (fun x hx => h x (by simp [hx]))⟩

/-- A folder stamp is an entry name, whatever the moment: its fields hold no slash, and the
underscores between them keep it from being `.` or `..`. -/
theorem isName_folderStamp (now : Option Int) : IsName (folderStamp now) := by
  obtain ⟨f, fs, hstamp, hne, hfields⟩ : ∃ f fs, folderStamp now = "_".intercalate (f :: fs) ∧
      fs ≠ [] ∧ ∀ x ∈ f :: fs, '/' ∉ x.toList := by
    cases now with
    | none =>
      refine ⟨_, _, rfl, by simp, ?_⟩
      have hnan : '/' ∉ "NaN".toList := by decide
      simp [slash_not_mem_padField hnan]
    | some t =>
      refine ⟨_, _, rfl, by simp,
        List.forall_mem_cons.mpr ⟨slash_not_mem_padField (slash_not_mem_toString_int _) 4, ?_⟩⟩
      intro x hx
      simp only [List.mem_cons, List.not_mem_nil, or_false] at hx
      rcases hx with rfl | rfl | rfl | rfl | rfl <;>
        exact slash_not_mem_padField (slash_not_mem_toString_nat _) 2
  have hunder : '_' ∈ (folderStamp now).toList := by
    rw [hstamp, String.intercalate_cons_of_ne_nil hne]
    simp
  refine ⟨?_, ?_, ?_, ?_⟩
  · intro h
    rw [h] at hunder
    simp at hunder
  · intro h
    rw [h] at hunder
    exact absurd hunder (by decide)
  · intro h
    rw [h] at hunder
    exact absurd hunder (by decide)
  · rw [hstamp]
    exact slash_not_mem_intercalate (by decide) _ hfields

theorem isAsciiAlnum_of_mem_sanitizeName {s : String} {c : Char}
    (h : c ∈ (sanitizeName s).toList) : isAsciiAlnum c = true := by
  simp only [sanitizeName, String.toList_ofList, List.mem_filter] at h
  exact h.2

/-- A sanitized name that is not empty is an entry name: it holds letters and digits only. -/
theorem isName_sanitizeName {s : String} (h : sanitizeName s ≠ "") : IsName (sanitizeName s) := by
  have hdot : '.' ∉ (sanitizeName s).toList := fun hc =>
    absurd (isAsciiAlnum_of_mem_sanitizeName hc) (by decide)
  refine ⟨h, ?_, ?_, fun hc => absurd (isAsciiAlnum_of_mem_sanitizeName hc) (by decide)⟩
  · intro he
    rw [he] at hdot
    exact hdot (by decide)
  · intro he
    rw [he] at hdot
    exact hdot (by decide)

end names

namespace PlaceRequest

/-- The default root of a request: its root for generated folders resolved against its
working directory. -/
def root (r : PlaceRequest) : String := Path.resolve r.cwd [r.defaultRoot.getD defaultRootRelative]

/-- The levels of the generated folder below the default root: the sanitized name, left out
when empty, then the stamp. -/
def levels (r : PlaceRequest) : List String :=
  (if sanitizeName r.configName = "" then [] else [sanitizeName r.configName]) ++
    [folderStamp r.now]

variable (r : PlaceRequest)

theorem levels_ne_nil : r.levels ≠ [] := by
  simp [levels]

theorem isName_of_mem_levels : ∀ n ∈ r.levels, IsName n := by
  unfold levels
  split_ifs with h
  · simpa using isName_folderStamp r.now
  · simpa using ⟨isName_sanitizeName h, isName_folderStamp r.now⟩

theorem joinNames_levels : joinNames r.levels = if sanitizeName r.configName = "" then
    folderStamp r.now else sanitizeName r.configName ++ "/" ++ folderStamp r.now := by
  unfold levels
  split_ifs <;> simp [joinNames]

/-- The levels tell the sanitized name and the stamp apart: the stamp is never empty, so a
name that is left out cannot be confused with one that is kept. -/
theorem levels_eq_levels_iff (r₁ r₂ : PlaceRequest) : r₁.levels = r₂.levels ↔
    sanitizeName r₁.configName = sanitizeName r₂.configName ∧ folderStamp r₁.now = folderStamp r₂.now := by
  unfold levels
  split_ifs with h₁ h₂ h₂ <;> simp [h₁, h₂]

/-- A request without an explicit folder takes the generated one. -/
theorem resolve_of_folderDir (h : r.folderDir.getD "" = "") : r.resolve = r.generated := by
  unfold resolve
  split
  · rename_i dir hdir
    rw [hdir] at h
    simp [show dir = "" from h]
  · rfl

/-- The generated folder is the path of the place of the default root, extended by the
levels. -/
theorem generated_eq_ofPlace {P : Place} (hP : ∀ n ∈ P, IsName n) (hroot : r.root = ofPlace P) :
    r.generated.1 = ofPlace (P ++ r.levels) := by
  -- an empty sanitized name is dropped by the join as it is by the levels
  have hjoin : join [r.root, sanitizeName r.configName, folderStamp r.now] = join (r.root :: r.levels) := by
    unfold levels
    split_ifs with h
    · simp [join, h, List.filter_cons]
    · rfl
  show join [r.root, sanitizeName r.configName, folderStamp r.now] = _
  rw [hjoin, hroot]
  exact join_ofPlace_append hP (isName_of_mem_levels r) (levels_ne_nil r)

end PlaceRequest

namespace FolderOptions

/-- The request for the folder of the configuration `name`. -/
def request (o : FolderOptions) (name : String) : PlaceRequest :=
  ⟨o.folderDir, name, o.cwd, o.defaultRoot, o.now⟩

variable (o : FolderOptions)

/-- A destination takes the configuration's name when there is one, else the project's. -/
theorem destination_of_name {projectName configName : Option String} {n : String}
    (h : (configName <|> projectName) = some n) : o.destination projectName configName =
      .ok (⟨(o.request n).resolve.1, o.atomic⟩, (o.request n).resolve.2) := by
  simp only [destination, h]
  rfl

theorem destination_eq_error_iff (projectName configName : Option String) (e : Failure) :
    o.destination projectName configName = .error e ↔ configName = none ∧
      projectName = none ∧ e = .config "folder.destination() needs a project name" := by
  cases configName <;> cases projectName <;> simp [destination, eq_comm]

end FolderOptions

section folder

/-- Against an absolute working directory the default root is the path of a place, and the
generated folder is that place extended by the levels. -/
theorem generated_within_root {r : PlaceRequest} (hcwd : isAbsolute r.cwd = true) :
    ∃ P, (∀ n ∈ P, IsName n) ∧ r.root = ofPlace P ∧ r.generated.1 = ofPlace (P ++ r.levels) := by
  obtain ⟨P, hP, hroot⟩ := exists_resolve_eq_ofPlace hcwd [r.defaultRoot.getD defaultRootRelative]
  exact ⟨P, hP, hroot, r.generated_eq_ofPlace hP hroot⟩

/-- Where a destination's folder goes. Without an explicit folder it is generated below the
default root: the relative path to it is the sanitized name (when not empty) and the stamp,
it is the path of a place strictly below the root's, two requests under one root get one
folder exactly when their sanitized names and stamps agree, and a single informational line
names it. An explicit folder is resolved against the working directory and nothing is
reported. A destination takes the configuration's name, else the project's, and is refused
when there is neither. -/
theorem generated_folder_within_root :
    (∀ r : PlaceRequest, isAbsolute r.cwd = true → r.folderDir.getD "" = "" →
      (∀ cwd, relative cwd r.root r.resolve.1 = if sanitizeName r.configName = "" then
        folderStamp r.now else sanitizeName r.configName ++ "/" ++ folderStamp r.now) ∧
      (∃ P Q, (∀ n ∈ P ++ Q, IsName n) ∧ Q ≠ [] ∧ r.root = ofPlace P ∧
        r.resolve.1 = ofPlace (P ++ Q)) ∧
      r.resolve.1 ≠ r.root ∧
      r.resolve.2 = [⟨.info, "Using folder '" ++ r.resolve.1 ++
        "' in default root. Use --folder-dir to override."⟩]) ∧
    (∀ r₁ r₂ : PlaceRequest, isAbsolute r₁.cwd = true → r₁.folderDir.getD "" = "" →
      r₂.folderDir.getD "" = "" → r₁.root = r₂.root →
      (r₁.resolve.1 = r₂.resolve.1 ↔ sanitizeName r₁.configName = sanitizeName r₂.configName ∧
        folderStamp r₁.now = folderStamp r₂.now)) ∧
    (∀ (r : PlaceRequest) (dir : String), r.folderDir = some dir → dir ≠ "" →
      r.resolve = (Path.resolve r.cwd [dir], [])) ∧
    (∀ (o : FolderOptions) (projectName configName : Option String),
      (∀ n, configName = some n ∨ configName = none ∧ projectName = some n →
        o.destination projectName configName =
          .ok (⟨(o.request n).resolve.1, o.atomic⟩, (o.request n).resolve.2)) ∧
      ∀ e, o.destination projectName configName = .error e ↔ configName = none ∧
        projectName = none ∧ e = .config "folder.destination() needs a project name") := by
  refine ⟨fun r hcwd hdir => ?_, fun r₁ r₂ hcwd hdir₁ hdir₂ hroot => ?_,
    fun r dir hdir hne => ?_, fun o p c => ⟨fun n hn => ?_, o.destination_eq_error_iff p c⟩⟩
  · case refine_1 =>
    obtain ⟨P, hP, hroot, hF⟩ := generated_within_root hcwd
    have hQ := r.isName_of_mem_levels
    have hPQ : ∀ n ∈ P ++ r.levels, IsName n := List.forall_mem_append.mpr ⟨hP, hQ⟩
    rw [r.resolve_of_folderDir hdir]
    refine ⟨fun cwd => ?_, ⟨P, r.levels, hPQ, r.levels_ne_nil, hroot, hF⟩, ?_, rfl⟩
    · rw [hroot, hF, relative_ofPlace_append cwd hP hQ, PlaceRequest.joinNames_levels]
    · rw [hroot, hF, Ne, ofPlace_inj hPQ hP]
      intro h
      exact r.levels_ne_nil (by simpa using h)
  · -- both folders extend the one root, so they agree exactly when their levels do
    obtain ⟨P, hP, hroot₁, hF₁⟩ := generated_within_root hcwd
    have hF₂ := r₂.generated_eq_ofPlace hP (hroot.symm.trans hroot₁)
    rw [r₁.resolve_of_folderDir hdir₁, r₂.resolve_of_folderDir hdir₂, hF₁, hF₂,
      ofPlace_inj (List.forall_mem_append.mpr ⟨hP, r₁.isName_of_mem_levels⟩)
        (List.forall_mem_append.mpr ⟨hP, r₂.isName_of_mem_levels⟩),
      List.append_cancel_left_eq, PlaceRequest.levels_eq_levels_iff]
  · simp [PlaceRequest.resolve, hdir, hne]
  · apply o.destination_of_name
    rcases hn with rfl | ⟨rfl, rfl⟩ <;> rfl

/-- The folder generated for `my-config` at the epoch under `/work`. -/
theorem generated_folder_within_root_at_work :
    isAbsolute "/work" = true ∧
      relative "/" (PlaceRequest.root ⟨none, "my-config", "/work", none, some 0⟩)
        (PlaceRequest.resolve ⟨none, "my-config", "/work", none, some 0⟩).1 =
        if sanitizeName "my-config" = "" then folderStamp (some 0)
        else sanitizeName "my-config" ++ "/" ++ folderStamp (some 0) :=
  ⟨by simp [isAbsolute], (generated_folder_within_root.1 ⟨none, "my-config", "/work", none, some 0⟩
    (by simp [isAbsolute]) rfl).1 "/"⟩

end folder

end FolderSink
