import FolderSink.Tree.Writer
import FolderSink.Proofs.Tree.Delete
import FolderSink.Proofs.Tree.Copy
import FolderSink.Proofs.Path.Scope
/-!
Writing an output tree in place. Out of atomic mode a writer makes sure that its folder
exists, deletes below it every entry that its matcher does not keep, and copies the output
tree over what is left.

Main statement, `write_inPlace_overlays`: when the path of the folder and the path of the
output tree lead to their directories whatever happens below the folder, and neither
directory lies in the other, the write succeeds exactly when no entry of the output tree
clashes with what the delete left. It then leaves below the folder the output tree laid over
the pruned folder, and nothing outside the folder changes.
-/

namespace FolderSink

open Disk FolderSink.Path Act

namespace Tree

/-- Where making the folder succeeds, that is all the step does. -/
theorem ensureDestinationDirectory_run {h : Host} {p : String} {d : Disk}
    (hmk : h.disk.mkdirs p = .ok d) :
    (ensureDestinationDirectory p).run.run h = (.ok (), { h with disk := d }) := by
  unfold ensureDestinationDirectory
  rw [run_bind_ok run_disk]
  simp only [hmk]
  rfl

theorem ensureDestinationDirectory_ends {h : Host} {p : String} {d : Disk}
    (hmk : h.disk.mkdirs p = .ok d) : (ensureDestinationDirectory p).Ends h (· = d) :=
  Ends.of_run (ensureDestinationDirectory_run hmk) rfl

end Tree

namespace Writer

variable {w : Writer} {o : String} {excluded : List Utf16} {stamps : Tree.Stamps}

@[simp] theorem write_result {h : Host} :
    ((w.write o excluded stamps).run h).1.2 = ((w.run o excluded stamps).run.run h).1 := rfl

@[simp] theorem write_host {h : Host} :
    ((w.write o excluded stamps).run h).2 = ((w.run o excluded stamps).run.run h).2 := rfl

/-- Out of atomic mode, a writer announces and makes its folder, then deletes in it what is
not excluded and copies the tree in. -/
theorem run_of_not_atomic (hatomic : w.atomic = false) :
    w.run o excluded stamps = (do
      Act.say .progress ("FolderDestination: creating " ++ w.localFolder)
      Tree.ensureDestinationDirectory w.localFolder
      Act.say .progress ("FolderDestination: deleting previous data from " ++ w.localFolder)
      let _ ← Tree.deleteRecursively w.localFolder ⟨Host.workDir, w.localFolder, excluded⟩
      Act.say .progress ("FolderDestination: Copying contents of the workdir to " ++ w.localFolder)
      let _ ← Tree.copyRecursively o w.localFolder) := by
  simp [Writer.run, hatomic]

section inPlace

variable {h : Host} {d₁ : Disk} {QR PR QO PO : Place} {keep : Place → Bool}
  (hloc : w.localFolder = ofPlace QR) (hatomic : w.atomic = false) (hwf : h.disk.Wf)
  (hQR : ∀ n ∈ QR, IsName n) (hQO : ∀ n ∈ QO, IsName n)
  (hmk : h.disk.mkdirs (ofPlace QR) = .ok d₁)
  (hstable : ∀ d, AgreeOutside PR d₁ d → d.LeadsTo QR PR ∧ d.LeadsTo QO PO)
  (hdisj : ¬ PR <+: PO ∧ ¬ PO <+: PR) (hfifo : ∀ y, d₁.get? (PO ++ y) ≠ some .fifo)
  (hkeep : ∀ rel, rel ≠ [] → d₁.get? (PR ++ rel) ≠ none →
    (⟨Host.workDir, ofPlace QR, excluded⟩ : PathMatcher).test (ofPlace (QR ++ rel)) = .ok (keep rel))
include hloc hatomic hwf hQR hQO hmk hstable hdisj hfifo hkeep

variable (excluded stamps keep)

/-- In place, a write overlays the output tree on the pruned folder when nothing clashes,
and fails otherwise. -/
theorem run_inPlace :
    (NoClash (· ≠ []) PO PR (d₁.pruneBelow PR keep) →
      (w.run (ofPlace QO) excluded stamps).Ends h
        (OverlaidAt (· ≠ []) PO PR (d₁.pruneBelow PR keep))) ∧
    (¬ NoClash (· ≠ []) PO PR (d₁.pruneBelow PR keep) →
      (w.run (ofPlace QO) excluded stamps).Fails h) := by
  have hwf₁ : d₁.Wf := hwf.mkdirs hmk
  rw [run_of_not_atomic hatomic, hloc]
  refine (Ends.say _ _).bind_cases fun _ h₁ hd₁ => ?_
  refine (Tree.ensureDestinationDirectory_ends (by rw [hd₁]; exact hmk)).bind_cases
    fun _ h₂ hd₂ => ?_
  refine (Ends.say _ _).bind_cases fun _ h₃ hd₃ => ?_
  -- the delete starts from the disk with the folder made
  obtain ⟨d, c⟩ := h₃
  obtain rfl : d₁ = d := (hd₃.trans hd₂).symm
  refine (Tree.deleteRecursively_prunes (h := ⟨d₁, c⟩) hwf₁ hQR (fun d hd => (hstable d hd).1)
    hkeep).ends.bind_cases fun _ h₄ hpruned => ?_
  refine (Ends.say _ _).bind_cases fun _ h₅ hd₅ => ?_
  -- the copy starts from the pruned folder, which differs from `d₁` only below it
  have hsame : ∀ q, h₅.disk.get? q = (d₁.pruneBelow PR keep).get? q := fun q => by
    rw [hd₅]
    exact hpruned.2 q
  have hagree : AgreeOutside PR d₁ h₅.disk := fun q hq => by
    rw [hsame, get?_pruneBelow, if_neg fun h' => hq h'.1]
  obtain ⟨hok, hfail⟩ := Tree.copyRecursively_overlays (h := h₅) (by rw [hd₅]; exact hpruned.1)
    hQR hQO (fun d hd => hstable d (hagree.trans hd)) hdisj
    (fun y => by rw [← hagree _ (Tree.source_outside hdisj y)]; exact hfifo y)
  have hiff : NoClash (· ≠ []) PO PR h₅.disk ↔ NoClash (· ≠ []) PO PR (d₁.pruneBelow PR keep) :=
    ⟨fun h' => h'.congr (fun y _ => (hsame _).symm) (fun y _ => (hsame _).symm),
      fun h' => h'.congr (fun y _ => hsame _) (fun y _ => hsame _)⟩
  exact ⟨fun hno => (hok (hiff.mpr hno)).ends.bind fun _ h₆ hov =>
      Ends.pure () (hov.congr_left hsame),
    fun hcl => Fails.bind_left (hfail fun h' => hcl (hiff.mp h'))⟩

/-- An in-place write into a folder whose path leads to it whatever happens below it, of an
output tree outside the folder, succeeds exactly when no entry of the tree clashes with what
the matcher keeps in the folder. Then every place below the folder holds what the tree holds
there, or else what the pruned folder holds, and every place outside the folder is as
before. -/
theorem write_inPlace_overlays :
    (((w.write (ofPlace QO) excluded stamps).run h).1.2 = .ok () ↔
      NoClash (· ≠ []) PO PR (d₁.pruneBelow PR keep)) ∧
    (((w.write (ofPlace QO) excluded stamps).run h).1.2 = .ok () →
      (∀ rel, rel ≠ [] → ((w.write (ofPlace QO) excluded stamps).run h).2.disk.get? (PR ++ rel) =
        (d₁.get? (PO ++ rel)).or ((d₁.pruneBelow PR keep).get? (PR ++ rel))) ∧
      ∀ q, ¬ Under PR q → ((w.write (ofPlace QO) excluded stamps).run h).2.disk.get? q =
        d₁.get? q) := by
  rw [write_result, write_host]
  obtain ⟨hok, hfail⟩ := run_inPlace excluded stamps keep hloc hatomic hwf hQR hQO hmk hstable
    hdisj hfifo hkeep
  by_cases hno : NoClash (· ≠ []) PO PR (d₁.pruneBelow PR keep)
  · obtain ⟨a, h', hrun, hov⟩ := hok hno
    rw [hrun]
    refine ⟨iff_of_true rfl hno, fun _ => ⟨fun rel hrel => ?_, fun q hq => ?_⟩⟩
    · -- the output tree is read where the delete changed nothing
      rw [hov.laid rel hrel, get?_pruneBelow,
        if_neg fun h' => Tree.source_outside hdisj rel h'.1]
    · rw [hov.same q fun y hy heq => hq (heq ▸ under_append hy), get?_pruneBelow,
        if_neg fun h' => hq h'.1]
  · obtain ⟨e, h', hrun⟩ := hfail hno
    rw [hrun]
    exact ⟨iff_of_false (by simp) hno, fun hok => by simp at hok⟩

end inPlace

/-- A tree of one file, written into a folder holding an excluded file `k` and another file
`u`: the write succeeds, the new file lands in the folder, `k` stays and `u` is gone. -/
theorem write_inPlace_keeps_excluded :
    let r := ((⟨ofPlace ["dest"], false, .idle⟩ : Writer).write (ofPlace ["o"])
      [Utf16.ofString "k"] ⟨"s", "s"⟩).run
      ⟨⟨[(["dest"], .dir), (["dest", "k"], .file "old" 420), (["dest", "u"], .file "y" 420),
        (["o"], .dir), (["o", "f"], .file "x" 420)]⟩, []⟩
    r.1.2 = .ok () ∧ r.2.disk.get? ["dest", "f"] = some (.file "x" 420) ∧
      r.2.disk.get? ["dest", "k"] = some (.file "old" 420) ∧ r.2.disk.get? ["dest", "u"] = none := by
  set d : Disk := ⟨[(["dest"], .dir), (["dest", "k"], .file "old" 420),
    (["dest", "u"], .file "y" 420), (["o"], .dir), (["o", "f"], .file "x" 420)]⟩
  set keep : Place → Bool := fun rel => rel == ["k"]
  have hwf : d.Wf := ⟨by decide, by decide, by decide, by decide⟩
  -- the tree holds no special file
  have hfifo : ∀ y, d.get? (["o"] ++ y) ≠ some .fifo := by
    intro y hy
    have hmem := mem_of_get? (by simp) hy
    simp [d] at hmem
  -- the pattern `k` keeps the path of its own name and no other
  have hkeep : ∀ rel, rel ≠ [] → d.get? (["dest"] ++ rel) ≠ none →
      (⟨Host.workDir, ofPlace ["dest"], [Utf16.ofString "k"]⟩ : PathMatcher).test
        (ofPlace (["dest"] ++ rel)) = .ok (keep rel) := by
    intro rel _ hne
    obtain ⟨k, hk⟩ := Option.ne_none_iff_exists'.mp hne
    exact PathMatcher.test_of_name _ _ _ (hwf.names_of_get? hk) (by decide) (by decide +kernel)
  -- both paths lead to their directories through the root, whatever is below the folder
  have hstable : ∀ d', AgreeOutside ["dest"] d d' →
      d'.LeadsTo ["dest"] ["dest"] ∧ d'.LeadsTo ["o"] ["o"] := by
    intro d' hd'
    have hdest : d'.get? ["dest"] = some .dir := (hd' ["dest"] (by decide)).symm.trans (by decide)
    have ho : d'.get? ["o"] = some .dir := (hd' ["o"] (by decide)).symm.trans (by decide)
    exact ⟨leadsTo_root_child (by decide) hdest,
      leadsTo_root_child (by decide) ho⟩
  have hmk : d.mkdirs (ofPlace ["dest"]) = .ok d :=
    mkdirs_of_leadsTo (hstable d (AgreeOutside.refl _ _)).1
  obtain ⟨hiff, hover⟩ := write_inPlace_overlays [Utf16.ofString "k"] ⟨"s", "s"⟩ keep
    (w := ⟨ofPlace ["dest"], false, .idle⟩) (h := ⟨d, []⟩) rfl rfl
    hwf (by decide) (by decide) hmk hstable (by decide) hfifo hkeep
  -- the only entry of the tree is `f`, and the pruned folder has nothing there
  have hno : NoClash (· ≠ []) ["o"] ["dest"] (d.pruneBelow ["dest"] keep) := by
    intro y hy o p ho hp
    rw [get?_pruneBelow, if_neg fun h' =>
      Tree.source_outside (show ¬ ["dest"] <+: ["o"] ∧ ¬ ["o"] <+: ["dest"] by decide) y h'.1] at ho
    have hf : y = ["f"] := by
      have hmem := mem_of_get? (by simp) ho
      simp [d] at hmem
      grind
    subst hf
    have : (d.pruneBelow ["dest"] keep).get? ["dest", "f"] = none := by
      rw [get?_pruneBelow]
      split <;> decide
    simp [this] at hp
  have hok := hiff.mpr hno
  have hlaid := (hover hok).1
  exact ⟨hok, (hlaid ["f"] (by simp)).trans (by decide), (hlaid ["k"] (by simp)).trans (by decide),
    (hlaid ["u"] (by simp)).trans (by decide)⟩

end Writer

end FolderSink
