import FolderSink.Proofs.Tree.Swap
import FolderSink.Proofs.Tree.InPlace
import FolderSink.Proofs.Tree.Conflict
/-!
A write stays in its folder. However a write ends, it changes nothing outside the directory
`PR` that the folder's path leads to, besides the missing directories that making the folder
creates on the way down to `PR`. This needs the folder's path to lead to `PR` whatever happens
below `PR`, and in atomic mode the real path the write computes to name `PR` and the hidden
siblings it uses to be free. Main statements:

* `deleteRecursively_stays`, `copyRecursively_stays_via`: deleting and copying through the
  folder's path stay strictly below `PR`, whatever the matcher and the source;
* `stagedWrite_confined`: the staged write swaps or fails, and either way changes only what
  is strictly below `PR`;
* `write_confined_to_folder`: the whole write, in either mode and with any outcome.

Links below the folder or in the output tree are never written through: every change is at a
place strictly below `PR`, so the output tree and a link target outside the folder keep their
content.
-/

namespace FolderSink

namespace Tree

open Disk FolderSink.Path Act

section via

variable {h : Host} {QR PR : Place} (hwf : h.disk.Wf) (hQR : ∀ n ∈ QR, IsName n)
  (hstable : ∀ d, SameOff (Under PR) h.disk d → d.LeadsTo QR PR)
include hwf hQR hstable

/-- Deleting below the folder through its path changes nothing but what is strictly below
`PR`, whatever the matcher answers and however the delete ends. -/
theorem deleteRecursively_stays (m : PathMatcher) :
    (deleteRecursively (ofPlace QR) m).Stays h (SameOff (Under PR) h.disk) := by
  unfold deleteRecursively
  refine Stays.run_bind run_disk ?_
  simpa using (delete_via (m := m) hQR hstable _).1 [] h (SameOff.refl hwf _) (by simp)
    (fun x hx hpre => absurd (List.prefix_nil.mp hpre) hx)

/-- Copying into the folder through its path changes nothing but what is strictly below `PR`,
whatever the source and however the copy ends. -/
theorem copyRecursively_stays_via (src : String) :
    (copyRecursively src (ofPlace QR)).Stays h (SameOff (Under PR) h.disk) := by
  unfold copyRecursively
  refine Stays.run_bind (run_change_ok (mkdirs_of_leadsTo (hstable _ (SameOff.refl hwf _)))) ?_
  refine Stays.run_bind run_disk ?_
  simpa using (copy_via hQR hstable _).1 [] src _ (SameOff.refl hwf _) (by simp)
    (fun x hx hpre => absurd (List.prefix_nil.mp hpre) hx)

end via

/-- A folder that cannot be made is not made: making it fails with the host as it was. -/
theorem ensureDestinationDirectory_unmade {h : Host} {Q : Place} (hQ : ∀ m ∈ Q, IsName m)
    {e : SysError} (hmk : h.disk.mkdirs (ofPlace Q) = .error e) :
    ∃ f, (ensureDestinationDirectory (ofPlace Q)).run.run h = (.error f, h) := by
  unfold ensureDestinationDirectory
  rw [run_bind_ok run_disk]
  simp only [hmk]
  split
  · -- the walk down to the folder only reads
    rcases hf : (findNonDirectory (ofPlace Q)).run.run h with ⟨r, h₁⟩
    obtain ⟨rfl, -⟩ := findNonDirectory_sound hQ hf
    rcases r with e' | _ | p
    · exact ⟨e', run_bind_error hf⟩
    · exact ⟨_, by rw [run_bind_ok hf]; rfl⟩
    · exact ⟨_, by rw [run_bind_ok hf]; rfl⟩
  · exact ⟨_, rfl⟩

/-- A staged write whose real path names a directory `PR` with free siblings swaps or fails,
and either way changes nothing but what is strictly below `PR`: the build works at the staging
sibling, the swap puts what it built at `PR`, and a failed build is removed. -/
theorem stagedWrite_confined {h : Host} {root outputTree : String} {stamps : Stamps} {keep : PathMatcher}
    {PR : Place} (hwf : h.disk.Wf) (hPR : PR ≠ []) (hR : h.disk.get? PR = some .dir)
    (hreal : h.disk.realpath root = .ok (ofPlace PR)) 
    (hstamps : '/' ∉ stamps.staging.toList ∧ '/' ∉ stamps.previous.toList)
    (hfree : h.disk.get? (siblingPlace PR "staging" stamps.staging) = none ∧
      h.disk.get? (siblingPlace PR "previous" stamps.previous) = none) :
    ∃ r h', (stagedWrite root outputTree keep stamps).run.run h = (r, h') ∧
      r ≠ .ok .unsupported ∧ ∀ q, ¬ Under PR q → h'.disk.get? q = h.disk.get? q := by
  obtain ⟨P₀, b, rfl, hP₀, hb, hP₀dir⟩ := hwf.parent_of_get? hPR hR
  obtain ⟨hs, hsibS⟩ := sibling_beside hP₀ hb (show '/' ∉ "staging".toList by simp) hstamps.1
  have hS : siblingPlace (P₀ ++ [b]) "staging" stamps.staging ≠ [] := by simp [siblingPlace_append hb]
  have hSn : ∀ n ∈ siblingPlace (P₀ ++ [b]) "staging" stamps.staging, IsName n := by
    rw [siblingPlace_append hb]
    exact List.forall_mem_append.mpr ⟨hP₀, by simpa using hs⟩
  have hpar : h.disk.get? (siblingPlace (P₀ ++ [b]) "staging" stamps.staging).dropLast = some .dir := by
    simpa [siblingPlace_append hb] using hP₀dir
  rcases hbuild : (buildStaging root outputTree keep
      (ofPlace (siblingPlace (P₀ ++ [b]) "staging" stamps.staging))).run.run h with ⟨_ | _, h₁⟩
  · -- the build failed: the staged write gives every place back
    obtain ⟨h', hsw, hsame⟩ := stagedWrite_of_build_failure hwf hstamps.1 hreal
      (by rw [hsibS, lstat?_child hP₀ hs (leadsTo_self hwf hP₀dir), ← siblingPlace_append hb,
        hfree.1])
      (show ((buildStaging root outputTree keep
        (siblingPath (ofPlace (P₀ ++ [b])) "staging" stamps.staging)).run.run h).1 = .error _ by
          rw [hsibS, ← siblingPlace_append hb, hbuild])
    exact ⟨_, h', hsw, by simp, fun q _ => hsame q⟩
  · -- the build left a directory at the staging place and nothing else changed
    have hbelow := buildStaging_stays_below root outputTree keep hwf hS hSn hpar hfree.1
    unfold Stays at hbelow
    rw [hbuild] at hbelow
    have hS₁ : h₁.disk.get? (siblingPlace (P₀ ++ [b]) "staging" stamps.staging) = some .dir := by
      rw [hbelow.2 _ fun hU => hU.2 rfl, get?_put hS, if_pos rfl]
    have hbuilt : SameOff (siblingPlace (P₀ ++ [b]) "staging" stamps.staging <+: ·) h.disk h₁.disk :=
      ⟨hbelow.1, fun q hq => by
        rw [hbelow.2 q fun hU => hq hU.1, get?_put hS,
          if_neg fun (he : q = _) => hq (he ▸ List.prefix_refl _)]⟩
    obtain ⟨d', hsw, -, hagree, -⟩ := stagedWrite_swaps hwf hP₀ hb hstamps hreal hP₀dir hR hfree
      hbuild hbuilt hS₁
    exact ⟨_, _, hsw, by simp, fun q hq => (hagree q hq).symm⟩

end Tree

namespace Writer

open Act FolderSink.Tree Disk FolderSink.Path

variable {w : Writer} {o : String} {excluded : List Utf16} {stamps : Tree.Stamps} {h : Host}
  {d₁ : Disk} {QR PR : Place}

/-- A write whose folder cannot be made fails there, with the disk as it was. -/
theorem run_of_unmade (hloc : w.localFolder = ofPlace QR) (hQR : ∀ n ∈ QR, IsName n)
    {e : SysError} (hmk : h.disk.mkdirs (ofPlace QR) = .error e) :
    ∃ f c, (w.run o excluded stamps).run.run h = (.error f, ⟨h.disk, c⟩) := by
  unfold Writer.run
  dsimp only
  rw [run_bind, run_say, hloc]
  generalize h.console.say .progress ("FolderDestination: creating " ++ ofPlace QR) = c
  obtain ⟨f, hens⟩ := ensureDestinationDirectory_unmade (h := ⟨h.disk, c⟩) hQR hmk
  exact ⟨f, c, run_bind_error hens⟩

/-- In place, once the folder is made, a write changes nothing but what is strictly below
`PR`, however it ends. -/
theorem run_inPlace_stays (hloc : w.localFolder = ofPlace QR) (hatomic : w.atomic = false)
    (hmk : h.disk.mkdirs (ofPlace QR) = .ok d₁) (hwf₁ : d₁.Wf) (hQR : ∀ n ∈ QR, IsName n)
    (hstable : ∀ d, SameOff (Under PR) d₁ d → d.LeadsTo QR PR) :
    (w.run o excluded stamps).Stays h (SameOff (Under PR) d₁) := by
  rw [run_of_not_atomic hatomic, hloc]
  refine Stays.run_bind (run_say _ _)
    (Stays.run_bind (ensureDestinationDirectory_run (by exact hmk)) ?_)
  refine Stays.run_bind (run_say _ _) ?_
  refine Stays.bind (deleteRecursively_stays hwf₁ hQR hstable _) (fun _ h' => h')
    fun _ h₄ _ hs => ?_
  refine Stays.run_bind (run_say _ _) ?_
  -- the copy starts where the delete left, with the path still leading to `PR`
  have hcopy := copyRecursively_stays_via (h := { h₄ with console := (h₄.console.say .progress
    ("FolderDestination: Copying contents of the workdir to " ++ ofPlace QR)) }) hs.1 hQR
    (fun d hd => hstable d (hs.trans hd)) o
  exact Stays.bind hcopy (fun _ h' => hs.trans h') fun _ h₆ _ h' => Stays.pure _ (hs.trans h')

/-- In atomic mode, once the folder is made, a write whose staged write swaps or fails and
leaves a disk that `P` accepts leaves that disk. -/
theorem run_staged_stays {P : Disk → Prop} (hatomic : w.atomic = true)
    (hmk : h.disk.mkdirs w.localFolder = .ok d₁)
    (hstaged : ∀ c, ∃ r h', (stagedWrite w.localFolder o ⟨Host.workDir, w.localFolder, excluded⟩ stamps).run.run
      ⟨d₁, c⟩ = (r, h') ∧ r ≠ .ok .unsupported ∧ P h'.disk) :
    (w.run o excluded stamps).Stays h P := by
  obtain ⟨_, h', hrun, hP⟩ := run_of_staged (Q := fun _ h' => P h'.disk) hatomic hmk hstaged
  exact Stays.of_run hrun hP

/-- A write stays in its folder. Take a well formed disk and a writer whose folder has the path
`QR`. If making the folder fails, the write changes nothing. Otherwise, on the disk `d₁` with
the folder made, let the path lead to the directory `PR` whatever lies below `PR`, and in
atomic mode let `PR` not be the root, the real path of the folder name `PR`, and the siblings
that the stamp names be free. Then, however the write ends, every place not strictly below
`PR` holds what it held before the write, or is a directory made on the way down to `PR`
where nothing was. -/
theorem write_confined_to_folder (hloc : w.localFolder = ofPlace QR) (hwf : h.disk.Wf)
    (hQR : ∀ n ∈ QR, IsName n)
    (hmade : ∀ d₁, h.disk.mkdirs (ofPlace QR) = .ok d₁ →
      (∀ d, SameOff (Under PR) d₁ d → d.LeadsTo QR PR) ∧
      (w.atomic = true → PR ≠ [] ∧ d₁.realpath (ofPlace QR) = .ok (ofPlace PR) ∧
        '/' ∉ stamps.staging.toList ∧ '/' ∉ stamps.previous.toList ∧
        d₁.get? (siblingPlace PR "staging" stamps.staging) = none ∧
        d₁.get? (siblingPlace PR "previous" stamps.previous) = none)) :
    ∀ q, ¬ Under PR q →
      ((w.write o excluded stamps).run h).2.disk.get? q = h.disk.get? q ∨
      (q <+: PR ∧ h.disk.get? q = none ∧
        ((w.write o excluded stamps).run h).2.disk.get? q = some .dir) := by
  intro q hq
  rw [write_host]
  cases hmk : h.disk.mkdirs (ofPlace QR) with
  | error e =>
    -- the folder was not made, and nothing was done
    obtain ⟨f, c, hrun⟩ : ∃ f c, (w.run o excluded stamps).run.run h = (.error f, ⟨h.disk, c⟩) :=
      run_of_unmade hloc hQR hmk
    rw [hrun]
    exact .inl rfl
  | ok d₁ =>
    obtain ⟨hstable, hready⟩ := hmade d₁ hmk
    have hwf₁ := hwf.mkdirs hmk
    have hR : d₁.get? PR = some .dir := ((hstable d₁ (SameOff.refl hwf₁ _)).dir hwf₁).1
    -- making the folder only added directories on the way down to `PR`
    have hmade₁ : MadeTo h.disk d₁ PR := mkdirs_made hwf hQR hmk (hstable d₁ (SameOff.refl hwf₁ _))
    have hstays : (w.run o excluded stamps).Stays h
        fun d => ∀ q, ¬ Under PR q → d.get? q = d₁.get? q := by
      cases hatomic : w.atomic with
      | false => exact (run_inPlace_stays hloc hatomic hmk hwf₁ hQR hstable).mono fun _ hd => hd.2
      | true =>
        obtain ⟨hPR, hreal, hstaging, hprevious, hfree⟩ := hready hatomic
        refine run_staged_stays hatomic (by rw [hloc]; exact hmk) fun c => ?_
        exact stagedWrite_confined (h := ⟨d₁, c⟩) hwf₁ hPR hR (by rw [hloc]; exact hreal)
          ⟨hstaging, hprevious⟩ hfree
    rw [hstays q hq]
    exact hmade₁.2 q

/-- A staged write of a one-file tree into a folder `/r` that holds a file changes nothing
outside the folder. -/
theorem write_of_one_file_confined :
    let w : Writer := ⟨ofPlace ["r"], true, .idle⟩
    let h : Host := ⟨⟨[(["r"], .dir), (["r", "a"], .file "x" 420), (["o"], .dir),
      (["o", "f"], .file "y" 420)]⟩, []⟩
    ∀ q, ¬ Under ["r"] q →
      ((w.write (ofPlace ["o"]) [] ⟨"1", "2"⟩).run h).2.disk.get? q = h.disk.get? q ∨
      (q <+: ["r"] ∧ h.disk.get? q = none ∧
        ((w.write (ofPlace ["o"]) [] ⟨"1", "2"⟩).run h).2.disk.get? q = some .dir) := by
  intro w h
  set d : Disk := ⟨[(["r"], .dir), (["r", "a"], .file "x" 420), (["o"], .dir),
    (["o", "f"], .file "y" 420)]⟩
  have hwf : d.Wf := ⟨by decide, by decide, by decide, by decide⟩
  -- the folder is there, so making it changes nothing
  have hmade : ∀ d₁, d.mkdirs (ofPlace ["r"]) = .ok d₁ →
      (∀ d', SameOff (Under ["r"]) d₁ d' → d'.LeadsTo ["r"] ["r"]) ∧
      (w.atomic = true → ["r"] ≠ [] ∧ d₁.realpath (ofPlace ["r"]) = .ok (ofPlace ["r"]) ∧
        '/' ∉ "1".toList ∧ '/' ∉ "2".toList ∧ d₁.get? (siblingPlace ["r"] "staging" "1") = none ∧
        d₁.get? (siblingPlace ["r"] "previous" "2") = none) := by
    intro d₁ hmk
    obtain rfl : d = d₁ := Except.ok.inj
      ((mkdirs_of_leadsTo (leadsTo_self hwf (by decide))).symm.trans hmk)
    have hS := siblingPlace_append (P := []) (b := "r") (by decide) "staging" "1"
    have hV := siblingPlace_append (P := []) (b := "r") (by decide) "previous" "2"
    rw [List.nil_append] at hS hV
    refine ⟨fun d' hd' => ?_, fun _ => ⟨by simp, realpath_of_dir hwf (by simp) (by decide),
      by decide, by decide, by rw [hS]; decide, by rw [hV]; decide⟩⟩
    have hr : d'.get? ["r"] = some .dir := (hd'.2 ["r"] (by decide)).trans (by decide)
    exact leadsTo_root_child (by decide) hr
  exact write_confined_to_folder rfl hwf (by decide) hmade

end Writer

end FolderSink
