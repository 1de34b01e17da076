import FolderSink.Proofs.Tree.InPlace
import FolderSink.Proofs.Tree.Swap
/-!
Writing the same output tree twice. What a write of the tree at `PO` into the folder `PR`
leaves is `Disk.Written`: the tree laid over the pruned folder. That is a fixed point of
writing. An entry that the tree wrote is written again the same, and an entry that pruning
kept still holds the kept entry that kept it, so pruning keeps it again. Main statements:

* `Disk.Written.again`: a second write over what a first left leaves every place as the
  first did;
* `Writer.run_writes`: a write in either mode, from a disk where the paths of the folder and
  of the tree stay put, succeeds exactly when nothing the tree writes clashes with the pruned
  folder, and then leaves `Written`;
* `write_again_leaves_same_disk`: after a write that succeeds, a second write of the same
  tree with the same patterns, in either mode, succeeds and leaves every place as the first
  did.
-/

namespace FolderSink

open FolderSink.Path

/-- An entry never clashes with one of its own kind. -/
@[simp] theorem Kind.clashes_self (k : Kind) : k.clashes k = false := by
  cases k <;> rfl

namespace Disk

variable {d d' d'' : Disk} {PR PO : Place} {keep : Place → Bool}

/-- A sibling of a place is not below it. -/
theorem not_under_siblingPlace {T : Place} (hT : T ≠ []) (label stamp : String) :
    ¬ Under T (Tree.siblingPlace T label stamp) := fun hU => by
  have hlen : T.length = (Tree.siblingPlace T label stamp).length := by
    have hT0 : T.length ≠ 0 := by simpa using hT
    simp only [Tree.siblingPlace, List.length_append, List.length_dropLast, List.length_singleton]
    omega
  exact hU.2 (hU.1.eq_of_length hlen)

/-- A copy over the pruned folder is a write. -/
theorem Written.of_copiedAt (hdisj : ¬ PR <+: PO ∧ ¬ PO <+: PR)
    (h : CopiedAt (· ≠ []) PO PR (d.pruneBelow PR keep) d') : Written d PR PO keep d' where
  wf := h.wf
  outside q hq := by
    rw [h.same q fun y hy he => hq (he ▸ under_append hy), get?_pruneBelow_outside hq]
  below y hy := by rw [h.laid y hy, copiedFrom_pruneBelow hdisj]

namespace Written

variable (hw : Written d PR PO keep d')
include hw

/-- The output tree reads the same after the write: it lies apart from the folder. -/
theorem copiedFrom_eq (hdisj : ¬ PR <+: PO ∧ ¬ PO <+: PR) (y : Place) :
    d'.copiedFrom PO y = d.copiedFrom PO y := by
  rw [copiedFrom, copiedFrom, hw.outside _ (Tree.source_outside hdisj y)]

/-- A place below the folder that held a kept entry holds one after the write: pruning kept
that entry, and the write laid either it or the tree's own entry there. -/
theorem holdsKept_append (hd : d.Wf) {y : Place} (hy : y ≠ [])
    (hk : d.holdsKept PR keep (PR ++ y) = true) : d'.holdsKept PR keep (PR ++ y) = true := by
  obtain ⟨_, k, ⟨x, rfl⟩, hne, he, hkeep⟩ := (holdsKept_iff hd).mp hk
  have hyx : y ++ x ≠ [] := by simp [hy]
  rw [List.append_assoc] at hne he hkeep
  have hpruned : (d.pruneBelow PR keep).get? (PR ++ (y ++ x)) = some k := by
    rw [get?_pruneBelow_append hyx, if_pos (holdsKept_self hd hne he hkeep), he]
  obtain ⟨k', hk'⟩ : ∃ k', d'.get? (PR ++ (y ++ x)) = some k' := by
    rw [hw.below _ hyx, hpruned]
    cases d.copiedFrom PO (y ++ x) <;> simp
  exact (holdsKept_iff hw.wf).mpr ⟨_, k', ⟨x, List.append_assoc _ _ _⟩, hne, hk', hkeep⟩

/-- Below the folder, where the tree writes nothing, pruning what the write left keeps what
pruning kept before. -/
theorem pruneBelow_of_none (hd : d.Wf) {y : Place} (hy : y ≠ [])
    (hc : d.copiedFrom PO y = none) :
    (d'.pruneBelow PR keep).get? (PR ++ y) = (d.pruneBelow PR keep).get? (PR ++ y) := by
  have hlaid : d'.get? (PR ++ y) = (d.pruneBelow PR keep).get? (PR ++ y) := by
    rw [hw.below y hy, hc, Option.none_or]
  rw [get?_pruneBelow_append (d := d') hy, hlaid]
  cases hheld : d.holdsKept PR keep (PR ++ y) with
  | true => rw [if_pos (hw.holdsKept_append hd hy hheld)]
  | false =>
    -- pruning dropped the entry before, so there is none now either
    rw [get?_pruneBelow_append hy, hheld]
    simp

/-- A second write over what a write left lays the same entries below the folder. -/
theorem below_again (hdisj : ¬ PR <+: PO ∧ ¬ PO <+: PR) (hd : d.Wf)
    (hw' : Written d' PR PO keep d'') {y : Place} (hy : y ≠ []) :
    d''.get? (PR ++ y) = d'.get? (PR ++ y) := by
  rw [hw'.below y hy, hw.copiedFrom_eq hdisj y, hw.below y hy]
  cases hc : d.copiedFrom PO y with
  | some k => rfl
  | none => rw [Option.none_or, Option.none_or, hw.pruneBelow_of_none hd hy hc]

/-- A second write over what a write left leaves every place as the first did. -/
theorem again (hdisj : ¬ PR <+: PO ∧ ¬ PO <+: PR) (hd : d.Wf)
    (hw' : Written d' PR PO keep d'') (q : Place) : d''.get? q = d'.get? q := by
  by_cases hq : Under PR q
  · obtain ⟨⟨y, rfl⟩, hne⟩ := hq
    exact hw.below_again hdisj hd hw' fun hy => hne (by simp [hy])
  · exact (hw'.outside q hq).symm

/-- Nothing the tree writes clashes with what pruning keeps after the write: the write left
the tree's own entry wherever the tree writes one. -/
theorem fits (hdisj : ¬ PR <+: PO ∧ ¬ PO <+: PR) : Fits (· ≠ []) PO PR (d'.pruneBelow PR keep) := by
  intro y hy o p ho hp
  rw [copiedFrom_pruneBelow hdisj, hw.copiedFrom_eq hdisj y] at ho
  have hlaid : d'.get? (PR ++ y) = some o := by rw [hw.below y hy, ho, Option.some_or]
  obtain rfl : p = o := Option.some.inj ((get?_of_pruneBelow hp).symm.trans hlaid)
  exact Kind.clashes_self p

/-- Pruning what the write left keeps no special file where pruning kept none before: the
tree writes none. -/
theorem no_fifo (hspecial : ∀ y, (d.pruneBelow PR keep).get? (PR ++ y) ≠ some .fifo)
    (y : Place) : (d'.pruneBelow PR keep).get? (PR ++ y) ≠ some .fifo := by
  intro hf
  rcases eq_or_ne y [] with rfl | hy
  · -- the folder itself is not below the folder
    have hPR : ¬ Under PR (PR ++ []) := fun hU => hU.2 (by simp)
    have hsame : (d'.pruneBelow PR keep).get? (PR ++ []) = (d.pruneBelow PR keep).get? (PR ++ []) := by
      rw [get?_pruneBelow_outside hPR, get?_pruneBelow_outside hPR, hw.outside _ hPR]
    exact hspecial [] (hsame ▸ hf)
  · have hlaid := get?_of_pruneBelow hf
    rw [hw.below y hy] at hlaid
    cases hc : d.copiedFrom PO y with
    | none =>
      rw [hc, Option.none_or] at hlaid
      exact hspecial y hlaid
    | some k =>
      rw [hc, Option.some_or] at hlaid
      exact copiedFrom_ne_fifo (hc.trans hlaid)

end Written

end Disk

namespace Tree

open Disk

/-- Where a write of the output tree at path `QO` into the folder at path `QR` can start, once
the folder is made: a well formed disk where the two paths lead to the directories `PR` and
`PO` whatever lies below `PR`, and neither directory lies in the other. -/
structure Placed (d : Disk) (QR PR QO PO : Place) : Prop where
  wf : d.Wf
  folder : ∀ n ∈ QR, IsName n
  tree : ∀ n ∈ QO, IsName n
  stable : ∀ d', AgreeOutside PR d d' → d'.LeadsTo QR PR ∧ d'.LeadsTo QO PO
  apart : ¬ PR <+: PO ∧ ¬ PO <+: PR

/-- What a staged write needs besides: the real path of the folder names `PR` whatever lies
below it, pruning keeps no special file there, and the siblings that `stamps` name are
free. -/
structure StageReady (d : Disk) (QR PR : Place) (keep : Place → Bool) (stamps : Stamps) :
    Prop where
  real : ∀ d', d'.Wf → AgreeOutside PR d d' → d'.realpath (ofPlace QR) = .ok (ofPlace PR)
  special : ∀ y, (d.pruneBelow PR keep).get? (PR ++ y) ≠ some .fifo
  named : '/' ∉ stamps.staging.toList ∧ '/' ∉ stamps.previous.toList
  free : d.get? (siblingPlace PR "staging" stamps.staging) = none ∧
    d.get? (siblingPlace PR "previous" stamps.previous) = none

variable {d d' : Disk} {QR PR QO PO : Place} {keep : Place → Bool} {stamps : Stamps}

/-- The folder is not the root, which lies above the output tree. -/
theorem Placed.folder_ne_nil (hp : Placed d QR PR QO PO) : PR ≠ [] :=
  fun h => hp.apart.1 (h ▸ List.nil_prefix)

/-- A write keeps the paths where they were. -/
theorem Placed.written (hp : Placed d QR PR QO PO) (hw : Written d PR PO keep d') :
    Placed d' QR PR QO PO where
  wf := hw.wf
  folder := hp.folder
  tree := hp.tree
  stable d'' hd'' := hp.stable d'' (hw.outside.trans hd'')
  apart := hp.apart

/-- A write leaves a staged write ready: it changes nothing outside the folder, where the
siblings are, and brings no special file in. -/
theorem StageReady.written (hr : StageReady d QR PR keep stamps) (hp : Placed d QR PR QO PO)
    (hw : Written d PR PO keep d') : StageReady d' QR PR keep stamps where
  real d'' hwf hd'' := hr.real d'' hwf (hw.outside.trans hd'')
  special := hw.no_fifo hr.special
  named := hr.named
  free := by
    rw [← hw.outside _ (not_under_siblingPlace hp.folder_ne_nil _ _),
      ← hw.outside _ (not_under_siblingPlace hp.folder_ne_nil _ _)]
    exact hr.free

end Tree

namespace Writer

open Act FolderSink.Tree Disk

section staged

variable {w : Writer} {o : String} {excluded : List Utf16} {stamps : Stamps} {h : Host}
  {d₁ : Disk} (hatomic : w.atomic = true) (hmk : h.disk.mkdirs w.localFolder = .ok d₁)
include hatomic hmk

/-- In atomic mode, a write whose staged write swaps ends there, on the disk that the staged
write left: before it, the folder was made and only messages were added. -/
theorem run_of_swapped {P : Disk → Prop}
    (hstaged : ∀ c, (stagedWrite w.localFolder o ⟨Host.workDir, w.localFolder, excluded⟩ stamps).Gives ⟨d₁, c⟩
      fun r d' => r = .swapped ∧ P d') :
    (w.run o excluded stamps).Ends h P := by
  obtain ⟨_, h', hrun, rfl, hP⟩ := run_of_staged (Q := fun r h' => r = .ok .swapped ∧ P h'.disk)
    hatomic hmk fun c => by
      obtain ⟨_, d', hst, rfl, hP⟩ := hstaged c
      exact ⟨_, _, hst, by simp, rfl, hP⟩
  exact ⟨(), h', hrun, hP⟩

/-- In atomic mode, a write whose staged write fails fails. -/
theorem run_of_staged_fails
    (hstaged : ∀ c, (stagedWrite w.localFolder o ⟨Host.workDir, w.localFolder, excluded⟩ stamps).Fails ⟨d₁, c⟩) :
    (w.run o excluded stamps).Fails h := by
  obtain ⟨_, h', hrun, ⟨e, rfl⟩⟩ := run_of_staged (Q := fun r _ => ∃ e, r = .error e)
    hatomic hmk fun c => by
      obtain ⟨e, h', hst⟩ := hstaged c
      exact ⟨_, h', hst, by simp, e, rfl⟩
  exact ⟨e, h', hrun⟩

end staged

variable {w : Writer} {excluded : List Utf16} {stamps : Stamps} {h : Host} {d₁ : Disk}
  {QR PR QO PO : Place} {keep : Place → Bool}
  (hloc : w.localFolder = ofPlace QR) (hmk : h.disk.mkdirs (ofPlace QR) = .ok d₁)
  (hp : Placed d₁ QR PR QO PO)
  (hkeep : ∀ rel, rel ≠ [] → d₁.get? (PR ++ rel) ≠ none →
    (⟨Host.workDir, ofPlace QR, excluded⟩ : PathMatcher).test (ofPlace (QR ++ rel)) = .ok (keep rel))
include hloc hmk hp hkeep

/-- In place, a write lays the tree over the pruned folder when nothing clashes, and fails
otherwise. -/
theorem run_inPlace_writes (hatomic : w.atomic = false) :
    (Fits (· ≠ []) PO PR (d₁.pruneBelow PR keep) →
      (w.run (ofPlace QO) excluded stamps).Ends h (Written d₁ PR PO keep)) ∧
    (¬ Fits (· ≠ []) PO PR (d₁.pruneBelow PR keep) →
      (w.run (ofPlace QO) excluded stamps).Fails h) := by
  rw [run_of_not_atomic hatomic, hloc]
  refine (Ends.say _ _).bind_cases fun _ h₁ hd₁ => ?_
  refine (ensureDestinationDirectory_ends (by rw [hd₁]; exact hmk)).bind_cases
    fun _ h₂ hd₂ => ?_
  refine (Ends.say _ _).bind_cases fun _ h₃ hd₃ => ?_
  -- the delete starts from the disk with the folder made
  obtain ⟨d, c⟩ := h₃
  obtain rfl : d₁ = d := (hd₃.trans hd₂).symm
  refine (deleteRecursively_prunes (h := ⟨d₁, c⟩) hp.wf hp.folder
    (fun d hd => (hp.stable d hd).1) hkeep).ends.bind_cases fun _ h₄ hpruned => ?_
  refine (Ends.say _ _).bind_cases fun _ h₅ hd₅ => ?_
  obtain ⟨hok, hfail⟩ := copy_over_pruned (h := ⟨d₁, c⟩) hp.folder hp.tree hp.stable hp.apart h₅
    (by rw [hd₅]; exact hpruned.1) fun q => by rw [hd₅]; exact hpruned.2 q
  refine ⟨fun hfit => ?_, fun hfit => ?_⟩
  · obtain ⟨_, d', hrun, hcop⟩ := hok hfit
    exact (Ends.of_run hrun hcop).bind fun _ _ hcop =>
      Ends.pure () (Written.of_copiedAt hp.apart hcop)
  · obtain ⟨e, h', hrun, -⟩ := hfail hfit
    exact Fails.bind_left ⟨e, h', hrun⟩

/-- Staged, a write swaps in the tree laid over the pruned folder when nothing clashes, and
fails otherwise. -/
theorem run_staged_writes (hatomic : w.atomic = true) (hready : StageReady d₁ QR PR keep stamps) :
    (Fits (· ≠ []) PO PR (d₁.pruneBelow PR keep) →
      (w.run (ofPlace QO) excluded stamps).Ends h (Written d₁ PR PO keep)) ∧
    (¬ Fits (· ≠ []) PO PR (d₁.pruneBelow PR keep) →
      (w.run (ofPlace QO) excluded stamps).Fails h) := by
  -- the staged write does the same whatever was reported before it
  have hlays := fun c => stagedWrite_lays (h := ⟨d₁, c⟩) hp.wf hp.folder hp.tree hp.stable
    hp.apart hkeep hready.special (hready.real d₁ hp.wf (AgreeOutside.refl _ _)) hready.named
    hready.free
  rw [← hloc] at hmk hlays
  refine ⟨fun hfit => run_of_swapped hatomic hmk fun c => (hlays c).1 hfit,
    fun hfit => run_of_staged_fails hatomic hmk fun c => ?_⟩
  obtain ⟨e, h', hrun, -⟩ := (hlays c).2 hfit
  exact ⟨e, h', hrun⟩

/-- A write in either mode lays the tree over the pruned folder when nothing clashes, and fails
otherwise; staged, it needs the folder ready for it. -/
theorem run_writes (hready : w.atomic = true → StageReady d₁ QR PR keep stamps) :
    (Fits (· ≠ []) PO PR (d₁.pruneBelow PR keep) →
      (w.run (ofPlace QO) excluded stamps).Ends h (Written d₁ PR PO keep)) ∧
    (¬ Fits (· ≠ []) PO PR (d₁.pruneBelow PR keep) →
      (w.run (ofPlace QO) excluded stamps).Fails h) := by
  cases hatomic : w.atomic with
  | false => exact run_inPlace_writes hloc hmk hp hkeep hatomic
  | true => exact run_staged_writes hloc hmk hp hkeep hatomic (hready hatomic)

omit hloc hmk hp hkeep

/-- Writing an output tree again changes nothing. Take a disk where, once the folder at path
`QR` is made, the paths of the folder and of the tree at `QO` lead to the directories `PR` and
`PO` whatever lies below `PR`, neither directory lies in the other, and the exclusion patterns
answer `keep` on the names below the folder; a staged write also needs the folder ready for
it. After a write that succeeds, a second write of the same tree with the same patterns, in
either mode, succeeds and leaves every place of the disk as the first write left it. -/
theorem write_again_leaves_same_disk {w₁ w₂ : Writer} {stamps₁ stamps₂ : Stamps}
    (hloc₁ : w₁.localFolder = ofPlace QR) (hloc₂ : w₂.localFolder = ofPlace QR)
    (hmk : h.disk.mkdirs (ofPlace QR) = .ok d₁) (hp : Placed d₁ QR PR QO PO)
    (hkeep : ∀ rel, rel ≠ [] → (∀ n ∈ rel, IsName n) →
      (⟨Host.workDir, ofPlace QR, excluded⟩ : PathMatcher).test (ofPlace (QR ++ rel)) = .ok (keep rel))
    (hready₁ : w₁.atomic = true → StageReady d₁ QR PR keep stamps₁)
    (hready₂ : w₂.atomic = true → StageReady d₁ QR PR keep stamps₂) :
    let first := (w₁.write (ofPlace QO) excluded stamps₁).run h
    let second := (w₂.write (ofPlace QO) excluded stamps₂).run first.2
    first.1.2 = .ok () →
      second.1.2 = .ok () ∧ ∀ q, second.2.disk.get? q = first.2.disk.get? q := by
  intro first second hok
  -- the patterns answer `keep` on every entry below the folder of a well formed disk
  have hkeepOn : ∀ {d : Disk}, d.Wf → ∀ rel, rel ≠ [] → d.get? (PR ++ rel) ≠ none →
      (⟨Host.workDir, ofPlace QR, excluded⟩ : PathMatcher).test (ofPlace (QR ++ rel)) = .ok (keep rel) := by
    intro d hd rel hrel hne
    obtain ⟨k, hk⟩ := Option.ne_none_iff_exists'.mp hne
    exact hkeep rel hrel fun n hn => hd.names_of_get? hk n (List.mem_append_right _ hn)
  obtain ⟨hok₁, hfail₁⟩ := run_writes hloc₁ hmk hp (hkeepOn hp.wf) hready₁
  -- the first write succeeded, so nothing the tree writes clashed
  have hfit : Fits (· ≠ []) PO PR (d₁.pruneBelow PR keep) := by
    by_contra hfit
    obtain ⟨e, h', hrun⟩ := hfail₁ hfit
    simp [first, hrun] at hok
  obtain ⟨_, h₁, hrun₁, hw₁⟩ := hok₁ hfit
  have hfirst : first.2 = h₁ := by simp [first, hrun₁]
  -- the second write starts where the first ended, with the folder there
  have hp₁ := hp.written hw₁
  have hmk₁ : h₁.disk.mkdirs (ofPlace QR) = .ok h₁.disk :=
    mkdirs_of_leadsTo (hp₁.stable _ (AgreeOutside.refl _ _)).1
  obtain ⟨hok₂, -⟩ := run_writes hloc₂ hmk₁ hp₁ (hkeepOn hp₁.wf)
    fun hatomic => (hready₂ hatomic).written hp hw₁
  obtain ⟨_, h₂, hrun₂, hw₂⟩ := hok₂ (hw₁.fits hp.apart)
  simp only [second, hfirst, write_result, write_host, hrun₂]
  exact ⟨trivial, hw₁.again hp.apart hp.wf hw₂⟩

/-- Writing a one-file tree twice, staged, into a folder holding a file `a` that the pattern `a`
keeps and a file `b` that it does not: the first write succeeds, and the second, with other
stamps, succeeds and changes nothing. -/
theorem write_again_keeping_file :
    let w : Writer := ⟨ofPlace ["r"], true, .idle⟩
    let h : Host := ⟨⟨[(["r"], .dir), (["r", "a"], .file "x" 420), (["r", "b"], .file "z" 420),
      (["o"], .dir), (["o", "f"], .file "y" 420)]⟩, []⟩
    let first := (w.write (ofPlace ["o"]) [Utf16.ofString "a"] ⟨"1", "2"⟩).run h
    let second := (w.write (ofPlace ["o"]) [Utf16.ofString "a"] ⟨"3", "4"⟩).run first.2
    first.1.2 = .ok () ∧ second.1.2 = .ok () ∧
      ∀ q, second.2.disk.get? q = first.2.disk.get? q := by
  intro w h first second
  set d : Disk := ⟨[(["r"], .dir), (["r", "a"], .file "x" 420), (["r", "b"], .file "z" 420),
    (["o"], .dir), (["o", "f"], .file "y" 420)]⟩
  set keep : Place → Bool := fun rel => rel == ["a"]
  have hwf : d.Wf := ⟨by decide, by decide, by decide, by decide⟩
  have hmk : d.mkdirs (ofPlace ["r"]) = .ok d := mkdirs_of_leadsTo (leadsTo_self hwf (by decide))
  -- both paths lead to their directories through the root, whatever is below the folder
  have hp : Placed d ["r"] ["r"] ["o"] ["o"] := by
    refine ⟨hwf, by decide, by decide, fun d' hd' => ?_, by decide⟩
    have hr : d'.get? ["r"] = some .dir := (hd' ["r"] (by decide)).symm.trans (by decide)
    have ho : d'.get? ["o"] = some .dir := (hd' ["o"] (by decide)).symm.trans (by decide)
    exact ⟨leadsTo_root_child (by decide) hr,
      leadsTo_root_child (by decide) ho⟩
  -- the pattern `a` keeps the path of its own name and no other
  have hkeep : ∀ rel, rel ≠ [] → (∀ n ∈ rel, IsName n) →
      (⟨Host.workDir, ofPlace ["r"], [Utf16.ofString "a"]⟩ : PathMatcher).test
        (ofPlace (["r"] ++ rel)) = .ok (keep rel) := fun rel _ hrel =>
    PathMatcher.test_of_name _ _ _ (List.forall_mem_append.mpr ⟨by decide, hrel⟩) (by decide)
      (by decide +kernel)
  -- the folder's real path is its place, and no special file is on the disk
  have hready : ∀ stamps : Stamps, '/' ∉ stamps.staging.toList → '/' ∉ stamps.previous.toList →
      d.get? ["." ++ "r" ++ "." ++ "staging" ++ "-" ++ stamps.staging] = none →
      d.get? ["." ++ "r" ++ "." ++ "previous" ++ "-" ++ stamps.previous] = none →
      StageReady d ["r"] ["r"] keep stamps := by
    intro stamps hstaging hprevious hS hV
    refine ⟨fun d' hwf' hd' => realpath_of_dir hwf' (by simp)
      ((hd' ["r"] (by decide)).symm.trans (by decide)), fun y hy => ?_, ⟨hstaging, hprevious⟩, ?_⟩
    · have hmem := mem_of_get? (by simp) (get?_of_pruneBelow hy)
      simp [d] at hmem
    · have hS' := siblingPlace_append (P := []) (b := "r") (by decide) "staging" stamps.staging
      have hV' := siblingPlace_append (P := []) (b := "r") (by decide) "previous" stamps.previous
      rw [List.nil_append] at hS' hV'
      rw [hS', hV']
      exact ⟨hS, hV⟩
  have hready₁ := hready ⟨"1", "2"⟩ (by decide) (by decide) (by decide) (by decide)
  -- the tree's only file lands where the folder has nothing
  have hfit : Fits (· ≠ []) ["o"] ["r"] (d.pruneBelow ["r"] keep) := by
    intro y _ o p ho hp'
    rw [copiedFrom_pruneBelow (by decide)] at ho
    have hf : y = ["f"] := by
      obtain ⟨k, hk⟩ := Option.ne_none_iff_exists'.mp
        (get?_ne_none_of_copiedFrom (by rw [ho]; simp))
      have hmem := mem_of_get? (by simp) hk
      simp [d] at hmem
      grind
    subst hf
    have hr := get?_of_pruneBelow hp'
    rw [show d.get? (["r"] ++ ["f"]) = none by decide] at hr
    cases hr
  have hok : first.1.2 = .ok () := by
    obtain ⟨_, h₁, hrun, -⟩ := (run_writes (w := w) (h := h) rfl hmk hp
      (fun rel hrel hne => by
        obtain ⟨k, hk⟩ := Option.ne_none_iff_exists'.mp hne
        exact hkeep rel hrel fun n hn => hwf.names_of_get? hk n (List.mem_append_right _ hn))
      fun _ => hready₁).1 hfit
    simp [first, hrun]
  exact ⟨hok, write_again_leaves_same_disk rfl rfl hmk hp hkeep (fun _ => hready₁)
    (fun _ => hready ⟨"3", "4"⟩ (by decide) (by decide) (by decide) (by decide)) hok⟩

end Writer

end FolderSink
