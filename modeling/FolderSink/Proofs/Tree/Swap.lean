import FolderSink.Proofs.Tree.Containment
import FolderSink.Proofs.Tree.Preserve
/-!
A staged write gives what a write in place gives. Both work on the directory `PR` that the
folder's path `QR` leads to, whatever happens below it, with an output tree apart from it. In
place, the entries that the matcher does not keep are deleted and the tree is copied over what
is left. Staged, the kept entries are copied into a fresh sibling of `PR`, the tree is copied
over them there, and two renames swap the sibling in. Main statements:

* `clean_then_copy`: in place, the tree lands over the pruned folder exactly when nothing it
  writes clashes with it, and a call fails otherwise;
* `buildStaging_copies`: the staging sibling ends up holding the same, under the same
  condition, when the delete would keep no special file;
* `stagedWrite_matches_inPlace`: when the real path of the folder names `PR` and the siblings
  are free, the staged write swaps exactly when the write in place succeeds, and both leave
  the same tree at `PR`; otherwise both fail with an I/O failure.
-/

namespace FolderSink

namespace Disk

variable {d d' d₁ : Disk} {S D X PR : Place} {keep : Place → Bool}

/-- A copy onto a disk is one onto every disk with the same entries. -/
theorem CopiedAt.congr_left {s : Place → Prop} (h : CopiedAt s S D d d₁)
    (hsame : ∀ q, d.get? q = d'.get? q) : CopiedAt s S D d' d₁ where
  wf := h.wf
  laid y hy := by rw [h.laid y hy, copiedFrom, copiedFrom, hsame, hsame]
  same q hq := by rw [h.same q hq, hsame]

/-- A disk that is as `d` wherever nothing is at or below a free place `X` holds every entry
of `d`. -/
theorem sub_of_fresh (hd : d.Wf) (hX : d.get? X = none)
    (h : ∀ q, ¬ X <+: q → d'.get? q = d.get? q) : ∀ q k, d.get? q = some k → d'.get? q = some k := by
  intro q k hk
  have hq : ¬ X <+: q := fun hXq => by
    rw [hd.none_of_prefix hX hXq] at hk
    cases hk
  rw [h q hq, hk]

/-- An entry other than the root is a name in a directory. -/
theorem Wf.parent_of_get? (hd : d.Wf) {k : Kind} (hX : X ≠ []) (hk : d.get? X = some k) :
    ∃ P₀ b, X = P₀ ++ [b] ∧ (∀ n ∈ P₀, Path.IsName n) ∧ Path.IsName b ∧ d.get? P₀ = some .dir := by
  have hn := hd.names_of_get? hk
  obtain ⟨P₀, b, rfl⟩ := (List.eq_nil_or_concat' X).resolve_left hX
  exact ⟨P₀, b, rfl, fun n hn' => hn n (by simp [hn']), hn b (by simp),
    by simpa using hd.get?_dropLast hX hk⟩

/-- Pruning below `PR` changes nothing that is not strictly below it. -/
theorem get?_pruneBelow_outside {q : Place} (hq : ¬ Under PR q) :
    (d.pruneBelow PR keep).get? q = d.get? q := by
  rw [get?_pruneBelow, if_neg fun h' => hq h'.1]

/-- Pruning the folder does not change what a copy from an output tree apart from it
writes. -/
theorem copiedFrom_pruneBelow {PO : Place} (hdisj : ¬ PR <+: PO ∧ ¬ PO <+: PR) (y : Place) :
    (d.pruneBelow PR keep).copiedFrom PO y = d.copiedFrom PO y := by
  rw [copiedFrom, copiedFrom, get?_pruneBelow_outside (Tree.source_outside hdisj y)]

/-- Pruning below `PR` looks only at and below `PR`. -/
theorem get?_pruneBelow_congr (hd : d.Wf) (hd' : d'.Wf) (h : ∀ q, PR <+: q → d'.get? q = d.get? q)
    (y : Place) : (d'.pruneBelow PR keep).get? (PR ++ y) = (d.pruneBelow PR keep).get? (PR ++ y) := by
  rcases eq_or_ne y [] with rfl | hy
  · rw [get?_pruneBelow, get?_pruneBelow, List.append_nil, if_neg fun h' => h'.1.2 rfl,
      if_neg fun h' => h'.1.2 rfl, h PR (List.prefix_refl _)]
  · rw [get?_pruneBelow_append hy, get?_pruneBelow_append hy,
      holdsKept_congr hd hd' fun e he => h e ((List.prefix_append PR y).trans he),
      h _ (List.prefix_append PR y)]

/-- What writing the output tree at `PO` into the folder `PR` leaves of `d`: every place not
strictly below the folder as it was, and below it what a copy of the tree writes, laid over
what pruning keeps. -/
structure Written (d : Disk) (PR PO : Place) (keep : Place → Bool) (d' : Disk) : Prop where
  wf : d'.Wf
  outside : AgreeOutside PR d d'
  below : ∀ y, y ≠ [] →
    d'.get? (PR ++ y) = (d.copiedFrom PO y).or ((d.pruneBelow PR keep).get? (PR ++ y))

end Disk

namespace Tree

open Disk FolderSink.Path Act

variable {h : Host} {QR PR QO PO : Place} {m : PathMatcher} {keep : Place → Bool}

section inPlace

variable (hQR : ∀ n ∈ QR, IsName n) (hQO : ∀ n ∈ QO, IsName n)
  (hstable : ∀ d, AgreeOutside PR h.disk d → d.LeadsTo QR PR ∧ d.LeadsTo QO PO)
  (hdisj : ¬ PR <+: PO ∧ ¬ PO <+: PR)
include hQR hQO hstable hdisj

/-- Copying the output tree onto a disk that holds the pruned folder: the tree lands over it
when nothing it writes clashes with it, and otherwise the copy fails by a failed call, or
stalls on a FIFO of the pruned folder. -/
theorem copy_over_pruned (h₁ : Host) (hwf₁ : h₁.disk.Wf)
    (hpruned : ∀ q, h₁.disk.get? q = (h.disk.pruneBelow PR keep).get? q) :
    (Fits (· ≠ []) PO PR (h.disk.pruneBelow PR keep) →
      (copyRecursively (ofPlace QO) (ofPlace QR)).Gives h₁ fun _ d' =>
        CopiedAt (· ≠ []) PO PR (h.disk.pruneBelow PR keep) d') ∧
    (¬ Fits (· ≠ []) PO PR (h.disk.pruneBelow PR keep) →
      ∃ e h', (copyRecursively (ofPlace QO) (ofPlace QR)).run.run h₁ = (.error e, h') ∧
        CopyFault PR (h.disk.pruneBelow PR keep) e) := by
  -- the pruned folder differs from the start only below it
  have hagree : AgreeOutside PR h.disk h₁.disk := fun q hq => by
    rw [hpruned, get?_pruneBelow_outside hq]
  obtain ⟨hok, hfail⟩ := copyRecursively_copies hwf₁ hQR hQO
    (fun d hd => hstable d (hagree.trans hd)) hdisj
  have hiff : Fits (· ≠ []) PO PR h₁.disk ↔ Fits (· ≠ []) PO PR (h.disk.pruneBelow PR keep) :=
    ⟨fun hf => hf.congr (fun y _ => (hpruned _).symm) (fun y _ => (hpruned _).symm),
      fun hf => hf.congr (fun y _ => hpruned _) (fun y _ => hpruned _)⟩
  refine ⟨fun hfit => (hok (hiff.mpr hfit)).mono fun _ d' hd' => hd'.1.congr_left hpruned,
    fun hfit => ?_⟩
  obtain ⟨e, d₂, hrun, hwhy, -⟩ := hfail fun hf => hfit (hiff.mp hf)
  exact ⟨e, _, hrun, hwhy.of_later fun y _ hf => by rwa [hpruned] at hf⟩

/-- Deleting what the matcher does not keep below the folder, then copying the output tree in:
the tree lands over the pruned folder when nothing it writes clashes with it, and otherwise
the copy fails by a failed call, or stalls on a FIFO of the pruned folder. -/
theorem clean_then_copy (hwf : h.disk.Wf)
    (hkeep : ∀ rel, rel ≠ [] → h.disk.get? (PR ++ rel) ≠ none →
      m.test (ofPlace (QR ++ rel)) = .ok (keep rel)) :
    (Fits (· ≠ []) PO PR (h.disk.pruneBelow PR keep) →
      (deleteRecursively (ofPlace QR) m >>= fun _ => copyRecursively (ofPlace QO) (ofPlace QR)).Gives
        h fun _ d' => CopiedAt (· ≠ []) PO PR (h.disk.pruneBelow PR keep) d') ∧
    (¬ Fits (· ≠ []) PO PR (h.disk.pruneBelow PR keep) →
      ∃ e h', (deleteRecursively (ofPlace QR) m >>= fun _ =>
        copyRecursively (ofPlace QO) (ofPlace QR)).run.run h = (.error e, h') ∧
        CopyFault PR (h.disk.pruneBelow PR keep) e) := by
  obtain ⟨_, d₁, hdel, hwf₁, hpruned⟩ := deleteRecursively_prunes hwf hQR
    (fun d hd => (hstable d hd).1) hkeep
  obtain ⟨hok, hfail⟩ :=
    copy_over_pruned hQR hQO hstable hdisj { h with disk := d₁ } hwf₁ hpruned
  refine ⟨fun hfit => Gives.run_bind hdel (hok hfit), fun hfit => ?_⟩
  obtain ⟨e, h', hrun, he⟩ := hfail hfit
  exact ⟨e, h', by rw [run_bind_ok hdel, hrun], he⟩

end inPlace

section staging

variable {S : Place}

variable (hwf : h.disk.Wf) (hQR : ∀ n ∈ QR, IsName n) (hQO : ∀ n ∈ QO, IsName n)
  (hstable : ∀ d, AgreeOutside PR h.disk d → d.LeadsTo QR PR ∧ d.LeadsTo QO PO)
  (hdisj : ¬ PR <+: PO ∧ ¬ PO <+: PR)
  (hkeep : ∀ rel, rel ≠ [] → h.disk.get? (PR ++ rel) ≠ none →
    m.test (ofPlace (QR ++ rel)) = .ok (keep rel))
  (hS : S ≠ []) (hSn : ∀ n ∈ S, IsName n) (hpar : h.disk.get? S.dropLast = some .dir)
  (hfree : h.disk.get? S = none) (hSR : ¬ S <+: PR ∧ ¬ PR <+: S) (hOS : ¬ PO <+: S)
  (hspecial : ∀ y, (h.disk.pruneBelow PR keep).get? (PR ++ y) ≠ some .fifo)
include hwf hQR hQO hstable hdisj hkeep hS hSn hpar hfree hSR hOS hspecial

/-- Building the new content in a free place `S` beside the folder: when nothing the output
tree writes clashes with the pruned folder, `S` ends up a directory holding the tree laid over
the pruned folder, and nothing else changes; otherwise the build fails by a failed call, as the
staged copy of the pruned folder holds no FIFO. -/
theorem buildStaging_copies :
    (Fits (· ≠ []) PO PR (h.disk.pruneBelow PR keep) →
      (buildStaging (ofPlace QR) (ofPlace QO) m (ofPlace S)).Gives h fun _ d' => d'.Wf ∧
        (∀ q, ¬ S <+: q → d'.get? q = h.disk.get? q) ∧ d'.get? S = some .dir ∧
        ∀ y, y ≠ [] → d'.get? (S ++ y) =
          (h.disk.copiedFrom PO y).or ((h.disk.pruneBelow PR keep).get? (PR ++ y))) ∧
    (¬ Fits (· ≠ []) PO PR (h.disk.pruneBelow PR keep) →
      ∃ e h', (buildStaging (ofPlace QR) (ofPlace QO) m (ofPlace S)).run.run h = (.error e, h') ∧
        e.IsIO) := by
  have hR : h.disk.get? PR = some .dir := ((hstable h.disk (AgreeOutside.refl _ _)).1.dir hwf).1
  have hO : h.disk.get? PO = some .dir := ((hstable h.disk (AgreeOutside.refl _ _)).2.dir hwf).1
  -- the staging directory is made, with nothing below it
  obtain ⟨hmk, hset, hfresh⟩ := mkdir_fresh hwf hS hSn hpar hfree
  have hempty : ∀ y, y ≠ [] → (h.disk.put S .dir).get? (S ++ y) = none := fun y hy =>
    hfresh _ ⟨List.prefix_append S y, by simpa using hy⟩
  have hoff : ∀ q, ¬ S <+: q → (h.disk.put S .dir).get? q = h.disk.get? q :=
    fun q hq => hset.other q fun he => hq (he ▸ List.prefix_refl _)
  -- what changes only at or below the staging place keeps every entry there was
  have hsub : ∀ d : Disk, (∀ q, ¬ Under S q → d.get? q = (h.disk.put S .dir).get? q) →
      ∀ q k, h.disk.get? q = some k → d.get? q = some k := fun d hd =>
    sub_of_fresh hwf hfree fun q hq => (hd q fun hU => hq hU.1).trans (hoff q hq)
  -- the folder and the places below it are not at or below the staging place
  have hSoff : ∀ y, ¬ S <+: PR ++ y := fun y h' =>
    (prefix_total h' (List.prefix_append PR y)).elim hSR.1 hSR.2
  obtain ⟨_, d₂, hrun₂, hwf₂, hout₂, hlaid₂, -⟩ := copyPreserved_gives
    (h := { h with disk := h.disk.put S .dir }) hset.wf hQR
    (fun d hd => (hstable h.disk (AgreeOutside.refl _ _)).1.grow hwf
      (hsub d fun q hq => (hd q hq).symm)) hset.here hempty
    hSR.2 (fun rel hrel hne => hkeep rel hrel (by rwa [hoff _ (hSoff rel)] at hne))
  -- below the staging directory lies the pruned folder, which keeps no special file
  have hlaid₂' : ∀ y, y ≠ [] → d₂.get? (S ++ y) = (h.disk.pruneBelow PR keep).get? (PR ++ y) :=
    fun y hy => by
      rw [hlaid₂ y hy, get?_pruneBelow_congr hwf hset.wf
        (fun q hq => hoff q fun hSq => (prefix_total hSq hq).elim hSR.1 hSR.2) y]
      exact copiedFrom_of_ne_fifo (hspecial y)
  have hS₂ : d₂.get? S = some .dir :=
    (hout₂ S (not_under_of_above (List.prefix_refl _))).trans hset.here
  -- the output tree is read where nothing changed
  have hdisj₂ : ¬ S <+: PO ∧ ¬ PO <+: S := by
    refine ⟨fun hSO => ?_, hOS⟩
    rw [hwf.none_of_prefix hfree hSO] at hO
    cases hO
  have hsrc₂ : ∀ y, d₂.get? (PO ++ y) = h.disk.get? (PO ++ y) := fun y => by
    have hy : ¬ S <+: PO ++ y := fun h' =>
      (prefix_total h' (List.prefix_append PO y)).elim hdisj₂.1 hdisj₂.2
    rw [hout₂ _ fun hU => hy hU.1, hoff _ hy]
  have hsrcP : ∀ y, (h.disk.pruneBelow PR keep).get? (PO ++ y) = h.disk.get? (PO ++ y) := fun y => by
    rw [get?_pruneBelow, if_neg fun h' => source_outside hdisj y h'.1]
  have hiff : Fits (· ≠ []) PO S d₂ ↔ Fits (· ≠ []) PO PR (h.disk.pruneBelow PR keep) :=
    ⟨fun hf => hf.congr (fun y _ => (hsrcP y).trans (hsrc₂ y).symm) fun y hy => (hlaid₂' y hy).symm,
      fun hf => hf.congr (fun y _ => (hsrc₂ y).trans (hsrcP y).symm) fun y hy => hlaid₂' y hy⟩
  obtain ⟨hok, hfail⟩ := copyRecursively_copies (h := { h with disk := d₂ }) hwf₂ hSn hQO
    (fun d hd => ⟨leadsTo_self_of_way hwf₂ hS₂ d fun x hx => (hd x (not_under_of_above hx)).symm,
      (hstable h.disk (AgreeOutside.refl _ _)).2.grow hwf
        (hsub d fun q hq => (hd q hq).symm.trans (hout₂ q hq))⟩) hdisj₂
  unfold buildStaging
  refine ⟨fun hfit => ?_, fun hfit => ?_⟩
  · obtain ⟨_, d₃, hrun₃, hcop, -⟩ := hok (hiff.mpr hfit)
    refine Gives.run_bind (run_change_ok hmk) (Gives.run_bind hrun₂ (Gives.run_bind hrun₃
      (Gives.pure _ ⟨hcop.wf, fun q hq => ?_, ?_, fun y hy => ?_⟩)))
    · rw [hcop.same q fun y _ he => hq (he ▸ List.prefix_append S y), hout₂ q fun hU => hq hU.1,
        hoff q hq]
    · rw [hcop.same S fun y hy he => hy (by simpa using he.symm)]
      exact hS₂
    · rw [hcop.laid y hy, hlaid₂' y hy]
      unfold copiedFrom
      rw [hsrc₂]
  · obtain ⟨e, d₃, hrun₃, hwhy, -⟩ := hfail fun hf => hfit (hiff.mp hf)
    exact ⟨e, _, by rw [run_bind_ok (run_change_ok hmk), run_bind_ok hrun₂, run_bind_error hrun₃],
      hwhy.isIO fun y hy => by rw [hlaid₂' y hy]; exact hspecial y⟩

end staging

section swap

/-- A rename that succeeds is all that `renameRaw` does. -/
theorem renameRaw_run {a b : String} {d : Disk} (hr : h.disk.rename a b = .ok d) :
    (renameRaw a b).run.run h = (.ok none, { h with disk := d }) := by
  unfold renameRaw
  rw [run_bind_ok run_disk]
  simp only [hr]
  rfl

variable {root outputTree stamp : String} {stamps : Stamps} {keep' : PathMatcher} {P₀ : Place}
  {b : String}
  {h₁ : Host}

/-- A sibling of the place `P₀ ++ [b]` is a name beside `b`, and the path a staged write
computes for it is the path of that place. -/
theorem sibling_beside {label : String} (hP₀ : ∀ n ∈ P₀, IsName n) (hb : IsName b)
    (hl : '/' ∉ label.toList) (hstamp : '/' ∉ stamp.toList) :
    IsName ("." ++ b ++ "." ++ label ++ "-" ++ stamp) ∧
      siblingPath (ofPlace (P₀ ++ [b])) label stamp =
        ofPlace (P₀ ++ ["." ++ b ++ "." ++ label ++ "-" ++ stamp]) := by
  have hTn : ∀ n ∈ P₀ ++ [b], IsName n := List.forall_mem_append.mpr ⟨hP₀, by simpa using hb⟩
  have hname := isName_sibling hTn hl hstamp
  rw [basename_ofPlace hb] at hname
  refine ⟨hname, ?_⟩
  rw [siblingPath_ofPlace hTn (by rwa [basename_ofPlace hb]), List.dropLast_concat,
    basename_ofPlace hb]

/-- A staged write of a folder whose real path names `P₀ ++ [b]`, once its build has filled the
staging sibling: both renames succeed, the sibling takes the folder's place and the old content
is removed. -/
theorem stagedWrite_of_build (hwf₁ : h₁.disk.Wf) (hP₀ : ∀ n ∈ P₀, IsName n) (hb : IsName b)
    (hstamps : '/' ∉ stamps.staging.toList ∧ '/' ∉ stamps.previous.toList)
    (hreal : h.disk.realpath root = .ok (ofPlace (P₀ ++ [b])))
    (hbuild : (buildStaging root outputTree keep'
      (ofPlace (siblingPlace (P₀ ++ [b]) "staging" stamps.staging))).run.run h = (.ok (), h₁))
    (hP₀dir : h₁.disk.get? P₀ = some .dir) (hT : h₁.disk.get? (P₀ ++ [b]) = some .dir)
    (hS : h₁.disk.get? (siblingPlace (P₀ ++ [b]) "staging" stamps.staging) = some .dir)
    (hV : h₁.disk.get? (siblingPlace (P₀ ++ [b]) "previous" stamps.previous) = none) :
    (stagedWrite root outputTree keep' stamps).run.run h = (.ok .swapped, { h₁ with disk :=
      (h₁.disk.swapIn (P₀ ++ [b]) (siblingPlace (P₀ ++ [b]) "staging" stamps.staging)
        (siblingPlace (P₀ ++ [b]) "previous" stamps.previous)) }) := by
  obtain ⟨hs, hsibS⟩ := sibling_beside hP₀ hb (show '/' ∉ "staging".toList by simp) hstamps.1
  obtain ⟨hv, hsibV⟩ := sibling_beside hP₀ hb (show '/' ∉ "previous".toList by simp) hstamps.2
  simp only [siblingPlace_append hb] at hbuild hS hV ⊢
  obtain ⟨hr₁, hr₂, hrm⟩ := swap_renames hwf₁ hP₀ hb hs hv (sibling_ne_self b _ _)
    (sibling_ne_self b _ _) (staging_ne_previous b _ _) hP₀dir hT hS hV
  unfold stagedWrite
  rw [run_bind_ok (run_ask_ok hreal)]
  dsimp only
  rw [hsibS, hsibV, run_bind_ok (run_tryCatch_ok hbuild), run_bind_ok (renameRaw_run hr₁)]
  dsimp only
  rw [run_bind_ok (renameRaw_run hr₂)]
  dsimp only
  rw [← hrm]
  rfl

/-- A staged write of a folder whose real path names the directory `P₀ ++ [b]`, with free
siblings, once its build has left a directory at the staging sibling and nothing changed
elsewhere: it swaps, and then the folder holds what the build left at the sibling, and every
place not strictly below the folder is as before the write. -/
theorem stagedWrite_swaps (hwf : h.disk.Wf) (hP₀ : ∀ n ∈ P₀, IsName n) (hb : IsName b)
    (hstamps : '/' ∉ stamps.staging.toList ∧ '/' ∉ stamps.previous.toList)
    (hreal : h.disk.realpath root = .ok (ofPlace (P₀ ++ [b])))
    (hP₀dir : h.disk.get? P₀ = some .dir) (hR : h.disk.get? (P₀ ++ [b]) = some .dir)
    (hfree : h.disk.get? (siblingPlace (P₀ ++ [b]) "staging" stamps.staging) = none ∧
      h.disk.get? (siblingPlace (P₀ ++ [b]) "previous" stamps.previous) = none)
    (hbuild : (buildStaging root outputTree keep'
      (ofPlace (siblingPlace (P₀ ++ [b]) "staging" stamps.staging))).run.run h = (.ok (), h₁))
    (hbuilt : SameOff (siblingPlace (P₀ ++ [b]) "staging" stamps.staging <+: ·) h.disk h₁.disk)
    (hS : h₁.disk.get? (siblingPlace (P₀ ++ [b]) "staging" stamps.staging) = some .dir) :
    ∃ d', (stagedWrite root outputTree keep' stamps).run.run h = (.ok .swapped, { h₁ with disk := d' }) ∧
      d'.Wf ∧ AgreeOutside (P₀ ++ [b]) h.disk d' ∧
      ∀ y, d'.get? (P₀ ++ [b] ++ y) = h₁.disk.get? (siblingPlace (P₀ ++ [b]) "staging" stamps.staging ++ y) := by
  obtain ⟨hs, -⟩ := sibling_beside hP₀ hb (show '/' ∉ "staging".toList by simp) hstamps.1
  obtain ⟨hv, -⟩ := sibling_beside hP₀ hb (show '/' ∉ "previous".toList by simp) hstamps.2
  have hsb := sibling_ne_self b "staging" stamps.staging
  have hvb := sibling_ne_self b "previous" stamps.previous
  have hsv := staging_ne_previous b stamps.staging stamps.previous
  -- the build changed nothing beside the staging place
  have hout := hbuilt.2
  simp only [siblingPlace_append hb] at hfree hout hS
  have hP₀dir₁ : h₁.disk.get? P₀ = some .dir :=
    (hout P₀ (not_prefix_of_append (by simp))).trans hP₀dir
  have hsw := stagedWrite_of_build hbuilt.1 hP₀ hb hstamps hreal hbuild hP₀dir₁
    ((hout _ (beside_apart hsb).1).trans hR) (by rw [siblingPlace_append hb]; exact hS)
    (by rw [siblingPlace_append hb, hout _ (not_prefix_beside hsv (List.prefix_refl _))]
        exact hfree.2)
  simp only [siblingPlace_append hb] at hsw ⊢
  have hsame := swapIn_sameOff hbuilt.1 hP₀ hb hv hsb hvb hP₀dir₁ hwf hfree.1 hfree.2
    ⟨hbuilt.1, hout⟩
  have htarget := get?_swapIn_target hbuilt.1 hP₀ hb hv hsb hvb hsv hP₀dir₁
  refine ⟨_, hsw, hsame.1, fun q hq => ?_, htarget⟩
  by_cases hqT : P₀ ++ [b] <+: q
  · -- the folder itself is a directory before and after
    obtain rfl : P₀ ++ [b] = q := by_contra fun hne => hq ⟨hqT, hne⟩
    have hself := htarget []
    rw [List.append_nil, List.append_nil, hS] at hself
    rw [hself, hR]
  · exact (hsame.2 q hqT).symm

end swap

section staged

variable {stamps : Stamps} (hwf : h.disk.Wf) (hQR : ∀ n ∈ QR, IsName n)
  (hQO : ∀ n ∈ QO, IsName n)
  (hstable : ∀ d, AgreeOutside PR h.disk d → d.LeadsTo QR PR ∧ d.LeadsTo QO PO)
  (hdisj : ¬ PR <+: PO ∧ ¬ PO <+: PR)
  (hkeep : ∀ rel, rel ≠ [] → h.disk.get? (PR ++ rel) ≠ none →
    m.test (ofPlace (QR ++ rel)) = .ok (keep rel))
  (hspecial : ∀ y, (h.disk.pruneBelow PR keep).get? (PR ++ y) ≠ some .fifo)
  (hreal : h.disk.realpath (ofPlace QR) = .ok (ofPlace PR)) (hstamps : '/' ∉ stamps.staging.toList ∧ '/' ∉ stamps.previous.toList)
  (hfree : h.disk.get? (siblingPlace PR "staging" stamps.staging) = none ∧
    h.disk.get? (siblingPlace PR "previous" stamps.previous) = none)
include hwf hQR hQO hstable hdisj hkeep hspecial hreal hstamps hfree

/-- The staged write of the folder: when nothing the output tree writes clashes with the pruned
folder, it swaps, leaving below `PR` the tree laid over the pruned folder and every place not
strictly below `PR` as it was; otherwise it fails by a failed call. -/
theorem stagedWrite_lays :
    (Fits (· ≠ []) PO PR (h.disk.pruneBelow PR keep) →
      (stagedWrite (ofPlace QR) (ofPlace QO) m stamps).Gives h fun r d' =>
        r = .swapped ∧ Written h.disk PR PO keep d') ∧
    (¬ Fits (· ≠ []) PO PR (h.disk.pruneBelow PR keep) →
      ∃ e h', (stagedWrite (ofPlace QR) (ofPlace QO) m stamps).run.run h = (.error e, h') ∧
        e.IsIO) := by
  have hR : h.disk.get? PR = some .dir := ((hstable h.disk (AgreeOutside.refl _ _)).1.dir hwf).1
  have hO : h.disk.get? PO = some .dir := ((hstable h.disk (AgreeOutside.refl _ _)).2.dir hwf).1
  -- the folder is not the root, which lies above the output tree
  have hPR : PR ≠ [] := fun h' => hdisj.1 (h' ▸ List.nil_prefix)
  obtain ⟨P₀, b, rfl, hP₀, hb, hP₀dir⟩ := hwf.parent_of_get? hPR hR
  obtain ⟨hs, hsibS⟩ := sibling_beside hP₀ hb (show '/' ∉ "staging".toList by simp) hstamps.1
  have hfreeS : h.disk.get? (P₀ ++ ["." ++ b ++ "." ++ "staging" ++ "-" ++ stamps.staging]) = none := by
    rw [← siblingPlace_append hb]
    exact hfree.1
  have hsb := sibling_ne_self b "staging" stamps.staging
  -- the output tree is neither at nor above the staging place
  have hOS : ¬ PO <+: P₀ ++ ["." ++ b ++ "." ++ "staging" ++ "-" ++ stamps.staging] := fun hPO => by
    rcases List.prefix_concat_iff.mp hPO with rfl | hPO
    · rw [hfreeS] at hO
      cases hO
    · exact hdisj.2 (hPO.trans (List.prefix_append P₀ [b]))
  obtain ⟨hbuild, hbuild_fail⟩ := buildStaging_copies hwf hQR hQO hstable hdisj hkeep (by simp)
    (List.forall_mem_append.mpr ⟨hP₀, by simpa using hs⟩) (by simpa using hP₀dir) hfreeS
    (beside_apart hsb) hOS hspecial
  refine ⟨fun hfit => ?_, fun hfit => ?_⟩
  · obtain ⟨_, d₃, hrun₃, hwf₃, hout₃, hS₃, hlaid₃⟩ := hbuild hfit
    obtain ⟨d', hsw, hwf', hagree, htarget⟩ := stagedWrite_swaps hwf hP₀ hb hstamps hreal hP₀dir hR
      hfree (by rw [siblingPlace_append hb]; exact hrun₃)
      ⟨hwf₃, by rw [siblingPlace_append hb]; exact hout₃⟩ (by rw [siblingPlace_append hb]; exact hS₃)
    refine Gives.of_run hsw ⟨rfl, hwf', hagree, fun y hy => ?_⟩
    rw [htarget, siblingPlace_append hb, hlaid₃ y hy]
  · obtain ⟨e, h₁, hrun₁, he⟩ := hbuild_fail hfit
    obtain ⟨h₂, hsw, -⟩ := stagedWrite_of_build_failure hwf hstamps.1 hreal
      (by rw [hsibS, lstat?_child hP₀ hs (leadsTo_self hwf hP₀dir), hfreeS])
      (show ((buildStaging (ofPlace QR) (ofPlace QO) m
        (siblingPath (ofPlace (P₀ ++ [b])) "staging" stamps.staging)).run.run h).1 = .error e by
          rw [hsibS, hrun₁])
    exact ⟨e, h₂, hsw, he⟩

end staged

/-- The staged write and the write in place agree. Take a well formed disk where the path `QR`
of the folder leads to its directory `PR` whatever happens below it and its real path names
`PR`, the path `QO` of the output tree leads to a directory apart from `PR`, the matcher answers
`keep` below the folder, deleting in place would keep no special file, and the staging and
previous siblings of `PR` are free. Then the staged write swaps exactly when deleting and
copying in place succeeds, and both then leave the same entry at every place at or below `PR`;
otherwise both fail with an I/O failure. -/
theorem stagedWrite_matches_inPlace {stamps : Stamps} (hwf : h.disk.Wf)
    (hQR : ∀ n ∈ QR, IsName n) (hQO : ∀ n ∈ QO, IsName n)
    (hstable : ∀ d, AgreeOutside PR h.disk d → d.LeadsTo QR PR ∧ d.LeadsTo QO PO)
    (hdisj : ¬ PR <+: PO ∧ ¬ PO <+: PR)
    (hkeep : ∀ rel, rel ≠ [] → h.disk.get? (PR ++ rel) ≠ none →
      m.test (ofPlace (QR ++ rel)) = .ok (keep rel))
    (hspecial : ∀ y, (h.disk.pruneBelow PR keep).get? (PR ++ y) ≠ some .fifo)
    (hreal : h.disk.realpath (ofPlace QR) = .ok (ofPlace PR)) 
    (hstamps : '/' ∉ stamps.staging.toList ∧ '/' ∉ stamps.previous.toList)
    (hfree : h.disk.get? (siblingPlace PR "staging" stamps.staging) = none ∧
      h.disk.get? (siblingPlace PR "previous" stamps.previous) = none) :
    let staged := (stagedWrite (ofPlace QR) (ofPlace QO) m stamps).run.run h
    let inPlace := (deleteRecursively (ofPlace QR) m >>= fun _ =>
      copyRecursively (ofPlace QO) (ofPlace QR)).run.run h
    (staged.1 = .ok .swapped ↔ ∃ n, inPlace.1 = .ok n) ∧
    (staged.1 = .ok .swapped → ∀ y, staged.2.disk.get? (PR ++ y) = inPlace.2.disk.get? (PR ++ y)) ∧
    (staged.1 ≠ .ok .swapped → ∃ e e', staged.1 = .error e ∧ inPlace.1 = .error e' ∧
      e.name = "IOFailure" ∧ e'.name = "IOFailure") := by
  obtain ⟨hstaged, hstaged_fail⟩ := stagedWrite_lays hwf hQR hQO hstable hdisj hkeep hspecial hreal
    hstamps hfree
  obtain ⟨hclean, hclean_fail⟩ := clean_then_copy hQR hQO hstable hdisj hwf hkeep
  dsimp only
  by_cases hfit : Fits (· ≠ []) PO PR (h.disk.pruneBelow PR keep)
  · obtain ⟨_, dS, hrunS, rfl, hw⟩ := hstaged hfit
    obtain ⟨n, dI, hrunI, hcop⟩ := hclean hfit
    rw [hrunS, hrunI]
    refine ⟨iff_of_true rfl ⟨n, rfl⟩, fun _ y => ?_, fun hne => absurd rfl hne⟩
    rcases eq_or_ne y [] with rfl | hy
    · -- the folder itself is as it was on both sides
      rw [List.append_nil, ← hw.outside PR fun h' => h'.2 rfl,
        hcop.same _ fun y hy he => hy (by simpa using he.symm),
        get?_pruneBelow_outside fun h' => h'.2 rfl]
    · rw [hw.below y hy, hcop.laid y hy, copiedFrom_pruneBelow hdisj]
  · -- in place, the copy meets no FIFO, since the delete keeps none
    obtain ⟨e, h₂, hrunS, he⟩ := hstaged_fail hfit
    obtain ⟨e', h', hrunI, he'⟩ := hclean_fail hfit
    rw [hrunS, hrunI]
    exact ⟨iff_of_false (by simp) (by simp), fun h' => by simp at h',
      fun _ => ⟨e, e', rfl, rfl, he.name, (he'.isIO fun y _ => hspecial y).name⟩⟩

/-- Writing a one-file tree into a folder holding a file `a` that the pattern `a` keeps and a
file `b` that it does not: the staged write, with two different stamps, and the write in place
agree. -/
theorem stagedWrite_matches_inPlace_keeping_file :
    let h : Host := ⟨⟨[(["r"], .dir), (["r", "a"], .file "x" 420), (["r", "b"], .file "z" 420),
      (["o"], .dir), (["o", "f"], .file "y" 420)]⟩, []⟩
    let m : PathMatcher := ⟨Host.workDir, ofPlace ["r"], [Utf16.ofString "a"]⟩
    let staged := (stagedWrite (ofPlace ["r"]) (ofPlace ["o"]) m ⟨"1", "2"⟩).run.run h
    let inPlace := (deleteRecursively (ofPlace ["r"]) m >>= fun _ =>
      copyRecursively (ofPlace ["o"]) (ofPlace ["r"])).run.run h
    (staged.1 = .ok .swapped ↔ ∃ n, inPlace.1 = .ok n) ∧
    (staged.1 = .ok .swapped →
      ∀ y, staged.2.disk.get? (["r"] ++ y) = inPlace.2.disk.get? (["r"] ++ y)) ∧
    (staged.1 ≠ .ok .swapped → ∃ e e', staged.1 = .error e ∧ inPlace.1 = .error e' ∧
      e.name = "IOFailure" ∧ e'.name = "IOFailure") := by
  intro h m
  set d : Disk := ⟨[(["r"], .dir), (["r", "a"], .file "x" 420), (["r", "b"], .file "z" 420),
    (["o"], .dir), (["o", "f"], .file "y" 420)]⟩
  have hwf : d.Wf := ⟨by decide, by decide, by decide, by decide⟩
  -- both paths lead to their directories through the root, whatever is below the folder
  have hstable : ∀ d', AgreeOutside ["r"] d d' →
      d'.LeadsTo ["r"] ["r"] ∧ d'.LeadsTo ["o"] ["o"] := by
    intro d' hd'
    have hr : d'.get? ["r"] = some .dir := (hd' ["r"] (by decide)).symm.trans (by decide)
    have ho : d'.get? ["o"] = some .dir := (hd' ["o"] (by decide)).symm.trans (by decide)
    exact ⟨leadsTo_root_child (by decide) hr,
      leadsTo_root_child (by decide) ho⟩
  -- the pattern `a` keeps the path of its own name and no other
  have hkeep : ∀ rel, rel ≠ [] → d.get? (["r"] ++ rel) ≠ none →
      m.test (ofPlace (["r"] ++ rel)) = .ok (rel == ["a"]) := by
    intro rel _ hne
    obtain ⟨k, hk⟩ := Option.ne_none_iff_exists'.mp hne
    exact PathMatcher.test_of_name _ _ _ (hwf.names_of_get? hk) (by decide) (by decide +kernel)
  -- no special file is on the disk
  have hspecial : ∀ y, (d.pruneBelow ["r"] fun rel => rel == ["a"]).get? (["r"] ++ y) ≠
      some .fifo := by
    intro y hy
    have hmem := mem_of_get? (by simp) (get?_of_pruneBelow hy)
    simp [d] at hmem
  have hS := siblingPlace_append (P := []) (b := "r") (by decide) "staging" "1"
  have hV := siblingPlace_append (P := []) (b := "r") (by decide) "previous" "2"
  rw [List.nil_append] at hS hV
  exact stagedWrite_matches_inPlace hwf (by decide) (by decide) hstable (by decide) hkeep hspecial
    (realpath_of_dir hwf (by simp) (by decide)) (by decide)
    ⟨by rw [hS]; decide, by rw [hV]; decide⟩

end Tree

end FolderSink
