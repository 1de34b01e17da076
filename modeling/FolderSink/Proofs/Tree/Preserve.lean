import FolderSink.Proofs.Tree.Delete
import FolderSink.Proofs.Tree.Frame
import FolderSink.Proofs.Path.Scope
/-!
Copying the kept entries of a directory into a staging directory. The copy visits the
entries below the directory, the entries of a directory before the directory itself: it
copies a file or a link that the matcher keeps, making the directories on the way down to
it, and makes a directory that is kept or holds something kept. So the staging directory
ends up holding what deleting in place leaves below the directory (`pruneBelow`), when no
special file is below it. Main statements:

* `preserve_specs`: with enough fuel, copying the kept entries below a directory stays below
  the staging place, lays there what `preserved` says and counts the files and links kept;
* `copyPreserved_stages_pruned_tree`: the copy of a staged write, with the fuel it is given.
-/

namespace FolderSink

namespace Disk

variable {d : Disk} {R X p y x : Place} {keep : Place → Bool} {k : Kind}

/-- What a copy of the kept entries below `R` writes at the place `y` below the staging place:
the directory, file or link at `R ++ y` when it holds a kept entry, and nothing for a special
file. -/
def preserved (d : Disk) (R : Place) (keep : Place → Bool) (y : Place) : Option Kind :=
  if d.holdsKept R keep (R ++ y) then d.copiedFrom R y else none

theorem preserved_of_none (h : d.get? (R ++ y) = none) : d.preserved R keep y = none := by
  simp [preserved, copiedFrom, h]

/-- Nothing at or below a place that holds no kept entry is copied. -/
theorem preserved_of_not_held (hh : d.holdsKept R keep (R ++ x) = false) (hxy : x <+: y) :
    d.preserved R keep y = none := by
  have hy : d.holdsKept R keep (R ++ y) = false := Bool.eq_false_iff.mpr fun h' => by
    simpa [hh] using holdsKept_mono ((List.prefix_append_right_inj R).mpr hxy) h'
  simp [preserved, hy]

theorem preserved_eq_pruneBelow (hy : y ≠ []) :
    d.preserved R keep y = ((d.pruneBelow R keep).get? (R ++ y)).bind Kind.copied := by
  rw [get?_pruneBelow_append hy, preserved, copiedFrom]
  split <;> rfl

theorem preserved_eq (hh : d.holdsKept R keep (R ++ y) = true) (hk : d.get? (R ++ y) = some k) :
    d.preserved R keep y = k.copied := by
  rw [preserved, if_pos hh, copiedFrom_eq hk]

/-- Nothing is below a leaf, so it holds a kept entry exactly when it is kept itself. -/
theorem holdsKept_leaf (hd : d.Wf) (hp : p ≠ []) (hk : d.get? p = some k) (hkd : k ≠ .dir) :
    d.holdsKept R keep p = keep (p.drop R.length) := by
  rw [Bool.eq_iff_iff, holdsKept_iff_self_or_child hd hp hk]
  refine ⟨fun h' => h'.elim id fun ⟨n, hn⟩ => ?_, .inl⟩
  rw [holdsKept_of_none hd (hd.none_under_leaf hk hkd (under_append (x := [n]) (by simp)))] at hn
  cases hn

theorem get?_of_pruneBelow (h : (d.pruneBelow R keep).get? X = some k) : d.get? X = some k := by
  rw [get?_pruneBelow] at h
  split at h
  · cases h
  · exact h

/-- The pruned tree counts no file or link at a directory itself. -/
theorem Wf.filesWithin_pruneBelow_dir (hd : d.Wf) (hX : X ≠ []) (hk : d.get? X = some .dir) :
    (d.pruneBelow R keep).filesWithin X = (d.pruneBelow R keep).filesBelow X := by
  have hP : (d.pruneBelow R keep).Wf := hd.pruneBelow
  rcases hX' : (d.pruneBelow R keep).get? X with _ | k'
  · exact hP.filesWithin_of_none hX'
  · obtain rfl : k' = .dir := Option.some.inj ((get?_of_pruneBelow hX').symm.trans hk)
    rw [hP.filesWithin_eq hX hX']
    simp [Kind.isFileOrLink]

/-- The pruned tree counts a leaf below `R` once when it is a kept file or link. -/
theorem Wf.filesWithin_pruneBelow_leaf (hd : d.Wf) (hy : y ≠ []) (hk : d.get? (R ++ y) = some k)
    (hkd : k ≠ .dir) :
    (d.pruneBelow R keep).filesWithin (R ++ y) =
      if d.holdsKept R keep (R ++ y) then (if k.isFileOrLink then 1 else 0) else 0 := by
  have hP : (d.pruneBelow R keep).Wf := hd.pruneBelow
  have hget : (d.pruneBelow R keep).get? (R ++ y) =
      if d.holdsKept R keep (R ++ y) then d.get? (R ++ y) else none := get?_pruneBelow_append hy
  have hleaf : (d.pruneBelow R keep).get? (R ++ y) ≠ some .dir := by
    rw [hget, hk]
    split <;> simp [hkd]
  cases hh : d.holdsKept R keep (R ++ y)
  · rw [hh, hk] at hget
    rw [hP.filesWithin_of_none hget, hP.filesBelow_leaf hleaf]
    rfl
  · rw [hh, if_pos rfl, hk] at hget
    rw [hP.filesWithin_eq (by simp [hy]) hget, hP.filesBelow_leaf hleaf]
    rfl

theorem DirsTo.get?_dir {P rel : Place} (hdirs : d.DirsTo P rel) (hP : d.get? P = some .dir)
    (hx : x <+: rel) : d.get? (P ++ x) = some .dir := by
  rcases eq_or_ne x [] with rfl | hne
  · simpa using hP
  · exact hdirs x hne hx

end Disk

namespace Tree

open Disk FolderSink.Path Act

/-- A disk the copy meets: well formed, changed from `base` only strictly below the staging
place `S`, where each place holds nothing or what the same place below `PR` holds in
`base`. -/
structure Staged (base : Disk) (PR S : Place) (d : Disk) : Prop where
  wf : d.Wf
  outside : ∀ q, ¬ Under S q → d.get? q = base.get? q
  sound : ∀ y, y ≠ [] → d.get? (S ++ y) = none ∨ d.get? (S ++ y) = base.get? (PR ++ y)

variable {base d d' : Disk} {QR PR S : Place} {m : PathMatcher} {keep : Place → Bool}

theorem Staged.refl (hwf : base.Wf) (hempty : ∀ y, y ≠ [] → base.get? (S ++ y) = none) :
    Staged base PR S base :=
  ⟨hwf, fun _ _ => rfl, fun y hy => .inl (hempty y hy)⟩

section context

variable (hwf : base.Wf) (hSdir : base.get? S = some .dir) (hdisj : ¬ S <+: PR ∧ ¬ PR <+: S)

include hdisj in
/-- The source is never at or below the staging place. -/
theorem source_apart (y : Place) : ¬ S <+: PR ++ y := by
  intro h
  rcases List.prefix_or_prefix_of_prefix h (List.prefix_append PR y) with h' | h'
  · exact hdisj.1 h'
  · exact hdisj.2 h'

include hdisj in
theorem Staged.source (hs : Staged base PR S d) (y : Place) :
    d.get? (PR ++ y) = base.get? (PR ++ y) :=
  hs.outside _ fun hU => source_apart hdisj y hU.1

include hwf hSdir in
/-- The places on the way down to the staging place are directories. -/
theorem dir_above_staging {x : Place} (hx : x <+: S) : base.get? x = some .dir := by
  rcases eq_or_ne x S with rfl | hne
  · exact hSdir
  · exact hwf.dir_of_under ⟨hx, hne⟩ hSdir

include hwf hSdir in
/-- The places on the way down to a place below the staging place, whose source places are
directories, are each missing or a directory. -/
theorem Staged.way {z : Place} (hs : Staged base PR S d)
    (hz : ∀ x, x <+: z → base.get? (PR ++ x) = some .dir) :
    ∀ x, x <+: S ++ z → d.get? x = none ∨ d.get? x = some .dir := by
  intro x hx
  rcases List.prefix_or_prefix_of_prefix hx (List.prefix_append S z) with h | h
  · -- on the way down to the staging place
    right
    rw [hs.outside x (not_under_of_above h)]
    exact dir_above_staging hwf hSdir h
  · obtain ⟨w, rfl⟩ := h
    rcases eq_or_ne w [] with rfl | hw
    · right
      rw [List.append_nil, hs.outside S (not_under_of_above (List.prefix_refl S))]
      exact hSdir
    · rcases hs.sound w hw with h' | h'
      · exact .inl h'
      · exact .inr (h'.trans (hz w ((List.prefix_append_right_inj S).mp hx)))

include hwf hSdir in
/-- Making the directories down to a place below the staging place, whose source places are
directories, keeps the copy sound. -/
theorem Staged.ensure {z : Place} (hs : Staged base PR S d)
    (hz : ∀ x, x <+: z → base.get? (PR ++ x) = some .dir) (hd' : d'.Wf)
    (hget : ∀ q, d'.get? q = if q <+: S ++ z then some .dir else d.get? q) :
    Staged base PR S d' where
  wf := hd'
  outside q hq := by
    rw [hget, ← hs.outside q hq]
    split
    · -- a place made that is not below the staging place is on the way down to it
      rename_i hqz
      rcases List.prefix_or_prefix_of_prefix hqz (List.prefix_append S z) with h | h
      · rw [hs.outside q hq]
        exact (dir_above_staging hwf hSdir h).symm
      · have hqS : q = S := by
          by_contra hne
          exact hq ⟨h, fun h' => hne h'.symm⟩
        rw [hqS, hs.outside S (not_under_of_above (List.prefix_refl S))]
        exact hSdir.symm
    · rfl
  sound y hy := by
    rw [hget]
    split
    · right
      exact (hz y ((List.prefix_append_right_inj S).mp ‹_›)).symm
    · exact hs.sound y hy

/-- Setting a place below the staging place to what its source holds keeps the copy sound. -/
theorem Staged.setsAt {z : Place} {k : Kind} (hs : Staged base PR S d) (hz : z ≠ [])
    (hk : base.get? (PR ++ z) = some k) (hset : SetsAt (S ++ z) (some k) d d') :
    Staged base PR S d' where
  wf := hset.wf
  outside q hq := by
    rw [hset.other q fun h => hq (h ▸ under_append hz), hs.outside q hq]
  sound y hy := by
    by_cases hyz : y = z
    · subst hyz
      right
      rw [hset.here, hk]
    · rw [hset.other _ fun h => hyz (List.append_cancel_left h)]
      exact hs.sound y hy

include hwf hdisj in
/-- The path of a source directory leads to it all along the copy. -/
theorem Staged.leadsTo_source {rel : Place} (hs : Staged base PR S d)
    (hdir : base.get? (PR ++ rel) = some .dir) : d.LeadsTo (PR ++ rel) (PR ++ rel) :=
  leadsTo_self_of_way hwf hdir d fun x hx =>
    hs.outside x fun hU => source_apart hdisj rel (hU.1.trans hx)

end context

/-- Removing a tree below the staging place keeps the copy sound. -/
theorem Staged.removeTree {X : Place} (hs : Staged base PR S d) (hX : Under S X) :
    Staged base PR S (d.removeTree X) := by
  have hXne : X ≠ [] := fun h => by
    subst h
    exact hX.2 (List.prefix_nil.mp hX.1)
  refine ⟨hs.wf.removeTree hXne, fun q hq => ?_, fun y hy => ?_⟩
  · rw [get?_removeTree hXne, if_neg fun h => hq (hX.extend h), hs.outside q hq]
  · rw [get?_removeTree hXne]
    split
    · exact .inl rfl
    · exact hs.sound y hy

/-- `d'` is `d` with the entries of `base` below `PR ++ rel` that hold a kept entry, at the
places that `sel` picks, laid at the same places below `S ++ rel`, special files skipped;
when `kept`, the directories down to `S ++ rel` are made; every other place is as before. -/
structure PreservedAt (base : Disk) (PR S : Place) (keep : Place → Bool) (sel : Place → Prop)
    (rel : Place) (kept : Bool) (d d' : Disk) : Prop where
  wf : d'.Wf
  laid : ∀ y, sel y → d'.get? (S ++ rel ++ y) = base.preserved PR keep (rel ++ y)
  same : ∀ q, (∀ y, sel y → q ≠ S ++ rel ++ y) →
    d'.get? q = if kept = true ∧ q <+: S ++ rel then some .dir else d.get? q

section laid

variable {d₁ d₂ : Disk} {rel : Place} {n : String} {k : Kind} {s s' : Place → Prop} {kept : Bool}

theorem PreservedAt.of_iff (h : PreservedAt base PR S keep s rel kept d d')
    (hiff : ∀ y, s y ↔ s' y) : PreservedAt base PR S keep s' rel kept d d' where
  wf := h.wf
  laid y hy := h.laid y ((hiff y).mpr hy)
  same q hq := h.same q fun y hy => hq y ((hiff y).mp hy)

theorem preservedAt_none (hd : d.Wf) : PreservedAt base PR S keep (fun _ => False) rel false d d :=
  ⟨hd, fun _ h => h.elim, fun _ _ => by simp⟩

/-- Copies of places that do not overlap compose; the directories down to `S ++ rel` are made
when either made them. -/
theorem PreservedAt.union {k₁ k₂ : Bool} (h₁ : PreservedAt base PR S keep s rel k₁ d d₁)
    (h₂ : PreservedAt base PR S keep s' rel k₂ d₁ d₂) (hne : ∀ y, s y → y ≠ [])
    (hdisj : ∀ y, s' y → ¬ s y) :
    PreservedAt base PR S keep (fun y => s y ∨ s' y) rel (k₁ || k₂) d d₂ := by
  refine ⟨h₂.wf, ?_, fun q hq => ?_⟩
  · rintro y (hy | hy)
    · rw [h₂.same _ fun y' hy' heq => hdisj y' hy' (List.append_cancel_left heq ▸ hy),
        if_neg fun h' => not_prefix_of_shorter (List.prefix_refl rel) (hne y hy) h'.2]
      exact h₁.laid y hy
    · exact h₂.laid y hy
  · rw [h₂.same q fun y hy => hq y (.inr hy), h₁.same q fun y hy => hq y (.inl hy)]
    by_cases hqS : q <+: S ++ rel <;> cases k₁ <;> cases k₂ <;> simp [hqS]

/-- A copy also covers more places, where there is nothing and nothing is to be laid. -/
theorem PreservedAt.widen (h : PreservedAt base PR S keep s rel kept d d')
    (hsub : ∀ y, s y → s' y) (hne : ∀ y, s' y → y ≠ [])
    (hnone : ∀ y, s' y → ¬ s y →
      d.get? (S ++ rel ++ y) = none ∧ base.preserved PR keep (rel ++ y) = none) :
    PreservedAt base PR S keep s' rel kept d d' := by
  refine ⟨h.wf, fun y hy => ?_, fun q hq => h.same q fun y hy => hq y (hsub y hy)⟩
  by_cases hs : s y
  · exact h.laid y hs
  · rw [h.same _ fun y' hy' heq => hs (by rw [List.append_cancel_left heq]; exact hy'),
      if_neg fun h' => not_prefix_of_shorter (List.prefix_refl rel) (hne y hy) h'.2,
      (hnone y hy hs).1, (hnone y hy hs).2]

/-- An entry that holds no kept entry: nothing changes, and nothing is to be laid there. -/
theorem preservedAt_unheld (hd : d.Wf) (hh : base.holdsKept PR keep (PR ++ rel ++ [n]) = false)
    (hfresh : ∀ y, [n] <+: y → d.get? (S ++ rel ++ y) = none) :
    PreservedAt base PR S keep ([n] <+: ·) rel false d d := by
  refine ⟨hd, fun y hy => ?_, fun _ _ => by simp⟩
  rw [hfresh y hy, preserved_of_not_held (x := rel ++ [n]) (by rwa [← List.append_assoc])
    ((List.prefix_append_right_inj rel).mpr hy)]

/-- A kept leaf: the directories down to `S ++ rel` made, then the leaf written, unless it is a
special file. -/
theorem preservedAt_leafKept (hbase : base.Wf)
    (hmade : ∀ q, d₁.get? q = if q <+: S ++ rel then some .dir else d.get? q)
    (hset : SetsAt (S ++ rel ++ [n]) (base.preserved PR keep (rel ++ [n])) d₁ d₂)
    (hsrc : base.get? (PR ++ rel ++ [n]) = some k) (hkd : k ≠ .dir)
    (hfresh : ∀ z, z ≠ [] → d.get? (S ++ rel ++ ([n] ++ z)) = none) :
    PreservedAt base PR S keep ([n] <+: ·) rel true d d₂ := by
  refine ⟨hset.wf, ?_, fun q hq => ?_⟩
  · rintro y ⟨z, rfl⟩
    by_cases hz : z = []
    · subst hz
      simpa using hset.here
    · -- below a leaf there is nothing, in the source as in the staging place
      have hnone : base.get? (PR ++ (rel ++ ([n] ++ z))) = none := by
        simpa using hbase.none_under_leaf hsrc hkd (under_append hz)
      rw [hset.other _ (by simpa using hz), hmade,
        if_neg (not_prefix_of_shorter (List.prefix_refl rel) (by simp)), hfresh z hz,
        preserved_of_none hnone]
  · rw [hset.other q (hq [n] (List.prefix_refl _)), hmade]
    simp

/-- A directory: its entries laid below `S ++ rel ++ [n]`, then the directory made when it
holds a kept entry, which it does when something below it is kept. -/
theorem preservedAt_dir {kb : Bool}
    (hbelow : PreservedAt base PR S keep (· ≠ []) (rel ++ [n]) kb d d₁)
    (hmade : ∀ q, d₂.get? q = if kept = true ∧ q <+: S ++ rel ++ [n] then some .dir else d₁.get? q)
    (hd₂ : d₂.Wf) (hkb : kb = true → kept = true)
    (hkept : kept = base.holdsKept PR keep (PR ++ rel ++ [n]))
    (hsrc : base.get? (PR ++ rel ++ [n]) = some .dir) (hfresh : d.get? (S ++ rel ++ [n]) = none) :
    PreservedAt base PR S keep ([n] <+: ·) rel kept d d₂ := by
  refine ⟨hd₂, ?_, fun q hq => ?_⟩
  · rintro y ⟨z, rfl⟩
    by_cases hz : z = []
    · subst hz
      rw [List.append_nil, hmade]
      cases kept
      · -- not kept: nothing below was kept either, and the place is as it was
        have hkb' : kb = false := Bool.eq_false_iff.mpr fun h' => by simpa using hkb h'
        rw [if_neg (by simp), hbelow.same _ fun y hy heq => hy (by simpa using heq), hkb', hfresh,
          preserved_of_not_held (x := rel ++ [n]) (by rw [← List.append_assoc]; exact hkept.symm)
            (List.prefix_refl _)]
        simp
      · rw [if_pos ⟨rfl, List.prefix_refl _⟩,
          preserved_eq (by rw [← List.append_assoc]; exact hkept.symm) (by rwa [← List.append_assoc])]
        rfl
    · rw [hmade, if_neg fun h' => not_prefix_of_shorter (P := S)
        (List.prefix_refl (rel ++ [n])) hz (by simpa using h'.2)]
      simpa using hbelow.laid z hz
  · have hqn : q ≠ S ++ rel ++ [n] := hq [n] (List.prefix_refl _)
    have hiff : q <+: S ++ rel ++ [n] ↔ q <+: S ++ rel := by
      rw [List.prefix_concat_iff]
      exact ⟨fun h' => h'.resolve_left hqn, .inr⟩
    rw [hmade, hbelow.same q fun y hy heq => hq ([n] ++ y) (List.prefix_append _ _) (by simpa using heq),
      ← List.append_assoc]
    simp only [hiff]
    by_cases hqS : q <+: S ++ rel <;> cases kept <;> cases kb <;> simp [hqS] at hkb ⊢

end laid


section specs

variable (base QR PR S m keep)

/-- Copying with fuel `f` the kept entries below the directory `PR ++ rel`, read through the
path of `QR ++ rel`, to below `S ++ rel`, where nothing is yet: the disk stays staged, the kept entries are laid, the result
says whether an entry holds a kept entry, and counts the files and links of the pruned tree
below `PR ++ rel`. -/
def PreserveInSpec (f : Nat) : Prop :=
  ∀ rel (h : Host), Staged base PR S h.disk → (∀ n ∈ rel, IsName n) → base.DirsTo PR rel →
    (∀ y, y ≠ [] → h.disk.get? (S ++ rel ++ y) = none) → 2 * base.countBelow (PR ++ rel) < f →
    (preserveIn m f (ofPlace (QR ++ rel)) (ofPlace (S ++ rel))).Gives h fun r d' =>
      Staged base PR S d' ∧ PreservedAt base PR S keep (· ≠ []) rel r.1 h.disk d' ∧
      (r.1 = true ↔ ∃ n, base.holdsKept PR keep (PR ++ rel ++ [n]) = true) ∧
      r.2 = (base.pruneBelow PR keep).filesBelow (PR ++ rel)

/-- Copying with fuel `f` the kept ones among the entries `cs` of the directory `PR ++ rel`. -/
def PreserveEntriesSpec (f : Nat) : Prop :=
  ∀ rel (h : Host) (cs : List (String × Kind)), Staged base PR S h.disk →
    (∀ n ∈ rel, IsName n) → base.DirsTo PR rel → (cs.map Prod.fst).Nodup →
    (∀ c ∈ cs, base.get? (PR ++ rel ++ [c.1]) = some c.2) →
    (∀ y, (∃ c ∈ cs, [c.1] <+: y) → h.disk.get? (S ++ rel ++ y) = none) →
    (cs.map fun c => 2 * (base.countBelow (PR ++ rel ++ [c.1]) + 1)).sum ≤ f →
    (preserveEntries m f (ofPlace (QR ++ rel)) (ofPlace (S ++ rel)) cs).Gives h fun r d' =>
      Staged base PR S d' ∧
      PreservedAt base PR S keep (fun y => ∃ c ∈ cs, [c.1] <+: y) rel r.1 h.disk d' ∧
      r.1 = cs.any (fun c => base.holdsKept PR keep (PR ++ rel ++ [c.1])) ∧
      r.2 = (cs.map fun c => (base.pruneBelow PR keep).filesWithin (PR ++ rel ++ [c.1])).sum

end specs

/-- With no entries left, nothing is copied. -/
theorem preserveEntries_nil_spec (f : Nat) (rel : Place) {h : Host}
    (hs : Staged base PR S h.disk) :
    (preserveEntries m f (ofPlace (QR ++ rel)) (ofPlace (S ++ rel)) []).Gives h fun r d' =>
      Staged base PR S d' ∧
      PreservedAt base PR S keep (fun y => ∃ c ∈ ([] : List (String × Kind)), [c.1] <+: y) rel
        r.1 h.disk d' ∧
      r.1 = ([] : List (String × Kind)).any (fun c => base.holdsKept PR keep (PR ++ rel ++ [c.1])) ∧
      r.2 = (([] : List (String × Kind)).map fun c =>
        (base.pruneBelow PR keep).filesWithin (PR ++ rel ++ [c.1])).sum := by
  have hnil : preserveEntries m f (ofPlace (QR ++ rel)) (ofPlace (S ++ rel)) [] =
      pure (false, 0) := by
    cases f <;> rfl
  rw [hnil]
  exact Gives.pure _ ⟨hs, (preservedAt_none hs.wf).of_iff (by simp), rfl, rfl⟩

section run

variable (hwf : base.Wf) (hSdir : base.get? S = some .dir) (hdisj : ¬ S <+: PR ∧ ¬ PR <+: S)
  (hR : base.get? PR = some .dir) (hQR : ∀ n ∈ QR, IsName n)
  (hlead : ∀ d, Staged base PR S d → d.LeadsTo QR PR)
  (hkeep : ∀ rel, rel ≠ [] → base.get? (PR ++ rel) ≠ none → m.test (ofPlace (QR ++ rel)) = .ok (keep rel))

include hdisj hQR hlead in
/-- The path of a directory below the source leads to it all along the copy. -/
theorem Staged.leadsTo_via {rel : Place} (hs : Staged base PR S d) (hrel : ∀ n ∈ rel, IsName n)
    (hdirs : base.DirsTo PR rel) : d.LeadsTo (QR ++ rel) (PR ++ rel) :=
  leadsTo_append hQR (hlead d hs) rel hrel (hdirs.congr fun x _ _ => hs.source hdisj x)

include hwf hSdir in
/-- Making the directories down to a place below the staging place, whose source places are
directories. -/
theorem ensureDir_staged {h : Host} {z : Place} (hs : Staged base PR S h.disk) (hne : S ++ z ≠ [])
    (hz : ∀ x, x <+: z → base.get? (PR ++ x) = some .dir) (hn : ∀ m ∈ S ++ z, IsName m) :
    (ensureDir (ofPlace (S ++ z))).Leaves h fun d' =>
      Staged base PR S d' ∧ ∀ q, d'.get? q = if q <+: S ++ z then some .dir else h.disk.get? q := by
  obtain ⟨_, d', hrun, hwf', hget⟩ := ensureDir_run_way hs.wf hne hn (hs.way hwf hSdir hz)
  exact Leaves.of_run hrun ⟨hs.ensure hwf hSdir hz hwf' hget, hget⟩

include hdisj hQR hlead in
/-- Copying a kept leaf into the directory made for it below the staging place, where nothing
is yet: a file or a link is written and counted, a special file skipped. -/
theorem copyLeaf_staged {h : Host} {rel : Place} {n : String} {k : Kind}
    (hs : Staged base PR S h.disk) (hrel : ∀ m ∈ rel, IsName m) (hdirs : base.DirsTo PR rel)
    (hSn : ∀ m ∈ S ++ rel, IsName m) (hn : IsName n) (hSrel : h.disk.get? (S ++ rel) = some .dir)
    (hsrc : base.get? (PR ++ rel ++ [n]) = some k) (hkd : k ≠ .dir)
    (hnone : h.disk.get? (S ++ rel ++ [n]) = none) :
    (copyLeaf (ofPlace (QR ++ rel ++ [n])) (ofPlace (S ++ rel ++ [n])) k).Gives h fun wrote d' =>
      Staged base PR S d' ∧ SetsAt (S ++ rel ++ [n]) k.copied h.disk d' ∧
      (if wrote then 1 else 0) = if k.isFileOrLink then 1 else 0 := by
  by_cases hkf : k = .fifo
  · subst hkf
    rw [copyLeaf_fifo]
    exact Gives.pure _ ⟨hs, ⟨hs.wf, hnone, fun _ _ => rfl⟩, rfl⟩
  -- the target is missing, so removing it first changes nothing the copy reads
  have hU : Under S (S ++ rel ++ [n]) := by
    simpa using under_append (P := S) (x := rel ++ [n]) (by simp)
  have hs' := hs.removeTree hU
  have hsrc₁ : ∀ d, Staged base PR S d → d.get? (PR ++ rel ++ [n]) = some k := fun d hd => by
    rw [List.append_assoc, hd.source hdisj, ← List.append_assoc, hsrc]
  have hSrel' : (h.disk.removeTree (S ++ rel ++ [n])).get? (S ++ rel) = some .dir := by
    rw [get?_removeTree (by simp), if_neg (not_prefix_of_shorter (List.prefix_refl rel) (by simp)),
      hSrel]
  refine (copyLeaf_sets hs.wf hSn hn (leadsTo_self hs.wf hSrel)
    (List.forall_mem_append.mpr ⟨hQR, hrel⟩) hn (hs.leadsTo_via hdisj hQR hlead hrel hdirs)
    (hsrc₁ _ hs) hkd hkf (fun p hp => by rw [hnone] at hp; cases hp) (leadsTo_self hs'.wf hSrel')
    (hs'.leadsTo_via hdisj hQR hlead hrel hdirs) (hsrc₁ _ hs')).mono ?_
  rintro wrote d' ⟨rfl, hset⟩
  refine ⟨hs.setsAt (z := rel ++ [n]) (by simp) (by rw [← List.append_assoc, hsrc])
    (by simpa using hset), by rwa [Kind.copied_of_ne_fifo hkf], ?_⟩
  simp [Kind.isFileOrLink_of_ne hkd hkf]

/-- Once an entry is done, the other entries finish the list: nothing is yet at or below their
places, and what they lay does not meet what the entry laid. -/
theorem preserveEntries_rest {f : Nat} (hent : PreserveEntriesSpec base QR PR S m keep f)
    {rel : Place} {h : Host} {n : String} {k : Kind} {rest : List (String × Kind)}
    (hrel : ∀ m ∈ rel, IsName m) (hdirs : base.DirsTo PR rel)
    (hnotin : n ∉ rest.map Prod.fst) (hnd : (rest.map Prod.fst).Nodup)
    (hmem : ∀ c ∈ rest, base.get? (PR ++ rel ++ [c.1]) = some c.2)
    (hfresh : ∀ y, (∃ c ∈ (n, k) :: rest, [c.1] <+: y) → h.disk.get? (S ++ rel ++ y) = none)
    (hfuel : (rest.map fun c => 2 * (base.countBelow (PR ++ rel ++ [c.1]) + 1)).sum ≤ f)
    (here : Bool × Nat) {d₁ : Disk} (hs₁ : Staged base PR S d₁)
    (hat : PreservedAt base PR S keep ([n] <+: ·) rel here.1 h.disk d₁)
    (hkept : here.1 = base.holdsKept PR keep (PR ++ rel ++ [n]))
    (hcount : here.2 = (base.pruneBelow PR keep).filesWithin (PR ++ rel ++ [n])) :
    (preserveEntries m f (ofPlace (QR ++ rel)) (ofPlace (S ++ rel)) rest >>= fun more =>
      pure (here.1 || more.1, here.2 + more.2)).Gives { h with disk := d₁ } fun r d' =>
        Staged base PR S d' ∧
        PreservedAt base PR S keep (fun y => ∃ c ∈ (n, k) :: rest, [c.1] <+: y) rel r.1 h.disk d' ∧
        r.1 = ((n, k) :: rest).any (fun c => base.holdsKept PR keep (PR ++ rel ++ [c.1])) ∧
        r.2 = (((n, k) :: rest).map fun c =>
          (base.pruneBelow PR keep).filesWithin (PR ++ rel ++ [c.1])).sum := by
  -- the places of the other entries are apart from this one's, so still empty
  have hfresh₁ : ∀ y, (∃ c ∈ rest, [c.1] <+: y) → d₁.get? (S ++ rel ++ y) = none := by
    rintro y ⟨c, hc, hcy⟩
    rw [hat.same _ fun y' hy' heq => not_head_of_rest hnotin ⟨c, hc, hcy⟩
        (by rwa [List.append_cancel_left heq]),
      if_neg fun h' => not_prefix_of_shorter (List.prefix_refl rel) (ne_nil_of_head hcy) h'.2]
    exact hfresh y ⟨c, by simp [hc], hcy⟩
  refine Gives.bind (hent rel { h with disk := d₁ } rest hs₁ hrel hdirs hnd hmem hfresh₁ hfuel)
    fun more d₂ hmore => ?_
  obtain ⟨hs₂, hat₂, hkept₂, hcount₂⟩ := hmore
  refine Gives.pure _ ⟨hs₂, ?_, ?_, ?_⟩
  · exact (hat.union hat₂ (fun _ hy => ne_nil_of_head hy)
      fun _ hy => not_head_of_rest hnotin hy).of_iff (by simp)
  · simp [hkept, hkept₂]
  · simp [hcount, hcount₂]

include hwf hSdir hdisj hR hQR hlead hkeep in
/-- One more unit of fuel lets the copy handle a list of entries, given what a directory below
needs. -/
theorem preserveEntries_succ {f : Nat} (hin : PreserveInSpec base QR PR S m keep f)
    (hent : PreserveEntriesSpec base QR PR S m keep f) :
    PreserveEntriesSpec base QR PR S m keep (f + 1) := by
  intro rel h cs hs hrel hdirs hnd hmem hfresh hfuel
  cases cs with
  | nil => exact preserveEntries_nil_spec (f + 1) rel hs
  | cons c rest =>
    obtain ⟨n, k⟩ := c
    have hk : base.get? (PR ++ rel ++ [n]) = some k := hmem (n, k) (by simp)
    have hnames := hwf.names_of_get? hk
    have hn : IsName n := hnames n (by simp)
    have hQn : ∀ m ∈ QR ++ rel, IsName m := List.forall_mem_append.mpr ⟨hQR, hrel⟩
    have hSn : ∀ m ∈ S ++ rel, IsName m :=
      List.forall_mem_append.mpr ⟨hwf.names_of_get? hSdir, hrel⟩
    have hSne : S ≠ [] := fun hS => hdisj.1 (hS ▸ List.nil_prefix)
    have hdir : base.get? (PR ++ rel) = some .dir := DirsTo.get?_dir hdirs hR (List.prefix_refl rel)
    have htest : m.test (ofPlace (QR ++ rel ++ [n])) = .ok (keep (rel ++ [n])) := by
      rw [List.append_assoc]
      exact hkeep _ (by simp) (by rw [← List.append_assoc, hk]; simp)
    rw [List.map_cons, List.nodup_cons] at hnd
    rw [List.map_cons, List.sum_cons] at hfuel
    dsimp only at hnd hfuel
    have hfresh₀ : ∀ y, [n] <+: y → h.disk.get? (S ++ rel ++ y) = none :=
      fun y hy => hfresh y ⟨(n, k), by simp, hy⟩
    have hrest := preserveEntries_rest hent hrel hdirs hnd.1 hnd.2
      (fun c hc => hmem c (by simp [hc])) hfresh (by omega)
    by_cases hkd : k = .dir
    · -- a directory: its kept entries first, then the directory itself when it holds one
      subst hkd
      rw [preserveEntries]
      dsimp only
      rw [join_ofPlace hQn hn, join_ofPlace hSn hn]
      have hsub := hin (rel ++ [n]) h hs (List.forall_mem_append.mpr ⟨hrel, by simpa using hn⟩)
        (hdirs.snoc hk) (fun y _ => by simpa using hfresh₀ ([n] ++ y) (List.prefix_append _ _))
        (by rw [← List.append_assoc]; omega)
      simp only [← List.append_assoc] at hsub
      refine Gives.bind hsub fun r d₁ hmid => ?_
      obtain ⟨hs₁, hat₁, hkb, hcnt⟩ := hmid
      -- the directory holds a kept entry when something below it does, or it is kept itself
      have hheld : base.holdsKept PR keep (PR ++ rel ++ [n]) = (r.1 || keep (rel ++ [n])) := by
        rw [Bool.eq_iff_iff, holdsKept_iff_self_or_child hwf (by simp) hk, Bool.or_eq_true, hkb]
        simp [or_comm]
      have hcount : r.2 = (base.pruneBelow PR keep).filesWithin (PR ++ rel ++ [n]) :=
        hcnt.trans (hwf.filesWithin_pruneBelow_dir (by simp) hk).symm
      have hSn' : ∀ m ∈ S ++ rel ++ [n], IsName m := List.forall_mem_append.mpr ⟨hSn, by simpa using hn⟩
      have hens := ensureDir_staged hwf hSdir (h := { h with disk := d₁ }) hs₁ (z := rel ++ [n])
        (by simp) (fun x hx => DirsTo.get?_dir (hdirs.snoc hk) hR hx) (by simpa using hSn')
      rw [← List.append_assoc] at hens
      -- made, the directory is laid with what is below it
      have hmade : (r.1 || keep (rel ++ [n])) = true → ∀ d₂, Staged base PR S d₂ →
          (∀ q, d₂.get? q = if q <+: S ++ rel ++ [n] then some .dir else d₁.get? q) →
          PreservedAt base PR S keep ([n] <+: ·) rel true h.disk d₂ := fun hkt d₂ hs₂ hget =>
        preservedAt_dir hat₁ (fun q => (hget q).trans (by simp)) hs₂.wf (fun _ => rfl)
          (hheld.trans hkt).symm hk (hfresh₀ [n] (List.prefix_refl _))
      split
      · -- something below is kept, so the directory is made
        rename_i hr
        have hkt : (r.1 || keep (rel ++ [n])) = true := by simp [hr]
        refine Gives.run_bind rfl ?_
        rw [if_pos rfl]
        exact Gives.bind hens.gives fun _ d₂ hd₂ => Gives.run_bind rfl
          (hrest (true, r.2) hd₂.1 (hmade hkt d₂ hd₂.1 hd₂.2) (hheld.trans hkt).symm hcount)
      · -- nothing below is kept: the directory is made only when it is kept itself
        rename_i hr
        refine Gives.run_bind (run_test htest) ?_
        split
        · rename_i hkt'
          have hkt : (r.1 || keep (rel ++ [n])) = true := by simp [hkt']
          rw [hkt']
          exact Gives.bind hens.gives fun _ d₂ hd₂ => Gives.run_bind rfl
            (hrest (true, r.2) hd₂.1 (hmade hkt d₂ hd₂.1 hd₂.2) (hheld.trans hkt).symm hcount)
        · rename_i hkt'
          have hkf : (r.1 || keep (rel ++ [n])) = false := by simp [hr, hkt']
          rw [Bool.eq_false_iff.mpr hkt']
          exact Gives.run_bind rfl (hrest (false, r.2) hs₁ (preservedAt_dir hat₁ (fun q => by simp)
            hs₁.wf (fun h' => absurd h' hr) (hheld.trans hkf).symm hk
            (hfresh₀ [n] (List.prefix_refl _))) (hheld.trans hkf).symm hcount)
    · rw [preserveEntries]
      swap
      · exact hkd
      dsimp only
      rw [join_ofPlace hQn hn, join_ofPlace hSn hn]
      have hheld : base.holdsKept PR keep (PR ++ rel ++ [n]) = keep (rel ++ [n]) := by
        rw [holdsKept_leaf hwf (by simp) hk hkd]
        simp
      have hfiles : (base.pruneBelow PR keep).filesWithin (PR ++ rel ++ [n]) =
          if keep (rel ++ [n]) then (if k.isFileOrLink then 1 else 0) else 0 := by
        rw [List.append_assoc, hwf.filesWithin_pruneBelow_leaf (by simp)
          (by rwa [← List.append_assoc]) hkd, ← List.append_assoc, hheld]
      refine Gives.run_bind (run_test htest) ?_
      split
      · -- kept: the directories down to the staging place made, then the leaf copied
        rename_i hkt
        obtain ⟨_, d₁, hrun, hs₁, hget⟩ := ensureDir_staged hwf hSdir hs (z := rel)
          (List.append_ne_nil_of_left_ne_nil hSne rel) (fun x hx => DirsTo.get?_dir hdirs hR hx) hSn
        have hSrel : d₁.get? (S ++ rel) = some .dir := by rw [hget, if_pos (List.prefix_refl _)]
        have hnone₁ : d₁.get? (S ++ rel ++ [n]) = none := by
          rw [hget, if_neg (not_prefix_of_shorter (List.prefix_refl rel) (by simp)),
            hfresh₀ [n] (List.prefix_refl _)]
        refine Gives.run_bind hrun (Gives.bind (copyLeaf_staged hdisj hQR hlead
          (h := { h with disk := d₁ }) hs₁ hrel hdirs hSn hn hSrel hk hkd hnone₁) fun wrote d₂ hd₂ =>
            Gives.run_bind rfl (hrest _ hd₂.1 ?_ (by rw [hheld, hkt]) ?_))
        · obtain ⟨-, hset, -⟩ := hd₂
          have hpres : base.preserved PR keep (rel ++ [n]) = k.copied :=
            preserved_eq (by rw [← List.append_assoc, hheld, hkt]) (by rwa [← List.append_assoc])
          exact preservedAt_leafKept hwf hget (hpres ▸ hset) hk hkd
            fun z _ => hfresh₀ _ (List.prefix_append _ _)
        · rw [hfiles, if_pos hkt]
          exact hd₂.2.2
      · -- not kept: nothing is copied
        rename_i hkt
        have hkf : keep (rel ++ [n]) = false := Bool.eq_false_iff.mpr hkt
        refine Gives.run_bind rfl (hrest _ hs (preservedAt_unheld hs.wf (hheld.trans hkf) hfresh₀)
          (hheld.trans hkf).symm ?_)
        rw [hfiles, if_neg hkt]

include hwf hdisj hQR hlead in
/-- One more unit of fuel lets the copy read a directory and copy its kept entries. -/
theorem preserveIn_succ {f : Nat} (hent : PreserveEntriesSpec base QR PR S m keep f) :
    PreserveInSpec base QR PR S m keep (f + 1) := by
  intro rel h hs hrel hdirs hfresh hfuel
  have hsrc : ∀ y, h.disk.get? (PR ++ rel ++ y) = base.get? (PR ++ rel ++ y) := fun y => by
    rw [List.append_assoc, hs.source hdisj, ← List.append_assoc]
  have hchild : ∀ c ∈ h.disk.children (PR ++ rel), base.get? (PR ++ rel ++ [c.1]) = some c.2 :=
    fun c hc => (hsrc _).symm.trans ((mem_children hs.wf).mp hc)
  have hfuel' := sum_fuel_children_le hs.wf (fun c hc => by rw [hchild c hc]; simp) hfuel
  -- the entries read are every entry of the directory
  have hcover : ∀ n k, base.get? (PR ++ rel ++ [n]) = some k →
      (n, k) ∈ h.disk.children (PR ++ rel) := fun n k hk =>
    (mem_children hs.wf).mpr ((hsrc _).trans hk)
  have hpicks : ∀ y, (∃ c ∈ h.disk.children (PR ++ rel), [c.1] <+: y) → y ≠ [] := by
    rintro y ⟨c, -, hc⟩ rfl
    simp at hc
  -- a place below the directory that no entry read is on the way to holds nothing
  have hnone : ∀ y, y ≠ [] → ¬ (∃ c ∈ h.disk.children (PR ++ rel), [c.1] <+: y) →
      base.get? (PR ++ rel ++ y) = none := by
    intro y hy hn
    by_contra hne
    obtain ⟨k, hk⟩ := Option.ne_none_iff_exists'.mp hne
    obtain ⟨n, k', hn', hny⟩ := hwf.child_on_way (under_append hy) hk
    exact hn ⟨(n, k'), hcover n k' hn', (List.prefix_append_right_inj _).mp hny⟩
  -- the files and links of the pruned tree below the directory are those at or below its entries
  have hP : (base.pruneBelow PR keep).Wf := hwf.pruneBelow
  have hcount := hP.sum_filesWithin_children (hs.wf.nodup_children (PR ++ rel))
    fun n k hk => List.mem_map.mpr ⟨(n, k), hcover n k (get?_of_pruneBelow hk), rfl⟩
  rw [preserveIn]
  refine Gives.run_bind (readEntries_run (hs.leadsTo_via hdisj hQR hlead hrel hdirs))
    ((hent rel h _ hs hrel hdirs (hs.wf.nodup_children _) hchild
      (fun y hy => hfresh y (hpicks y hy)) hfuel').mono ?_)
  rintro r d' ⟨hs', hat, hkept, hcnt⟩
  refine ⟨hs', hat.widen hpicks (fun _ hy => hy) fun y hy hn => ⟨hfresh y hy,
    preserved_of_none (by rw [← List.append_assoc]; exact hnone y hy hn)⟩, ?_, hcnt.trans hcount⟩
  rw [hkept, List.any_eq_true]
  constructor
  · rintro ⟨c, -, hc⟩
    exact ⟨c.1, hc⟩
  · rintro ⟨n, hn⟩
    -- an entry that holds a kept entry is there
    obtain ⟨k, hk⟩ := Option.ne_none_iff_exists'.mp fun hno => by
      rw [holdsKept_of_none hwf hno] at hn
      cases hn
    exact ⟨(n, k), hcover n k hk, hn⟩

include hwf hSdir hdisj hR hQR hlead hkeep in
/-- The copy of the kept entries, read through a path that leads to the source all along, does
what its specs say, whatever its fuel. -/
theorem preserve_specs_via (f : Nat) :
    PreserveInSpec base QR PR S m keep f ∧ PreserveEntriesSpec base QR PR S m keep f := by
  induction f with
  | zero =>
    refine ⟨fun _ _ _ _ _ _ hfuel => absurd hfuel (by omega), ?_⟩
    intro rel h cs hs _ _ _ _ _ hfuel
    cases cs with
    | nil => exact preserveEntries_nil_spec 0 rel hs
    | cons c rest => simp at hfuel
  | succ f ih =>
    exact ⟨preserveIn_succ hwf hdisj hQR hlead ih.2,
      preserveEntries_succ hwf hSdir hdisj hR hQR hlead hkeep ih.1 ih.2⟩

include hwf hSdir hdisj hR in
/-- The copy of the kept entries read through the path of the source itself. -/
theorem preserve_specs
    (hkeep : ∀ rel, rel ≠ [] → base.get? (PR ++ rel) ≠ none →
      m.test (ofPlace (PR ++ rel)) = .ok (keep rel)) (f : Nat) :
    PreserveInSpec base PR PR S m keep f ∧ PreserveEntriesSpec base PR PR S m keep f :=
  preserve_specs_via hwf hSdir hdisj hR (hwf.names_of_get? hR)
    (fun d hs => by
      simpa using hs.leadsTo_source hwf hdisj (show base.get? (PR ++ []) = some .dir by simpa using hR))
    hkeep f

end run

section staging

variable {h : Host} {QR PR S : Place} {m : PathMatcher} {keep : Place → Bool}

/-- Copying the kept entries of the directory `PR`, read through a path `QR` that leads to it
whatever happens below `S`, into an empty directory `S` apart from it: nothing outside `S`
changes, below `S` lies what pruning `PR` leaves, special files left out, and the count is
that of the files and links the pruning leaves. -/
theorem copyPreserved_gives (hwf : h.disk.Wf) (hQR : ∀ n ∈ QR, IsName n)
    (hlead : ∀ d, AgreeOutside S h.disk d → d.LeadsTo QR PR)
    (hS : h.disk.get? S = some .dir) (hSempty : ∀ y, y ≠ [] → h.disk.get? (S ++ y) = none)
    (hRS : ¬ PR <+: S)
    (hkeep : ∀ rel, rel ≠ [] → h.disk.get? (PR ++ rel) ≠ none →
      m.test (ofPlace (QR ++ rel)) = .ok (keep rel)) :
    (copyPreserved (ofPlace QR) (ofPlace S) m).Gives h fun n d' => d'.Wf ∧
      (∀ q, ¬ Under S q → d'.get? q = h.disk.get? q) ∧
      (∀ y, y ≠ [] →
        d'.get? (S ++ y) = ((h.disk.pruneBelow PR keep).get? (PR ++ y)).bind Kind.copied) ∧
      n = (h.disk.pruneBelow PR keep).filesBelow PR := by
  have hR : h.disk.get? PR = some .dir := ((hlead h.disk (AgreeOutside.refl _ _)).dir hwf).1
  -- the staging directory is not above the source: it is empty, and the source is there
  have hSR : ¬ S <+: PR := by
    rintro ⟨y, rfl⟩
    rcases eq_or_ne y [] with rfl | hy
    · exact hRS (by simp)
    · rw [hSempty y hy] at hR
      cases hR
  have hfuel : 2 * h.disk.countBelow (PR ++ []) < 2 * h.disk.entries.length + 2 := by
    have := h.disk.countBelow_le_length (PR ++ [])
    omega
  have hspec := (preserve_specs_via hwf hS ⟨hSR, hRS⟩ hR hQR
    (fun d hs => hlead d fun q hq => (hs.outside q hq).symm) hkeep _).1 [] h
    (Staged.refl hwf hSempty) (by simp) (fun x hx hpre => absurd (List.prefix_nil.mp hpre) hx)
    (by simpa using hSempty) hfuel
  simp only [List.append_nil] at hspec
  unfold copyPreserved
  refine Gives.run_bind run_disk (Gives.bind hspec ?_)
  rintro ⟨kept, n⟩ d' ⟨hs, hat, -, hcnt⟩
  refine Gives.pure _ ⟨hs.wf, hs.outside, fun y hy => ?_, hcnt⟩
  rw [← preserved_eq_pruneBelow hy]
  simpa using hat.laid y hy

/-- Copying the kept entries of a directory `PR`, read through a path `QR` that leads to it
whatever happens below the staging place, into an empty directory `S` apart from it leaves
everything outside `S`, `PR` with it, as it was; below `S` it lays exactly what pruning `PR`
leaves, but special files; and it returns the number of files and links that pruning `PR`
leaves below it. -/
theorem copyPreserved_stages_pruned_tree (hwf : h.disk.Wf) (hQR : ∀ n ∈ QR, IsName n)
    (hlead : ∀ d, AgreeOutside S h.disk d → d.LeadsTo QR PR)
    (hS : h.disk.get? S = some .dir) (hSempty : ∀ y, y ≠ [] → h.disk.get? (S ++ y) = none)
    (hRS : ¬ PR <+: S)
    (hkeep : ∀ rel, rel ≠ [] → h.disk.get? (PR ++ rel) ≠ none →
      m.test (ofPlace (QR ++ rel)) = .ok (keep rel)) :
    (copyPreserved (ofPlace QR) (ofPlace S) m).Gives h fun n d' =>
      (∀ q, ¬ Under S q → d'.get? q = h.disk.get? q) ∧
      (∀ y, d'.get? (PR ++ y) = h.disk.get? (PR ++ y)) ∧
      (∀ y, y ≠ [] →
        d'.get? (S ++ y) = ((h.disk.pruneBelow PR keep).get? (PR ++ y)).bind Kind.copied) ∧
      n = (h.disk.pruneBelow PR keep).filesBelow PR := by
  -- the source lies apart from the staging place, which is not above it
  have hSR : ¬ S <+: PR := by
    rintro ⟨y, rfl⟩
    rcases eq_or_ne y [] with rfl | hy
    · exact hRS (by simp)
    · have hR := ((hlead h.disk (AgreeOutside.refl _ _)).dir hwf).1
      rw [hSempty y hy] at hR
      cases hR
  refine (copyPreserved_gives hwf hQR hlead hS hSempty hRS hkeep).mono ?_
  rintro n d' ⟨-, hout, hlaid, hn⟩
  exact ⟨hout, fun y => hout _ fun hU => source_apart ⟨hSR, hRS⟩ y hU.1, hlaid, hn⟩

end staging

/-- A folder `r` holding files `a` and `b` and an empty directory `t`, with the pattern `a`:
only `a` is staged, and one file is counted. -/
theorem copyPreserved_stages_matched_file :
    (copyPreserved (ofPlace ["r"]) (ofPlace ["s"])
      ⟨Host.workDir, ofPlace ["r"], [Utf16.ofString "a"]⟩).Gives
      ⟨⟨[(["r"], .dir), (["r", "a"], .file "x" 420), (["r", "b"], .file "y" 420),
        (["r", "t"], .dir), (["s"], .dir)]⟩, []⟩
      fun n d' => n = 1 ∧ d'.get? ["s", "a"] = some (.file "x" 420) ∧
        d'.get? ["s", "b"] = none ∧ d'.get? ["s", "t"] = none ∧
        d'.get? ["r", "b"] = some (.file "y" 420) := by
  set d : Disk := ⟨[(["r"], .dir), (["r", "a"], .file "x" 420), (["r", "b"], .file "y" 420),
    (["r", "t"], .dir), (["s"], .dir)]⟩
  have hwf : d.Wf := ⟨by decide, by decide, by decide, by decide⟩
  -- the pattern `a` keeps the path of its own name and no other
  have hkeep : ∀ rel, rel ≠ [] → d.get? (["r"] ++ rel) ≠ none →
      (⟨Host.workDir, ofPlace ["r"], [Utf16.ofString "a"]⟩ : PathMatcher).test
        (ofPlace (["r"] ++ rel)) = .ok (rel == ["a"]) := by
    intro rel _ hne
    obtain ⟨k, hk⟩ := Option.ne_none_iff_exists'.mp hne
    exact PathMatcher.test_of_name _ _ _ (hwf.names_of_get? hk) (by decide) (by decide +kernel)
  -- nothing is below the staging directory, and the folder's path leads to it through the root
  have hempty : ∀ y, y ≠ [] → d.get? (["s"] ++ y) = none := by
    intro y hy
    cases hk : d.get? (["s"] ++ y) with
    | none => rfl
    | some k =>
      have hmem := mem_of_get? (by simp) hk
      simp [d] at hmem
      exact absurd hmem.1 hy
  have hlead : ∀ d', AgreeOutside ["s"] d d' → d'.LeadsTo ["r"] ["r"] := fun d' hd' =>
    leadsTo_root_child (by decide) ((hd' ["r"] (by decide)).symm.trans (by decide))
  refine (copyPreserved_stages_pruned_tree hwf (by decide) hlead (by decide) hempty (by decide)
    hkeep).mono ?_
  rintro n d' ⟨-, hR, hlaid, hn⟩
  exact ⟨hn.trans (by decide), (hlaid ["a"] (by simp)).trans (by decide),
    (hlaid ["b"] (by simp)).trans (by decide), (hlaid ["t"] (by simp)).trans (by decide),
    (hR ["b"]).trans (by decide)⟩

end Tree

end FolderSink
