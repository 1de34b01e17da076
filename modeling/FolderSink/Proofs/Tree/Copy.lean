import FolderSink.Proofs.Tree.Steps
/-!
Copying a tree into a directory. The copy visits the entries of the source directory in
order, each before what is below it: a directory is made where nothing, a directory or a
link is (the link removed first) and then filled, a file or a link is written over anything
but a directory, and a special file is skipped. A directory onto a file, or a file or a link
onto a directory, stops the copy (`Kind.clashes`). So, when nothing it writes clashes
(`Fits`), every place below the target ends up holding what the source holds there, or what
the target held where the source has nothing or a special file (`CopiedAt`), and the copy
counts the files and links of the source (`filesBelow`); when something clashes, the copy
fails, having replaced only entries that are not directories and stand where the source has
something to write (`Replaces`). Main statements:

* `CopiedAt.union`: copies of disjoint places compose;
* `copy_specs`: the two outcomes of copying below a directory;
* `copyRecursively_copies`, `copyRecursively_overlays`: the copy of a writer.
-/

namespace FolderSink

/-- Whether copying an entry of kind `src` onto an entry of kind `dst` is refused or never
ends: a directory goes only onto a directory or a link, a file or a link never goes onto a
directory, and a file copied onto a FIFO waits for a reader for good. -/
def Kind.clashes : Kind → Kind → Bool
  | .dir, .dir => false
  | .dir, .link _ => false
  | .dir, _ => true
  | _, .dir => true
  | .file .., .fifo => true
  | _, _ => false

/-- What a copy writes for an entry of a kind: special files are skipped. -/
def Kind.copied : Kind → Option Kind
  | .fifo => none
  | k => some k

/-- Whether a copy writes an entry of this kind and counts it: files and links. -/
def Kind.isFileOrLink : Kind → Bool
  | .file .. => true
  | .link _ => true
  | _ => false

theorem Kind.copied_of_ne_fifo {k : Kind} (hk : k ≠ .fifo) : k.copied = some k := by
  cases k <;> simp_all [Kind.copied]

theorem Kind.isFileOrLink_of_ne {k : Kind} (hkd : k ≠ .dir) (hkf : k ≠ .fifo) :
    k.isFileOrLink = true := by
  cases k <;> simp_all [Kind.isFileOrLink]

/-- Only a directory goes onto a directory. -/
theorem Kind.clashes_dir {k : Kind} : k.clashes .dir = false ↔ k = .dir := by
  cases k <;> simp [Kind.clashes]

namespace Disk

open FolderSink.Path

variable {d d' d₁ d₂ : Disk} {S D X P q y : Place} {k : Kind} {n : String}

/-- `d'` is `d` with the place `X` set to `v`; every other place is as before. -/
structure SetsAt (X : Place) (v : Option Kind) (d d' : Disk) : Prop where
  wf : d'.Wf
  here : d'.get? X = v
  other : ∀ q, q ≠ X → d'.get? q = d.get? q

/-- Setting an entry where its parent is a directory, and nothing is below it unless it is a
directory. -/
theorem setsAt_put (hd : d.Wf) (hX : X ≠ []) (hn : ∀ m ∈ X, IsName m)
    (hpar : d.get? X.dropLast = some .dir)
    (hk : k = .dir ∨ ∀ q, Under X q → d.get? q = none) : SetsAt X (some k) d (d.put X k) where
  wf := hd.put hX hn hpar hk
  here := by simp [get?_put hX]
  other q hq := by simp [get?_put hX, hq]

/-- Replacing an entry with nothing below it. -/
theorem setsAt_removeTree_put (hd : d.Wf) (hX : X ≠ []) (hn : ∀ m ∈ X, IsName m)
    (hpar : d.get? X.dropLast = some .dir) (hleaf : ∀ q, Under X q → d.get? q = none) :
    SetsAt X (some k) d ((d.removeTree X).put X k) := by
  have hpar' : (d.removeTree X).get? X.dropLast = some .dir := by
    rw [get?_removeTree hX, if_neg]
    · exact hpar
    · intro h
      have := h.length_le
      simp at this
      have : X.length ≠ 0 := by simpa using hX
      omega
  have hgone : ∀ q, Under X q → (d.removeTree X).get? q = none := fun q hq => by
    simp [get?_removeTree hX, hq.1]
  refine ⟨(hd.removeTree hX).put hX hn hpar' (.inr hgone), by simp [get?_put hX], ?_⟩
  intro q hq
  rw [get?_put hX, if_neg hq, get?_removeTree hX]
  split
  · rename_i hXq
    exact (hleaf q ⟨hXq, fun h => hq h.symm⟩).symm
  · rfl

/-- No entry below `S`, at a place that `sel` picks, clashes with the entry at the same place
below `D`. -/
def NoClash (sel : Place → Prop) (S D : Place) (d : Disk) : Prop :=
  ∀ y, sel y → ∀ o p, d.get? (S ++ y) = some o → d.get? (D ++ y) = some p → o.clashes p = false

/-- `d'` is `d` with the entries below `S`, at the places that `sel` picks, laid over the same
places below `D`; every other place is as before. -/
structure OverlaidAt (sel : Place → Prop) (S D : Place) (d d' : Disk) : Prop where
  wf : d'.Wf
  laid : ∀ y, sel y → d'.get? (D ++ y) = (d.get? (S ++ y)).or (d.get? (D ++ y))
  same : ∀ q, (∀ y, sel y → q ≠ D ++ y) → d'.get? q = d.get? q

/-- An overlay on a disk is one on every disk with the same entries. -/
theorem OverlaidAt.congr_left {s : Place → Prop} (h : OverlaidAt s S D d d₂)
    (hsame : ∀ q, d.get? q = d'.get? q) : OverlaidAt s S D d' d₂ where
  wf := h.wf
  laid y hy := by rw [h.laid y hy, hsame, hsame]
  same q hq := by rw [h.same q hq, hsame]

theorem NoClash.congr {s : Place → Prop} {S' D' : Place} (h : NoClash s S D d)
    (hsrc : ∀ y, s y → d'.get? (S' ++ y) = d.get? (S ++ y))
    (hdst : ∀ y, s y → d'.get? (D' ++ y) = d.get? (D ++ y)) : NoClash s S' D' d' := by
  intro y hy o p ho hp
  rw [hsrc y hy] at ho
  rw [hdst y hy] at hp
  exact h y hy o p ho hp

/-- What a copy from below `S` writes at `y`: the source's entry there, a special file
skipped. -/
def copiedFrom (d : Disk) (S y : Place) : Option Kind := (d.get? (S ++ y)).bind Kind.copied

theorem copiedFrom_eq (h : d.get? (S ++ y) = some k) : d.copiedFrom S y = k.copied := by
  simp [copiedFrom, h]

theorem copiedFrom_append (x : Place) : d.copiedFrom (S ++ x) y = d.copiedFrom S (x ++ y) := by
  simp [copiedFrom]

theorem copiedFrom_of_ne_fifo (h : d.get? (S ++ y) ≠ some .fifo) :
    d.copiedFrom S y = d.get? (S ++ y) := by
  unfold copiedFrom
  cases hk : d.get? (S ++ y) with
  | none => rfl
  | some k => exact Kind.copied_of_ne_fifo fun hf => h (hf ▸ hk)

/-- A copy never writes a FIFO. -/
theorem copiedFrom_ne_fifo : d.copiedFrom S y ≠ some .fifo := by
  unfold copiedFrom
  cases d.get? (S ++ y) with
  | none => simp
  | some k => cases k <;> simp [Kind.copied]

theorem get?_ne_none_of_copiedFrom (h : d.copiedFrom S y ≠ none) : d.get? (S ++ y) ≠ none :=
  fun hn => h (by simp [copiedFrom, hn])

/-- No entry that a copy from below `S` writes, at a place that `sel` picks, clashes with the
entry at the same place below `D`. -/
def Fits (sel : Place → Prop) (S D : Place) (d : Disk) : Prop :=
  ∀ y, sel y → ∀ o p, d.copiedFrom S y = some o → d.get? (D ++ y) = some p → o.clashes p = false

/-- `d'` is `d` with what a copy from below `S` writes, at the places that `sel` picks, laid
over the same places below `D`; every other place is as before. -/
structure CopiedAt (sel : Place → Prop) (S D : Place) (d d' : Disk) : Prop where
  wf : d'.Wf
  laid : ∀ y, sel y → d'.get? (D ++ y) = (d.copiedFrom S y).or (d.get? (D ++ y))
  same : ∀ q, (∀ y, sel y → q ≠ D ++ y) → d'.get? q = d.get? q

/-- Without special files in the source, fitting is not clashing. -/
theorem fits_iff_noClash {sel : Place → Prop}
    (hfifo : ∀ y, sel y → d.get? (S ++ y) ≠ some .fifo) : Fits sel S D d ↔ NoClash sel S D d := by
  constructor
  · intro h y hy o p ho hp
    exact h y hy o p ((copiedFrom_of_ne_fifo (hfifo y hy)).trans ho) hp
  · intro h y hy o p ho hp
    exact h y hy o p ((copiedFrom_of_ne_fifo (hfifo y hy)).symm.trans ho) hp

/-- Without special files in the source, a copy is an overlay. -/
theorem CopiedAt.overlaidAt {sel : Place → Prop} (h : CopiedAt sel S D d d')
    (hfifo : ∀ y, sel y → d.get? (S ++ y) ≠ some .fifo) : OverlaidAt sel S D d d' where
  wf := h.wf
  laid y hy := by rw [h.laid y hy, copiedFrom_of_ne_fifo (hfifo y hy)]
  same := h.same

theorem CopiedAt.of_iff {s s' : Place → Prop} (h : CopiedAt s S D d d')
    (hiff : ∀ y, s y ↔ s' y) : CopiedAt s' S D d d' where
  wf := h.wf
  laid y hy := h.laid y ((hiff y).mpr hy)
  same q hq := h.same q fun y hy => hq y ((hiff y).mp hy)

theorem copiedAt_none (hd : d.Wf) : CopiedAt (fun _ => False) S D d d :=
  ⟨hd, fun _ h => h.elim, fun _ _ => rfl⟩

/-- Copies of places that do not overlap compose, when the source and target places never
meet. -/
theorem CopiedAt.union {s₁ s₂ : Place → Prop} (hSD : ∀ y y', S ++ y ≠ D ++ y')
    (h₁ : CopiedAt s₁ S D d d₁) (h₂ : CopiedAt s₂ S D d₁ d₂)
    (hdisj : ∀ y, s₂ y → ¬ s₁ y) : CopiedAt (fun y => s₁ y ∨ s₂ y) S D d d₂ := by
  -- what the second copy reads is as the first found it
  have hsrc : ∀ y, d₁.copiedFrom S y = d.copiedFrom S y := fun y => by
    unfold copiedFrom
    rw [h₁.same _ fun y' _ => hSD y y']
  have hdst : ∀ y, s₂ y → d₁.get? (D ++ y) = d.get? (D ++ y) := fun y hy =>
    h₁.same _ fun y' hy' heq => hdisj y hy (List.append_cancel_left heq ▸ hy')
  refine ⟨h₂.wf, ?_, ?_⟩
  · rintro y (hy | hy)
    · rw [h₂.same _ fun y' hy' heq => hdisj y' hy' (List.append_cancel_left heq ▸ hy)]
      exact h₁.laid y hy
    · rw [h₂.laid y hy, hsrc, hdst y hy]
  · intro q hq
    rw [h₂.same q fun y hy => hq y (.inr hy), h₁.same q fun y hy => hq y (.inl hy)]

/-- A copy also covers more places, where it writes nothing. -/
theorem CopiedAt.widen {s s' : Place → Prop} (h : CopiedAt s S D d d')
    (hsub : ∀ y, s y → s' y) (hnone : ∀ y, s' y → ¬ s y → d.copiedFrom S y = none) :
    CopiedAt s' S D d d' := by
  refine ⟨h.wf, ?_, fun q hq => h.same q fun y hy => hq y (hsub y hy)⟩
  intro y hy
  by_cases hs : s y
  · exact h.laid y hs
  · rw [h.same _ fun y' hy' heq => hs (by rw [List.append_cancel_left heq]; exact hy'),
      hnone y hy hs]
    rfl

theorem Fits.congr {s : Place → Prop} {S' D' : Place} (h : Fits s S D d)
    (hsrc : ∀ y, s y → d'.get? (S' ++ y) = d.get? (S ++ y))
    (hdst : ∀ y, s y → d'.get? (D' ++ y) = d.get? (D ++ y)) : Fits s S' D' d' := by
  intro y hy o p ho hp
  unfold copiedFrom at ho
  rw [hsrc y hy] at ho
  rw [hdst y hy] at hp
  exact h y hy o p ho hp

theorem Fits.mono {s s' : Place → Prop} (h : Fits s' S D d) (hsub : ∀ y, s y → s' y) :
    Fits s S D d := fun y hy => h y (hsub y hy)

section entry

/-! One entry `n` of the source directory `S`, copied to `D ++ [n]`. -/

/-- A file or a link laid over nothing, a file, a link or a special file. -/
theorem copiedAt_leaf (hset : SetsAt (D ++ [n]) (some k) d d₁)
    (hsrc : d.get? (S ++ [n]) = some k) (hkdir : k ≠ .dir) (hkfifo : k ≠ .fifo)
    (hdst : ∀ z, z ≠ [] → d.get? (D ++ [n] ++ z) = none) (hd : d.Wf) :
    CopiedAt ([n] <+: ·) S D d d₁ := by
  refine ⟨hset.wf, ?_, fun q hq => hset.other q (hq [n] (List.prefix_refl _))⟩
  rintro y ⟨z, rfl⟩
  by_cases hz : z = []
  · subst hz
    simp [hset.here, copiedFrom, hsrc, Kind.copied_of_ne_fifo hkfifo]
  · have hne : D ++ ([n] ++ z) ≠ D ++ [n] := by simpa using hz
    rw [hset.other _ hne, ← List.append_assoc, hdst z hz]
    unfold copiedFrom
    rw [← List.append_assoc, hd.none_under_leaf hsrc hkdir (under_append hz)]
    rfl

/-- Nothing is written at or below a special file. -/
theorem copiedFrom_skip (hsrc : d.get? (S ++ [n]) = some .fifo) (hd : d.Wf) (hy : [n] <+: y) :
    d.copiedFrom S y = none := by
  obtain ⟨z, rfl⟩ := hy
  by_cases hz : z = []
  · subst hz
    simp [copiedFrom, hsrc, Kind.copied]
  · unfold copiedFrom
    rw [← List.append_assoc S, hd.none_under_leaf hsrc (by simp) (under_append hz)]
    rfl

/-- A special file is skipped: nothing changes. -/
theorem copiedAt_skip (hsrc : d.get? (S ++ [n]) = some .fifo) (hd : d.Wf) :
    CopiedAt ([n] <+: ·) S D d d :=
  ⟨hd, fun y hy => by rw [copiedFrom_skip hsrc hd hy]; rfl, fun _ _ => rfl⟩

/-- A directory made (or kept) at `D ++ [n]` and then filled from `S ++ [n]`. -/
theorem copiedAt_dir (hSD : ∀ y y', S ++ y ≠ D ++ y')
    (hset : SetsAt (D ++ [n]) (some .dir) d d₁)
    (hfill : CopiedAt (· ≠ []) (S ++ [n]) (D ++ [n]) d₁ d₂)
    (hsrc : d.get? (S ++ [n]) = some .dir) : CopiedAt ([n] <+: ·) S D d d₂ := by
  refine ⟨hfill.wf, ?_, ?_⟩
  · rintro y ⟨z, rfl⟩
    by_cases hz : z = []
    · subst hz
      rw [List.append_nil, hfill.same _ fun y' hy' heq => hy' (by simpa using heq), hset.here,
        copiedFrom_eq hsrc]
      rfl
    · have hsrc' : d₁.copiedFrom (S ++ [n]) z = d.copiedFrom S ([n] ++ z) := by
        unfold copiedFrom
        rw [← List.append_assoc, hset.other _ (fun heq => hSD _ _ (by simpa using heq))]
      rw [← List.append_assoc, hfill.laid z hz, hsrc', hset.other (D ++ [n] ++ z) (by simpa using hz)]
  · intro q hq
    have hX : q ≠ D ++ [n] := hq [n] (List.prefix_refl _)
    rw [hfill.same q fun z hz heq => hq ([n] ++ z) (List.prefix_append _ _) (by simpa using heq),
      hset.other q hX]

/-- No clash at and below one entry: none at the entry, none below it. -/
theorem fits_entry_iff :
    Fits ([n] <+: ·) S D d ↔
      (∀ o p, d.copiedFrom S [n] = some o → d.get? (D ++ [n]) = some p → o.clashes p = false) ∧
        Fits (· ≠ []) (S ++ [n]) (D ++ [n]) d := by
  constructor
  · intro h
    refine ⟨h [n] (List.prefix_refl _), fun z hz o p ho hp => ?_⟩
    rw [copiedFrom_append] at ho
    rw [List.append_assoc] at hp
    exact h ([n] ++ z) (List.prefix_append _ _) o p ho hp
  · rintro ⟨h₁, h₂⟩ y ⟨z, rfl⟩ o p ho hp
    by_cases hz : z = []
    · subst hz
      exact h₁ o p (by simpa using ho) (by simpa using hp)
    · rw [← copiedFrom_append] at ho
      rw [← List.append_assoc] at hp
      exact h₂ z hz o p ho hp

end entry

/-- What a copy from below `S` into below `D` may leave, however it ends: nothing changes
but strictly below `D`, and there an entry is replaced or removed only when it is not a
directory and the copy has something to write at its place. -/
structure Replaces (S D : Place) (d d' : Disk) : Prop where
  wf : d'.Wf
  outside : ∀ q, ¬ Under D q → d'.get? q = d.get? q
  inside : ∀ y k, d.get? (D ++ y) = some k →
    d'.get? (D ++ y) = some k ∨ (k ≠ .dir ∧ d.copiedFrom S y ≠ none)

theorem Replaces.refl (hd : d.Wf) : Replaces S D d d :=
  ⟨hd, fun _ _ => rfl, fun _ _ _ => .inl ‹_›⟩

/-- Two stretches of a copy make one, when the source lies outside the target. -/
theorem Replaces.trans (hsrc : ∀ y, ¬ Under D (S ++ y)) (h₁ : Replaces S D d d₁)
    (h₂ : Replaces S D d₁ d₂) : Replaces S D d d₂ := by
  have hsame : ∀ y, d₁.copiedFrom S y = d.copiedFrom S y := fun y => by
    unfold copiedFrom
    rw [h₁.outside _ (hsrc y)]
  refine ⟨h₂.wf, fun q hq => (h₂.outside q hq).trans (h₁.outside q hq), ?_⟩
  intro y k hk
  rcases h₁.inside y k hk with h | h
  · rcases h₂.inside y k h with h' | ⟨hkd, hs⟩
    · exact .inl h'
    · exact .inr ⟨hkd, hsame y ▸ hs⟩
  · exact .inr h

/-- What a copy does below one entry it does below the directory. -/
theorem Replaces.of_child (h : Replaces (S ++ [n]) (D ++ [n]) d d') : Replaces S D d d' := by
  refine ⟨h.wf, fun q hq => h.outside q fun hU => hq (Under.extend (under_append (by simp)) hU.1), ?_⟩
  intro y k hk
  by_cases hy : [n] <+: y
  · obtain ⟨z, rfl⟩ := hy
    rw [← List.append_assoc] at hk ⊢
    rcases h.inside z k hk with h' | ⟨hkd, hs⟩
    · exact .inl h'
    · exact .inr ⟨hkd, by rwa [copiedFrom_append] at hs⟩
  · refine .inl ((h.outside _ fun hU => hy ?_).trans hk)
    exact (List.prefix_append_right_inj D).mp hU.1

/-- Setting one entry of the target, where the copy has something to write, to a kind that
replaces what was there only when it was not a directory. -/
theorem Replaces.of_setsAt {v : Option Kind} (hset : SetsAt (D ++ [n]) v d d')
    (hsrc : d.copiedFrom S [n] ≠ none)
    (hold : ∀ k, d.get? (D ++ [n]) = some k → v = some k ∨ k ≠ .dir) : Replaces S D d d' := by
  refine ⟨hset.wf, fun q hq => hset.other q fun h => hq (h ▸ under_append (by simp)), ?_⟩
  intro y k hk
  by_cases hy : y = [n]
  · subst hy
    rcases hold k hk with h | h
    · exact .inl (hset.here.trans h)
    · exact .inr ⟨h, hsrc⟩
  · exact .inl ((hset.other _ fun h => hy (List.append_cancel_left h)).trans hk)

/-- A copy that met no clash replaces only what it may. -/
theorem CopiedAt.replaces {sel : Place → Prop} (h : CopiedAt sel S D d d')
    (hfits : Fits sel S D d) (hsel : ∀ y, sel y → y ≠ []) : Replaces S D d d' := by
  refine ⟨h.wf, fun q hq => h.same q fun y hy heq => hq (heq ▸ under_append (hsel y hy)), ?_⟩
  intro y k hk
  by_cases hy : sel y
  · rw [h.laid y hy, hk]
    cases ho : d.copiedFrom S y with
    | none => exact .inl rfl
    | some o =>
      -- a directory is written only onto a directory or a link, and nothing else onto one
      have hcl := hfits y hy o k ho hk
      by_cases hkd : k = .dir
      · subst hkd
        obtain rfl := Kind.clashes_dir.mp hcl
        exact .inl rfl
      · exact .inr ⟨hkd, by simp⟩
  · exact .inl ((h.same _ fun y' hy' heq => hy (by rw [List.append_cancel_left heq]; exact hy')).trans hk)

/-- A copy writes no FIFO: one that stands after it stood there before. -/
theorem CopiedAt.fifo {sel : Place → Prop} (h : CopiedAt sel S D d d')
    (hq : d'.get? q = some .fifo) : d.get? q = some .fifo := by
  by_cases hsel : ∃ y, sel y ∧ q = D ++ y
  · obtain ⟨y, hy, rfl⟩ := hsel
    rw [h.laid y hy] at hq
    cases hc : d.copiedFrom S y with
    | none => simpa [hc] using hq
    | some o =>
      rw [hc] at hq
      obtain rfl : o = .fifo := by simpa using hq
      exact absurd hc copiedFrom_ne_fifo
  · exact (h.same q fun y hy he => hsel ⟨y, hy, he⟩) ▸ hq

/-- How a copy into `D`, started on `d`, may fail: a call on the file system fails, or a file
is copied onto a FIFO that stood strictly below `D` and waits for a reader for good. -/
def CopyFault (D : Place) (d : Disk) (e : Failure) : Prop :=
  e.IsIO ∨ e.IsStall ∧ ∃ y, y ≠ [] ∧ d.get? (D ++ y) = some .fifo

/-- Into a target that holds no FIFO, a copy fails only by a failed call. -/
theorem CopyFault.isIO {e : Failure} (he : CopyFault D d e)
    (hno : ∀ y, y ≠ [] → d.get? (D ++ y) ≠ some .fifo) : e.IsIO := by
  rcases he with he | ⟨-, y, hy, hf⟩
  · exact he
  · exact absurd hf (hno y hy)

/-- A FIFO met on a later disk that stood there from the start. -/
theorem CopyFault.of_later {e : Failure} (he : CopyFault D d' e)
    (hfifo : ∀ y, y ≠ [] → d'.get? (D ++ y) = some .fifo → d.get? (D ++ y) = some .fifo) :
    CopyFault D d e :=
  he.imp_right fun ⟨hs, y, hy, hf⟩ => ⟨hs, y, hy, hfifo y hy hf⟩

/-- A fault of the copy below one entry is one of the copy below the directory. -/
theorem CopyFault.of_child {e : Failure} (he : CopyFault (D ++ [n]) d e) : CopyFault D d e :=
  he.imp_right fun ⟨hs, y, _, hf⟩ => ⟨hs, [n] ++ y, by simp, by simpa using hf⟩

section count

/-! Counting the files and links a copy writes: those at or below an entry are the entry
itself and those strictly below it, and those strictly below a directory are those at or
below each of its children. -/

/-- The files and links at or below `X`. -/
def filesWithin (d : Disk) (X : Place) : Nat :=
  d.entries.countP fun e => decide (X <+: e.1) && e.2.isFileOrLink

/-- The files and links strictly below `X`: what a copy of the directory `X` counts. -/
def filesBelow (d : Disk) (X : Place) : Nat :=
  d.entries.countP fun e => decide (Under X e.1) && e.2.isFileOrLink

theorem countP_prefix_eq_add (l : List (Place × Kind)) (X : Place) (p : Place × Kind → Bool) :
    l.countP (fun e => decide (X <+: e.1) && p e) =
      l.countP (fun e => decide (e.1 = X) && p e) +
        l.countP (fun e => decide (Under X e.1) && p e) := by
  induction l with
  | nil => rfl
  | cons e l ih =>
    simp only [List.countP_cons, ih]
    by_cases hX : e.1 = X
    · have hU : ¬ Under X X := fun hU => hU.2 rfl
      cases p e
      · simp [hX, hU]
      · simp [hX, hU]
        omega
    · by_cases hpre : X <+: e.1
      · have hU : Under X e.1 := ⟨hpre, fun h => hX h.symm⟩
        cases p e
        · simp [hX, hU, hpre]
        · simp [hX, hU, hpre]
          omega
      · have hU : ¬ Under X e.1 := fun hU => hpre hU.1
        simp [hX, hU, hpre]

/-- The entry at a place is counted once, when `p` picks it. -/
theorem Wf.countP_at (hd : d.Wf) (hX : X ≠ []) (hk : d.get? X = some k)
    (p : Place × Kind → Bool) :
    d.entries.countP (fun e => decide (e.1 = X) && p e) = if p (X, k) then 1 else 0 := by
  have hcongr : d.entries.countP (fun e => decide (e.1 = X) && p e) =
      d.entries.countP (fun e => e == (X, k) && p (X, k)) := by
    apply List.countP_congr
    rintro ⟨q, k'⟩ he
    constructor
    · intro h
      simp only [Bool.and_eq_true, decide_eq_true_eq] at h
      obtain ⟨rfl, hp⟩ := h
      have hk' : k' = k := Option.some.inj ((hd.get?_of_mem he).symm.trans hk)
      subst hk'
      simp [hp]
    · intro h
      simp only [Bool.and_eq_true, beq_iff_eq, Prod.mk.injEq] at h
      obtain ⟨⟨rfl, rfl⟩, hp⟩ := h
      simp [hp]
  rw [hcongr]
  by_cases hp : p (X, k)
  · simp only [hp, Bool.and_true, ↓reduceIte]
    rw [← List.count_eq_countP]
    exact List.count_eq_one_of_mem (hd.nodup.of_map Prod.fst) (mem_of_get? hX hk)
  · simp [hp]

theorem Wf.filesWithin_eq (hd : d.Wf) (hX : X ≠ []) (hk : d.get? X = some k) :
    d.filesWithin X = (if k.isFileOrLink then 1 else 0) + d.filesBelow X := by
  unfold filesWithin filesBelow
  rw [countP_prefix_eq_add, hd.countP_at hX hk]

/-- The files and links below a place depend only on the entries there. -/
theorem Wf.filesBelow_congr (hd : d.Wf) (hd' : d'.Wf)
    (hsame : ∀ q, Under X q → d'.get? q = d.get? q) : d'.filesBelow X = d.filesBelow X := by
  have hne : ∀ q, Under X q → q ≠ [] := by
    rintro q hU rfl
    exact hU.2 (List.prefix_nil.mp hU.1)
  -- the entries below `X` are the same on both disks, in some order
  have hperm : (d'.entries.filter fun e => decide (Under X e.1)).Perm
      (d.entries.filter fun e => decide (Under X e.1)) := by
    refine (List.perm_ext_iff_of_nodup ((hd'.nodup.of_map Prod.fst).filter _)
      ((hd.nodup.of_map Prod.fst).filter _)).mpr ?_
    rintro ⟨q, k⟩
    simp only [List.mem_filter, decide_eq_true_eq]
    constructor
    · rintro ⟨he, hU⟩
      exact ⟨mem_of_get? (hne q hU) ((hsame q hU).symm.trans (hd'.get?_of_mem he)), hU⟩
    · rintro ⟨he, hU⟩
      exact ⟨mem_of_get? (hne q hU) ((hsame q hU).trans (hd.get?_of_mem he)), hU⟩
  have hcount := hperm.countP_eq fun e => e.2.isFileOrLink
  simp only [List.countP_filter] at hcount
  unfold filesBelow
  simpa only [Bool.and_comm] using hcount

/-- Nothing is below a place that holds no directory. -/
theorem Wf.filesBelow_leaf (hd : d.Wf) (hX : d.get? X ≠ some .dir) : d.filesBelow X = 0 := by
  unfold filesBelow
  rw [List.countP_eq_zero]
  intro e he hpe
  simp only [Bool.and_eq_true, decide_eq_true_eq] at hpe
  have hnone := hd.none_under hX hpe.1
  rw [hd.get?_of_mem he] at hnone
  cases hnone

/-- A place that holds nothing adds nothing to the count of what is below it. -/
theorem Wf.filesWithin_of_none (hd : d.Wf) (hX : d.get? X = none) :
    d.filesWithin X = d.filesBelow X := by
  unfold filesWithin filesBelow
  rw [countP_prefix_eq_add, List.countP_eq_zero.mpr, Nat.zero_add]
  intro e he hpe
  simp only [Bool.and_eq_true, decide_eq_true_eq] at hpe
  rw [← hpe.1, hd.get?_of_mem he] at hX
  cases hX

/-- The files and links strictly below a directory are those at or below each of its
children, given by a list of distinct names that holds every child. -/
theorem Wf.sum_filesWithin_children (hd : d.Wf) {cs : List (String × Kind)}
    (hnd : (cs.map Prod.fst).Nodup)
    (hcover : ∀ m k, d.get? (P ++ [m]) = some k → m ∈ cs.map Prod.fst) :
    (cs.map fun c => d.filesWithin (P ++ [c.1])).sum = d.filesBelow P := by
  unfold filesWithin filesBelow
  -- each entry strictly below `P` is at or below exactly one child, and no other entry is
  have hone : ∀ e ∈ d.entries, (cs.map fun c =>
      if (decide (P ++ [c.1] <+: e.1) && e.2.isFileOrLink) = true then 1 else 0).sum =
        if (decide (Under P e.1) && e.2.isFileOrLink) = true then 1 else 0 := by
    intro e he
    rw [sum_map_ite_eq_countP]
    have hnames : cs.countP (fun c => decide (P ++ [c.1] <+: e.1)) =
        (cs.map Prod.fst).countP (fun m => decide (P ++ [m] <+: e.1)) := by
      rw [List.countP_map]
      rfl
    have hle := countP_child_prefix_le_one hnd P e.1
    by_cases hpe : e.2.isFileOrLink
    · simp only [hpe, Bool.and_true]
      by_cases hU : Under P e.1
      · obtain ⟨m, k', hm, hme⟩ := hd.child_on_way hU (hd.get?_of_mem he)
        have hpos : 0 < (cs.map Prod.fst).countP (fun m => decide (P ++ [m] <+: e.1)) :=
          List.countP_pos_iff.mpr ⟨m, hcover m k' hm, by simpa using hme⟩
        simp only [hU, decide_true, ↓reduceIte]
        omega
      · have hzero : (cs.map Prod.fst).countP (fun m => decide (P ++ [m] <+: e.1)) = 0 := by
          rw [List.countP_eq_zero]
          intro m _ hm
          exact hU (Under.extend (under_append (by simp)) (of_decide_eq_true hm))
        simp only [hU, decide_false, Bool.false_eq_true, ↓reduceIte]
        omega
    · simp [hpe]
  -- sum over the entries one at a time
  have hsum : ∀ l : List (Place × Kind), (∀ e ∈ l, e ∈ d.entries) →
      (cs.map fun c => l.countP fun e => decide (P ++ [c.1] <+: e.1) && e.2.isFileOrLink).sum =
        l.countP fun e => decide (Under P e.1) && e.2.isFileOrLink := by
    intro l hl
    induction l with
    | nil => simp
    | cons e l ih =>
      simp only [List.countP_cons, List.sum_map_add]
      rw [ih fun e' he' => hl e' (by simp [he']), hone e (hl e (by simp))]
  exact hsum d.entries fun _ h => h

end count

/-- A directory is led to by its own path on every disk with the same entries on the way down
to it. -/
theorem leadsTo_self_of_way (hd : d.Wf) (hX : d.get? X = some .dir) (d' : Disk)
    (hway : ∀ x, x <+: X → d'.get? x = d.get? x) : d'.LeadsTo X X := by
  have hdirs : d.DirsTo [] X := by
    intro x _ hpre
    rcases eq_or_ne x X with rfl | hne
    · simpa using hX
    · simpa using hd.dir_of_under ⟨hpre, hne⟩ hX
  simpa using leadsTo_append (Q := []) (P := []) (by simp) leadsTo_root X (hd.names_of_get? hX)
    (hdirs.congr fun x _ hpre => by simpa using hway x hpre)

end Disk

namespace Tree

open Disk FolderSink.Path Act

variable {h : Host} {Q P : Place} {n : String}

section steps

/-! The steps of the copy on one entry, in terms of what they set. -/

theorem names_child (hwf : h.disk.Wf) (hn : IsName n) (hdir : h.disk.LeadsTo Q P) :
    ∀ m ∈ P ++ [n], IsName m :=
  List.forall_mem_append.mpr ⟨(hdir.dir hwf).2, by simpa using hn⟩

theorem copyLeaf_fifo (src dst : String) : copyLeaf src dst .fifo = pure false := rfl

variable (hwf : h.disk.Wf) (hQ : ∀ m ∈ Q, IsName m) (hn : IsName n) (hdir : h.disk.LeadsTo Q P)
include hwf hQ hn hdir

/-- Making a directory where nothing, a directory or a link is. -/
theorem ensureDir_sets (hdir' : (h.disk.removeTree (P ++ [n])).LeadsTo Q P)
    (hok : ∀ p, h.disk.get? (P ++ [n]) = some p → Kind.dir.clashes p = false) :
    (ensureDir (ofPlace (Q ++ [n]))).Leaves h (SetsAt (P ++ [n]) (some .dir) h.disk) := by
  have hpar : h.disk.get? (P ++ [n]).dropLast = some .dir := by
    simpa using (hdir.dir hwf).1
  cases hk : h.disk.get? (P ++ [n]) with
  | none =>
    exact Leaves.of_run (ensureDir_run_new hQ hn hdir hk)
      (setsAt_put hwf (by simp) (names_child hwf hn hdir) hpar (.inl rfl))
  | some p =>
    cases p with
    | dir => exact Leaves.of_run (ensureDir_run_dir hQ hn hdir hk) ⟨hwf, hk, fun _ _ => rfl⟩
    | link t =>
      exact Leaves.of_run (ensureDir_run_link hQ hn hdir hk hdir')
        (setsAt_removeTree_put hwf (by simp) (names_child hwf hn hdir) hpar
          fun q hq => hwf.none_under_leaf hk (by simp) hq)
    | file c mode => exact absurd (hok _ hk) (by simp [Kind.clashes])
    | fifo => exact absurd (hok _ hk) (by simp [Kind.clashes])

omit hwf in
/-- Making a directory where a file or another special file is fails. -/
theorem ensureDir_fails {p : Kind} (hk : h.disk.get? (P ++ [n]) = some p)
    (hcl : Kind.dir.clashes p = true) : (ensureDir (ofPlace (Q ++ [n]))).Fails h := by
  cases p with
  | dir => simp [Kind.clashes] at hcl
  | link t => simp [Kind.clashes] at hcl
  | file c mode =>
    obtain ⟨e, he⟩ := ensureDir_run_other hQ hn hdir hk (by simp) (by simp)
    exact ⟨e, h, he⟩
  | fifo =>
    obtain ⟨e, he⟩ := ensureDir_run_other hQ hn hdir hk (by simp) (by simp)
    exact ⟨e, h, he⟩

section source

variable {QS PS : Place} {n' : String} (hQS : ∀ m ∈ QS, IsName m) (hn' : IsName n')
include hQS hn'

/-- Copying a file or a link over what it does not clash with writes it, and counts it. -/
theorem copyLeaf_sets {k : Kind} (hS : h.disk.LeadsTo QS PS)
    (hsrc : h.disk.get? (PS ++ [n']) = some k) (hkdir : k ≠ .dir) (hkfifo : k ≠ .fifo)
    (hok : ∀ p, h.disk.get? (P ++ [n]) = some p → k.clashes p = false)
    (hdir' : (h.disk.removeTree (P ++ [n])).LeadsTo Q P)
    (hS' : (h.disk.removeTree (P ++ [n])).LeadsTo QS PS)
    (hsrc' : (h.disk.removeTree (P ++ [n])).get? (PS ++ [n']) = some k) :
    (copyLeaf (ofPlace (QS ++ [n'])) (ofPlace (Q ++ [n])) k).Gives h
      fun b d' => b = true ∧ SetsAt (P ++ [n]) (some k) h.disk d' := by
  have hpar : h.disk.get? (P ++ [n]).dropLast = some .dir := by
    simpa using (hdir.dir hwf).1
  have hnames := names_child hwf hn hdir
  -- below anything but a directory there is nothing
  have hleaf : h.disk.get? (P ++ [n]) ≠ some .dir → ∀ q, Under (P ++ [n]) q →
      h.disk.get? q = none := fun hnd q hq => hwf.none_under hnd hq
  have hnodir : h.disk.get? (P ++ [n]) ≠ some .dir := fun hd =>
    hkdir (Kind.clashes_dir.mp (hok _ hd))
  cases k with
  | dir => exact absurd rfl hkdir
  | fifo => exact absurd rfl hkfifo
  | file c mode =>
    by_cases hl : ∃ t, h.disk.get? (P ++ [n]) = some (.link t)
    · obtain ⟨t, ht⟩ := hl
      exact Gives.of_run (copyLeaf_run_file_link hQ hn hdir hQS hn' ht hdir' hS' hsrc')
        ⟨rfl, setsAt_removeTree_put hwf (by simp) hnames hpar (hleaf hnodir)⟩
    · have hl' : ∀ t, h.disk.get? (P ++ [n]) ≠ some (.link t) := fun t ht => hl ⟨t, ht⟩
      have hnofifo : h.disk.get? (P ++ [n]) ≠ some .fifo := fun hf =>
        absurd (hok _ hf) (by simp [Kind.clashes])
      exact Gives.of_run (copyLeaf_run_file hQ hn hdir hQS hn' hS hsrc hnodir hnofifo hl')
        ⟨rfl, setsAt_put hwf (by simp) hnames hpar (.inr (hleaf hnodir))⟩
  | link t =>
    cases hk : h.disk.get? (P ++ [n]) with
    | none =>
      exact Gives.of_run (copyLeaf_run_link_new hQ hn hdir hQS hn' hS hsrc hk)
        ⟨rfl, setsAt_put hwf (by simp) hnames hpar (.inr (hleaf (by simp [hk])))⟩
    | some p =>
      have hp : p ≠ .dir := fun hp => hnodir (hp ▸ hk)
      exact Gives.of_run (copyLeaf_run_link_over hQ hn hdir hQS hn' hS hsrc hk hp hdir')
        ⟨rfl, setsAt_removeTree_put hwf (by simp) hnames hpar (hleaf hnodir)⟩

omit hwf in
/-- Copying a file or a link onto an entry it clashes with changes nothing and fails: onto a
directory a call fails, and a file copied onto a FIFO waits for a reader for good. -/
theorem copyLeaf_fails {k p : Kind} (hS : h.disk.LeadsTo QS PS)
    (hsrc : h.disk.get? (PS ++ [n']) = some k) (hkdir : k ≠ .dir) (hkfifo : k ≠ .fifo)
    (hk : h.disk.get? (P ++ [n]) = some p) (hcl : k.clashes p = true) :
    ∃ e, (copyLeaf (ofPlace (QS ++ [n'])) (ofPlace (Q ++ [n])) k).run.run h = (.error e, h) ∧
      (e.IsIO ∨ e.IsStall ∧ p = .fifo) := by
  cases k with
  | dir => exact absurd rfl hkdir
  | fifo => exact absurd rfl hkfifo
  | file c mode =>
    cases p with
    | dir =>
      obtain ⟨e, he, hio⟩ := copyLeaf_run_file_dir hQ hn hdir hQS hn' hS hsrc hk
      exact ⟨e, he, .inl hio⟩
    | fifo =>
      obtain ⟨e, he, hst⟩ := copyLeaf_run_file_fifo hQ hn hdir hQS hn' hS hsrc hk
      exact ⟨e, he, .inr ⟨hst, rfl⟩⟩
    | _ => simp [Kind.clashes] at hcl
  | link t =>
    cases p with
    | dir =>
      obtain ⟨e, he, hio⟩ := copyLeaf_run_link_dir hQ hn hdir hQS hn' hS hsrc hk
      exact ⟨e, he, .inl hio⟩
    | _ => simp [Kind.clashes] at hcl

end source

end steps

/-- A disk the copy meets: well formed, and changed from `base` only strictly below `PR`. -/
structure Grown (base : Disk) (PR : Place) (d : Disk) : Prop where
  wf : d.Wf
  agree : AgreeOutside PR base d

theorem Grown.of_setsAt {base d d' : Disk} {PR X : Place} {v : Option Kind}
    (hg : Grown base PR d) (hs : SetsAt X v d d') (hX : Under PR X) : Grown base PR d' where
  wf := hs.wf
  agree q hq := (hg.agree q hq).trans (hs.other q fun h => hq (h ▸ hX)).symm

theorem Grown.removeTree {base d : Disk} {PR X : Place} (hg : Grown base PR d)
    (hX : Under PR X) : Grown base PR (d.removeTree X) where
  wf := hg.wf.removeTree fun h => by
    subst h
    exact hX.2 (List.prefix_nil.mp hX.1)
  agree q hq := by
    have hXq : ¬ X <+: q := fun h => hq (hX.extend h)
    rw [hg.agree q hq, get?_removeTree (fun h => by subst h; exact hX.2 (List.prefix_nil.mp hX.1)),
      if_neg hXq]

theorem Grown.of_copiedAt {base d d' : Disk} {PR S D : Place} {sel : Place → Prop}
    (hg : Grown base PR d) (ho : CopiedAt sel S D d d') (hD : ∀ y, sel y → Under PR (D ++ y)) :
    Grown base PR d' where
  wf := ho.wf
  agree q hq := (hg.agree q hq).trans (ho.same q fun y hy h => hq (h ▸ hD y hy)).symm

/-- Two entries whose places start one way down are one entry. -/
theorem name_eq_of_heads {a b : String} {y : Place} (ha : [a] <+: y) (hb : [b] <+: y) : a = b :=
  name_eq_of_prefixes (P := []) (by simpa using ha) (by simpa using hb)

/-- A place below another entry of a directory is not below this one. -/
theorem not_head_of_rest {n : String} {rest : List (String × Kind)} {y : Place}
    (hnotin : n ∉ rest.map Prod.fst) (hy : ∃ c ∈ rest, [c.1] <+: y) : ¬ [n] <+: y := by
  obtain ⟨c, hc, hcy⟩ := hy
  intro hny
  exact hnotin (name_eq_of_heads hny hcy ▸ List.mem_map_of_mem hc)

theorem ne_nil_of_head {n : String} {y : Place} (hy : [n] <+: y) : y ≠ [] := by
  rintro rfl
  simp at hy

/-- Two places that start one list are one the start of the other. -/
theorem prefix_total {a b l : Place} (ha : a <+: l) (hb : b <+: l) : a <+: b ∨ b <+: a := by
  rcases le_total a.length b.length with hle | hle
  · exact .inl (List.prefix_of_prefix_length_le ha hb hle)
  · exact .inr (List.prefix_of_prefix_length_le hb ha hle)

section run

variable {base : Disk} {QR PR QO PO : Place}

section apart

variable (hdisj : ¬ PR <+: PO ∧ ¬ PO <+: PR)
include hdisj

/-- Below two places neither of which is below the other, no two places meet. -/
theorem apart (rel y y' : Place) : PO ++ rel ++ y ≠ PR ++ rel ++ y' := by
  intro heq
  have hO : PO <+: PO ++ rel ++ y := by simp [List.append_assoc]
  have hR : PR <+: PO ++ rel ++ y := by
    rw [heq]
    simp [List.append_assoc]
  rcases prefix_total hO hR with h | h
  · exact hdisj.2 h
  · exact hdisj.1 h

/-- The source is never below the target. -/
theorem source_outside (y : Place) : ¬ Under PR (PO ++ y) := by
  intro hU
  rcases prefix_total hU.1 (List.prefix_append PO y) with h | h
  · exact hdisj.1 h
  · exact hdisj.2 h

theorem Grown.source {d : Disk} (hg : Grown base PR d) (y : Place) :
    d.get? (PO ++ y) = base.get? (PO ++ y) :=
  (hg.agree _ (source_outside hdisj y)).symm

end apart

section specs

variable (base QR PR QO PO)

/-- Copying with fuel `f` from below the directory `PO ++ rel` to below `PR ++ rel`, led to by
the paths of `QO ++ rel` and `QR ++ rel`: when nothing it writes clashes, a copy that counts
the files and links below the source; otherwise a failure that replaced only what it may, by
a failed call or on a FIFO that stood below the target. -/
def CopyInSpec (f : Nat) : Prop :=
  ∀ rel (h : Host), Grown base PR h.disk → (∀ n ∈ rel, IsName n) → h.disk.DirsTo PO rel →
    h.disk.DirsTo PR rel → 2 * base.countBelow (PO ++ rel) < f →
    (Fits (· ≠ []) (PO ++ rel) (PR ++ rel) h.disk →
      (copyIn f (ofPlace (QO ++ rel)) (ofPlace (QR ++ rel))).Gives h fun m d' =>
        CopiedAt (· ≠ []) (PO ++ rel) (PR ++ rel) h.disk d' ∧ m = base.filesBelow (PO ++ rel)) ∧
    (¬ Fits (· ≠ []) (PO ++ rel) (PR ++ rel) h.disk →
      (copyIn f (ofPlace (QO ++ rel)) (ofPlace (QR ++ rel))).FailsWith h
        (CopyFault (PR ++ rel) h.disk) (Replaces (PO ++ rel) (PR ++ rel) h.disk))

/-- Copying with fuel `f` the entries `cs` of the directory `PO ++ rel`. -/
def CopyEntriesSpec (f : Nat) : Prop :=
  ∀ rel (h : Host) (cs : List (String × Kind)), Grown base PR h.disk →
    (∀ n ∈ rel, IsName n) → h.disk.DirsTo PO rel → h.disk.DirsTo PR rel →
    (cs.map Prod.fst).Nodup → (∀ c ∈ cs, h.disk.get? (PO ++ rel ++ [c.1]) = some c.2) →
    (cs.map fun c => 2 * (base.countBelow (PO ++ rel ++ [c.1]) + 1)).sum ≤ f →
    (Fits (fun y => ∃ c ∈ cs, [c.1] <+: y) (PO ++ rel) (PR ++ rel) h.disk →
      (copyEntries f (ofPlace (QO ++ rel)) (ofPlace (QR ++ rel)) cs).Gives h fun m d' =>
        CopiedAt (fun y => ∃ c ∈ cs, [c.1] <+: y) (PO ++ rel) (PR ++ rel) h.disk d' ∧
          m = (cs.map fun c => base.filesWithin (PO ++ rel ++ [c.1])).sum) ∧
    (¬ Fits (fun y => ∃ c ∈ cs, [c.1] <+: y) (PO ++ rel) (PR ++ rel) h.disk →
      (copyEntries f (ofPlace (QO ++ rel)) (ofPlace (QR ++ rel)) cs).FailsWith h
        (CopyFault (PR ++ rel) h.disk) (Replaces (PO ++ rel) (PR ++ rel) h.disk))

end specs

variable (hQR : ∀ n ∈ QR, IsName n) (hQO : ∀ n ∈ QO, IsName n)
  (hstable : ∀ d, AgreeOutside PR base d → d.LeadsTo QR PR ∧ d.LeadsTo QO PO)
  (hdisj : ¬ PR <+: PO ∧ ¬ PO <+: PR) (hbase : base.Wf)

include hQR hstable in
theorem leadsTo_target {d : Disk} {rel : Place} (hg : Grown base PR d)
    (hrel : ∀ n ∈ rel, IsName n) (hdirs : d.DirsTo PR rel) : d.LeadsTo (QR ++ rel) (PR ++ rel) :=
  leadsTo_append hQR (hstable d hg.agree).1 rel hrel hdirs

include hQO hstable in
theorem leadsTo_source {d : Disk} {rel : Place} (hg : Grown base PR d)
    (hrel : ∀ n ∈ rel, IsName n) (hdirs : d.DirsTo PO rel) : d.LeadsTo (QO ++ rel) (PO ++ rel) :=
  leadsTo_append hQO (hstable d hg.agree).2 rel hrel hdirs

include hQR hQO hstable hdisj hbase

omit hQR hQO hstable hdisj hbase in
/-- A place on the way down to `P ++ rel` is not below an entry of that directory. -/
theorem not_prefix_of_shorter {P rel x y : Place} (hx : x <+: rel) (hy : y ≠ []) :
    ¬ P ++ rel ++ y <+: P ++ x := by
  intro h
  have h₁ := h.length_le
  have h₂ := hx.length_le
  have h₃ : y.length ≠ 0 := by simpa using hy
  simp at h₁
  omega

omit hQR hQO hstable hdisj hbase in
theorem ne_of_shorter {P rel x y : Place} (hx : x <+: rel) (hy : y ≠ []) :
    P ++ x ≠ P ++ rel ++ y := fun h =>
  not_prefix_of_shorter (P := P) hx hy (h ▸ List.prefix_refl _)

omit hQR hQO hstable hdisj hbase in
/-- With no entries left, nothing is copied and nothing clashes. -/
theorem copyEntries_nil_spec (f : Nat) (rel : Place) {h : Host} (hwf : h.disk.Wf) :
    (Fits (fun y => ∃ c ∈ ([] : List (String × Kind)), [c.1] <+: y) (PO ++ rel) (PR ++ rel)
        h.disk →
      (copyEntries f (ofPlace (QO ++ rel)) (ofPlace (QR ++ rel)) []).Gives h fun m d' =>
        CopiedAt (fun y => ∃ c ∈ ([] : List (String × Kind)), [c.1] <+: y) (PO ++ rel)
          (PR ++ rel) h.disk d' ∧
          m = (([] : List (String × Kind)).map fun c => base.filesWithin (PO ++ rel ++ [c.1])).sum) ∧
    (¬ Fits (fun y => ∃ c ∈ ([] : List (String × Kind)), [c.1] <+: y) (PO ++ rel) (PR ++ rel)
        h.disk →
      (copyEntries f (ofPlace (QO ++ rel)) (ofPlace (QR ++ rel)) []).FailsWith h
        (CopyFault (PR ++ rel) h.disk) (Replaces (PO ++ rel) (PR ++ rel) h.disk)) := by
  have hnil : copyEntries f (ofPlace (QO ++ rel)) (ofPlace (QR ++ rel)) [] = pure 0 := by
    cases f <;> rfl
  rw [hnil]
  exact ⟨fun _ => Gives.pure 0 ⟨(copiedAt_none hwf).of_iff (by simp), rfl⟩,
    fun hcl => absurd (fun y hy => by simp at hy) hcl⟩

omit hQR hQO hstable hbase in
/-- Once an entry is copied, the other entries finish the list: what they read and write is
apart from the entry's places, so they copy as from the disk before the entry, and succeed
exactly when nothing among them clashes. -/
theorem copyEntries_rest {f : Nat} (hent : CopyEntriesSpec base QR PR QO PO f) {rel : Place}
    {h : Host} {n : String} {k : Kind} {rest : List (String × Kind)} (hg : Grown base PR h.disk)
    (hrel : ∀ n ∈ rel, IsName n) (hdO : h.disk.DirsTo PO rel) (hdR : h.disk.DirsTo PR rel)
    (hnd : (((n, k) :: rest).map Prod.fst).Nodup)
    (hmem : ∀ c ∈ rest, h.disk.get? (PO ++ rel ++ [c.1]) = some c.2)
    (hfuel : (rest.map fun c => 2 * (base.countBelow (PO ++ rel ++ [c.1]) + 1)).sum ≤ f)
    (here : Nat) {d₂ : Disk} (ho : CopiedAt ([n] <+: ·) (PO ++ rel) (PR ++ rel) h.disk d₂)
    (hrep : Replaces (PO ++ rel) (PR ++ rel) h.disk d₂) :
    (Fits (fun y => ∃ c ∈ rest, [c.1] <+: y) (PO ++ rel) (PR ++ rel) h.disk →
      (copyEntries f (ofPlace (QO ++ rel)) (ofPlace (QR ++ rel)) rest >>=
        fun more => pure (here + more)).Gives { h with disk := d₂ } fun m d' =>
        CopiedAt (fun y => ∃ c ∈ (n, k) :: rest, [c.1] <+: y) (PO ++ rel) (PR ++ rel)
          h.disk d' ∧
          m = here + (rest.map fun c => base.filesWithin (PO ++ rel ++ [c.1])).sum) ∧
    (¬ Fits (fun y => ∃ c ∈ rest, [c.1] <+: y) (PO ++ rel) (PR ++ rel) h.disk →
      (copyEntries f (ofPlace (QO ++ rel)) (ofPlace (QR ++ rel)) rest >>=
        fun more => pure (here + more)).FailsWith { h with disk := d₂ }
        (CopyFault (PR ++ rel) h.disk) (Replaces (PO ++ rel) (PR ++ rel) h.disk)) := by
  rw [List.map_cons, List.nodup_cons] at hnd
  have hSD : ∀ y y', PO ++ rel ++ y ≠ PR ++ rel ++ y' := apart hdisj rel
  have hsep : ∀ y, (∃ c ∈ rest, [c.1] <+: y) → ¬ [n] <+: y := fun y hy =>
    not_head_of_rest hnd.1 hy
  have hg₂ : Grown base PR d₂ := hg.of_copiedAt ho fun y hy =>
    (under_append (P := PR) (x := rel ++ [n]) (by simp)).extend (by simpa using hy)
  have hsrc₂ : ∀ y, d₂.get? (PO ++ rel ++ y) = h.disk.get? (PO ++ rel ++ y) := fun y =>
    ho.same _ fun y' _ => hSD y y'
  have hdst₂ : ∀ y, (∃ c ∈ rest, [c.1] <+: y) →
      d₂.get? (PR ++ rel ++ y) = h.disk.get? (PR ++ rel ++ y) := fun y hy =>
    ho.same _ fun y' hy' heq => hsep y hy (by rw [List.append_cancel_left heq]; exact hy')
  have hdO₂ : d₂.DirsTo PO rel := hdO.congr fun x _ _ =>
    (hg₂.source hdisj x).trans (hg.source hdisj x).symm
  have hdR₂ : d₂.DirsTo PR rel := hdR.congr fun x _ hx =>
    ho.same _ fun y hy => ne_of_shorter hx (ne_nil_of_head hy)
  have hmem₂ : ∀ c ∈ rest, d₂.get? (PO ++ rel ++ [c.1]) = some c.2 := fun c hc =>
    (hsrc₂ [c.1]).trans (hmem c hc)
  obtain ⟨hok, hfail⟩ := hent rel { h with disk := d₂ } rest hg₂ hrel hdO₂ hdR₂ hnd.2 hmem₂ hfuel
  -- the other entries read the source and meet the target as they were before the entry
  have hiff : Fits (fun y => ∃ c ∈ rest, [c.1] <+: y) (PO ++ rel) (PR ++ rel) d₂ ↔
      Fits (fun y => ∃ c ∈ rest, [c.1] <+: y) (PO ++ rel) (PR ++ rel) h.disk :=
    ⟨fun h' => h'.congr (fun y _ => (hsrc₂ y).symm) (fun y hy => (hdst₂ y hy).symm),
      fun h' => h'.congr (fun y _ => hsrc₂ y) hdst₂⟩
  have hsrcOut : ∀ y, ¬ Under (PR ++ rel) (PO ++ rel ++ y) := fun y hU => by
    obtain ⟨y', hy'⟩ := hU.1
    exact hSD y y' hy'.symm
  refine ⟨fun hno => Gives.bind (hok (hiff.mpr hno)) fun more d₃ h₃ => Gives.pure _
      ⟨(CopiedAt.union hSD ho h₃.1 hsep).of_iff (by simp), by rw [h₃.2]⟩,
    fun hcl => (hfail fun h' => hcl (hiff.mp h')).bind_left.mono
      (fun e he => he.of_later fun _ _ => ho.fifo) fun d₃ h₃ => hrep.trans hsrcOut h₃⟩

omit hQR hQO hstable hbase in
/-- Below a directory made at the target, in place of nothing, a link or a directory, the copy
with one unit of fuel less fills it, and replaces only what the copy of the directory may. -/
theorem copyDir_fill {f : Nat} (hin : CopyInSpec base QR PR QO PO f) {rel : Place} {h : Host}
    {n : String} {d₁ : Disk} (hg : Grown base PR h.disk) (hrel : ∀ n ∈ rel, IsName n)
    (hn : IsName n) (hdO : h.disk.DirsTo PO rel) (hdR : h.disk.DirsTo PR rel)
    (hk : h.disk.get? (PO ++ rel ++ [n]) = some .dir)
    (hfuel : 2 * base.countBelow (PO ++ rel ++ [n]) < f)
    (hset : SetsAt (PR ++ rel ++ [n]) (some .dir) h.disk d₁) :
    (Fits (· ≠ []) (PO ++ rel ++ [n]) (PR ++ rel ++ [n]) h.disk →
      (copyIn f (ofPlace (QO ++ rel ++ [n])) (ofPlace (QR ++ rel ++ [n]))).Gives
        { h with disk := d₁ } fun m d₂ =>
          CopiedAt (· ≠ []) (PO ++ rel ++ [n]) (PR ++ rel ++ [n]) d₁ d₂ ∧
            Replaces (PO ++ rel) (PR ++ rel) h.disk d₂ ∧
            m = base.filesBelow (PO ++ rel ++ [n])) ∧
    (¬ Fits (· ≠ []) (PO ++ rel ++ [n]) (PR ++ rel ++ [n]) h.disk →
      (copyIn f (ofPlace (QO ++ rel ++ [n])) (ofPlace (QR ++ rel ++ [n]))).FailsWith
        { h with disk := d₁ } (CopyFault (PR ++ rel) h.disk)
        (Replaces (PO ++ rel) (PR ++ rel) h.disk)) := by
  have hSD : ∀ y y', PO ++ rel ++ y ≠ PR ++ rel ++ y' := apart hdisj rel
  have hg₁ := hg.of_setsAt hset (by simpa using under_append (P := PR) (x := rel ++ [n]) (by simp))
  have hsrc₁ : ∀ z, d₁.get? (PO ++ rel ++ [n] ++ z) = h.disk.get? (PO ++ rel ++ [n] ++ z) :=
    fun z => hset.other _ (by simpa using hSD ([n] ++ z) [n])
  have hdst₁ : ∀ z, z ≠ [] →
      d₁.get? (PR ++ rel ++ [n] ++ z) = h.disk.get? (PR ++ rel ++ [n] ++ z) :=
    fun z hz => hset.other _ (by simpa using hz)
  have hdO₁ : d₁.DirsTo PO (rel ++ [n]) :=
    (hdO.congr fun x _ _ => (hg₁.source hdisj x).trans (hg.source hdisj x).symm).snoc
      (by rw [← List.append_nil (PO ++ rel ++ [n]), hsrc₁, List.append_nil, hk])
  have hdR₁ : d₁.DirsTo PR (rel ++ [n]) :=
    (hdR.congr fun x _ hx => hset.other _ (ne_of_shorter hx (y := [n]) (by simp))).snoc hset.here
  obtain ⟨hok, hfail⟩ := hin (rel ++ [n]) { h with disk := d₁ } hg₁
    (List.forall_mem_append.mpr ⟨hrel, by simpa using hn⟩) hdO₁ hdR₁
    (by simp only [← List.append_assoc]; omega)
  simp only [← List.append_assoc] at hok hfail
  have hiff : Fits (· ≠ []) (PO ++ rel ++ [n]) (PR ++ rel ++ [n]) d₁ ↔
      Fits (· ≠ []) (PO ++ rel ++ [n]) (PR ++ rel ++ [n]) h.disk :=
    ⟨fun h' => h'.congr (fun z _ => (hsrc₁ z).symm) (fun z hz => (hdst₁ z hz).symm),
      fun h' => h'.congr (fun z _ => hsrc₁ z) hdst₁⟩
  -- the directory made replaces at most a link; what the fill replaces below the entry, the
  -- copy of the directory may replace
  have hrepE : Replaces (PO ++ rel) (PR ++ rel) h.disk d₁ :=
    Replaces.of_setsAt hset (by rw [copiedFrom_eq hk]; simp [Kind.copied]) fun p _ => by
      by_cases hp : p = .dir
      · exact .inl (by rw [hp])
      · exact .inr hp
  have hlift : ∀ d₂, Replaces (PO ++ rel ++ [n]) (PR ++ rel ++ [n]) d₁ d₂ →
      Replaces (PO ++ rel) (PR ++ rel) h.disk d₂ := fun d₂ h₂ =>
    hrepE.trans (fun y hU => by
      obtain ⟨y', hy'⟩ := hU.1
      exact hSD y y' hy'.symm) h₂.of_child
  exact ⟨fun hno => (hok (hiff.mpr hno)).mono fun m d₂ h₂ =>
      ⟨h₂.1, hlift d₂ (h₂.1.replaces (hiff.mpr hno) fun _ hy => hy), h₂.2⟩,
    fun hcl => (hfail fun h' => hcl (hiff.mp h')).mono
      (fun e he => (he.of_later fun z hz hf => by rwa [hdst₁ z hz] at hf).of_child) hlift⟩

/-- One more unit of fuel lets the copy handle a list of entries, given what a directory
below needs. -/
theorem copyEntries_succ {f : Nat} (hin : CopyInSpec base QR PR QO PO f)
    (hent : CopyEntriesSpec base QR PR QO PO f) : CopyEntriesSpec base QR PR QO PO (f + 1) := by
  intro rel h cs hg hrel hdO hdR hnd hmem hfuel
  cases cs with
  | nil => exact copyEntries_nil_spec (f + 1) rel hg.wf
  | cons c rest =>
    obtain ⟨n, k⟩ := c
    have hk : h.disk.get? (PO ++ rel ++ [n]) = some k := hmem (n, k) (by simp)
    have hkb : base.get? (PO ++ rel ++ [n]) = some k := by
      rw [List.append_assoc, ← hg.source hdisj, ← List.append_assoc, hk]
    have hn : IsName n := hg.wf.isName_of_get? (by simp) hk n (by simp)
    have hQOrel : ∀ x ∈ QO ++ rel, IsName x := List.forall_mem_append.mpr ⟨hQO, hrel⟩
    have hQRrel : ∀ x ∈ QR ++ rel, IsName x := List.forall_mem_append.mpr ⟨hQR, hrel⟩
    have hleadO := leadsTo_source hQO hstable hg hrel hdO
    have hleadR := leadsTo_target hQR hstable hg hrel hdR
    have hSD : ∀ y y', PO ++ rel ++ y ≠ PR ++ rel ++ y' := apart hdisj rel
    have hX : Under PR (PR ++ rel ++ [n]) := by
      simpa using under_append (P := PR) (x := rel ++ [n]) (by simp)
    simp only [List.map_cons, List.sum_cons] at hfuel
    have hrest := copyEntries_rest hdisj hent hg hrel hdO hdR hnd
      (fun c hc => hmem c (by simp [hc])) (by omega)
    -- what the entry writes and what the others write are checked apart
    have hsplit : Fits (fun y => ∃ c ∈ (n, k) :: rest, [c.1] <+: y) (PO ++ rel) (PR ++ rel) h.disk ↔
        Fits ([n] <+: ·) (PO ++ rel) (PR ++ rel) h.disk ∧
          Fits (fun y => ∃ c ∈ rest, [c.1] <+: y) (PO ++ rel) (PR ++ rel) h.disk := by
      have hpick : ∀ y, ([n] <+: y ∨ ∃ c ∈ rest, [c.1] <+: y) ↔
          ∃ c ∈ (n, k) :: rest, [c.1] <+: y := by
        simp
      constructor
      · intro hno
        exact ⟨hno.mono fun y hy => (hpick y).mp (.inl hy),
          hno.mono fun y hy => (hpick y).mp (.inr hy)⟩
      · rintro ⟨h₁, h₂⟩ y hy
        rcases (hpick y).mpr hy with hy | hy
        · exact h₁ y hy
        · exact h₂ y hy
    -- the entry's own place is replaced only when it holds no directory
    have hgX := hg.removeTree hX
    have hdR' : (h.disk.removeTree (PR ++ rel ++ [n])).DirsTo PR rel := hdR.congr fun x _ hx => by
      rw [get?_removeTree (by simp), if_neg (not_prefix_of_shorter hx (by simp))]
    have hdO' : (h.disk.removeTree (PR ++ rel ++ [n])).DirsTo PO rel := hdO.congr fun x _ _ =>
      (hgX.source hdisj x).trans (hg.source hdisj x).symm
    have hleadR' := leadsTo_target hQR hstable hgX hrel hdR'
    have hleadO' := leadsTo_source hQO hstable hgX hrel hdO'
    by_cases hkd : k = .dir
    · -- a directory: made (or kept) at the target, then filled
      subst hkd
      rw [copyEntries]
      dsimp only
      rw [join_ofPlace hQRrel hn, join_ofPlace hQOrel hn]
      have hcount : base.filesWithin (PO ++ rel ++ [n]) = base.filesBelow (PO ++ rel ++ [n]) := by
        rw [hbase.filesWithin_eq (by simp) hkb]
        simp [Kind.isFileOrLink]
      by_cases hc0 : ∃ p, h.disk.get? (PR ++ rel ++ [n]) = some p ∧ Kind.dir.clashes p = true
      · -- a file or a special file stands there: the copy stops, changing nothing
        obtain ⟨p, hp, hcl⟩ := hc0
        have hpd : p ≠ .dir := by
          rintro rfl
          simp [Kind.clashes] at hcl
        have hpl : ∀ t, p ≠ .link t := by
          rintro t rfl
          simp [Kind.clashes] at hcl
        obtain ⟨e, he⟩ := ensureDir_run_other hQRrel hn hleadR hp hpd hpl
        exact ⟨fun hno => absurd (hno [n] ⟨(n, .dir), by simp, List.prefix_refl _⟩ .dir p
          (copiedFrom_eq hk) hp) (by simp [hcl]),
          fun _ => (FailsWith.of_run he (.inl (ensureDir_failsBy _ h e h he))
            (Replaces.refl hg.wf)).bind_left⟩
      have hok0 : ∀ p, h.disk.get? (PR ++ rel ++ [n]) = some p → Kind.dir.clashes p = false :=
        fun p hp => Bool.eq_false_iff.mpr fun hcl => hc0 ⟨p, hp, hcl⟩
      have hE := ensureDir_sets hg.wf hQRrel hn hleadR hleadR' hok0
      have hfill := fun d₁ (hset : SetsAt (PR ++ rel ++ [n]) (some .dir) h.disk d₁) =>
        copyDir_fill hdisj hin hg hrel hn hdO hdR hk (by omega) hset
      -- with a directory on both sides, only what is below can clash
      have hown : Fits ([n] <+: ·) (PO ++ rel) (PR ++ rel) h.disk ↔
          Fits (· ≠ []) (PO ++ rel ++ [n]) (PR ++ rel ++ [n]) h.disk :=
        ⟨fun h' => (fits_entry_iff.mp h').2, fun h' => fits_entry_iff.mpr
          ⟨fun o p ho hp => by
            rw [copiedFrom_eq hk] at ho
            cases ho
            exact hok0 p hp, h'⟩⟩
      refine ⟨fun hno => ?_, fun hcl => ?_⟩
      · obtain ⟨h₁, h₂⟩ := hsplit.mp hno
        exact Gives.bind hE.gives fun _ d₁ hset => Gives.bind ((hfill d₁ hset).1 (hown.mp h₁))
          fun here d₂ h₂' => ((hrest here (copiedAt_dir hSD hset h₂'.1 hk) h₂'.2.1).1 h₂).mono
            fun m d₃ h₃ => ⟨h₃.1, by rw [h₃.2, h₂'.2.2, List.map_cons, List.sum_cons, hcount]⟩
      · by_cases h₁ : Fits (· ≠ []) (PO ++ rel ++ [n]) (PR ++ rel ++ [n]) h.disk
        · have h₂ : ¬ Fits (fun y => ∃ c ∈ rest, [c.1] <+: y) (PO ++ rel) (PR ++ rel) h.disk :=
            fun h₂ => hcl (hsplit.mpr ⟨hown.mpr h₁, h₂⟩)
          exact FailsWith.bind_right hE.gives fun _ d₁ hset => FailsWith.bind_right
            ((hfill d₁ hset).1 h₁) fun here d₂ h₂' =>
              (hrest here (copiedAt_dir hSD hset h₂'.1 hk) h₂'.2.1).2 h₂
        · exact FailsWith.bind_right hE.gives fun _ d₁ hset => ((hfill d₁ hset).2 h₁).bind_left
    · -- not a directory: a file or a link is written over what is at the target, a special
      -- file is skipped
      rw [copyEntries]
      swap
      · exact hkd
      dsimp only
      rw [join_ofPlace hQRrel hn, join_ofPlace hQOrel hn]
      have hleaf : base.filesBelow (PO ++ rel ++ [n]) = 0 :=
        hbase.filesBelow_leaf fun h => hkd (Option.some.inj (hkb.symm.trans h))
      by_cases hkfifo : k = .fifo
      · subst hkfifo
        have hcount : base.filesWithin (PO ++ rel ++ [n]) = 0 := by
          rw [hbase.filesWithin_eq (by simp) hkb, hleaf]
          rfl
        have hown : Fits ([n] <+: ·) (PO ++ rel) (PR ++ rel) h.disk := fun y hy o p ho _ => by
          rw [copiedFrom_skip hk hg.wf hy] at ho
          cases ho
        have hskip := hrest 0 (copiedAt_skip hk hg.wf) (Replaces.refl hg.wf)
        rw [copyLeaf_fifo]
        simp only [pure_bind, Bool.false_eq_true, ↓reduceIte]
        exact ⟨fun hno => (hskip.1 (hsplit.mp hno).2).mono fun m d' h' =>
            ⟨h'.1, by rw [h'.2, List.map_cons, List.sum_cons, hcount]⟩,
          fun hcl => hskip.2 fun h₂ => hcl (hsplit.mpr ⟨hown, h₂⟩)⟩
      by_cases hc0 : ∃ p, h.disk.get? (PR ++ rel ++ [n]) = some p ∧ k.clashes p = true
      · -- a directory, or a FIFO under a file, stops it and changes nothing
        obtain ⟨p, hp, hcl⟩ := hc0
        obtain ⟨e, he, hwhy⟩ := copyLeaf_fails hQRrel hn hleadR hQOrel hn hleadO hk hkd hkfifo hp hcl
        have hfault : CopyFault (PR ++ rel) h.disk e := by
          rcases hwhy with hio | ⟨hst, rfl⟩
          · exact .inl hio
          · exact .inr ⟨hst, [n], by simp, hp⟩
        exact ⟨fun hno => absurd (hno [n] ⟨(n, k), by simp, List.prefix_refl _⟩ k p
          ((copiedFrom_eq hk).trans (Kind.copied_of_ne_fifo hkfifo)) hp) (by simp [hcl]),
          fun _ => (FailsWith.of_run he hfault (Replaces.refl hg.wf)).bind_left⟩
      have hok0 : ∀ p, h.disk.get? (PR ++ rel ++ [n]) = some p → k.clashes p = false :=
        fun p hp => Bool.eq_false_iff.mpr fun hcl => hc0 ⟨p, hp, hcl⟩
      have hnodir : h.disk.get? (PR ++ rel ++ [n]) ≠ some .dir := fun hd =>
        hkd (Kind.clashes_dir.mp (hok0 _ hd))
      have hk' : (h.disk.removeTree (PR ++ rel ++ [n])).get? (PO ++ rel ++ [n]) = some k := by
        rw [get?_removeTree (by simp), if_neg fun ⟨z, hz⟩ => hSD [n] ([n] ++ z) (by rw [← hz]; simp),
          hk]
      have hL := copyLeaf_sets hg.wf hQRrel hn hleadR hQOrel hn hleadO hk hkd hkfifo hok0 hleadR'
        hleadO' hk'
      have hcount : base.filesWithin (PO ++ rel ++ [n]) = 1 := by
        rw [hbase.filesWithin_eq (by simp) hkb, hleaf, Kind.isFileOrLink_of_ne hkd hkfifo]
        rfl
      -- the file or link written lays the entry, replacing what was not a directory
      have hentry : ∀ d₁, SetsAt (PR ++ rel ++ [n]) (some k) h.disk d₁ →
          CopiedAt ([n] <+: ·) (PO ++ rel) (PR ++ rel) h.disk d₁ ∧
            Replaces (PO ++ rel) (PR ++ rel) h.disk d₁ := fun d₁ hset =>
        ⟨copiedAt_leaf hset hk hkd hkfifo (fun z hz => hg.wf.none_under hnodir (under_append hz))
            hg.wf,
          Replaces.of_setsAt hset (by rw [copiedFrom_eq hk, Kind.copied_of_ne_fifo hkfifo]; simp)
            fun p hp => .inr fun hpd => hnodir (hpd ▸ hp)⟩
      -- the entry's own part never clashes: nothing is below a file or a link
      have hown : Fits ([n] <+: ·) (PO ++ rel) (PR ++ rel) h.disk := fits_entry_iff.mpr
        ⟨fun o p ho hp => by
            rw [copiedFrom_eq hk, Kind.copied_of_ne_fifo hkfifo] at ho
            cases ho
            exact hok0 p hp,
          fun z hz o p ho _ => by
            rw [copiedFrom, hg.wf.none_under_leaf hk hkd (under_append hz)] at ho
            cases ho⟩
      refine ⟨fun hno => Gives.bind hL fun b d₁ hb => ?_,
        fun hcl => FailsWith.bind_right hL fun b d₁ hb => ?_⟩
      · obtain ⟨rfl, hset⟩ := hb
        simp only [pure_bind, ↓reduceIte]
        exact ((hrest 1 (hentry d₁ hset).1 (hentry d₁ hset).2).1 (hsplit.mp hno).2).mono
          fun m d' h' => ⟨h'.1, by rw [h'.2, List.map_cons, List.sum_cons, hcount]⟩
      · obtain ⟨rfl, hset⟩ := hb
        simp only [pure_bind, ↓reduceIte]
        exact (hrest 1 (hentry d₁ hset).1 (hentry d₁ hset).2).2 fun h₂ =>
          hcl (hsplit.mpr ⟨hown, h₂⟩)

omit hQR in
/-- One more unit of fuel lets the copy read a directory and copy its entries. -/
theorem copyIn_succ {f : Nat} (hent : CopyEntriesSpec base QR PR QO PO f) :
    CopyInSpec base QR PR QO PO (f + 1) := by
  intro rel h hg hrel hdO hdR hfuel
  have hleadO := leadsTo_source hQO hstable hg hrel hdO
  have hchild : ∀ c ∈ h.disk.children (PO ++ rel), h.disk.get? (PO ++ rel ++ [c.1]) = some c.2 :=
    fun c hc => (mem_children hg.wf).mp hc
  have hfuel' := sum_fuel_children_le hg.wf (fun c hc => by
    rw [List.append_assoc, ← hg.source hdisj, ← List.append_assoc, hchild c hc]
    simp) hfuel
  -- the entries read pick every place below the source that holds something
  have hcover : ∀ y, y ≠ [] → h.disk.get? (PO ++ rel ++ y) ≠ none →
      ∃ c ∈ h.disk.children (PO ++ rel), [c.1] <+: y := by
    intro y hy hne
    obtain ⟨k, hk⟩ := Option.ne_none_iff_exists'.mp hne
    obtain ⟨m, k', hm, hmy⟩ := hg.wf.child_on_way (under_append hy) hk
    exact ⟨(m, k'), (mem_children hg.wf).mpr hm, (List.prefix_append_right_inj _).mp hmy⟩
  have hpicks : ∀ y, (∃ c ∈ h.disk.children (PO ++ rel), [c.1] <+: y) → y ≠ [] := by
    rintro y ⟨c, -, hc⟩ rfl
    simp at hc
  have hiff : Fits (· ≠ []) (PO ++ rel) (PR ++ rel) h.disk ↔
      Fits (fun y => ∃ c ∈ h.disk.children (PO ++ rel), [c.1] <+: y) (PO ++ rel) (PR ++ rel)
        h.disk :=
    ⟨fun h' => h'.mono hpicks, fun h' y hy o p ho hp =>
      h' y (hcover y hy (get?_ne_none_of_copiedFrom (by simp [ho]))) o p ho hp⟩
  -- the files and links below the source are those at or below its entries
  have hcount : ((h.disk.children (PO ++ rel)).map fun c =>
      base.filesWithin (PO ++ rel ++ [c.1])).sum = base.filesBelow (PO ++ rel) :=
    hbase.sum_filesWithin_children (hg.wf.nodup_children _) fun m k hm => by
      rw [List.append_assoc, ← hg.source hdisj, ← List.append_assoc] at hm
      exact List.mem_map.mpr ⟨(m, k), (mem_children hg.wf).mpr hm, rfl⟩
  obtain ⟨hok, hfail⟩ := hent rel h _ hg hrel hdO hdR (hg.wf.nodup_children _) hchild hfuel'
  rw [copyIn]
  refine ⟨fun hno => Gives.run_bind (readEntries_run hleadO) ((hok (hiff.mp hno)).mono ?_),
    fun hcl => FailsWith.run_bind (readEntries_run hleadO) (hfail fun h' => hcl (hiff.mpr h'))⟩
  -- where no entry read picks a place, the source has nothing there
  rintro m d' ⟨ho, hm⟩
  refine ⟨ho.widen hpicks fun y hy hn => ?_, hm.trans hcount⟩
  by_contra hne
  exact hn (hcover y hy (get?_ne_none_of_copiedFrom hne))

/-- The copy does what its specs say, whatever its fuel. -/
theorem copy_specs (f : Nat) :
    CopyInSpec base QR PR QO PO f ∧ CopyEntriesSpec base QR PR QO PO f := by
  induction f with
  | zero =>
    refine ⟨fun _ _ _ _ _ _ hfuel => absurd hfuel (by omega), ?_⟩
    intro rel h cs hg _ _ _ _ _ hfuel
    cases cs with
    | nil => exact copyEntries_nil_spec 0 rel hg.wf
    | cons c rest => simp at hfuel
  | succ f ih =>
    exact ⟨copyIn_succ hQO hstable hdisj hbase ih.2,
      copyEntries_succ hQR hQO hstable hdisj hbase ih.1 ih.2⟩

end run

/-- Copying the tree that the path of `QO` leads to into the directory that the path of `QR`
leads to writes every directory, file and link below the source at the same place below the
target and counts the files and links, when nothing it writes clashes with what is there;
when something does, the copy fails, having replaced only what it may, by a failed call or
on a FIFO that stood below the target. Both paths have to lead there whatever happens below
the target, and neither directory may lie in the other. -/
theorem copyRecursively_copies {h : Host} {QR PR QO PO : Place} (hwf : h.disk.Wf)
    (hQR : ∀ n ∈ QR, IsName n) (hQO : ∀ n ∈ QO, IsName n)
    (hstable : ∀ d, AgreeOutside PR h.disk d → d.LeadsTo QR PR ∧ d.LeadsTo QO PO)
    (hdisj : ¬ PR <+: PO ∧ ¬ PO <+: PR) :
    (Fits (· ≠ []) PO PR h.disk →
      (copyRecursively (ofPlace QO) (ofPlace QR)).Gives h fun m d' =>
        CopiedAt (· ≠ []) PO PR h.disk d' ∧ m = h.disk.filesBelow PO) ∧
    (¬ Fits (· ≠ []) PO PR h.disk →
      (copyRecursively (ofPlace QO) (ofPlace QR)).FailsWith h (CopyFault PR h.disk)
        (Replaces PO PR h.disk)) := by
  -- the target is there already, so making it changes nothing
  have hmk : (Act.change .mkdir (ofPlace QR) (·.mkdirs (ofPlace QR))).run.run h =
      (.ok (), { h with disk := h.disk }) :=
    run_change_ok (mkdirs_of_leadsTo (hstable h.disk (AgreeOutside.refl _ _)).1)
  have hfuel : 2 * h.disk.countBelow (PO ++ []) < 2 * h.disk.entries.length + 2 := by
    have := h.disk.countBelow_le_length (PO ++ [])
    omega
  obtain ⟨hok, hfail⟩ := (copy_specs hQR hQO hstable hdisj hwf _).1 [] h
    ⟨hwf, AgreeOutside.refl _ _⟩ (by simp) (fun x hx hpre => absurd (List.prefix_nil.mp hpre) hx)
    (fun x hx hpre => absurd (List.prefix_nil.mp hpre) hx) hfuel
  simp only [List.append_nil] at hok hfail
  unfold copyRecursively
  exact ⟨fun hno => Gives.run_bind hmk (Gives.run_bind run_disk (hok hno)),
    fun hcl => FailsWith.run_bind hmk (FailsWith.run_bind run_disk (hfail hcl))⟩

/-- Without special files in the source, the copy lays every entry below the source over the
same place below the target when no entry clashes with what is there, and fails when one
does. -/
theorem copyRecursively_overlays {h : Host} {QR PR QO PO : Place} (hwf : h.disk.Wf)
    (hQR : ∀ n ∈ QR, IsName n) (hQO : ∀ n ∈ QO, IsName n)
    (hstable : ∀ d, AgreeOutside PR h.disk d → d.LeadsTo QR PR ∧ d.LeadsTo QO PO)
    (hdisj : ¬ PR <+: PO ∧ ¬ PO <+: PR) (hfifo : ∀ y, h.disk.get? (PO ++ y) ≠ some .fifo) :
    (NoClash (· ≠ []) PO PR h.disk →
      (copyRecursively (ofPlace QO) (ofPlace QR)).Leaves h (OverlaidAt (· ≠ []) PO PR h.disk)) ∧
    (¬ NoClash (· ≠ []) PO PR h.disk → (copyRecursively (ofPlace QO) (ofPlace QR)).Fails h) := by
  have hiff : Fits (· ≠ []) PO PR h.disk ↔ NoClash (· ≠ []) PO PR h.disk :=
    fits_iff_noClash fun y _ => hfifo y
  obtain ⟨hok, hfail⟩ := copyRecursively_copies hwf hQR hQO hstable hdisj
  refine ⟨fun hno => ?_, fun hcl => (hfail fun h' => hcl (hiff.mp h')).fails⟩
  obtain ⟨m, d', hrun, ho, -⟩ := hok (hiff.mpr hno)
  exact Leaves.of_run hrun (ho.overlaidAt fun y _ => hfifo y)

/-- The copy fails only where a call on the file system fails or never returns. -/
theorem copy_failsBy (f : Nat) :
    (∀ src dst, FailsBy Failure.IsFault (copyIn f src dst)) ∧
      ∀ src dst cs, FailsBy Failure.IsFault (copyEntries f src dst cs) := by
  induction f with
  | zero =>
    refine ⟨fun _ _ => ?_, fun _ _ _ => ?_⟩
    · rw [copyIn]
      exact FailsBy.pure _
    · rw [copyEntries]
      exact FailsBy.pure _
  | succ f ih =>
    refine ⟨fun src dst => ?_, fun src dst cs => ?_⟩
    · rw [copyIn]
      exact FailsBy.bind (FailsBy.fault (readEntries_failsBy _)) fun _ => ih.2 _ _ _
    · cases cs with
      | nil =>
        rw [copyEntries]
        exact FailsBy.pure _
      | cons c rest =>
        obtain ⟨name, kind⟩ := c
        have hrest : ∀ here, FailsBy Failure.IsFault (copyEntries f src dst rest >>= fun more =>
            pure (here + more)) :=
          fun _ => FailsBy.bind (ih.2 _ _ _) fun _ => FailsBy.pure _
        by_cases hkd : kind = .dir
        · subst hkd
          rw [copyEntries]
          exact FailsBy.bind (FailsBy.fault (ensureDir_failsBy _)) fun _ => FailsBy.bind (ih.1 _ _) hrest
        · rw [copyEntries]
          swap
          · exact hkd
          refine FailsBy.bind (copyLeaf_failsBy _ _ _) fun _ => ?_
          split <;> exact FailsBy.bind (FailsBy.pure _) hrest

theorem copyRecursively_failsBy (source destination : String) :
    FailsBy Failure.IsFault (copyRecursively source destination) := by
  unfold copyRecursively
  exact FailsBy.bind (FailsBy.fault (FailsBy.change _ _ _)) fun _ =>
    FailsBy.bind FailsBy.disk fun _ => (copy_failsBy _).1 _ _

end Tree

end FolderSink
