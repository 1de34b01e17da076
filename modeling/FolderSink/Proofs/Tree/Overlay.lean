import FolderSink.Proofs.Tree.Frame
/-!
Copying a directory `S` into a place `T` whose way down is open. The copy first makes `T` and
the directories above it, then copies the tree below `S` below `T`, each entry read once and
before what is below it. When neither place lies in the other, the copy only ever reads what
`S` held at the start. However it ends, `S` is as before, nothing changed outside `T` but the
directories made on the way down to it, and below `T` an entry was replaced only if it is not a
directory and the copy had something to write at its place. The copy succeeds exactly when
nothing it writes clashes with what `T` holds, a file written over a FIFO counting as a clash.
Then it has laid the directories, files and links of `S` over `T`, skipping special files, and
returns the number of files and links. Otherwise a call failed, or a file was being copied onto
a FIFO below `T`: opening a FIFO for writing waits for a reader, so that copy never returns.
Main statement:

* `copyRecursively_lays_source_over_target`.
-/

namespace FolderSink

namespace Tree

open Disk FolderSink.Path Act

section made

/-! The disk once the target and the directories above it are made. -/

variable {d d₁ : Disk} {S T : Place}
  (hget : ∀ q, d₁.get? q = if q <+: T then some .dir else d.get? q)
include hget

theorem made_off {q : Place} (hq : ¬ q <+: T) : d₁.get? q = d.get? q := by
  rw [hget, if_neg hq]

theorem made_source (hST : ¬ S <+: T) (y : Place) : d₁.get? (S ++ y) = d.get? (S ++ y) :=
  made_off hget fun h => hST ((List.prefix_append S y).trans h)

theorem made_below {y : Place} (hy : y ≠ []) : d₁.get? (T ++ y) = d.get? (T ++ y) :=
  made_off hget fun h => by
    have hlen := h.length_le
    rw [List.length_append] at hlen
    exact hy (List.eq_nil_of_length_eq_zero (by omega))

theorem made_copiedFrom (hST : ¬ S <+: T) (y : Place) : d₁.copiedFrom S y = d.copiedFrom S y := by
  unfold copiedFrom
  rw [made_source hget hST]

/-- Making the target changes nothing that the copy writes or meets below it. -/
theorem made_fits (hST : ¬ S <+: T) : Fits (· ≠ []) S T d₁ ↔ Fits (· ≠ []) S T d :=
  ⟨fun h => h.congr (fun y _ => (made_source hget hST y).symm) fun _ hy => (made_below hget hy).symm,
    fun h => h.congr (fun y _ => made_source hget hST y) fun _ hy => made_below hget hy⟩

end made

/-- Copying a directory `S` into a place `T` whose way down is open, neither lying in the
other. However the copy ends, it leaves `S` as it was, outside `T` it has only made `T` and
the directories above it, and below `T` it has replaced only entries that are not directories
and stand where it has something to write. It succeeds exactly when nothing it writes clashes
with what is below `T`; then it returns the number of files and links below `S`, and every
place below `T` holds what `S` holds there, special files skipped, or else what it held. It
fails only by a failed call, or by stalling on a FIFO below `T`. -/
theorem copyRecursively_lays_source_over_target {h : Host} {S T : Place} (hwf : h.disk.Wf)
    (hS : h.disk.get? S = some .dir) (hTn : ∀ m ∈ T, IsName m) (hT : h.disk.OpenTo T)
    (hdisj : ¬ S <+: T ∧ ¬ T <+: S) :
    ∃ r d', (copyRecursively (ofPlace S) (ofPlace T)).run.run h = (r, { h with disk := d' }) ∧
      d'.Wf ∧
      (∀ y, d'.get? (S ++ y) = h.disk.get? (S ++ y)) ∧
      (∀ q, ¬ Under T q → d'.get? q = if q <+: T then some .dir else h.disk.get? q) ∧
      (∀ y k, h.disk.get? (T ++ y) = some k →
        d'.get? (T ++ y) = some k ∨ (k ≠ .dir ∧ h.disk.copiedFrom S y ≠ none)) ∧
      ((∃ n, r = .ok n) ↔ h.disk.Fits (· ≠ []) S T) ∧
      (∀ n, r = .ok n → n = h.disk.filesBelow S ∧
        ∀ y, y ≠ [] → d'.get? (T ++ y) = (h.disk.copiedFrom S y).or (h.disk.get? (T ++ y))) ∧
      ∀ e, r = .error e → CopyFault T h.disk e := by
  obtain ⟨d₁, hwf₁, hget, hmk⟩ := mkdirs_of_way hwf hTn hT
  have hS₁ : d₁.get? S = some .dir := by rw [made_off hget hdisj.1, hS]
  have hT₁ : d₁.get? T = some .dir := by rw [hget, if_pos (List.prefix_refl T)]
  -- once the target is made, both places are led to by their own paths while nothing
  -- changes outside the target
  have hstable : ∀ d, AgreeOutside T d₁ d → d.LeadsTo T T ∧ d.LeadsTo S S := fun d hagree =>
    ⟨leadsTo_self_of_way hwf₁ hT₁ d fun x hx => (hagree x (not_under_of_above hx)).symm,
      leadsTo_self_of_way hwf₁ hS₁ d fun x hx =>
        (hagree x fun hU => hdisj.2 (hU.1.trans hx)).symm⟩
  obtain ⟨hok, hfail⟩ := copyRecursively_copies (h := { h with disk := d₁ }) hwf₁ hTn
    (hwf.names_of_get? hS) hstable ⟨hdisj.2, hdisj.1⟩
  -- making the target again changes nothing, so the copy runs as from the disk with it made
  have hrun : (copyRecursively (ofPlace S) (ofPlace T)).run.run h =
      (copyRecursively (ofPlace S) (ofPlace T)).run.run { h with disk := d₁ } := by
    unfold copyRecursively
    rw [run_bind_ok (run_change_ok hmk),
      run_bind_ok (run_change_ok (mkdirs_of_leadsTo (leadsTo_self hwf₁ hT₁)))]
  have hfits := made_fits hget hdisj.1
  -- what holds however the copy ends, from what it may replace
  have hframe : ∀ d', Replaces S T d₁ d' → d'.Wf ∧
      (∀ y, d'.get? (S ++ y) = h.disk.get? (S ++ y)) ∧
      (∀ q, ¬ Under T q → d'.get? q = if q <+: T then some .dir else h.disk.get? q) ∧
      (∀ y k, h.disk.get? (T ++ y) = some k →
        d'.get? (T ++ y) = some k ∨ (k ≠ .dir ∧ h.disk.copiedFrom S y ≠ none)) := by
    intro d' hrep
    refine ⟨hrep.wf, fun y => ?_, fun q hq => (hrep.outside q hq).trans (hget q), fun y k hk => ?_⟩
    · rw [hrep.outside _ (source_outside ⟨hdisj.2, hdisj.1⟩ y), made_source hget hdisj.1]
    · by_cases hy : y = []
      · -- the target itself was open, so a directory if anything, and it stays one
        subst hy
        rw [List.append_nil] at hk ⊢
        have hkd : k = .dir := by
          rcases hT T (List.prefix_refl T) with hn | hd
          · exact absurd (hk.symm.trans hn) (by simp)
          · exact Option.some.inj (hk.symm.trans hd)
        subst hkd
        exact .inl ((hrep.outside T fun hU => hU.2 rfl).trans hT₁)
      · rcases hrep.inside y k (by rw [made_below hget hy, hk]) with h' | ⟨hkd, hs⟩
        · exact .inl h'
        · exact .inr ⟨hkd, by rwa [made_copiedFrom hget hdisj.1] at hs⟩
  rw [hrun]
  by_cases hno : h.disk.Fits (· ≠ []) S T
  · obtain ⟨n, d', hrun', ho, hn⟩ := hok (hfits.mpr hno)
    dsimp only at ho hn
    obtain ⟨hwf', hsrc, hout, hin⟩ := hframe d' (ho.replaces (hfits.mpr hno) fun _ hy => hy)
    refine ⟨.ok n, d', hrun', hwf', hsrc, hout, hin, ⟨fun _ => hno, fun _ => ⟨n, rfl⟩⟩,
      fun m hm => ?_, fun _ he => by cases he⟩
    cases hm
    -- the count was taken on the disk with the target made, which agrees below the source
    have hcount : d₁.filesBelow S = h.disk.filesBelow S :=
      hwf.filesBelow_congr hwf₁ fun q hq => made_off hget fun h' => hdisj.1 (hq.1.trans h')
    refine ⟨hn.trans hcount, fun y hy => ?_⟩
    rw [ho.laid y hy, made_copiedFrom hget hdisj.1, made_below hget hy]
  · obtain ⟨e, d', hrun', hwhy, hrep⟩ := hfail fun h' => hno (hfits.mp h')
    dsimp only at hwhy hrep
    obtain ⟨hwf', hsrc, hout, hin⟩ := hframe d' hrep
    -- a FIFO met below the target was there before the target was made
    have hfault : CopyFault T h.disk e :=
      hwhy.of_later fun y hy hf => by rwa [made_below hget hy] at hf
    exact ⟨.error e, d', hrun', hwf', hsrc, hout, hin,
      ⟨fun ⟨_, hn⟩ => (by cases hn), fun h' => absurd h' hno⟩, fun _ hn => (by cases hn),
      fun _ he => Except.error.inj he ▸ hfault⟩

/-- A file, a special file and a link copied into an empty directory: the file and the link
are written and counted, the special file is skipped. -/
theorem copyRecursively_skips_special_files :
    ∃ r d', (copyRecursively (ofPlace ["s"]) (ofPlace ["t"])).run.run
        ⟨⟨[(["s"], .dir), (["s", "a"], .file "x" 420), (["s", "f"], .fifo),
          (["s", "l"], .link "a"), (["t"], .dir)]⟩, []⟩ = (r, ⟨d', []⟩) ∧
      r = .ok 2 ∧ d'.get? ["t", "a"] = some (.file "x" 420) ∧ d'.get? ["t", "f"] = none ∧
      d'.get? ["t", "l"] = some (.link "a") := by
  set d : Disk := ⟨[(["s"], .dir), (["s", "a"], .file "x" 420), (["s", "f"], .fifo),
    (["s", "l"], .link "a"), (["t"], .dir)]⟩
  have hwf : d.Wf := ⟨by decide, by decide, by decide, by decide⟩
  -- nothing is below the target, so nothing the copy writes clashes
  have hfits : d.Fits (· ≠ []) ["s"] ["t"] := by
    intro y hy o p _ hp
    have hmem := mem_of_get? (by simp) hp
    simp [d] at hmem
    exact absurd hmem.1 hy
  obtain ⟨r, d', hrun, -, -, -, -, hok, hsucc, -⟩ := copyRecursively_lays_source_over_target
    (h := ⟨d, []⟩) (S := ["s"]) (T := ["t"]) hwf
    (by decide) (hwf.names_of_get? (k := .dir) (by decide)) (hwf.openTo (by decide)) (by decide)
  obtain ⟨n, rfl⟩ := hok.mpr hfits
  obtain ⟨hn, hlaid⟩ := hsucc n rfl
  have hcount : d.filesBelow ["s"] = 2 := by decide
  exact ⟨.ok n, d', hrun, by rw [hn, hcount], (hlaid ["a"] (by simp)).trans (by decide),
    (hlaid ["f"] (by simp)).trans (by decide), (hlaid ["l"] (by simp)).trans (by decide)⟩

end Tree

end FolderSink
