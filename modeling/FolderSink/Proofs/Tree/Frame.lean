import FolderSink.Tree.Staging
import FolderSink.Proofs.Tree.Copy
/-!
What the tree operations never touch. However a copy into a directory ends, with its result
or at a failure part way, it has changed nothing outside that directory: every entry is
written at a place below it reached through directories only, and a link found where an
entry goes is removed, never written through. The same holds of copying the kept entries of
a tree into a fresh directory, which makes the directories on the way down to a kept entry
as it goes. Neither depends on what the source holds. Main statements:

* `Act.Stays`, `Stays.bind`: what a run leaves, however it ends, composed along a run;
* `copyLeaf_stays`, `ensureDir_child_run`: one step on an entry changes that entry only;
* `copy_frames`: a copy into a directory stays below it;
* `preserve_frames`: so does copying the kept entries of a tree into a fresh directory.
-/

namespace FolderSink

namespace Act

variable {α β : Type} {h : Host} {x : Act α} {f : α → Act β} {inv mid post : Disk → Prop}

/-- Run from `h`, the work leaves a disk that `inv` accepts, however it ends. -/
def Stays (x : Act α) (h : Host) (inv : Disk → Prop) : Prop := inv (x.run.run h).2.disk

theorem Stays.of_run {r : Except Failure α} {h' : Host} (hx : x.run.run h = (r, h'))
    (hinv : inv h'.disk) : x.Stays h inv := by
  unfold Stays
  rw [hx]
  exact hinv

theorem Stays.mono (hx : x.Stays h inv) (himp : ∀ d, inv d → post d) : x.Stays h post :=
  himp _ hx

theorem Stays.pure (a : α) (hinv : inv h.disk) : (Pure.pure a : Act α).Stays h inv := hinv

/-- Sequencing after a step whose successful run is known. -/
theorem Stays.run_bind {a : α} {h' : Host} (hx : x.run.run h = (.ok a, h'))
    (hf : (f a).Stays h' inv) : (x >>= f).Stays h inv := by
  unfold Stays at hf ⊢
  rw [run_bind_ok hx]
  exact hf

/-- Sequencing: a failure of the first part ends the run where it left the disk, and a
success hands its disk to the second part. -/
theorem Stays.bind (hx : x.Stays h mid) (hexit : ∀ d, mid d → post d)
    (hf : ∀ a h', x.run.run h = (.ok a, h') → mid h'.disk → (f a).Stays h' post) :
    (x >>= f).Stays h post := by
  unfold Stays at hx ⊢
  rw [Act.run_bind]
  cases hr : x.run.run h with
  | mk r h₁ =>
    rw [hr] at hx
    cases r with
    | error e => exact hexit _ hx
    | ok a => exact hf a h₁ hr hx

/-- Asking the file system leaves the host as it was. -/
theorem run_ask (op : Operation) (p : String) (q : Disk → Except SysError α) :
    (ask op p q).run.run h = (match q h.disk with
      | .ok a => .ok a
      | .error e => .error (ioFailure op p e), h) := by
  unfold ask
  rw [run_bind, run_disk]
  dsimp only
  cases q h.disk <;> rfl

theorem run_test_any (m : PathMatcher) (c : String) :
    ((test m c).run.run h).2 = h := by
  unfold test
  cases m.test c <;> rfl

theorem Stays.ask (op : Operation) (p : String) (q : Disk → Except SysError α)
    (hinv : inv h.disk) : (ask op p q).Stays h inv := by
  unfold Stays
  rw [run_ask]
  exact hinv

theorem Stays.test (m : PathMatcher) (c : String) (hinv : inv h.disk) : (test m c).Stays h inv := by
  unfold Stays
  rw [run_test_any]
  exact hinv

theorem run_ask_eq_ok {op : Operation} {p : String} {q : Disk → Except SysError α} {a : α}
    {h' : Host} (hx : (ask op p q).run.run h = (.ok a, h')) : h' = h ∧ q h.disk = .ok a := by
  rw [run_ask] at hx
  cases hq : q h.disk with
  | ok b =>
    rw [hq] at hx
    obtain ⟨h₁, h₂⟩ := Prod.mk.inj hx
    exact ⟨h₂.symm, by rw [Except.ok.inj h₁]⟩
  | error e =>
    rw [hq] at hx
    cases (Prod.mk.inj hx).1

theorem run_test_eq_ok {m : PathMatcher} {c : String} {b : Bool} {h' : Host}
    (hx : (test m c).run.run h = (.ok b, h')) : h' = h := by
  have := run_test_any (h := h) m c
  rw [hx] at this
  exact this

end Act

namespace Disk

open FolderSink.Path

variable {d d' : Disk} {X : Place}

/-- Removing a leaf, with nothing below it, changes that place only. -/
theorem setsAt_removeTree (hd : d.Wf) (hX : X ≠ []) (hleaf : ∀ q, Under X q → d.get? q = none) :
    SetsAt X none d (d.removeTree X) where
  wf := hd.removeTree hX
  here := by simp [get?_removeTree hX]
  other q hq := by
    rw [get?_removeTree hX]
    split
    · rename_i hXq
      exact (hleaf q ⟨hXq, fun h => hq h.symm⟩).symm
    · rfl

/-- Places that a relation between disks leaves alone: `d'` is well formed and agrees with
`d` at every place `touch` does not pick. -/
def SameOff (touch : Place → Prop) (d d' : Disk) : Prop :=
  d'.Wf ∧ ∀ q, ¬ touch q → d'.get? q = d.get? q

theorem SameOff.refl (hd : d.Wf) (touch : Place → Prop) : SameOff touch d d := ⟨hd, fun _ _ => rfl⟩

theorem SameOff.trans {touch : Place → Prop} {d'' : Disk} (h₁ : SameOff touch d d')
    (h₂ : SameOff touch d' d'') : SameOff touch d d'' :=
  ⟨h₂.1, fun q hq => (h₂.2 q hq).trans (h₁.2 q hq)⟩

theorem SameOff.mono {touch touch' : Place → Prop} (h : SameOff touch d d')
    (himp : ∀ q, touch q → touch' q) : SameOff touch' d d' :=
  ⟨h.1, fun q hq => h.2 q fun ht => hq (himp q ht)⟩

theorem SetsAt.sameOff {v : Option Kind} (h : SetsAt X v d d') : SameOff (· = X) d d' :=
  ⟨h.wf, fun q hq => h.other q hq⟩

/-- Nothing on the way down to a place lies below it. -/
theorem not_under_of_above {x S : Place} (h : x <+: S) : ¬ Under S x := fun hU =>
  hU.2 (hU.1.eq_of_length (le_antisymm hU.1.length_le h.length_le))

theorem Under.of_child {X q : Place} {n : String} (h : Under (X ++ [n]) q) : Under X q :=
  (under_append (P := X) (x := [n]) (by simp)).extend h.1

/-- Two places one name below `X` that lie on one way down are below the same name. -/
theorem name_eq_of_comparable {X z : Place} {c n : String}
    (h : X ++ c :: z <+: X ++ [n] ∨ X ++ [n] <+: X ++ c :: z) : c = n := by
  have hc : X ++ [c] <+: X ++ c :: z := ⟨z, by simp⟩
  rcases h with h | h
  · exact name_eq_of_prefixes (hc.trans h) (List.prefix_refl _)
  · exact name_eq_of_prefixes hc h

/-- The way down to `X` is open: each place on it is missing or a directory. -/
def OpenTo (d : Disk) (X : Place) : Prop := ∀ x, x <+: X → d.get? x = none ∨ d.get? x = some .dir

/-- The way down to a directory is open. -/
theorem Wf.openTo (hd : d.Wf) (hX : d.get? X = some .dir) : d.OpenTo X := fun x hx => by
  rcases eq_or_ne x X with rfl | hne
  · exact .inr hX
  · exact .inr (hd.dir_of_under ⟨hx, hne⟩ hX)

/-- A change that keeps every place `touch` does not pick, except that a place on the way
down to `X` may have become a directory. -/
def Raised (touch : Place → Prop) (X : Place) (d d' : Disk) : Prop :=
  d'.Wf ∧ ∀ q, ¬ touch q → d'.get? q = d.get? q ∨ (q <+: X ∧ d'.get? q = some .dir)

section raised

variable {touch touch' : Place → Prop} {Y : Place} {d'' : Disk}

theorem Raised.refl (hd : d.Wf) : Raised touch X d d := ⟨hd, fun _ _ => .inl rfl⟩

theorem Raised.trans (h₁ : Raised touch X d d') (h₂ : Raised touch X d' d'') :
    Raised touch X d d'' := by
  refine ⟨h₂.1, fun q hq => ?_⟩
  rcases h₂.2 q hq with h | h
  · rw [h]
    exact h₁.2 q hq
  · exact .inr h

theorem Raised.mono (h : Raised touch X d d') (htouch : ∀ q, touch q → touch' q)
    (hXY : X <+: Y) : Raised touch' Y d d' :=
  ⟨h.1, fun q hq => (h.2 q fun ht => hq (htouch q ht)).imp_right fun h' => ⟨h'.1.trans hXY, h'.2⟩⟩

theorem SameOff.raised (h : SameOff touch d d') : Raised touch X d d' :=
  ⟨h.1, fun q hq => .inl (h.2 q hq)⟩

/-- What an entry's work does stays within what the work on its directory may do. -/
theorem Raised.of_child {n : String} (h : Raised ((X ++ [n]) <+: ·) (X ++ [n]) d d') :
    Raised (Under X) X d d' := by
  refine ⟨h.1, fun q hq => ?_⟩
  have hnot : ¬ X ++ [n] <+: q := fun h' => hq ((under_append (by simp)).extend h')
  refine (h.2 q hnot).imp_right fun ⟨hq', hdir⟩ => ⟨?_, hdir⟩
  rcases List.prefix_concat_iff.mp hq' with rfl | h'
  · exact absurd (List.prefix_refl _) hnot
  · exact h'

/-- Below a directory, making directories on the way down to it changes nothing there. -/
theorem Raised.sameOff (hd : d.Wf) (hX : d.get? X = some .dir) (h : Raised (Under X) X d d') :
    SameOff (Under X) d d' := by
  refine ⟨h.1, fun q hq => ?_⟩
  rcases h.2 q hq with h' | ⟨hqX, hdir⟩
  · exact h'
  · rw [hdir]
    rcases eq_or_ne q X with rfl | hne
    · exact hX.symm
    · exact (hd.dir_of_under ⟨hqX, hne⟩ hX).symm

/-- Making the directories on the way down to `X` is such a change. -/
theorem Raised.of_made (hd' : d'.Wf)
    (hget : ∀ q, d'.get? q = if q <+: X then some .dir else d.get? q) : Raised touch X d d' := by
  refine ⟨hd', fun q _ => ?_⟩
  rw [hget q]
  split
  · exact .inr ⟨‹_›, rfl⟩
  · exact .inl rfl

/-- A way down that the change does not touch stays open. -/
theorem Raised.openTo (h : Raised touch X d d') (hY : ∀ x, x <+: Y → ¬ touch x)
    (hopen : d.OpenTo Y) : d'.OpenTo Y := fun x hx => by
  rcases h.2 x (hY x hx) with h' | ⟨-, hdir⟩
  · rw [h']
    exact hopen x hx
  · exact .inr hdir

end raised

end Disk

namespace Tree

open Disk FolderSink.Path Act

variable {h : Host} {Q P : Place} {n : String}

section entry

/-! One step of a copy on the entry `n` of a directory `P` that the path of `Q` leads to,
from any source. -/

variable (hwf : h.disk.Wf) (hQ : ∀ m ∈ Q, IsName m) (hn : IsName n) (hdir : h.disk.LeadsTo Q P)
include hwf hQ hn hdir

/-- Making a directory on an entry either makes it there, changing that entry only, or fails
and changes nothing. -/
theorem ensureDir_child_run (hdir' : (h.disk.removeTree (P ++ [n])).LeadsTo Q P) :
    (∃ d', (ensureDir (ofPlace (Q ++ [n]))).run.run h = (.ok (), { h with disk := d' }) ∧
      SetsAt (P ++ [n]) (some .dir) h.disk d') ∨
    ∃ e, (ensureDir (ofPlace (Q ++ [n]))).run.run h = (.error e, h) := by
  by_cases hcl : ∃ p, h.disk.get? (P ++ [n]) = some p ∧ Kind.dir.clashes p = true
  · obtain ⟨p, hp, hc⟩ := hcl
    obtain ⟨e, h', hrun⟩ := ensureDir_fails hQ hn hdir hp hc
    -- a failing call leaves the host as it was
    right
    cases p with
    | dir => simp [Kind.clashes] at hc
    | link t => simp [Kind.clashes] at hc
    | file c mode =>
      obtain ⟨e', he'⟩ := ensureDir_run_other hQ hn hdir hp (by simp) (by simp)
      exact ⟨e', he'⟩
    | fifo =>
      obtain ⟨e', he'⟩ := ensureDir_run_other hQ hn hdir hp (by simp) (by simp)
      exact ⟨e', he'⟩
  · have hok : ∀ p, h.disk.get? (P ++ [n]) = some p → Kind.dir.clashes p = false :=
      fun p hp => Bool.eq_false_iff.mpr fun hc => hcl ⟨p, hp, hc⟩
    obtain ⟨_, d', hrun, hset⟩ := ensureDir_sets hwf hQ hn hdir hdir' hok
    exact .inl ⟨d', hrun, hset⟩

/-- Copying any entry onto the entry `n` changes that entry at most, however it ends: a link
there is removed before a file or a link is written, and a directory there stops it. -/
theorem copyLeaf_stays (hdir' : (h.disk.removeTree (P ++ [n])).LeadsTo Q P) (src : String)
    (kind : Kind) :
    (copyLeaf src (ofPlace (Q ++ [n])) kind).Stays h (SameOff (· = P ++ [n]) h.disk) := by
  have hpar : h.disk.get? (P ++ [n]).dropLast = some .dir := by
    simpa using (hdir.dir hwf).1
  have hnames := names_child hwf hn hdir
  have hleaf : h.disk.get? (P ++ [n]) ≠ some .dir → ∀ q, Under (P ++ [n]) q →
      h.disk.get? q = none := fun hnd q hq => hwf.none_under hnd hq
  have hnone' : (h.disk.removeTree (P ++ [n])).get? (P ++ [n]) = none := by
    simp [get?_removeTree]
  have hunchanged : SameOff (· = P ++ [n]) h.disk h.disk := SameOff.refl hwf _
  -- the two ways the entry can be written, over nothing and over a removed leaf
  have hput : ∀ k, h.disk.get? (P ++ [n]) = none →
      SameOff (· = P ++ [n]) h.disk (h.disk.put (P ++ [n]) k) := fun k hk =>
    (setsAt_put hwf (by simp) hnames hpar (.inr (hleaf (by simp [hk])))).sameOff
  have hreplace : ∀ k, h.disk.get? (P ++ [n]) ≠ some .dir →
      SameOff (· = P ++ [n]) h.disk ((h.disk.removeTree (P ++ [n])).put (P ++ [n]) k) :=
    fun k hnd => (setsAt_removeTree_put hwf (by simp) hnames hpar (hleaf hnd)).sameOff
  have hremove : h.disk.get? (P ++ [n]) ≠ some .dir →
      SameOff (· = P ++ [n]) h.disk (h.disk.removeTree (P ++ [n])) :=
    fun hnd => (setsAt_removeTree hwf (by simp) (hleaf hnd)).sameOff
  unfold copyLeaf
  cases kind with
  | link t₀ =>
    dsimp only
    refine Stays.bind (Stays.ask _ _ _ hunchanged) (fun _ h => h) fun t h₁ hr _ => ?_
    rw [(run_ask_eq_ok hr).1]
    refine Stays.run_bind (run_ask_ok (lstat?_child hQ hn hdir)) ?_
    cases hk : h.disk.get? (P ++ [n]) with
    | none =>
      simp only [Option.isSome_none, Bool.false_eq_true, ↓reduceIte]
      exact Stays.run_bind (run_change_ok (symlink_child hQ hn hdir hk t)) (hput _ hk)
    | some k =>
      simp only [Option.isSome_some, ↓reduceIte]
      by_cases hkd : k = .dir
      · subst hkd
        obtain ⟨e, he⟩ := unlink_child_dir hQ hn hdir hk
        exact Stays.of_run (run_bind_error (run_change_error he)) hunchanged
      · exact Stays.run_bind (run_change_ok (unlink_child hQ hn hdir hk hkd))
          (Stays.run_bind (run_change_ok (symlink_child hQ hn hdir' hnone' t))
            (hreplace _ (by simp [hk, hkd])))
  | file c₀ mode₀ =>
    dsimp only
    refine Stays.run_bind (run_ask_ok (lstat?_child hQ hn hdir)) ?_
    -- the copy itself, once no link is in the way
    have hcopy : ∀ {h₁ : Host} (call : String), h₁.disk.LeadsTo Q P →
        h₁.disk.get? (P ++ [n]) ≠ some (.dir) → (∀ t, h₁.disk.get? (P ++ [n]) ≠ some (.link t)) →
        (∀ d', SameOff (· = P ++ [n]) h₁.disk d' → SameOff (· = P ++ [n]) h.disk d') →
        SameOff (· = P ++ [n]) h.disk h₁.disk →
        (Act.changeOrStall .copy (ofPlace (Q ++ [n])) call (·.copyFile src (ofPlace (Q ++ [n]))) >>=
          fun _ => (Pure.pure true : Act Bool)).Stays h₁ (SameOff (· = P ++ [n]) h.disk) := by
      intro h₁ call hdir₁ hnd₁ hnl₁ hlift hnow
      rcases copyFile_child_any hQ hn hdir₁ src hnd₁ hnl₁ with ⟨e, he⟩ | he | ⟨c, mode, he⟩
      · exact Stays.of_run (run_bind_error (run_changeOrStall_error he)) hnow
      · exact Stays.of_run (run_bind_error (run_changeOrStall_stall he)) hnow
      · refine Stays.run_bind (run_changeOrStall_ok he) (hlift _ ?_)
        have hpar₁ : h₁.disk.get? (P ++ [n]).dropLast = some .dir := by
          simpa using (hdir₁.dir hnow.1).1
        exact (setsAt_put hnow.1 (by simp) hnames hpar₁
          (.inr fun q hq => hnow.1.none_under hnd₁ hq)).sameOff
    cases hk : h.disk.get? (P ++ [n]) with
    | none =>
      exact hcopy _ hdir (by simp [hk]) (by simp [hk]) (fun _ h' => h') hunchanged
    | some k =>
      cases k with
      | link t =>
        dsimp only
        refine Stays.run_bind (run_change_ok (unlink_child hQ hn hdir hk (by simp))) ?_
        exact hcopy _ hdir' (by simp [hnone']) (by simp [hnone'])
          (fun d' h' => (hremove (by simp [hk])).trans h') (hremove (by simp [hk]))
      | dir =>
        rcases copyFile_child_dir_any hQ hn hdir src hk with ⟨e, he⟩ | he
        · exact Stays.of_run (run_bind_error (run_changeOrStall_error he)) hunchanged
        · exact Stays.of_run (run_bind_error (run_changeOrStall_stall he)) hunchanged
      | file c mode => exact hcopy _ hdir (by simp [hk]) (by simp [hk]) (fun _ h' => h') hunchanged
      | fifo => exact hcopy _ hdir (by simp [hk]) (by simp [hk]) (fun _ h' => h') hunchanged
  | dir => exact Stays.pure _ hunchanged
  | fifo => exact Stays.pure _ hunchanged

end entry

section via

/-! A copy into a directory `PR ++ rel` that the path of `QR ++ rel` leads to, on a disk that
agrees with `base` outside `PR`: the path of `QR` leads to `PR` on every such disk, and the
way down from `PR` is made of directories. -/

variable (base : Disk) (QR PR : Place)

/-- Copying with fuel `f` into the directory `PR ++ rel`, through the path of `QR ++ rel`,
changes nothing but what is strictly below that directory, whatever the source and however
the copy ends. -/
def CopyVia (f : Nat) : Prop :=
  (∀ rel src (h : Host), SameOff (Under PR) base h.disk → (∀ m ∈ rel, IsName m) →
    h.disk.DirsTo PR rel →
    (copyIn f src (ofPlace (QR ++ rel))).Stays h (SameOff (Under (PR ++ rel)) h.disk)) ∧
  ∀ rel src (cs : List (String × Kind)) (h : Host), SameOff (Under PR) base h.disk →
    (∀ m ∈ rel, IsName m) → h.disk.DirsTo PR rel → (∀ c ∈ cs, IsName c.1) →
    (copyEntries f src (ofPlace (QR ++ rel)) cs).Stays h (SameOff (Under (PR ++ rel)) h.disk)

variable {base QR PR}

theorem Under.of_append {P x q : Place} (h : Under (P ++ x) q) : Under P q := by
  rcases eq_or_ne x [] with rfl | hx
  · simpa using h
  · exact (under_append hx).extend h.1

/-- A change strictly below `PR ++ rel` keeps the disk agreeing with `base` outside `PR`, and
keeps the way down to `PR ++ rel`. -/
theorem SameOff.via {d d' : Disk} {rel : Place} (hs : SameOff (Under PR) base d)
    (hdirs : d.DirsTo PR rel) (hch : SameOff (Under (PR ++ rel)) d d') :
    SameOff (Under PR) base d' ∧ d'.DirsTo PR rel :=
  ⟨⟨hch.1, fun q hq => (hch.2 q fun hU => hq (Under.of_append hU)).trans (hs.2 q hq)⟩,
    hdirs.congr fun _ _ hx => hch.2 _ (not_under_of_above ((List.prefix_append_right_inj PR).mpr hx))⟩

variable (hQR : ∀ m ∈ QR, IsName m) (hstable : ∀ d, SameOff (Under PR) base d → d.LeadsTo QR PR)
include hQR hstable

theorem leadsTo_via {d : Disk} {rel : Place} (hs : SameOff (Under PR) base d)
    (hrel : ∀ m ∈ rel, IsName m) (hdirs : d.DirsTo PR rel) : d.LeadsTo (QR ++ rel) (PR ++ rel) :=
  leadsTo_append hQR (hstable d hs) rel hrel hdirs

/-- With its entry's place emptied, the directory `PR ++ rel` is still led to. -/
theorem leadsTo_via_removeTree {d : Disk} {rel : Place} {n : String}
    (hs : SameOff (Under PR) base d) (hrel : ∀ m ∈ rel, IsName m) (hdirs : d.DirsTo PR rel) :
    (d.removeTree (PR ++ rel ++ [n])).LeadsTo (QR ++ rel) (PR ++ rel) := by
  have hch : SameOff (Under (PR ++ rel)) d (d.removeTree (PR ++ rel ++ [n])) :=
    ⟨hs.1.removeTree (by simp), fun q hq => by
      rw [get?_removeTree (by simp), if_neg fun h' => hq ((under_append (by simp)).extend h')]⟩
  obtain ⟨hs', hdirs'⟩ := SameOff.via hs hdirs hch
  exact leadsTo_via hQR hstable hs' hrel hdirs'

/-- One more unit of fuel: a directory is read and its entries copied, each entry staying at
and below its own place. -/
theorem copyVia_succ {f : Nat} (ih : CopyVia base QR PR f) : CopyVia base QR PR (f + 1) := by
  refine ⟨fun rel src h hs hrel hdirs => ?_, fun rel src cs h hs hrel hdirs hcs => ?_⟩
  · rw [copyIn]
    refine Stays.bind (Stays.ask _ _ _ (SameOff.refl hs.1 _)) (fun _ h' => h')
      fun cs h₁ hr _ => ?_
    obtain ⟨rfl, hcs⟩ := run_ask_eq_ok hr
    exact ih.2 rel src cs h₁ hs hrel hdirs (hs.1.readdir_names hcs)
  · cases cs with
    | nil => exact Stays.pure _ (SameOff.refl hs.1 _)
    | cons c rest =>
      obtain ⟨name, kind⟩ := c
      have hn : IsName name := hcs (name, kind) (by simp)
      have hlead := leadsTo_via hQR hstable hs hrel hdirs
      have hXn : ∀ m ∈ QR ++ rel, IsName m := List.forall_mem_append.mpr ⟨hQR, hrel⟩
      have hunder : Under (PR ++ rel) (PR ++ rel ++ [name]) := under_append (by simp)
      have hlead' := leadsTo_via_removeTree (n := name) hQR hstable hs hrel hdirs
      -- once the entry is done, the other entries finish the list
      have hrest : ∀ here (h₁ : Host), SameOff (Under (PR ++ rel)) h.disk h₁.disk →
          (copyEntries f src (ofPlace (QR ++ rel)) rest >>= fun more => pure (here + more)).Stays
            h₁ (SameOff (Under (PR ++ rel)) h.disk) := fun here h₁ hch => by
        obtain ⟨hs₁, hdirs₁⟩ := SameOff.via hs hdirs hch
        exact Stays.bind (ih.2 rel src rest h₁ hs₁ hrel hdirs₁ fun c hc => hcs c (by simp [hc]))
          (fun d h' => hch.trans h') fun _ h₂ _ h' => Stays.pure _ (hch.trans h')
      by_cases hkd : kind = .dir
      · subst hkd
        rw [copyEntries]
        dsimp only
        rw [join_ofPlace hXn hn]
        rcases ensureDir_child_run hs.1 hXn hn hlead hlead' with ⟨d₁, hrun, hset⟩ | ⟨e, hrun⟩
        · -- the directory made, its copy stays below it
          have hch₁ : SameOff (Under (PR ++ rel)) h.disk d₁ :=
            hset.sameOff.mono fun q hq => hq ▸ hunder
          obtain ⟨hs₁, hdirs₁⟩ := SameOff.via hs hdirs hch₁
          have hin := ih.1 (rel ++ [name]) (Path.join [src, name]) { h with disk := d₁ } hs₁
            (List.forall_mem_append.mpr ⟨hrel, by simpa using hn⟩)
            (hdirs₁.snoc (by simpa using hset.here))
          simp only [← List.append_assoc] at hin
          exact Stays.run_bind hrun (Stays.bind (hin.mono fun d h' => hch₁.trans
            (h'.mono fun q hq => hq.of_child)) (fun _ h' => h') fun here h₁ _ hs => hrest here h₁ hs)
        · exact Stays.of_run (run_bind_error hrun) (SameOff.refl hs.1 _)
      · rw [copyEntries]
        swap
        · exact hkd
        dsimp only
        rw [join_ofPlace hXn hn]
        refine Stays.bind ((copyLeaf_stays hs.1 hXn hn hlead hlead' _ kind).mono
          fun d h' => h'.mono fun q hq => hq ▸ hunder) (fun _ h' => h') fun b h₁ _ hs => ?_
        split <;> exact Stays.run_bind rfl (hrest _ h₁ hs)

/-- A copy through a path that leads to its directory whatever happens below it stays below
that directory, whatever its fuel and its source. -/
theorem copy_via (f : Nat) : CopyVia base QR PR f := by
  induction f with
  | zero =>
    refine ⟨fun rel src h hs _ _ => ?_, fun rel src cs h hs _ _ _ => ?_⟩
    · rw [copyIn]
      exact Stays.pure _ (SameOff.refl hs.1 _)
    · rw [copyEntries]
      exact Stays.pure _ (SameOff.refl hs.1 _)
  | succ f ih => exact copyVia_succ hQR hstable ih

end via

section copy

/-- Copying with fuel `f` into a directory reached by its own path changes nothing but what is
strictly below the directory, whatever the source and however the copy ends. -/
def CopyFrame (f : Nat) : Prop :=
  (∀ X src (h : Host), h.disk.Wf → h.disk.get? X = some .dir →
    (copyIn f src (ofPlace X)).Stays h (SameOff (Under X) h.disk)) ∧
  ∀ X src (cs : List (String × Kind)) (h : Host), h.disk.Wf → h.disk.get? X = some .dir →
    (∀ c ∈ cs, IsName c.1) →
    (copyEntries f src (ofPlace X) cs).Stays h (SameOff (Under X) h.disk)

/-- A copy into a directory stays below it, whatever its fuel and its source: its own path
leads to it on every disk that agrees outside it. -/
theorem copy_frames (f : Nat) : CopyFrame f := by
  -- the directory is reached by its own path while nothing at or above it changes
  have hvia : ∀ X (h : Host), h.disk.Wf → h.disk.get? X = some .dir → CopyVia h.disk X X f :=
    fun X h hwf hX => copy_via (hwf.names_of_get? hX) (fun d hs => leadsTo_self hs.1
      ((hs.2 X (not_under_of_above (List.prefix_refl X))).trans hX)) f
  refine ⟨fun X src h hwf hX => ?_, fun X src cs h hwf hX hcs => ?_⟩
  · simpa using (hvia X h hwf hX).1 [] src h (SameOff.refl hwf _) (by simp)
      (fun x hx hpre => absurd (List.prefix_nil.mp hpre) hx)
  · simpa using (hvia X h hwf hX).2 [] src cs h (SameOff.refl hwf _) (by simp)
      (fun x hx hpre => absurd (List.prefix_nil.mp hpre) hx) hcs

end copy

section preserve

variable (keep : PathMatcher)

/-- Copying the kept entries of any directory into the place `X` with fuel `f`, when the way
down to `X` is open and nothing is below `X`: nothing changes but what is strictly below `X`,
besides directories made on the way down to it. For the entries of a directory, nothing is
at or below the places they are copied to. -/
def PreserveFrame (f : Nat) : Prop :=
  (∀ X src (h : Host), h.disk.Wf → X ≠ [] → (∀ m ∈ X, IsName m) → h.disk.OpenTo X →
    (∀ q, Under X q → h.disk.get? q = none) →
    (preserveIn keep f src (ofPlace X)).Stays h (Raised (Under X) X h.disk)) ∧
  ∀ X src (cs : List (String × Kind)) (h : Host), h.disk.Wf → X ≠ [] → (∀ m ∈ X, IsName m) →
    h.disk.OpenTo X → (∀ c ∈ cs, IsName c.1) → (cs.map Prod.fst).Nodup →
    (∀ c ∈ cs, ∀ z, h.disk.get? (X ++ c.1 :: z) = none) →
    (preserveEntries keep f src (ofPlace X) cs).Stays h (Raised (Under X) X h.disk)

variable {keep}

/-- One more unit of fuel: each kept entry is copied at and below its own place, making the
directories on the way down to it. -/
theorem preserveFrame_succ {f : Nat} (ih : PreserveFrame keep f) : PreserveFrame keep (f + 1) := by
  refine ⟨fun X src h hwf hX hXn hopen hempty => ?_,
    fun X src cs h hwf hX hXn hopen hcs hnodup hfresh => ?_⟩
  · rw [preserveIn]
    refine Stays.bind (Stays.ask _ _ _ (Raised.refl hwf)) (fun _ h' => h') fun cs h₁ hr _ => ?_
    obtain ⟨rfl, hcs⟩ := run_ask_eq_ok hr
    exact ih.2 X src cs h₁ hwf hX hXn hopen (hwf.readdir_names hcs) (hwf.readdir_nodup hcs)
      fun c _ z => hempty _ (under_append (by simp))
  · cases cs with
    | nil => exact Stays.pure _ (Raised.refl hwf)
    | cons c rest =>
      obtain ⟨name, kind⟩ := c
      have hn : IsName name := hcs (name, kind) (by simp)
      have hXn' : ∀ m ∈ X ++ [name], IsName m := List.forall_mem_append.mpr ⟨hXn, by simpa using hn⟩
      have hfresh₀ : ∀ z, h.disk.get? (X ++ name :: z) = none := hfresh (name, kind) (by simp)
      rw [List.map_cons] at hnodup
      obtain ⟨hnotin, hnodup'⟩ := List.nodup_cons.mp hnodup
      -- once the entry is done, the other entries finish the list: their places are apart
      -- from the entry's, so nothing is at or below them yet
      have hrest : ∀ (here : Bool × Nat) (h₁ : Host),
          Raised ((X ++ [name]) <+: ·) (X ++ [name]) h.disk h₁.disk →
          (preserveEntries keep f src (ofPlace X) rest >>= fun more =>
            pure (here.1 || more.1, here.2 + more.2)).Stays h₁ (Raised (Under X) X h.disk) := by
        intro here h₁ hmid
        have hopen₁ : h₁.disk.OpenTo X :=
          hmid.openTo (fun x hx h' => not_prefix_of_append (by simp) (h'.trans hx)) hopen
        have hfresh₁ : ∀ c ∈ rest, ∀ z, h₁.disk.get? (X ++ c.1 :: z) = none := by
          intro c hc z
          have hne : c.1 ≠ name := by
            rintro he
            have hmem : c.1 ∈ rest.map Prod.fst := List.mem_map_of_mem hc
            exact hnotin (he ▸ hmem)
          rcases hmid.2 (X ++ c.1 :: z) fun h' => hne (name_eq_of_comparable (.inr h')) with
            h' | ⟨h', -⟩
          · rw [h']
            exact hfresh c (by simp [hc]) z
          · exact absurd (name_eq_of_comparable (.inl h')) hne
        exact Stays.bind (ih.2 X src rest h₁ hmid.1 hX hXn hopen₁ (fun c hc => hcs c (by simp [hc]))
          hnodup' hfresh₁) (fun d h' => hmid.of_child.trans h')
          fun _ h₂ _ h' => Stays.pure _ (hmid.of_child.trans h')
      by_cases hkd : kind = .dir
      · -- a directory: its kept entries first, then the directory itself when kept
        subst hkd
        rw [preserveEntries]
        dsimp only
        rw [join_ofPlace hXn hn]
        have hopen' : h.disk.OpenTo (X ++ [name]) := fun x hx =>
          (List.prefix_concat_iff.mp hx).elim (fun he => .inl (by simpa [he] using hfresh₀ []))
            (hopen x)
        have hempty' : ∀ q, Under (X ++ [name]) q → h.disk.get? q = none := by
          rintro q ⟨⟨z, rfl⟩, -⟩
          simpa using hfresh₀ z
        refine Stays.bind (ih.1 (X ++ [name]) (Path.join [src, name]) h hwf (by simp) hXn' hopen'
          hempty') (fun d h' => (h'.mono (fun q hq => hq.1) (List.prefix_refl _)).of_child)
          fun r h₁ _ hmid => ?_
        have hmid' : Raised ((X ++ [name]) <+: ·) (X ++ [name]) h.disk h₁.disk :=
          hmid.mono (fun q hq => hq.1) (List.prefix_refl _)
        have hopen₁ : h₁.disk.OpenTo (X ++ [name]) :=
          hmid.openTo (fun x hx => not_under_of_above hx) hopen'
        -- the entry's directory made, or not, before the other entries
        have hmake : ∀ kept : Bool,
            (if kept = true then do
                ensureDir (ofPlace (X ++ [name]))
                let here ← (pure (kept, r.2) : Act (Bool × Nat))
                let more ← preserveEntries keep f src (ofPlace X) rest
                pure (here.1 || more.1, here.2 + more.2)
              else do
                let here ← (pure (kept, r.2) : Act (Bool × Nat))
                let more ← preserveEntries keep f src (ofPlace X) rest
                pure (here.1 || more.1, here.2 + more.2)).Stays h₁ (Raised (Under X) X h.disk) := by
          intro kept
          split
          · obtain ⟨_, d₂, hrun, hwf₂, hget₂⟩ := ensureDir_run_way hmid.1 (by simp) hXn' hopen₁
            exact Stays.run_bind hrun (Stays.run_bind rfl (hrest _ _ (hmid'.trans
              (Raised.of_made hwf₂ hget₂))))
          · exact Stays.run_bind rfl (hrest _ _ hmid')
        split
        · exact Stays.run_bind rfl (hmake true)
        · refine Stays.bind (Stays.test _ _ hmid'.of_child) (fun _ h' => h') fun kept h₂ hr _ => ?_
          rw [run_test_eq_ok hr]
          exact hmake kept
      · -- a file or a link, copied when kept, with the directories on the way down to it
        rw [preserveEntries]
        swap
        · exact hkd
        dsimp only
        rw [join_ofPlace hXn hn]
        refine Stays.bind (Stays.test _ _ (Raised.refl hwf))
          (fun d (h' : Raised ((X ++ [name]) <+: ·) (X ++ [name]) h.disk d) => h'.of_child)
          fun r h₁ hr hmid => ?_
        rw [run_test_eq_ok hr]
        split
        · obtain ⟨_, d₂, hrun, hwf₂, hget₂⟩ := ensureDir_run_way hwf hX hXn hopen
          have hd₂ : Raised ((X ++ [name]) <+: ·) (X ++ [name]) h.disk d₂ :=
            (Raised.of_made hwf₂ hget₂).mono (fun _ h' => h') (List.prefix_append _ _)
          have hX₂ : d₂.get? X = some .dir := by simp [hget₂]
          have hlead' : (d₂.removeTree (X ++ [name])).LeadsTo X X := by
            refine leadsTo_self (hwf₂.removeTree (by simp)) ?_
            rw [get?_removeTree (by simp), if_neg (not_prefix_of_append (by simp)), hX₂]
          have hlift : ∀ d, SameOff (· = X ++ [name]) d₂ d →
              Raised ((X ++ [name]) <+: ·) (X ++ [name]) h.disk d := fun d hs =>
            hd₂.trans (hs.raised.mono (fun q hq => hq ▸ List.prefix_refl _) (List.prefix_refl _))
          have hwf₂' : ({ h with disk := d₂ } : Host).disk.Wf := hwf₂
          refine Stays.run_bind hrun (Stays.bind (copyLeaf_stays hwf₂' hXn hn (leadsTo_self hwf₂ hX₂)
            hlead' _ kind) (fun d hs => (hlift d hs).of_child)
            fun wrote h₃ _ hs => Stays.run_bind rfl (hrest _ h₃ (hlift _ hs)))
        · exact Stays.run_bind rfl (hrest _ _ (Raised.refl hwf))

/-- Copying the kept entries of a tree into a fresh place stays below it, besides the
directories on the way down to it, whatever its fuel and its source. -/
theorem preserve_frames (f : Nat) : PreserveFrame keep f := by
  induction f with
  | zero =>
    refine ⟨fun X src h hwf _ _ _ _ => ?_, fun X src cs h hwf _ _ _ _ _ _ => ?_⟩
    · rw [preserveIn]
      exact Stays.pure _ (Raised.refl hwf)
    · rw [preserveEntries]
      exact Stays.pure _ (Raised.refl hwf)
  | succ f ih => exact preserveFrame_succ ih

end preserve

end Tree

end FolderSink
