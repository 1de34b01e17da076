import FolderSink.Proofs.Tree.Rollback
import FolderSink.Proofs.Disk.Parents
/-!
The parts of a write that stay in its folder. A delete through the folder's path, when the
path leads to the folder's directory `PR` whatever happens below it, changes only what is
strictly below `PR`. The swap of a staged write moves the folder's directory to a hidden
sibling, the staging sibling into its place, and removes the first; it changes only the
folder and the two siblings. Main statements:

* `delete_via`: deleting below the folder, through its path, stays below it whatever the
  matcher answers and however the delete ends;
* `swap_renames`, `swapIn_sameOff`, `get?_swapIn_target`: the two renames of the swap succeed,
  change nothing beside the folder, and leave at the folder what was at the staging sibling.
-/

namespace FolderSink

namespace Act

variable {α : Type} {h : Host} {inv : Disk → Prop}

/-- A call that changes the file system keeps what every disk it may give keeps. -/
theorem Stays.change {op : Operation} {p : String} {f : Disk → Except SysError Disk}
    (hinv : inv h.disk) (hok : ∀ d, f h.disk = .ok d → inv d) : (change op p f).Stays h inv := by
  cases hf : f h.disk with
  | ok d => exact Stays.of_run (run_change_ok hf) (hok d hf)
  | error e => exact Stays.of_run (run_change_error hf) hinv

end Act

namespace Disk

variable {d : Disk}

/-- Removing a tree changes nothing outside it. -/
theorem sameOff_removeTree {X : Place} (hd : d.Wf) (hX : X ≠ []) :
    SameOff (X <+: ·) d (d.removeTree X) :=
  ⟨hd.removeTree hX, fun q hq => by rw [get?_removeTree hX, if_neg hq]⟩

/-- Nothing is at or below a place where nothing is. -/
theorem Wf.none_of_prefix {X q : Place} (hd : d.Wf) (hX : d.get? X = none) (hq : X <+: q) :
    d.get? q = none := by
  rcases eq_or_ne X q with rfl | hne
  · exact hX
  · exact hd.none_under (by simp [hX]) ⟨hq, hne⟩

section move

variable {src dst : Place} (hdisj : ¬ src <+: dst ∧ ¬ dst <+: src) (hd : d.Wf) (hsrc : src ≠ [])
  (hdst : dst ≠ [])
include hdisj hd hsrc hdst

/-- A move changes nothing outside its two places. -/
theorem get?_move_off {q : Place} (hq : ¬ dst <+: q) (hq' : ¬ src <+: q) :
    (d.move src dst).get? q = d.get? q := by
  rw [get?_move hdisj hd hsrc hdst, if_neg hq, if_neg hq']

theorem get?_move_dst : (d.move src dst).get? dst = d.get? src := by
  rw [get?_move hdisj hd hsrc hdst, if_pos (List.prefix_refl _), List.drop_length,
    List.append_nil]

theorem get?_move_src : (d.move src dst).get? src = none := by
  rw [get?_move hdisj hd hsrc hdst, if_neg hdisj.2, if_pos (List.prefix_refl _)]

end move

/-- The disk once the content at `S` is swapped in at `T`: the old content is moved to `V`,
the new one moved in, and the old one removed. -/
def swapIn (d : Disk) (T S V : Place) : Disk := ((d.move T V).move S T).removeTree V

end Disk

namespace Tree

open Disk FolderSink.Path Act

section delete

variable (m : PathMatcher) (base : Disk) (QR PR : Place)

/-- Deleting with fuel `f` below the directory `PR ++ rel`, through the path of `QR ++ rel`,
changes nothing but what is strictly below that directory, whatever the matcher answers and
however the delete ends. Among a list of entries of the directory, those listed as
directories are directories still. -/
def DeleteVia (f : Nat) : Prop :=
  (∀ rel (h : Host), SameOff (Under PR) base h.disk → (∀ n ∈ rel, IsName n) →
    h.disk.DirsTo PR rel →
    (deleteIn m f (ofPlace (QR ++ rel))).Stays h (SameOff (Under (PR ++ rel)) h.disk)) ∧
  ∀ rel (h : Host) (cs : List (String × Kind)), SameOff (Under PR) base h.disk →
    (∀ n ∈ rel, IsName n) → h.disk.DirsTo PR rel → (∀ c ∈ cs, IsName c.1) →
    (cs.map Prod.fst).Nodup →
    (∀ c ∈ cs, c.2 = .dir → h.disk.get? (PR ++ rel ++ [c.1]) = some .dir) →
    (deleteEntries m f (ofPlace (QR ++ rel)) cs).Stays h (SameOff (Under (PR ++ rel)) h.disk)

variable {m base QR PR}
variable (hQR : ∀ n ∈ QR, IsName n) (hstable : ∀ d, SameOff (Under PR) base d → d.LeadsTo QR PR)
include hQR hstable

/-- One more unit of fuel: a directory is read and its entries deleted, each entry staying at
and below its own place; a directory is removed only through its own place. -/
theorem deleteVia_succ {f : Nat} (ih : DeleteVia m base QR PR f) :
    DeleteVia m base QR PR (f + 1) := by
  refine ⟨fun rel h hs hrel hdirs => ?_, fun rel h cs hs hrel hdirs hcs hnd hmem => ?_⟩
  · rw [deleteIn]
    refine Stays.run_bind (readEntries_run (leadsTo_via hQR hstable hs hrel hdirs)) ?_
    exact ih.2 rel h _ hs hrel hdirs
      (fun c hc => hs.1.isName_of_get? (by simp) ((mem_children hs.1).mp hc) c.1 (by simp))
      (hs.1.nodup_children _) fun c hc hdir => hdir ▸ (mem_children hs.1).mp hc
  · cases cs with
    | nil =>
      rw [deleteEntries]
      exact Stays.pure _ (SameOff.refl hs.1 _)
    | cons c rest =>
      obtain ⟨n, k⟩ := c
      have hn : IsName n := hcs (n, k) (by simp)
      have hXn : ∀ x ∈ QR ++ rel, IsName x := List.forall_mem_append.mpr ⟨hQR, hrel⟩
      have hunder : ∀ q, PR ++ rel ++ [n] <+: q → Under (PR ++ rel) q :=
        fun q hq => (under_append (by simp)).extend hq
      rw [List.map_cons] at hnd
      obtain ⟨hnotin, hnd'⟩ := List.nodup_cons.mp hnd
      -- the entry's own work, at and below its place, leaves the way to the directory
      have hvia : ∀ d, SameOff (PR ++ rel ++ [n] <+: ·) h.disk d →
          SameOff (Under PR) base d ∧ d.DirsTo PR rel := fun d hch =>
        SameOff.via hs hdirs (hch.mono hunder)
      -- removing the entry through the directory's path is such work
      have hremove : ∀ (h₁ : Host), SameOff (PR ++ rel ++ [n] <+: ·) h.disk h₁.disk →
          ∀ d', h₁.disk.unlink (ofPlace (QR ++ rel ++ [n])) = .ok d' ∨
            h₁.disk.rmdir (ofPlace (QR ++ rel ++ [n])) = .ok d' →
          SameOff (PR ++ rel ++ [n] <+: ·) h.disk d' := by
        intro h₁ hch d' hd'
        obtain ⟨hs₁, hdirs₁⟩ := hvia _ hch
        have hlead₁ := leadsTo_via hQR hstable hs₁ hrel hdirs₁
        have hrm : d' = h₁.disk.removeTree (PR ++ rel ++ [n]) :=
          hd'.elim (unlink_child_ok hXn hn hlead₁) (rmdir_child_ok hXn hn hlead₁)
        rw [hrm]
        exact hch.trans (sameOff_removeTree hch.1 (by simp))
      -- once the entry is done, the other entries finish the list
      have hrest : ∀ here (h₁ : Host), SameOff (PR ++ rel ++ [n] <+: ·) h.disk h₁.disk →
          (deleteEntries m f (ofPlace (QR ++ rel)) rest >>= fun more =>
            pure (here + more)).Stays h₁ (SameOff (Under (PR ++ rel)) h.disk) := by
        intro here h₁ hch
        have hch' : SameOff (Under (PR ++ rel)) h.disk h₁.disk := hch.mono hunder
        obtain ⟨hs₁, hdirs₁⟩ := hvia _ hch
        have hmem₁ : ∀ c ∈ rest, c.2 = .dir → h₁.disk.get? (PR ++ rel ++ [c.1]) = some .dir := by
          intro c hc hdir
          have hne : ¬ PR ++ rel ++ [n] <+: PR ++ rel ++ [c.1] := fun h' => by
            have hc' : c.1 ∈ rest.map Prod.fst := List.mem_map_of_mem hc
            rw [← name_eq_of_prefixes h' (List.prefix_refl _)] at hc'
            exact hnotin hc'
          rw [hch.2 _ hne]
          exact hmem c (by simp [hc]) hdir
        exact Stays.bind (ih.2 rel h₁ rest hs₁ hrel hdirs₁ (fun c hc => hcs c (by simp [hc])) hnd'
          hmem₁) (fun d h' => hch'.trans h') fun _ h₂ _ h' => Stays.pure _ (hch'.trans h')
      by_cases hkd : k = .dir
      · -- a directory: its entries first, then itself when it is not kept and left empty
        subst hkd
        have hdirn : h.disk.get? (PR ++ rel ++ [n]) = some .dir := hmem (n, .dir) (by simp) rfl
        rw [deleteEntries]
        dsimp only
        rw [join_ofPlace hXn hn]
        have hin := ih.1 (rel ++ [n]) h hs (List.forall_mem_append.mpr ⟨hrel, by simpa using hn⟩)
          (hdirs.snoc hdirn)
        simp only [← List.append_assoc] at hin
        refine Stays.bind hin (fun d h' => h'.mono fun q hq => Under.of_append hq)
          fun below h₁ _ hmid => ?_
        have hch₁ : SameOff (PR ++ rel ++ [n] <+: ·) h.disk h₁.disk := hmid.mono fun q hq => hq.1
        refine Stays.bind (Stays.test _ _ hch₁) (fun d h' => h'.mono hunder)
          fun kept h₂ hr _ => ?_
        rw [run_test_eq_ok hr]
        split
        · refine Stays.bind (Stays.ask _ _ _ hch₁) (fun d h' => h'.mono hunder)
            fun cs' h₃ hr' _ => ?_
          rw [(run_ask_eq_ok hr').1]
          split
          · exact Stays.bind (Stays.change hch₁ fun d' hd' => hremove h₁ hch₁ d' (.inr hd'))
              (fun d h' => h'.mono hunder) fun _ h₄ _ hch₄ => Stays.run_bind rfl (hrest _ h₄ hch₄)
          · exact Stays.run_bind rfl (hrest _ h₁ hch₁)
        · exact Stays.run_bind rfl (hrest _ h₁ hch₁)
      · -- a file, a link or another special file: removed when not kept
        rw [deleteEntries]
        swap
        · exact hkd
        dsimp only
        rw [join_ofPlace hXn hn]
        have hch₀ : SameOff (PR ++ rel ++ [n] <+: ·) h.disk h.disk := SameOff.refl hs.1 _
        refine Stays.bind (Stays.test _ _ hch₀) (fun d h' => h'.mono hunder)
          fun kept h₁ hr _ => ?_
        rw [run_test_eq_ok hr]
        split
        · exact Stays.bind (Stays.change hch₀ fun d' hd' => hremove h hch₀ d' (.inl hd'))
            (fun d h' => h'.mono hunder) fun _ h₂ _ hch₂ => Stays.run_bind rfl (hrest _ h₂ hch₂)
        · exact Stays.run_bind rfl (hrest _ h hch₀)

/-- A delete through a path that leads to its directory whatever happens below it stays below
that directory, whatever its fuel and the matcher's answers. -/
theorem delete_via (f : Nat) : DeleteVia m base QR PR f := by
  induction f with
  | zero =>
    refine ⟨fun rel h hs _ _ => ?_, fun rel h cs hs _ _ _ _ _ => ?_⟩
    · rw [deleteIn]
      exact Stays.pure _ (SameOff.refl hs.1 _)
    · rw [deleteEntries]
      exact Stays.pure _ (SameOff.refl hs.1 _)
  | succ f ih => exact deleteVia_succ hQR hstable ih

end delete

section swap

/-- The hidden sibling that a staged write names by `label` and `stamp`, beside a place. -/
def siblingPlace (T : Place) (label stamp : String) : Place :=
  T.dropLast ++ ["." ++ basename (ofPlace T) ++ "." ++ label ++ "-" ++ stamp]

theorem siblingPlace_append {P : Place} {b : String} (hb : IsName b) (label stamp : String) :
    siblingPlace (P ++ [b]) label stamp = P ++ ["." ++ b ++ "." ++ label ++ "-" ++ stamp] := by
  simp [siblingPlace, basename_ofPlace hb]

theorem sibling_ne_self (b label stamp : String) : "." ++ b ++ "." ++ label ++ "-" ++ stamp ≠ b :=
  fun h => by
    have hlen := congrArg String.length h
    have hdot : ".".length = 1 := by decide
    simp only [String.length_append] at hlen
    omega

/-- The staging and previous siblings are different names, whatever their stamps. -/
theorem staging_ne_previous (b s v : String) :
    "." ++ b ++ "." ++ "staging" ++ "-" ++ s ≠ "." ++ b ++ "." ++ "previous" ++ "-" ++ v :=
  fun h => by
    have h' := congrArg String.toList h
    simp [String.toList_append] at h'

theorem not_prefix_beside {P q : Place} {x y : String} (hxy : x ≠ y) (hy : P ++ [y] <+: q) :
    ¬ P ++ [x] <+: q := fun hx => hxy (name_eq_of_prefixes hx hy)

theorem beside_apart {P : Place} {x y : String} (hxy : x ≠ y) :
    ¬ P ++ [x] <+: P ++ [y] ∧ ¬ P ++ [y] <+: P ++ [x] :=
  ⟨not_prefix_beside hxy (List.prefix_refl _), not_prefix_beside hxy.symm (List.prefix_refl _)⟩

variable {d : Disk} {P₀ : Place} {b s v : String} (hwf : d.Wf) (hP₀ : ∀ m ∈ P₀, IsName m)
  (hb : IsName b) (hs : IsName s) (hv : IsName v) (hsb : s ≠ b) (hvb : v ≠ b) (hsv : s ≠ v)
  (hP₀dir : d.get? P₀ = some .dir)
include hwf hP₀ hb hs hv hsb hvb hsv hP₀dir

omit hs hsv in
/-- The disks between the two moves of a swap beside `P₀` are well formed, with `P₀` a
directory still. -/
theorem swap_wf :
    (d.move (P₀ ++ [b]) (P₀ ++ [v])).Wf ∧
      (d.move (P₀ ++ [b]) (P₀ ++ [v])).get? P₀ = some .dir ∧
    ((d.move (P₀ ++ [b]) (P₀ ++ [v])).move (P₀ ++ [s]) (P₀ ++ [b])).Wf ∧
      ((d.move (P₀ ++ [b]) (P₀ ++ [v])).move (P₀ ++ [s]) (P₀ ++ [b])).get? P₀ = some .dir := by
  have hname : ∀ x, IsName x → ∀ m ∈ P₀ ++ [x], IsName m := fun x hx =>
    List.forall_mem_append.mpr ⟨hP₀, by simpa using hx⟩
  have hwf₂ := hwf.move (beside_apart hvb.symm) (by simp) (by simp) (hname v hv)
    (by simpa using hP₀dir)
  have hP₀₂ : (d.move (P₀ ++ [b]) (P₀ ++ [v])).get? P₀ = some .dir := by
    rw [get?_move_off (beside_apart hvb.symm) hwf (by simp) (by simp)
      (not_prefix_of_append (by simp)) (not_prefix_of_append (by simp)), hP₀dir]
  refine ⟨hwf₂, hP₀₂, hwf₂.move (beside_apart hsb) (by simp) (by simp) (hname b hb)
    (by simpa using hP₀₂), ?_⟩
  rw [get?_move_off (beside_apart hsb) hwf₂ (by simp) (by simp) (not_prefix_of_append (by simp))
    (not_prefix_of_append (by simp)), hP₀₂]

/-- With the old content a directory at `P₀ ++ [b]`, the new one a directory at `P₀ ++ [s]` and
nothing at `P₀ ++ [v]`, both renames of a swap succeed, and removing the old content removes
its tree. -/
theorem swap_renames (hT : d.get? (P₀ ++ [b]) = some .dir) (hS : d.get? (P₀ ++ [s]) = some .dir)
    (hV : d.get? (P₀ ++ [v]) = none) :
    d.rename (ofPlace (P₀ ++ [b])) (ofPlace (P₀ ++ [v])) = .ok (d.move (P₀ ++ [b]) (P₀ ++ [v])) ∧
    (d.move (P₀ ++ [b]) (P₀ ++ [v])).rename (ofPlace (P₀ ++ [s])) (ofPlace (P₀ ++ [b])) =
      .ok ((d.move (P₀ ++ [b]) (P₀ ++ [v])).move (P₀ ++ [s]) (P₀ ++ [b])) ∧
    ((d.move (P₀ ++ [b]) (P₀ ++ [v])).move (P₀ ++ [s]) (P₀ ++ [b])).removeAll (ofPlace (P₀ ++ [v])) =
      d.swapIn (P₀ ++ [b]) (P₀ ++ [s]) (P₀ ++ [v]) := by
  obtain ⟨hwf₂, hP₀₂, hwf₃, hP₀₃⟩ := swap_wf hwf hP₀ hb hv hsb hvb hP₀dir
  have hlead := leadsTo_self hwf hP₀dir
  have hlead₂ := leadsTo_self hwf₂ hP₀₂
  -- after the first move: the new content is where it was, and nothing is at the target
  have hS₂ : (d.move (P₀ ++ [b]) (P₀ ++ [v])).get? (P₀ ++ [s]) = some .dir := by
    rw [get?_move_off (beside_apart hvb.symm) hwf (by simp) (by simp)
      (not_prefix_beside hsv.symm (List.prefix_refl _))
      (not_prefix_beside hsb.symm (List.prefix_refl _)), hS]
  have hT₂ : (d.move (P₀ ++ [b]) (P₀ ++ [v])).get? (P₀ ++ [b]) = none :=
    get?_move_src (beside_apart hvb.symm) hwf (by simp) (by simp)
  -- after the second: the old content is still beside it
  have hV₃ : ((d.move (P₀ ++ [b]) (P₀ ++ [v])).move (P₀ ++ [s]) (P₀ ++ [b])).get? (P₀ ++ [v]) =
      some .dir := by
    rw [get?_move_off (beside_apart hsb) hwf₂ (by simp) (by simp)
      (not_prefix_beside hvb.symm (List.prefix_refl _)) (not_prefix_beside hsv (List.prefix_refl _)),
      get?_move_dst (beside_apart hvb.symm) hwf (by simp) (by simp), hT]
  exact ⟨rename_child_dir hP₀ hb hlead hP₀ hv hlead hT hV
      (not_prefix_beside hvb.symm (List.prefix_refl _)),
    rename_child_dir hP₀ hs hlead₂ hP₀ hb hlead₂ hS₂ hT₂ (not_prefix_beside hsb (List.prefix_refl _)),
    removeAll_child hP₀ hv (leadsTo_self hwf₃ hP₀₃) hV₃⟩

omit hs hsv in
/-- Where the siblings were free, a swap after work only at or below the staging place
changes nothing outside the place swapped. -/
theorem swapIn_sameOff {d₀ : Disk} (hwf₀ : d₀.Wf) (hfs : d₀.get? (P₀ ++ [s]) = none)
    (hfv : d₀.get? (P₀ ++ [v]) = none) (hsame : SameOff (P₀ ++ [s] <+: ·) d₀ d) :
    SameOff (P₀ ++ [b] <+: ·) d₀ (d.swapIn (P₀ ++ [b]) (P₀ ++ [s]) (P₀ ++ [v])) := by
  obtain ⟨hwf₂, -, hwf₃, -⟩ := swap_wf hwf hP₀ hb hv hsb hvb hP₀dir
  refine ⟨hwf₃.removeTree (by simp), fun q hq => ?_⟩
  rw [swapIn, get?_removeTree (by simp)]
  split
  · exact (hwf₀.none_of_prefix hfv ‹_›).symm
  · rw [get?_move (beside_apart hsb) hwf₂ (by simp) (by simp), if_neg hq]
    split
    · exact (hwf₀.none_of_prefix hfs ‹_›).symm
    · rw [get?_move_off (beside_apart hvb.symm) hwf (by simp) (by simp) ‹_› hq]
      exact hsame.2 q ‹_›

omit hs in
/-- After a swap, the place swapped holds what the staging place held. -/
theorem get?_swapIn_target (y : Place) :
    (d.swapIn (P₀ ++ [b]) (P₀ ++ [s]) (P₀ ++ [v])).get? (P₀ ++ [b] ++ y) =
      d.get? (P₀ ++ [s] ++ y) := by
  obtain ⟨hwf₂, -, -, -⟩ := swap_wf hwf hP₀ hb hv hsb hvb hP₀dir
  rw [swapIn, get?_removeTree (by simp), if_neg (not_prefix_beside hvb (List.prefix_append _ _)),
    get?_move (beside_apart hsb) hwf₂ (by simp) (by simp), if_pos (List.prefix_append _ _),
    List.drop_left, get?_move_off (beside_apart hvb.symm) hwf (by simp) (by simp)
      (not_prefix_beside hsv.symm (List.prefix_append _ _))
      (not_prefix_beside hsb.symm (List.prefix_append _ _))]

end swap

end Tree

end FolderSink
