import FolderSink.Proofs.Tree.Delete
import FolderSink.Proofs.Tree.Frame
import FolderSink.Proofs.Path.Scope
/-!
What the delete removes, counted. A successful unlink or rmdir removes one entry with nothing
below it, so it shortens the list of entries by one; every other step of the delete only
reads. The delete adds one to its count exactly when such a call succeeds, so every run that
succeeds returns the number of entries it removed (`delete_tallies`). Together with
`deleteRecursively_prunes`, deleting below a directory leaves the pruned tree, and its count
is the number of entries pruning drops. Main statements:

* `Wf.length_removeTree_leaf`: removing an entry with nothing below it drops one entry;
* `Wf.length_eq`: two well-formed disks with the same entries list as many;
* `delete_tallies`: the delete's count is the number of entries it removed;
* `deleteRecursively_removes_unkept`: below a directory the delete leaves exactly the entries
  that are kept or hold a kept entry, changes nothing else, and counts what went.
-/

namespace FolderSink

namespace Disk

open FolderSink.Path

variable {d d' : Disk} {X R : Place} {k : Kind} {keep : Place → Bool}

/-- Removing an entry with nothing below it takes one entry off the list. -/
theorem Wf.length_removeTree_leaf (hd : d.Wf) (hX : X ≠ []) (hk : d.get? X = some k)
    (hleaf : ∀ q, Under X q → d.get? q = none) :
    (d.removeTree X).entries.length + 1 = d.entries.length := by
  -- the entries that start with `X` are the entry at `X` alone
  have hstart : d.entries.countP (fun e => X.isPrefixOf e.1) =
      (d.entries.map Prod.fst).count X := by
    rw [List.count_eq_countP, List.countP_map]
    apply List.countP_congr
    rintro ⟨q, k'⟩ hq
    simp only [List.isPrefixOf_iff_prefix, Function.comp_apply, beq_iff_eq]
    constructor
    · intro hXq
      by_contra hne
      have hnone := hleaf q ⟨hXq, fun h => hne h.symm⟩
      rw [hd.get?_of_mem hq] at hnone
      cases hnone
    · rintro rfl
      exact List.prefix_refl _
  have hone : (d.entries.map Prod.fst).count X = 1 :=
    List.count_eq_one_of_mem hd.nodup (List.mem_map_of_mem (f := Prod.fst) (mem_of_get? hX hk))
  have hsplit := List.length_eq_countP_add_countP (fun e : Place × Kind => X.isPrefixOf e.1)
    (l := d.entries)
  have hrest : d.entries.countP (fun e => !X.isPrefixOf e.1) =
      d.entries.countP (fun e => decide ¬(X.isPrefixOf e.1 = true)) :=
    List.countP_congr fun e _ => by cases X.isPrefixOf e.1 <;> simp
  unfold Disk.removeTree
  rw [← List.countP_eq_length_filter]
  omega

/-- A successful unlink removes one entry that is not a directory. -/
theorem Wf.unlink_removes (hd : d.Wf) {p : String} (h : d.unlink p = .ok d') :
    ∃ X k, X ≠ [] ∧ d.get? X = some k ∧ k ≠ .dir ∧ d' = d.removeTree X := by
  unfold unlink at h
  cases hl : d.lookup p false with
  | error e => simp [hl] at h
  | ok r =>
    obtain ⟨place, k⟩ := r
    have hk := (lookup_reaches hd hl).1
    cases k with
    | none => simp [hl] at h
    | some k =>
      by_cases hkd : k = .dir
      · subst hkd
        simp [hl] at h
      · -- the root is a directory, so what was found is below it
        have hX : place ≠ [] := by
          rintro rfl
          exact hkd (Option.some.inj (hk.trans (get?_nil d)))
        refine ⟨place, k, hX, hk.symm, hkd, ?_⟩
        cases k
        · exact absurd rfl hkd
        all_goals
          simp only [hl, Except.ok.injEq] at h
          exact h.symm

/-- A successful rmdir removes one directory with nothing in it. -/
theorem Wf.rmdir_removes (hd : d.Wf) {p : String} (h : d.rmdir p = .ok d') :
    ∃ X, X ≠ [] ∧ d.get? X = some .dir ∧ d.children X = [] ∧ d' = d.removeTree X := by
  unfold rmdir at h
  cases hl : d.lookup p false with
  | error e => simp [hl] at h
  | ok r =>
    obtain ⟨place, k⟩ := r
    have hk := (lookup_reaches hd hl).1
    cases place with
    | nil => simp [hl] at h
    | cons a place =>
      cases k with
      | none => simp [hl] at h
      | some k =>
        cases k with
        | dir =>
          by_cases hempty : d.children (a :: place) = []
          · simp only [hl, hempty, List.isEmpty_nil, ↓reduceIte, Except.ok.injEq] at h
            exact ⟨a :: place, by simp, hk.symm, hempty, h.symm⟩
          · simp [hl, hempty] at h
        | _ => simp [hl] at h

/-- Two well-formed disks with the same entry at every place list as many entries. -/
theorem Wf.length_eq (hd : d.Wf) (hd' : d'.Wf) (hsame : ∀ q, d.get? q = d'.get? q) :
    d.entries.length = d'.entries.length := by
  -- both list each place that holds an entry once
  have hkeys : ∀ q, q ∈ d.entries.map Prod.fst ↔ q ∈ d'.entries.map Prod.fst := by
    intro q
    simp only [List.mem_map, Prod.exists, exists_and_right, exists_eq_right]
    constructor
    · rintro ⟨k, he⟩
      exact ⟨k, mem_of_get? (hd.ne_nil _ he) ((hsame q).symm.trans (hd.get?_of_mem he))⟩
    · rintro ⟨k, he⟩
      exact ⟨k, mem_of_get? (hd'.ne_nil _ he) ((hsame q).trans (hd'.get?_of_mem he))⟩
  simpa using ((List.perm_ext_iff_of_nodup hd.nodup hd'.nodup).mpr hkeys).length_eq

/-- Pruning drops entries strictly below `R` only: the entries it drops are as many there as
in the whole disk. -/
theorem length_pruneBelow (d : Disk) (R : Place) (keep : Place → Bool) :
    (d.pruneBelow R keep).entries.length + d.countBelow R =
      d.entries.length + (d.pruneBelow R keep).countBelow R := by
  have hout : (d.pruneBelow R keep).entries.countP (fun e => decide ¬decide (Under R e.1) = true) =
      d.entries.countP (fun e => decide ¬decide (Under R e.1) = true) := by
    unfold pruneBelow
    rw [List.countP_filter]
    apply List.countP_congr
    intro e _
    by_cases hU : Under R e.1 <;> simp [hU]
  have h₁ := List.length_eq_countP_add_countP (fun e : Place × Kind => decide (Under R e.1))
    (l := d.entries)
  have h₂ := List.length_eq_countP_add_countP (fun e : Place × Kind => decide (Under R e.1))
    (l := (d.pruneBelow R keep).entries)
  unfold countBelow
  omega

end Disk

namespace Act

variable {α : Type} {x : Act α} {y : Act Nat} {f : α → Act Nat} {c : Nat}

/-- Every success of `y` from a well-formed disk ends on a well-formed disk and returns `c`
plus the number of entries it removed. -/
def Tallies (y : Act Nat) (c : Nat) : Prop :=
  ∀ h n h', h.disk.Wf → y.run.run h = (.ok n, h') →
    h'.disk.Wf ∧ n + h'.disk.entries.length = c + h.disk.entries.length

/-- A step whose success leaves the disk as it was. -/
def ReadsOnly (x : Act α) : Prop := ∀ h a h', x.run.run h = (.ok a, h') → h'.disk = h.disk

/-- A step whose success on a well-formed disk removes one entry. -/
def RemovesOne (x : Act α) : Prop :=
  ∀ h a h', h.disk.Wf → x.run.run h = (.ok a, h') →
    h'.disk.Wf ∧ h'.disk.entries.length + 1 = h.disk.entries.length

theorem Tallies.pure (c : Nat) : Tallies (Pure.pure c) c := by
  intro h n h' hwf hrun
  rw [run_pure] at hrun
  obtain ⟨hc, rfl⟩ := Prod.mk.inj hrun
  cases Except.ok.inj hc
  exact ⟨hwf, rfl⟩

/-- Sequencing: what the second part removes is counted on top of the first part's value. -/
theorem Tallies.bind {g : Nat → Act Nat} (hy : Tallies y c) (hg : ∀ a, Tallies (g a) a) :
    Tallies (y >>= g) c := by
  intro h n h' hwf hrun
  cases hr : y.run.run h with
  | mk r h₁ =>
    cases r with
    | error e =>
      rw [run_bind_error hr] at hrun
      cases (Prod.mk.inj hrun).1
    | ok a =>
      rw [run_bind_ok hr] at hrun
      obtain ⟨hwf₁, hc₁⟩ := hy h a h₁ hwf hr
      obtain ⟨hwf₂, hc₂⟩ := hg a h₁ n h' hwf₁ hrun
      exact ⟨hwf₂, by omega⟩

/-- Adding a number to the value adds it to the count. -/
theorem Tallies.add (hy : Tallies y c) (a : Nat) :
    Tallies (y >>= fun b => Pure.pure (a + b)) (a + c) := by
  intro h n h' hwf hrun
  cases hr : y.run.run h with
  | mk r h₁ =>
    cases r with
    | error e =>
      rw [run_bind_error hr] at hrun
      cases (Prod.mk.inj hrun).1
    | ok b =>
      rw [run_bind_ok hr, run_pure] at hrun
      obtain ⟨hb, rfl⟩ := Prod.mk.inj hrun
      cases Except.ok.inj hb
      obtain ⟨hwf₁, hc₁⟩ := hy h b h₁ hwf hr
      exact ⟨hwf₁, by omega⟩

/-- A step that only reads counts nothing. -/
theorem Tallies.after_read (hx : ReadsOnly x) (hf : ∀ a, Tallies (f a) c) :
    Tallies (x >>= f) c := by
  intro h n h' hwf hrun
  cases hr : x.run.run h with
  | mk r h₁ =>
    cases r with
    | error e =>
      rw [run_bind_error hr] at hrun
      cases (Prod.mk.inj hrun).1
    | ok a =>
      rw [run_bind_ok hr] at hrun
      have hsame := hx h a h₁ hr
      rw [← hsame]
      exact hf a h₁ n h' (hsame ▸ hwf) hrun

/-- A step that removes one entry must be counted once. -/
theorem Tallies.after_remove (hx : RemovesOne x) (hf : ∀ a, Tallies (f a) (c + 1)) :
    Tallies (x >>= f) c := by
  intro h n h' hwf hrun
  cases hr : x.run.run h with
  | mk r h₁ =>
    cases r with
    | error e =>
      rw [run_bind_error hr] at hrun
      cases (Prod.mk.inj hrun).1
    | ok a =>
      rw [run_bind_ok hr] at hrun
      obtain ⟨hwf₁, hlen⟩ := hx h a h₁ hwf hr
      obtain ⟨hwf₂, hc⟩ := hf a h₁ n h' hwf₁ hrun
      exact ⟨hwf₂, by omega⟩

theorem ReadsOnly.ask (op : Operation) (p : String) (q : Disk → Except SysError α) :
    ReadsOnly (ask op p q) := fun _ _ _ hrun => congrArg Host.disk (run_ask_eq_ok hrun).1

theorem ReadsOnly.test (m : PathMatcher) (p : String) : ReadsOnly (test m p) :=
  fun _ _ _ hrun => congrArg Host.disk (run_test_eq_ok hrun)

theorem ReadsOnly.disk : ReadsOnly disk := by
  intro h a h' hrun
  rw [run_disk] at hrun
  rw [← (Prod.mk.inj hrun).2]

/-- A change that removes, from every well-formed disk it succeeds on, one entry with nothing
below it. -/
theorem RemovesOne.of_removeTree {op : Operation} {p : String} {g : Disk → Except SysError Disk}
    (hg : ∀ d d', d.Wf → g d = .ok d' → ∃ X k, X ≠ [] ∧ d.get? X = some k ∧
      (∀ q, Disk.Under X q → d.get? q = none) ∧ d' = d.removeTree X) :
    RemovesOne (Act.change op p g) := by
  intro h a h' hwf hrun
  cases hd : g h.disk with
  | error e =>
    rw [run_change_error hd] at hrun
    cases (Prod.mk.inj hrun).1
  | ok d₁ =>
    rw [run_change_ok hd] at hrun
    obtain ⟨X, k, hX, hk, hleaf, rfl⟩ := hg _ _ hwf hd
    rw [← (Prod.mk.inj hrun).2]
    exact ⟨hwf.removeTree hX, hwf.length_removeTree_leaf hX hk hleaf⟩

theorem RemovesOne.unlink (op : Operation) (p : String) :
    RemovesOne (Act.change op p (·.unlink p)) :=
  RemovesOne.of_removeTree fun _ _ hwf hu => by
    obtain ⟨X, k, hX, hk, hkd, rfl⟩ := hwf.unlink_removes hu
    exact ⟨X, k, hX, hk, fun q hq => hwf.none_under_leaf hk hkd hq, rfl⟩

theorem RemovesOne.rmdir (op : Operation) (p : String) :
    RemovesOne (Act.change op p (·.rmdir p)) :=
  RemovesOne.of_removeTree fun _ _ hwf hr => by
    obtain ⟨X, hX, hk, hempty, rfl⟩ := hwf.rmdir_removes hr
    exact ⟨X, .dir, hX, hk, (hwf.children_eq_nil_iff).mp hempty, rfl⟩

end Act

namespace Tree

open Disk FolderSink.Path Act

/-- Every run of the delete that succeeds returns the number of entries it removed, whatever
its fuel, its matcher and the paths it is given. -/
theorem delete_tallies (keep : PathMatcher) (f : Nat) :
    (∀ dir, Tallies (deleteIn keep f dir) 0) ∧
      ∀ dir cs, Tallies (deleteEntries keep f dir cs) 0 := by
  induction f with
  | zero =>
    refine ⟨fun dir => ?_, fun dir cs => ?_⟩
    · rw [deleteIn]
      exact Tallies.pure 0
    · rw [deleteEntries]
      exact Tallies.pure 0
  | succ f ih =>
    refine ⟨fun dir => ?_, fun dir cs => ?_⟩
    · rw [deleteIn]
      exact Tallies.after_read (ReadsOnly.ask _ _ _) fun cs => ih.2 dir cs
    · cases cs with
      | nil =>
        rw [deleteEntries]
        exact Tallies.pure 0
      | cons c rest =>
        obtain ⟨name, kind⟩ := c
        -- the other entries, counted on top of what this entry removed
        have hrest : ∀ here, Tallies (deleteEntries keep f dir rest >>= fun more =>
            Pure.pure (here + more)) here := fun here => (ih.2 dir rest).add here
        by_cases hkd : kind = .dir
        · -- a directory: what its own delete removed, and itself when it is removed
          subst hkd
          rw [deleteEntries]
          simp only [pure_bind]
          refine Tallies.bind (ih.1 _) fun below => ?_
          refine Tallies.after_read (ReadsOnly.test _ _) fun kept => ?_
          split
          · refine Tallies.after_read (ReadsOnly.ask _ _ _) fun left => ?_
            split
            · exact Tallies.after_remove (RemovesOne.rmdir _ _) fun _ => hrest (below + 1)
            · exact hrest below
          · exact hrest below
        · -- a file, a link or a special file: one entry when it is removed
          rw [deleteEntries]
          swap
          · exact hkd
          simp only [pure_bind]
          refine Tallies.after_read (ReadsOnly.test _ _) fun kept => ?_
          split
          · exact Tallies.after_remove (RemovesOne.unlink _ _) fun _ => hrest 1
          · exact hrest 0

theorem deleteRecursively_tallies (root : String) (keep : PathMatcher) :
    Tallies (deleteRecursively root keep) 0 := by
  unfold deleteRecursively
  exact Tallies.after_read ReadsOnly.disk fun _ => (delete_tallies keep _).1 root

/-- Deleting below a directory `PR`, through a path `QR` that leads to it whatever happens
below it, with a matcher that answers `keep` for every entry below it (whatever it answers for
other paths) succeeds; it leaves every entry below the directory that is kept or holds a kept
entry, and removes every other one; it changes nothing at or outside the directory; and it
returns the number of entries it removed, that is the entries below the directory less those
the pruned tree keeps. -/
theorem deleteRecursively_removes_unkept {h : Host} {QR PR : Place} {m : PathMatcher}
    {keep : Place → Bool} (hwf : h.disk.Wf) (hQR : ∀ n ∈ QR, IsName n)
    (hstable : ∀ d, AgreeOutside PR h.disk d → d.LeadsTo QR PR)
    (hkeep : ∀ rel, rel ≠ [] → h.disk.get? (PR ++ rel) ≠ none →
      m.test (ofPlace (QR ++ rel)) = .ok (keep rel)) :
    (deleteRecursively (ofPlace QR) m).Gives h fun n d' =>
      (∀ y, y ≠ [] → d'.get? (PR ++ y) =
        if h.disk.holdsKept PR keep (PR ++ y) then h.disk.get? (PR ++ y) else none) ∧
      (∀ q, ¬ Under PR q → d'.get? q = h.disk.get? q) ∧
      n + (h.disk.pruneBelow PR keep).countBelow PR = h.disk.countBelow PR := by
  obtain ⟨n, d', hrun, hwf', hsame⟩ := deleteRecursively_prunes hwf hQR hstable hkeep
  refine ⟨n, d', hrun, fun y hy => ?_, fun q hq => ?_, ?_⟩
  · rw [hsame, get?_pruneBelow_append hy]
  · rw [hsame, get?_pruneBelow, if_neg fun h' => hq h'.1]
  · -- the count is the number of entries removed, and what is left has the pruned entries
    have htally := deleteRecursively_tallies (ofPlace QR) m h n _ hwf hrun
    have hlen := hwf'.length_eq hwf.pruneBelow hsame
    have hsplit := length_pruneBelow h.disk PR keep
    dsimp only at htally
    omega

/-- A folder `r` holding files `a` and `b` and an empty directory `s`, with the pattern `a`:
the delete keeps `a`, removes `b` and `s`, and counts the two of them. -/
theorem deleteRecursively_keeps_matched_file :
    (deleteRecursively (ofPlace ["r"]) ⟨Host.workDir, ofPlace ["r"], [Utf16.ofString "a"]⟩).Gives
      ⟨⟨[(["r"], .dir), (["r", "a"], .file "x" 420), (["r", "b"], .file "y" 420),
        (["r", "s"], .dir)]⟩, []⟩
      fun n d' => n = 2 ∧ d'.get? ["r"] = some .dir ∧ d'.get? ["r", "a"] = some (.file "x" 420) ∧
        d'.get? ["r", "b"] = none ∧ d'.get? ["r", "s"] = none := by
  set d : Disk := ⟨[(["r"], .dir), (["r", "a"], .file "x" 420), (["r", "b"], .file "y" 420),
    (["r", "s"], .dir)]⟩
  have hwf : d.Wf := ⟨by decide, by decide, by decide, by decide⟩
  -- the pattern `a` keeps the path of its own name and no other
  have hkeep : ∀ rel, rel ≠ [] → d.get? (["r"] ++ rel) ≠ none →
      (⟨Host.workDir, ofPlace ["r"], [Utf16.ofString "a"]⟩ : PathMatcher).test
        (ofPlace (["r"] ++ rel)) = .ok (rel == ["a"]) := by
    intro rel _ hne
    obtain ⟨k, hk⟩ := Option.ne_none_iff_exists'.mp hne
    exact PathMatcher.test_of_name _ _ _ (hwf.names_of_get? hk) (by decide) (by decide +kernel)
  -- the folder's path leads to it through the root, whatever is below it
  have hstable : ∀ d', AgreeOutside ["r"] d d' → d'.LeadsTo ["r"] ["r"] := fun d' hd' =>
    leadsTo_root_child (by decide) ((hd' ["r"] (by decide)).symm.trans (by decide))
  refine (deleteRecursively_removes_unkept hwf (by decide) hstable hkeep).mono ?_
  rintro n d' ⟨hbelow, hout, hcount⟩
  have hpruned : (d.pruneBelow ["r"] fun rel => rel == ["a"]).countBelow ["r"] = 1 := by decide
  have hall : d.countBelow ["r"] = 3 := by decide
  change n + (d.pruneBelow ["r"] fun rel => rel == ["a"]).countBelow ["r"] = d.countBelow ["r"]
    at hcount
  refine ⟨by omega, (hout ["r"] fun hU => hU.2 rfl).trans (by decide),
    (hbelow ["a"] (by simp)).trans (by decide), (hbelow ["b"] (by simp)).trans (by decide),
    (hbelow ["s"] (by simp)).trans (by decide)⟩

end Tree

end FolderSink
