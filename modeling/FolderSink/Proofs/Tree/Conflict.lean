import FolderSink.Proofs.Tree.Rollback
import FolderSink.Proofs.Disk.Blocked
import FolderSink.Proofs.Path.Relative
/-!
A blocked folder is reported precisely and changes nothing. A writer first makes its folder
with its parents; where that is refused because something on the way is there and is not a
directory, it walks the way down from the root, statting each place's path with links
followed, and reports the first place that does not lead to a directory. Nothing else a write
does raises a conflict (`Act.NoConflict`). Main statements:

* `findNonDirectory_sound`, `findNonDirectory_blocked`: the walk only reads, and it reports
  exactly the place that blocks the way (`Disk.BlockedAt`);
* `write_conflicts_iff_blocked`: a write in either mode stops at a conflict exactly when the
  way down to its folder is blocked, naming the folder and that place, with the disk as it was
  and the writer failed; through a clear way the write goes on as with the folder there;
* `write_through_dangling_link_fails`: a link that leads nowhere neither blocks the way nor
  lets the folder be made.
-/

namespace FolderSink

namespace Act

variable {α β : Type} {x : Act α} {f : α → Act β}

/-- Work that never stops at a conflict, from any host. -/
def NoConflict (x : Act α) : Prop :=
  ∀ h dest offending h', x.run.run h ≠ (.error (.conflict dest offending), h')

theorem NoConflict.pure (a : α) : NoConflict (Pure.pure a : Act α) := by
  intro h dest offending h' hrun
  rw [run_pure] at hrun
  exact absurd (Prod.mk.inj hrun).1 (by simp)

theorem NoConflict.bind (hx : NoConflict x) (hf : ∀ a, NoConflict (f a)) :
    NoConflict (x >>= f) := by
  intro h dest offending h' hrun
  rcases hxr : x.run.run h with ⟨e | a, h₁⟩
  · rw [run_bind_error hxr] at hrun
    obtain ⟨he, rfl⟩ := Prod.mk.inj hrun
    rw [Except.error.inj he] at hxr
    exact hx h dest offending h₁ hxr
  · rw [run_bind_ok hxr] at hrun
    exact hf a h₁ dest offending h' hrun

/-- A failed call on the file system, or one that never returns, is no conflict. -/
theorem NoConflict.of_failsBy (hx : FailsBy Failure.IsFault x) : NoConflict x := by
  intro h dest offending h' hrun
  rcases hx h _ h' hrun with ⟨op, p, detail, errno, he⟩ | ⟨what, he⟩ <;> cases he

theorem NoConflict.throw {e : Failure} (he : ∀ dest offending, e ≠ .conflict dest offending) :
    NoConflict (MonadExcept.throw e : Act α) := by
  intro h dest offending h' hrun
  rw [run_throw] at hrun
  exact he dest offending (Except.error.inj (Prod.mk.inj hrun).1)

/-- Work after a failure that is no conflict never runs. -/
theorem NoConflict.throw_bind {e : Failure} (he : ∀ dest offending, e ≠ .conflict dest offending)
    (f : α → Act β) : NoConflict (MonadExcept.throw e >>= f) := by
  intro h dest offending h' hrun
  rw [run_bind_error (run_throw e)] at hrun
  exact he dest offending (Except.error.inj (Prod.mk.inj hrun).1)

theorem NoConflict.say (level : Level) (message : String) : NoConflict (say level message) := by
  intro h dest offending h' hrun
  rw [run_say] at hrun
  exact absurd (Prod.mk.inj hrun).1 (by simp)

theorem NoConflict.disk : NoConflict Act.disk := .of_failsBy FailsBy.disk

theorem NoConflict.ask (op : Operation) (p : String) (q : Disk → Except SysError α) :
    NoConflict (ask op p q) := .of_failsBy (FailsBy.fault (FailsBy.ask op p q))

theorem NoConflict.change (op : Operation) (p : String) (g : Disk → Except SysError Disk) :
    NoConflict (change op p g) := .of_failsBy (FailsBy.fault (FailsBy.change op p g))

theorem NoConflict.test (m : PathMatcher) (c : String) : NoConflict (test m c) := by
  unfold Act.test
  split
  · exact .pure _
  · exact .throw (by simp)

/-- Updating the host never fails. -/
theorem NoConflict.update (g : Host → Host) : NoConflict (modify g : Act Unit) := by
  intro h dest offending h' hrun
  have hmod : (modify g : Act Unit).run.run h = (.ok (), g h) := rfl
  rw [hmod] at hrun
  exact absurd (Prod.mk.inj hrun).1 (by simp)

theorem NoConflict.ite {c : Prop} [Decidable c] {y : Act α} (hx : NoConflict x)
    (hy : NoConflict y) : NoConflict (if c then x else y) := by
  split
  · exact hx
  · exact hy

/-- A handler that fails only as the work it guards did keeps it free of conflicts. -/
theorem NoConflict.tryCatch {handler : Failure → Act α} (hx : NoConflict x)
    (hh : ∀ e, (∀ dest offending, e ≠ .conflict dest offending) → NoConflict (handler e)) :
    NoConflict (tryCatch x handler) := by
  intro h dest offending h' hrun
  rcases hxr : x.run.run h with ⟨e | a, h₁⟩
  · rw [run_tryCatch_error hxr] at hrun
    have he : ∀ dest offending, e ≠ .conflict dest offending := by
      rintro dest offending rfl
      exact hx h dest offending h₁ hxr
    exact hh e he h₁ dest offending h' hrun
  · rw [run_tryCatch_ok hxr] at hrun
    exact absurd (Prod.mk.inj hrun).1 (by simp)

end Act

namespace Tree

open Act

theorem ensureDir_noConflict (dir : String) : NoConflict (ensureDir dir) :=
  .of_failsBy (FailsBy.fault (ensureDir_failsBy dir))

/-- Deleting never stops at a conflict, whatever its fuel. -/
theorem delete_noConflict (keep : PathMatcher) (f : Nat) :
    (∀ dir, NoConflict (deleteIn keep f dir)) ∧
      ∀ dir cs, NoConflict (deleteEntries keep f dir cs) := by
  induction f with
  | zero =>
    refine ⟨fun dir => ?_, fun dir cs => ?_⟩
    · rw [deleteIn]
      exact .pure _
    · rw [deleteEntries]
      exact .pure _
  | succ f ih =>
    refine ⟨fun dir => ?_, fun dir cs => ?_⟩
    · rw [deleteIn]
      exact .bind (.of_failsBy (FailsBy.fault (readEntries_failsBy _))) fun _ => ih.2 _ _
    · rcases cs with _ | ⟨⟨name, kind⟩, rest⟩
      · rw [deleteEntries]
        exact .pure _
      have hrest : ∀ here, NoConflict (deleteEntries keep f dir rest >>= fun more =>
          pure (here + more)) :=
        fun _ => .bind (ih.2 _ _) fun _ => .pure _
      by_cases hkd : kind = .dir
      · subst hkd
        rw [deleteEntries]
        refine .bind (ih.1 _) fun below => .bind (.test _ _) fun kept => ?_
        split
        · refine .bind (.of_failsBy (FailsBy.fault (readEntries_failsBy _))) fun es => ?_
          split
          · exact .bind (.change _ _ _) fun _ => .bind (.pure _) hrest
          · exact .bind (.pure _) hrest
        · exact .bind (.pure _) hrest
      · rw [deleteEntries]
        swap
        · exact hkd
        refine .bind (.test _ _) fun kept => ?_
        split
        · exact .bind (.change _ _ _) fun _ => .bind (.pure _) hrest
        · exact .bind (.pure _) hrest

/-- Copying the kept entries never stops at a conflict, whatever its fuel. -/
theorem preserve_noConflict (keep : PathMatcher) (f : Nat) :
    (∀ src dst, NoConflict (preserveIn keep f src dst)) ∧
      ∀ src dst cs, NoConflict (preserveEntries keep f src dst cs) := by
  induction f with
  | zero =>
    refine ⟨fun src dst => ?_, fun src dst cs => ?_⟩
    · rw [preserveIn]
      exact .pure _
    · rw [preserveEntries]
      exact .pure _
  | succ f ih =>
    refine ⟨fun src dst => ?_, fun src dst cs => ?_⟩
    · rw [preserveIn]
      exact .bind (.ask _ _ _) fun cs => ih.2 _ _ _
    · rcases cs with _ | ⟨⟨name, kind⟩, rest⟩
      · rw [preserveEntries]
        exact .pure _
      have hrest : ∀ here : Bool × Nat, NoConflict (preserveEntries keep f src dst rest >>=
          fun more => pure (here.1 || more.1, here.2 + more.2)) :=
        fun here => .bind (ih.2 _ _ _) fun _ => .pure _
      by_cases hkd : kind = .dir
      · subst hkd
        rw [preserveEntries]
        dsimp only
        refine .bind (ih.1 _ _) fun r => ?_
        -- either way the directory is then made when kept, and the other entries follow
        refine .ite (.bind (.pure _) ?made) (.bind (.test _ _) ?made)
        intro kept
        split
        · exact .bind (ensureDir_noConflict _) fun _ => .bind (.pure _) hrest
        · exact .bind (.pure _) hrest
      · rw [preserveEntries]
        swap
        · exact hkd
        dsimp only
        refine .bind (.test _ _) fun b => ?_
        split
        · exact .bind (ensureDir_noConflict _) fun _ =>
            .bind (.of_failsBy (copyLeaf_failsBy _ _ _)) fun _ => .bind (.pure _) hrest
        · exact .bind (.pure _) hrest

theorem deleteRecursively_noConflict (root : String) (keep : PathMatcher) :
    NoConflict (deleteRecursively root keep) := by
  unfold deleteRecursively
  exact .bind .disk fun _ => (delete_noConflict keep _).1 _

theorem buildStaging_noConflict (root outputTree : String) (keep : PathMatcher) (staging : String) :
    NoConflict (buildStaging root outputTree keep staging) := by
  unfold buildStaging copyPreserved
  refine .bind (.change _ _ _) fun _ => .bind (.bind .disk fun _ =>
    .bind ((preserve_noConflict keep _).1 _ _) fun _ => .pure _) fun _ => ?_
  exact .bind (.of_failsBy (copyRecursively_failsBy _ _)) fun _ => .pure _

theorem renameRaw_noConflict (a b : String) : NoConflict (renameRaw a b) := by
  unfold renameRaw
  refine .bind .disk fun d => ?_
  split
  · exact .bind (.update _) fun _ => .pure _
  · exact .pure _

/-- A staged write fails with what its build, its renames or its own rename failures
raise: never with a conflict. -/
theorem stagedWrite_noConflict (root outputTree : String) (keep : PathMatcher) (stamps : Tree.Stamps) :
    NoConflict (stagedWrite root outputTree keep stamps) := by
  unfold stagedWrite removeTree
  refine .bind (.ask _ _ _) fun target => ?_
  refine .bind (.tryCatch (buildStaging_noConflict _ _ _ _) fun e he =>
    .bind (.update _) fun _ => .throw he) fun _ => ?_
  refine .bind (renameRaw_noConflict _ _) fun r => ?_
  have hio : ∀ p e dest offending, ioFailure .rename p e ≠ .conflict dest offending := by
    simp [ioFailure]
  dsimp only
  split
  · -- the folder could not be moved aside
    exact .bind (.update _) fun _ => .ite (.pure _) (.throw_bind (hio _ _) _)
  · refine .bind (renameRaw_noConflict _ _) fun r' => ?_
    split
    · -- the staged copy could not be moved in: the folder is moved back
      exact .bind (.change _ _ _) fun _ => .bind (.update _) fun _ =>
        .ite (.pure _) (.throw_bind (hio _ _) _)
    · exact .bind (.update _) fun _ => .pure _

section walkDown

open Disk FolderSink.Path

variable {h : Host}

/-- The way down to the path of a place is walked over the place's names, from the root. -/
theorem findNonDirectory_ofPlace {Q : Place} (hQ : ∀ m ∈ Q, IsName m) :
    findNonDirectory (ofPlace Q) = findNonDirectory.go (ofPlace []) Q := by
  have hroot : ofPlace [] = "/" := by simp [ofPlace]
  have hrel : Path.relative "/" "/" (ofPlace Q) = joinNames Q := by
    simpa [hroot] using relative_ofPlace_append "/" (P := []) (by simp) hQ
  have hsegs : ((joinNames Q).splitOn "/").filter (· != "") = Q := by
    rcases eq_or_ne Q [] with rfl | hne
    · have he : "".splitOn "/" = [""] := names_empty
      simp [joinNames, he]
    · rw [← names, names_joinNames hne fun n hn => (hQ n hn).2.2.2]
      exact List.filter_eq_self.mpr fun n hn => by simpa using (hQ n hn).1
  rw [hroot]
  unfold findNonDirectory
  simp only [hrel, hsegs]

theorem go_noConflict (c : String) (rest : List String) : NoConflict (findNonDirectory.go c rest) := by
  induction rest generalizing c with
  | nil =>
    rw [findNonDirectory.go]
    exact .pure _
  | cons s rest ih =>
    rw [findNonDirectory.go]
    refine .bind (.ask _ _ _) fun r => ?_
    split
    · exact .pure _
    · exact ih _
    · exact .pure _

/-- One step down the way: the next place's path is statted, links followed, and the walk
goes on below a directory, stops at nothing, and reports anything else. -/
theorem go_cons_cases {X : Place} {s : String} (hX : ∀ m ∈ X, IsName m) (hs : IsName s)
    (rest : List String) :
    (h.disk.stat? (ofPlace (X ++ [s])) = .ok (some .dir) ∧
      (findNonDirectory.go (ofPlace X) (s :: rest)).run.run h =
        (findNonDirectory.go (ofPlace (X ++ [s])) rest).run.run h) ∨
    (∃ k, h.disk.stat? (ofPlace (X ++ [s])) = .ok (some k) ∧ k ≠ .dir ∧
      (findNonDirectory.go (ofPlace X) (s :: rest)).run.run h =
        (.ok (some (ofPlace (X ++ [s]))), h)) ∨
    (h.disk.stat? (ofPlace (X ++ [s])) = .ok none ∧
      (findNonDirectory.go (ofPlace X) (s :: rest)).run.run h = (.ok none, h)) ∨
    (∃ e, h.disk.stat? (ofPlace (X ++ [s])) = .error e ∧
      (findNonDirectory.go (ofPlace X) (s :: rest)).run.run h =
        (.error (ioFailure .read (ofPlace (X ++ [s])) e), h)) := by
  have hjoin : Path.join [ofPlace X, s] = ofPlace (X ++ [s]) := join_ofPlace hX hs
  rw [findNonDirectory.go]
  simp only [hjoin]
  rw [run_bind, run_ask]
  cases hst : h.disk.stat? (ofPlace (X ++ [s])) with
  | error e => exact .inr (.inr (.inr ⟨e, rfl, rfl⟩))
  | ok k =>
    rcases k with _ | k
    · exact .inr (.inr (.inl ⟨rfl, rfl⟩))
    · cases k with
      | dir => exact .inl ⟨rfl, rfl⟩
      | file content mode => exact .inr (.inl ⟨_, rfl, by simp, rfl⟩)
      | link t => exact .inr (.inl ⟨_, rfl, by simp, rfl⟩)
      | fifo => exact .inr (.inl ⟨_, rfl, by simp, rfl⟩)

/-- Walking down from `X`, whose path and those of the places above it lead to directories:
the walk only reads, and a path it reports is that of the place blocking the way. -/
theorem go_sound {X rest : Place} (hX : ∀ m ∈ X ++ rest, IsName m)
    (hdirs : ∀ Y, Y <+: X → h.disk.stat? (ofPlace Y) = .ok (some .dir))
    {r : Except Failure (Option String)} {h' : Host}
    (hrun : (findNonDirectory.go (ofPlace X) rest).run.run h = (r, h')) :
    h' = h ∧ ∀ p, r = .ok (some p) → ∃ Y, h.disk.BlockedAt (X ++ rest) Y ∧ p = ofPlace Y := by
  induction rest generalizing X with
  | nil =>
    rw [findNonDirectory.go, run_pure] at hrun
    obtain ⟨rfl, rfl⟩ := Prod.mk.inj hrun
    exact ⟨rfl, by simp⟩
  | cons s rest ih =>
    rw [show X ++ s :: rest = X ++ [s] ++ rest by simp] at hX ⊢
    have hXs : ∀ m ∈ X ++ [s], IsName m := (List.forall_mem_append.mp hX).1
    rcases go_cons_cases (X := X) (fun m hm => hXs m (by simp [hm])) (hXs s (by simp)) rest with
      ⟨hst, hgo⟩ | ⟨k, hst, hk, hgo⟩ | ⟨-, hgo⟩ | ⟨e, -, hgo⟩ <;> rw [hgo] at hrun
    · -- a directory: the walk goes on below it
      refine ih hX (fun Y hY => ?_) hrun
      rcases List.prefix_concat_iff.mp hY with rfl | hY
      · exact hst
      · exact hdirs Y hY
    · obtain ⟨rfl, rfl⟩ := Prod.mk.inj hrun
      refine ⟨rfl, fun p hp => ⟨X ++ [s], ⟨by simp, List.prefix_append _ _, fun Y hY hne => ?_,
        k, hst, hk⟩, (Option.some.inj (Except.ok.inj hp)).symm⟩⟩
      exact hdirs Y ((List.prefix_concat_iff.mp hY).resolve_left hne)
    · obtain ⟨rfl, rfl⟩ := Prod.mk.inj hrun
      exact ⟨rfl, by simp⟩
    · obtain ⟨rfl, rfl⟩ := Prod.mk.inj hrun
      exact ⟨rfl, by simp⟩

/-- Walking down from `X` through a way blocked below `X` reports the blocking place, and only
reads. -/
theorem go_blocked {X rest Y : Place} (hX : ∀ m ∈ X ++ rest, IsName m)
    (hdirs : ∀ Y', Y' <+: X → h.disk.stat? (ofPlace Y') = .ok (some .dir))
    (hY : h.disk.BlockedAt (X ++ rest) Y) :
    (findNonDirectory.go (ofPlace X) rest).run.run h = (.ok (some (ofPlace Y)), h) := by
  induction rest generalizing X with
  | nil =>
    -- the blocking place would lie at or above `X`, whose paths lead to directories
    obtain ⟨-, hYX, -, k, hk, hkd⟩ := hY
    rw [hdirs Y (by simpa using hYX)] at hk
    cases hk
    exact absurd rfl hkd
  | cons s rest ih =>
    rw [show X ++ s :: rest = X ++ [s] ++ rest by simp] at hX hY
    have hXs : ∀ m ∈ X ++ [s], IsName m := (List.forall_mem_append.mp hX).1
    obtain ⟨-, hYQ, habove, k, hk, hkd⟩ := id hY
    have hcases := go_cons_cases (h := h) (X := X) (fun m hm => hXs m (by simp [hm])) (hXs s (by simp)) rest
    by_cases hYs : Y = X ++ [s]
    · -- the next place blocks the way
      subst hYs
      rcases hcases with ⟨hst, -⟩ | ⟨k', -, -, hgo⟩ | ⟨hst, -⟩ | ⟨e, hst, -⟩
      · rw [hst] at hk
        cases hk
        exact absurd rfl hkd
      · exact hgo
      · rw [hst] at hk
        cases hk
      · rw [hst] at hk
        cases hk
    · -- the blocking place lies below the next one, which leads to a directory
      have hbelow : X ++ [s] <+: Y := by
        rcases List.prefix_or_prefix_of_prefix hYQ (List.prefix_append (X ++ [s]) rest) with
          hle | hle
        · rcases List.prefix_concat_iff.mp hle with rfl | hle
          · exact absurd rfl hYs
          · rw [hdirs Y hle] at hk
            cases hk
            exact absurd rfl hkd
        · exact hle
      have hst := habove (X ++ [s]) hbelow (Ne.symm hYs)
      rcases hcases with ⟨-, hgo⟩ | ⟨k', hst', hk', -⟩ | ⟨hst', -⟩ | ⟨e, hst', -⟩
      · rw [hgo]
        refine ih hX (fun Y' hY' => ?_) hY
        rcases List.prefix_concat_iff.mp hY' with rfl | hY'
        · exact hst
        · exact hdirs Y' hY'
      · rw [hst] at hst'
        cases hst'
        exact absurd rfl hk'
      · rw [hst] at hst'
        cases hst'
      · rw [hst] at hst'
        cases hst'

theorem findNonDirectory_noConflict (target : String) : NoConflict (findNonDirectory target) := by
  unfold findNonDirectory
  exact go_noConflict _ _

/-- The walk down to a folder only reads, and a path it reports is that of the place
blocking the way. -/
theorem findNonDirectory_sound {Q : Place} (hQ : ∀ m ∈ Q, IsName m)
    {r : Except Failure (Option String)} {h' : Host}
    (hrun : (findNonDirectory (ofPlace Q)).run.run h = (r, h')) :
    h' = h ∧ ∀ p, r = .ok (some p) → ∃ Y, h.disk.BlockedAt Q Y ∧ p = ofPlace Y := by
  rw [findNonDirectory_ofPlace hQ] at hrun
  exact go_sound (X := []) hQ (fun Y hY => by rw [List.prefix_nil.mp hY]; exact stat?_root) hrun

/-- The walk down a blocked way reports the place that blocks it. -/
theorem findNonDirectory_blocked {Q Y : Place} (hQ : ∀ m ∈ Q, IsName m)
    (hY : h.disk.BlockedAt Q Y) :
    (findNonDirectory (ofPlace Q)).run.run h = (.ok (some (ofPlace Y)), h) := by
  rw [findNonDirectory_ofPlace hQ]
  exact go_blocked (X := []) hQ (fun Y hY => by rw [List.prefix_nil.mp hY]; exact stat?_root) hY

end walkDown

section ensure

open Disk FolderSink.Path

variable {h : Host} {Q : Place} (hQ : ∀ m ∈ Q, IsName m)
include hQ

/-- A folder whose way is blocked is not made: the conflict names the folder and the place
that blocks it, and nothing changes. -/
theorem ensureDestinationDirectory_blocked (hd : h.disk.Wf) {Y : Place} (hY : h.disk.BlockedAt Q Y) :
    (ensureDestinationDirectory (ofPlace Q)).run.run h =
      (.error (.conflict (ofPlace Q) (ofPlace Y)), h) := by
  unfold ensureDestinationDirectory
  rw [run_bind_ok run_disk]
  simp only [mkdirs_of_blocked hd hQ hY]
  -- refused with EEXIST or ENOTDIR, so the way is walked down for the place that blocks it
  rw [if_pos (by split <;> rfl), run_bind_ok (findNonDirectory_blocked hQ hY)]
  rfl

/-- A conflict is raised only for a blocked way, naming the folder and the place that blocks
it, and with nothing changed. -/
theorem ensureDestinationDirectory_conflict {a b : String} {h' : Host}
    (hrun : (ensureDestinationDirectory (ofPlace Q)).run.run h = (.error (.conflict a b), h')) :
    h' = h ∧ a = ofPlace Q ∧ ∃ Y, h.disk.BlockedAt Q Y ∧ b = ofPlace Y := by
  unfold ensureDestinationDirectory at hrun
  rw [run_bind_ok run_disk] at hrun
  cases hmk : h.disk.mkdirs (ofPlace Q) with
  | ok d =>
    simp only [hmk] at hrun
    exact absurd hrun (NoConflict.update _ h a b h')
  | error e =>
    simp only [hmk] at hrun
    have hio : ∀ a b, ioFailure .mkdir (ofPlace Q) e ≠ .conflict a b := by simp [ioFailure]
    split at hrun
    · -- the way was walked down; only a place found on it is reported as a conflict
      rcases hf : (findNonDirectory (ofPlace Q)).run.run h with ⟨r, h₁⟩
      obtain ⟨rfl, hsound⟩ := findNonDirectory_sound hQ hf
      rcases r with e' | _ | p
      · rw [run_bind_error hf] at hrun
        obtain ⟨he, rfl⟩ := Prod.mk.inj hrun
        rw [Except.error.inj he] at hf
        exact absurd hf (findNonDirectory_noConflict _ _ a b _)
      · rw [run_bind_ok hf] at hrun
        exact absurd hrun (NoConflict.throw hio _ a b h')
      · rw [run_bind_ok hf] at hrun
        obtain ⟨he, rfl⟩ := Prod.mk.inj hrun
        obtain ⟨rfl, rfl⟩ : ofPlace Q = a ∧ p = b := by simpa using he
        exact ⟨rfl, rfl, hsound p rfl⟩
    · exact absurd hrun (NoConflict.throw hio h a b h')

omit hQ in
/-- A refusal other than a place in the way is reported as a failed call, with nothing
changed. -/
theorem ensureDestinationDirectory_refused {e : SysError}
    (hmk : h.disk.mkdirs (ofPlace Q) = .error e)
    (hcode : (e.errno == .EEXIST || e.errno == .ENOTDIR) = false) :
    (ensureDestinationDirectory (ofPlace Q)).run.run h =
      (.error (ioFailure .mkdir (ofPlace Q) e), h) := by
  unfold ensureDestinationDirectory
  rw [run_bind_ok run_disk]
  simp only [hmk, hcode, Bool.false_eq_true, ↓reduceIte]
  rfl

end ensure

end Tree

namespace Writer

open Act FolderSink.Tree

variable {w : Writer} {o : String} {excluded : List Utf16} {stamps : Tree.Stamps}

/-- A write stops at a conflict only where making its folder does: what follows never
raises one. -/
theorem run_conflict {h h' : Host} {a b : String}
    (hrun : (w.run o excluded stamps).run.run h = (.error (.conflict a b), h')) :
    (ensureDestinationDirectory w.localFolder).run.run
      { h with console := h.console.say .progress ("FolderDestination: creating " ++ w.localFolder) } =
        (.error (.conflict a b), h') := by
  unfold Writer.run at hrun
  dsimp only at hrun
  rw [run_bind, run_say] at hrun
  dsimp only at hrun
  rcases hens : (ensureDestinationDirectory w.localFolder).run.run
    { h with console := h.console.say .progress ("FolderDestination: creating " ++ w.localFolder) } with ⟨r, h₂⟩
  rcases r with e | u
  · rw [run_bind_error hens] at hrun
    rw [hrun]
  · rw [run_bind_ok hens] at hrun
    have key : ∀ x : Act Unit, NoConflict x → x.run.run h₂ ≠ (.error (.conflict a b), h') :=
      fun x hx => hx h₂ a b h'
    refine absurd hrun (key _ ?_)
    refine .ite (.bind (.say _ _) fun _ => .bind (stagedWrite_noConflict _ _ _ _) fun outcome =>
      .ite (.bind (.say _ _) fun _ => ?_) ?_) ?_
    -- in either mode the write may go on in place, which raises no conflict either
    all_goals
      refine .bind (.pure _) fun staged => .ite ?_ (.pure _)
      exact .bind (.say _ _) fun _ => .bind (deleteRecursively_noConflict _ _) fun _ =>
        .bind (.say _ _) fun _ => .bind (.of_failsBy (copyRecursively_failsBy _ _)) fun _ =>
          .pure _

section blocked

open Disk FolderSink.Path

variable {h : Host} {Q : Place} (hloc : w.localFolder = ofPlace Q)
include hloc

/-- A write into a folder whose way is blocked announces the folder and stops at the
conflict, with the disk as it was. -/
theorem run_of_blocked (hd : h.disk.Wf) (hQ : ∀ m ∈ Q, IsName m) {Y : Place} (hY : h.disk.BlockedAt Q Y) :
    (w.run o excluded stamps).run.run h = (.error (.conflict (ofPlace Q) (ofPlace Y)),
      { h with console := h.console.say .progress ("FolderDestination: creating " ++ ofPlace Q) }) := by
  unfold Writer.run
  dsimp only
  rw [run_bind, run_say, hloc]
  generalize h.console.say .progress ("FolderDestination: creating " ++ ofPlace Q) = c
  exact run_bind_error (ensureDestinationDirectory_blocked (h := ⟨h.disk, c⟩) hQ hd hY)

/-- Through a clear way, a write makes its folder and then goes on as it would have with the
folder there. -/
theorem run_of_clear {d' : Disk} {P : Place} (hmk : h.disk.mkdirs (ofPlace Q) = .ok d')
    (hlead : d'.LeadsTo Q P) :
    (w.run o excluded stamps).run.run h = (w.run o excluded stamps).run.run { h with disk := d' } := by
  unfold Writer.run
  dsimp only
  rw [run_bind, run_say, run_bind, run_say, hloc]
  dsimp only
  generalize h.console.say .progress ("FolderDestination: creating " ++ ofPlace Q) = c
  -- made from either disk, the folder leaves `d'`
  rw [run_bind_ok (ensureDestinationDirectory_run (h := ⟨h.disk, c⟩) hmk),
    run_bind_ok (ensureDestinationDirectory_run (h := ⟨d', c⟩) (mkdirs_of_leadsTo hlead))]

end blocked

end Writer

open FolderSink.Tree Act Disk FolderSink.Path in
/-- A write in either mode stops at a conflict exactly when the way down to its folder is
blocked: the conflict names the folder and the place that blocks the way, the disk is left as
it was, and the writer ends failed. Through a clear way the folder is made, only missing places
becoming directories, and the write goes on as it would have with the folder there. -/
theorem write_conflicts_iff_blocked (w : Writer) (o : String) (excluded : List Utf16)
    (stamps : Tree.Stamps) (h : Host) (Q : Place) (hd : h.disk.Wf) (hQ : ∀ m ∈ Q, IsName m)
    (hloc : w.localFolder = ofPlace Q) :
    (∀ a b, ((w.write o excluded stamps).run h).1.2 = .error (.conflict a b) ↔
      a = ofPlace Q ∧ ∃ Y, h.disk.BlockedAt Q Y ∧ b = ofPlace Y) ∧
    (∀ Y, h.disk.BlockedAt Q Y → (w.write o excluded stamps).run h =
      (({ w with state := .failed }, .error (.conflict (ofPlace Q) (ofPlace Y))),
        { h with console := h.console.say .progress ("FolderDestination: creating " ++ ofPlace Q) })) ∧
    (h.disk.WayClear Q → ∃ d' P,
      (ensureDestinationDirectory (ofPlace Q)).run.run h = (.ok (), { h with disk := d' }) ∧
      d'.LeadsTo Q P ∧ MadeTo h.disk d' P ∧
      (w.write o excluded stamps).run h = (w.write o excluded stamps).run { h with disk := d' }) := by
  refine ⟨fun a b => ⟨fun hres => ?_, ?_⟩, fun Y hY => ?_, fun hclear => ?_⟩
  · -- a conflict comes from making the folder, which reports only a blocked way
    rw [Writer.write_result] at hres
    rcases hrun : (w.run o excluded stamps).run.run h with ⟨r, h'⟩
    rw [hrun] at hres
    subst hres
    have hens := Writer.run_conflict hrun
    rw [hloc] at hens
    obtain ⟨-, ha, Y, hY, hb⟩ := ensureDestinationDirectory_conflict hQ hens
    exact ⟨ha, Y, hY, hb⟩
  · rintro ⟨rfl, Y, hY, rfl⟩
    rw [Writer.write_result, Writer.run_of_blocked hloc hd hQ hY]
  · have hrun : (w.run o excluded stamps).run.run h = _ := Writer.run_of_blocked hloc hd hQ hY
    simp only [Writer.write, StateT.run_bind, hrun]
    rfl
  · obtain ⟨d', P, hmk, hlead, hmade⟩ := mkdirs_of_wayClear hd hQ hclear
    refine ⟨d', P, ensureDestinationDirectory_run hmk, hlead, hmade, ?_⟩
    simp only [Writer.write, StateT.run_bind, Writer.run_of_clear hloc hmk hlead]

open FolderSink.Tree Act Disk FolderSink.Path in
/-- A folder `/f/sub` below a file `/f`: the write stops at the file, with the disk as it was. -/
theorem write_below_file_conflicts :
    (⟨[(["f"], .file "x" 420)]⟩ : Disk).BlockedAt ["f", "sub"] ["f"] ∧
    ((⟨ofPlace ["f", "sub"], true, .idle⟩ : Writer).write (ofPlace ["o"]) [] ⟨"1", "1"⟩).run
        ⟨⟨[(["f"], .file "x" 420)]⟩, []⟩ =
      ((⟨ofPlace ["f", "sub"], true, .failed⟩,
        .error (.conflict (ofPlace ["f", "sub"]) (ofPlace ["f"]))),
        ⟨⟨[(["f"], .file "x" 420)]⟩,
          Console.say [] .progress ("FolderDestination: creating " ++ ofPlace ["f", "sub"])⟩) := by
  have hwf : (⟨[(["f"], .file "x" 420)]⟩ : Disk).Wf := ⟨by decide, by decide, by decide, by decide⟩
  have hstat : (⟨[(["f"], .file "x" 420)]⟩ : Disk).stat? (ofPlace ["f"]) =
      .ok (some (.file "x" 420)) := by
    have hf : (⟨[(["f"], .file "x" 420)]⟩ : Disk).get? ["f"] = some (.file "x" 420) := by decide
    have hl := lookup_child_followed (d := ⟨[(["f"], .file "x" 420)]⟩) (Q := []) (P := [])
      (by simp) (by decide : IsName "f") leadsTo_root (fun t => by rw [List.nil_append, hf]; simp)
    rw [List.nil_append, hf] at hl
    rw [stat?, hl]
  have hblocked : (⟨[(["f"], .file "x" 420)]⟩ : Disk).BlockedAt ["f", "sub"] ["f"] := by
    refine ⟨by simp, ⟨["sub"], rfl⟩, fun Y hY hne => ?_, _, hstat, by simp⟩
    rcases List.prefix_concat_iff.mp (show Y <+: [] ++ ["f"] from hY) with rfl | hY
    · exact absurd rfl hne
    · rw [List.prefix_nil.mp hY]
      exact stat?_root
  exact ⟨hblocked, (write_conflicts_iff_blocked _ _ _ _ _ ["f", "sub"] hwf (by decide) rfl).2.1
    ["f"] hblocked⟩

open FolderSink.Tree Act Disk FolderSink.Path in
/-- A link `/dest` to a missing `nowhere` leads nowhere when followed. -/
theorem lookup_dangling_link : (⟨[(["dest"], .link "nowhere"), (["o"], .dir)]⟩ : Disk).lookup
    (ofPlace ["dest"]) true = .ok (["nowhere"], none) := by
  have hdest : (⟨[(["dest"], .link "nowhere"), (["o"], .dir)]⟩ : Disk).get? ["dest"] =
      some (.link "nowhere") := by decide
  have hmissing : (⟨[(["dest"], .link "nowhere"), (["o"], .dir)]⟩ : Disk).get? ["nowhere"] =
      none := by decide
  have hnowhere : "nowhere".splitOn "/" = ["nowhere"] := by
    simpa [joinNames, names] using names_joinNames (by simp : ["nowhere"] ≠ []) (by decide)
  rw [lookup_eq_walk, show (ofPlace ["dest"]).splitOn "/" = ["", "dest"] from
    names_ofPlace (by simp) (by decide)]
  generalize (maxLinks + 1) * (Disk.longestTarget _ + 1) = M
  -- the root, the link, and the missing name it leads to
  rw [show ["", "dest"].length + M + 2 = M + 1 + 1 + 1 + 1 by simp; omega]
  simp [walk, hnowhere, hdest, hmissing, maxLinks]

open FolderSink.Tree Act Disk FolderSink.Path in
/-- A folder `/dest` that is a link to a missing `nowhere`. Followed, the way down to it has
the root, a directory, and then nothing: no place on it blocks the way. Yet the write does
not make the folder and go on: making it finds the link, which leads nowhere, and is refused
as missing. -/
theorem write_through_dangling_link_fails :
    (⟨[(["dest"], .link "nowhere"), (["o"], .dir)]⟩ : Disk).stat? (ofPlace []) =
      .ok (some .dir) ∧
    (⟨[(["dest"], .link "nowhere"), (["o"], .dir)]⟩ : Disk).stat? (ofPlace ["dest"]) = .ok none ∧
    (∀ Y, ¬ (⟨[(["dest"], .link "nowhere"), (["o"], .dir)]⟩ : Disk).BlockedAt ["dest"] Y) ∧
    ((⟨ofPlace ["dest"], false, .idle⟩ : Writer).write (ofPlace ["o"]) [] ⟨"1", "1"⟩).run
        ⟨⟨[(["dest"], .link "nowhere"), (["o"], .dir)]⟩, []⟩ =
      ((⟨ofPlace ["dest"], false, .failed⟩,
        .error (ioFailure .mkdir (ofPlace ["dest"]) ⟨.ENOENT, "mkdir", ofPlace ["dest"], none⟩)),
        ⟨⟨[(["dest"], .link "nowhere"), (["o"], .dir)]⟩,
          Console.say [] .progress ("FolderDestination: creating " ++ ofPlace ["dest"])⟩) := by
  have hstat : (⟨[(["dest"], .link "nowhere"), (["o"], .dir)]⟩ : Disk).stat? (ofPlace ["dest"]) =
      .ok none := by
    rw [stat?, lookup_dangling_link]
  have hdest : (⟨[(["dest"], .link "nowhere"), (["o"], .dir)]⟩ : Disk).get? ["dest"] =
      some (.link "nowhere") := by decide
  have hmk : (⟨[(["dest"], .link "nowhere"), (["o"], .dir)]⟩ : Disk).mkdirs (ofPlace ["dest"]) =
      .error ⟨.ENOENT, "mkdir", ofPlace ["dest"], none⟩ :=
    @mkdirs_of_dangling _ [] [] "dest" "nowhere" (by simp) (by decide) leadsTo_root hdest _
      lookup_dangling_link
  refine ⟨stat?_root, hstat, fun Y hY => ?_, ?_⟩
  · -- the only place on the way is the folder, which is missing
    obtain ⟨hY0, hYQ, -, k, hk, -⟩ := hY
    have hlen : Y.length = ["dest"].length := by
      have := hYQ.length_le
      have := List.length_pos_iff.mpr hY0
      simp only [List.length_cons, List.length_nil] at *
      omega
    rw [hYQ.eq_of_length hlen, hstat] at hk
    cases hk
  · have hrun : ((⟨ofPlace ["dest"], false, .idle⟩ : Writer).run (ofPlace ["o"]) [] ⟨"1", "1"⟩).run.run
        ⟨⟨[(["dest"], .link "nowhere"), (["o"], .dir)]⟩, []⟩ =
        (.error (ioFailure .mkdir (ofPlace ["dest"]) ⟨.ENOENT, "mkdir", ofPlace ["dest"], none⟩),
          ⟨⟨[(["dest"], .link "nowhere"), (["o"], .dir)]⟩,
            Console.say [] .progress ("FolderDestination: creating " ++ ofPlace ["dest"])⟩) := by
      unfold Writer.run
      dsimp only
      rw [run_bind, run_say]
      exact run_bind_error (ensureDestinationDirectory_refused (Q := ["dest"]) hmk rfl)
    simp only [Writer.write, StateT.run_bind, hrun]
    rfl

end FolderSink
