import FolderSink.Proofs.Tree.Frame
import FolderSink.Proofs.Tree.InPlace
/-!
A staged write that fails while it builds its staging directory gives the disk back as it
was. The staging directory is made beside the real place of the root, where nothing is;
everything the build writes lies at or below it, whatever the sources hold and wherever the
build stops (`buildStaging_stays`, from the frames of the copies), and removing it leaves
every place as it was (`removeAll_restores`). The build never reads the messages reported
before it (`Act.Quiet`), so a writer in atomic mode meets the same failure. Main statements:

* `siblingPath_ofPlace`: the sibling of a real place lies one name beside it;
* `stagedWrite_of_build_failure`: the failure is rethrown, with every place as before;
* `staged_build_failure_restores`: the same, and the writer ends failed with only its folder
  made.
-/

namespace FolderSink

namespace Act

variable {α β : Type} {h h' : Host} {x : Act α} {f : α → Act β}

/-- A failure of the work tried hands over to the handler, on the host the work left. -/
theorem run_tryCatch_error {handler : Failure → Act α} {e : Failure}
    (hx : x.run.run h = (.error e, h')) :
    (tryCatch x handler).run.run h = (handler e).run.run h' := by
  show (ExceptT.tryCatch x handler).run.run h = _
  simp only [ExceptT.tryCatch, ExceptT.run_mk, StateT.run_bind]
  have hx' : StateT.run x h = (.error e, h') := hx
  rw [hx']
  rfl

/-- Work tried that succeeds is all that runs. -/
theorem run_tryCatch_ok {handler : Failure → Act α} {a : α} (hx : x.run.run h = (.ok a, h')) :
    (tryCatch x handler).run.run h = (.ok a, h') := by
  show (ExceptT.tryCatch x handler).run.run h = _
  simp only [ExceptT.tryCatch, ExceptT.run_mk, StateT.run_bind]
  have hx' : StateT.run x h = (.ok a, h') := hx
  rw [hx']
  rfl

/-- Work that neither reads nor changes the messages reported so far: run with other
messages, it gives the same result and the same disk, and keeps those messages. -/
def Quiet (x : Act α) : Prop :=
  ∀ (h : Host) c, x.run.run { h with console := c } =
    ((x.run.run h).1, { (x.run.run h).2 with console := c })

theorem Quiet.pure (a : α) : Quiet (Pure.pure a : Act α) := fun _ _ => rfl

theorem Quiet.bind (hx : Quiet x) (hf : ∀ a, Quiet (f a)) : Quiet (x >>= f) := by
  intro h c
  rw [run_bind, run_bind, hx h c]
  rcases x.run.run h with ⟨_ | a, h₁⟩
  · rfl
  · exact hf a h₁ c

theorem Quiet.ask (op : Operation) (p : String) (q : Disk → Except SysError α) :
    Quiet (ask op p q) := by
  intro h c
  rw [run_ask, run_ask]

theorem Quiet.change (op : Operation) (p : String) (g : Disk → Except SysError Disk) :
    Quiet (change op p g) := by
  intro h c
  cases hg : g h.disk with
  | ok d => rw [run_change_ok (h := { h with console := c }) hg, run_change_ok hg]
  | error e => rw [run_change_error (h := { h with console := c }) hg, run_change_error hg]

theorem Quiet.changeOrStall (op : Operation) (p call : String)
    (g : Disk → Except SysError (Option Disk)) : Quiet (changeOrStall op p call g) := by
  intro h c
  cases hg : g h.disk with
  | ok r =>
    cases r with
    | some d =>
      rw [run_changeOrStall_ok (h := { h with console := c }) hg, run_changeOrStall_ok hg]
    | none =>
      rw [run_changeOrStall_stall (h := { h with console := c }) hg, run_changeOrStall_stall hg]
  | error e =>
    rw [run_changeOrStall_error (h := { h with console := c }) hg, run_changeOrStall_error hg]

theorem Quiet.test (m : PathMatcher) (p : String) : Quiet (test m p) := by
  intro h c
  unfold Act.test
  cases m.test p <;> rfl

theorem Quiet.disk : Quiet Act.disk := fun _ _ => rfl

end Act

namespace Tree

open Act

theorem ensureDir_quiet (dir : String) : Quiet (ensureDir dir) := by
  unfold ensureDir
  refine Quiet.bind (Quiet.ask _ _ _) fun k => ?_
  split
  · exact Quiet.bind (Quiet.change _ _ _) fun _ => Quiet.change _ _ _
  · exact Quiet.change _ _ _

theorem copyLeaf_quiet (src dst : String) (kind : Kind) : Quiet (copyLeaf src dst kind) := by
  unfold copyLeaf
  cases kind with
  | link t =>
    refine Quiet.bind (Quiet.ask _ _ _) fun t => Quiet.bind (Quiet.ask _ _ _) fun k => ?_
    split
    · exact Quiet.bind (Quiet.change _ _ _) fun _ => Quiet.bind (Quiet.change _ _ _) fun _ =>
        Quiet.pure _
    · exact Quiet.bind (Quiet.change _ _ _) fun _ => Quiet.pure _
  | file c mode =>
    refine Quiet.bind (Quiet.ask _ _ _) fun k => ?_
    split
    · exact Quiet.bind (Quiet.change _ _ _) fun _ =>
        Quiet.bind (Quiet.changeOrStall _ _ _ _) fun _ => Quiet.pure _
    · exact Quiet.bind (Quiet.changeOrStall _ _ _ _) fun _ => Quiet.pure _
  | dir => exact Quiet.pure _
  | fifo => exact Quiet.pure _

/-- The copy never reads or writes the messages, whatever its fuel. -/
theorem copy_quiet (f : Nat) : (∀ src dst, Quiet (copyIn f src dst)) ∧
    ∀ src dst cs, Quiet (copyEntries f src dst cs) := by
  induction f with
  | zero =>
    refine ⟨fun src dst => ?_, fun src dst cs => ?_⟩
    · rw [copyIn]
      exact Quiet.pure _
    · rw [copyEntries]
      exact Quiet.pure _
  | succ f ih =>
    refine ⟨fun src dst => ?_, fun src dst cs => ?_⟩
    · rw [copyIn]
      exact Quiet.bind (Quiet.ask _ _ _) fun cs => ih.2 _ _ _
    · rcases cs with _ | ⟨⟨name, kind⟩, rest⟩
      · rw [copyEntries]
        exact Quiet.pure _
      have hrest : ∀ here : Nat, Quiet (copyEntries f src dst rest >>= fun more => pure (here + more)) :=
        fun here => Quiet.bind (ih.2 _ _ _) fun _ => Quiet.pure _
      by_cases hkd : kind = .dir
      · subst hkd
        rw [copyEntries]
        exact Quiet.bind (ensureDir_quiet _) fun _ => Quiet.bind (ih.1 _ _) hrest
      · rw [copyEntries]
        swap
        · exact hkd
        refine Quiet.bind (copyLeaf_quiet _ _ _) fun b => ?_
        split
        · exact Quiet.bind (Quiet.pure _) hrest
        · exact Quiet.bind (Quiet.pure _) hrest

/-- Copying the kept entries never reads or writes the messages, whatever its fuel. -/
theorem preserve_quiet (keep : PathMatcher) (f : Nat) :
    (∀ src dst, Quiet (preserveIn keep f src dst)) ∧
      ∀ src dst cs, Quiet (preserveEntries keep f src dst cs) := by
  induction f with
  | zero =>
    refine ⟨fun src dst => ?_, fun src dst cs => ?_⟩
    · rw [preserveIn]
      exact Quiet.pure _
    · rw [preserveEntries]
      exact Quiet.pure _
  | succ f ih =>
    refine ⟨fun src dst => ?_, fun src dst cs => ?_⟩
    · rw [preserveIn]
      exact Quiet.bind (Quiet.ask _ _ _) fun cs => ih.2 _ _ _
    · rcases cs with _ | ⟨⟨name, kind⟩, rest⟩
      · rw [preserveEntries]
        exact Quiet.pure _
      have hrest : ∀ here : Bool × Nat, Quiet (preserveEntries keep f src dst rest >>= fun more =>
          pure (here.1 || more.1, here.2 + more.2)) :=
        fun here => Quiet.bind (ih.2 _ _ _) fun _ => Quiet.pure _
      by_cases hkd : kind = .dir
      · subst hkd
        rw [preserveEntries]
        dsimp only
        refine Quiet.bind (ih.1 _ _) fun r => ?_
        -- whether the directory is kept, then made, then the other entries
        have hmake : ∀ kept : Bool, Quiet (if kept = true then do
              ensureDir (Path.join [dst, name])
              let here ← (Pure.pure (kept, r.2) : Act (Bool × Nat))
              let more ← preserveEntries keep f src dst rest
              Pure.pure (here.1 || more.1, here.2 + more.2)
            else do
              let here ← (Pure.pure (kept, r.2) : Act (Bool × Nat))
              let more ← preserveEntries keep f src dst rest
              Pure.pure (here.1 || more.1, here.2 + more.2)) := by
          intro kept
          split
          · exact Quiet.bind (ensureDir_quiet _) fun _ => Quiet.bind (Quiet.pure _) hrest
          · exact Quiet.bind (Quiet.pure _) hrest
        split
        · exact Quiet.bind (Quiet.pure _) hmake
        · exact Quiet.bind (Quiet.test _ _) hmake
      · rw [preserveEntries]
        swap
        · exact hkd
        dsimp only
        refine Quiet.bind (Quiet.test _ _) fun b => ?_
        split
        · exact Quiet.bind (ensureDir_quiet _) fun _ => Quiet.bind (copyLeaf_quiet _ _ _)
            fun _ => Quiet.bind (Quiet.pure _) hrest
        · exact Quiet.bind (Quiet.pure _) hrest

theorem buildStaging_quiet (root outputTree : String) (keep : PathMatcher) (staging : String) :
    Quiet (buildStaging root outputTree keep staging) := by
  unfold buildStaging copyPreserved copyRecursively
  refine Quiet.bind (Quiet.change _ _ _) fun _ => Quiet.bind (Quiet.bind Quiet.disk fun _ =>
    Quiet.bind ((preserve_quiet keep _).1 _ _) fun _ => Quiet.pure _) fun _ => ?_
  exact Quiet.bind (Quiet.bind (Quiet.change _ _ _) fun _ => Quiet.bind Quiet.disk fun _ =>
    (copy_quiet _).1 _ _) fun _ => Quiet.pure _

open Disk FolderSink.Path

/-- The name of a sibling of a place with names is a name an entry can have. -/
theorem isName_sibling {T : Place} (hT : ∀ m ∈ T, IsName m) {label stamp : String}
    (hl : '/' ∉ label.toList) (hs : '/' ∉ stamp.toList) :
    IsName ("." ++ basename (ofPlace T) ++ "." ++ label ++ "-" ++ stamp) := by
  have hb : '/' ∉ (basename (ofPlace T)).toList := by
    rcases List.eq_nil_or_concat' T with rfl | ⟨T', b, rfl⟩
    · simp [ofPlace, basename]
    · rw [basename_ofPlace (hT b (by simp))]
      exact (hT b (by simp)).2.2.2
  -- the name is at least three characters long: two dots and a dash
  have hlen : ∀ s : String, "." ++ basename (ofPlace T) ++ "." ++ label ++ "-" ++ stamp = s →
      2 < s.toList.length := by
    rintro s rfl
    simp
    omega
  refine ⟨fun h => ?_, fun h => ?_, fun h => ?_, by simp [hb, hl, hs]⟩
  · simpa using hlen _ h
  · simpa using hlen _ h
  · simpa using hlen _ h

/-- The sibling of a place with names lies one name beside it. -/
theorem siblingPath_ofPlace {T : Place} (hT : ∀ m ∈ T, IsName m) {label stamp : String}
    (hname : IsName ("." ++ basename (ofPlace T) ++ "." ++ label ++ "-" ++ stamp)) :
    siblingPath (ofPlace T) label stamp =
      ofPlace (T.dropLast ++ ["." ++ basename (ofPlace T) ++ "." ++ label ++ "-" ++ stamp]) := by
  unfold siblingPath
  rcases List.eq_nil_or_concat' T with rfl | ⟨T', b, rfl⟩
  · rw [show dirname (ofPlace []) = ofPlace [] by simp [ofPlace, dirname]]
    exact join_ofPlace (by simp) hname
  · have hT' : ∀ m ∈ T', IsName m := fun m hm => hT m (by simp [hm])
    rw [dirname_ofPlace hT' (hT b (by simp)), List.dropLast_concat]
    exact join_ofPlace hT' hname

/-- Making a directory at a free place whose parent is a directory puts an empty directory
there and changes nothing else. -/
theorem mkdir_fresh {d : Disk} {S : Place} (hwf : d.Wf) (hS : S ≠ []) (hSn : ∀ m ∈ S, IsName m)
    (hpar : d.get? S.dropLast = some .dir) (hfree : d.get? S = none) :
    d.mkdir (ofPlace S) = .ok (d.put S .dir) ∧ SetsAt S (some .dir) d (d.put S .dir) ∧
      ∀ q, Under S q → (d.put S .dir).get? q = none := by
  have hset := setsAt_put hwf hS hSn hpar (.inl rfl)
  refine ⟨?_, hset, fun q hq => ?_⟩
  · obtain ⟨P, s, rfl⟩ := (List.eq_nil_or_concat' S).resolve_left hS
    rw [List.dropLast_concat] at hpar
    exact mkdir_child (fun m hm => hSn m (by simp [hm])) (hSn s (by simp))
      (leadsTo_self hwf hpar) hfree
  · rw [hset.other q fun he => hq.2 he.symm]
    exact hwf.none_under (by simp [hfree]) hq

section staging

variable {h : Host} {S : Place}

theorem copyPreserved_stays (root : String) (keep : PathMatcher) (hwf : h.disk.Wf) (hS : S ≠ [])
    (hSdir : h.disk.get? S = some .dir) (hempty : ∀ q, Under S q → h.disk.get? q = none) :
    (copyPreserved root (ofPlace S) keep).Stays h (SameOff (Under S) h.disk) := by
  unfold copyPreserved
  refine Stays.run_bind run_disk (Stays.bind (((preserve_frames _).1 S root h hwf hS
    (hwf.names_of_get? hSdir) (hwf.openTo hSdir) hempty).mono fun d h' => h'.sameOff hwf hSdir)
    (fun _ h' => h') fun r h₁ _ hs => ?_)
  obtain ⟨_, n⟩ := r
  exact Stays.pure _ hs

theorem copyRecursively_stays (src : String) (hwf : h.disk.Wf) (hSdir : h.disk.get? S = some .dir) :
    (copyRecursively src (ofPlace S)).Stays h (SameOff (Under S) h.disk) := by
  unfold copyRecursively
  refine Stays.run_bind (run_change_ok (mkdirs_of_leadsTo (leadsTo_self hwf hSdir))) ?_
  exact Stays.run_bind run_disk ((copy_frames _).1 S src _ hwf hSdir)

/-- The build of a staged write, in a fresh place beside the directory `S.dropLast`, makes a
directory there and changes nothing but what is below it, however it ends. -/
theorem buildStaging_stays_below (root outputTree : String) (keep : PathMatcher)
    (hwf : h.disk.Wf) (hS : S ≠ []) (hSn : ∀ m ∈ S, IsName m)
    (hpar : h.disk.get? S.dropLast = some .dir) (hfree : h.disk.get? S = none) :
    (buildStaging root outputTree keep (ofPlace S)).Stays h
      (SameOff (Under S) (h.disk.put S .dir)) := by
  obtain ⟨hmk, hset, hempty⟩ := mkdir_fresh hwf hS hSn hpar hfree
  unfold buildStaging
  refine Stays.run_bind (run_change_ok hmk) (Stays.bind (copyPreserved_stays root keep hset.wf hS
    hset.here hempty) (fun _ h' => h') fun _ h₁ _ hs => ?_)
  have hdir₁ : h₁.disk.get? S = some .dir :=
    (hs.2 _ (not_under_of_above (List.prefix_refl _))).trans hset.here
  exact Stays.bind (copyRecursively_stays outputTree hs.1 hdir₁) (fun d h' => hs.trans h')
    fun _ h₂ _ h' => Stays.pure _ (hs.trans h')

/-- The build of a staged write, in a fresh place beside the directory `S.dropLast`, changes
nothing but what is at or below that place, however it ends. -/
theorem buildStaging_stays (root outputTree : String) (keep : PathMatcher) (hwf : h.disk.Wf)
    (hS : S ≠ []) (hSn : ∀ m ∈ S, IsName m) (hpar : h.disk.get? S.dropLast = some .dir)
    (hfree : h.disk.get? S = none) :
    (buildStaging root outputTree keep (ofPlace S)).Stays h (SameOff (S <+: ·) h.disk) := by
  -- below the directory made, the build only adds and removes
  refine (buildStaging_stays_below root outputTree keep hwf hS hSn hpar hfree).mono
    fun d hd => ⟨hd.1, fun q hq => ?_⟩
  rw [hd.2 q fun hU => hq hU.1, get?_put hS,
    if_neg fun (he : q = S) => hq (he ▸ List.prefix_refl _)]

/-- Removing the tree at a place where nothing was, after work that changed only what is at
or below it, gives back every place as it was. -/
theorem removeAll_restores {d₀ d : Disk} (hwf₀ : d₀.Wf) (hS : S ≠ []) (hSn : ∀ m ∈ S, IsName m)
    (hpar : d₀.get? S.dropLast = some .dir) (hfree : d₀.get? S = none)
    (hs : SameOff (S <+: ·) d₀ d) : ∀ q, (d.removeAll (ofPlace S)).get? q = d₀.get? q := by
  obtain ⟨P, s, rfl⟩ := (List.eq_nil_or_concat' S).resolve_left hS
  rw [List.dropLast_concat] at hpar
  have hPn : ∀ m ∈ P, IsName m := fun m hm => hSn m (by simp [hm])
  have hpar' : d.get? P = some .dir :=
    (hs.2 P (not_prefix_of_append (by simp))).trans hpar
  -- nothing was at or below the place
  have hnone₀ : ∀ q, P ++ [s] <+: q → d₀.get? q = none := fun q hq => by
    rcases eq_or_ne (P ++ [s]) q with rfl | hne
    · exact hfree
    · exact hwf₀.none_under (by simp [hfree]) ⟨hq, hne⟩
  intro q
  cases hk : d.get? (P ++ [s]) with
  | none =>
    rw [removeAll_child_none hPn (hSn s (by simp)) (leadsTo_self hs.1 hpar') hk]
    by_cases hq : P ++ [s] <+: q
    · rw [hnone₀ q hq]
      rcases eq_or_ne (P ++ [s]) q with rfl | hne
      · exact hk
      · exact hs.1.none_under (by simp [hk]) ⟨hq, hne⟩
    · exact hs.2 q hq
  | some k =>
    rw [removeAll_child hPn (hSn s (by simp)) (leadsTo_self hs.1 hpar') hk, get?_removeTree hS]
    split
    · exact (hnone₀ q ‹_›).symm
    · exact hs.2 q ‹_›

/-- A staged write whose build fails rethrows that failure, with every place of the disk as it
was before the write: the build wrote only at or below the staging place, where nothing was,
and that tree is removed. -/
theorem stagedWrite_of_build_failure {root outputTree t : String} {stamps : Stamps} {keep : PathMatcher}
    {e : Failure} (hwf : h.disk.Wf) (hstamp : '/' ∉ stamps.staging.toList)
    (hreal : h.disk.realpath root = .ok t)
    (hfree : h.disk.lstat? (siblingPath t "staging" stamps.staging) = .ok none)
    (hbuild : ((buildStaging root outputTree keep (siblingPath t "staging" stamps.staging)).run.run h).1 =
      .error e) :
    ∃ h', (stagedWrite root outputTree keep stamps).run.run h = (.error e, h') ∧
      ∀ q, h'.disk.get? q = h.disk.get? q := by
  obtain ⟨T, hT, rfl⟩ := realpath_realPlace hwf hreal
  -- the real place has names, and the directory above it is where the staging place goes
  have hTn : ∀ m ∈ T, IsName m := by
    rcases hT with rfl | ⟨k, hk, -⟩
    · simp
    · exact hwf.names_of_get? hk
  have hpar : h.disk.get? T.dropLast = some .dir := by
    rcases eq_or_ne T [] with rfl | hne
    · rfl
    · obtain ⟨k, hk, -⟩ := hT.resolve_left hne
      exact hwf.get?_dropLast hne hk
  have hname : IsName ("." ++ basename (ofPlace T) ++ "." ++ "staging" ++ "-" ++ stamps.staging) :=
    isName_sibling hTn (by decide) hstamp
  have hsib := siblingPath_ofPlace hTn hname
  have hSn : ∀ m ∈ T.dropLast ++ ["." ++ basename (ofPlace T) ++ "." ++ "staging" ++ "-" ++ stamps.staging],
      IsName m := List.forall_mem_append.mpr ⟨fun m hm => hTn m ((List.dropLast_prefix T).subset hm),
        by simpa using hname⟩
  rw [hsib] at hfree hbuild
  have hSfree := hfree
  rw [lstat?_child (fun m hm => hTn m ((List.dropLast_prefix T).subset hm)) hname
    (leadsTo_self hwf hpar)] at hSfree
  set S := T.dropLast ++ ["." ++ basename (ofPlace T) ++ "." ++ "staging" ++ "-" ++ stamps.staging]
    with hSdef
  have hS0 : S ≠ [] := by simp [S]
  have hSpar : h.disk.get? S.dropLast = some .dir := by simpa [S] using hpar
  have hstays := buildStaging_stays root outputTree keep hwf hS0 hSn hSpar (Except.ok.inj hSfree)
  obtain ⟨hb, hrunb⟩ : ∃ hb, (buildStaging root outputTree keep (ofPlace S)).run.run h =
      (.error e, hb) := ⟨_, Prod.ext hbuild rfl⟩
  have hsame : SameOff (S <+: ·) h.disk hb.disk := by
    unfold Stays at hstays
    rwa [hrunb] at hstays
  refine ⟨{ hb with disk := hb.disk.removeAll (ofPlace S) }, ?_,
    removeAll_restores hwf hS0 hSn hSpar (Except.ok.inj hSfree) hsame⟩
  unfold stagedWrite
  rw [run_bind_ok (run_ask_ok hreal)]
  dsimp only
  rw [hsib, run_bind_error (run_tryCatch_error hrunb)]

/-- Copying a tree whose path leads to nothing fails, once the destination is a directory. -/
theorem copyRecursively_missing {Q P : Place} {n : String} (hwf : h.disk.Wf)
    (hSdir : h.disk.get? S = some .dir) (hQ : ∀ m ∈ Q, IsName m) (hn : IsName n)
    (hdir : h.disk.LeadsTo Q P) (hk : h.disk.get? (P ++ [n]) = none) :
    (copyRecursively (ofPlace (Q ++ [n])) (ofPlace S)).Fails h := by
  have hread : h.disk.readdir (ofPlace (Q ++ [n])) =
      .error ⟨.ENOENT, "scandir", ofPlace (Q ++ [n]), none⟩ := by
    simp [readdir, lookup_child hQ hn hdir (by simp [hk]), hk]
  unfold copyRecursively
  refine Fails.run_bind (run_change_ok (mkdirs_of_leadsTo (leadsTo_self hwf hSdir)))
    (Fails.run_bind run_disk ?_)
  rw [show 2 * h.disk.entries.length + 2 = (2 * h.disk.entries.length + 1) + 1 by omega, copyIn]
  exact Fails.bind_left ⟨_, _, by rw [readEntries, run_ask, hread]⟩

/-- The build of a staged write of a tree that is missing fails. -/
theorem buildStaging_missing_tree {Q P : Place} {n : String} (root : String) (keep : PathMatcher)
    (hwf : h.disk.Wf) (hS : S ≠ []) (hSn : ∀ m ∈ S, IsName m)
    (hpar : h.disk.get? S.dropLast = some .dir) (hfree : h.disk.get? S = none)
    (hQ : ∀ m ∈ Q, IsName m) (hn : IsName n) (hdir : h.disk.LeadsTo Q P)
    (hk : h.disk.get? (P ++ [n]) = none) (hne : P ++ [n] ≠ S) :
    ∃ e, ((buildStaging root (ofPlace (Q ++ [n])) keep (ofPlace S)).run.run h).1 = .error e := by
  obtain ⟨hmk, hset, hempty⟩ := mkdir_fresh hwf hS hSn hpar hfree
  obtain ⟨S', s, rfl⟩ := (List.eq_nil_or_concat' S).resolve_left hS
  -- nothing was at or below the staging place, and the tree's place is not there
  have hnone : ∀ q, S' ++ [s] <+: q → h.disk.get? q = none := fun q hq => by
    rcases eq_or_ne (S' ++ [s]) q with rfl | hne'
    · exact hfree
    · exact hwf.none_under (by simp [hfree]) ⟨hq, hne'⟩
  have hPdir := (hdir.dir hwf).1
  have hout : ¬ Under (S' ++ [s]) (P ++ [n]) := fun hU => by
    rcases List.prefix_concat_iff.mp hU.1 with he | hSP
    · exact hU.2 he
    · rw [hnone P hSP] at hPdir
      cases hPdir
  unfold buildStaging
  rw [run_bind_ok (run_change_ok hmk)]
  rcases hp : (copyPreserved root (ofPlace (S' ++ [s])) keep).run.run
      { h with disk := h.disk.put (S' ++ [s]) .dir } with ⟨_ | r, h₂⟩
  · exact ⟨_, by rw [run_bind_error hp]⟩
  · have hs : SameOff (Under (S' ++ [s])) (h.disk.put (S' ++ [s]) .dir) h₂.disk := by
      have hst := copyPreserved_stays (h := { h with disk := h.disk.put (S' ++ [s]) .dir }) root keep
        hset.wf hS hset.here hempty
      unfold Stays at hst
      rwa [hp] at hst
    -- every entry there was is still there, so the tree's path still leads nowhere
    have hsub : ∀ q k, h.disk.get? q = some k → h₂.disk.get? q = some k := fun q k hq => by
      have hq' : ¬ S' ++ [s] <+: q := fun h' => by rw [hnone q h'] at hq; cases hq
      rw [hs.2 q fun hU => hq' hU.1, hset.other q fun he => hq' (he ▸ List.prefix_refl _), hq]
    have hdir₂ : h₂.disk.get? (S' ++ [s]) = some .dir :=
      (hs.2 _ (not_under_of_above (List.prefix_refl _))).trans hset.here
    have hk₂ : h₂.disk.get? (P ++ [n]) = none := by
      rw [hs.2 _ hout, hset.other _ hne, hk]
    obtain ⟨e, h₃, hr⟩ := copyRecursively_missing hs.1 hdir₂ hQ hn (hdir.grow hwf hsub) hk₂
    exact ⟨e, by rw [run_bind_ok hp, run_bind_error hr]⟩

end staging

end Tree

namespace Writer

open Act

variable {w : Writer} {o : String} {excluded : List Utf16} {stamps : Tree.Stamps}

/-- In atomic mode, once the folder is made, a write announces the staging and runs the staged
write; when that swaps or fails, whatever was reported before it, the write ends as it does. -/
theorem run_of_staged {h₀ : Host} {d₁ : Disk}
    {Q : Except Failure Tree.StagedOutcome → Host → Prop}
    (hatomic : w.atomic = true) (hmk : h₀.disk.mkdirs w.localFolder = .ok d₁)
    (hstaged : ∀ c, ∃ r h', (Tree.stagedWrite w.localFolder o ⟨Host.workDir, w.localFolder, excluded⟩ stamps).run.run
      ⟨d₁, c⟩ = (r, h') ∧ r ≠ .ok .unsupported ∧ Q r h') :
    ∃ r h', (w.run o excluded stamps).run.run h₀ = (r.map fun _ => (), h') ∧ Q r h' := by
  -- the console when the staged write starts: two announcements
  obtain ⟨r, h', hst, hr, hQ⟩ := hstaged ((h₀.console.say .progress
    ("FolderDestination: creating " ++ w.localFolder)).say .progress
      ("FolderDestination: staging contents of the workdir for " ++ w.localFolder))
  refine ⟨r, h', ?_, hQ⟩
  unfold Writer.run
  dsimp only
  rw [run_bind_ok (run_say _ _), run_bind_ok (Tree.ensureDestinationDirectory_run (by exact hmk))]
  simp only [hatomic, ↓reduceIte]
  rw [run_bind_ok (run_say _ _)]
  rcases r with e | _ | _
  · rw [run_bind_error hst]
    rfl
  · rw [run_bind_ok hst]
    rfl
  · exact absurd rfl hr

/-- In atomic mode, a write whose staged write fails ends failed with that failure, on the
disk that the staged write left: before it, the folder was made and nothing else done. -/
theorem write_of_staged_failure {h₀ : Host} {d₁ : Disk} {e : Failure} {P : Disk → Prop}
    (hatomic : w.atomic = true) (hmk : h₀.disk.mkdirs w.localFolder = .ok d₁)
    (hstaged : ∀ c, ∃ h', (Tree.stagedWrite w.localFolder o ⟨Host.workDir, w.localFolder, excluded⟩ stamps).run.run
      ⟨d₁, c⟩ = (.error e, h') ∧ P h'.disk) :
    ∃ h', (w.write o excluded stamps).run h₀ = (({ w with state := .failed }, .error e), h') ∧
      P h'.disk := by
  obtain ⟨_, h', hrun, rfl, hP⟩ := run_of_staged (Q := fun r h' => r = .error e ∧ P h'.disk)
    hatomic hmk fun c => by
      obtain ⟨h', hst, hP⟩ := hstaged c
      exact ⟨_, h', hst, by simp, rfl, hP⟩
  refine ⟨h', ?_, hP⟩
  simp only [Writer.write, StateT.run_bind, hrun]
  rfl

end Writer

open FolderSink.Tree Act Disk FolderSink.Path in
/-- A staged write that fails while it builds its staging directory is atomic. From a well
formed disk with nothing at the staging sibling of the root's real path, and a stamp that
adds no slash, a build failing with `e` makes the staged write fail with `e`, with every
place of the disk as before: the root's tree is unchanged and no staging sibling is left. A
writer in atomic mode that gets to that disk by making its folder then ends failed with `e`,
with nothing changed but the folder made. -/
theorem staged_build_failure_restores {root outputTree t : String} {stamps : Stamps} {keep : PathMatcher}
    {h : Host} {e : Failure} (hwf : h.disk.Wf) (hstamp : '/' ∉ stamps.staging.toList)
    (hreal : h.disk.realpath root = .ok t)
    (hfree : h.disk.lstat? (siblingPath t "staging" stamps.staging) = .ok none)
    (hbuild : ((buildStaging root outputTree keep (siblingPath t "staging" stamps.staging)).run.run h).1 =
      .error e) :
    (∃ h', (stagedWrite root outputTree keep stamps).run.run h = (.error e, h') ∧
      ∀ q, h'.disk.get? q = h.disk.get? q) ∧
    ∀ (w : Writer) (excluded : List Utf16) (h₀ : Host), w.atomic = true → w.localFolder = root →
      keep = ⟨Host.workDir, root, excluded⟩ → h₀.disk.mkdirs root = .ok h.disk →
      ∃ h', (w.write outputTree excluded stamps).run h₀ =
        (({ w with state := .failed }, .error e), h') ∧ ∀ q, h'.disk.get? q = h.disk.get? q := by
  -- the build, and so the staged write, does the same whatever was reported before it
  have hstaged : ∀ c, ∃ h', (stagedWrite root outputTree keep stamps).run.run ⟨h.disk, c⟩ =
      (.error e, h') ∧ ∀ q, h'.disk.get? q = h.disk.get? q := fun c =>
    stagedWrite_of_build_failure (h := ⟨h.disk, c⟩) hwf hstamp hreal hfree
      (by rw [buildStaging_quiet _ _ _ _ h c]; exact hbuild)
  refine ⟨hstaged h.console, ?_⟩
  intro w excluded h₀ hatomic hloc hkeep hmk
  subst hloc hkeep
  exact Writer.write_of_staged_failure (P := fun d => ∀ q, d.get? q = h.disk.get? q) hatomic hmk
    hstaged

open FolderSink.Tree Act Disk FolderSink.Path in
/-- Staging a write of a missing output tree into a folder `/r` fails and gives the disk back. -/
theorem staged_write_of_missing_tree_restores :
    ∃ e, ((buildStaging (ofPlace ["r"]) (ofPlace ["o"]) ⟨Host.workDir, ofPlace ["r"], []⟩
        (siblingPath (ofPlace ["r"]) "staging" "1")).run.run
          (⟨⟨[(["r"], .dir)]⟩, []⟩ : Host)).1 = .error e ∧
      ((∃ h', (stagedWrite (ofPlace ["r"]) (ofPlace ["o"]) ⟨Host.workDir, ofPlace ["r"], []⟩ ⟨"1", "1"⟩).run.run
          ⟨⟨[(["r"], .dir)]⟩, []⟩ = (.error e, h') ∧
          ∀ q, h'.disk.get? q = (⟨[(["r"], .dir)]⟩ : Disk).get? q) ∧
        ∀ (w : Writer) (excluded : List Utf16) (h₀ : Host), w.atomic = true →
          w.localFolder = ofPlace ["r"] → (⟨Host.workDir, ofPlace ["r"], []⟩ : PathMatcher) = ⟨Host.workDir, ofPlace ["r"], excluded⟩ →
          h₀.disk.mkdirs (ofPlace ["r"]) = .ok ⟨[(["r"], .dir)]⟩ →
          ∃ h', (w.write (ofPlace ["o"]) excluded ⟨"1", "1"⟩).run h₀ =
            (({ w with state := .failed }, .error e), h') ∧
            ∀ q, h'.disk.get? q = (⟨[(["r"], .dir)]⟩ : Disk).get? q) := by
  have hwf : (⟨[(["r"], .dir)]⟩ : Disk).Wf := ⟨by decide, by decide, by decide, by decide⟩
  have hreal := realpath_of_dir hwf (P := ["r"]) (by simp) (by decide)
  have hname : IsName ("." ++ basename (ofPlace ["r"]) ++ "." ++ "staging" ++ "-" ++ "1") := by
    decide
  have hsib := siblingPath_ofPlace (T := ["r"]) (by decide) hname
  simp only [List.dropLast_singleton, List.nil_append] at hsib
  have hfree : (⟨[(["r"], .dir)]⟩ : Disk).lstat? (siblingPath (ofPlace ["r"]) "staging" "1") =
      .ok none := by
    have hl := lstat?_child (d := ⟨[(["r"], .dir)]⟩) (Q := []) (P := []) (by simp) hname
      leadsTo_root
    rw [List.nil_append] at hl
    rw [hsib, hl]
    decide
  obtain ⟨e, hbuild⟩ := buildStaging_missing_tree (h := ⟨⟨[(["r"], .dir)]⟩, []⟩)
    (S := ["." ++ basename (ofPlace ["r"]) ++ "." ++ "staging" ++ "-" ++ "1"]) (Q := []) (P := [])
    (n := "o") (ofPlace ["r"]) ⟨Host.workDir, ofPlace ["r"], []⟩ hwf (by simp) (by simpa using hname)
    (by decide) (by decide) (by simp) (by decide) leadsTo_root (by decide) (by decide)
  rw [← hsib, List.nil_append] at hbuild
  exact ⟨e, hbuild, staged_build_failure_restores hwf (by decide) hreal hfree hbuild⟩

end FolderSink
