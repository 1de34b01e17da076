import FolderSink.Disk.Calls
import FolderSink.Proofs.Disk.Walk
import Mathlib.Data.List.Induction
/-!
What the calls of the file system do to an entry of a directory that a path leads to.
For a directory `P` led to by the path of `Q`, and a name `n`, the calls on the path of
`Q ++ [n]` act on the place `P ++ [n]`:

* `readdir_of_leadsTo`: reading the directory lists its children;
* `lstat?_child`, `unlink_child`, `rmdir_child`, `mkdirs_child_none`, `copyFile_child`,
  `symlink_child`, `readlink_child`: each call on the entry, by the kind found there;
* `mkdirs_of_leadsTo`: creating a directory that a path already leads to changes nothing.
-/

namespace FolderSink

namespace Disk

open FolderSink.Path

variable {d : Disk} {Q P : Place} {n : String}

/-- Not following the last link changes a walk only by stopping at that link. -/
theorem walk_unfollowed (f : Nat) (cur : Place) (cs : List String) (links : Nat) :
    d.walk f cur cs false links = d.walk f cur cs true links ∨
      ∃ here t, d.walk f cur cs false links = .ok (here, some (.link t)) := by
  induction f generalizing cur cs links with
  | zero => left; rfl
  | succ f ih =>
    cases cs with
    | nil => left; rfl
    | cons c cs =>
      rw [walk, walk]
      split
      · exact ih _ _ _
      · split
        · exact ih _ _ _
        · simp only
          cases hk : d.get? (cur ++ [c]) with
          | none => left; rfl
          | some k =>
            cases k with
            | dir => exact ih _ _ _
            | link t =>
              simp only [Bool.not_false, Bool.and_true, Bool.not_true, Bool.and_false,
                Bool.false_eq_true, ↓reduceIte]
              split
              · right; exact ⟨_, _, rfl⟩
              · split
                · left; rfl
                · split
                  · left; rfl
                  · exact ih _ _ _
            | file content mode => left; rfl
            | fifo => left; rfl

/-- A path that leads to a directory names an existing entry when its last link is not
followed. -/
theorem lookup_unfollowed_of_leadsTo (h : d.LeadsTo Q P) :
    ∃ place k, d.lookup (ofPlace Q) false = .ok (place, some k) := by
  unfold LeadsTo at h
  rw [lookup_eq_walk] at h ⊢
  rcases walk_unfollowed _ [] ((ofPlace Q).splitOn "/") 0 with heq | ⟨here, t, heq⟩
  · exact ⟨P, .dir, heq.trans h⟩
  · exact ⟨here, .link t, heq⟩

/-- The entries a directory lists have names an entry can have. -/
theorem Wf.readdir_names (hd : d.Wf) {p : String} {cs : List (String × Kind)}
    (h : d.readdir p = .ok cs) : ∀ c ∈ cs, IsName c.1 := by
  unfold readdir at h
  split at h
  · rename_i place _
    cases h
    intro c hc
    have hk := (mem_children hd).mp hc
    exact hd.names_of_get? hk c.1 (by simp)
  all_goals cases h

/-- The entries a directory lists have distinct names. -/
theorem Wf.readdir_nodup (hd : d.Wf) {p : String} {cs : List (String × Kind)}
    (h : d.readdir p = .ok cs) : (cs.map Prod.fst).Nodup := by
  unfold readdir at h
  split at h
  · cases h
    exact hd.nodup_children _
  all_goals cases h

theorem readdir_of_leadsTo (h : d.LeadsTo Q P) : d.readdir (ofPlace Q) = .ok (d.children P) := by
  unfold LeadsTo at h
  simp [readdir, h]

theorem mkdirsLoop_nil (d : Disk) (f : Nat) : d.mkdirsLoop f [] = .ok d := by
  cases f <;> rfl

section child

variable (hQ : ∀ m ∈ Q, IsName m) (hn : IsName n) (h : d.LeadsTo Q P)
include hQ hn h

theorem lookup_child_unfollowed :
    d.lookup (ofPlace (Q ++ [n])) false = .ok (P ++ [n], d.get? (P ++ [n])) :=
  lookup_child hQ hn h (by simp)

theorem lookup_child_followed (hk : ∀ t, d.get? (P ++ [n]) ≠ some (.link t)) :
    d.lookup (ofPlace (Q ++ [n])) true = .ok (P ++ [n], d.get? (P ++ [n])) :=
  lookup_child hQ hn h (fun _ => hk)

theorem lstat?_child : d.lstat? (ofPlace (Q ++ [n])) = .ok (d.get? (P ++ [n])) := by
  simp [lstat?, lookup_child_unfollowed hQ hn h]

/-- Unlinking removes an entry that is not a directory. -/
theorem unlink_child (hk : d.get? (P ++ [n]) = some k) (hdir : k ≠ .dir) :
    d.unlink (ofPlace (Q ++ [n])) = .ok (d.removeTree (P ++ [n])) := by
  simp only [unlink, lookup_child_unfollowed hQ hn h, hk]

/-- Unlinking a directory is refused. -/
theorem unlink_child_dir (hk : d.get? (P ++ [n]) = some .dir) :
    ∃ e, d.unlink (ofPlace (Q ++ [n])) = .error e := by
  simp [unlink, lookup_child_unfollowed hQ hn h, hk]

/-- Removing a directory with no entries removes it. -/
theorem rmdir_child (hk : d.get? (P ++ [n]) = some .dir) (hempty : d.children (P ++ [n]) = []) :
    d.rmdir (ofPlace (Q ++ [n])) = .ok (d.removeTree (P ++ [n])) := by
  simp [rmdir, lookup_child_unfollowed hQ hn h, hk, hempty]

/-- Whatever unlinking removes, it removes the entry with everything below it. -/
theorem unlink_child_ok {d' : Disk} (hok : d.unlink (ofPlace (Q ++ [n])) = .ok d') :
    d' = d.removeTree (P ++ [n]) := by
  unfold unlink at hok
  rw [lookup_child_unfollowed hQ hn h] at hok
  cases hk : d.get? (P ++ [n]) with
  | none => simp [hk] at hok
  | some k =>
    cases k <;> simp only [hk, reduceCtorEq, Except.ok.injEq] at hok <;> exact hok.symm

/-- Whatever removing a directory removes, it removes the entry with everything below it. -/
theorem rmdir_child_ok {d' : Disk} (hok : d.rmdir (ofPlace (Q ++ [n])) = .ok d') :
    d' = d.removeTree (P ++ [n]) := by
  cases hk : d.get? (P ++ [n]) with
  | none => simp [rmdir, lookup_child_unfollowed hQ hn h, hk] at hok
  | some k =>
    cases k with
    | dir =>
      by_cases hempty : d.children (P ++ [n]) = []
      · rw [rmdir_child hQ hn h hk hempty] at hok
        exact (Except.ok.inj hok).symm
      · simp [rmdir, lookup_child_unfollowed hQ hn h, hk, hempty] at hok
    | _ => simp [rmdir, lookup_child_unfollowed hQ hn h, hk] at hok

theorem readlink_child (hk : d.get? (P ++ [n]) = some (.link t)) :
    d.readlink (ofPlace (Q ++ [n])) = .ok t := by
  simp [readlink, lookup_child_unfollowed hQ hn h, hk]

/-- A link is made where nothing is. -/
theorem symlink_child (hk : d.get? (P ++ [n]) = none) (t : String) :
    d.symlink t (ofPlace (Q ++ [n])) = .ok (d.put (P ++ [n]) (.link t)) := by
  simp [symlink, lookup_child_unfollowed hQ hn h, hk]

/-- Creating a directory where nothing is makes it. -/
theorem mkdirs_child_none (hk : d.get? (P ++ [n]) = none) :
    d.mkdirs (ofPlace (Q ++ [n])) = .ok (d.put (P ++ [n]) .dir) := by
  unfold mkdirs
  rw [show 4 * (ofPlace (Q ++ [n])).length + 8 = (4 * (ofPlace (Q ++ [n])).length + 7) + 1
    by omega, mkdirsLoop]
  simp [mkdirCode, lookup_child_unfollowed hQ hn h, hk, mkdirsLoop_nil, Except.mapError]

/-- Creating a directory where one is changes nothing. -/
theorem mkdirs_child_dir (hk : d.get? (P ++ [n]) = some .dir) :
    d.mkdirs (ofPlace (Q ++ [n])) = .ok d := by
  unfold mkdirs
  rw [show 4 * (ofPlace (Q ++ [n])).length + 8 = (4 * (ofPlace (Q ++ [n])).length + 7) + 1
    by omega, mkdirsLoop]
  simp [mkdirCode, lookup_child_unfollowed hQ hn h, hk, mkdirsLoop_nil, Except.mapError,
    lookup_child_followed hQ hn h (by simp [hk])]

/-- Creating a directory where a file or another special file is, is refused. -/
theorem mkdirs_child_other (hk : d.get? (P ++ [n]) = some k) (hdir : k ≠ .dir)
    (hlink : ∀ t, k ≠ .link t) : ∃ e, d.mkdirs (ofPlace (Q ++ [n])) = .error e := by
  unfold mkdirs
  rw [show 4 * (ofPlace (Q ++ [n])).length + 8 = (4 * (ofPlace (Q ++ [n])).length + 7) + 1
    by omega, mkdirsLoop]
  have hf := lookup_child_followed hQ hn h (by simpa [hk] using hlink)
  cases k <;> simp_all [mkdirCode, lookup_child_unfollowed hQ hn h, Except.mapError]

/-- A file's content and mode are copied where no directory, no FIFO and no link is. -/
theorem copyFile_child {Q' P' : Place} {n' : String} (hQ' : ∀ m ∈ Q', IsName m)
    (hn' : IsName n') (h' : d.LeadsTo Q' P') (hsrc : d.get? (P' ++ [n']) = some (.file c mode))
    (hk : d.get? (P ++ [n]) ≠ some .dir) (hfifo : d.get? (P ++ [n]) ≠ some .fifo)
    (hlink : ∀ t, d.get? (P ++ [n]) ≠ some (.link t)) :
    d.copyFile (ofPlace (Q' ++ [n'])) (ofPlace (Q ++ [n])) =
      .ok (some (d.put (P ++ [n]) (.file c mode))) := by
  have hs := lookup_child_followed hQ' hn' h' (by simp [hsrc])
  cases hq : d.get? (P ++ [n]) with
  | none => simp [copyFile, hs, hsrc, lookup_child_followed hQ hn h hlink, hq]
  | some k => cases k <;> simp_all [copyFile, lookup_child_followed hQ hn h hlink]

/-- Copying a file onto a FIFO never returns: the FIFO is opened for writing and waits for a
reader. -/
theorem copyFile_child_fifo {Q' P' : Place} {n' : String} (hQ' : ∀ m ∈ Q', IsName m)
    (hn' : IsName n') (h' : d.LeadsTo Q' P') (hsrc : d.get? (P' ++ [n']) = some (.file c mode))
    (hk : d.get? (P ++ [n]) = some .fifo) :
    d.copyFile (ofPlace (Q' ++ [n'])) (ofPlace (Q ++ [n])) = .ok none := by
  have hs := lookup_child_followed hQ' hn' h' (by simp [hsrc])
  simp [copyFile, hs, hsrc, lookup_child_followed hQ hn h (by simp [hk]), hk]

/-- Copying a file onto a directory is refused. -/
theorem copyFile_child_dir {Q' P' : Place} {n' : String} (hQ' : ∀ m ∈ Q', IsName m)
    (hn' : IsName n') (h' : d.LeadsTo Q' P') (hsrc : d.get? (P' ++ [n']) = some (.file c mode))
    (hk : d.get? (P ++ [n]) = some .dir) :
    ∃ e, d.copyFile (ofPlace (Q' ++ [n'])) (ofPlace (Q ++ [n])) = .error e := by
  have hs := lookup_child_followed hQ' hn' h' (by simp [hsrc])
  simp [copyFile, hs, hsrc, lookup_child_followed hQ hn h (by simp [hk]), hk]

/-- Copying any source where no directory and no link is fails, never returns, or writes a
file there. -/
theorem copyFile_child_any (src : String) (hk : d.get? (P ++ [n]) ≠ some .dir)
    (hlink : ∀ t, d.get? (P ++ [n]) ≠ some (.link t)) :
    (∃ e, d.copyFile src (ofPlace (Q ++ [n])) = .error e) ∨
      d.copyFile src (ofPlace (Q ++ [n])) = .ok none ∨
      ∃ c mode, d.copyFile src (ofPlace (Q ++ [n])) = .ok (some (d.put (P ++ [n]) (.file c mode))) := by
  unfold copyFile
  rcases d.lookup src true with e | ⟨place, _ | k⟩
  · exact .inl ⟨_, rfl⟩
  · exact .inl ⟨_, rfl⟩
  · simp only [lookup_child_followed hQ hn h hlink]
    -- what the source is decides whether the destination is opened at all
    cases k with
    | dir => exact .inl ⟨_, rfl⟩
    | fifo => exact .inr (.inl rfl)
    | _ =>
      cases hq : d.get? (P ++ [n]) with
      | none => exact .inr (.inr ⟨_, _, rfl⟩)
      | some p =>
        cases p with
        | dir => exact absurd hq hk
        | fifo => exact .inr (.inl rfl)
        | _ => exact .inr (.inr ⟨_, _, rfl⟩)

/-- Copying any source onto a directory is refused, unless the source is a FIFO, whose
opening never returns. -/
theorem copyFile_child_dir_any (src : String) (hk : d.get? (P ++ [n]) = some .dir) :
    (∃ e, d.copyFile src (ofPlace (Q ++ [n])) = .error e) ∨
      d.copyFile src (ofPlace (Q ++ [n])) = .ok none := by
  unfold copyFile
  rcases d.lookup src true with e | ⟨place, _ | k⟩
  · exact .inl ⟨_, rfl⟩
  · exact .inl ⟨_, rfl⟩
  · cases k with
    | dir => exact .inl ⟨_, rfl⟩
    | fifo => exact .inr rfl
    | _ => simp [lookup_child_followed hQ hn h (by simp [hk]), hk]

/-- Making a link where an entry is, is refused. -/
theorem symlink_child_some (hk : d.get? (P ++ [n]) = some k) (t : String) :
    ∃ e, d.symlink t (ofPlace (Q ++ [n])) = .error e := by
  simp [symlink, lookup_child_unfollowed hQ hn h, hk]

/-- Making one directory where nothing is. -/
theorem mkdir_child (hk : d.get? (P ++ [n]) = none) :
    d.mkdir (ofPlace (Q ++ [n])) = .ok (d.put (P ++ [n]) .dir) := by
  simp [mkdir, mkdirCode, lookup_child_unfollowed hQ hn h, hk, Except.mapError]

/-- Removing a whole tree where an entry is. -/
theorem removeAll_child (hk : d.get? (P ++ [n]) = some k) :
    d.removeAll (ofPlace (Q ++ [n])) = d.removeTree (P ++ [n]) := by
  simp [removeAll, lookup_child_unfollowed hQ hn h, hk]

/-- Removing a tree where nothing is changes nothing. -/
theorem removeAll_child_none (hk : d.get? (P ++ [n]) = none) :
    d.removeAll (ofPlace (Q ++ [n])) = d := by
  simp [removeAll, lookup_child_unfollowed hQ hn h, hk]

/-- Renaming a directory to a place where nothing is, and that is not below it, moves the
directory with everything below it. -/
theorem rename_child_dir {Q' P' : Place} {n' : String} (hQ' : ∀ m ∈ Q', IsName m)
    (hn' : IsName n') (h' : d.LeadsTo Q' P') (hk : d.get? (P ++ [n]) = some .dir)
    (hk' : d.get? (P' ++ [n']) = none) (hbelow : ¬ P ++ [n] <+: P' ++ [n']) :
    d.rename (ofPlace (Q ++ [n])) (ofPlace (Q' ++ [n'])) =
      .ok (d.move (P ++ [n]) (P' ++ [n'])) := by
  have hne : P ++ [n] ≠ P' ++ [n'] := fun heq => hbelow (heq ▸ List.prefix_refl _)
  have hpre : (P ++ [n]).isPrefixOf (P' ++ [n']) = false := by
    rw [Bool.eq_false_iff]
    exact fun hp => hbelow (List.isPrefixOf_iff_prefix.mp hp)
  simp only [rename, lookup_child_unfollowed hQ hn h, lookup_child_unfollowed hQ' hn' h', hk, hk',
    beq_iff_eq, hne, ↓reduceIte, beq_self_eq_true, hpre, Bool.false_eq_true]

/-- A path exists when something that is not a link is at it. -/
theorem exists?_child (hk : ∀ t, d.get? (P ++ [n]) ≠ some (.link t)) :
    d.exists? (ofPlace (Q ++ [n])) = (d.get? (P ++ [n])).isSome := by
  simp only [exists?, lookup_child_followed hQ hn h hk]
  cases d.get? (P ++ [n]) <;> rfl

/-- The size of a file is the number of UTF-8 bytes of its content. -/
theorem size_child (hk : d.get? (P ++ [n]) = some (.file c mode)) :
    d.size (ofPlace (Q ++ [n])) = .ok c.utf8ByteSize := by
  simp [size, lookup_child_followed hQ hn h (by simp [hk]), hk]

/-- Appending to a file keeps its mode and extends its content. -/
theorem putFile_child_file (hk : d.get? (P ++ [n]) = some (.file c mode)) (text : String) :
    d.putFile (ofPlace (Q ++ [n])) text true = .ok (d.put (P ++ [n]) (.file (c ++ text) mode)) := by
  simp [putFile, lookup_child_followed hQ hn h (by simp [hk]), hk]

/-- Writing where nothing is creates a file with the default mode. -/
theorem putFile_child_none (hk : d.get? (P ++ [n]) = none) (text : String) (append : Bool) :
    d.putFile (ofPlace (Q ++ [n])) text append = .ok (d.put (P ++ [n]) (.file text newFileMode)) := by
  simp [putFile, lookup_child_followed hQ hn h (by simp [hk]), hk]

/-- Renaming what is not a directory to another place where no directory is moves it there,
replacing what was there. -/
theorem rename_child_leaf {Q' P' : Place} {n' : String} (hQ' : ∀ m ∈ Q', IsName m)
    (hn' : IsName n') (h' : d.LeadsTo Q' P') (hk : d.get? (P ++ [n]) = some k) (hdir : k ≠ .dir)
    (hk' : d.get? (P' ++ [n']) ≠ some .dir) (hne : P ++ [n] ≠ P' ++ [n']) :
    d.rename (ofPlace (Q ++ [n])) (ofPlace (Q' ++ [n'])) = .ok (d.move (P ++ [n]) (P' ++ [n'])) := by
  have hkd : (k == Kind.dir) = false := by simpa using hdir
  simp only [rename, lookup_child_unfollowed hQ hn h, lookup_child_unfollowed hQ' hn' h', hk,
    beq_iff_eq, hne, ↓reduceIte, hkd, Bool.false_eq_true]

end child

/-- Creating a directory that a path already leads to changes nothing. -/
theorem mkdirs_of_leadsTo (h : d.LeadsTo Q P) : d.mkdirs (ofPlace Q) = .ok d := by
  obtain ⟨place, k, hu⟩ := lookup_unfollowed_of_leadsTo h
  unfold LeadsTo at h
  unfold mkdirs
  rw [show 4 * (ofPlace Q).length + 8 = (4 * (ofPlace Q).length + 7) + 1 by omega, mkdirsLoop]
  simp [mkdirCode, hu, h, mkdirsLoop_nil, Except.mapError]

/-- The text before the last slash of the path of a place below a directory other than the
root is the path of that directory. -/
theorem beforeLastSlash_ofPlace {P : Place} {n : String} (hP : P ≠ []) (hn : IsName n) :
    beforeLastSlash (ofPlace (P ++ [n])) = ofPlace P := by
  have hcs := toList_ofPlace_snoc P n
  rw [if_neg hP] at hcs
  set pre := (ofPlace P).toList
  have hslash : ∀ c ∈ n.toList, c ≠ '/' := fun c hc h => hn.2.2.2 (h ▸ hc)
  -- past the slash before the name there is no slash; that one is found first
  have hnone : (((List.range n.toList.length).map (fun j => pre.length + 1 + j)).reverse.find?
      fun i => (pre ++ '/' :: n.toList)[i]? == some '/') = none := by
    rw [List.find?_eq_none]
    intro i hi
    simp only [List.mem_reverse, List.mem_map, List.mem_range] at hi
    obtain ⟨j, hj, rfl⟩ := hi
    rw [List.getElem?_append_right (by omega), show pre.length + 1 + j - pre.length = j + 1 by omega,
      List.getElem?_cons_succ, List.getElem?_eq_getElem hj]
    simpa using hslash _ (List.getElem_mem hj)
  have hfind : ((List.range (pre ++ '/' :: n.toList).length).reverse.find?
      fun i => (pre ++ '/' :: n.toList)[i]? == some '/') = some pre.length := by
    rw [show (pre ++ '/' :: n.toList).length = (pre.length + 1) + n.toList.length by simp; omega,
      List.range_add, List.reverse_append, List.find?_append, hnone, Option.none_or,
      List.range_succ, List.reverse_append]
    simp
  unfold beforeLastSlash
  simp only [hcs, hfind, List.take_left']
  simp [pre]

/-- Making one directory keeps a disk well formed: the lookup stops below a directory. -/
theorem Wf.mkdirCode (hd : d.Wf) {p : String} {d' : Disk} (h : d.mkdirCode p = .ok d') :
    d'.Wf := by
  unfold Disk.mkdirCode at h
  split at h
  · rename_i place heq
    obtain ⟨hk, hn, hpar⟩ := lookup_reaches hd heq
    simp only [Except.ok.injEq] at h
    subst h
    have hne : place ≠ [] := by
      rintro rfl
      simp at hk
    exact hd.put hne hn hpar (.inl rfl)
  · simp at h
  · simp at h

/-- Making a directory and its parents keeps a disk well formed. -/
theorem Wf.mkdirsLoop (hd : d.Wf) {d' : Disk} :
    ∀ f pending, d.mkdirsLoop f pending = .ok d' → d'.Wf := by
  intro f
  induction f generalizing d with
  | zero =>
    intro pending h
    simp only [Disk.mkdirsLoop, Except.ok.injEq] at h
    exact h ▸ hd
  | succ f ih =>
    intro pending h
    cases pending with
    | nil =>
      simp only [Disk.mkdirsLoop, Except.ok.injEq] at h
      exact h ▸ hd
    | cons next pending =>
      rw [Disk.mkdirsLoop] at h
      simp only at h
      split at h
      · exact ih (hd.mkdirCode ‹_›) _ h
      · simp at h
      · split at h
        · exact ih hd _ h
        · split at h
          · -- the path itself: fine when a directory is there
            split at h
            · exact ih hd _ h
            all_goals simp at h
          · exact ih hd _ h
      · split at h
        · exact ih hd _ h
        all_goals simp at h

theorem Wf.mkdirs (hd : d.Wf) {p : String} {d' : Disk} (h : d.mkdirs p = .ok d') : d'.Wf := by
  unfold Disk.mkdirs at h
  cases hl : d.mkdirsLoop (4 * p.length + 8) [p] with
  | error e => simp [hl, Except.mapError] at h
  | ok d'' =>
    simp only [hl, Except.mapError, Except.ok.injEq] at h
    exact h ▸ hd.mkdirsLoop _ _ hl

section way

/-! Making a directory whose parents may be missing: every place on the way down to it that
is missing is made, from the top down. -/

variable {A : Place}

/-- The path of a place is at least as long as the place has names. -/
theorem length_le_ofPlace (P : Place) : P.length ≤ (ofPlace P).length := by
  induction P using List.reverseRecOn with
  | nil => simp
  | append_singleton P n ih =>
    rw [← String.length_toList, toList_ofPlace_snoc]
    split
    · rename_i hP
      subst hP
      simp
    · have := @String.length_toList (ofPlace P)
      simp
      omega

theorem ofPlace_ne_snoc {P : Place} (hP : P ≠ []) (n : String) :
    ofPlace P ≠ ofPlace (P ++ [n]) := by
  intro heq
  have h := congrArg String.toList heq
  rw [toList_ofPlace_snoc, if_neg hP] at h
  simp at h

theorem not_prefix_of_append {x : Place} (hx : x ≠ []) : ¬ A ++ x <+: A := fun h => by
  have hlen := h.length_le
  rw [List.length_append] at hlen
  have : x.length ≠ 0 := by simpa using hx
  omega

/-- Below a directory `A` that the path of `X` leads to, the names `B` are all missing: the
loop stacks the parents it finds missing, then makes each of them from the top down, and goes
on with what was pending. The path of `X ++ B` then leads to the directory `A ++ B`. -/
theorem mkdirsLoop_chain (hd : d.Wf) {X : Place} (hX : ∀ m ∈ X, IsName m) (hlead : d.LeadsTo X A) :
    ∀ B : Place, B ≠ [] → (∀ m ∈ B, IsName m) →
      (∀ x, x ≠ [] → x <+: B → d.get? (A ++ x) = none) → ∀ f pending, ∃ d' : Disk, d'.Wf ∧
        (∀ q, d'.get? q = if q <+: A ++ B ∧ ¬ q <+: A then some .dir else d.get? q) ∧
        d'.LeadsTo (X ++ B) (A ++ B) ∧
        d.mkdirsLoop (f + 2 * B.length) (ofPlace (X ++ B) :: pending) =
          d'.mkdirsLoop (f + 1) pending := by
  obtain ⟨hA, hAn⟩ := hlead.dir hd
  intro B
  induction B using List.reverseRecOn with
  | nil => intro h; exact absurd rfl h
  | append_singleton B b ih =>
    intro _ hB hmiss f pending
    have hb : IsName b := hB b (by simp)
    by_cases hB0 : B = []
    · -- one missing name: it is made at once
      subst hB0
      simp only [List.nil_append] at hmiss ⊢
      have hnone : d.get? (A ++ [b]) = none := hmiss [b] (by simp) (List.prefix_refl _)
      have hsub : ∀ q k, d.get? q = some k → (d.put (A ++ [b]) .dir).get? q = some k := by
        intro q k hq
        rw [get?_put (by simp), if_neg fun he => by rw [he, hnone] at hq; cases hq]
        exact hq
      refine ⟨d.put (A ++ [b]) .dir,
        hd.put (by simp) (List.forall_mem_append.mpr ⟨hAn, by simpa using hb⟩) (by simpa using hA)
          (.inl rfl), fun q => ?_,
        leadsTo_child hX hb (hlead.grow hd hsub) (by simp [get?_put]), ?_⟩
      · rw [get?_put (by simp)]
        by_cases hq : q = A ++ [b]
        · subst hq
          simp [not_prefix_of_append]
        · simp [hq, List.prefix_concat_iff]
      · rw [show f + 2 * [b].length = (f + 1) + 1 by simp, mkdirsLoop]
        simp [mkdirCode, lookup_child_unfollowed hX hb hlead, hnone]
    · -- more names: the parent is made first, on a second try the name itself
      have hBn : ∀ m ∈ B, IsName m := fun m hm => hB m (by simp [hm])
      obtain ⟨d₁, hwf₁, hget₁, hlead₁, hrun₁⟩ := ih hB0 hBn
        (fun x hx hpre => hmiss x hx (hpre.trans (List.prefix_append _ _))) (f + 1)
        (ofPlace (X ++ B ++ [b]) :: pending)
      have hAB : d₁.get? (A ++ B) = some .dir := by
        rw [hget₁, if_pos ⟨List.prefix_refl _, not_prefix_of_append hB0⟩]
      have hAB' : ∀ m ∈ A ++ B, IsName m := List.forall_mem_append.mpr ⟨hAn, hBn⟩
      have hXB : ∀ m ∈ X ++ B, IsName m := List.forall_mem_append.mpr ⟨hX, hBn⟩
      have hlong : ¬ A ++ B ++ [b] <+: A ++ B := not_prefix_of_append (A := A ++ B) (by simp)
      have hnone₁ : d₁.get? (A ++ B ++ [b]) = none := by
        rw [hget₁, if_neg fun h => hlong h.1, List.append_assoc]
        exact hmiss _ (by simp) (List.prefix_refl _)
      have hput := hwf₁.put (p := A ++ B ++ [b]) (k := .dir) (by simp)
        (List.forall_mem_append.mpr ⟨hAB', by simpa using hb⟩) (by simpa using hAB) (.inl rfl)
      have hsub : ∀ q k, d₁.get? q = some k → (d₁.put (A ++ B ++ [b]) .dir).get? q = some k := by
        intro q k hq
        rw [get?_put (by simp), if_neg fun he => by rw [he, hnone₁] at hq; cases hq]
        exact hq
      -- the first try finds the way missing below `A`
      have hmissing : d.mkdirCode (ofPlace (X ++ B ++ [b])) = .error .ENOENT := by
        obtain ⟨c, B', rfl⟩ := List.exists_cons_of_ne_nil hB0
        have hc : IsName c := hBn c (by simp)
        simp only [mkdirCode, List.append_assoc, List.cons_append]
        rw [lookup_missing false hX hc (fun m hm => hB m (by simp_all)) (by simp) hlead
          (hmiss [c] (by simp) (by simp))]
      -- the second try finds the parent made
      have hmade : d₁.mkdirCode (ofPlace (X ++ B ++ [b])) = .ok (d₁.put (A ++ B ++ [b]) .dir) := by
        simp only [mkdirCode, lookup_child_unfollowed hXB hb hlead₁, hnone₁]
      have hXB0 : X ++ B ≠ [] := by simp [hB0]
      refine ⟨d₁.put (A ++ B ++ [b]) .dir, hput, fun q => ?_, ?_, ?_⟩
      · rw [get?_put (by simp), hget₁]
        by_cases hq : q = A ++ B ++ [b]
        · subst hq
          simp [List.append_assoc, not_prefix_of_append]
        · simp [hq, ← List.append_assoc, List.prefix_concat_iff]
      · rw [← List.append_assoc, ← List.append_assoc]
        exact leadsTo_child hXB hb (hlead₁.grow hwf₁ hsub) (by simp [get?_put])
      · rw [← List.append_assoc,
          show f + 2 * (B ++ [b]).length = (f + 1 + 2 * B.length) + 1 by simp; omega, mkdirsLoop]
        simp only [hmissing, beforeLastSlash_ofPlace hXB0 hb, bne_iff_ne, ne_eq,
          ofPlace_ne_snoc hXB0, not_false_eq_true, ↓reduceIte, hrun₁]
        rw [mkdirsLoop]
        simp only [hmade]

/-- A place whose places on the way down are each missing or a directory splits into a
directory and names below it that are all missing. -/
theorem exists_dir_then_missing (hd : d.Wf) {P : Place}
    (hway : ∀ x, x <+: P → d.get? x = none ∨ d.get? x = some .dir) :
    ∃ A B, P = A ++ B ∧ d.get? A = some .dir ∧
      ∀ x, x ≠ [] → x <+: B → d.get? (A ++ x) = none := by
  induction P using List.reverseRecOn with
  | nil => exact ⟨[], [], rfl, rfl, fun x hx hpre => absurd (List.prefix_nil.mp hpre) hx⟩
  | append_singleton P n ih =>
    obtain ⟨A, B, rfl, hA, hmiss⟩ := ih fun x hx => hway x (hx.trans (List.prefix_append _ _))
    by_cases hB : B = []
    · -- all of `P` is there: the last name is a directory or missing
      subst hB
      rw [List.append_nil] at hway ⊢
      rcases hway (A ++ [n]) (List.prefix_refl _) with hnone | hdir
      · refine ⟨A, [n], rfl, hA, fun x hx hpre => ?_⟩
        obtain ⟨a, x', rfl⟩ := List.exists_cons_of_ne_nil hx
        obtain ⟨rfl, rfl⟩ : a = n ∧ x' = [] := by simpa using hpre
        exact hnone
      · exact ⟨A ++ [n], [], by simp, hdir, fun x hx hpre => absurd (List.prefix_nil.mp hpre) hx⟩
    · refine ⟨A, B ++ [n], by simp, hA, fun x hx hpre => ?_⟩
      rcases List.prefix_concat_iff.mp hpre with rfl | hpre
      · -- below a missing place nothing is
        cases hk : d.get? (A ++ (B ++ [n])) with
        | none => rfl
        | some k =>
          have hpar := hd.get?_dropLast (by simp) hk
          rw [← List.append_assoc, List.dropLast_concat, hmiss B hB (List.prefix_refl _)] at hpar
          cases hpar
      · exact hmiss x hx hpre

/-- Making a directory whose places on the way down are each missing or a directory makes
every one of them a directory, and changes nothing else. -/
theorem mkdirs_of_way (hd : d.Wf) {P : Place} (hn : ∀ m ∈ P, IsName m)
    (hway : ∀ x, x <+: P → d.get? x = none ∨ d.get? x = some .dir) :
    ∃ d' : Disk, d'.Wf ∧ (∀ q, d'.get? q = if q <+: P then some .dir else d.get? q) ∧
      d.mkdirs (ofPlace P) = .ok d' := by
  obtain ⟨A, B, rfl, hA, hmiss⟩ := exists_dir_then_missing hd hway
  have hdirA : ∀ q, q <+: A → d.get? q = some .dir := fun q hq => by
    rcases eq_or_ne q A with rfl | hne
    · exact hA
    · exact hd.dir_of_under ⟨hq, hne⟩ hA
  by_cases hB : B = []
  · -- the directory is there already
    subst hB
    rw [List.append_nil]
    refine ⟨d, hd, fun q => ?_, mkdirs_of_leadsTo (leadsTo_self hd hA)⟩
    split
    · exact hdirA q ‹_›
    · rfl
  · have hfuel : 2 * B.length ≤ 4 * (ofPlace (A ++ B)).length + 8 := by
      have := length_le_ofPlace (A ++ B)
      simp only [List.length_append] at this
      omega
    obtain ⟨d', hwf', hget', -, hrun⟩ := mkdirsLoop_chain hd (hd.names_of_get? hA)
      (leadsTo_self hd hA) B hB (fun m hm => hn m (by simp [hm])) hmiss
      (4 * (ofPlace (A ++ B)).length + 8 - 2 * B.length) []
    refine ⟨d', hwf', fun q => ?_, ?_⟩
    · -- the places on the way down to `A` were directories already
      rw [hget']
      by_cases hq : q <+: A ++ B
      · by_cases hqA : q <+: A
        · rw [if_neg (fun h => h.2 hqA), if_pos hq, hdirA q hqA]
        · rw [if_pos ⟨hq, hqA⟩, if_pos hq]
      · rw [if_neg (fun h => hq h.1), if_neg hq]
    · unfold mkdirs
      rw [show 4 * (ofPlace (A ++ B)).length + 8 =
          (4 * (ofPlace (A ++ B)).length + 8 - 2 * B.length) + 2 * B.length by omega,
        hrun, mkdirsLoop_nil]
      rfl

/-- At a place whose places on the way down are each missing or a directory, the entry, its
last link not followed, is what is there. -/
theorem lstat?_of_way (hd : d.Wf) {P : Place} (hP : P ≠ []) (hn : ∀ m ∈ P, IsName m)
    (hway : ∀ x, x <+: P → d.get? x = none ∨ d.get? x = some .dir) :
    d.lstat? (ofPlace P) = .ok (d.get? P) := by
  obtain ⟨A, B, rfl, hA, hmiss⟩ := exists_dir_then_missing hd hway
  have hAn := hd.names_of_get? hA
  -- the lookup stops at the place itself, just below `A`, or at the first missing name
  match B with
  | [] =>
    obtain ⟨A', a, rfl⟩ : ∃ A' a, A = A' ++ [a] :=
      ⟨A.dropLast, A.getLast (by simpa using hP), (List.dropLast_append_getLast _).symm⟩
    have hA' : d.get? A' = some .dir := by simpa using hd.get?_dropLast (by simp) hA
    simp only [List.append_nil]
    exact lstat?_child (hd.names_of_get? hA') (hAn a (by simp)) (leadsTo_self hd hA')
  | [b] => exact lstat?_child hAn (hn b (by simp)) (leadsTo_self hd hA)
  | b :: c :: rest =>
    have hlook : d.lookup (ofPlace (A ++ b :: c :: rest)) false = .error .ENOENT :=
      lookup_missing false hAn (hn b (by simp)) (fun m hm => hn m (by simp [hm])) (by simp)
        (leadsTo_self hd hA) (hmiss [b] (by simp) (by simp))
    rw [hmiss _ (by simp) (List.prefix_refl _)]
    simp [lstat?, hlook]

end way

section realpath

/-- Along directories, the real path is built one name after another. -/
theorem realpathLoop_of_dirs (hd : d.Wf) :
    ∀ (rest : List String) (D : Place) (f : Nat), rest.length < f →
      d.get? (D ++ rest) = some .dir → d.realpathLoop f (ofPlace D) rest = .ok (ofPlace (D ++ rest)) := by
  intro rest
  induction rest with
  | nil =>
    intro D f hf _
    obtain ⟨g, rfl⟩ : ∃ g, f = g + 1 := ⟨f - 1, by simp at hf; omega⟩
    simp [realpathLoop]
  | cons c rest ih =>
    intro D f hf hdir
    obtain ⟨g, rfl⟩ : ∃ g, f = g + 1 := ⟨f - 1, by simp at hf; omega⟩
    have hn := hd.names_of_get? hdir
    have hD : d.get? D = some .dir := by
      rcases eq_or_ne D [] with rfl | hne
      · rfl
      · exact hd.dir_of_under ⟨List.prefix_append _ _, by simp⟩ hdir
    have hDc : d.get? (D ++ [c]) = some .dir := by
      rcases eq_or_ne rest [] with rfl | hne
      · exact hdir
      · have hne' : D ++ [c] ≠ D ++ c :: rest := by
          intro h
          simp at h
          exact hne h
        exact hd.dir_of_under ⟨⟨rest, by simp⟩, hne'⟩ hdir
    -- the next name is joined to the path built so far
    have hbase : (if ofPlace D == "/" then "/" ++ c else ofPlace D ++ "/" ++ c) = ofPlace (D ++ [c]) := by
      rcases eq_or_ne D [] with rfl | hne
      · simp [ofPlace]
      · have hslash : ofPlace D ≠ "/" := by
          intro heq
          have := congrArg String.toList heq
          obtain ⟨a, D', rfl⟩ := List.exists_cons_of_ne_nil hne
          rw [toList_ofPlace] at this
          cases D' with
          | nil => exact (hn a (by simp)).1 (by simpa using this)
          | cons b D'' => simp [List.intercalate_cons_cons] at this
        simp [hslash, ofPlace_slash hne]
    rw [realpathLoop]
    simp only [hbase, lookup_child_unfollowed (hd.names_of_get? hD) (hn c (by simp))
      (leadsTo_self hd hD), hDc]
    simpa using ih (D ++ [c]) g (by simp at hf; omega) (by simpa using hdir)

/-- The real path of a directory's own path, with no link on the way, is that path. -/
theorem realpath_of_dir (hd : d.Wf) {P : Place} (hP : P ≠ []) (hdir : d.get? P = some .dir) :
    d.realpath (ofPlace P) = .ok (ofPlace P) := by
  have hn := hd.names_of_get? hdir
  have hcomps : ((ofPlace P).splitOn "/").filter (· != "") = P := by
    rw [show (ofPlace P).splitOn "/" = "" :: P from names_ofPlace hP hn]
    simp only [List.filter_cons, bne_self_eq_false, Bool.false_eq_true, ↓reduceIte]
    exact List.filter_eq_self.mpr fun a ha => by simpa using (hn a ha).1
  have hfuel : P.length < (P.length + 2) * (maxLinks + 1) * (d.longestTarget + 2) := by
    have h₁ : P.length + 2 ≤ (P.length + 2) * (maxLinks + 1) :=
      Nat.le_mul_of_pos_right _ (by simp [maxLinks])
    have h₂ : (P.length + 2) * (maxLinks + 1) ≤
        (P.length + 2) * (maxLinks + 1) * (d.longestTarget + 2) :=
      Nat.le_mul_of_pos_right _ (by omega)
    omega
  unfold realpath
  simp only [resolve_ofPlace_against "/" hn, hcomps]
  have hloop := realpathLoop_of_dirs hd P [] _ hfuel (by simpa using hdir)
  rw [show ofPlace [] = "/" by simp [ofPlace], List.nil_append] at hloop
  exact hloop

/-- The names of a path resolved from the root, empty ones left out, are entry names, and
the path is the path of the place they make. -/
theorem resolve_root_names (ps : List String) :
    ∃ T : Place, (∀ m ∈ T, IsName m) ∧ resolve "/" ps = ofPlace T ∧
      ((resolve "/" ps).splitOn "/").filter (· != "") = T := by
  have hT : ∀ m ∈ normalNames false ((resolvedTail "/" ps).flatMap names), IsName m :=
    normalNames_names fun n hn => by
    obtain ⟨p, -, hp⟩ := List.mem_flatMap.mp hn
    exact slash_not_mem_of_mem_splitOn hp
  refine ⟨_, hT, resolve_root ps, ?_⟩
  rw [resolve_root ps, splitOn_filter_ofPlace hT]

/-- A place reached by its own path: the root, or an entry that is not a link. -/
def RealPlace (d : Disk) (T : Place) : Prop := T = [] ∨ ∃ k, d.get? T = some k ∧ ∀ t, k ≠ .link t

/-- The real path loop only ever stands at a real place, so it ends at one. -/
theorem realpathLoop_realPlace (hd : d.Wf) : ∀ (f : Nat) (D : Place) (rest : List String) {t : String},
    d.RealPlace D → (∀ c ∈ rest, IsName c) → d.realpathLoop f (ofPlace D) rest = .ok t →
      ∃ T, d.RealPlace T ∧ t = ofPlace T := by
  intro f
  induction f with
  | zero =>
    intro D rest t hD _ h
    rw [realpathLoop] at h
    cases h
    exact ⟨D, hD, rfl⟩
  | succ f ih =>
    intro D rest t hD hrest h
    cases rest with
    | nil =>
      rw [realpathLoop] at h
      cases h
      exact ⟨D, hD, rfl⟩
    | cons c rest =>
      have hc := hrest c (by simp)
      have hDn : ∀ m ∈ D, IsName m := by
        rcases hD with rfl | ⟨k, hk, -⟩
        · simp
        · exact hd.names_of_get? hk
      rw [realpathLoop, loop_text_ofPlace hDn] at h
      -- the place stood at is a directory, or the way on is refused
      have hdir : d.get? D = some .dir := by
        rcases hD with rfl | ⟨k, hk, hkl⟩
        · rfl
        · by_contra hkd
          have hD0 : D ≠ [] := by
            rintro rfl
            exact hkd rfl
          obtain ⟨D', n, rfl⟩ : ∃ D' n, D = D' ++ [n] :=
            ⟨D.dropLast, D.getLast hD0, (List.dropLast_append_getLast hD0).symm⟩
          have hD' : d.get? D' = some .dir := by simpa using hd.get?_dropLast hD0 hk
          rw [List.append_assoc, List.singleton_append,
            lookup_below_leaf false (hd.names_of_get? hD') (hDn n (by simp)) hc
              (leadsTo_self hd hD') hk (fun he => hkd (he ▸ hk)) hkl] at h
          cases h
      rw [lookup_child_unfollowed hDn hc (leadsTo_self hd hdir)] at h
      have hrest' : ∀ c ∈ rest, IsName c := fun c' hc' => hrest c' (by simp [hc'])
      cases hk : d.get? (D ++ [c]) with
      | none => simp [hk] at h
      | some k =>
        cases k with
        | link s =>
          -- a link: the loop starts again from the root, on the names of the resolved path
          simp only [hk] at h
          split at h
          · cases h
          · cases h
          · obtain ⟨T, hTn, -, hcomps⟩ := resolve_root_names [ofPlace D, s, "/".intercalate rest]
            rw [hcomps, show "/" = ofPlace [] by simp [ofPlace]] at h
            exact ih [] T (.inl rfl) hTn h
        | dir => exact ih (D ++ [c]) rest (.inr ⟨_, hk, by simp⟩) hrest' (by simpa [hk] using h)
        | file content mode =>
          exact ih (D ++ [c]) rest (.inr ⟨_, hk, by simp⟩) hrest' (by simpa [hk] using h)
        | fifo => exact ih (D ++ [c]) rest (.inr ⟨_, hk, by simp⟩) hrest' (by simpa [hk] using h)

/-- The real path of a path, when there is one, is the path of a real place. -/
theorem realpath_realPlace (hd : d.Wf) {p t : String} (h : d.realpath p = .ok t) :
    ∃ T, d.RealPlace T ∧ t = ofPlace T := by
  obtain ⟨T, hTn, -, hcomps⟩ := resolve_root_names [p]
  unfold realpath at h
  dsimp only at h
  rw [hcomps, show "/" = ofPlace [] by simp [ofPlace]] at h
  exact realpathLoop_realPlace hd _ [] T (.inl rfl) hTn h
end realpath

end Disk

end FolderSink
