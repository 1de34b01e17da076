import FolderSink.Proofs.Disk.Calls
/-!
Making a directory with its parents when links may lie on the way. The loop of `mkdirs` tries
the path, and when a directory on the way is missing it tries the parent path first; every
directory it makes is made where a prefix of the path leads. So once the path leads to a
directory `P`, the loop has made directories only on the way down to `P`, each where nothing
was, and changed nothing else. Main statements:

* `walk_fuel`: with fuel for every name left and every link still allowed, a walk's answer
  does not depend on its fuel;
* `lookup_parent`: where the path of `Q ++ [n]` names an entry, the path of `Q` leads to the
  directory holding it;
* `mkdirsLoop_made`: one path of the loop, and the parents it stacks, made or refused;
* `mkdirs_made`: what making a directory and its parents changes.
-/

namespace FolderSink

namespace Disk

open FolderSink.Path

variable {d : Disk}

section fuel

/-- Every link target of a disk has at most `longestTarget` names. -/
theorem splitOn_length_le_longestTarget {q : Place} {t : String} (h : d.get? q = some (.link t)) :
    (t.splitOn "/").length ≤ d.longestTarget := by
  have hq : q ≠ [] := by
    rintro rfl
    simp at h
  exact longestTarget_le_iff.mp le_rfl q t (mem_of_get? hq h)

/-- A walk with fuel for each name it has left and for the names of each link it may still
follow gives the same answer with more fuel. -/
theorem walk_fuel (f : Nat) :
    ∀ g cur cs follow links, cs.length + (maxLinks - links) * d.longestTarget < f →
      d.walk (f + g) cur cs follow links = d.walk f cur cs follow links := by
  induction f with
  | zero => intro g cur cs follow links h; omega
  | succ f ih =>
    intro g cur cs follow links hf
    cases cs with
    | nil => rw [Nat.add_right_comm]; rfl
    | cons c rest =>
      simp only [List.length_cons] at hf
      rw [Nat.add_right_comm, walk, walk]
      by_cases hdot : (c == "" || c == ".") = true
      · rw [if_pos hdot, if_pos hdot]
        exact ih g cur rest follow links (by omega)
      rw [if_neg hdot, if_neg hdot]
      by_cases hup : (c == "..") = true
      · rw [if_pos hup, if_pos hup]
        exact ih g _ rest follow links (by omega)
      rw [if_neg hup, if_neg hup]
      simp only
      cases hk : d.get? (cur ++ [c]) with
      | none => rfl
      | some k =>
        cases k with
        | dir => exact ih g _ rest follow links (by omega)
        | link t =>
          simp only
          split
          next => rfl
          split
          next => rfl
          next hmax =>
            split
            next => rfl
            -- the link's names stand for one name, and one link fewer may follow
            have ht := splitOn_length_le_longestTarget hk
            have hM : maxLinks - links = maxLinks - (links + 1) + 1 := by omega
            rw [hM, Nat.succ_mul] at hf
            refine ih g _ _ follow (links + 1) ?_
            rw [List.length_append]
            generalize (maxLinks - (links + 1)) * d.longestTarget = X at hf ⊢
            omega
        | file content mode => rfl
        | fifo => rfl

/-- A lookup is the walk of the path's names with any fuel beyond what the names and the
links may need. -/
theorem lookup_eq_walk_of_fuel {p : String} {follow : Bool} {F : Nat}
    (hF : (p.splitOn "/").length + maxLinks * d.longestTarget < F) :
    d.lookup p follow = d.walk F [] (p.splitOn "/") follow 0 := by
  set N := (p.splitOn "/").length + maxLinks * d.longestTarget + 1 with hN
  have henough : ((p.splitOn "/")).length + (maxLinks - 0) * d.longestTarget < N := by
    rw [Nat.sub_zero]
    omega
  have hlook : (p.splitOn "/").length + (maxLinks + 1) * (d.longestTarget + 1) + 2 =
      N + ((maxLinks + 1) * (d.longestTarget + 1) + 1 - maxLinks * d.longestTarget) := by
    simp only [hN, maxLinks]
    omega
  rw [lookup_eq_walk, hlook, walk_fuel N _ _ _ _ _ henough, show F = N + (F - N) by omega,
    walk_fuel N _ _ _ _ _ henough]

end fuel

section parent

/-- A walk that names an entry below the names `cs`, its last link not followed, passes the
directory that `cs` lead to, with no more fuel than it had. -/
theorem walk_parent (hd : d.Wf) {n : String} (hn : IsName n) {place : Place} {k : Option Kind} :
    ∀ f cur cs links, d.get? cur = some .dir → d.walk f cur (cs ++ [n]) false links = .ok (place, k) →
      ∃ P, d.walk f cur cs true links = .ok (P, some .dir) ∧ place = P ++ [n] := by
  obtain ⟨h0, h1, h2, -⟩ := hn
  have hdot : (n == "" || n == ".") = false := by simp [h0, h1]
  have hup : (n == "..") = false := by simpa using h2
  intro f
  induction f with
  | zero => intro cur cs links _ h; simp [walk] at h
  | succ f ih =>
    intro cur cs links hcur h
    cases cs with
    | nil =>
      -- the name itself: the walk stops at the entry of that name, or enters it
      refine ⟨cur, by simp [walk, hcur], ?_⟩
      rw [List.nil_append, walk] at h
      simp only [hdot, hup, Bool.false_eq_true, ↓reduceIte, List.all_nil, List.isEmpty_nil] at h
      cases hk : d.get? (cur ++ [n]) with
      | none => simp only [hk, Except.ok.injEq, Prod.mk.injEq] at h; exact h.1.symm
      | some k' =>
        cases k' with
        | dir =>
          simp only [hk] at h
          cases f with
          | zero => simp [walk] at h
          | succ f => simp only [walk, Except.ok.injEq, Prod.mk.injEq] at h; exact h.1.symm
        | link t => simp [hk] at h; exact h.1.symm
        | file c m => simp [hk] at h; exact h.1.symm
        | fifo => simp [hk] at h; exact h.1.symm
    | cons c cs =>
      have hlast : (cs ++ [n]).all (· == "") = false := by simp [h0]
      have hup' : d.get? cur.dropLast = some .dir := by
        rcases eq_or_ne cur [] with rfl | hne
        · rfl
        · exact hd.get?_dropLast hne hcur
      rw [List.cons_append, walk] at h
      rw [walk]
      by_cases hdot' : (c == "" || c == ".") = true
      · rw [if_pos hdot'] at h ⊢
        exact ih cur cs links hcur h
      rw [if_neg hdot'] at h ⊢
      by_cases hup'' : (c == "..") = true
      · rw [if_pos hup''] at h ⊢
        exact ih cur.dropLast cs links hup' h
      rw [if_neg hup''] at h ⊢
      simp only [hlast, Bool.false_and, Bool.false_eq_true, ↓reduceIte] at h
      simp only
      cases hk : d.get? (cur ++ [c]) with
      | none => simp [hk] at h
      | some k' =>
        rw [hk] at h
        cases k' with
        | dir => exact ih _ cs links hk h
        | link t =>
          -- a link on the way is followed by both walks, which go on from its target
          simp only [Bool.not_true, Bool.and_false, Bool.false_eq_true, ↓reduceIte] at h ⊢
          split at h
          · simp at h
          rw [if_neg ‹_›]
          split at h
          · simp at h
          rw [if_neg ‹_›]
          rw [← List.append_assoc] at h
          exact ih _ _ _ (by split <;> simp_all) h
        | file c m => simp at h
        | fifo => simp at h

/-- Where the path of `Q ++ [n]` names an entry, its last link not followed, the path of `Q`
leads to the directory that holds it. -/
theorem lookup_parent (hd : d.Wf) {Q : Place} {n : String} (hQ : ∀ m ∈ Q, IsName m)
    (hn : IsName n) {place : Place} {k : Option Kind}
    (h : d.lookup (ofPlace (Q ++ [n])) false = .ok (place, k)) :
    ∃ P, d.LeadsTo Q P ∧ place = P ++ [n] := by
  rcases eq_or_ne Q [] with rfl | hQ0
  · refine ⟨[], leadsTo_root, ?_⟩
    rw [lookup_child_unfollowed (by simp) hn leadsTo_root] at h
    exact (Prod.mk.inj (Except.ok.inj h)).1.symm
  · have hQn : ∀ m ∈ Q ++ [n], IsName m := List.forall_mem_append.mpr ⟨hQ, by simpa using hn⟩
    rw [lookup_eq_walk, show (ofPlace (Q ++ [n])).splitOn "/" = "" :: (Q ++ [n]) from
      names_ofPlace (by simp) hQn] at h
    obtain ⟨P, hP, rfl⟩ := walk_parent hd hn _ [] ("" :: Q) 0 (by simp) h
    refine ⟨P, ?_, rfl⟩
    unfold LeadsTo
    have hsplit : (ofPlace Q).splitOn "/" = "" :: Q := names_ofPlace hQ0 hQ
    rw [lookup_eq_walk_of_fuel (F := ("" :: (Q ++ [n])).length +
      (maxLinks + 1) * (d.longestTarget + 1) + 2) (by simp only [hsplit, maxLinks]; simp; omega),
      hsplit]
    exact hP

/-- A lookup that fails fails the same way when the last link is followed. -/
theorem lookup_followed_of_error {p : String} {e : Errno} (h : d.lookup p false = .error e) :
    d.lookup p true = .error e := by
  rw [lookup_eq_walk] at h ⊢
  rcases walk_unfollowed _ [] (p.splitOn "/") 0 with heq | ⟨here, t, heq⟩
  · rw [← heq, h]
  · rw [heq] at h
    cases h

/-- Two directories that one path leads to are the same. -/
theorem LeadsTo.unique {Q P P' : Place} (h : d.LeadsTo Q P) (h' : d.LeadsTo Q P') : P = P' :=
  (Prod.mk.inj (Except.ok.inj (h.symm.trans h'))).1

end parent

section made

variable {d' d₁ : Disk} {P P₀ : Place}

/-- `d'` is `d` with some places on the way down to `P` made directories, each where nothing
was. -/
def MadeTo (d d' : Disk) (P : Place) : Prop :=
  d'.Wf ∧ ∀ q, d'.get? q = d.get? q ∨ (q <+: P ∧ d.get? q = none ∧ d'.get? q = some .dir)

theorem MadeTo.refl (hd : d.Wf) (P : Place) : MadeTo d d P := ⟨hd, fun _ => .inl rfl⟩

theorem MadeTo.mono {P' : Place} (h : MadeTo d d' P) (hP : P <+: P') : MadeTo d d' P' :=
  ⟨h.1, fun q => (h.2 q).imp_right fun ⟨hq, h₁, h₂⟩ => ⟨hq.trans hP, h₁, h₂⟩⟩

/-- Every entry stays where it was. -/
theorem MadeTo.sub (h : MadeTo d d' P) : ∀ q k, d.get? q = some k → d'.get? q = some k :=
  fun q k hk => (h.2 q).elim (fun h' => h'.trans hk) fun ⟨_, hnone, _⟩ => by rw [hnone] at hk; cases hk

/-- Making the missing entry `P ++ [n]` below the directory `P` extends the change. -/
theorem MadeTo.put {n : String} (h : MadeTo d d₁ P) (hn : IsName n) (hP : d₁.get? P = some .dir)
    (hk : d₁.get? (P ++ [n]) = none) : MadeTo d (d₁.put (P ++ [n]) .dir) (P ++ [n]) := by
  have hPn : ∀ m ∈ P ++ [n], IsName m :=
    List.forall_mem_append.mpr ⟨h.1.names_of_get? hP, by simpa using hn⟩
  refine ⟨h.1.put (by simp) hPn (by simpa using hP) (.inl rfl), fun q => ?_⟩
  rw [get?_put (by simp)]
  by_cases hq : q = P ++ [n]
  · subst hq
    -- the place was missing before any directory was made
    have hk₀ : d.get? (P ++ [n]) = none := by
      rcases h.2 (P ++ [n]) with h' | ⟨h', -, -⟩
      · rw [← h', hk]
      · exact absurd h' (not_prefix_of_append (by simp))
    simp [hk₀]
  · rw [if_neg hq]
    exact (h.2 q).imp_right fun ⟨hq', h₁, h₂⟩ => ⟨hq'.trans (List.prefix_append _ _), h₁, h₂⟩

/-- Where an entry other than a directory lies below `P` after the change, nothing was made:
the way down to `P` was there already. -/
theorem MadeTo.eq_of_leaf_below (h : MadeTo d d' P) (hd : d.Wf) {x : Place} {k : Kind}
    (hx : x ≠ []) (hk : d'.get? (P ++ x) = some k) (hkd : k ≠ .dir) : ∀ q, d'.get? q = d.get? q := by
  have hk₀ : d.get? (P ++ x) = some k := by
    rcases h.2 (P ++ x) with h' | ⟨-, -, h'⟩
    · rw [← h', hk]
    · rw [hk] at h'
      exact absurd (Option.some.inj h') hkd
  have hdir : d.get? P = some .dir := hd.dir_of_under (under_append hx) hk₀
  intro q
  refine (h.2 q).resolve_right fun ⟨hq, hnone, _⟩ => ?_
  rcases eq_or_ne q P with rfl | hne
  · rw [hdir] at hnone
    cases hnone
  · rw [hd.dir_of_under ⟨hq, hne⟩ hdir] at hnone
    cases hnone

variable (hd : d.Wf)
include hd

/-- The second try of a path whose parent path leads to a directory, after the parents were
made: the entry is made when missing, passed when it is a directory or a link to one, and
refused otherwise. -/
theorem mkdirsLoop_child {Q₀ : Place} {n : String} (hQ₀ : ∀ m ∈ Q₀, IsName m) (hn : IsName n)
    (hmade : MadeTo d d₁ P₀) (hlead : d₁.LeadsTo Q₀ P₀) (g : Nat) (pending : List String) :
    (∃ d' P f', MadeTo d d' P ∧ d'.LeadsTo (Q₀ ++ [n]) P ∧
      d₁.mkdirsLoop (g + 1) (ofPlace (Q₀ ++ [n]) :: pending) = d'.mkdirsLoop (g + f') pending) ∨
    ∃ e, d₁.mkdirsLoop (g + 1) (ofPlace (Q₀ ++ [n]) :: pending) = .error e := by
  have hwf₁ := hmade.1
  have hP₀ := (hlead.dir hwf₁).1
  have hlook := lookup_child_unfollowed hQ₀ hn hlead
  -- an entry there: the loop asks where the path leads, links followed
  have hexists : ∀ k, d₁.get? (P₀ ++ [n]) = some k →
      d₁.mkdirsLoop (g + 1) (ofPlace (Q₀ ++ [n]) :: pending) =
        (d₁.lookup (ofPlace (Q₀ ++ [n])) true >>= fun r =>
          if r.2 = some .dir then d₁.mkdirsLoop g pending
          else if r.2.isSome then .error (if pending.isEmpty then .EEXIST else .ENOTDIR)
          else .error .ENOENT) := by
    intro k hk
    have hcode : d₁.mkdirCode (ofPlace (Q₀ ++ [n])) = .error .EEXIST := by
      simp [mkdirCode, hlook, hk]
    rw [mkdirsLoop]
    simp only [hcode]
    rcases d₁.lookup (ofPlace (Q₀ ++ [n])) true with _ | ⟨X, _ | ⟨_ | _ | _ | _⟩⟩ <;>
      cases pending <;> rfl
  cases hk : d₁.get? (P₀ ++ [n]) with
  | none =>
    -- missing: made here, below the directory the parent path leads to
    have hmade' := hmade.put hn hP₀ hk
    have hsub : ∀ q k, d₁.get? q = some k → (d₁.put (P₀ ++ [n]) .dir).get? q = some k :=
      fun q k hq => by
        rw [get?_put (by simp), if_neg fun he => by rw [he, hk] at hq; cases hq]
        exact hq
    refine .inl ⟨_, P₀ ++ [n], 0, hmade',
      leadsTo_child hQ₀ hn (hlead.grow hwf₁ hsub) (by simp [get?_put]), ?_⟩
    have hcode : d₁.mkdirCode (ofPlace (Q₀ ++ [n])) = .ok (d₁.put (P₀ ++ [n]) .dir) := by
      simp [mkdirCode, hlook, hk]
    rw [mkdirsLoop]
    simp only [hcode, Nat.add_zero]
  | some k =>
    rw [hexists k hk]
    cases k with
    | dir =>
      rw [lookup_child_followed hQ₀ hn hlead (by simp [hk]), hk]
      exact .inl ⟨d₁, P₀ ++ [n], 0, hmade.mono (List.prefix_append _ _),
        leadsTo_child hQ₀ hn hlead hk, rfl⟩
    | link t =>
      -- a link: passed when it leads to a directory; then nothing was made on the way
      cases hl : d₁.lookup (ofPlace (Q₀ ++ [n])) true with
      | error e => exact .inr ⟨e, rfl⟩
      | ok r =>
        obtain ⟨X, kX⟩ := r
        have hsame := hmade.eq_of_leaf_below hd (by simp) hk (by simp)
        cases kX with
        | none => exact .inr ⟨_, rfl⟩
        | some kX =>
          cases kX with
          | dir =>
            refine .inl ⟨d₁, X, 0, ⟨hwf₁, fun q => .inl (hsame q)⟩, hl, rfl⟩
          | _ => exact .inr ⟨_, rfl⟩
    | file c m =>
      rw [lookup_child_followed hQ₀ hn hlead (by simp [hk]), hk]
      exact .inr ⟨_, rfl⟩
    | fifo =>
      rw [lookup_child_followed hQ₀ hn hlead (by simp [hk]), hk]
      exact .inr ⟨_, rfl⟩

/-- Making the directory that a path names, from a disk where none was made yet: the loop
stacks the parent paths it finds missing, makes them from the top down, and goes on with
what was pending; or it is refused. Each try costs one unit of fuel. -/
theorem mkdirsLoop_made (Q : Place) (hQ : ∀ m ∈ Q, IsName m) (g : Nat) (pending : List String) :
    (∃ d' P f', MadeTo d d' P ∧ d'.LeadsTo Q P ∧
      d.mkdirsLoop (g + 2 * Q.length + 1) (ofPlace Q :: pending) = d'.mkdirsLoop (g + f') pending) ∨
    ∃ e, d.mkdirsLoop (g + 2 * Q.length + 1) (ofPlace Q :: pending) = .error e := by
  induction Q using List.reverseRecOn generalizing g pending with
  | nil =>
    -- the root is there: the loop asks where its path leads and goes on
    obtain ⟨place, k, hlook⟩ := lookup_unfollowed_of_leadsTo (d := d) leadsTo_root
    have hcode : d.mkdirCode (ofPlace []) = .error .EEXIST := by simp [mkdirCode, hlook]
    refine .inl ⟨d, [], 0, MadeTo.refl hd [], leadsTo_root, ?_⟩
    have hroot : d.lookup (ofPlace []) true = .ok ([], some .dir) := leadsTo_root
    rw [show g + 2 * ([] : Place).length + 1 = g + 1 by simp, mkdirsLoop]
    simp only [hcode, hroot, Nat.add_zero]
  | append_singleton Q₀ n ih =>
    have hQ₀ : ∀ m ∈ Q₀, IsName m := fun m hm => hQ m (by simp [hm])
    have hn : IsName n := hQ n (by simp)
    have hfuel : g + 2 * (Q₀ ++ [n]).length + 1 = (g + 2 * Q₀.length + 2) + 1 := by simp; omega
    by_cases hpar : ∃ P₀, d.LeadsTo Q₀ P₀
    · -- the parent path leads to a directory already
      obtain ⟨P₀, hP₀⟩ := hpar
      rw [hfuel]
      rcases mkdirsLoop_child hd hQ₀ hn (MadeTo.refl hd P₀) hP₀ (g + 2 * Q₀.length + 2) pending with
        ⟨d', P, f', hm, hl, hrun⟩ | ⟨e, hrun⟩
      · exact .inl ⟨d', P, 2 * Q₀.length + 2 + f', hm, hl, by
          rw [hrun, show g + 2 * Q₀.length + 2 + f' = g + (2 * Q₀.length + 2 + f') by omega]⟩
      · exact .inr ⟨e, hrun⟩
    · -- otherwise the lookup of the path is refused before it gets to the name
      have hQ₀0 : Q₀ ≠ [] := by
        rintro rfl
        exact hpar ⟨[], leadsTo_root⟩
      obtain ⟨e, hlook⟩ : ∃ e, d.lookup (ofPlace (Q₀ ++ [n])) false = .error e := by
        cases hl : d.lookup (ofPlace (Q₀ ++ [n])) false with
        | error e => exact ⟨e, rfl⟩
        | ok r =>
          obtain ⟨P₀, hP₀, -⟩ := lookup_parent hd hQ₀ hn hl
          exact absurd ⟨P₀, hP₀⟩ hpar
      have hcode : d.mkdirCode (ofPlace (Q₀ ++ [n])) = .error e := by simp [mkdirCode, hlook]
      have hfollow := lookup_followed_of_error hlook
      rw [hfuel, mkdirsLoop]
      cases e with
      | ENOENT =>
        -- a directory on the way is missing: the parent path goes first
        simp only [hcode, beforeLastSlash_ofPlace hQ₀0 hn, bne_iff_ne, ne_eq,
          ofPlace_ne_snoc hQ₀0, not_false_eq_true, ↓reduceIte]
        rw [show g + 2 * Q₀.length + 2 = (g + 1) + 2 * Q₀.length + 1 by omega]
        rcases ih hQ₀ (g + 1) (ofPlace (Q₀ ++ [n]) :: pending) with
          ⟨d₁, P₀, f₀, hm, hl, hrun⟩ | ⟨e', hrun⟩
        · rw [hrun, show g + 1 + f₀ = (g + f₀) + 1 by omega]
          rcases mkdirsLoop_child hd hQ₀ hn hm hl (g + f₀) pending with
            ⟨d', P, f', hm', hl', hrun'⟩ | ⟨e'', hrun'⟩
          · exact .inl ⟨d', P, f₀ + f', hm', hl', by
              rw [hrun', show g + f₀ + f' = g + (f₀ + f') by omega]⟩
          · exact .inr ⟨e'', hrun'⟩
        · exact .inr ⟨e', hrun⟩
      | ENOTDIR => simp [hcode]
      | EEXIST => simp [hcode, hfollow]
      | EISDIR => simp [hcode, hfollow]
      | ELOOP => simp [hcode, hfollow]
      | ENOTEMPTY => simp [hcode, hfollow]
      | EINVAL => simp [hcode, hfollow]
      | EBUSY => simp [hcode, hfollow]

/-- Making a directory and its parents, once the path leads to the directory `P`: the
change made only directories on the way down to `P`, each where nothing was. -/
theorem mkdirs_made {Q : Place} (hQ : ∀ m ∈ Q, IsName m) (hmk : d.mkdirs (ofPlace Q) = .ok d')
    (hlead : d'.LeadsTo Q P) : MadeTo d d' P := by
  have hlen := length_le_ofPlace Q
  unfold mkdirs at hmk
  rw [show 4 * (ofPlace Q).length + 8 = (4 * (ofPlace Q).length + 7 - 2 * Q.length) +
    2 * Q.length + 1 by omega] at hmk
  rcases mkdirsLoop_made hd Q hQ _ [] with ⟨d'', P', f', hm, hl, hrun⟩ | ⟨e, hrun⟩
  · rw [hrun, mkdirsLoop_nil] at hmk
    obtain rfl : d'' = d' := Except.ok.inj hmk
    rw [hl.unique hlead] at hm
    exact hm
  · rw [hrun] at hmk
    cases hmk

end made

end Disk

end FolderSink
