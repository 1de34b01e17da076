import FolderSink.Proofs.Disk.Parents
/-!
What stands on the way down to a folder, and what making the folder does about it. The way is
walked as the system stats paths, each place's path with its links followed: the first place
whose path leads to something other than a directory blocks the way (`BlockedAt`), and a way
on which every place that is there leads to a directory is clear (`WayClear`). Main
statements:

* `mkdirs_of_blocked`: making the folder through a blocked way is refused, with `EEXIST` when
  the folder itself blocks it and with `ENOTDIR` when a place above it does;
* `mkdirs_of_wayClear`: making it through a clear way succeeds, makes only the missing
  directories, and leaves the folder's path leading to a directory;
* `mkdirs_of_dangling`: a link at the folder's place that leads nowhere neither blocks nor
  clears the way, and making the folder is refused as missing.
-/

namespace FolderSink

namespace Disk

open FolderSink.Path

variable {d : Disk}

section leaf

/-- A walk whose names `cs` end, links followed, at something other than a directory cannot
go on: more names that are not all empty are refused, as below a file. -/
theorem walk_append_leaf (hd : d.Wf) {P : Place} {k : Kind} (hk : k ≠ .dir)
    {rest : List String} (hrest : ∃ x ∈ rest, x ≠ "") (g : Nat) (follow : Bool) :
    ∀ f cur cs links, d.get? cur = some .dir → d.walk f cur cs true links = .ok (P, some k) →
      d.walk (f + g) cur (cs ++ rest) follow links = .error .ENOTDIR := by
  have hlast : ∀ cs : List String, (cs ++ rest).all (· == "") = false := by
    intro cs
    obtain ⟨x, hx, hne⟩ := hrest
    rw [Bool.eq_false_iff]
    intro hall
    exact hne (by simpa using List.all_eq_true.mp hall x (by simp [hx]))
  intro f
  induction f with
  | zero => intro cur cs links _ h; simp [walk] at h
  | succ f ih =>
    intro cur cs links hcur h
    rw [Nat.add_right_comm]
    cases cs with
    | nil =>
      -- the walk stopped in the directory it stands in
      simp only [walk, Except.ok.injEq, Prod.mk.injEq] at h
      obtain ⟨rfl, hk'⟩ := h
      rw [hcur] at hk'
      exact absurd (Option.some.inj hk').symm hk
    | cons c cs =>
      rw [walk] at h
      rw [List.cons_append, walk]
      simp only [hlast cs, Bool.false_and, Bool.false_eq_true, ↓reduceIte]
      split
      · rw [if_pos ‹_›] at h
        exact ih cur cs links hcur h
      · rw [if_neg ‹_›] at h
        split
        · rw [if_pos ‹_›] at h
          have hup : d.get? cur.dropLast = some .dir := by
            rcases eq_or_ne cur [] with rfl | hne
            · rfl
            · exact hd.get?_dropLast hne hcur
          exact ih cur.dropLast cs links hup h
        · rw [if_neg ‹_›] at h
          simp only at h ⊢
          cases hk' : d.get? (cur ++ [c]) with
          | none =>
            rw [hk'] at h
            simp only at h
            split at h <;> simp at h
          | some k' =>
            rw [hk'] at h
            cases k' with
            | dir => exact ih (cur ++ [c]) cs links hk' h
            | link t =>
              -- the link is followed on both walks, from the root or from where it is
              simp only [Bool.not_true, Bool.and_false, Bool.false_eq_true, ↓reduceIte] at h ⊢
              split
              · rw [if_pos ‹_›] at h; simp at h
              · rw [if_neg ‹_›] at h
                split
                · rw [if_pos ‹_›] at h; simp at h
                · rw [if_neg ‹_›] at h
                  have hfrom : d.get? (if t.startsWith "/" = true then [] else cur) = some .dir := by
                    split
                    · rfl
                    · exact hcur
                  rw [← List.append_assoc]
                  exact ih _ _ _ hfrom h
            | file content mode => rfl
            | fifo => rfl

/-- Where the path of `X` leads, links followed, to something other than a directory, the path
of every place below `X` is refused: the way on is not a directory. -/
theorem lookup_append_leaf (hd : d.Wf) {X rest : Place} (hX : ∀ m ∈ X, IsName m) (hX0 : X ≠ [])
    (hrest : ∀ m ∈ rest, IsName m) (hne : rest ≠ []) {P : Place} {k : Kind} (hk : k ≠ .dir)
    (h : d.lookup (ofPlace X) true = .ok (P, some k)) (follow : Bool) :
    d.lookup (ofPlace (X ++ rest)) follow = .error .ENOTDIR := by
  have hXr : ∀ m ∈ X ++ rest, IsName m := List.forall_mem_append.mpr ⟨hX, hrest⟩
  rw [lookup_eq_walk, show (ofPlace X).splitOn "/" = "" :: X from names_ofPlace hX0 hX] at h
  rw [lookup_eq_walk, show (ofPlace (X ++ rest)).splitOn "/" = "" :: (X ++ rest) from
    names_ofPlace (by simp [hX0]) hXr]
  obtain ⟨x, hx⟩ := List.exists_mem_of_ne_nil rest hne
  have hlen : ("" :: (X ++ rest)).length + (maxLinks + 1) * (d.longestTarget + 1) + 2 =
      ("" :: X).length + (maxLinks + 1) * (d.longestTarget + 1) + 2 + rest.length := by
    simp
    omega
  rw [hlen, ← List.cons_append]
  exact walk_append_leaf hd hk ⟨x, hx, (hrest x hx).1⟩ rest.length follow _ [] ("" :: X) 0
    (get?_nil d) h

end leaf

/-- The path of `Y` leads, links followed, to a directory exactly when the system's `stat`
finds one there. -/
theorem stat?_eq_dir_iff {Y : Place} :
    d.stat? (ofPlace Y) = .ok (some .dir) ↔ ∃ P, d.LeadsTo Y P := by
  unfold stat? LeadsTo
  constructor
  · intro h
    cases hl : d.lookup (ofPlace Y) true with
    | ok r =>
      obtain ⟨P, k⟩ := r
      rw [hl] at h
      obtain rfl : k = some .dir := Except.ok.inj h
      exact ⟨P, rfl⟩
    | error e =>
      rw [hl] at h
      cases e <;> simp at h
  · rintro ⟨P, hP⟩
    rw [hP]

theorem stat?_root : d.stat? (ofPlace []) = .ok (some .dir) :=
  stat?_eq_dir_iff.mpr ⟨[], leadsTo_root⟩

theorem stat?_eq_some {Y : Place} {k : Kind} (h : d.stat? (ofPlace Y) = .ok (some k)) :
    ∃ P, d.lookup (ofPlace Y) true = .ok (P, some k) := by
  unfold stat? at h
  cases hl : d.lookup (ofPlace Y) true with
  | ok r =>
    obtain ⟨P, k'⟩ := r
    rw [hl] at h
    obtain rfl : k' = some k := Except.ok.inj h
    exact ⟨P, rfl⟩
  | error e =>
    rw [hl] at h
    cases e <;> simp at h

section blocked

/-- The place `X` on the way down to `Q` is the first whose path, links followed, leads to
something other than a directory: the path of every place above it leads to a directory. -/
def BlockedAt (d : Disk) (Q X : Place) : Prop :=
  X ≠ [] ∧ X <+: Q ∧ (∀ Y, Y <+: X → Y ≠ X → d.stat? (ofPlace Y) = .ok (some .dir)) ∧
    ∃ k, d.stat? (ofPlace X) = .ok (some k) ∧ k ≠ .dir

/-- At most one place blocks a way: of two, the higher one would lead to a directory. -/
theorem BlockedAt.unique {Q X X' : Place} (h : d.BlockedAt Q X) (h' : d.BlockedAt Q X') :
    X = X' := by
  obtain ⟨-, hXQ, habove, k, hk, hkd⟩ := h
  obtain ⟨-, hXQ', habove', k', hk', hkd'⟩ := h'
  by_contra hne
  rcases List.prefix_or_prefix_of_prefix hXQ hXQ' with hle | hle
  · rw [habove' X hle hne] at hk
    exact hkd (Option.some.inj (Except.ok.inj hk)).symm
  · rw [habove X' hle (Ne.symm hne)] at hk'
    exact hkd' (Option.some.inj (Except.ok.inj hk')).symm

/-- Making a folder through a blocked way is refused: with `EEXIST` when the folder itself
blocks it, with `ENOTDIR` when a place above it does. -/
theorem mkdirs_of_blocked (hd : d.Wf) {Q X : Place} (hQ : ∀ m ∈ Q, IsName m)
    (h : d.BlockedAt Q X) : d.mkdirs (ofPlace Q) =
      .error ⟨if X = Q then .EEXIST else .ENOTDIR, "mkdir", ofPlace Q, none⟩ := by
  obtain ⟨hX0, ⟨rest, rfl⟩, habove, k, hk, hkd⟩ := h
  have hX : ∀ m ∈ X, IsName m := fun m hm => hQ m (by simp [hm])
  obtain ⟨P, hlook⟩ := stat?_eq_some hk
  unfold mkdirs
  rw [show 4 * (ofPlace (X ++ rest)).length + 8 = (4 * (ofPlace (X ++ rest)).length + 7) + 1 by
    omega, mkdirsLoop]
  rcases eq_or_ne rest [] with rfl | hrest
  · -- the folder itself is there and leads to something other than a directory
    obtain ⟨X₀, n, rfl⟩ : ∃ X₀ n, X = X₀ ++ [n] :=
      ⟨X.dropLast, X.getLast hX0, (List.dropLast_append_getLast hX0).symm⟩
    have hX₀ : ∀ m ∈ X₀, IsName m := fun m hm => hX m (by simp [hm])
    have hn : IsName n := hX n (by simp)
    obtain ⟨P₀, hP₀⟩ := stat?_eq_dir_iff.mp (habove X₀ (List.prefix_append _ _) (by simp))
    -- were nothing at the place, the followed lookup would find nothing either
    obtain ⟨k₀, hk₀⟩ : ∃ k₀, d.get? (P₀ ++ [n]) = some k₀ := by
      cases hg : d.get? (P₀ ++ [n]) with
      | none =>
        rw [lookup_child_followed hX₀ hn hP₀ (by simp [hg]), hg] at hlook
        cases hlook
      | some k₀ => exact ⟨k₀, rfl⟩
    have hcode : d.mkdirCode (ofPlace (X₀ ++ [n])) = .error .EEXIST := by
      simp [mkdirCode, lookup_child_unfollowed hX₀ hn hP₀, hk₀]
    simp only [List.append_nil, hcode, hlook, if_true]
    cases k with
    | dir => exact absurd rfl hkd
    | _ => rfl
  · -- a place above the folder: the way on is not a directory
    have hcode : d.mkdirCode (ofPlace (X ++ rest)) = .error .ENOTDIR := by
      simp [mkdirCode, lookup_append_leaf hd hX hX0 (fun m hm => hQ m (by simp [hm])) hrest hkd
        hlook false]
    simp [hcode, hrest, Except.mapError]

end blocked

section clear

/-- Every place on the way down to `Q` that is there, its last link not followed, leads to a
directory, links followed: no file stands on the way, and no link that leads elsewhere. -/
def WayClear (d : Disk) (Q : Place) : Prop :=
  ∀ Y, Y <+: Q → d.lstat? (ofPlace Y) = .ok none ∨ d.stat? (ofPlace Y) = .ok (some .dir)

/-- A clear way splits into a part whose path leads to a directory `A` and names below `A` that
are all missing. -/
theorem WayClear.split (hd : d.Wf) {Q : Place} (hQ : ∀ m ∈ Q, IsName m) (h : d.WayClear Q) :
    ∃ X B A, Q = X ++ B ∧ d.LeadsTo X A ∧ ∀ x, x ≠ [] → x <+: B → d.get? (A ++ x) = none := by
  induction Q using List.reverseRecOn with
  | nil => exact ⟨[], [], [], rfl, leadsTo_root, fun x hx hpre => absurd (List.prefix_nil.mp hpre) hx⟩
  | append_singleton Q n ih =>
    have hQ₀ : ∀ m ∈ Q, IsName m := fun m hm => hQ m (by simp [hm])
    have hn : IsName n := hQ n (by simp)
    obtain ⟨X, B, A, rfl, hlead, hmiss⟩ :=
      ih hQ₀ fun Y hY => h Y (hY.trans (List.prefix_append _ _))
    have hX : ∀ m ∈ X, IsName m := fun m hm => hQ₀ m (by simp [hm])
    by_cases hB : B = []
    · subst hB
      rw [List.append_nil] at h ⊢
      rcases h (X ++ [n]) (List.prefix_refl _) with hnone | hdir
      · -- nothing is there: the name is the first missing one below `A`
        refine ⟨X, [n], A, rfl, hlead, fun x hx hpre => ?_⟩
        obtain ⟨a, x', rfl⟩ := List.exists_cons_of_ne_nil hx
        obtain ⟨rfl, rfl⟩ : a = n ∧ x' = [] := by simpa using hpre
        rw [lstat?_child hX hn hlead] at hnone
        exact Except.ok.inj hnone
      · obtain ⟨P, hP⟩ := stat?_eq_dir_iff.mp hdir
        exact ⟨X ++ [n], [], P, by simp, hP, fun x hx hpre => absurd (List.prefix_nil.mp hpre) hx⟩
    · refine ⟨X, B ++ [n], A, by simp, hlead, fun x hx hpre => ?_⟩
      rcases List.prefix_concat_iff.mp hpre with rfl | hpre
      · -- below a missing place nothing is
        cases hk : d.get? (A ++ (B ++ [n])) with
        | none => rfl
        | some k =>
          have hpar := hd.get?_dropLast (by simp) hk
          rw [← List.append_assoc, List.dropLast_concat, hmiss B hB (List.prefix_refl _)] at hpar
          cases hpar
      · exact hmiss x hx hpre

/-- Making a folder through a clear way succeeds: the missing places below the last directory
on the way become directories, nothing else changes, and the folder's path leads to a
directory. -/
theorem mkdirs_of_wayClear (hd : d.Wf) {Q : Place} (hQ : ∀ m ∈ Q, IsName m) (h : d.WayClear Q) :
    ∃ d' P, d.mkdirs (ofPlace Q) = .ok d' ∧ d'.LeadsTo Q P ∧ MadeTo d d' P := by
  obtain ⟨X, B, A, rfl, hlead, hmiss⟩ := h.split hd hQ
  have hX : ∀ m ∈ X, IsName m := fun m hm => hQ m (by simp [hm])
  suffices hmade : ∃ d' P, d.mkdirs (ofPlace (X ++ B)) = .ok d' ∧ d'.LeadsTo (X ++ B) P by
    obtain ⟨d', P, hmk, hl⟩ := hmade
    exact ⟨d', P, hmk, hl, mkdirs_made hd hQ hmk hl⟩
  by_cases hB : B = []
  · subst hB
    rw [List.append_nil]
    exact ⟨d, A, mkdirs_of_leadsTo hlead, hlead⟩
  · have hfuel : 2 * B.length ≤ 4 * (ofPlace (X ++ B)).length + 8 := by
      have := length_le_ofPlace (X ++ B)
      simp only [List.length_append] at this
      omega
    obtain ⟨d', -, -, hl, hrun⟩ := mkdirsLoop_chain hd hX hlead B hB
      (fun m hm => hQ m (by simp [hm])) hmiss (4 * (ofPlace (X ++ B)).length + 8 - 2 * B.length) []
    refine ⟨d', A ++ B, ?_, hl⟩
    unfold mkdirs
    rw [show 4 * (ofPlace (X ++ B)).length + 8 =
        (4 * (ofPlace (X ++ B)).length + 8 - 2 * B.length) + 2 * B.length by omega,
      hrun, mkdirsLoop_nil]
    rfl

end clear

/-- A link at the folder's place that leads nowhere: making the folder finds an entry there,
follows the link, finds nothing, and is refused as missing. -/
theorem mkdirs_of_dangling {Q₀ P₀ : Place} {n t : String} (hQ₀ : ∀ m ∈ Q₀, IsName m)
    (hn : IsName n) (hlead : d.LeadsTo Q₀ P₀) (hk : d.get? (P₀ ++ [n]) = some (.link t))
    {P : Place} (hnone : d.lookup (ofPlace (Q₀ ++ [n])) true = .ok (P, none)) :
    d.mkdirs (ofPlace (Q₀ ++ [n])) = .error ⟨.ENOENT, "mkdir", ofPlace (Q₀ ++ [n]), none⟩ := by
  have hcode : d.mkdirCode (ofPlace (Q₀ ++ [n])) = .error .EEXIST := by
    simp [mkdirCode, lookup_child_unfollowed hQ₀ hn hlead, hk]
  unfold mkdirs
  rw [show 4 * (ofPlace (Q₀ ++ [n])).length + 8 = (4 * (ofPlace (Q₀ ++ [n])).length + 7) + 1 by
    omega, mkdirsLoop]
  simp [hcode, hnone, Except.mapError]

end Disk

end FolderSink
