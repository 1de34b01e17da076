import FolderSink.Disk.Resolve
import FolderSink.Proofs.Disk.Shape
/-!
Looking up paths that are written from places. A lookup walks the names of a path one by
one, following links; the tree operations look up the entries of a directory by joining a
name to the directory's path. Main statements:

* `walk_append`: a walk whose first names lead to a directory goes on from that directory;
* `lookup_child`: in a directory that a path leads to, the path of an entry leads to the entry
  itself, without following a link there unless asked;
* `leadsTo_append`: a path leads on through directories, name by name.
-/

namespace FolderSink

namespace Disk

open FolderSink.Path

variable {d : Disk}

/-- The path of `Q` leads to the directory `P` of `d`, links on the way followed. -/
def LeadsTo (d : Disk) (Q P : Place) : Prop := d.lookup (ofPlace Q) true = .ok (P, some .dir)

/-- A walk whose names `cs` lead to a directory `P`, followed by names `rest` that are not
all empty, goes on from `P` with the same spare fuel. -/
theorem walk_append {P : Place} {rest : List String} (hrest : ∃ x ∈ rest, x ≠ "")
    (g : Nat) (follow : Bool) :
    ∀ f cur cs links, d.walk f cur cs true links = .ok (P, some .dir) →
      ∃ f' links', 0 < f' ∧
        d.walk (f + g) cur (cs ++ rest) follow links = d.walk (f' + g) P rest follow links' := by
  have hlast : ∀ cs : List String, (cs ++ rest).all (· == "") = false := by
    intro cs
    obtain ⟨x, hx, hne⟩ := hrest
    rw [Bool.eq_false_iff]
    intro hall
    exact hne (by simpa using List.all_eq_true.mp hall x (by simp [hx]))
  intro f
  induction f with
  | zero => intro cur cs links h; simp [walk] at h
  | succ f ih =>
    intro cur cs links h
    rw [Nat.add_right_comm]
    cases cs with
    | nil =>
      simp only [walk, Except.ok.injEq, Prod.mk.injEq] at h
      obtain ⟨rfl, -⟩ := h
      exact ⟨f + 1, links, by omega, by rw [List.nil_append, Nat.add_right_comm]⟩
    | cons c cs =>
      rw [walk] at h
      rw [List.cons_append, walk]
      simp only [hlast cs, Bool.false_and, Bool.false_eq_true, ↓reduceIte]
      split
      · -- an empty name or `.` stays put
        rw [if_pos ‹_›] at h
        exact ih cur cs links h
      · rw [if_neg ‹_›] at h
        split
        · rw [if_pos ‹_›] at h
          exact ih cur.dropLast cs links h
        · rw [if_neg ‹_›] at h
          simp only at h ⊢
          cases hk : d.get? (cur ++ [c]) with
          | none =>
            rw [hk] at h
            simp only at h
            split at h <;> simp at h
          | some k =>
            rw [hk] at h
            cases k with
            | dir => exact ih (cur ++ [c]) cs links h
            | link t =>
              -- the link is followed on both walks, so the target's names come first
              simp only [Bool.not_true, Bool.and_false, Bool.false_eq_true, ↓reduceIte] at h ⊢
              split
              · rw [if_pos ‹_›] at h; simp at h
              · rw [if_neg ‹_›] at h
                split
                · rw [if_pos ‹_›] at h; simp at h
                · rw [if_neg ‹_›] at h
                  rw [← List.append_assoc]
                  exact ih _ _ _ h
            | file content mode =>
              simp only at h
              split at h <;> simp at h
            | fifo =>
              simp only at h
              split at h <;> simp at h

/-- The last step of a walk: a name below a directory reaches the entry of that name,
a link there not followed unless asked. -/
theorem walk_name {P : Place} {n : String} (hn : IsName n) (f links : Nat) {follow : Bool}
    (hfollow : follow = true → ∀ t, d.get? (P ++ [n]) ≠ some (.link t)) :
    d.walk (f + 2) P [n] follow links = .ok (P ++ [n], d.get? (P ++ [n])) := by
  obtain ⟨h0, h1, h2, -⟩ := hn
  have hdot : (n == "" || n == ".") = false := by simp [h0, h1]
  have hup : (n == "..") = false := by simpa using h2
  rw [walk]
  simp only [hdot, hup, Bool.false_eq_true, ↓reduceIte, List.all_nil, List.isEmpty_nil,
    Bool.not_true, Bool.true_and]
  cases hk : d.get? (P ++ [n]) with
  | none => rfl
  | some k =>
    cases k with
    | dir => simp [walk, hk]
    | link t =>
      cases follow with
      | false => rfl
      | true => exact absurd hk (hfollow rfl t)
    | file content mode => rfl
    | fifo => rfl

/-- A walk moves only between directories: where it stops, the names are names an entry can
have, the parent is a directory, and what it reports is what is there. -/
theorem walk_reaches (hd : d.Wf) {place : Place} {k : Option Kind} :
    ∀ f cur cs follow links, (∀ c ∈ cs, '/' ∉ c.toList) → d.get? cur = some .dir →
      (∀ n ∈ cur, IsName n) → d.walk f cur cs follow links = .ok (place, k) →
      k = d.get? place ∧ (∀ n ∈ place, IsName n) ∧ d.get? place.dropLast = some .dir := by
  intro f
  induction f with
  | zero => intro cur cs follow links _ _ _ h; simp [walk] at h
  | succ f ih =>
    intro cur cs follow links hcs hcur hnames h
    -- the parent of a directory that the walk stands on is a directory
    have hup : d.get? cur.dropLast = some .dir := by
      by_cases hc : cur = []
      · simp [hc]
      · exact hd.get?_dropLast hc hcur
    cases cs with
    | nil =>
      simp only [walk, Except.ok.injEq, Prod.mk.injEq] at h
      obtain ⟨rfl, rfl⟩ := h
      exact ⟨rfl, hnames, hup⟩
    | cons c cs =>
      have hcs' : ∀ c ∈ cs, '/' ∉ c.toList := fun c hc => hcs c (by simp [hc])
      rw [walk] at h
      split at h
      · exact ih cur cs follow links hcs' hcur hnames h
      · split at h
        · exact ih cur.dropLast cs follow links hcs' hup
            (fun n hn => hnames n ((List.dropLast_sublist cur).subset hn)) h
        · -- a proper name: what the walk meets there decides
          have hc : IsName c := ⟨by simp_all, by simp_all, by simp_all, hcs c (by simp)⟩
          have hnames' : ∀ n ∈ cur ++ [c], IsName n := by
            intro n hn
            rcases List.mem_append.mp hn with hn | hn
            · exact hnames n hn
            · simp at hn; exact hn ▸ hc
          simp only at h
          cases hk : d.get? (cur ++ [c]) with
          | none =>
            rw [hk] at h
            simp only at h
            split at h
            · simp only [Except.ok.injEq, Prod.mk.injEq] at h
              obtain ⟨rfl, rfl⟩ := h
              exact ⟨hk.symm, hnames', by simpa using hcur⟩
            · simp at h
          | some k' =>
            rw [hk] at h
            cases k' with
            | dir =>
              simp only at h
              exact ih _ cs follow links hcs' hk hnames' h
            | link t =>
              simp only at h
              split at h
              · simp only [Except.ok.injEq, Prod.mk.injEq] at h
                obtain ⟨rfl, rfl⟩ := h
                exact ⟨hk.symm, hnames', by simpa using hcur⟩
              · split at h
                · simp at h
                · split at h
                  · simp at h
                  · -- the target's names go first, from the root or from here
                    refine ih _ _ follow _ ?_ ?_ ?_ h
                    · intro x hx
                      rcases List.mem_append.mp hx with hx | hx
                      · exact slash_not_mem_of_mem_splitOn hx
                      · exact hcs' x hx
                    · split <;> simp_all
                    · split
                      · simp
                      · exact hnames
            | file content mode =>
              simp only at h
              split at h
              · simp only [Except.ok.injEq, Prod.mk.injEq] at h
                obtain ⟨rfl, rfl⟩ := h
                exact ⟨hk.symm, hnames', by simpa using hcur⟩
              · simp at h
            | fifo =>
              simp only at h
              split at h
              · simp only [Except.ok.injEq, Prod.mk.injEq] at h
                obtain ⟨rfl, rfl⟩ := h
                exact ⟨hk.symm, hnames', by simpa using hcur⟩
              · simp at h

/-- A lookup ends at a place of entry names whose parent is a directory. -/
theorem lookup_reaches (hd : d.Wf) {p : String} {follow : Bool} {place : Place}
    {k : Option Kind} (h : d.lookup p follow = .ok (place, k)) :
    k = d.get? place ∧ (∀ n ∈ place, IsName n) ∧ d.get? place.dropLast = some .dir :=
  walk_reaches hd _ [] _ follow 0 (fun _ hc => slash_not_mem_of_mem_splitOn hc) (by simp)
    (by simp) h

/-- A path leads only to a directory of entry names. -/
theorem LeadsTo.dir (hd : d.Wf) {Q P : Place} (h : d.LeadsTo Q P) :
    d.get? P = some .dir ∧ ∀ n ∈ P, IsName n := by
  obtain ⟨hk, hn, -⟩ := lookup_reaches hd h
  exact ⟨hk.symm, hn⟩

theorem splitOn_ofPlace_nil : (ofPlace []).splitOn "/" = ["", ""] := by
  rw [splitOn_slash]
  simp [ofPlace, List.splitOn_cons_eq_if_modifyHead]

theorem lookup_eq_walk (p : String) (follow : Bool) :
    d.lookup p follow =
      d.walk ((p.splitOn "/").length + (maxLinks + 1) * (d.longestTarget + 1) + 2) []
        (p.splitOn "/") follow 0 := rfl

/-- The names of the path of a place, empty ones left out, are the place. -/
theorem splitOn_filter_ofPlace {P : Place} (h : ∀ m ∈ P, IsName m) :
    ((ofPlace P).splitOn "/").filter (· != "") = P := by
  rcases eq_or_ne P [] with rfl | hP
  · rw [splitOn_ofPlace_nil]
    rfl
  · rw [show (ofPlace P).splitOn "/" = "" :: P from names_ofPlace hP h]
    simp only [List.filter_cons, bne_self_eq_false, Bool.false_eq_true, ↓reduceIte]
    exact List.filter_eq_self.mpr fun a ha => by simpa using (h a ha).1

/-- The path of the root leads to the root. -/
theorem leadsTo_root : d.LeadsTo [] [] := by
  unfold LeadsTo
  rw [lookup_eq_walk, splitOn_ofPlace_nil,
    show ["", ""].length + (maxLinks + 1) * (d.longestTarget + 1) + 2 =
      (maxLinks + 1) * (d.longestTarget + 1) + 3 + 1 by simp; omega]
  rfl

/-- Looking up the path of `Q ++ ns` walks the names `ns` on from the directory that the path
of `Q` leads to, with fuel to spare for each of them. -/
theorem lookup_append_eq_walk {Q P : Place} (ns : Place) (follow : Bool) (hQ : ∀ m ∈ Q, IsName m)
    (hns : ∀ m ∈ ns, IsName m) (hne : ns ≠ []) (hdir : d.LeadsTo Q P) :
    ∃ f links, d.lookup (ofPlace (Q ++ ns)) follow = d.walk (f + 1 + ns.length) P ns follow links := by
  have hQns : ∀ m ∈ Q ++ ns, IsName m := List.forall_mem_append.mpr ⟨hQ, hns⟩
  unfold LeadsTo at hdir
  rw [lookup_eq_walk] at hdir ⊢
  rw [show (ofPlace (Q ++ ns)).splitOn "/" = "" :: (Q ++ ns) from
    names_ofPlace (by simp [hne]) hQns]
  by_cases hQ0 : Q = []
  · -- the root: its path `/` has two empty names
    subst hQ0
    rw [splitOn_ofPlace_nil] at hdir
    simp only [List.length_cons, List.length_nil] at hdir
    rw [show 0 + 1 + 1 + (maxLinks + 1) * (d.longestTarget + 1) + 2 =
      ((maxLinks + 1) * (d.longestTarget + 1) + 1) + 1 + 1 + 1 by omega] at hdir
    simp only [walk, beq_self_eq_true, Bool.true_or, ↓reduceIte, get?_nil,
      Except.ok.injEq, Prod.mk.injEq] at hdir
    obtain ⟨rfl, -⟩ := hdir
    refine ⟨(maxLinks + 1) * (d.longestTarget + 1) + 1, 0, ?_⟩
    simp only [List.nil_append, List.length_cons]
    rw [show ns.length + 1 + (maxLinks + 1) * (d.longestTarget + 1) + 2 =
      ((maxLinks + 1) * (d.longestTarget + 1) + 1 + 1 + ns.length) + 1 by omega, walk]
    simp
  · rw [show (ofPlace Q).splitOn "/" = "" :: Q from names_ofPlace hQ0 hQ] at hdir
    obtain ⟨x, hx⟩ := List.exists_mem_of_ne_nil ns hne
    obtain ⟨f', links', hf', heq⟩ := walk_append ⟨x, hx, (hns x hx).1⟩ ns.length follow _ []
      ("" :: Q) 0 hdir
    refine ⟨f' - 1, links', ?_⟩
    have hlen : ("" :: (Q ++ ns)).length + (maxLinks + 1) * (d.longestTarget + 1) + 2 =
        ("" :: Q).length + (maxLinks + 1) * (d.longestTarget + 1) + 2 + ns.length := by
      simp; omega
    rw [hlen, ← List.cons_append, heq, show f' - 1 + 1 = f' by omega]

/-- In a directory that a path leads to, the path of an entry leads to the entry, a link
there not followed unless asked. -/
theorem lookup_child {Q P : Place} {n : String} {follow : Bool} (hQ : ∀ m ∈ Q, IsName m)
    (hn : IsName n) (hdir : d.LeadsTo Q P)
    (hfollow : follow = true → ∀ t, d.get? (P ++ [n]) ≠ some (.link t)) :
    d.lookup (ofPlace (Q ++ [n])) follow = .ok (P ++ [n], d.get? (P ++ [n])) := by
  obtain ⟨f, links, heq⟩ := lookup_append_eq_walk [n] follow hQ (by simpa using hn) (by simp) hdir
  rw [heq]
  exact walk_name hn f links hfollow

/-- A missing name with more names after it stops a walk: the way on is not there. -/
theorem walk_missing {P : Place} {n : String} {rest : List String} (hn : IsName n)
    (hrest : ∃ x ∈ rest, x ≠ "") (hk : d.get? (P ++ [n]) = none) (f links : Nat)
    {follow : Bool} : d.walk (f + 1) P (n :: rest) follow links = .error .ENOENT := by
  obtain ⟨h0, h1, h2, -⟩ := hn
  have hdot : (n == "" || n == ".") = false := by simp [h0, h1]
  have hup : (n == "..") = false := by simpa using h2
  have hlast : rest.all (· == "") = false := by
    obtain ⟨x, hx, hne⟩ := hrest
    rw [Bool.eq_false_iff]
    intro hall
    exact hne (by simpa using List.all_eq_true.mp hall x hx)
  rw [walk]
  simp [hdot, hup, hk, hlast]

/-- In a directory that a path leads to, the path through a missing entry to something below
it is refused as missing. -/
theorem lookup_missing {Q P : Place} {n : String} {rest : List String} (follow : Bool)
    (hQ : ∀ m ∈ Q, IsName m) (hn : IsName n) (hrest : ∀ m ∈ rest, IsName m) (hne : rest ≠ [])
    (hdir : d.LeadsTo Q P) (hk : d.get? (P ++ [n]) = none) :
    d.lookup (ofPlace (Q ++ n :: rest)) follow = .error .ENOENT := by
  obtain ⟨f, links, heq⟩ := lookup_append_eq_walk (n :: rest) follow hQ
    (List.forall_mem_cons.mpr ⟨hn, hrest⟩) (by simp) hdir
  obtain ⟨x, hx⟩ := List.exists_mem_of_ne_nil rest hne
  rw [heq]
  exact walk_missing hn ⟨x, hx, (hrest x hx).1⟩ hk _ links

/-- In a directory that a path leads to, the path through an entry that is neither a
directory nor a link to something below it is refused: the entry is not a directory. -/
theorem lookup_below_leaf {Q P : Place} {n c : String} {k : Kind} (follow : Bool)
    (hQ : ∀ m ∈ Q, IsName m) (hn : IsName n) (hc : IsName c) (hdir : d.LeadsTo Q P)
    (hk : d.get? (P ++ [n]) = some k) (hkd : k ≠ .dir) (hkl : ∀ t, k ≠ .link t) :
    d.lookup (ofPlace (Q ++ [n, c])) follow = .error .ENOTDIR := by
  obtain ⟨f, links, heq⟩ := lookup_append_eq_walk [n, c] follow hQ (by simp [hn, hc]) (by simp) hdir
  obtain ⟨h0, h1, h2, -⟩ := hn
  have hdot : (n == "" || n == ".") = false := by simp [h0, h1]
  have hup : (n == "..") = false := by simpa using h2
  have hlast : [c].all (· == "") = false := by simpa using hc.1
  rw [heq, show f + 1 + [n, c].length = (f + 2) + 1 by simp, walk]
  cases k with
  | dir => exact absurd rfl hkd
  | link t => exact absurd rfl (hkl t)
  | file content mode => simp [hdot, hup, hk, hlast]
  | fifo => simp [hdot, hup, hk, hlast]

/-- A directory below a directory that a path leads to is led to by the longer path. -/
theorem leadsTo_child {Q P : Place} {n : String} (hQ : ∀ m ∈ Q, IsName m) (hn : IsName n)
    (hdir : d.LeadsTo Q P) (hd : d.get? (P ++ [n]) = some .dir) :
    d.LeadsTo (Q ++ [n]) (P ++ [n]) := by
  unfold LeadsTo
  rw [lookup_child hQ hn hdir (by simp [hd]), hd]

/-- A directory named at the root is reached by its name. -/
theorem leadsTo_root_child {n : String} (hn : IsName n) (hd : d.get? [n] = some .dir) :
    d.LeadsTo [n] [n] :=
  leadsTo_child (Q := []) (P := []) (by simp) hn leadsTo_root hd

/-- Every place on the way from `P` down to `P ++ rel`, `P` left out, is a directory. -/
def DirsTo (d : Disk) (P rel : Place) : Prop :=
  ∀ x, x ≠ [] → x <+: rel → d.get? (P ++ x) = some .dir

theorem DirsTo.snoc {P rel : Place} {n : String} (h : d.DirsTo P rel)
    (hn : d.get? (P ++ rel ++ [n]) = some .dir) : d.DirsTo P (rel ++ [n]) := by
  intro x hx hpre
  rcases List.prefix_concat_iff.mp hpre with rfl | hpre
  · simpa using hn
  · exact h x hx hpre

theorem DirsTo.congr {d' : Disk} {P rel : Place} (h : d.DirsTo P rel)
    (hsame : ∀ x, x ≠ [] → x <+: rel → d'.get? (P ++ x) = d.get? (P ++ x)) : d'.DirsTo P rel :=
  fun x hx hpre => (hsame x hx hpre).trans (h x hx hpre)

/-- A path leads on through directories, one name after another. -/
theorem leadsTo_append {Q P : Place} (hQ : ∀ m ∈ Q, IsName m) (hdir : d.LeadsTo Q P)
    (rel : Place) (hrel : ∀ m ∈ rel, IsName m) (hdirs : d.DirsTo P rel) :
    d.LeadsTo (Q ++ rel) (P ++ rel) := by
  induction rel generalizing Q P with
  | nil => simpa using hdir
  | cons n rel ih =>
    have hn := hrel n (by simp)
    have hstep := leadsTo_child hQ hn hdir (hdirs [n] (by simp) (by simp))
    have hQn : ∀ m ∈ Q ++ [n], IsName m := by
      intro m hm
      rcases List.mem_append.mp hm with hm | hm
      · exact hQ m hm
      · simp at hm; exact hm ▸ hn
    simpa using ih hQn hstep (fun m hm => hrel m (by simp [hm]))
      (fun x hx hpre => by simpa using hdirs (n :: x) (by simp) (by simpa using hpre))

/-- A place whose entry is a directory is led to by its own path: every place above it is a
directory, so no link is met on the way. -/
theorem leadsTo_self (hd : d.Wf) {P : Place} (hP : d.get? P = some .dir) : d.LeadsTo P P := by
  have hdirs : d.DirsTo [] P := by
    intro x hx hpre
    rcases eq_or_ne x P with rfl | hne
    · simpa using hP
    · simpa using hd.dir_of_under ⟨hpre, hne⟩ hP
  simpa using leadsTo_append (Q := []) (P := []) (by simp) leadsTo_root P (hd.names_of_get? hP) hdirs

section grow

variable {d' : Disk}

/-- The longest link target bounds the names of every link of the disk, and is the least
such bound. -/
theorem longestTarget_le_iff {B : Nat} :
    d.longestTarget ≤ B ↔ ∀ q t, (q, Kind.link t) ∈ d.entries → (t.splitOn "/").length ≤ B := by
  obtain ⟨l⟩ := d
  unfold longestTarget
  simp only
  refine Iff.trans ?_ (and_iff_right (Nat.zero_le B))
  -- the running maximum starts at `m`; it stays within `B` when `m` and every link do
  generalize 0 = m
  induction l generalizing m with
  | nil => simp
  | cons e l ih =>
    obtain ⟨q, k⟩ := e
    rw [List.foldl_cons, ih]
    cases k <;> simp [or_imp, forall_and, and_assoc]

/-- A walk that reaches a directory reaches it on a disk that has every entry of the first,
with as much fuel or more: it only goes on from places where it finds an entry. -/
theorem walk_grow (hsub : ∀ q k, d.get? q = some k → d'.get? q = some k) {P : Place} :
    ∀ f g cur cs follow links, d.walk f cur cs follow links = .ok (P, some .dir) →
      d'.walk (f + g) cur cs follow links = .ok (P, some .dir) := by
  intro f
  induction f with
  | zero => intro g cur cs follow links h; simp [walk] at h
  | succ f ih =>
    intro g cur cs follow links h
    rw [Nat.add_right_comm]
    cases cs with
    | nil =>
      simp only [walk, Except.ok.injEq, Prod.mk.injEq] at h ⊢
      exact ⟨h.1, hsub _ _ h.2⟩
    | cons c cs =>
      rw [walk] at h
      rw [walk]
      split
      · rw [if_pos ‹_›] at h
        exact ih g cur cs follow links h
      · rw [if_neg ‹_›] at h
        split
        · rw [if_pos ‹_›] at h
          exact ih g _ cs follow links h
        · rw [if_neg ‹_›] at h
          simp only at h ⊢
          cases hk : d.get? (cur ++ [c]) with
          | none =>
            -- a missing name ends the walk without a directory
            rw [hk] at h
            simp only at h
            split at h <;> simp at h
          | some k =>
            rw [hk] at h
            rw [hsub _ _ hk]
            cases k with
            | dir => exact ih g _ cs follow links h
            | link t =>
              simp only at h ⊢
              split
              · rw [if_pos ‹_›] at h; simp at h
              · rw [if_neg ‹_›] at h
                split
                · rw [if_pos ‹_›] at h; simp at h
                · rw [if_neg ‹_›] at h
                  split
                  · rw [if_pos ‹_›] at h; simp at h
                  · rw [if_neg ‹_›] at h
                    exact ih g _ _ follow _ h
            | file content mode =>
              simp only at h
              split at h <;> simp at h
            | fifo =>
              simp only at h
              split at h <;> simp at h

/-- A path that leads to a directory still leads there on a disk that has every entry of the
first. -/
theorem LeadsTo.grow (hd : d.Wf) (hsub : ∀ q k, d.get? q = some k → d'.get? q = some k)
    {Q P : Place} (h : d.LeadsTo Q P) : d'.LeadsTo Q P := by
  -- every link of `d` is a link of `d'`, so the lookup on `d'` has at least as much fuel
  have hlong : d.longestTarget ≤ d'.longestTarget := by
    refine longestTarget_le_iff.mpr fun q t hq => longestTarget_le_iff.mp le_rfl q t ?_
    exact mem_of_get? (hd.ne_nil _ hq) (hsub _ _ (hd.get?_of_mem hq))
  obtain ⟨g, hg⟩ := Nat.exists_eq_add_of_le hlong
  unfold LeadsTo at h ⊢
  rw [lookup_eq_walk] at h ⊢
  rw [hg, show ((ofPlace Q).splitOn "/").length + (maxLinks + 1) * (d.longestTarget + g + 1) + 2 =
      (((ofPlace Q).splitOn "/").length + (maxLinks + 1) * (d.longestTarget + 1) + 2) +
        (maxLinks + 1) * g by simp only [maxLinks]; omega]
  exact walk_grow hsub _ _ _ _ _ _ h

end grow

end Disk

end FolderSink
