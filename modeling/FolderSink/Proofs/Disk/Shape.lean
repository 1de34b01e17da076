import FolderSink.Disk.Basic
import FolderSink.Proofs.Path.Slash
import Mathlib.Data.List.Nodup
import Mathlib.Algebra.Order.BigOperators.Group.List
import Mathlib.Algebra.BigOperators.Ring.List
import Mathlib.Algebra.Ring.Nat
/-!
The shape of a file system held as a list of entries. A real file system is a tree:
`Disk.Wf` says that every place is listed once, is made of names an entry can have, and
lies in a directory. Main statements:

* `get?_put`, `get?_removeTree`: what setting an entry and removing a tree leave at each place;
* `mem_children`: the entries of a directory are the places one name below it;
* `Wf.put`, `Wf.removeTree`: both keep a file system well formed;
* `Wf.dir_of_under`: whatever has entries below it is a directory.
-/

namespace FolderSink

namespace Disk

open FolderSink.Path

variable {d d' d'' : Disk} {p q P : Place} {k k' : Kind}

/-- `q` lies strictly below `P`. -/
def Under (P q : Place) : Prop := P <+: q ∧ P ≠ q

instance (P q : Place) : Decidable (Under P q) := inferInstanceAs (Decidable (_ ∧ _))

/-- Two file systems agree everywhere but strictly below `P`. -/
def AgreeOutside (P : Place) (d d' : Disk) : Prop := ∀ q, ¬ Under P q → d.get? q = d'.get? q

theorem AgreeOutside.refl (P : Place) (d : Disk) : AgreeOutside P d d := fun _ _ => rfl

theorem AgreeOutside.trans (h₁ : AgreeOutside P d d') (h₂ : AgreeOutside P d' d'') :
    AgreeOutside P d d'' := fun q hq => (h₁ q hq).trans (h₂ q hq)

theorem under_append {P x : Place} (hx : x ≠ []) : Under P (P ++ x) :=
  ⟨List.prefix_append P x, by simpa using hx⟩

theorem Under.extend {P q r : Place} (h : Under P q) (hr : q <+: r) : Under P r := by
  refine ⟨h.1.trans hr, ?_⟩
  rintro rfl
  exact h.2 (List.IsPrefix.eq_of_length (h.1) (Nat.le_antisymm h.1.length_le hr.length_le))

@[simp] theorem get?_nil (d : Disk) : d.get? [] = some .dir := rfl

theorem get?_of_ne_nil (hp : p ≠ []) : d.get? p = d.entries.lookup p := by
  simp [get?, List.isEmpty_iff, hp]

theorem lookup_filter_key {l : List (Place × Kind)} (f : Place → Bool) (q : Place) :
    (l.filter (fun e => f e.1)).lookup q = if f q then l.lookup q else none := by
  induction l with
  | nil => simp
  | cons e l ih =>
    obtain ⟨a, b⟩ := e
    by_cases hq : q = a
    · subst hq
      by_cases hf : f q <;> simp [hf, ih]
    · have hne : (q == a) = false := by simpa using hq
      by_cases hf : f a <;> simp [hf, ih, List.lookup_cons, hne]

theorem lookup_eq_some_of_mem {l : List (Place × Kind)} (hl : (l.map Prod.fst).Nodup)
    (h : (p, k) ∈ l) : l.lookup p = some k := by
  obtain ⟨l₁, l₂, rfl⟩ := List.append_of_mem h
  rw [List.lookup_eq_some_iff]
  refine ⟨l₁, l₂, rfl, ?_⟩
  intro e he
  have hnd := (List.nodup_append.mp (by simpa using hl)).2.2
  have := hnd e.1 (List.mem_map_of_mem he) p (by simp)
  simpa [bne_iff_ne, ne_comm] using this

theorem mem_of_lookup_eq_some {l : List (Place × Kind)} (h : l.lookup p = some k) :
    (p, k) ∈ l := by
  obtain ⟨l₁, l₂, rfl, -⟩ := List.lookup_eq_some_iff.mp h
  simp

theorem mem_of_get? (hp : p ≠ []) (h : d.get? p = some k) : (p, k) ∈ d.entries := by
  rw [get?_of_ne_nil hp] at h
  exact mem_of_lookup_eq_some h

/-- A file system that a real one can be: every place is listed once, is not the root,
is made of names an entry can have, and lies in a directory. -/
structure Wf (d : Disk) : Prop where
  nodup : (d.entries.map Prod.fst).Nodup
  ne_nil : ∀ e ∈ d.entries, e.1 ≠ []
  names : ∀ e ∈ d.entries, ∀ n ∈ e.1, IsName n
  parent : ∀ e ∈ d.entries, d.get? e.1.dropLast = some .dir

theorem Wf.get?_of_mem (hd : d.Wf) (h : (p, k) ∈ d.entries) : d.get? p = some k := by
  rw [get?_of_ne_nil (hd.ne_nil _ h)]
  exact lookup_eq_some_of_mem hd.nodup h

theorem Wf.get?_eq_some_iff (hd : d.Wf) (hp : p ≠ []) : d.get? p = some k ↔ (p, k) ∈ d.entries :=
  ⟨mem_of_get? hp, hd.get?_of_mem⟩

/-- The names of an entry that exists can be written in a path. -/
theorem Wf.isName_of_get? (hd : d.Wf) (hp : p ≠ []) (h : d.get? p = some k) :
    ∀ n ∈ p, IsName n :=
  hd.names _ (mem_of_get? hp h)

/-- The names of a place that holds an entry, the root included. -/
theorem Wf.names_of_get? (hd : d.Wf) (h : d.get? p = some k) : ∀ n ∈ p, IsName n := by
  by_cases hp : p = []
  · simp [hp]
  · exact hd.isName_of_get? hp h

/-- The directory holding an entry. -/
theorem Wf.get?_dropLast (hd : d.Wf) (hp : p ≠ []) (h : d.get? p = some k) :
    d.get? p.dropLast = some .dir :=
  hd.parent _ (mem_of_get? hp h)

/-- Whatever has an entry strictly below it is a directory. -/
theorem Wf.dir_of_under (hd : d.Wf) (hq : Under p q) (h : d.get? q = some k) :
    d.get? p = some .dir := by
  obtain ⟨⟨x, rfl⟩, hne⟩ := hq
  induction x generalizing p with
  | nil => simp at hne
  | cons a x ih =>
    by_cases hx : x = []
    · subst hx
      simpa using hd.get?_dropLast (by simp) h
    · -- the entry one name below `p` is a directory, and it has a kind
      have hmid := ih (p := p ++ [a]) (by simpa using h) (by simpa using hx)
      simpa using hd.get?_dropLast (by simp) hmid

section put

theorem mem_put {e : Place × Kind} (h : e ∈ (d.put p k).entries) :
    e = (p, k) ∨ (e ∈ d.entries ∧ e.1 ≠ p) := by
  unfold put at h
  split at h
  · obtain ⟨e', he', rfl⟩ := List.mem_map.mp h
    by_cases hp : e'.1 = p
    · left; simp [hp]
    · right; simp [hp, he']
  · rename_i hany
    rcases List.mem_append.mp h with h | h
    · right
      refine ⟨h, fun he => hany (List.any_eq_true.mpr ⟨e, h, by simp [he]⟩)⟩
    · left; simpa using h

theorem lookup_cons_of_ne {l : List (Place × Kind)} {a q : Place} (b : Kind) (h : q ≠ a) :
    ((a, b) :: l).lookup q = l.lookup q := by
  have hqa : (q == a) = false := by simpa using h
  simp only [List.lookup_cons, hqa]

theorem lookup_map_replace (l : List (Place × Kind)) (p q : Place) (k : Kind) :
    (l.map fun e => if e.1 = p then (p, k) else e).lookup q =
      if q = p then (if l.any (·.1 == p) then some k else none) else l.lookup q := by
  induction l with
  | nil => by_cases hq : q = p <;> simp [hq]
  | cons e l ih =>
    obtain ⟨a, b⟩ := e
    rw [List.map_cons]
    by_cases ha : a = p
    · subst ha
      rw [if_pos rfl]
      by_cases hq : q = a
      · subst hq
        rw [List.lookup_cons_self, if_pos rfl, if_pos (by simp)]
      · rw [lookup_cons_of_ne k hq, ih, if_neg hq, if_neg hq, lookup_cons_of_ne b hq]
    · rw [if_neg ha]
      by_cases hq : q = a
      · subst hq
        rw [List.lookup_cons_self, if_neg ha, List.lookup_cons_self]
      · rw [lookup_cons_of_ne b hq, ih, lookup_cons_of_ne b hq]
        by_cases hqp : q = p
        · subst hqp
          have hap : (a == q) = false := by simpa using ha
          simp only [if_pos, List.any_cons, hap, Bool.false_or]
        · rw [if_neg hqp, if_neg hqp]

theorem get?_put (hp : p ≠ []) (q : Place) :
    (d.put p k).get? q = if q = p then some k else d.get? q := by
  by_cases hq : q = []
  · subst hq; simp [Ne.symm hp]
  rw [get?_of_ne_nil hq, get?_of_ne_nil hq]
  unfold put
  split
  · rename_i hany
    simp only [beq_iff_eq]
    rw [lookup_map_replace, if_pos hany]
  · rename_i hany
    rw [List.lookup_append]
    by_cases hqp : q = p
    · subst hqp
      have hnone : d.entries.lookup q = none := by
        rw [List.lookup_eq_none_iff]
        intro e he
        rw [bne_iff_ne, ne_eq]
        rintro rfl
        exact hany (List.any_eq_true.mpr ⟨e, he, by simp⟩)
      rw [hnone, List.lookup_cons_self, if_pos rfl]
      rfl
    · rw [if_neg hqp, lookup_cons_of_ne k hqp, List.lookup_nil]
      cases d.entries.lookup q <;> rfl

theorem keys_put (d : Disk) (p : Place) (k : Kind) :
    (d.put p k).entries.map Prod.fst =
      if d.entries.any (·.1 == p) then d.entries.map Prod.fst
      else d.entries.map Prod.fst ++ [p] := by
  unfold put
  split
  · simp only [List.map_map]
    congr 1
    funext e
    simp only [Function.comp_apply]
    split <;> simp_all
  · simp

theorem dropLast_ne (hp : p ≠ []) : p.dropLast ≠ p := by
  intro h
  have := congrArg List.length h
  simp only [List.length_dropLast] at this
  have := List.length_pos_iff.mpr hp
  omega

/-- Setting an entry in a directory keeps a file system well formed, provided the entry
has nothing below it unless it stays a directory. -/
theorem Wf.put (hd : d.Wf) (hp : p ≠ []) (hn : ∀ n ∈ p, IsName n)
    (hpar : d.get? p.dropLast = some .dir) (hk : k = .dir ∨ ∀ q, Under p q → d.get? q = none) :
    (d.put p k).Wf where
  nodup := by
    rw [keys_put]
    split
    · exact hd.nodup
    · rename_i hany
      refine List.nodup_append.mpr ⟨hd.nodup, by simp, ?_⟩
      intro a ha b hb
      simp only [List.mem_singleton] at hb
      subst hb
      rintro rfl
      obtain ⟨e, he, rfl⟩ := List.mem_map.mp ha
      exact hany (List.any_eq_true.mpr ⟨e, he, by simp⟩)
  ne_nil := by
    intro e he
    rcases mem_put he with rfl | ⟨he, -⟩
    · exact hp
    · exact hd.ne_nil e he
  names := by
    intro e he
    rcases mem_put he with rfl | ⟨he, -⟩
    · exact hn
    · exact hd.names e he
  parent := by
    intro e he
    rw [get?_put hp]
    rcases mem_put he with rfl | ⟨he, hne⟩
    · rw [if_neg (dropLast_ne hp), hpar]
    · split
      · rename_i hdrop
        -- `e` lies one name below `p`, so `p` must stay a directory
        rcases hk with rfl | hk
        · rfl
        · have hunder : Under p e.1 := by
            refine ⟨⟨[e.1.getLast (hd.ne_nil e he)], ?_⟩, fun h => hne h.symm⟩
            rw [← hdrop, List.dropLast_concat_getLast]
          have := hk e.1 hunder
          rw [hd.get?_of_mem he] at this
          cases this
      · exact hd.parent e he

end put

section removeTree

theorem get?_removeTree (hp : p ≠ []) (q : Place) :
    (d.removeTree p).get? q = if p <+: q then none else d.get? q := by
  by_cases hq : q = []
  · subst hq
    have : ¬ p <+: [] := fun h => hp (List.prefix_nil.mp h)
    simp [this]
  rw [get?_of_ne_nil hq, get?_of_ne_nil hq]
  unfold removeTree
  rw [lookup_filter_key (fun x => !p.isPrefixOf x)]
  by_cases hpq : p <+: q
  · simp [List.isPrefixOf_iff_prefix.mpr hpq, hpq]
  · have : p.isPrefixOf q = false := by
      rw [Bool.eq_false_iff]
      exact fun h => hpq (List.isPrefixOf_iff_prefix.mp h)
    simp [this, hpq]

/-- Removing a tree keeps a file system well formed. -/
theorem Wf.removeTree (hd : d.Wf) (hp : p ≠ []) : (d.removeTree p).Wf where
  nodup := hd.nodup.sublist (List.filter_sublist.map _)
  ne_nil := fun e he => hd.ne_nil e (List.mem_filter.mp he).1
  names := fun e he => hd.names e (List.mem_filter.mp he).1
  parent := by
    intro e he
    obtain ⟨he, hkeep⟩ := List.mem_filter.mp he
    have hnot : ¬ p <+: e.1 := fun h => by simp [List.isPrefixOf_iff_prefix.mpr h] at hkeep
    rw [get?_removeTree hp, if_neg (fun h => hnot (h.trans (List.dropLast_prefix e.1)))]
    exact hd.parent e he

end removeTree

section move

/-! Moving a tree between two places neither of which lies in the other, as a rename of a
directory to a fresh sibling does. -/

variable {src dst : Place}

theorem mem_move {e : Place × Kind} :
    e ∈ (d.move src dst).entries ↔
      (∃ w, e.1 = dst ++ w ∧ (src ++ w, e.2) ∈ d.entries ∧ ¬ dst <+: src ++ w) ∨
        (e ∈ d.entries ∧ ¬ src <+: e.1 ∧ ¬ dst <+: e.1) := by
  simp only [move, removeTree, List.mem_map, List.mem_filter, Bool.not_eq_true',
    Bool.eq_false_iff, ne_eq, List.isPrefixOf_iff_prefix]
  constructor
  · rintro ⟨e₀, ⟨he₀, hdst⟩, rfl⟩
    split
    · rename_i hsrc
      obtain ⟨w, hw⟩ := hsrc
      refine .inl ⟨w, by simp [← hw], ?_, by rw [hw]; exact hdst⟩
      rw [hw]
      exact he₀
    · exact .inr ⟨he₀, ‹_›, hdst⟩
  · rintro (⟨w, hq, he, hdst⟩ | ⟨he, hsrc, hdst⟩)
    · refine ⟨(src ++ w, e.2), ⟨he, hdst⟩, ?_⟩
      rw [if_pos (List.prefix_append src w)]
      simp [← hq]
    · exact ⟨e, ⟨he, hdst⟩, by rw [if_neg hsrc]⟩

theorem nodup_move (hd : d.Wf) : ((d.move src dst).entries.map Prod.fst).Nodup := by
  have hkeys : (d.move src dst).entries.map Prod.fst =
      ((d.entries.filter fun e => !dst.isPrefixOf e.1).map Prod.fst).map
        fun q => if src.isPrefixOf q then dst ++ q.drop src.length else q := by
    simp only [move, removeTree, List.map_map]
    congr 1
    funext e
    simp only [Function.comp_apply]
    split <;> rfl
  rw [hkeys]
  refine List.Nodup.map_on ?_ (hd.nodup.sublist (List.filter_sublist.map _))
  -- two places kept apart by the source stay apart at the target
  have hnot : ∀ a ∈ (d.entries.filter fun e => !dst.isPrefixOf e.1).map Prod.fst,
      ¬ dst <+: a := by
    intro a ha
    obtain ⟨e, he, rfl⟩ := List.mem_map.mp ha
    have hkept := (List.mem_filter.mp he).2
    intro hp
    simp [List.isPrefixOf_iff_prefix.mpr hp] at hkept
  intro a ha b hb hab
  by_cases hsa : src <+: a
  · by_cases hsb : src <+: b
    · simp only [List.isPrefixOf_iff_prefix.mpr hsa, List.isPrefixOf_iff_prefix.mpr hsb,
        ↓reduceIte, List.append_cancel_left_eq] at hab
      calc a = src ++ a.drop src.length := (List.prefix_iff_eq_append.mp hsa).symm
        _ = src ++ b.drop src.length := by rw [hab]
        _ = b := List.prefix_iff_eq_append.mp hsb
    · simp only [List.isPrefixOf_iff_prefix.mpr hsa, ↓reduceIte] at hab
      rw [if_neg (by simpa [List.isPrefixOf_iff_prefix] using hsb)] at hab
      exact absurd (hab ▸ List.prefix_append dst _) (hnot b hb)
  · rw [if_neg (by simpa [List.isPrefixOf_iff_prefix] using hsa)] at hab
    by_cases hsb : src <+: b
    · simp only [List.isPrefixOf_iff_prefix.mpr hsb, ↓reduceIte] at hab
      exact absurd (hab ▸ List.prefix_append dst _) (hnot a ha)
    · rw [if_neg (by simpa [List.isPrefixOf_iff_prefix] using hsb)] at hab
      exact hab

section apart

variable (hdisj : ¬ src <+: dst ∧ ¬ dst <+: src)
include hdisj

/-- Nothing below the source lies below the target. -/
theorem not_prefix_of_apart (w : Place) : ¬ dst <+: src ++ w := fun h =>
  (List.prefix_or_prefix_of_prefix h (List.prefix_append src w)).elim hdisj.2 hdisj.1

/-- After a move, the target holds what the source held, the source holds nothing, and
every other place is as before. -/
theorem get?_move (hd : d.Wf) (hsrc : src ≠ []) (hdst : dst ≠ []) (q : Place) :
    (d.move src dst).get? q =
      if dst <+: q then d.get? (src ++ q.drop dst.length)
      else if src <+: q then none else d.get? q := by
  by_cases hq : q = []
  · subst hq
    rw [if_neg fun h => hdst (List.prefix_nil.mp h), if_neg fun h => hsrc (List.prefix_nil.mp h)]
    rfl
  rw [get?_of_ne_nil hq]
  apply Option.ext
  intro k
  rw [show (d.move src dst).entries.lookup q = some k ↔ (q, k) ∈ (d.move src dst).entries from
    ⟨mem_of_lookup_eq_some, lookup_eq_some_of_mem (nodup_move hd)⟩, mem_move]
  simp only
  split
  · rename_i hdq
    obtain ⟨z, rfl⟩ := hdq
    rw [hd.get?_eq_some_iff fun h => hsrc (List.append_eq_nil_iff.mp h).1]
    simp only [List.drop_left]
    constructor
    · rintro (⟨w, hw, he, -⟩ | ⟨-, -, hdst'⟩)
      · rwa [List.append_cancel_left hw]
      · exact absurd (List.prefix_append dst z) hdst'
    · intro he
      exact .inl ⟨z, rfl, he, not_prefix_of_apart hdisj z⟩
  · rename_i hdq
    split
    · rename_i hsq
      simp only [reduceCtorEq, iff_false, not_or, not_exists, not_and]
      exact ⟨fun w hw => absurd (hw ▸ List.prefix_append dst w) hdq, fun _ h => absurd hsq h⟩
    · rename_i hsq
      rw [get?_of_ne_nil hq]
      constructor
      · rintro (⟨w, hw, -, -⟩ | ⟨he, -, -⟩)
        · exact absurd (hw ▸ List.prefix_append dst w) hdq
        · exact lookup_eq_some_of_mem hd.nodup he
      · intro he
        exact .inr ⟨mem_of_lookup_eq_some he, hsq, hdq⟩

/-- Moving a tree to a free place in a directory keeps a file system well formed. -/
theorem Wf.move (hd : d.Wf) (hsrc : src ≠ []) (hdst : dst ≠ []) (hn : ∀ m ∈ dst, IsName m)
    (hpar : d.get? dst.dropLast = some .dir) : (d.move src dst).Wf where
  nodup := nodup_move hd
  ne_nil := by
    intro e he
    rcases mem_move.mp he with ⟨w, hw, -, -⟩ | ⟨he, -, -⟩
    · rw [hw]
      exact fun h => hdst (List.append_eq_nil_iff.mp h).1
    · exact hd.ne_nil e he
  names := by
    intro e he
    rcases mem_move.mp he with ⟨w, hw, he, -⟩ | ⟨he, -, -⟩
    · rw [hw]
      intro m hm
      rcases List.mem_append.mp hm with hm | hm
      · exact hn m hm
      · exact hd.names _ he m (List.mem_append_right src hm)
    · exact hd.names e he
  parent := by
    intro e he
    rw [get?_move hdisj hd hsrc hdst]
    rcases mem_move.mp he with ⟨w, hw, he, -⟩ | ⟨he, hse, hde⟩
    · rw [hw]
      by_cases hw0 : w = []
      · -- the moved directory itself lies where the target's parent is
        subst hw0
        have hdd : ¬ dst <+: dst.dropLast := fun h =>
          dropLast_ne hdst (List.IsPrefix.eq_of_length (List.dropLast_prefix dst)
            (Nat.le_antisymm (List.dropLast_prefix dst).length_le h.length_le))
        have hsd : ¬ src <+: dst.dropLast := fun h => hdisj.1 (h.trans (List.dropLast_prefix dst))
        simp only [List.append_nil]
        rw [if_neg hdd, if_neg hsd]
        exact hpar
      · rw [List.dropLast_append_of_ne_nil hw0, if_pos (List.prefix_append dst _),
          List.drop_left, ← List.dropLast_append_of_ne_nil hw0]
        exact hd.parent _ he
    · have hdp : ¬ dst <+: e.1.dropLast := fun h => hde (h.trans (List.dropLast_prefix _))
      have hsp : ¬ src <+: e.1.dropLast := fun h => hse (h.trans (List.dropLast_prefix _))
      rw [if_neg hdp, if_neg hsp]
      exact hd.parent e he

end apart

end move

section children

theorem mem_children (hd : d.Wf) {n : String} :
    (n, k) ∈ d.children P ↔ d.get? (P ++ [n]) = some k := by
  rw [hd.get?_eq_some_iff (by simp), children, List.mem_mergeSort, List.mem_filterMap]
  constructor
  · rintro ⟨⟨q, k'⟩, hq, hf⟩
    simp only at hf
    split at hf
    · rename_i m hm
      split at hf
      · rename_i hdrop
        simp only [Option.some.injEq, Prod.mk.injEq] at hf
        obtain ⟨rfl, rfl⟩ := hf
        obtain ⟨ys, rfl⟩ := List.getLast?_eq_some_iff.mp hm
        rw [beq_iff_eq, List.dropLast_concat] at hdrop
        rw [← hdrop]
        exact hq
      · cases hf
    · cases hf
  · intro h
    refine ⟨(P ++ [n], k), h, ?_⟩
    simp

theorem keys_children (d : Disk) (P : Place) :
    ((d.children P).map Prod.fst).Perm
      ((d.entries.map Prod.fst).filterMap fun q =>
        if q.dropLast = P then q.getLast? else none) := by
  unfold children
  refine ((List.mergeSort_perm _ _).map _).trans ?_
  rw [List.map_filterMap, List.filterMap_map]
  apply List.Perm.of_eq
  congr 1
  funext e
  obtain ⟨q, k⟩ := e
  simp only [Function.comp_apply]
  cases hq : q.getLast? with
  | none => simp
  | some m => by_cases hdrop : q.dropLast = P <;> simp [hdrop]

/-- The names in a directory are distinct. -/
theorem Wf.nodup_children (hd : d.Wf) (P : Place) : ((d.children P).map Prod.fst).Nodup := by
  refine (keys_children d P).nodup_iff.mpr (hd.nodup.filterMap ?_)
  intro a a' m ha ha'
  -- only the place one name `m` below `P` yields `m`
  have key : ∀ q, m ∈ (if q.dropLast = P then q.getLast? else none) → q = P ++ [m] := by
    intro q hq
    simp only [Option.mem_def] at hq
    split at hq
    · rename_i h
      obtain ⟨ys, rfl⟩ := List.getLast?_eq_some_iff.mp hq
      simp only [List.dropLast_concat] at h
      rw [h]
    · cases hq
  rw [key a ha, key a' ha']

/-- Below a directory, the way down to an entry passes through one of its children. -/
theorem Wf.child_on_way (hd : d.Wf) (hq : Under P q) (hk : d.get? q = some k) :
    ∃ m k', d.get? (P ++ [m]) = some k' ∧ P ++ [m] <+: q := by
  obtain ⟨⟨x, rfl⟩, hne⟩ := hq
  have hx : x ≠ [] := by
    rintro rfl
    simp at hne
  obtain ⟨m, x', rfl⟩ := List.exists_cons_of_ne_nil hx
  refine ⟨m, ?_⟩
  by_cases hx' : x' = []
  · subst hx'
    exact ⟨k, hk, List.prefix_refl _⟩
  · refine ⟨.dir, hd.dir_of_under ⟨⟨x', by simp⟩, ?_⟩ hk, ⟨x', by simp⟩⟩
    simpa using hx'

/-- A directory has no children exactly when nothing is below it. -/
theorem Wf.children_eq_nil_iff (hd : d.Wf) :
    d.children P = [] ↔ ∀ q, Under P q → d.get? q = none := by
  constructor
  · intro hnil q hq
    cases hk : d.get? q with
    | none => rfl
    | some k =>
      obtain ⟨m, k', hk', -⟩ := hd.child_on_way hq hk
      have hmem := (mem_children hd).mpr hk'
      simp [hnil] at hmem
  · intro hnone
    apply List.eq_nil_iff_forall_not_mem.mpr
    rintro ⟨n, k⟩ hmem
    have hk := (mem_children hd).mp hmem
    rw [hnone _ (under_append (by simp))] at hk
    cases hk

/-- Nothing is below a place that holds no directory. -/
theorem Wf.none_under (hd : d.Wf) (hk : d.get? p ≠ some .dir) (hq : Under p q) :
    d.get? q = none := by
  cases hq' : d.get? q with
  | none => rfl
  | some k' => exact absurd (hd.dir_of_under hq hq') hk

/-- Nothing is below an entry that is not a directory. -/
theorem Wf.none_under_leaf (hd : d.Wf) (hk : d.get? p = some k) (hdir : k ≠ .dir)
    (hq : Under p q) : d.get? q = none :=
  hd.none_under (by rw [hk]; simpa using hdir) hq

end children

section countBelow

/-- The number of entries strictly below a place. -/
def countBelow (d : Disk) (P : Place) : Nat := d.entries.countP fun e => decide (Under P e.1)

theorem countP_lt_of_imp {α : Type} {l : List α} {p r : α → Bool}
    (himp : ∀ x ∈ l, p x → r x) (hex : ∃ x ∈ l, r x ∧ ¬ p x) : l.countP p < l.countP r := by
  induction l with
  | nil => simp at hex
  | cons a l ih =>
    have hle := List.countP_mono_left (fun x hx => himp x (List.mem_cons_of_mem a hx))
    rw [List.countP_cons, List.countP_cons]
    by_cases ha : r a ∧ ¬ p a
    · simp only [ha.1, ha.2, Bool.false_eq_true, ↓reduceIte]
      omega
    · obtain ⟨x, hx, hrx, hpx⟩ := hex
      rcases List.mem_cons.mp hx with rfl | hx
      · exact absurd ⟨hrx, hpx⟩ ha
      · have hlt := ih (fun y hy => himp y (List.mem_cons_of_mem a hy)) ⟨x, hx, hrx, hpx⟩
        have hpr : p a → r a := himp a (by simp)
        cases hpa : p a <;> cases hra : r a <;> simp_all

/-- The way down to a place passes through one child of `P` only. -/
theorem name_eq_of_prefixes {n n' : String} (h₁ : P ++ [n] <+: q) (h₂ : P ++ [n'] <+: q) :
    n = n' := by
  have := List.IsPrefix.eq_of_length (List.prefix_of_prefix_length_le h₁ h₂ (by simp)) (by simp)
  simpa using this

/-- Only one name of a list of distinct names starts a given place below `P`. -/
theorem countP_child_prefix_le_one {ns : List String} (hns : ns.Nodup) (P q : Place) :
    ns.countP (fun n => decide (P ++ [n] <+: q)) ≤ 1 := by
  have heq : ∀ n n', P ++ [n] <+: q → P ++ [n'] <+: q → n = n' :=
    fun _ _ => name_eq_of_prefixes
  rw [List.countP_eq_length_filter]
  generalize hf : ns.filter (fun n => decide (P ++ [n] <+: q)) = l
  have hnd : l.Nodup := hf ▸ hns.filter _
  have hall : ∀ n ∈ l, P ++ [n] <+: q := by
    intro n hn
    rw [← hf] at hn
    exact of_decide_eq_true (List.mem_filter.mp hn).2
  match l, hnd, hall with
  | [], _, _ => simp
  | [_], _, _ => simp
  | a :: b :: _, hnd, hall =>
    have hab : a ≠ b := by
      rintro rfl
      exact (List.nodup_cons.mp hnd).1 (by simp)
    exact absurd (heq a b (hall a (by simp)) (hall b (by simp))) hab

theorem sum_map_ite_eq_countP {α : Type} (l : List α) (p : α → Bool) :
    (l.map fun a => if p a then 1 else 0).sum = l.countP p := by
  induction l with
  | nil => rfl
  | cons a l ih => simp [List.countP_cons, ih, Nat.add_comm]

/-- The children of a directory, each with what lies below it, are distinct entries below
the directory: their counts, each child counted too, add up to at most the count below
the directory. -/
theorem sum_countBelow_children_le {ns : List String} (hns : ns.Nodup)
    (hmem : ∀ n ∈ ns, d.get? (P ++ [n]) ≠ none) :
    (ns.map fun n => d.countBelow (P ++ [n]) + 1).sum ≤ d.countBelow P := by
  -- a child and what is below it are the entries that the child's place starts
  have hchild : ∀ n ∈ ns, d.countBelow (P ++ [n]) + 1 ≤
      d.entries.countP (fun e => decide (P ++ [n] <+: e.1)) := by
    intro n hn
    apply countP_lt_of_imp
    · intro e _ he
      exact decide_eq_true (of_decide_eq_true he).1
    · obtain ⟨k, hk⟩ := Option.ne_none_iff_exists'.mp (hmem n hn)
      refine ⟨(P ++ [n], k), mem_of_get? (by simp) hk, by simp, ?_⟩
      simp [Under]
  -- distinct children start disjoint sets of entries, all below `P`
  have hsum : ∀ l : List (Place × Kind),
      (ns.map fun n => l.countP (fun e => decide (P ++ [n] <+: e.1))).sum ≤
        l.countP (fun e => decide (Under P e.1)) := by
    intro l
    induction l with
    | nil => simp
    | cons e l ih =>
      simp only [List.countP_cons, List.sum_map_add, sum_map_ite_eq_countP]
      have hone := countP_child_prefix_le_one hns P e.1
      by_cases hU : Under P e.1
      · simp only [hU, decide_true, ↓reduceIte]
        omega
      · have hnone : ns.countP (fun n => decide (P ++ [n] <+: e.1)) = 0 := by
          rw [List.countP_eq_zero]
          intro n _ hn
          exact hU (Under.extend (under_append (by simp)) (of_decide_eq_true hn))
        simp only [hU, decide_false, Bool.false_eq_true, ↓reduceIte]
        omega
  calc (ns.map fun n => d.countBelow (P ++ [n]) + 1).sum
      ≤ (ns.map fun n => d.entries.countP (fun e => decide (P ++ [n] <+: e.1))).sum :=
        List.sum_le_sum hchild
    _ ≤ d.countBelow P := hsum d.entries

theorem countBelow_le_length (d : Disk) (P : Place) : d.countBelow P ≤ d.entries.length :=
  List.countP_le_length

/-- The fuel a tree walk gives the entries of a directory, two for each entry and twice what
lies below it, fits in the fuel the directory was given. -/
theorem sum_fuel_children_le {base : Disk} {f : Nat} (hd : d.Wf)
    (hsub : ∀ c ∈ d.children P, base.get? (P ++ [c.1]) ≠ none)
    (hfuel : 2 * base.countBelow P < f + 1) :
    ((d.children P).map fun c => 2 * (base.countBelow (P ++ [c.1]) + 1)).sum ≤ f := by
  have hsum := sum_countBelow_children_le (d := base) (P := P) (hd.nodup_children P) (by
    intro n hn
    obtain ⟨c, hc, rfl⟩ := List.mem_map.mp hn
    exact hsub c hc)
  rw [List.sum_map_mul_left (r := 2)
    (f := fun c : String × Kind => base.countBelow (P ++ [c.1]) + 1)]
  rw [List.map_map] at hsum
  exact le_trans (Nat.mul_le_mul_left 2 hsum) (by omega)

end countBelow


end Disk

end FolderSink
