import FolderSink.Proofs.Tree.Steps
/-!
Deleting below a directory. The delete visits the entries below a directory deepest first;
it removes a file or a link that the matcher does not keep, and a directory that is not
kept and is empty once its own entries are handled. So an entry survives exactly when it,
or an entry below it, is kept (`holdsKept`): a kept directory keeps the way down to it, but
not what is in it. Main statements:

* `get?_pruneBelow`: what `pruneBelow` leaves, place by place;
* `PrunedAt.union`, `PrunedAt.widen`: pruning composes over places that do not overlap;
* `deleteIn_prunes`: with enough fuel, deleting below a directory that a path leads to prunes
  it, on every disk whose root path is not disturbed by the delete;
* `deleteRecursively_prunes`: the delete of a writer, with the fuel it is given.
-/

namespace FolderSink

namespace Disk

open FolderSink.Path

variable {d d' d₁ d₂ : Disk} {R p q : Place} {k : Kind} {keep : Place → Bool}

/-- Whether an entry at `p` or below it is kept; places are tested by their names below
`R`. -/
def holdsKept (d : Disk) (R : Place) (keep : Place → Bool) (p : Place) : Bool :=
  d.entries.any fun e => p.isPrefixOf e.1 && keep (e.1.drop R.length)

/-- What deleting below `R` leaves: an entry strictly below `R` stays only when it holds a
kept entry. -/
def pruneBelow (d : Disk) (R : Place) (keep : Place → Bool) : Disk :=
  ⟨d.entries.filter fun e => !decide (Under R e.1) || d.holdsKept R keep e.1⟩

theorem holdsKept_iff (hd : d.Wf) :
    d.holdsKept R keep p = true ↔
      ∃ e k, p <+: e ∧ e ≠ [] ∧ d.get? e = some k ∧ keep (e.drop R.length) = true := by
  unfold holdsKept
  rw [List.any_eq_true]
  constructor
  · rintro ⟨⟨e, k⟩, he, hpk⟩
    simp only [Bool.and_eq_true, List.isPrefixOf_iff_prefix] at hpk
    exact ⟨e, k, hpk.1, hd.ne_nil _ he, hd.get?_of_mem he, hpk.2⟩
  · rintro ⟨e, k, hpe, hne, hk, hkeep⟩
    refine ⟨(e, k), (hd.get?_eq_some_iff hne).mp hk, ?_⟩
    simp [List.isPrefixOf_iff_prefix.mpr hpe, hkeep]

theorem holdsKept_mono (hp : p <+: q) (h : d.holdsKept R keep q = true) :
    d.holdsKept R keep p = true := by
  unfold holdsKept at h ⊢
  obtain ⟨e, he, hq⟩ := List.any_eq_true.mp h
  simp only [Bool.and_eq_true, List.isPrefixOf_iff_prefix] at hq
  exact List.any_eq_true.mpr ⟨e, he, by simp [List.isPrefixOf_iff_prefix.mpr (hp.trans hq.1), hq.2]⟩

/-- A kept entry holds itself. -/
theorem holdsKept_self (hd : d.Wf) (hp : p ≠ []) (hk : d.get? p = some k)
    (hkeep : keep (p.drop R.length) = true) : d.holdsKept R keep p = true :=
  (holdsKept_iff hd).mpr ⟨p, k, List.prefix_refl p, hp, hk, hkeep⟩

/-- Whether a place holds a kept entry depends only on what is at and below it. -/
theorem holdsKept_congr (hd : d.Wf) (hd' : d'.Wf) (h : ∀ e, p <+: e → d'.get? e = d.get? e) :
    d'.holdsKept R keep p = d.holdsKept R keep p := by
  rw [Bool.eq_iff_iff, holdsKept_iff hd', holdsKept_iff hd]
  constructor
  · rintro ⟨e, k, hpe, hne, hk, hkeep⟩
    exact ⟨e, k, hpe, hne, (h e hpe) ▸ hk, hkeep⟩
  · rintro ⟨e, k, hpe, hne, hk, hkeep⟩
    exact ⟨e, k, hpe, hne, (h e hpe).symm ▸ hk, hkeep⟩

/-- A place holds a kept entry when it is kept itself or one of its children holds one. -/
theorem holdsKept_iff_self_or_child (hd : d.Wf) (hp : p ≠ []) (hk : d.get? p = some k) :
    d.holdsKept R keep p = true ↔
      keep (p.drop R.length) = true ∨ ∃ n, d.holdsKept R keep (p ++ [n]) = true := by
  constructor
  · intro h
    obtain ⟨e, k', ⟨x, rfl⟩, hne, hke, hkeep⟩ := (holdsKept_iff hd).mp h
    cases x with
    | nil => exact .inl (by simpa using hkeep)
    | cons n x =>
      exact .inr ⟨n, (holdsKept_iff hd).mpr ⟨p ++ n :: x, k', ⟨x, by simp⟩, hne, hke, hkeep⟩⟩
  · rintro (h | ⟨n, h⟩)
    · exact holdsKept_self hd hp hk h
    · exact holdsKept_mono (List.prefix_append p [n]) h

/-- A missing place holds nothing kept. -/
theorem holdsKept_of_none (hd : d.Wf) (hp : d.get? p = none) : d.holdsKept R keep p = false := by
  rw [Bool.eq_false_iff]
  intro h
  obtain ⟨e, k', hpe, -, hke, -⟩ := (holdsKept_iff hd).mp h
  rcases eq_or_ne p e with rfl | hne
  · rw [hp] at hke
    cases hke
  · rw [hd.dir_of_under ⟨hpe, hne⟩ hke] at hp
    cases hp

theorem get?_pruneBelow (q : Place) :
    (d.pruneBelow R keep).get? q =
      if Under R q ∧ d.holdsKept R keep q = false then none else d.get? q := by
  by_cases hq : q = []
  · subst hq
    have hU : ¬ Under R [] := fun h => h.2 (List.prefix_nil.mp h.1)
    simp [hU]
  rw [get?_of_ne_nil hq, get?_of_ne_nil hq]
  unfold pruneBelow
  rw [lookup_filter_key (fun x => !decide (Under R x) || d.holdsKept R keep x)]
  by_cases hU : Under R q
  · cases d.holdsKept R keep q <;> simp [hU]
  · simp [hU]

/-- Below `R`, pruning keeps an entry exactly when it holds a kept entry. -/
theorem get?_pruneBelow_append {z : Place} (hz : z ≠ []) :
    (d.pruneBelow R keep).get? (R ++ z) =
      if d.holdsKept R keep (R ++ z) = true then d.get? (R ++ z) else none := by
  rw [get?_pruneBelow]
  cases d.holdsKept R keep (R ++ z) <;> simp [under_append hz]

/-- Pruning keeps a file system well formed: the directory of a kept entry holds it, so it is
kept too. -/
theorem Wf.pruneBelow (hd : d.Wf) : (d.pruneBelow R keep).Wf where
  nodup := hd.nodup.sublist (List.filter_sublist.map _)
  ne_nil e he := hd.ne_nil e (List.mem_filter.mp he).1
  names e he := hd.names e (List.mem_filter.mp he).1
  parent := by
    intro e he
    obtain ⟨he, hkept⟩ := List.mem_filter.mp he
    rw [get?_pruneBelow, if_neg]
    · exact hd.parent e he
    · rintro ⟨hU, hh⟩
      have hUe : Under R e.1 := hU.extend (List.dropLast_prefix e.1)
      have hheld : d.holdsKept R keep e.1 = true := by simpa [hUe] using hkept
      rw [holdsKept_mono (List.dropLast_prefix e.1) hheld] at hh
      cases hh

/-- `d'` is `d` with the entries at the places that `sel` picks removed, unless they hold a
kept entry; nothing else changes. -/
structure PrunedAt (R : Place) (keep : Place → Bool) (sel : Place → Prop) (d d' : Disk) :
    Prop where
  wf : d'.Wf
  gone : ∀ q, sel q → d.holdsKept R keep q = false → d'.get? q = none
  same : ∀ q, (sel q → d.holdsKept R keep q = true) → d'.get? q = d.get? q

theorem PrunedAt.get?_eq_some (h : PrunedAt R keep sel d d') (hq : d'.get? q = some k) :
    d.get? q = some k := by
  by_cases hs : sel q
  · cases hh : d.holdsKept R keep q
    · rw [h.gone q hs hh] at hq
      cases hq
    · rw [← h.same q (fun _ => hh)]
      exact hq
  · rw [← h.same q (fun h' => absurd h' hs)]
    exact hq

/-- Pruning one set of places and then another, none of which is at or above a place of
the first, prunes both. -/
theorem PrunedAt.union {s₁ s₂ : Place → Prop} (hd : d.Wf) (h₁ : PrunedAt R keep s₁ d d₁)
    (h₂ : PrunedAt R keep s₂ d₁ d₂) (hdisj : ∀ q, s₂ q → ∀ e, q <+: e → ¬ s₁ e) :
    PrunedAt R keep (fun q => s₁ q ∨ s₂ q) d d₂ := by
  -- what `s₂` picks, and everything below it, is as `d` has it when `s₂` is pruned
  have hheld : ∀ q, s₂ q → d₁.holdsKept R keep q = d.holdsKept R keep q := fun q hq =>
    holdsKept_congr hd h₁.wf fun e he => h₁.same e fun hs => absurd hs (hdisj q hq e he)
  refine ⟨h₂.wf, ?_, ?_⟩
  · rintro q (hq | hq) hh
    · have hn : ¬ s₂ q := fun h => hdisj q h q (List.prefix_refl q) hq
      rw [h₂.same q (fun h => absurd h hn)]
      exact h₁.gone q hq hh
    · exact h₂.gone q hq ((hheld q hq).trans hh)
  · intro q hh
    by_cases hq : s₂ q
    · rw [h₂.same q (fun _ => (hheld q hq).trans (hh (.inr hq))),
        h₁.same q (fun h => absurd h (hdisj q hq q (List.prefix_refl q)))]
    · rw [h₂.same q (fun h => absurd h hq), h₁.same q (fun h => hh (.inl h))]

/-- A pruning also prunes a larger set of places, where each place added is empty or holds
a kept entry. -/
theorem PrunedAt.widen {s s' : Place → Prop} (h : PrunedAt R keep s d d')
    (hsub : ∀ q, s q → s' q)
    (hnone : ∀ q, s' q → ¬ s q → d.holdsKept R keep q = false → d.get? q = none) :
    PrunedAt R keep s' d d' := by
  refine ⟨h.wf, ?_, ?_⟩
  · intro q hq hh
    by_cases hs : s q
    · exact h.gone q hs hh
    · rw [h.same q (fun h' => absurd h' hs)]
      exact hnone q hq hs hh
  · intro q hh
    exact h.same q (fun hs => hh (hsub q hs))

section entry

/-! One entry `X` of a directory, with everything below it: what each outcome of its visit
leaves. -/

variable {X : Place} {d₀ : Disk}

theorem eq_or_under (h : X <+: q) : q = X ∨ Under X q := by
  by_cases hq : q = X
  · exact .inl hq
  · exact .inr ⟨h, fun h' => hq h'.symm⟩

/-- Nothing at or below a place holds a kept entry when the place is not kept and nothing
below it that exists is. -/
theorem holdsKept_eq_false (hd : d.Wf) (hXq : X <+: q)
    (hkeep : keep (X.drop R.length) = false)
    (hbelow : ∀ e k, Under X e → d.get? e = some k → keep (e.drop R.length) = false) :
    d.holdsKept R keep q = false := by
  rw [Bool.eq_false_iff]
  intro hh
  obtain ⟨e, k, hqe, -, hk, hke⟩ := (holdsKept_iff hd).mp hh
  rcases eq_or_under (hXq.trans hqe) with rfl | hU
  · rw [hkeep] at hke
    cases hke
  · rw [hbelow e k hU hk] at hke
    cases hke

/-- A kept file or link stays, and nothing is below it. -/
theorem prunedAt_leaf_kept (hd : d.Wf) (hX : X ≠ []) (hk : d.get? X = some k) (hkdir : k ≠ .dir)
    (hkeep : keep (X.drop R.length) = true) : PrunedAt R keep (X <+: ·) d d := by
  refine ⟨hd, ?_, fun q _ => rfl⟩
  intro q hq hh
  rcases eq_or_under hq with rfl | hU
  · rw [holdsKept_self hd hX hk hkeep] at hh
    cases hh
  · exact hd.none_under_leaf hk hkdir hU

/-- A file or link that is not kept is removed. -/
theorem prunedAt_leaf_removed (hd : d.Wf) (hX : X ≠ []) (hk : d.get? X = some k)
    (hkdir : k ≠ .dir) (hkeep : keep (X.drop R.length) = false) :
    PrunedAt R keep (X <+: ·) d (d.removeTree X) := by
  refine ⟨hd.removeTree hX, fun q hq _ => by simp [get?_removeTree hX, hq], ?_⟩
  intro q hh
  rw [get?_removeTree hX]
  split
  · rename_i hq
    have := holdsKept_eq_false hd hq hkeep fun e k' hU hk' => by
      rw [hd.none_under_leaf hk hkdir hU] at hk'
      cases hk'
    rw [hh hq] at this
    cases this
  · rfl

section dir

variable (h₀ : PrunedAt R keep (Under X) d d₀)
include h₀

/-- A kept directory stays, pruned below. -/
theorem prunedAt_dir_kept (hd : d.Wf) (hX : X ≠ []) (hk : d.get? X = some .dir) (hkeep : keep (X.drop R.length) = true) :
    PrunedAt R keep (X <+: ·) d d₀ := by
  refine h₀.widen (fun q hq => hq.1) ?_
  intro q hq hU hh
  rcases eq_or_under hq with rfl | hU'
  · rw [holdsKept_self hd hX hk hkeep] at hh
    cases hh
  · exact absurd hU' hU

/-- A directory that is not kept and is empty once pruned below is removed. -/
theorem prunedAt_dir_removed (hd : d.Wf) (hX : X ≠ []) (hkeep : keep (X.drop R.length) = false)
    (hempty : d₀.children X = []) : PrunedAt R keep (X <+: ·) d (d₀.removeTree X) := by
  have hnone := (h₀.wf.children_eq_nil_iff).mp hempty
  -- nothing kept is left below it, since a kept entry would still be there
  have hbelow : ∀ e k, Under X e → d.get? e = some k → keep (e.drop R.length) = false := by
    intro e k hU hk
    rw [Bool.eq_false_iff]
    intro hke
    have he : e ≠ [] := by
      rintro rfl
      exact hX (List.prefix_nil.mp hU.1)
    have hsame := h₀.same e (fun _ => holdsKept_self hd he hk hke)
    rw [hnone e hU, hk] at hsame
    cases hsame
  refine ⟨h₀.wf.removeTree hX, fun q hq _ => by simp [get?_removeTree hX, hq], ?_⟩
  intro q hh
  rw [get?_removeTree hX]
  split
  · rename_i hq
    rw [holdsKept_eq_false hd hq hkeep hbelow] at hh
    exact absurd (hh hq) (by simp)
  · exact h₀.same q (fun hU => absurd hU.1 ‹_›)

/-- A directory that is not empty once pruned below stays: something below it is kept. -/
theorem prunedAt_dir_stays (hne : d₀.children X ≠ []) : PrunedAt R keep (X <+: ·) d d₀ := by
  obtain ⟨⟨c, k'⟩, hc⟩ := List.exists_mem_of_ne_nil _ hne
  have hck := (mem_children h₀.wf).mp hc
  have hU : Under X (X ++ [c]) := under_append (by simp)
  -- the child is still there, so it holds a kept entry, and so does the directory
  have hheld : d.holdsKept R keep (X ++ [c]) = true := by
    cases hh : d.holdsKept R keep (X ++ [c])
    · rw [h₀.gone _ hU hh] at hck
      cases hck
    · rfl
  refine h₀.widen (fun q hq => hq.1) ?_
  intro q hq hU' hh
  rcases eq_or_under hq with rfl | hU''
  · rw [holdsKept_mono (List.prefix_append q [c]) hheld] at hh
    cases hh
  · exact absurd hU'' hU'

end dir

end entry

end Disk

namespace Tree

open Disk FolderSink.Path Act

/-- A disk the delete meets: well formed, changed from `base` only strictly below `PR`, and
with no entry that `base` lacks. -/
structure Shrunk (base : Disk) (PR : Place) (d : Disk) : Prop where
  wf : d.Wf
  agree : AgreeOutside PR base d
  sub : ∀ q k, d.get? q = some k → base.get? q = some k

theorem Shrunk.of_prunedAt {base d d' : Disk} {PR : Place} {keep : Place → Bool}
    {sel : Place → Prop} (hs : Shrunk base PR d) (hp : PrunedAt PR keep sel d d')
    (hsel : ∀ q, sel q → Under PR q) : Shrunk base PR d' where
  wf := hp.wf
  agree q hq := (hs.agree q hq).trans (hp.same q (fun h => absurd (hsel q h) hq)).symm
  sub q k h := hs.sub q k (hp.get?_eq_some h)

variable {base : Disk} {QR PR : Place} {m : PathMatcher} {keep : Place → Bool}

section specs

variable (base QR PR m keep)

/-- Deleting with fuel `f` below the directory `PR ++ rel`, led to by the path of
`QR ++ rel`, prunes it. -/
def DeleteInSpec (f : Nat) : Prop :=
  ∀ rel (h : Host), Shrunk base PR h.disk → (∀ n ∈ rel, IsName n) → h.disk.DirsTo PR rel →
    2 * base.countBelow (PR ++ rel) < f →
    (deleteIn m f (ofPlace (QR ++ rel))).Leaves h (PrunedAt PR keep (Under (PR ++ rel)) h.disk)

/-- Deleting with fuel `f` among the entries `cs` of the directory `PR ++ rel` prunes each
of them. -/
def DeleteEntriesSpec (f : Nat) : Prop :=
  ∀ rel (h : Host) (cs : List (String × Kind)), Shrunk base PR h.disk →
    (∀ n ∈ rel, IsName n) → h.disk.DirsTo PR rel → (cs.map Prod.fst).Nodup →
    (∀ c ∈ cs, h.disk.get? (PR ++ rel ++ [c.1]) = some c.2) →
    (cs.map fun c => 2 * (base.countBelow (PR ++ rel ++ [c.1]) + 1)).sum ≤ f →
    (deleteEntries m f (ofPlace (QR ++ rel)) cs).Leaves h
      (PrunedAt PR keep (fun q => ∃ c ∈ cs, PR ++ rel ++ [c.1] <+: q) h.disk)

end specs

section run

variable (hQR : ∀ n ∈ QR, IsName n)
  (hstable : ∀ d, AgreeOutside PR base d → d.LeadsTo QR PR)
  (hkeep : ∀ rel, rel ≠ [] → base.get? (PR ++ rel) ≠ none →
    m.test (ofPlace (QR ++ rel)) = .ok (keep rel))

include hQR hstable in
theorem leadsTo_of_shrunk {d : Disk} {rel : Place} (hs : Shrunk base PR d)
    (hrel : ∀ n ∈ rel, IsName n) (hdirs : d.DirsTo PR rel) : d.LeadsTo (QR ++ rel) (PR ++ rel) :=
  leadsTo_append hQR (hstable d hs.agree) rel hrel hdirs

include hkeep in
theorem test_of_shrunk {h : Host} (rel : Place) {k : Kind} (hs : Shrunk base PR h.disk)
    (hne : rel ≠ []) (hk : h.disk.get? (PR ++ rel) = some k) :
    (Act.test m (ofPlace (QR ++ rel))).run.run h = (.ok (keep rel), h) :=
  run_test (hkeep rel hne (by rw [hs.sub _ _ hk]; simp))

include hQR hstable hkeep

/-- One more unit of fuel lets the delete handle a list of entries, given what a directory
below needs. -/
theorem deleteEntries_succ {f : Nat} (hin : DeleteInSpec base QR PR m keep f)
    (hent : DeleteEntriesSpec base QR PR m keep f) :
    DeleteEntriesSpec base QR PR m keep (f + 1) := by
  intro rel h cs hs hrel hdirs hnd hmem hfuel
  cases cs with
  | nil =>
    rw [deleteEntries]
    exact Leaves.pure 0 ⟨hs.wf, fun q hq => by simp at hq, fun q _ => rfl⟩
  | cons c rest =>
    obtain ⟨n, k⟩ := c
    have hk : h.disk.get? (PR ++ rel ++ [n]) = some k := hmem (n, k) (by simp)
    have hX : PR ++ rel ++ [n] ≠ [] := by simp
    have hn : IsName n := hs.wf.isName_of_get? hX hk n (by simp)
    have hQrel : ∀ x ∈ QR ++ rel, IsName x := List.forall_mem_append.mpr ⟨hQR, hrel⟩
    have hlead := leadsTo_of_shrunk hQR hstable hs hrel hdirs
    have hdrop : (PR ++ rel ++ [n]).drop PR.length = rel ++ [n] := by simp
    have hsub : ∀ q, PR ++ rel ++ [n] <+: q → Under PR q := fun q hq =>
      Under.extend (under_append (P := PR) (x := rel ++ [n]) (by simp)) (by simpa using hq)
    -- the entry is deeper than every place on the way down to its directory
    have hshort : ∀ x, x <+: rel → ¬ PR ++ rel ++ [n] <+: PR ++ x := by
      intro x hx hpre
      have h₁ := hpre.length_le
      have h₂ := hx.length_le
      simp at h₁
      omega
    simp only [List.map_cons, List.sum_cons] at hfuel hnd
    have hnotin : n ∉ rest.map Prod.fst := (List.nodup_cons.mp hnd).1
    -- once the entry is pruned, the other entries finish the list
    have hrest : ∀ here d₁, PrunedAt PR keep (PR ++ rel ++ [n] <+: ·) h.disk d₁ →
        (deleteEntries m f (ofPlace (QR ++ rel)) rest >>= fun more => pure (here + more)).Leaves
          { h with disk := d₁ }
          (PrunedAt PR keep (fun q => ∃ c ∈ (n, k) :: rest, PR ++ rel ++ [c.1] <+: q) h.disk) := by
      intro here d₁ hp₁
      have hother : ∀ c ∈ rest, ∀ q, PR ++ rel ++ [c.1] <+: q → ¬ PR ++ rel ++ [n] <+: q := by
        intro c hc q hcq hnq
        exact hnotin (name_eq_of_prefixes hnq hcq ▸ List.mem_map_of_mem hc)
      have hmem₁ : ∀ c ∈ rest, d₁.get? (PR ++ rel ++ [c.1]) = some c.2 := by
        intro c hc
        rw [hp₁.same _ (fun h' => absurd h' (hother c hc _ (List.prefix_refl _)))]
        exact hmem c (by simp [hc])
      refine Leaves.bind (hent rel { h with disk := d₁ } rest (hs.of_prunedAt hp₁ hsub) hrel
        (hdirs.congr fun x _ hx => hp₁.same _ fun h' => absurd h' (hshort x hx))
        (List.nodup_cons.mp hnd).2 hmem₁ (by omega)) ?_
      intro more d₂ hp₂
      refine Leaves.pure _ ((PrunedAt.union hs.wf hp₁ hp₂ ?_).widen ?_ ?_)
      · rintro q ⟨c, hc, hcq⟩ e hqe hne
        exact hother c hc e (hcq.trans hqe) hne
      · rintro q (hq | ⟨c, hc, hcq⟩)
        · exact ⟨(n, k), by simp, hq⟩
        · exact ⟨c, by simp [hc], hcq⟩
      · rintro q ⟨c, hc, hcq⟩ hno
        rcases List.mem_cons.mp hc with rfl | hc
        · exact absurd (.inl hcq) hno
        · exact absurd (.inr ⟨c, hc, hcq⟩) hno
    have htest := test_of_shrunk hkeep (rel ++ [n]) hs (by simp) (by simpa using hk)
    rw [← List.append_assoc] at htest
    by_cases hkd : k = .dir
    · -- a directory: its entries first, then itself when it is not kept and left empty
      subst hkd
      rw [deleteEntries]
      dsimp only
      rw [join_ofPlace hQrel hn]
      have hbelow := hin (rel ++ [n]) h hs (List.forall_mem_append.mpr ⟨hrel, by simpa using hn⟩)
        (hdirs.snoc hk) (by simp only [← List.append_assoc]; omega)
      simp only [← List.append_assoc] at hbelow
      refine Leaves.bind hbelow ?_
      intro below d₀ hp₀
      have hs₀ : Shrunk base PR d₀ := hs.of_prunedAt hp₀ fun q hq => hsub q hq.1
      have hk₀ : d₀.get? (PR ++ rel ++ [n]) = some .dir := by
        rw [hp₀.same _ (fun hU => absurd rfl hU.2)]
        exact hk
      have hlead₀ : d₀.LeadsTo (QR ++ rel) (PR ++ rel) := leadsTo_of_shrunk hQR hstable hs₀ hrel
        (hdirs.congr fun x _ hx => hp₀.same _ fun hU => absurd hU.1 (hshort x hx))
      have htest₀ := test_of_shrunk hkeep (h := { h with disk := d₀ }) (rel ++ [n]) hs₀
        (by simp) (by simpa using hk₀)
      rw [← List.append_assoc] at htest₀
      refine Leaves.run_bind htest₀ ?_
      cases hkp : keep (rel ++ [n])
      · simp only [Bool.not_false, ↓reduceIte]
        refine Leaves.run_bind (readEntries_run (leadsTo_child hQrel hn hlead₀ hk₀)) ?_
        by_cases hempty : d₀.children (PR ++ rel ++ [n]) = []
        · simp only [hempty, List.isEmpty_nil, ↓reduceIte]
          refine Leaves.run_bind (run_change_ok (rmdir_child hQrel hn hlead₀ hk₀ hempty)) ?_
          simp only [pure_bind]
          exact hrest _ _ (prunedAt_dir_removed hp₀ hs.wf hX (by rw [hdrop, hkp]) hempty)
        · simp only [List.isEmpty_iff, hempty, ↓reduceIte, pure_bind]
          exact hrest _ _ (prunedAt_dir_stays hp₀ hempty)
      · simp only [Bool.not_true, Bool.false_eq_true, ↓reduceIte, pure_bind]
        exact hrest _ _ (prunedAt_dir_kept hp₀ hs.wf hX hk (by rw [hdrop, hkp]))
    · -- a file, a link or another special file: removed when not kept
      rw [deleteEntries]
      swap
      · exact hkd
      dsimp only
      rw [join_ofPlace hQrel hn]
      refine Leaves.run_bind htest ?_
      cases hkp : keep (rel ++ [n])
      · simp only [Bool.not_false, ↓reduceIte]
        refine Leaves.run_bind (run_change_ok (unlink_child hQrel hn hlead hk hkd)) ?_
        simp only [pure_bind]
        exact hrest _ _ (prunedAt_leaf_removed hs.wf hX hk hkd (by rw [hdrop, hkp]))
      · simp only [Bool.not_true, Bool.false_eq_true, ↓reduceIte, pure_bind]
        exact hrest _ _ (prunedAt_leaf_kept hs.wf hX hk hkd (by rw [hdrop, hkp]))

omit hkeep in
/-- One more unit of fuel lets the delete handle a directory, given what its entries need. -/
theorem deleteIn_succ {f : Nat} (hent : DeleteEntriesSpec base QR PR m keep f) :
    DeleteInSpec base QR PR m keep (f + 1) := by
  intro rel h hs hrel hdirs hfuel
  have hlead := leadsTo_of_shrunk hQR hstable hs hrel hdirs
  -- the children of the directory, each with what is below it, fit in the fuel
  have hfuel' := sum_fuel_children_le hs.wf (fun c hc => by
    rw [hs.sub _ _ ((mem_children hs.wf).mp hc)]
    simp) hfuel
  rw [deleteIn]
  refine Leaves.run_bind (readEntries_run hlead) ?_
  refine (hent rel h _ hs hrel hdirs (hs.wf.nodup_children _)
    (fun c hc => (mem_children hs.wf).mp hc) hfuel').mono ?_
  intro d' hp
  refine hp.widen ?_ ?_
  · rintro q ⟨c, -, hcq⟩
    exact Under.extend (under_append (by simp)) hcq
  · -- below the directory, what is not below one of its children is not there
    intro q hU hno _
    cases hq : h.disk.get? q with
    | none => rfl
    | some k =>
      obtain ⟨c, k', hk', hcq⟩ := hs.wf.child_on_way hU hq
      exact absurd ⟨(c, k'), (mem_children hs.wf).mpr hk', hcq⟩ hno

/-- The delete does what its specs say, whatever its fuel. -/
theorem delete_specs (f : Nat) :
    DeleteInSpec base QR PR m keep f ∧ DeleteEntriesSpec base QR PR m keep f := by
  induction f with
  | zero =>
    refine ⟨fun _ _ _ _ _ hfuel => absurd hfuel (by omega), ?_⟩
    intro rel h cs hs _ _ _ _ hfuel
    cases cs with
    | nil =>
      rw [deleteEntries]
      exact Leaves.pure 0 ⟨hs.wf, fun q hq => by simp at hq, fun q _ => rfl⟩
    | cons c rest => simp at hfuel
  | succ f ih =>
    exact ⟨deleteIn_succ hQR hstable ih.2, deleteEntries_succ hQR hstable hkeep ih.1 ih.2⟩

end run

/-- Deleting below the directory that `QR`'s path leads to, with the fuel a writer gives it,
leaves exactly what `pruneBelow` leaves, as long as the path leads there whatever happens
below the directory and the matcher answers `keep` for every entry below it. -/
theorem deleteRecursively_prunes {h : Host} (hwf : h.disk.Wf) (hQR : ∀ n ∈ QR, IsName n)
    (hstable : ∀ d, AgreeOutside PR h.disk d → d.LeadsTo QR PR)
    (hkeep : ∀ rel, rel ≠ [] → h.disk.get? (PR ++ rel) ≠ none →
      m.test (ofPlace (QR ++ rel)) = .ok (keep rel)) :
    (deleteRecursively (ofPlace QR) m).Leaves h
      (fun d' => d'.Wf ∧ ∀ q, d'.get? q = (h.disk.pruneBelow PR keep).get? q) := by
  unfold deleteRecursively
  refine Leaves.run_bind (run_disk) ?_
  have hfuel : 2 * h.disk.countBelow (PR ++ []) < 2 * h.disk.entries.length + 2 := by
    have := h.disk.countBelow_le_length (PR ++ [])
    omega
  have hrun := (delete_specs hQR hstable hkeep (2 * h.disk.entries.length + 2)).1 [] h
    ⟨hwf, AgreeOutside.refl _ _, fun _ _ hk => hk⟩ (by simp)
    (fun x hx hpre => absurd (List.prefix_nil.mp hpre) hx) hfuel
  simp only [List.append_nil] at hrun
  refine hrun.mono ?_
  intro d' hp
  refine ⟨hp.wf, fun q => ?_⟩
  rw [get?_pruneBelow]
  split
  · rename_i hq
    exact hp.gone q hq.1 hq.2
  · rename_i hq
    exact hp.same q fun hU => by simpa [hU] using hq

end Tree

end FolderSink
