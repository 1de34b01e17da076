import FolderSink.Path.Posix
import FolderSink.Disk.Basic
import Mathlib.Data.String.Basic
import Mathlib.Data.List.TakeWhile
/-!
Paths written from the names of a place. The file system and the tree operations meet
through text: a place `[a, b]` is reached through the path `/a/b`, and the entry `c` of a
directory through `Path.join [dir, c]`. This module proves that these texts say what they
should, for names that an entry can have (`IsName`):

* `splitOn_slash`: splitting at `/` is the list split of the characters;
* `names_ofPlace`: the names of `ofPlace P` are an empty name and `P`;
* `join_ofPlace_append`: joining entry names to the path of a place gives the path of the
  longer place;
* `resolve_of_isAbsolute`, `resolve_ofPlace_against`: resolving against an absolute directory
  reads every path from the last absolute one, and the path of a place resolves to itself.
-/

namespace FolderSink

open String

namespace Path

theorem splitOnAux_slash (l m r : List Char) (acc : List String) :
    String.splitOnAux (ofList (l ++ m ++ r)) "/" ⟨utf8Len l⟩ ⟨utf8Len l + utf8Len m⟩ 0 acc =
      acc.reverse ++ (List.splitOnPPrepend (· == '/') r m.reverse).map ofList := by
  have slash_get : Pos.Raw.get "/" 0 = '/' := by decide
  have slash_next : Pos.Raw.next "/" 0 = ⟨1⟩ := by decide
  have slash_end : "/".rawEndPos = ⟨1⟩ := by decide
  unfold String.splitOnAux
  simp only [List.append_assoc, atEnd_iff, rawEndPos_ofList, utf8Len_append, Pos.Raw.mk_le_mk,
    Nat.add_le_add_iff_left, (by omega : utf8Len m + utf8Len r ≤ utf8Len m ↔ utf8Len r = 0),
    utf8Len_eq_zero]
  split
  · subst r
    simpa using extract_of_valid l m []
  · obtain ⟨c, r, rfl⟩ := r.exists_cons_of_ne_nil ‹_›
    have hg := get_of_valid (l ++ m) (c :: r)
    have hn := next_of_valid (l ++ m) c r
    simp only [List.append_assoc, utf8Len_append] at hg hn
    rw [hg, hn, slash_get, slash_next, slash_end]
    by_cases h : c = '/'
    · -- a separator closes the part `m` and starts an empty one
      subst h
      have he := extract_of_valid l m ('/' :: r)
      have hs : ('/' : Char).utf8Size = 1 := by decide
      simp only [List.append_assoc] at he
      simp only [List.headD_cons, beq_self_eq_true, ↓reduceIte, Pos.Raw.le_refl, hs,
        Pos.Raw.unoffsetBy, Nat.add_sub_cancel, he]
      simpa [List.splitOnPPrepend_cons_pos, Nat.add_assoc, hs] using
        splitOnAux_slash (l ++ m ++ ['/']) [] r (ofList m :: acc)
    · have hc : (c == '/') = false := by simpa using h
      simp only [List.headD_cons, hc, Bool.false_eq_true, ↓reduceIte, Pos.Raw.unoffsetBy,
        Pos.Raw.byteIdx_zero, Nat.sub_zero]
      rw [hn, List.splitOnPPrepend_cons_neg (p := fun x => x == '/') hc]
      simpa [Nat.add_assoc] using splitOnAux_slash l (m ++ [c]) r acc

/-- Splitting a text at `/` splits its characters. -/
theorem splitOn_slash (s : String) : s.splitOn "/" = (s.toList.splitOn '/').map ofList := by
  rw [String.splitOn]
  simpa [List.splitOn_eq_splitOnP] using splitOnAux_slash [] [] s.toList []

/-- No part of a split holds the separator. -/
theorem not_mem_of_mem_splitOnPPrepend {p : Char → Bool} :
    ∀ (xs acc : List Char), (∀ x ∈ acc, p x = false) →
      ∀ l ∈ List.splitOnPPrepend p xs acc, ∀ x ∈ l, p x = false
  | [], acc, hacc, l, hl => by
    simp only [List.splitOnPPrepend_nil, List.mem_singleton] at hl
    subst hl
    simpa using hacc
  | a :: xs, acc, hacc, l, hl => by
    by_cases ha : p a
    · rw [List.splitOnPPrepend_cons_pos ha] at hl
      rcases List.mem_cons.mp hl with rfl | hl
      · simpa using hacc
      · exact not_mem_of_mem_splitOnPPrepend xs [] (by simp) l hl
    · rw [List.splitOnPPrepend_cons_neg (by simpa using ha)] at hl
      refine not_mem_of_mem_splitOnPPrepend xs (a :: acc) ?_ l hl
      intro x hx
      rcases List.mem_cons.mp hx with rfl | hx
      · simpa using ha
      · exact hacc x hx

/-- The parts of a text split at `/` hold no slash. -/
theorem slash_not_mem_of_mem_splitOn {s c : String} (h : c ∈ s.splitOn "/") :
    '/' ∉ c.toList := by
  rw [splitOn_slash] at h
  obtain ⟨l, hl, rfl⟩ := List.mem_map.mp h
  rw [List.splitOn_eq_splitOnP, List.splitOnP_eq_splitOnPPrepend] at hl
  intro hc
  simpa using not_mem_of_mem_splitOnPPrepend _ [] (by simp) l hl '/' (by simpa using hc)

/-- A name that an entry of a directory can have: not empty, neither `.` nor `..`, and
without a slash. -/
def IsName (n : String) : Prop := n ≠ "" ∧ n ≠ "." ∧ n ≠ ".." ∧ '/' ∉ n.toList

instance : DecidablePred IsName := fun _ => inferInstanceAs (Decidable (_ ∧ _))

/-- The absolute path of a place: a slash before each name, and `/` for the root. -/
def ofPlace (P : Place) : String := "/" ++ "/".intercalate P

theorem toList_ofPlace (P : Place) :
    (ofPlace P).toList = '/' :: ['/'].intercalate (P.map String.toList) := by
  simp [ofPlace, String.toList_intercalate]

theorem splitOn_intercalate_names {P : Place} (hP : P ≠ []) (h : ∀ n ∈ P, IsName n) :
    (['/'].intercalate (P.map String.toList)).splitOn '/' = P.map String.toList := by
  apply List.splitOn_intercalate
  · intro l hl
    obtain ⟨n, hn, rfl⟩ := List.mem_map.mp hl
    exact (h n hn).2.2.2
  · simpa using hP

/-- The names of the path of a place other than the root: an empty name before the first
slash, then the names of the place. -/
theorem names_ofPlace {P : Place} (hP : P ≠ []) (h : ∀ n ∈ P, IsName n) :
    names (ofPlace P) = "" :: P := by
  rw [names, splitOn_slash, toList_ofPlace, List.splitOn_cons_eq_if_modifyHead]
  simp [splitOn_intercalate_names hP h, Function.comp_def]

/-- Normalising pushes every name and skips empty ones. -/
theorem foldl_push_names (b : Bool) {ns : List String} (h : ∀ n ∈ ns, IsName n)
    (st : List String) : ns.foldl (push b) st = ns.reverse ++ st := by
  induction ns generalizing st with
  | nil => rfl
  | cons n ns ih =>
    obtain ⟨h0, h1, h2, -⟩ := h n (by simp)
    have hpush : push b st n = n :: st := by simp [push, h0, h1, h2]
    rw [List.foldl_cons, hpush, ih (fun m hm => h m (by simp [hm]))]
    simp

theorem normalNames_empty_names (b : Bool) (k : Nat) {ns : List String}
    (h : ∀ n ∈ ns, IsName n) : normalNames b (List.replicate k "" ++ ns) = ns := by
  have hskip : ∀ st, (List.replicate k "").foldl (push b) st = st := by
    intro st
    induction k generalizing st with
    | zero => rfl
    | succ k ih => simp [List.replicate_succ, push, ih]
  simp [normalNames, List.foldl_append, hskip, foldl_push_names b h]

theorem ofPlace_slash {P : Place} (hP : P ≠ []) (n : String) :
    ofPlace P ++ "/" ++ n = ofPlace (P ++ [n]) := by
  rw [ofPlace, ofPlace, String.intercalate_append_of_ne_nil hP (by simp),
    String.intercalate_singleton]
  simp only [String.append_assoc]

theorem isAbsolute_ofPlace (P : Place) : isAbsolute (ofPlace P) = true := by
  simp [isAbsolute, toList_ofPlace]

theorem endsWith_slash_eq_false {p : String} (h : p.toList.getLast? ≠ some '/') :
    p.endsWith "/" = false := by
  rw [Bool.eq_false_iff]
  intro he
  rw [String.endsWith] at he
  obtain ⟨t, ht⟩ := by simpa using (String.Slice.endsWith_string_iff).mp he
  rw [← ht] at h
  simp at h

/-- A text whose names are some empty ones and then the names of a place, starting with a
slash and not ending with one, normalises to the path of the place. -/
theorem normalize_of_names {p : String} {P : Place} (k : Nat) (hP : P ≠ [])
    (h : ∀ n ∈ P, IsName n) (habs : isAbsolute p = true) (hend : p.endsWith "/" = false)
    (hnames : names p = List.replicate k "" ++ P) : normalize p = ofPlace P := by
  have hne : p ≠ "" := by
    rintro rfl
    simp [isAbsolute] at habs
  have hbody : joinNames P ≠ "" := by
    intro hb
    obtain ⟨a, P', rfl⟩ := List.exists_cons_of_ne_nil hP
    have := congrArg String.toList hb
    cases P' with
    | nil => exact (h a (by simp)).1 (by simpa [joinNames] using hb)
    | cons b P'' =>
      simp [joinNames, String.intercalate_cons_cons] at this
  simp only [normalize, hne, ↓reduceIte, habs, hnames, normalNames_empty_names _ k h, hend,
    Bool.false_eq_true, false_and, Bool.not_true, and_false, ofPlace, joinNames]

theorem names_empty : names "" = [""] := by
  simp [names, splitOn_slash]

/-- A slash between two texts separates their names. -/
theorem names_append_slash (a b : String) : names (a ++ "/" ++ b) = names a ++ names b := by
  have h : (a ++ "/" ++ b).toList = a.toList ++ '/' :: b.toList := by simp
  rw [names, names, names, splitOn_slash, splitOn_slash, splitOn_slash, h,
    List.splitOn_append_cons_self, List.map_append]

/-- Names without a slash, joined by slashes, split back into themselves. -/
theorem names_joinNames {ns : List String} (hne : ns ≠ []) (h : ∀ n ∈ ns, '/' ∉ n.toList) :
    names (joinNames ns) = ns := by
  have hsplit : (['/'].intercalate (ns.map String.toList)).splitOn '/' = ns.map String.toList := by
    apply List.splitOn_intercalate
    · intro l hl
      obtain ⟨n, hn, rfl⟩ := List.mem_map.mp hl
      exact h n hn
    · simpa using hne
  simp [names, joinNames, splitOn_slash, hsplit, Function.comp_def]

/-- The names of the path of a place: one or two empty names before the first slash, then
the names of the place. -/
theorem exists_names_ofPlace {P : Place} (h : ∀ n ∈ P, IsName n) :
    ∃ k, names (ofPlace P) = List.replicate k "" ++ P := by
  rcases eq_or_ne P [] with rfl | hP
  · refine ⟨2, ?_⟩
    have hroot : ofPlace [] = "" ++ "/" ++ "" := by simp [ofPlace]
    rw [hroot, names_append_slash, names_empty]
    rfl
  · exact ⟨1, names_ofPlace hP h⟩

theorem ofPlace_ne_empty (P : Place) : ofPlace P ≠ "" := by
  intro he
  have := congrArg String.toList he
  simp [toList_ofPlace] at this

theorem isAbsolute_ofPlace_append (P : Place) (s : String) :
    isAbsolute (ofPlace P ++ s) = true := by
  simp [isAbsolute, toList_ofPlace]

/-- A text whose last name is not empty does not end with a slash. -/
theorem endsWith_slash_eq_false_of_names {p : String} (h : (names p).getLast? ≠ some "") :
    p.endsWith "/" = false := by
  apply endsWith_slash_eq_false
  intro hl
  obtain ⟨l, hl⟩ := List.getLast?_eq_some_iff.mp hl
  have hp : p = String.ofList l ++ "/" ++ "" := by
    apply String.toList_injective
    simp [hl]
  rw [hp, names_append_slash, names_empty] at h
  simp at h

/-- Joining entry names to the path of a place gives the path of the longer place. -/
theorem join_ofPlace_append {P : Place} {ns : List String} (hP : ∀ n ∈ P, IsName n)
    (hns : ∀ n ∈ ns, IsName n) (hne : ns ≠ []) : join (ofPlace P :: ns) = ofPlace (P ++ ns) := by
  have hfilter : (ofPlace P :: ns).filter (· ≠ "") = ofPlace P :: ns := by
    apply List.filter_eq_self.mpr
    intro n hn
    rcases List.mem_cons.mp hn with rfl | hn
    · simpa using ofPlace_ne_empty P
    · simpa using (hns n hn).1
  have hnames : names (joinNames (ofPlace P :: ns)) = names (ofPlace P) ++ ns := by
    rw [joinNames, String.intercalate_cons_of_ne_nil hne, names_append_slash, ← joinNames,
      names_joinNames hne (fun n hn => (hns n hn).2.2.2)]
  -- the text ends in the last of the names, which is not empty
  have hlast : (names (joinNames (ofPlace P :: ns))).getLast? ≠ some "" := by
    obtain ⟨n, hn⟩ := Option.isSome_iff_exists.mp (List.getLast?_isSome.mpr hne)
    rw [hnames, List.getLast?_append, hn]
    simpa using (hns n (List.mem_of_getLast? hn)).1.symm
  obtain ⟨k, hk⟩ := exists_names_ofPlace hP
  simp only [join, hfilter, List.isEmpty_cons, Bool.false_eq_true, ↓reduceIte]
  apply normalize_of_names k (by simp [hne]) (List.forall_mem_append.mpr ⟨hP, hns⟩)
  · rw [joinNames, String.intercalate_cons_of_ne_nil hne, String.append_assoc]
    exact isAbsolute_ofPlace_append P _
  · exact endsWith_slash_eq_false_of_names hlast
  · rw [hnames, hk, List.append_assoc]

/-- The entry `n` of the directory at `P` is reached through the path of `P ++ [n]`. -/
theorem join_ofPlace {P : Place} {n : String} (h : ∀ m ∈ P, IsName m) (hn : IsName n) :
    join [ofPlace P, n] = ofPlace (P ++ [n]) :=
  join_ofPlace_append h (by simpa using hn) (by simp)

/-- Normalising the names of the path of a place gives back the place. -/
theorem normalNames_names_ofPlace {P : Place} (h : ∀ n ∈ P, IsName n) :
    normalNames false (names (ofPlace P)) = P := by
  obtain ⟨k, hk⟩ := exists_names_ofPlace h
  rw [hk]
  exact normalNames_empty_names false k h

/-- A step of normalising an absolute path keeps a stack of entry names. -/
theorem push_names {st : List String} {n : String} (hst : ∀ m ∈ st, IsName m)
    (hn : '/' ∉ n.toList) : ∀ m ∈ push false st n, IsName m := by
  unfold push
  split
  · exact hst
  · rename_i h0
    split
    · rename_i h1
      split
      · rename_i top rest
        split
        · exact hst
        · exact fun m hm => hst m (by simp [hm])
      · simp
    · rename_i h1
      rw [not_or] at h0
      exact List.forall_mem_cons.mpr ⟨⟨h0.1, h0.2, h1, hn⟩, hst⟩

/-- The normal names of an absolute path are entry names. -/
theorem normalNames_names {ns : List String} (hns : ∀ n ∈ ns, '/' ∉ n.toList) :
    ∀ m ∈ normalNames false ns, IsName m := by
  have key : ∀ (ns st : List String), (∀ n ∈ ns, '/' ∉ n.toList) → (∀ m ∈ st, IsName m) →
      ∀ m ∈ ns.foldl (push false) st, IsName m := by
    intro ns
    induction ns with
    | nil => exact fun _ _ hst => hst
    | cons n ns ih =>
      exact fun st hns hst => ih _ (fun m hm => hns m (by simp [hm]))
        (push_names hst (hns n (by simp)))
  intro m hm
  exact key ns [] hns (by simp) m (List.mem_reverse.mp hm)

theorem lastAbsolute_head (l acc : List String) (h : acc.head?.any isAbsolute = true) :
    (resolvedTail.lastAbsolute l acc).head?.any isAbsolute = true := by
  induction l generalizing acc with
  | nil => exact h
  | cons p rest ih =>
    rw [resolvedTail.lastAbsolute]
    apply ih
    split
    · simpa
    · obtain ⟨a, acc', rfl⟩ := List.exists_cons_of_ne_nil (by rintro rfl; simp at h : acc ≠ [])
      simpa using h

/-- Resolving against an absolute directory reads every path from the last absolute one. -/
theorem resolve_of_isAbsolute {cwd : String} (hcwd : isAbsolute cwd = true) (ps : List String) :
    resolve cwd ps = ofPlace (normalNames false ((resolvedTail cwd ps).flatMap names)) := by
  have hne : cwd ≠ "" := by
    rintro rfl
    simp [isAbsolute] at hcwd
  have habs : (resolvedTail cwd ps).head?.any isAbsolute = true := by
    unfold resolvedTail
    simp only [List.filter_cons]
    rw [if_pos (by simpa using hne), resolvedTail.lastAbsolute, if_pos hcwd]
    exact lastAbsolute_head _ _ (by simp [hcwd])
  simp only [resolve, habs, ↓reduceIte]
  rfl

/-- Resolving from the root gives the path of a place: the normal names of what is read. -/
theorem resolve_root (ps : List String) :
    resolve "/" ps = ofPlace (normalNames false ((resolvedTail "/" ps).flatMap names)) :=
  resolve_of_isAbsolute (by simpa [ofPlace] using isAbsolute_ofPlace []) ps

/-- An absolute path is all that a resolution of it reads, whatever the directory. -/
theorem resolvedTail_of_isAbsolute (cwd : String) {p : String} (hp : isAbsolute p = true) :
    resolvedTail cwd [p] = [p] := by
  have hne : p ≠ "" := by
    rintro rfl
    simp [isAbsolute] at hp
  unfold resolvedTail
  by_cases hc : cwd = "" <;> simp [hc, hne, resolvedTail.lastAbsolute, hp]

/-- The path of a place resolves to itself against any directory. -/
theorem resolve_ofPlace_against (cwd : String) {P : Place} (h : ∀ n ∈ P, IsName n) :
    resolve cwd [ofPlace P] = ofPlace P := by
  simp only [resolve, resolvedTail_of_isAbsolute cwd (isAbsolute_ofPlace P), List.head?_cons,
    Option.any_some, isAbsolute_ofPlace, ↓reduceIte, List.flatMap_cons, List.flatMap_nil,
    List.append_nil, Bool.not_true, normalNames_names_ofPlace h]
  rfl

/-- The text the real path is built in, one name further. -/
theorem loop_text_ofPlace {D : Place} {c : String} (hD : ∀ m ∈ D, IsName m) :
    (if ofPlace D == "/" then "/" ++ c else ofPlace D ++ "/" ++ c) = ofPlace (D ++ [c]) := by
  rcases eq_or_ne D [] with rfl | hne
  · simp [ofPlace]
  · have hslash : ofPlace D ≠ "/" := by
      intro heq
      have := congrArg String.toList heq
      obtain ⟨a, D', rfl⟩ := List.exists_cons_of_ne_nil hne
      rw [toList_ofPlace] at this
      cases D' with
      | nil => exact (hD a (by simp)).1 (by simpa using this)
      | cons b D'' => simp [List.intercalate_cons_cons] at this
    simp [hslash, ofPlace_slash hne]

/-- The characters of the path of a place that has a last name: a text ending in a slash,
then the name. -/
theorem toList_ofPlace_snoc (P : Place) (n : String) :
    (ofPlace (P ++ [n])).toList =
      (if P = [] then [] else (ofPlace P).toList) ++ '/' :: n.toList := by
  by_cases hP : P = []
  · subst hP
    simp [toList_ofPlace]
  · rw [if_neg hP, ← ofPlace_slash hP]
    simp

/-- The last name of the path of a place. -/
theorem basename_ofPlace {P : Place} {n : String} (hn : IsName n) :
    basename (ofPlace (P ++ [n])) = n := by
  have hslash : ∀ c ∈ n.toList, c ≠ '/' := fun c hc h => hn.2.2.2 (h ▸ hc)
  obtain ⟨c, cs, hc⟩ := List.exists_cons_of_ne_nil (by simpa using hn.1 : n.toList.reverse ≠ [])
  have hc' : c ≠ '/' := hslash c (by simpa using List.mem_reverse.mp (hc ▸ List.mem_cons_self))
  have hname : ∀ a ∈ n.toList.reverse, decide (a ≠ '/') = true := by
    simpa using fun a ha => hslash a (List.mem_reverse.mp ha)
  -- the name is not stripped as a trailing slash, and is all that is taken back to a slash
  have htrim : (n.toList.reverse ++ ['/'] ++ (if P = [] then [] else (ofPlace P).toList).reverse).dropWhile
      (fun x => decide (x = '/')) =
      n.toList.reverse ++ ['/'] ++ (if P = [] then [] else (ofPlace P).toList).reverse := by
    rw [hc, List.cons_append, List.cons_append, List.dropWhile_cons_of_neg (by simpa using hc')]
  unfold basename
  dsimp only
  rw [toList_ofPlace_snoc, List.reverse_append, List.reverse_cons, htrim, List.append_assoc,
    List.takeWhile_append_of_pos hname]
  simp

/-- The directory part of the path of a place is the path of its directory. -/
theorem dirname_ofPlace {P : Place} {n : String} (hP : ∀ m ∈ P, IsName m) (hn : IsName n) :
    dirname (ofPlace (P ++ [n])) = ofPlace P := by
  have hslash : ∀ c ∈ n.toList, c ≠ '/' := fun c hc h => hn.2.2.2 (h ▸ hc)
  obtain ⟨c, cs, hc⟩ := List.exists_cons_of_ne_nil (by simpa using hn.1 : n.toList.reverse ≠ [])
  have hc' : c ≠ '/' := hslash c (by simpa using List.mem_reverse.mp (hc ▸ List.mem_cons_self))
  have hname : ∀ a ∈ n.toList.reverse, decide (a ≠ '/') = true := by
    simpa using fun a ha => hslash a (List.mem_reverse.mp ha)
  have htrim : ∀ rest : List Char, (n.toList.reverse ++ rest).dropWhile
      (fun x => decide (x = '/')) = n.toList.reverse ++ rest := by
    intro rest
    rw [hc, List.cons_append, List.dropWhile_cons_of_neg (by simpa using hc')]
  by_cases hP0 : P = []
  · -- a name under the root: the directory part is the root
    subst hP0
    have hdrop : n.toList.reverse.dropWhile (fun x => decide (x ≠ '/')) = [] :=
      List.dropWhile_eq_nil_iff.mpr hname
    unfold dirname
    rw [toList_ofPlace_snoc, if_pos rfl, List.nil_append]
    dsimp only
    rw [← List.append_nil n.toList.reverse, htrim, List.append_nil, hdrop]
    rfl
  · obtain ⟨body, hbody⟩ : ∃ body, (ofPlace P).toList = '/' :: body := ⟨_, toList_ofPlace P⟩
    have hne : body ≠ [] := by
      obtain ⟨a, P', rfl⟩ := List.exists_cons_of_ne_nil hP0
      rw [toList_ofPlace] at hbody
      simp only [List.map_cons, List.cons.injEq, true_and] at hbody
      rw [← hbody]
      cases P' with
      | nil => simpa using (hP a (by simp)).1
      | cons b P'' => simp [List.intercalate_cons_cons]
    unfold dirname
    rw [toList_ofPlace_snoc, if_neg hP0, hbody, List.cons_append]
    dsimp only
    rw [List.reverse_append, List.reverse_cons, List.append_assoc, htrim,
      List.dropWhile_append_of_pos hname]
    simp [hne, ← hbody]

end Path

end FolderSink
