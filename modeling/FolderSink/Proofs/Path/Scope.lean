import FolderSink.Proofs.Path.Relative
import FolderSink.Proofs.Glob.Literal
import FolderSink.Path.Scope
/-!
The scope of a path matcher: which paths it takes relative to its root. Resolved paths are
paths of places (`exists_resolve_eq_ofPlace`), and the relative path from one place to
another walks up past their common names and down the rest (`relative_eq_joinNames`). So a
candidate is taken exactly when its place is the root's place followed by more names
(`Below`), and its relative path is then those names joined by slashes: a name that only
starts with `..` is one of them, and a name that only shares a start with the root's last
name is not. Every other candidate is refused with the same error, before any pattern is
read and whether or not the answer is negated.

Main statement (`matcher_scope_is_descendants`).
-/

namespace FolderSink

namespace Path

/-- The place of `candidate` is the place of `root` followed by the names `rest`, both
resolved against the working directory `cwd`. -/
def Below (cwd root candidate : String) (rest : List String) : Prop :=
  ∃ R, (∀ n ∈ R ++ rest, IsName n) ∧ resolve cwd [root] = ofPlace R ∧
    resolve cwd [candidate] = ofPlace (R ++ rest)

theorem startsWith_eq_true_iff (s pat : String) :
    s.startsWith pat = true ↔ pat.toList <+: s.toList := by
  rw [String.startsWith]
  simp

theorem names_dotDot : names ".." = [".."] := by
  simp only [names, splitOn_slash]
  rfl

section common

/-- Comparing two lists of names from the front: either the first is a start of the second
and nothing of it is left, or some of its names are left over. -/
theorem common_cases (R C : List String) :
    (∃ rest, C = R ++ rest ∧ relative.common R C = ([], rest)) ∨
      ∃ u us, (relative.common R C).1 = u :: us := by
  induction R generalizing C with
  | nil => exact .inl ⟨C, rfl, by cases C <;> rfl⟩
  | cons x xs ih =>
    cases C with
    | nil => exact .inr ⟨x, xs, rfl⟩
    | cons y ys =>
      by_cases hxy : x = y
      · subst hxy
        rcases ih ys with ⟨rest, rfl, h⟩ | ⟨u, us, h⟩
        · exact .inl ⟨rest, rfl, by simp [relative.common, h]⟩
        · exact .inr ⟨u, us, by simp [relative.common, h]⟩
      · exact .inr ⟨x, xs, by simp [relative.common, hxy]⟩

end common

/-- The relative path between two paths that resolve to places: a `..` for each name of the
first past their common names, then the rest of the second. -/
theorem relative_eq_joinNames {cwd src dst : String} {R C : Place} (hR : ∀ n ∈ R, IsName n)
    (hC : ∀ n ∈ C, IsName n) (hsrc : resolve cwd [src] = ofPlace R)
    (hdst : resolve cwd [dst] = ofPlace C) :
    relative cwd src dst =
      joinNames ((relative.common R C).1.map (fun _ => "..") ++ (relative.common R C).2) := by
  simp only [relative, hsrc, hdst, normalNames_names_ofPlace hR, normalNames_names_ofPlace hC]

section climbs

/-- The test by which a relative path is refused: it climbs out with `..`, or it is
absolute. -/
def Climbs (rel : String) : Prop :=
  rel = ".." ∨ rel.startsWith "../" = true ∨ isAbsolute rel = true

/-- Names of entries joined by slashes neither climb out nor start at the root. -/
theorem not_climbs_joinNames {ns : List String} (h : ∀ n ∈ ns, IsName n) :
    ¬ Climbs (joinNames ns) := by
  cases ns with
  | nil => simp [Climbs, joinNames, isAbsolute]
  | cons n ns =>
    -- the names of the text give back the list, whose first name is neither `..` nor empty
    have hnames : names (joinNames (n :: ns)) = n :: ns :=
      names_joinNames (List.cons_ne_nil n ns) fun m hm => (h m hm).2.2.2
    obtain ⟨hn0, -, hn2, -⟩ := h n List.mem_cons_self
    rintro (heq | hstart | habs)
    · rw [heq, names_dotDot] at hnames
      exact hn2 (List.cons.inj hnames).1.symm
    · obtain ⟨t, ht⟩ := (startsWith_eq_true_iff _ _).1 hstart
      have htext : joinNames (n :: ns) = ".." ++ "/" ++ String.ofList t := by
        apply String.toList_injective
        simpa using ht.symm
      rw [htext, names_append_slash, names_dotDot] at hnames
      exact hn2 (List.cons.inj hnames).1.symm
    · obtain ⟨t, ht⟩ := (startsWith_eq_true_iff _ _).1 habs
      have htext : joinNames (n :: ns) = "" ++ "/" ++ String.ofList t := by
        apply String.toList_injective
        simpa using ht.symm
      rw [htext, names_append_slash, names_empty] at hnames
      exact hn0 (List.cons.inj hnames).1.symm

/-- A path that starts with `..` climbs out. -/
theorem climbs_dotDot (rest : List String) : Climbs (joinNames (".." :: rest)) := by
  cases rest with
  | nil => exact .inl rfl
  | cons m ms =>
    refine .inr (.inl ((startsWith_eq_true_iff _ _).2 ?_))
    simp [joinNames, String.intercalate_cons_cons]

end climbs

section underRoot

variable {cwd : String}

theorem underRoot_of_climbs {root candidate : String} (h : Climbs (relative cwd root candidate)) :
    underRoot cwd root candidate = .error (.outside candidate root) := by
  rcases h with h | h | h <;> simp [underRoot, h]

theorem underRoot_of_not_climbs {root candidate : String}
    (h : ¬ Climbs (relative cwd root candidate)) :
    underRoot cwd root candidate = .ok (relative cwd root candidate) := by
  simp only [Climbs, not_or, Bool.not_eq_true] at h
  obtain ⟨h1, h2, h3⟩ := h
  simp [underRoot, h1, h2, h3]

/-- The names below the root are those that follow the root's place in the candidate's. -/
theorem Below.eq_append {root candidate : String} {R C : Place} {rest : List String}
    (hR : ∀ n ∈ R, IsName n) (hC : ∀ n ∈ C, IsName n) (hroot : resolve cwd [root] = ofPlace R)
    (hcand : resolve cwd [candidate] = ofPlace C) (hb : Below cwd root candidate rest) :
    C = R ++ rest := by
  obtain ⟨R', hnames, hroot', hcand'⟩ := hb
  have hR' : ∀ n ∈ R', IsName n := fun n hn => hnames n (List.mem_append_left _ hn)
  have hRR : R' = R := (ofPlace_inj hR' hR).1 (hroot'.symm.trans hroot)
  subst hRR
  exact (ofPlace_inj hC hnames).1 (hcand.symm.trans hcand')

theorem Below.unique {root candidate : String} {rest rest' : List String}
    (hb : Below cwd root candidate rest) (hb' : Below cwd root candidate rest') : rest = rest' := by
  obtain ⟨R, hnames, hroot, hcand⟩ := hb
  have h := hb'.eq_append (fun n hn => hnames n (List.mem_append_left _ hn)) hnames hroot hcand
  exact List.append_cancel_left h

variable (hcwd : isAbsolute cwd = true)
include hcwd

/-- A candidate below the root is taken, with the names below the root as its relative path;
any other candidate is refused. -/
theorem underRoot_cases (root candidate : String) :
    (∃ rest, Below cwd root candidate rest ∧ underRoot cwd root candidate = .ok (joinNames rest)) ∨
      ((¬ ∃ rest, Below cwd root candidate rest) ∧
        underRoot cwd root candidate = .error (.outside candidate root)) := by
  -- against an absolute working directory every path resolves to the path of a place
  obtain ⟨R, hR, hroot⟩ := exists_resolve_eq_ofPlace hcwd [root]
  obtain ⟨C, hC, hcand⟩ := exists_resolve_eq_ofPlace hcwd [candidate]
  have hrel := relative_eq_joinNames hR hC hroot hcand
  rcases common_cases R C with ⟨rest, rfl, hcommon⟩ | ⟨u, us, hcommon⟩
  · -- the root's names start the candidate's: the rest is the relative path
    rw [hcommon, List.map_nil, List.nil_append] at hrel
    refine .inl ⟨rest, ⟨R, hC, hroot, hcand⟩, ?_⟩
    rw [underRoot_of_not_climbs (hrel ▸ not_climbs_joinNames fun n hn =>
      hC n (List.mem_append_right _ hn)), hrel]
  · -- a name of the root is left over: the relative path climbs out with `..`
    rw [hcommon, List.map_cons, List.cons_append] at hrel
    refine .inr ⟨?_, underRoot_of_climbs (hrel ▸ climbs_dotDot _)⟩
    rintro ⟨rest, hb⟩
    rw [hb.eq_append hR hC hroot hcand, relative_common_append] at hcommon
    cases hcommon

theorem underRoot_eq_ok_iff (root candidate rel : String) :
    underRoot cwd root candidate = .ok rel ↔
      ∃ rest, Below cwd root candidate rest ∧ rel = joinNames rest := by
  rcases underRoot_cases hcwd root candidate with ⟨rest, hb, h⟩ | ⟨hnot, h⟩
  · rw [h]
    constructor
    · rintro ⟨⟩
      exact ⟨rest, hb, rfl⟩
    · rintro ⟨rest', hb', rfl⟩
      rw [hb.unique hb']
  · rw [h]
    exact ⟨(nomatch ·), fun ⟨rest, hb, _⟩ => absurd ⟨rest, hb⟩ hnot⟩

theorem underRoot_eq_outside_iff (root candidate : String) :
    underRoot cwd root candidate = .error (.outside candidate root) ↔
      ¬ ∃ rest, Below cwd root candidate rest := by
  rcases underRoot_cases hcwd root candidate with ⟨rest, hb, h⟩ | ⟨hnot, h⟩
  · rw [h]
    exact ⟨(nomatch ·), fun h => absurd ⟨rest, hb⟩ h⟩
  · exact ⟨fun _ => hnot, fun _ => h⟩

end underRoot

section encoding

/-! The units of a path of names: a slash is written only for the slash, so names without a
slash joined by slashes show their slashes exactly where the names meet. -/

/-- A character's code point lies below the surrogates, or above them and below U+110000. -/
theorem char_toNat_valid (c : Char) :
    c.toNat < 0xD800 ∨ (0xDFFF < c.toNat ∧ c.toNat < 0x110000) := by
  have h := c.valid
  simp only [UInt32.isValidChar, Nat.isValidChar] at h
  simp only [Char.toNat]
  omega

/-- Only the slash is written as the unit of a slash. -/
theorem ofCodePoint_ne_slash {c : Char} (hc : c ≠ '/') : 0x2F ∉ Utf16.ofCodePoint c.toNat := by
  have hne : c.toNat ≠ 0x2F := fun h => hc (by rw [← Char.ofNat_toNat c, h])
  have hv := char_toNat_valid c
  unfold Utf16.ofCodePoint
  split
  · simp only [List.mem_singleton]
    intro h
    have := congrArg UInt16.toNat h
    simp at this
    omega
  · -- a surrogate unit lies far above the slash
    simp only [List.mem_cons, List.not_mem_nil, or_false, not_or]
    constructor <;> intro h <;> have := congrArg UInt16.toNat h <;> simp at this <;> omega

/-- A character's units read back as its code point, whatever follows them: a character is
no surrogate, and one above U+FFFF is written as a high and a low surrogate. -/
theorem codePoints_ofCodePoint_append (c : Char) (rest : Utf16) :
    (Utf16.ofCodePoint c.toNat ++ rest).codePoints = c.toNat :: rest.codePoints := by
  have hv := char_toNat_valid c
  unfold Utf16.ofCodePoint
  split
  · -- one unit, which is no high surrogate
    rename_i hlt
    have hunit : c.toNat.toUInt16.toNat = c.toNat := by
      rw [Nat.toUInt16, UInt16.toNat_ofNat_of_lt' hlt]
    have hhigh : Utf16.isHigh c.toNat.toUInt16 = false := by
      simp only [Utf16.isHigh, hunit, Bool.and_eq_false_iff, decide_eq_false_iff_not]
      omega
    cases rest with
    | nil => simp [Utf16.codePoints, hunit]
    | cons v rest => simp [Utf16.codePoints, hhigh, hunit]
  · -- a high surrogate, then a low one
    rename_i hge
    have hhi : (0xD800 + (c.toNat - 0x10000) / 0x400).toUInt16.toNat =
        0xD800 + (c.toNat - 0x10000) / 0x400 := by
      rw [Nat.toUInt16, UInt16.toNat_ofNat_of_lt' (show _ < 65536 by omega)]
    have hlo : (0xDC00 + (c.toNat - 0x10000) % 0x400).toUInt16.toNat =
        0xDC00 + (c.toNat - 0x10000) % 0x400 := by
      rw [Nat.toUInt16, UInt16.toNat_ofNat_of_lt' (show _ < 65536 by omega)]
    have hpair : (Utf16.isHigh (0xD800 + (c.toNat - 0x10000) / 0x400).toUInt16 &&
        Utf16.isLow (0xDC00 + (c.toNat - 0x10000) % 0x400).toUInt16) = true := by
      simp only [Utf16.isHigh, Utf16.isLow, hhi, hlo, Bool.and_eq_true, decide_eq_true_eq]
      omega
    have hcode : 0x10000 + (0xD800 + (c.toNat - 0x10000) / 0x400 - 0xD800) * 0x400 +
        (0xDC00 + (c.toNat - 0x10000) % 0x400 - 0xDC00) = c.toNat := by
      omega
    rw [List.cons_append, List.cons_append, List.nil_append, Utf16.codePoints, if_pos hpair, hhi,
      hlo, hcode]

/-- The units of a string read back as its code points. -/
theorem codePoints_ofString (s : String) :
    (Utf16.ofString s).codePoints = s.toList.map Char.toNat := by
  unfold Utf16.ofString
  induction s.toList with
  | nil => rfl
  | cons c cs ih => rw [List.flatMap_cons, codePoints_ofCodePoint_append, ih, List.map_cons]

/-- Different strings are written as different units. -/
theorem ofString_inj {s t : String} (h : Utf16.ofString s = Utf16.ofString t) : s = t := by
  have hcodes := congrArg Utf16.codePoints h
  rw [codePoints_ofString, codePoints_ofString] at hcodes
  exact String.toList_inj.mp
    (List.map_injective_iff.mpr (fun _ _ hab => Char.toNat_inj.mp hab) hcodes)

theorem ofCodePoint_ne_nil (n : Nat) : Utf16.ofCodePoint n ≠ [] := by
  unfold Utf16.ofCodePoint
  split <;> simp

theorem ofString_slash_free {n : String} (hn : '/' ∉ n.toList) : 0x2F ∉ Utf16.ofString n := by
  simp only [Utf16.ofString, List.mem_flatMap, not_exists, not_and]
  intro c hc
  exact ofCodePoint_ne_slash fun h => hn (h ▸ hc)

theorem ofString_ne_nil {n : String} (hn : n ≠ "") : Utf16.ofString n ≠ [] := by
  obtain ⟨c, cs, hc⟩ := List.exists_cons_of_ne_nil (mt String.toList_eq_nil_iff.mp hn)
  simp [Utf16.ofString, hc, ofCodePoint_ne_nil]

theorem ofString_joinNames_cons_cons (a b : String) (rest : List String) :
    Utf16.ofString (joinNames (a :: b :: rest)) =
      Utf16.ofString a ++ 0x2F :: Utf16.ofString (joinNames (b :: rest)) := by
  simp [Utf16.ofString, joinNames, List.flatMap_append, Utf16.ofCodePoint]

/-- A path of names starts with a unit of its first name, which is no slash. -/
theorem ofString_joinNames_head {b : String} (hb : IsName b) (rest : List String) :
    ∃ u w, Utf16.ofString (joinNames (b :: rest)) = u :: w ∧ u ≠ 0x2F := by
  obtain ⟨u, w₀, hu⟩ := List.exists_cons_of_ne_nil (ofString_ne_nil hb.1)
  have hslash : u ≠ 0x2F := fun h => ofString_slash_free hb.2.2.2 (by simp [hu, h])
  cases rest with
  | nil => exact ⟨u, w₀, hu, hslash⟩
  | cons c cs => exact ⟨u, _, by rw [ofString_joinNames_cons_cons, hu, List.cons_append], hslash⟩

/-- Names joined by slashes spell one name exactly when they are that one name. -/
theorem joinNames_eq_name {rel : List String} (hrel : ∀ n ∈ rel, IsName n) {a : String}
    (ha : IsName a) : joinNames rel = a ↔ rel = [a] := by
  constructor
  · intro h
    have hne : rel ≠ [] := by
      rintro rfl
      exact ha.1 h.symm
    have hsplit := names_joinNames hne fun n hn => (hrel n hn).2.2.2
    have hone : names a = [a] := by
      simpa [joinNames] using names_joinNames (List.cons_ne_nil a []) (by simpa using ha.2.2.2)
    rw [h] at hsplit
    exact hsplit.symm.trans hone
  · rintro rfl
    simp [joinNames]

/-- A plain name as a pattern takes a path of names exactly when the path is that name. -/
theorem globMatch_joinNames_plain {rel : List String} (hrel : ∀ n ∈ rel, IsName n) {p : Utf16}
    (hp : Glob.Plain p) (hlen : p.length ≤ Glob.maxPatternLength) :
    Glob.globMatch (Utf16.ofString (joinNames rel)) p =
      .ok (Utf16.ofString (joinNames rel) == p) := by
  match rel, hrel with
  | [], _ => exact Glob.globMatch_plain hp hlen (by simp [joinNames, Utf16.ofString])
  | [n], hrel =>
    exact Glob.globMatch_plain hp hlen (ofString_slash_free (hrel n (by simp)).2.2.2)
  | a :: b :: rest, hrel =>
    -- two names or more: the pattern, which has no slash, is not the path
    obtain ⟨u, w, hw, hu⟩ := ofString_joinNames_head (hrel b (by simp)) rest
    have ha := ofString_slash_free (hrel a (by simp)).2.2.2
    have hne : (Utf16.ofString a ++ 0x2F :: u :: w == p) = false := by
      simp only [beq_eq_false_iff_ne, ne_eq]
      rintro rfl
      exact Glob.not_mem_of_plain hp.2 (c := 0x2F) (by decide) (by simp)
    rw [ofString_joinNames_cons_cons, hw, Glob.globMatch_plain_of_sep hp hlen ha hu, hne]

end encoding

section matchers

/-- Patterns fail only by a refused pattern, never by refusing the path. -/
theorem anyPattern_ne_outside (rel : Utf16) (ps : List Utf16) (candidate root : String) :
    anyPattern rel ps ≠ .error (.outside candidate root) := by
  induction ps with
  | nil => simp [anyPattern]
  | cons p ps ih =>
    cases hg : Glob.globMatch rel p with
    | error g => simp [anyPattern, hg, Except.mapError, bind, Except.bind]
    | ok hit => cases hit <;> simp [anyPattern, hg, Except.mapError, bind, Except.bind, ih]

/-- Patterns tried one list after another: the second list is read only when no pattern of
the first matches. -/
theorem anyPattern_append (rel : Utf16) (ps qs : List Utf16) :
    anyPattern rel (ps ++ qs) =
      (anyPattern rel ps >>= fun hit => if hit then .ok true else anyPattern rel qs) := by
  induction ps with
  | nil => rfl
  | cons p ps ih =>
    cases hg : Glob.globMatch rel p with
    | error g => simp [anyPattern, hg, Except.mapError, bind, Except.bind]
    | ok hit => cases hit <;> simp [anyPattern, hg, Except.mapError, bind, Except.bind, ih]

/-- Patterns that each take a path exactly when it is themselves find it exactly when it is one
of them. -/
theorem anyPattern_eq_mem {rel : Utf16} (ps : List Utf16)
    (hps : ∀ p ∈ ps, Glob.globMatch rel p = .ok (rel == p)) :
    anyPattern rel ps = .ok (decide (rel ∈ ps)) := by
  induction ps with
  | nil => rfl
  | cons p ps ih =>
    rw [anyPattern, hps p List.mem_cons_self,
      ih fun q hq => hps q (List.mem_cons_of_mem p hq)]
    by_cases h : rel = p <;> simp [h, Except.mapError, bind, Except.bind]

variable {cwd : String}

theorem matchesAny_append (root candidate : String) (ps qs : List Utf16) :
    matchesAny cwd root candidate (ps ++ qs) = (matchesAny cwd root candidate ps >>= fun hit =>
      if hit then .ok true else matchesAny cwd root candidate qs) := by
  cases h : underRoot cwd root candidate with
  | error e => simp [matchesAny, h, bind, Except.bind]
  | ok rel =>
    simp only [matchesAny, h, bind, Except.bind]
    exact anyPattern_append _ ps qs

theorem matchesAny_of_underRoot_ok {root candidate rel : String} (ps : List Utf16)
    (h : underRoot cwd root candidate = .ok rel) :
    matchesAny cwd root candidate ps = anyPattern (Utf16.ofString rel) ps := by
  simp [matchesAny, h, bind, Except.bind]

theorem matchesAny_eq_outside_iff (root candidate : String) (ps : List Utf16) :
    matchesAny cwd root candidate ps = .error (.outside candidate root) ↔
      underRoot cwd root candidate = .error (.outside candidate root) := by
  cases h : underRoot cwd root candidate with
  | ok rel =>
    rw [matchesAny_of_underRoot_ok ps h]
    exact ⟨fun h' => absurd h' (anyPattern_ne_outside _ _ _ _), fun h' => by cases h'⟩
  | error e => simp [matchesAny, h, bind, Except.bind]

end matchers

end Path

/-- A matcher rooted at a place tries its patterns on the names below that place, joined by
slashes, whatever the working directory. -/
theorem PathMatcher.test_ofPlace_append (cwd : String) (R rel : Place) (patterns : List Utf16)
    (h : ∀ n ∈ R ++ rel, Path.IsName n) :
    (⟨cwd, Path.ofPlace R, patterns⟩ : PathMatcher).test (Path.ofPlace (R ++ rel)) =
      Path.anyPattern (Utf16.ofString (Path.joinNames rel)) patterns := by
  -- both paths are absolute, so the working directory is never read
  have hR : ∀ n ∈ R, Path.IsName n := fun n hn => h n (List.mem_append_left _ hn)
  have hrel : Path.relative cwd (Path.ofPlace R) (Path.ofPlace (R ++ rel)) = Path.joinNames rel := by
    rw [Path.relative_eq_joinNames hR h (Path.resolve_ofPlace_against cwd hR)
      (Path.resolve_ofPlace_against cwd h), Path.relative_common_append]
    rfl
  refine Path.matchesAny_of_underRoot_ok patterns ?_
  rw [← hrel]
  exact Path.underRoot_of_not_climbs (hrel ▸ Path.not_climbs_joinNames fun n hn =>
    h n (List.mem_append_right _ hn))

/-- A matcher of plain names takes a path below its root exactly when the names that lead to
it from the root, joined by slashes, are one of the patterns. -/
theorem PathMatcher.test_of_plain (cwd : String) (R rel : Place) (patterns : List Utf16)
    (h : ∀ n ∈ R ++ rel, Path.IsName n)
    (hps : ∀ p ∈ patterns, Glob.Plain p ∧ p.length ≤ Glob.maxPatternLength) :
    (⟨cwd, Path.ofPlace R, patterns⟩ : PathMatcher).test (Path.ofPlace (R ++ rel)) =
      .ok (decide (Utf16.ofString (Path.joinNames rel) ∈ patterns)) := by
  rw [PathMatcher.test_ofPlace_append cwd R rel patterns h]
  exact Path.anyPattern_eq_mem patterns fun p hp => Path.globMatch_joinNames_plain
    (fun n hn => h n (List.mem_append_right _ hn)) (hps p hp).1 (hps p hp).2

/-- A pattern that spells one name keeps, below its root, the path of that name and no other. -/
theorem PathMatcher.test_of_name (cwd : String) (R rel : Place) {a : String}
    (h : ∀ n ∈ R ++ rel, Path.IsName n) (ha : Path.IsName a)
    (hp : Glob.Plain (Utf16.ofString a) ∧ (Utf16.ofString a).length ≤ Glob.maxPatternLength) :
    (⟨cwd, Path.ofPlace R, [Utf16.ofString a]⟩ : PathMatcher).test (Path.ofPlace (R ++ rel)) =
      .ok (rel == [a]) := by
  rw [PathMatcher.test_of_plain cwd R rel _ h (by simpa using hp)]
  have hiff : Utf16.ofString (Path.joinNames rel) ∈ [Utf16.ofString a] ↔ rel = [a] := by
    rw [List.mem_singleton, ← Path.joinNames_eq_name (fun n hn => h n (List.mem_append_right _ hn)) ha]
    exact ⟨Path.ofString_inj, congrArg Utf16.ofString⟩
  simp only [hiff]
  exact congrArg Except.ok (Bool.beq_eq_decide_eq rel [a]).symm

theorem PathMatcher.testNot_eq_error_iff (m : PathMatcher) (candidate : String) (e : ScopeError) :
    m.testNot candidate = .error e ↔ m.test candidate = .error e := by
  cases h : m.test candidate <;> simp [PathMatcher.testNot, Except.map, h]

/-- A path matcher takes exactly the root and the paths below it, name by name, both read
from an absolute working directory. For those, the relative path is the names below the root
joined by slashes (empty for the root itself) and the patterns are tried on it; every other
path is refused with the same error, whatever the patterns and whether or not the answer is
negated. -/
theorem matcher_scope_is_descendants (cwd root candidate : String)
    (hcwd : Path.isAbsolute cwd = true) :
    (∀ rel, Path.underRoot cwd root candidate = .ok rel ↔
      ∃ rest, Path.Below cwd root candidate rest ∧ rel = Path.joinNames rest) ∧
    (∀ (patterns : List Utf16) rest, Path.Below cwd root candidate rest →
      Path.matchesAny cwd root candidate patterns =
        Path.anyPattern (Utf16.ofString (Path.joinNames rest)) patterns) ∧
    (∀ patterns : List Utf16,
      (Path.matchesAny cwd root candidate patterns = .error (.outside candidate root) ↔
        ¬ ∃ rest, Path.Below cwd root candidate rest) ∧
      ((⟨cwd, root, patterns⟩ : PathMatcher).testNot candidate = .error (.outside candidate root) ↔
        ¬ ∃ rest, Path.Below cwd root candidate rest)) ∧
    (ScopeError.outside candidate root).errorClass = "Error" ∧
    (ScopeError.outside candidate root).message =
      Utf16.ofString ("Path '" ++ candidate ++ "' is not under '" ++ root ++ "'") := by
  have houtside := fun patterns : List Utf16 =>
    (Path.matchesAny_eq_outside_iff root candidate patterns).trans
      (Path.underRoot_eq_outside_iff hcwd root candidate)
  refine ⟨Path.underRoot_eq_ok_iff hcwd root candidate, ?_,
    fun patterns => ⟨houtside patterns, ?_⟩, rfl, rfl⟩
  · intro patterns rest hb
    exact Path.matchesAny_of_underRoot_ok patterns
      ((Path.underRoot_eq_ok_iff hcwd _ _ _).2 ⟨rest, hb, rfl⟩)
  · exact (PathMatcher.testNot_eq_error_iff _ _ _).trans (houtside patterns)

/-- From the working directory `/w`, the path `/r/..hidden` is below the root `/r`: the name
`..hidden` only starts with two dots. -/
theorem matcher_scope_dotted_name :
    Path.isAbsolute "/w" = true ∧
      Path.matchesAny "/w" (Path.ofPlace ["r"]) (Path.ofPlace ["r", "..hidden"]) [] =
        Path.anyPattern (Utf16.ofString "..hidden") [] :=
  ⟨by decide +kernel, (matcher_scope_is_descendants "/w" _ _ (by decide +kernel)).2.1 [] ["..hidden"]
    ⟨["r"], by decide, Path.resolve_ofPlace_against "/w" (by decide),
      Path.resolve_ofPlace_against "/w" (by decide)⟩⟩

end FolderSink
