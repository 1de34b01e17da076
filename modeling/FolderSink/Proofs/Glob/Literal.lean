import FolderSink.Glob.Match
/-!
A plain name as a pattern. A pattern made only of ASCII letters and digits holds no wildcard,
brace, bracket, group, escape, slash or dot, so every stage of compiling it passes it through
unchanged: it is split into one segment, expands to itself, is read as one piece of text,
renders as that text with no wildcard, and becomes a segment compared as text. So it matches
exactly the name it spells (`globMatch_plain`).
-/

namespace FolderSink

namespace Glob

/-- An ASCII letter or digit. -/
def IsPlainUnit (u : UInt16) : Prop :=
  (0x30 ≤ u.toNat ∧ u.toNat ≤ 0x39) ∨ (0x41 ≤ u.toNat ∧ u.toNat ≤ 0x5A) ∨
    (0x61 ≤ u.toNat ∧ u.toNat ≤ 0x7A)

instance : DecidablePred IsPlainUnit := fun _ =>
  inferInstanceAs (Decidable ((_ ∧ _) ∨ (_ ∧ _) ∨ (_ ∧ _)))

/-- A plain name: ASCII letters and digits, at least one. -/
def Plain (p : Utf16) : Prop := p ≠ [] ∧ ∀ u ∈ p, IsPlainUnit u

-- Decided along the name itself: with the order library loaded, `∀ u ∈ p` over units would
-- otherwise be decided by ranging over every unit there is.
instance : DecidablePred Plain := fun p =>
  @instDecidableAnd _ _ inferInstance (List.decidableBAll IsPlainUnit p)

/-- A plain unit is none of the units that mean something in a pattern. -/
theorem IsPlainUnit.ne {u : UInt16} (hu : IsPlainUnit u) {c : UInt16}
    (hc : c.toNat < 0x30 ∨ (0x39 < c.toNat ∧ c.toNat < 0x41) ∨ (0x5A < c.toNat ∧ c.toNat < 0x61) ∨
      0x7A < c.toNat) : u ≠ c := by
  rintro rfl
  unfold IsPlainUnit at hu
  omega

theorem IsPlainUnit.ne_slash {u : UInt16} (hu : IsPlainUnit u) : u ≠ 0x2F := hu.ne (by decide)

section split

/-- A text without a slash is one name. -/
theorem slashSplit_go_of_no_slash (l cur : Utf16) (inRun : Bool) (hl : 0x2F ∉ l) :
    slashSplit.go l cur inRun = [cur.reverse ++ l] := by
  induction l generalizing cur inRun with
  | nil => simp [slashSplit.go]
  | cons u rest ih =>
    have hu : u ≠ 0x2F := fun h => hl (h ▸ List.mem_cons_self)
    rw [slashSplit.go.eq_3 _ _ _ _ hu, ih _ _ fun h => hl (List.mem_cons_of_mem _ h)]
    simp

theorem slashSplit_of_no_slash {f : Utf16} (hf : 0x2F ∉ f) : slashSplit f = [f] := by
  simpa [slashSplit] using slashSplit_go_of_no_slash f [] false hf

/-- The first slash ends the name read so far. -/
theorem slashSplit_go_append_slash (l₁ l₂ cur : Utf16) (h₁ : 0x2F ∉ l₁) :
    slashSplit.go (l₁ ++ 0x2F :: l₂) cur false =
      (cur.reverse ++ l₁) :: slashSplit.go l₂ [] true := by
  induction l₁ generalizing cur with
  | nil => simp [slashSplit.go]
  | cons u rest ih =>
    have hu : u ≠ 0x2F := fun h => h₁ (h ▸ List.mem_cons_self)
    rw [List.cons_append, slashSplit.go.eq_3 _ _ _ _ hu,
      ih _ fun h => h₁ (List.mem_cons_of_mem _ h)]
    simp

/-- Once a name has begun, the first piece of the split is not empty. -/
theorem slashSplit_go_head_ne_nil (l cur : Utf16) (inRun : Bool) (hcur : cur ≠ []) :
    ∃ x xs, slashSplit.go l cur inRun = x :: xs ∧ x ≠ [] := by
  induction l generalizing cur inRun with
  | nil => exact ⟨_, _, rfl, by simpa using hcur⟩
  | cons u rest ih =>
    by_cases hu : u = 0x2F
    · subst hu
      cases inRun with
      | false =>
        exact ⟨cur.reverse, slashSplit.go rest [] true, by simp [slashSplit.go],
          by simpa using hcur⟩
      | true => simpa [slashSplit.go] using ih cur true hcur
    · rw [slashSplit.go.eq_3 _ _ _ _ hu]
      exact ih _ _ (List.cons_ne_nil _ _)

/-- A name, a slash and a second name split into at least two names, the second not empty. -/
theorem slashSplit_of_sep {a b : Utf16} {u : UInt16} (ha : 0x2F ∉ a) (hu : u ≠ 0x2F) :
    ∃ x xs, slashSplit (a ++ 0x2F :: u :: b) = a :: x :: xs ∧ x ≠ [] := by
  obtain ⟨x, xs, hx, hxne⟩ := slashSplit_go_head_ne_nil b [u] false (List.cons_ne_nil _ _)
  refine ⟨x, xs, ?_, hxne⟩
  rw [slashSplit, slashSplit_go_append_slash _ _ _ ha, slashSplit.go.eq_3 _ _ _ _ hu, hx]
  simp

/-- Without `{` there is no brace pair. -/
theorem hasBraceSet_go_of_no_brace (l : Utf16) (hl : 0x7B ∉ l) : Brace.hasBraceSet.go l = false := by
  induction l with
  | nil => rfl
  | cons u rest ih =>
    have hu : u ≠ 0x7B := fun h => hl (h ▸ List.mem_cons_self)
    rw [Brace.hasBraceSet.go.eq_2 _ _ hu, ih fun h => hl (List.mem_cons_of_mem _ h)]

theorem braceExpand_of_no_brace {p : Utf16} (hp : 0x7B ∉ p) : braceExpand p = [p] := by
  simp [braceExpand, Brace.hasBraceSet, hasBraceSet_go_of_no_brace p hp]

end split

section read

/-- A plain unit changes no scan state: it is neither an escape nor a bracket. -/
theorem step_of_plain {u : UInt16} (hu : IsPlainUnit u) (i : Nat) :
    ({} : ScanState).step u i = none := by
  have h5C : u ≠ 0x5C := hu.ne (by decide)
  have h5B : u ≠ 0x5B := hu.ne (by decide)
  simp [ScanState.step, h5C, h5B]

/-- A plain unit starts no group. -/
theorem ofUnit_of_plain {u : UInt16} (hu : IsPlainUnit u) : ExtKind.ofUnit? u = none := by
  have h3F : u ≠ 0x3F := hu.ne (by decide)
  have h2B : u ≠ 0x2B := hu.ne (by decide)
  have h2A : u ≠ 0x2A := hu.ne (by decide)
  have h40 : u ≠ 0x40 := hu.ne (by decide)
  have h21 : u ≠ 0x21 := hu.ne (by decide)
  simp [ExtKind.ofUnit?, ExtKind.unit, Ne.symm h3F, Ne.symm h2B, Ne.symm h2A, Ne.symm h40,
    Ne.symm h21]

/-- Reading plain units gathers them as one piece of text. -/
theorem readRootLoop_of_plain {p : Utf16} (hp : ∀ u ∈ p, IsPlainUnit u) :
    ∀ f i (acc : Utf16) (parts : List Piece) (count : Nat), p.length - i < f →
      readRootLoop p.toArray f i {} acc parts count =
        Ast.push parts (.text (acc.reverse ++ p.drop i))
  | 0, _, _, _, _, h => absurd h (Nat.not_lt_zero _)
  | f + 1, i, acc, parts, count, h => by
    rw [readRootLoop]
    cases hi : p.toArray[i]? with
    | none =>
      have hle : p.length ≤ i := by simpa using hi
      simp [List.drop_eq_nil_of_le hle]
    | some c =>
      have hlt : i < p.length := by
        rcases Nat.lt_or_ge i p.length with hlt | hge
        · exact hlt
        · rw [List.getElem?_toArray, List.getElem?_eq_none hge] at hi
          cases hi
      have hc : p[i] = c := by simpa [hlt] using hi
      have hcp : IsPlainUnit c := hc ▸ hp _ (List.getElem_mem hlt)
      simp only [step_of_plain hcp, ofUnit_of_plain hcp]
      rw [readRootLoop_of_plain hp f (i + 1) (c :: acc) parts count (by omega),
        List.drop_eq_getElem_cons hlt, hc]
      simp

/-- A plain name is read as one piece of text. -/
theorem readRoot_of_plain {p : Utf16} (hp : Plain p) :
    readRoot p.toArray = .mk none [.text p] 0 false none [] := by
  rw [readRoot, List.size_toArray, readRootLoop_of_plain hp.2 _ 0 [] [] 0 (by omega)]
  simp [Ast.push, hp.1]

end read

section render

/-- A plain unit stands for itself in a regular expression. -/
theorem literal_of_plain {u : UInt16} (hu : IsPlainUnit u) : Source.literal u = [u] := by
  have hspec : u ∉ Source.ascii "-[]\x7b\x7d()*+?.,\\^$|#" := by
    rw [show Source.ascii "-[]\x7b\x7d()*+?.,\\^$|#" = [0x2D, 0x5B, 0x5D, 0x7B, 0x7D, 0x28, 0x29,
      0x2A, 0x2B, 0x3F, 0x2E, 0x2C, 0x5C, 0x5E, 0x24, 0x7C, 0x23] from rfl]
    simp only [List.mem_cons, List.not_mem_nil, or_false, not_or]
    and_intros
    all_goals exact hu.ne (by decide)
  have hspace : Source.isSpace u = false := by
    unfold IsPlainUnit at hu
    unfold Source.isSpace
    generalize u.toNat = n at hu ⊢
    simp only [Bool.or_eq_false_iff, Bool.and_eq_false_iff, decide_eq_false_iff_not,
      beq_eq_false_iff_ne, ne_eq]
    omega
  simp [Source.literal, hspec, hspace]

/-- The text of plain units is read unit by unit, each a literal, with no wildcard. -/
theorem ofGlobText_loop_of_plain {t : Utf16} (ht : ∀ u ∈ t, IsPlainUnit u) (noEmpty onlyStars : Bool) :
    ∀ f i (re : List Utf16), t.length - i < f →
      Source.ofGlobText.loop noEmpty t.toArray onlyStars f i false false (re, false, false) =
        ((t.drop i).reverse.map (fun u => [u]) ++ re, false, false)
  | 0, _, _, h => absurd h (Nat.not_lt_zero _)
  | f + 1, i, re, h => by
    rw [Source.ofGlobText.loop]
    cases hi : t.toArray[i]? with
    | none =>
      have hle : t.length ≤ i := by simpa using hi
      simp [List.drop_eq_nil_of_le hle]
    | some c =>
      have hlt : i < t.length := by
        rcases Nat.lt_or_ge i t.length with hlt | hge
        · exact hlt
        · rw [List.getElem?_toArray, List.getElem?_eq_none hge] at hi
          cases hi
      have hc : t[i] = c := by simpa [hlt] using hi
      have hcp : IsPlainUnit c := hc ▸ ht _ (List.getElem_mem hlt)
      have h5C : c ≠ 0x5C := hcp.ne (by decide)
      have h5B : c ≠ 0x5B := hcp.ne (by decide)
      have h2A : c ≠ 0x2A := hcp.ne (by decide)
      have h3F : c ≠ 0x3F := hcp.ne (by decide)
      simp only [h5C, h5B, h2A, h3F, if_false, literal_of_plain hcp, Bool.false_eq_true]
      rw [ofGlobText_loop_of_plain ht noEmpty onlyStars f (i + 1) ([c] :: re) (by omega),
        List.drop_eq_getElem_cons hlt, hc]
      simp

theorem ofGlobText_of_plain {t : Utf16} (ht : ∀ u ∈ t, IsPlainUnit u) (noEmpty : Bool) :
    Source.ofGlobText t noEmpty = (t, false, false) := by
  rw [Source.ofGlobText]
  simp only
  rw [ofGlobText_loop_of_plain ht noEmpty _ _ 0 [] (by simp)]
  -- the literals, one for each unit, put back together
  have hsingle : ∀ l : Utf16, (l.map fun u => [u]).flatten = l := by
    intro l
    induction l <;> simp_all
  simp [hsingle]

/-- A plain name starts with no dot and no bracket, so it needs no guard against `.` and `..`. -/
theorem needsNoTraversal_of_plain {p : Utf16} (hp : Plain p) : Source.needsNoTraversal p = false := by
  obtain ⟨u, rest, rfl⟩ := List.exists_cons_of_ne_nil hp.1
  have hu := hp.2 u List.mem_cons_self
  have h5B : u ≠ 0x5B := hu.ne (by decide)
  have h2E : u ≠ 0x2E := hu.ne (by decide)
  have h5C : u ≠ 0x5C := hu.ne (by decide)
  simp [Source.needsNoTraversal, List.isPrefixOf, h5B, h2E, Ne.symm h5C]

/-- A node of one piece of text has nothing to simplify. -/
theorem flatten_text (f : Nat) (t : Utf16) :
    Ast.flatten (f + 1) (.mk none [.text t] 0 false none []) = .mk none [.text t] 0 false none [] := by
  rw [Ast.flatten.eq_2]
  cases f with
  | zero => rfl
  | succ f =>
    rw [Ast.flattenParts.eq_3]
    cases f <;> rfl

/-- A node of one piece of text holds no negation. -/
theorem fillNegations_text (f : Nat) (t : Utf16) :
    Ast.fillNegations (f + 1) (.mk none [.text t] 0 false none []) =
      .mk none [.text t] 0 false none [] := by
  have hmarks : Ast.takerMarks (f + 1) (.mk none [.text t] 0 false none []) = [] := by
    simp [Ast.takerMarks, Ast.kind, Ast.takers, Ast.parts]
  simp only [Ast.fillNegations, hmarks]
  rw [show ([] : List Nat).eraseDups = [] from rfl, List.mergeSort_nil]
  rfl

/-- A plain name renders as itself, with no wildcard and no guard. -/
theorem render_of_plain {p : Utf16} (hp : Plain p) : PartTest.render p = ⟨p, p, false, false⟩ := by
  have hfuel : PartTest.fuelFor p.length = (16 * p.length + 63) + 1 := rfl
  have hdots : (p == [0x2E] || p == [0x2E, 0x2E]) = false := by
    obtain ⟨u, rest, rfl⟩ := List.exists_cons_of_ne_nil hp.1
    have h2E : u ≠ 0x2E := (hp.2 u List.mem_cons_self).ne (by decide)
    simp [h2E]
  unfold PartTest.render
  rw [readRoot_of_plain hp, hfuel]
  dsimp only
  rw [flatten_text, fillNegations_text, Ast.renderPlain.eq_2]
  simp [Ast.parts, ofGlobText_of_plain hp.2, needsNoTraversal_of_plain hp, hdots]

end render

section unescape

/-- Plain units hold no one-character bracket to undo. -/
theorem brackets_of_plain (plain : UInt16 → Bool) :
    ∀ f (l : Utf16) (atStart : Bool), (∀ u ∈ l, IsPlainUnit u) → l.length < f →
      Source.unescape.brackets plain f l atStart = l
  | 0, _, _, _, h => absurd h (Nat.not_lt_zero _)
  | f + 1, [], _, _, _ => by simp [Source.unescape.brackets]
  | f + 1, [a], _, hl, h => by
    have h0 := brackets_of_plain plain f [] false (by simp) (by simp at h ⊢; omega)
    simp [Source.unescape.brackets, h0]
  | f + 1, a :: c :: rest, atStart, hl, h => by
    have ha5B : a ≠ 0x5B := (hl a List.mem_cons_self).ne (by decide)
    have hc5B : c ≠ 0x5B := (hl c (by simp)).ne (by decide)
    have ih := brackets_of_plain plain f (c :: rest) false (fun u hu => hl u (List.mem_cons_of_mem _ hu))
      (by simp at h ⊢; omega)
    simp [Source.unescape.brackets, ha5B, hc5B, ih]

/-- Plain units hold no backslash to drop. -/
theorem slashes_of_plain : ∀ (l : Utf16), (∀ u ∈ l, IsPlainUnit u) → Source.unescape.slashes l = l
  | [], _ => by simp [Source.unescape.slashes]
  | a :: rest, hl => by
    have ha : a ≠ 0x5C := (hl a List.mem_cons_self).ne (by decide)
    have ih := slashes_of_plain rest fun u hu => hl u (List.mem_cons_of_mem _ hu)
    simp [Source.unescape.slashes, ha, ih]

theorem unescape_of_plain {p : Utf16} (hp : ∀ u ∈ p, IsPlainUnit u) : Source.unescape p = p := by
  rw [Source.unescape, brackets_of_plain _ _ p true hp (by omega), slashes_of_plain p hp]

end unescape

section compile

variable {p : Utf16}

theorem not_mem_of_plain (hp : ∀ u ∈ p, IsPlainUnit u) {c : UInt16}
    (hc : c.toNat < 0x30 ∨ (0x39 < c.toNat ∧ c.toNat < 0x41) ∨ (0x5A < c.toNat ∧ c.toNat < 0x61) ∨
      0x7A < c.toNat) : c ∉ p := fun h => (hp c h).ne hc rfl

/-- A plain name is a segment compared as text. -/
theorem PartTest.compile_of_plain (hp : Plain p) : PartTest.compile p = .ok (.exact p) := by
  obtain ⟨u, rest, hur⟩ := List.exists_cons_of_ne_nil hp.1
  have hstar : (p == [0x2A, 0x2A]) = false := by
    have hu : u ≠ 0x2A := (hp.2 u (hur ▸ List.mem_cons_self)).ne (by decide)
    simp [hur, hu]
  simp [PartTest.compile, hstar, hp.1, render_of_plain hp, unescape_of_plain hp.2]

/-- A plain name alone compiles to one segment compared as text. -/
theorem compileSet_of_plain (hp : Plain p) : compileSet [p] = .ok [.exact p] := by
  rw [compileSet, PartTest.compile_of_plain hp]
  rfl

/-- A plain name compiles to one alternative of one segment, compared as text. -/
theorem Pattern.compile_of_plain (hp : Plain p) (hlen : p.length ≤ maxPatternLength) :
    Pattern.compile p = .ok (.alternatives false [[.exact p]]) := by
  obtain ⟨u, rest, rfl⟩ := List.exists_cons_of_ne_nil hp.1
  have hu := hp.2 u List.mem_cons_self
  have h23 : u ≠ 0x23 := hu.ne (by decide)
  have h21 : u ≠ 0x21 := hu.ne (by decide)
  have hlevel : levelOne [u :: rest] = [u :: rest] := by
    simp [levelOne]
  have hlen' : ¬ rest.length + 1 > maxPatternLength := Nat.not_lt.mpr hlen
  simp [Pattern.compile, hlen', h23, h21, braceExpand_of_no_brace
    (not_mem_of_plain hp.2 (c := 0x7B) (by decide)), slashSplit_of_no_slash
    (not_mem_of_plain hp.2 (c := 0x2F) (by decide)), hlevel, compileSets, compileSet_of_plain hp,
    bind, Except.bind, Except.map]

/-- One segment compared as text takes exactly that name, among names without a slash. -/
theorem Pattern.test_exact {f : Utf16} (hf : 0x2F ∉ f) :
    (Pattern.alternatives false [[.exact p]]).test f = (f == p) := by
  simp [Pattern.test, slashSplit_of_no_slash hf, matchSet, walk, PartTest.test,
    PartTest.isGlobstar]
  exact (Bool.beq_eq_decide_eq f p).symm

/-- One segment never takes a path of two names or more. -/
theorem Pattern.test_exact_of_sep {a b : Utf16} {u : UInt16} (ha : 0x2F ∉ a) (hu : u ≠ 0x2F) :
    (Pattern.alternatives false [[.exact p]]).test (a ++ 0x2F :: u :: b) = false := by
  obtain ⟨x, xs, hsplit, hx⟩ := slashSplit_of_sep (b := b) ha hu
  simp [Pattern.test, hsplit, matchSet, walk, PartTest.isGlobstar, hx]

/-- A plain name as a pattern is tested as one segment compared as text. -/
theorem globMatch_of_plain {f : Utf16} (hp : Plain p) (hlen : p.length ≤ maxPatternLength) :
    globMatch f p = .ok ((Pattern.alternatives false [[.exact p]]).test f) := by
  have hhead : (p.head? == some 0x23) = false := by
    obtain ⟨u, rest, rfl⟩ := List.exists_cons_of_ne_nil hp.1
    simpa using (hp.2 u List.mem_cons_self).ne (by decide)
  rw [globMatch, if_neg (Nat.not_lt.mpr hlen), hhead, if_neg Bool.false_ne_true,
    Pattern.compile_of_plain hp hlen]
  rfl

/-- A plain name as a pattern matches exactly the name it spells, among names without a
slash. -/
theorem globMatch_plain {f : Utf16} (hp : Plain p) (hlen : p.length ≤ maxPatternLength)
    (hf : 0x2F ∉ f) : globMatch f p = .ok (f == p) := by
  rw [globMatch_of_plain hp hlen, Pattern.test_exact hf]

/-- A plain name as a pattern matches no path of two names or more. -/
theorem globMatch_plain_of_sep {a b : Utf16} {u : UInt16} (hp : Plain p)
    (hlen : p.length ≤ maxPatternLength) (ha : 0x2F ∉ a) (hu : u ≠ 0x2F) :
    globMatch (a ++ 0x2F :: u :: b) p = .ok false := by
  rw [globMatch_of_plain hp hlen, Pattern.test_exact_of_sep ha hu]

end compile

end Glob

end FolderSink
