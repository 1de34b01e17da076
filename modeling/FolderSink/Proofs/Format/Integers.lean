import FolderSink.Proofs.Format.Texts
import FolderSink.Proofs.Format.Validation
import FolderSink.Number.Literal
/-! Integer conversions read back. `%d` writes an integer in decimal with its sign, and
`%o`, `%x`, `%X` write its unsigned reading in octal or hex; the padding, the sign texts,
the alternate prefix, the zero padding and the grouping commas all stand around or between
the digits. `readInteger` takes a rendered text apart as a reader would: spaces at both
ends, a sign, a `0x` prefix, then digits with commas and leading zeros. Main statement:
`directive_integer_reads_back`, reading gives the argument back from every rendering of an
integral argument (a big integer, or a double of any magnitude without a fraction), the
sign included, and the 32- or 64-bit two's complement for the unsigned conversions; with
`,` the digits of the magnitude are cut into groups of three from the right. -/
namespace FolderSink

namespace Value

/-- An argument that denotes the integer `n` exactly: a big integer, or a finite double
whose exact value, a ratio over a power of two, is `n`. -/
inductive IsInt : Value → Int → Prop
  | big (n : Int) : IsInt (.big n) n
  | num {x : Double} {n : Int} (E : Nat) (h : x.ratio? = some (n * 2 ^ E, 2 ^ E)) :
      IsInt (.num x) n

end Value

namespace Double

/-- The exact value of a finite double is a ratio over a power of two. -/
theorem ratio?_den {x : Double} {a : Int} {d : Nat} (h : x.ratio? = some (a, d)) :
    ∃ E : Nat, d = 2 ^ E := by
  unfold ratio? at h
  split at h
  · rename_i e _
    by_cases he : e < 0
    · simp only [he, if_true, Option.some.injEq, Prod.mk.injEq] at h
      exact ⟨_, h.2.symm⟩
    · simp only [he, if_false, Option.some.injEq, Prod.mk.injEq] at h
      exact ⟨0, h.2.symm⟩
  · cases h

/-- A double is integral exactly when its exact value is an integer. -/
theorem isInteger_iff {x : Double} :
    x.isInteger = true ↔ ∃ n : Int, ∃ E : Nat, x.ratio? = some (n * 2 ^ E, 2 ^ E) := by
  constructor
  · intro h
    unfold isInteger at h
    split at h
    · rename_i a d hr
      obtain ⟨E, rfl⟩ := ratio?_den hr
      have hdvd : (2 : Int) ^ E ∣ a := Int.dvd_of_emod_eq_zero (by simpa using h)
      refine ⟨a / 2 ^ E, E, ?_⟩
      rw [hr, Int.ediv_mul_cancel hdvd]
    · cases h
  · rintro ⟨n, E, hr⟩
    simp [isInteger, hr]

end Double

namespace Value

/-- The arguments of type `int` are those that denote an integer exactly. -/
theorem typeName_eq_int_iff {v : Value} : v.typeName = .int ↔ ∃ n, v.IsInt n := by
  cases v with
  | num x =>
    by_cases hx : x.isInteger = true
    · obtain ⟨n, E, hr⟩ := Double.isInteger_iff.1 hx
      simpa [typeName, hx] using ⟨n, IsInt.num E hr⟩
    · simp only [typeName, hx, Bool.false_eq_true, if_false, reduceCtorEq, false_iff]
      rintro ⟨n, hn⟩
      cases hn with
      | num E hr => exact hx (Double.isInteger_iff.2 ⟨n, E, hr⟩)
  | big n => simpa [typeName] using ⟨n, IsInt.big n⟩
  | _ =>
    simp only [typeName, reduceCtorEq, false_iff]
    rintro ⟨n, hn⟩
    cases hn

end Value

namespace Render

open Utf16

/-- The integer that an integer conversion writes is the argument's exact value, however
large the double. -/
theorem integralOf_of_isInt {v : Value} {n : Int} (hv : v.IsInt n) (c : Conversion) :
    integralOf v c = .ok n := by
  cases hv with
  | big n => rfl
  | num E hr =>
    have hint : Double.isInteger _ = true := Double.isInteger_iff.2 ⟨n, E, hr⟩
    simp only [integralOf, hint, if_true, Double.truncate, hr]
    push_cast
    rw [Int.mul_tdiv_cancel _ (by positivity)]

/-- A text without the spaces at either end. -/
def trimSpaces (cs : List Char) : List Char :=
  ((cs.dropWhile (· = ' ')).reverse.dropWhile (· = ' ')).reverse

/-- The sign at the front of a number: `-`, or `(` with `)` at the end, makes it negative,
and a `+` goes. -/
def readSign (cs : List Char) : Bool × List Char :=
  if cs.head? = some '-' then (true, cs.tail)
  else if cs.head? = some '(' ∧ cs.getLast? = some ')' then (true, cs.tail.dropLast)
  else if cs.head? = some '+' then (false, cs.tail)
  else (false, cs)

/-- Hex digits may stand after a `0x` or `0X` prefix. -/
def dropHexPrefix (cs : List Char) : List Char :=
  if cs.take 2 = ['0', 'x'] ∨ cs.take 2 = ['0', 'X'] then cs.drop 2 else cs

/-- An integer read back from its text in a radix: the spaces at both ends go, then the
sign, then in hex a `0x` prefix; what is left are digits of the radix, leading zeros and
commas among them allowed. The flag says whether the sign was negative. -/
def readInteger (radix : Nat) (cs : List Char) : Option (Bool × Nat) :=
  let signed := readSign (trimSpaces cs)
  let body := if radix = 16 then dropHexPrefix signed.2 else signed.2
  (Literal.digitsValue radix (body.filter (· ≠ ','))).map (signed.1, ·)

theorem dropWhile_spaces (k : Nat) (cs : List Char) :
    (List.replicate k ' ' ++ cs).dropWhile (· = ' ') = cs.dropWhile (· = ' ') := by
  induction k with
  | zero => rfl
  | succ k ih => simp [List.replicate_succ, ih]

/-- Padding spaces around a text that neither starts nor ends with a space are trimmed
off, and nothing else. -/
theorem trimSpaces_pad (a b : Nat) {cs : List Char} (h₁ : cs.head? ≠ some ' ')
    (h₂ : cs.getLast? ≠ some ' ') :
    trimSpaces (List.replicate a ' ' ++ cs ++ List.replicate b ' ') = cs := by
  unfold trimSpaces
  rw [List.append_assoc, dropWhile_spaces]
  cases cs with
  | nil => simp
  | cons c cs =>
    have hc : c ≠ ' ' := by simpa using h₁
    have hlast : (c :: cs).reverse.head? ≠ some ' ' := by rwa [List.head?_reverse]
    rw [List.cons_append, List.dropWhile_cons_of_neg (by simp [hc]), ← List.cons_append,
      List.reverse_append, List.reverse_replicate, dropWhile_spaces]
    obtain ⟨d, ds, hds⟩ :=
      List.exists_cons_of_ne_nil (List.reverse_ne_nil_iff.2 (List.cons_ne_nil c cs))
    have hd : d ≠ ' ' := by simpa [hds] using hlast
    rw [hds, List.dropWhile_cons_of_neg (by simp [hd]), ← hds, List.reverse_reverse]

section reading

variable {cs : List Char}

theorem head?_not_signChar (hne : cs ≠ []) (hcs : ∀ c ∈ cs, c ∉ signChars) :
    ∃ c, cs.head? = some c ∧ c ∉ signChars := by
  obtain ⟨c, cs', rfl⟩ := List.exists_cons_of_ne_nil hne
  exact ⟨c, rfl, hcs c List.mem_cons_self⟩

theorem getLast?_not_signChar (hne : cs ≠ []) (hcs : ∀ c ∈ cs, c ∉ signChars) :
    ∃ c, cs.getLast? = some c ∧ c ∉ signChars :=
  ⟨cs.getLast hne, List.getLast?_eq_some_getLast hne, hcs _ (List.getLast_mem hne)⟩

/-- A text of no sign characters reads as non-negative, with nothing taken off. -/
theorem readSign_plain (hne : cs ≠ []) (hcs : ∀ c ∈ cs, c ∉ signChars) :
    readSign cs = (false, cs) := by
  obtain ⟨c, hc, hcn⟩ := head?_not_signChar hne hcs
  have h₁ : c ≠ '-' := fun h => hcn (by simp [h, signChars])
  have h₂ : c ≠ '(' := fun h => hcn (by simp [h, signChars])
  have h₃ : c ≠ '+' := fun h => hcn (by simp [h, signChars])
  simp [readSign, hc, h₁, h₂, h₃]

/-- A number of no sign characters between its sign texts and padding spaces reads with
its sign, and gives its own characters to the digit reader. -/
theorem readSign_signTexts {neg : Bool} {pre post : String} (hs : SignTexts neg pre post)
    (a b : Nat) (hne : cs ≠ []) (hcs : ∀ c ∈ cs, c ∉ signChars) :
    readSign (trimSpaces (List.replicate a ' ' ++ (pre.toList ++ cs ++ post.toList) ++
      List.replicate b ' ')) = (neg, cs) := by
  obtain ⟨c, hc, hcn⟩ := head?_not_signChar hne hcs
  obtain ⟨l, hl, hln⟩ := getLast?_not_signChar hne hcs
  have hcsp : c ≠ ' ' := fun h => hcn (by simp [h, signChars])
  have hlsp : l ≠ ' ' := fun h => hln (by simp [h, signChars])
  cases hs with
  | minus =>
    rw [trimSpaces_pad a b (by simp) (by simp [List.getLast?_cons, hl, hlsp])]
    simp [readSign]
  | parens =>
    have hlast : ('(' :: (cs ++ [')'])).getLast? = some ')' := by
      rw [← List.cons_append, List.getLast?_concat]
    rw [trimSpaces_pad a b (by simp) (by simp [hlast])]
    simp [readSign, hlast]
  | plus =>
    rw [trimSpaces_pad a b (by simp) (by simp [List.getLast?_cons, hl, hlsp])]
    simp [readSign]
  | space =>
    have hpad : List.replicate a ' ' ++ (" ".toList ++ cs ++ "".toList) ++ List.replicate b ' ' =
        List.replicate (a + 1) ' ' ++ cs ++ List.replicate b ' ' := by
      simp [List.replicate_succ']
    rw [hpad, trimSpaces_pad (a + 1) b (by simp [hc, hcsp]) (by simp [hl, hlsp]),
      readSign_plain hne hcs]
  | plain =>
    have hpad : List.replicate a ' ' ++ ("".toList ++ cs ++ "".toList) ++ List.replicate b ' ' =
        List.replicate a ' ' ++ cs ++ List.replicate b ' ' := by
      simp
    rw [hpad, trimSpaces_pad a b (by simp [hc, hcsp]) (by simp [hl, hlsp]),
      readSign_plain hne hcs]

/-- Reading a number in a radix other than 16 between sign texts and padding. -/
theorem readInteger_signTexts {radix : Nat} (hr : radix ≠ 16) {neg : Bool} {pre post : String}
    (hs : SignTexts neg pre post) (a b : Nat) (hne : cs ≠ []) (hcs : ∀ c ∈ cs, c ∉ signChars) :
    readInteger radix (List.replicate a ' ' ++ (pre.toList ++ cs ++ post.toList) ++
      List.replicate b ' ') = (Literal.digitsValue radix (cs.filter (· ≠ ','))).map (neg, ·) := by
  simp only [readInteger, readSign_signTexts hs a b hne hcs, hr, if_false]

/-- Reading hex digits after an optional `0x` or `0X` prefix and between padding. -/
theorem readInteger_hex {pre : List Char}
    (hpre : pre = [] ∨ pre = ['0', 'x'] ∨ pre = ['0', 'X']) (a b : Nat) (hne : cs ≠ [])
    (hcs : ∀ c ∈ cs, c ∉ signChars ∧ c ≠ 'x' ∧ c ≠ 'X') :
    readInteger 16 (List.replicate a ' ' ++ (pre ++ cs) ++ List.replicate b ' ') =
      (Literal.digitsValue 16 (cs.filter (· ≠ ','))).map (false, ·) := by
  have hplain : ∀ c ∈ pre ++ cs, c ∉ signChars := by
    rcases hpre with rfl | rfl | rfl <;> simpa [signChars] using fun c hc => (hcs c hc).1
  have hsign := readSign_signTexts SignTexts.plain a b (List.append_ne_nil_of_right_ne_nil pre hne)
    hplain
  simp only [String.toList_empty, List.nil_append, List.append_nil] at hsign
  have hdrop : dropHexPrefix (pre ++ cs) = cs := by
    rcases hpre with rfl | rfl | rfl
    · have hx : 'x' ∉ cs.take 2 := fun h => (hcs _ (List.mem_of_mem_take h)).2.1 rfl
      have hX : 'X' ∉ cs.take 2 := fun h => (hcs _ (List.mem_of_mem_take h)).2.2 rfl
      have hpx : ¬(cs.take 2 = ['0', 'x'] ∨ cs.take 2 = ['0', 'X']) := by
        rintro (h | h) <;> simp [h] at hx hX
      simp [dropHexPrefix, hpx]
    · simp [dropHexPrefix]
    · simp [dropHexPrefix]
  simp only [readInteger] at hsign ⊢
  rw [hsign]
  simp only [if_true, hdrop]

end reading

section digits

/-- A digit character has its value in every radix up to 16 that it is a digit of. -/
theorem digitValue_digitChar {d radix : Nat} (hd : d < radix) (hr : radix ≤ 16) :
    Literal.digitValue radix d.digitChar = some d := by
  have key : ∀ d : Fin 16, ∀ r : Fin 17, d.val < r.val →
      Literal.digitValue r (Nat.digitChar d) = some d := by decide
  exact key ⟨d, by omega⟩ ⟨radix, by omega⟩ hd

/-- An upper-case hex digit has the value of its lower-case letter. -/
theorem digitValue_toUpper_digitChar {d : Nat} (hd : d < 16) :
    Literal.digitValue 16 d.digitChar.toUpper = some d := by
  have key : ∀ d : Fin 16, Literal.digitValue 16 (Nat.digitChar d).toUpper = some d := by decide
  exact key ⟨d, hd⟩

theorem digitsValue_singleton (radix : Nat) (c : Char) :
    Literal.digitsValue radix [c] = Literal.digitValue radix c := by
  simp [Literal.digitsValue]

theorem digitsValue_append_digit {radix : Nat} {cs : List Char} (hcs : cs ≠ []) (c : Char) :
    Literal.digitsValue radix (cs ++ [c]) =
      (Literal.digitsValue radix cs).bind fun a => (Literal.digitValue radix c).map (a * radix + ·) := by
  simp [Literal.digitsValue, hcs, List.foldl_append]

/-- The digits of a numeral read back as the number, whichever case its letters are in. -/
theorem digitsValue_toDigits {radix : Nat} (hr : 1 < radix) (f : Char → Char)
    (hf : ∀ d < radix, Literal.digitValue radix (f d.digitChar) = some d) (m : Nat) :
    Literal.digitsValue radix ((Nat.toDigits radix m).map f) = some m := by
  induction m using Nat.strong_induction_on with
  | _ m ih =>
    rw [Nat.toDigits_eq_if hr]
    split
    · rw [List.map_singleton, digitsValue_singleton, hf m ‹_›]
    · rw [List.map_append, List.map_singleton, digitsValue_append_digit (by simp),
        ih (m / radix) (Nat.div_lt_self (by omega) hr), hf _ (Nat.mod_lt m (by omega))]
      simp [Nat.div_add_mod']

/-- Leading zeros do not change the value of digits. -/
theorem digitsValue_zeros {radix : Nat} (hr : 0 < radix) (k : Nat) {cs : List Char} (hcs : cs ≠ []) :
    Literal.digitsValue radix (List.replicate k '0' ++ cs) = Literal.digitsValue radix cs := by
  have hzero : Literal.digitValue radix '0' = some 0 := by simp [Literal.digitValue, hr]
  have hfold : ∀ k, (List.replicate k '0').foldl
      (fun acc c => acc.bind fun a => (Literal.digitValue radix c).map (a * radix + ·)) (some 0) =
        some 0 := by
    intro k
    induction k with
    | zero => rfl
    | succ k ih => simp [List.replicate_succ', List.foldl_append, ih, hzero]
  simp [Literal.digitsValue, hcs, List.foldl_append, hfold]

/-- Every character of a numeral in a radix up to 16 is the digit character of a value below
the radix. -/
theorem exists_digitChar_of_mem_toDigits {radix m : Nat} (hr : 1 < radix) {c : Char}
    (hc : c ∈ Nat.toDigits radix m) : ∃ d < radix, c = d.digitChar := by
  induction m using Nat.strong_induction_on with
  | _ m ih =>
    rw [Nat.toDigits_eq_if hr] at hc
    split at hc
    · exact ⟨m, ‹_›, List.mem_singleton.1 hc⟩
    · rcases List.mem_append.1 hc with hc | hc
      · exact ih (m / radix) (Nat.div_lt_self (by omega) hr) hc
      · exact ⟨m % radix, Nat.mod_lt m (by omega), List.mem_singleton.1 hc⟩

/-- A character that may stand among the digits of a rendered integer: ASCII, and no
padding, sign, comma, point or letter of the hex prefix. -/
def NumeralChar (c : Char) : Prop :=
  c ∉ signChars ∧ c ≠ ',' ∧ c ≠ '.' ∧ c ≠ 'x' ∧ c ≠ 'X' ∧ c.toNat < 0x80

instance : DecidablePred NumeralChar := fun c =>
  inferInstanceAs (Decidable (c ∉ signChars ∧ c ≠ ',' ∧ c ≠ '.' ∧ c ≠ 'x' ∧ c ≠ 'X' ∧
    c.toNat < 0x80))

theorem numeralChar_digitChar {d : Nat} (hd : d < 16) :
    NumeralChar d.digitChar ∧ NumeralChar d.digitChar.toUpper := by
  have key : ∀ d : Fin 16, NumeralChar (Nat.digitChar d) ∧ NumeralChar (Nat.digitChar d).toUpper := by
    decide
  exact key ⟨d, hd⟩

/-- The letters of a numeral are written in lower case, or in upper case for `%X`. -/
def LetterCase (radix : Nat) (f : Char → Char) : Prop := f = id ∨ (f = Char.toUpper ∧ radix = 16)

variable {radix : Nat} {f : Char → Char}

theorem numeralChar_of_mem_toDigits (hr : 1 < radix) (hr16 : radix ≤ 16) (hf : LetterCase radix f)
    {m : Nat} {c : Char} (hc : c ∈ (Nat.toDigits radix m).map f) : NumeralChar c := by
  obtain ⟨c', hc', rfl⟩ := List.mem_map.1 hc
  obtain ⟨e, he, rfl⟩ := exists_digitChar_of_mem_toDigits hr hc'
  rcases hf with rfl | ⟨rfl, -⟩
  · exact (numeralChar_digitChar (by omega)).1
  · exact (numeralChar_digitChar (by omega)).2

/-- A numeral after zero padding, in either case, reads back as its number. -/
theorem digitsValue_numeral (hr : 1 < radix) (hr16 : radix ≤ 16) (hf : LetterCase radix f)
    (k m : Nat) :
    Literal.digitsValue radix (List.replicate k '0' ++ (Nat.toDigits radix m).map f) = some m := by
  rw [digitsValue_zeros (by omega) k (by simp)]
  refine digitsValue_toDigits hr f (fun e he => ?_) m
  rcases hf with rfl | ⟨rfl, rfl⟩
  · exact digitValue_digitChar he hr16
  · exact digitValue_toUpper_digitChar he

theorem numeralChar_of_mem_decimal {m : Nat} {c : Char} (hc : c ∈ Nat.toDigits 10 m) :
    NumeralChar c :=
  numeralChar_of_mem_toDigits (by decide : 1 < 10) (by decide) (.inl rfl) (by simpa using hc)

theorem filter_comma_of_forall {cs : List Char} (h : ∀ c ∈ cs, c ≠ ',') :
    cs.filter (· ≠ ',') = cs :=
  List.filter_eq_self.2 fun c hc => by simpa using h c hc

end digits

section grouping

/-- Digits cut by commas into groups of three counted from the right: the first group holds
one to three digits, every other group three, and the groups put together are the digits. -/
def GroupedByThree (ds body : List Char) : Prop :=
  ∃ g gs, body = [','].intercalate (g :: gs) ∧ (g :: gs).flatten = ds ∧
    0 < g.length ∧ g.length ≤ 3 ∧ ∀ h ∈ gs, h.length = 3

theorem group_short {ds : List Char} (h : ds.length ≤ 3) : group ds = ds := by
  rcases ds with _ | ⟨a, _ | ⟨b, _ | ⟨c, _ | ⟨e, rest⟩⟩⟩⟩
  case cons.cons.cons.cons =>
    simp only [List.length_cons] at h
    omega
  all_goals simp [group, group.go]

/-- Three more digits on the right make one more group. -/
theorem group_append_three {ds : List Char} (hds : ds ≠ []) (a b c : Char) :
    group (ds ++ [a, b, c]) = group ds ++ [',', a, b, c] := by
  obtain ⟨x, xs, hx⟩ : ∃ x xs, ds.reverse = x :: xs := by
    cases h : ds.reverse with
    | nil => simp at h; exact absurd h hds
    | cons x xs => exact ⟨x, xs, rfl⟩
  simp only [group, List.reverse_append, List.reverse_cons, List.reverse_nil, List.nil_append,
    List.cons_append, hx, group.go, List.reverse_cons, List.append_assoc]

theorem intercalate_append_singleton {ys l : List Char} {zs : List (List Char)} (h : zs ≠ []) :
    ys.intercalate (zs ++ [l]) = ys.intercalate zs ++ ys ++ l := by
  induction zs with
  | nil => exact absurd rfl h
  | cons z zs ih =>
    cases zs with
    | nil => simp
    | cons z' zs =>
      have hzs := ih (List.cons_ne_nil _ _)
      simp only [List.cons_append, List.intercalate_cons_cons] at hzs ⊢
      simp [hzs]

/-- Grouping digits cuts them into groups of three from the right. -/
theorem group_groupedByThree : ∀ (ds : List Char), ds ≠ [] → GroupedByThree ds (group ds)
  | ds, hds => by
    by_cases hshort : ds.length ≤ 3
    · exact ⟨ds, [], by rw [group_short hshort]; simp, by simp,
        List.length_pos_of_ne_nil hds, hshort, by simp⟩
    · -- the last three digits make the last group
      obtain ⟨ds', a, b, c, rfl⟩ : ∃ ds' a b c, ds = ds' ++ [a, b, c] := by
        have hlen : 3 < ds.reverse.length := by rw [List.length_reverse]; omega
        rcases h : ds.reverse with _ | ⟨c, _ | ⟨b, _ | ⟨a, r⟩⟩⟩
        case cons.cons.cons =>
          exact ⟨r.reverse, a, b, c, by rw [← List.reverse_reverse ds, h]; simp⟩
        all_goals rw [h] at hlen; simp at hlen
      have hne : ds' ≠ [] := by
        rintro rfl
        simp at hshort
      have hlt : ds'.length < (ds' ++ [a, b, c]).length := by simp
      obtain ⟨g, gs, hbody, hflat, hpos, hle, hthree⟩ := group_groupedByThree ds' hne
      refine ⟨g, gs ++ [[a, b, c]], ?_, ?_, hpos, hle, ?_⟩
      · rw [group_append_three hne, hbody, ← List.cons_append,
          intercalate_append_singleton (List.cons_ne_nil _ _)]
        simp
      · simp [← hflat]
      · intro h hh
        simp only [List.mem_append, List.mem_singleton] at hh
        rcases hh with hh | rfl
        · exact hthree h hh
        · rfl
termination_by ds => ds.length

theorem filter_intercalate_comma (l : List Char) (ls : List (List Char)) :
    ([','].intercalate (l :: ls)).filter (· ≠ ',') = (l :: ls).flatten.filter (· ≠ ',') := by
  induction ls generalizing l with
  | nil => simp
  | cons l' ls ih =>
    rw [List.intercalate_cons_cons, List.filter_append, List.filter_append, ih]
    simp

/-- Taking the commas out of grouped digits gives the digits back. -/
theorem filter_group {ds : List Char} (h : ',' ∉ ds) : (group ds).filter (· ≠ ',') = ds := by
  by_cases hne : ds = []
  · simp [hne, group, group.go]
  · obtain ⟨g, gs, hbody, hflat, -⟩ := group_groupedByThree ds hne
    rw [hbody, filter_intercalate_comma, hflat, List.filter_eq_self]
    intro c hc
    simp only [ne_eq, decide_eq_true_eq]
    rintro rfl
    exact h hc

/-- Digits without a point are grouped whole when the directive asks for it. -/
theorem withGrouping_digits {ds : List Char} (h : '.' ∉ ds) (d : Directive) :
    withGrouping ds d = if d.has .grouping then group ds else ds := by
  have hpoint : ∀ c ∈ ds, decide (c ≠ '.') = true := by
    intro c hc
    simp only [ne_eq, decide_eq_true_eq]
    rintro rfl
    exact h hc
  unfold withGrouping
  rw [List.takeWhile_eq_self_iff.2 hpoint, List.dropWhile_eq_nil_iff.2 hpoint, List.append_nil]

/-- The decimal digits of a number, grouped when the directive asks for it. -/
theorem withGrouping_numeral (m : Nat) (d : Directive) :
    withGrouping (Nat.toDigits 10 m) d =
      if d.has .grouping then group (Nat.toDigits 10 m) else Nat.toDigits 10 m :=
  withGrouping_digits (fun h => (numeralChar_of_mem_decimal h).2.2.1 rfl) d

theorem filter_withGrouping_numeral (m : Nat) (d : Directive) :
    (withGrouping (Nat.toDigits 10 m) d).filter (· ≠ ',') = Nat.toDigits 10 m := by
  have hcomma : ∀ c ∈ Nat.toDigits 10 m, c ≠ ',' := fun c hc =>
    (numeralChar_of_mem_decimal hc).2.1
  rw [withGrouping_numeral]
  split
  · exact filter_group (fun h => hcomma ',' h rfl)
  · exact filter_comma_of_forall hcomma

/-- The grouped digits are commas and digits. -/
theorem mem_withGrouping_numeral {m : Nat} {d : Directive} {c : Char}
    (hc : c ∈ withGrouping (Nat.toDigits 10 m) d) : c = ',' ∨ NumeralChar c := by
  by_cases hcomma : c = ','
  · exact .inl hcomma
  · have hmem : c ∈ (withGrouping (Nat.toDigits 10 m) d).filter (· ≠ ',') :=
      List.mem_filter.2 ⟨hc, by simpa using hcomma⟩
    rw [filter_withGrouping_numeral] at hmem
    exact .inr (numeralChar_of_mem_decimal hmem)

theorem withGrouping_numeral_ne_nil (m : Nat) (d : Directive) :
    withGrouping (Nat.toDigits 10 m) d ≠ [] := by
  intro hnil
  have := filter_withGrouping_numeral m d
  rw [hnil, List.filter_nil] at this
  exact Nat.toDigits_ne_nil this.symm

end grouping

section readBack

theorem unsignedInteger_ok {n : Int} {radix : Nat} {d : Directive} {out : Utf16}
    (h : unsignedInteger n radix d = .ok out) :
    ∃ pre : String, (pre = "" ∨ pre = if radix = 16 then "0x" else "0") ∧ ∃ a k b t,
      t = spaces a ++ (ofString pre ++ (zeros k ++
        ofString (String.ofList (Nat.toDigits radix (unsignedOf n))))) ++ spaces b ∧
      out = if d.conversion.isUpper then t.toUpper else t := by
  unfold unsignedInteger at h
  generalize hpre : (if d.has .alternate then (if radix = 16 then "0x" else "0") else "" : String) = pre at h
  generalize ofString (String.ofList (Nat.toDigits radix (unsignedOf n))) = digits at h ⊢
  have hpre' : pre = "" ∨ pre = if radix = 16 then "0x" else "0" := by
    by_cases ha : d.has .alternate
    · simp only [ha, if_true] at hpre
      exact .inr hpre.symm
    · simp only [ha, Bool.false_eq_true, if_false] at hpre
      exact .inl hpre.symm
  -- the zero padding goes between the prefix and the digits
  obtain ⟨zd, ⟨k, rfl⟩, hrest⟩ : ∃ zd, (∃ k, zd = zeros k ++ digits) ∧
      (do let t ← bounded (ofString pre ++ zd)
          let t ← justify t d
          if d.conversion.isUpper then bounded t.toUpper else pure t) = .ok out := by
    dsimp only at h
    split at h
    · split at h
      · obtain ⟨zd, hpad, hrest⟩ := except_bind_eq_ok h
        exact ⟨zd, padStart_ok hpad, hrest⟩
      · exact ⟨digits, ⟨0, rfl⟩, h⟩
    · exact ⟨digits, ⟨0, rfl⟩, h⟩
  obtain ⟨t₀, hb, hrest⟩ := except_bind_eq_ok hrest
  obtain rfl := bounded_ok hb
  obtain ⟨t, ht, hup⟩ := except_bind_eq_ok hrest
  obtain ⟨a, b, rfl⟩ := justify_ok ht
  refine ⟨pre, hpre', a, k, b, _, rfl, ?_⟩
  split at hup
  · rename_i hu
    rw [bounded_ok hup, if_pos hu]
  · rename_i hu
    cases hup
    rw [if_neg hu]
/-- What `%d` writes, character by character: padding, a sign text, zeros, the digits of the
magnitude (grouped when asked), the closing sign text and padding. -/
theorem chars_of_integer_ok {n : Int} {d : Directive} {out : Utf16} (h : integer n d = .ok out) :
    ∃ pre post, SignTexts (decide (n < 0)) pre post ∧ ∃ a k b,
      out.chars = List.replicate a ' ' ++ (pre.toList ++ (List.replicate k '0' ++
        withGrouping (Nat.toDigits 10 n.natAbs) d) ++ post.toList) ++ List.replicate b ' ' := by
  unfold integer at h
  rw [Nat.toList_repr] at h
  obtain ⟨pre, post, hs, a, k, b, rfl⟩ := signed_ok h
  have hascii : ∀ c ∈ withGrouping (Nat.toDigits 10 n.natAbs) d, c.toNat < 0x10000 := by
    intro c hc
    rcases mem_withGrouping_numeral hc with rfl | hc
    · decide
    · have := hc.2.2.2.2.2
      omega
  refine ⟨pre, post, hs, a, k, b, ?_⟩
  simp [chars_ofString_ofList hascii, chars_ofString_signTexts hs]

/-- `%d` read back: the sign is negative exactly for a negative integer, the digits give its
magnitude, and with `,` the digits stand in groups of three between the sign texts and
zero padding and the closing texts. -/
theorem integer_reads_back {n : Int} {d : Directive} {out : Utf16} (h : integer n d = .ok out) :
    readInteger 10 out.chars = some (decide (n < 0), n.natAbs) ∧
    (d.has .grouping → ∃ lead body trail, out.chars = lead ++ body ++ trail ∧
      GroupedByThree (Nat.toDigits 10 n.natAbs) body ∧
      (∀ c ∈ lead, c ∈ signChars ∨ c = '0') ∧ ∀ c ∈ trail, c ∈ signChars) := by
  obtain ⟨pre, post, hs, a, k, b, hout⟩ := chars_of_integer_ok h
  rw [hout]
  constructor
  · have hcs : ∀ c ∈ List.replicate k '0' ++ withGrouping (Nat.toDigits 10 n.natAbs) d,
        c ∉ signChars := by
      intro c hc
      rcases List.mem_append.1 hc with hc | hc
      · rw [List.eq_of_mem_replicate hc]
        decide
      · rcases mem_withGrouping_numeral hc with rfl | hc
        · decide
        · exact hc.1
    have hne : List.replicate k '0' ++ withGrouping (Nat.toDigits 10 n.natAbs) d ≠ [] :=
      List.append_ne_nil_of_right_ne_nil _ (withGrouping_numeral_ne_nil _ d)
    rw [readInteger_signTexts (by decide) hs a b hne hcs, List.filter_append,
      filter_withGrouping_numeral, filter_comma_of_forall (fun c hc => by
        rw [List.eq_of_mem_replicate hc]; decide), ← List.map_id (Nat.toDigits 10 n.natAbs),
      digitsValue_numeral (by decide) (by decide) (.inl rfl)]
    rfl
  · intro hg
    have hgroup : withGrouping (Nat.toDigits 10 n.natAbs) d = group (Nat.toDigits 10 n.natAbs) := by
      rw [withGrouping_numeral, if_pos hg]
    refine ⟨List.replicate a ' ' ++ pre.toList ++ List.replicate k '0',
      withGrouping (Nat.toDigits 10 n.natAbs) d, post.toList ++ List.replicate b ' ', by simp,
      hgroup ▸ group_groupedByThree _ Nat.toDigits_ne_nil, ?_, ?_⟩
    · intro c hc
      simp only [List.mem_append] at hc
      rcases hc with (hc | hc) | hc
      · exact .inl (List.eq_of_mem_replicate hc ▸ by decide)
      · exact .inl ((mem_signChars_signTexts hs).1 c hc)
      · exact .inr (List.eq_of_mem_replicate hc)
    · intro c hc
      rcases List.mem_append.1 hc with hc | hc
      · exact (mem_signChars_signTexts hs).2 c hc
      · exact List.eq_of_mem_replicate hc ▸ by decide

/-- What `%o`, `%x` and `%X` write, character by character: padding, the alternate prefix,
zeros and the numeral of the unsigned reading, upper case for `%X`. -/
theorem chars_of_unsignedInteger_ok {n : Int} {radix : Nat} {d : Directive} {out : Utf16}
    (hr : radix = 8 ∨ radix = 16) (hup : d.conversion.isUpper = true → radix = 16)
    (h : unsignedInteger n radix d = .ok out) :
    ∃ f, LetterCase radix f ∧ ∃ pre : String, (pre = "" ∨ pre = if radix = 16 then "0x" else "0") ∧
      ∃ a k b, out.chars = List.replicate a ' ' ++ (pre.toList.map f ++ (List.replicate k '0' ++
        (Nat.toDigits radix (unsignedOf n)).map f)) ++ List.replicate b ' ' := by
  obtain ⟨pre, hpre, a, k, b, t, ht, rfl⟩ := unsignedInteger_ok h
  have hdigits : ∀ c ∈ Nat.toDigits radix (unsignedOf n), NumeralChar c := fun c hc =>
    numeralChar_of_mem_toDigits (show 1 < radix by omega) (by omega) (.inl rfl) (by simpa using hc)
  have hpre_ascii : ∀ c ∈ pre.toList, c.toNat < 0x80 := by
    rcases hpre with rfl | rfl
    · simp
    · split <;> simp
  have hchars : t.chars = List.replicate a ' ' ++ (pre.toList ++ (List.replicate k '0' ++
      Nat.toDigits radix (unsignedOf n))) ++ List.replicate b ' ' := by
    have hd : ∀ c ∈ Nat.toDigits radix (unsignedOf n), c.toNat < 0x10000 := fun c hc => by
      have := (hdigits c hc).2.2.2.2.2
      omega
    rw [ht]
    simp [chars_ofString_ofList hd, chars_ofString (fun c hc => by have := hpre_ascii c hc; omega)]
  by_cases hu : d.conversion.isUpper = true
  · -- `%X`: every unit of the text is ASCII, so upper case goes character by character
    have hunits : ∀ u ∈ t, u.toNat < 0xB5 := by
      rw [ht]
      intro u hu
      simp only [List.mem_append, Utf16.spaces, Utf16.zeros] at hu
      rcases hu with (hu | hu | hu | hu) | hu
      · rw [List.eq_of_mem_replicate hu]; decide
      · have := lt_of_mem_ofString (by decide) hpre_ascii hu
        omega
      · rw [List.eq_of_mem_replicate hu]; decide
      · refine lt_of_mem_ofString (by decide) (fun c hc => ?_) hu
        have := (hdigits c (by simpa using hc)).2.2.2.2.2
        omega
      · rw [List.eq_of_mem_replicate hu]; decide
    refine ⟨Char.toUpper, .inr ⟨rfl, hup hu⟩, pre, hpre, a, k, b, ?_⟩
    rw [if_pos hu, chars_toUpper hunits, hchars]
    simp only [List.map_append, List.map_replicate]
    rfl
  · refine ⟨id, .inl rfl, pre, hpre, a, k, b, ?_⟩
    rw [if_neg hu, hchars]
    simp

/-- `%o`, `%x` and `%X` read back: no sign, and the digits, in either case, give the unsigned
reading of the integer. -/
theorem unsignedInteger_reads_back {n : Int} {radix : Nat} {d : Directive} {out : Utf16}
    (hr : radix = 8 ∨ radix = 16) (hup : d.conversion.isUpper = true → radix = 16)
    (h : unsignedInteger n radix d = .ok out) :
    readInteger radix out.chars = some (false, unsignedOf n) := by
  obtain ⟨f, hf, pre, hpre, a, k, b, hout⟩ := chars_of_unsignedInteger_ok hr hup h
  set D := (Nat.toDigits radix (unsignedOf n)).map f with hD
  have hdigits : ∀ c ∈ D, NumeralChar c :=
    fun c hc => numeralChar_of_mem_toDigits (by omega) (by omega) hf hc
  -- zeros and digits: no sign, comma or hex letter among them
  have hzd : ∀ j, ∀ c ∈ List.replicate j '0' ++ D, NumeralChar c := by
    intro j c hc
    rcases List.mem_append.1 hc with hc | hc
    · rw [List.eq_of_mem_replicate hc]; decide
    · exact hdigits c hc
  have hne : ∀ j, List.replicate j '0' ++ D ≠ [] := fun j => by simp [hD]
  have hfilter : ∀ j, (List.replicate j '0' ++ D).filter (· ≠ ',') = List.replicate j '0' ++ D :=
    fun j => filter_comma_of_forall (fun c hc => (hzd j c hc).2.1)
  rw [hout]
  rcases hr with rfl | rfl
  · -- octal: the prefix `0` joins the zero padding
    obtain ⟨j, hj⟩ : ∃ j, pre.toList.map f ++ List.replicate k '0' = List.replicate j '0' := by
      rcases hpre with rfl | rfl
      · exact ⟨k, rfl⟩
      · rcases hf with rfl | ⟨-, h16⟩
        · exact ⟨k + 1, rfl⟩
        · omega
    have hshape : List.replicate a ' ' ++ (pre.toList.map f ++ (List.replicate k '0' ++ D)) ++
        List.replicate b ' ' = List.replicate a ' ' ++ ("".toList ++ (List.replicate j '0' ++ D) ++
          "".toList) ++ List.replicate b ' ' := by
      rw [← hj]
      simp
    rw [hshape, readInteger_signTexts (by decide) SignTexts.plain a b (hne j)
      (fun c hc => (hzd j c hc).1), hfilter, digitsValue_numeral (by decide) (by decide) hf]
    rfl
  · -- hex: the prefix `0x` or `0X` is dropped
    have hpre' : pre.toList.map f = [] ∨ pre.toList.map f = ['0', 'x'] ∨
        pre.toList.map f = ['0', 'X'] := by
      rcases hpre with rfl | rfl
      · exact .inl rfl
      · rcases hf with rfl | ⟨rfl, -⟩
        · exact .inr (.inl rfl)
        · exact .inr (.inr rfl)
    rw [readInteger_hex hpre' a b (hne k) (fun c hc => ⟨(hzd k c hc).1, (hzd k c hc).2.2.2.1,
      (hzd k c hc).2.2.2.2.1⟩), hfilter, digitsValue_numeral (by decide) (by decide) hf]
    rfl

/-- The unsigned reading of an integer is the integer when it is not negative, its 32-bit
two's complement from -2^31 up, and its 64-bit one below. -/
theorem unsignedOf_cast (n : Int) :
    (unsignedOf n : Int) = if 0 ≤ n then n else if -2 ^ 31 ≤ n then n + 2 ^ 32 else n % 2 ^ 64 := by
  have h31 : Int.pow 2 31 = 2 ^ 31 := rfl
  have h32 : Int.pow 2 32 = 2 ^ 32 := rfl
  have h64 : Int.pow 2 64 = 2 ^ 64 := rfl
  unfold unsignedOf
  rw [h31, h32, h64]
  split_ifs <;> omega

/-- Integer conversions are exact for every integral argument, a double of any magnitude or a
big integer. Reading a `%d` rendering back gives the integer, with a negative sign exactly
when it is negative, and with `,` the digits of its magnitude stand in groups of three
counted from the right, after the padding, sign and zeros and before the closing texts.
Reading a `%o`, `%x` or `%X` rendering back in its radix gives the integer when it is not
negative, `n + 2^32` from `-2^31` up, and `n mod 2^64` below. -/
theorem directive_integer_reads_back {d : Directive} {v : Value} {n : Int} {out : Utf16}
    (hv : v.IsInt n) (h : directive d v = .ok out) :
    (d.conversion = .decimal →
      readInteger 10 out.chars = some (decide (n < 0), n.natAbs) ∧
      (d.has .grouping → ∃ lead body trail, out.chars = lead ++ body ++ trail ∧
        GroupedByThree (Nat.toDigits 10 n.natAbs) body ∧
        (∀ c ∈ lead, c ∈ signChars ∨ c = '0') ∧ ∀ c ∈ trail, c ∈ signChars)) ∧
    ∀ radix, (d.conversion = .octal ∧ radix = 8 ∨
        (d.conversion = .hex ∨ d.conversion = .hexUpper) ∧ radix = 16) →
      ∃ m : Nat, readInteger radix out.chars = some (false, m) ∧
        (m : Int) = if 0 ≤ n then n else if -2 ^ 31 ≤ n then n + 2 ^ 32 else n % 2 ^ 64 := by
  have hint : ∀ c, integralOf v c = .ok n := integralOf_of_isInt hv
  constructor
  · intro hc
    apply integer_reads_back
    simpa only [directive, hc, hint, Template.except_ok_bind] using h
  · intro radix hr
    refine ⟨unsignedOf n, ?_, unsignedOf_cast n⟩
    rcases hr with ⟨hc, rfl⟩ | ⟨hc | hc, rfl⟩
    · refine unsignedInteger_reads_back (d := d) (.inl rfl) (by simp [hc, Conversion.isUpper]) ?_
      simpa only [directive, hc, hint, Template.except_ok_bind] using h
    · refine unsignedInteger_reads_back (d := d) (.inr rfl) (fun _ => rfl) ?_
      simpa only [directive, hc, hint, Template.except_ok_bind] using h
    · refine unsignedInteger_reads_back (d := d) (.inr rfl) (fun _ => rfl) ?_
      simpa only [directive, hc, hint, Template.except_ok_bind] using h

/-- The minus one million and a bit of a big integer, in parentheses, zero padded and grouped. -/
theorem directive_integer_reads_back_grouped :
    Value.IsInt (.big (-1234567)) (-1234567) ∧
    directive ⟨"%(,012d", [.parens, .zero, .grouping], some 12, none, .decimal⟩ (.big (-1234567)) =
      .ok (ofString "(01,234,567)") ∧
    readInteger 10 (ofString "(01,234,567)").chars = some (true, 1234567) := by
  have hr : directive ⟨"%(,012d", [.parens, .zero, .grouping], some 12, none, .decimal⟩
      (.big (-1234567)) = .ok (ofString "(01,234,567)") := by cbv
  exact ⟨.big _, hr, ((directive_integer_reads_back (.big _) hr).1 rfl).1⟩

end readBack

end Render

end FolderSink
