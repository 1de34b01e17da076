import FolderSink.Config.Settings
import FolderSink.Proofs.Number.Integer
import Mathlib.Data.List.TakeWhile
/-! The settings file is checked rule by rule. `Rule` pairs a property of the loaded value
with the message that reports its breach, and `Reports rs m a` says that the check `m` gives
`a` when every rule of `rs` is kept and otherwise fails with the message of the first rule
broken. Checks compose along binds (`Reports.bind`), so the validation of the whole file is
assembled from one lemma per key.

Main statement (`validate_reports_first_broken_rule`): `validate` accepts exactly the values
that keep every rule of `rules` (null or a dictionary; `defaultRoot` and `logDir` absent, null
or a text with a non-blank unit; `atomicWrites` a boolean; `maxLogSizeMB` a number that is NaN
or above zero; `maxLogFiles` an integral number above zero; `destinations` a list of entries
with a filled name, an optional filled `folderDir` and an optional list of filled patterns, the
trimmed names distinct), gives their settings with the defaults filled in, and otherwise
reports the first rule broken, in the order of `rules`. -/
namespace FolderSink

namespace Double

/-- Comparing the other way round swaps the order. -/
theorem order?_swap (x y : Double) : y.order? x = (x.order? y).map Ordering.swap := by
  unfold order?
  cases x.kind with
  | nan => cases y.kind <;> rfl
  | infinite a =>
    cases y.kind with
    | nan => rfl
    | infinite b => cases a <;> cases b <;> rfl
    | finite => cases a <;> rfl
  | finite =>
    cases y.kind with
    | nan => rfl
    | infinite b => cases b <;> rfl
    | finite =>
      -- two finite numbers: the cross products compared the other way round
      cases x.ratio? with
      | none => cases y.ratio? <;> rfl
      | some p =>
        cases y.ratio? with
        | none => rfl
        | some q =>
          obtain ⟨a, b⟩ := p
          obtain ⟨c, d⟩ := q
          exact congrArg some Std.OrientedOrd.eq_swap

/-- A number is not at most zero exactly when it is NaN or above zero: the negated comparison
lets NaN through. -/
theorem le_zero_eq_false_iff (x : Double) :
    x.le (zero false) = false ↔ x.isNaN = true ∨ (zero false).lt x = true := by
  have hnan : x.order? (zero false) = none ↔ x.isNaN = true := by
    simp only [order?, isNaN, kind_zero]
    cases hk : x.kind with
    | finite =>
      -- both exact values exist, so the comparison is defined
      obtain ⟨p, hp⟩ : ∃ p, x.ratio? = some p := by
        unfold ratio?; rw [hk]; dsimp only; split <;> exact ⟨_, rfl⟩
      obtain ⟨q, hq⟩ : ∃ q, (zero false).ratio? = some q := by
        unfold ratio?; rw [kind_zero]; exact ⟨_, rfl⟩
      simp [hp, hq]
    | _ => simp
  simp only [le, lt, order?_swap x (zero false), ← hnan]
  cases x.order? (zero false) with
  | none => simp
  | some o => cases o <;> simp [Ordering.swap]

theorem isNaN_eq_false_of_isInteger {x : Double} (h : x.isInteger = true) : x.isNaN = false := by
  unfold isInteger ratio? at h
  unfold isNaN
  cases hk : x.kind <;> simp_all

end Double

namespace Settings

section reports

/-- A rule of the settings file: whether the loaded value keeps it, and the message that
reports its breach. -/
structure Rule where
  kept : Prop
  message : String

/-- The check `m` follows the rules `rs` in order: it gives `a` when every rule is kept, and
otherwise fails with the message of the first rule broken. -/
def Reports {α : Type} (rs : List Rule) (m : Except Failure α) (a : α) : Prop :=
  ((∀ r ∈ rs, r.kept) → m = .ok a) ∧
    ∀ pre r post, rs = pre ++ r :: post → (∀ q ∈ pre, q.kept) → ¬ r.kept →
      m = .error (.config r.message)

namespace Reports

variable {α β : Type} {rs rs₁ rs₂ : List Rule} {m : Except Failure α} {a : α}

theorem nil_iff : Reports [] m a ↔ m = .ok a :=
  ⟨fun h => h.1 fun _ h => absurd h List.not_mem_nil,
    fun h => ⟨fun _ => h, fun pre r post hrs => by simp at hrs⟩⟩

/-- A first rule, then the others: a kept rule passes on to the rest, a broken one fails with
its message. -/
theorem cons {r : Rule} (hk : r.kept → Reports rs m a) (hb : ¬ r.kept → m = .error (.config r.message)) :
    Reports (r :: rs) m a := by
  refine ⟨fun hall => (hk (hall r List.mem_cons_self)).1 fun q hq => hall q (List.mem_cons_of_mem r hq),
    fun pre q post hrs hpre hq => ?_⟩
  cases pre with
  | nil =>
    obtain ⟨rfl, rfl⟩ := List.cons.inj hrs
    exact hb hq
  | cons p pre =>
    obtain ⟨rfl, hrest⟩ := List.cons.inj hrs
    exact (hk (hpre r List.mem_cons_self)).2 pre q post hrest
      (fun x hx => hpre x (List.mem_cons_of_mem r hx)) hq

theorem singleton_iff {r : Rule} :
    Reports [r] m a ↔ (r.kept → m = .ok a) ∧ (¬ r.kept → m = .error (.config r.message)) :=
  ⟨fun h => ⟨fun hr => h.1 (by simpa using hr), fun hr => h.2 [] r [] rfl (by simp) hr⟩,
    fun h => cons (fun hr => nil_iff.2 (h.1 hr)) h.2⟩

/-- Checking `rs₁`, then `rs₂` on what the first check gives. -/
theorem bind {f : α → Except Failure β} {b : β} (h₁ : Reports rs₁ m a)
    (h₂ : (∀ r ∈ rs₁, r.kept) → Reports rs₂ (f a) b) : Reports (rs₁ ++ rs₂) (m >>= f) b := by
  constructor
  · intro hall
    have hall₁ : ∀ r ∈ rs₁, r.kept := fun r hr => hall r (List.mem_append_left _ hr)
    rw [h₁.1 hall₁]
    exact (h₂ hall₁).1 fun r hr => hall r (List.mem_append_right _ hr)
  · intro pre r post hrs hpre hr
    rcases List.append_eq_append_iff.1 hrs with ⟨c, rfl, hc⟩ | ⟨c, rfl, hc⟩
    · -- the first broken rule lies in `rs₂`: every rule of `rs₁` is kept
      have hall₁ : ∀ q ∈ rs₁, q.kept := fun q hq => hpre q (List.mem_append_left _ hq)
      rw [h₁.1 hall₁]
      exact (h₂ hall₁).2 c r post hc (fun q hq => hpre q (List.mem_append_right _ hq)) hr
    · cases c with
      | nil =>
        rw [List.nil_append] at hc
        subst hc
        have hall₁ : ∀ q ∈ pre ++ [], q.kept := by simpa using hpre
        rw [h₁.1 hall₁]
        exact (h₂ hall₁).2 [] r post rfl (fun _ h => absurd h List.not_mem_nil) hr
      | cons x c =>
        -- the first broken rule lies in `rs₁`
        obtain ⟨rfl, rfl⟩ := List.cons.inj hc
        rw [h₁.2 pre _ c rfl hpre hr]
        rfl

/-- One rule checked first, then `rs`. -/
theorem cons_bind {r : Rule} {f : α → Except Failure β} {b : β} (h₁ : Reports [r] m a)
    (h₂ : r.kept → Reports rs (f a) b) : Reports (r :: rs) (m >>= f) b :=
  bind h₁ fun h => h₂ (h r List.mem_cons_self)

/-- A check whose result is mapped keeps its rules. -/
theorem map_ok {g : α → β} (h : Reports rs m a) : Reports rs (m >>= fun x => .ok (g x)) (g a) := by
  simpa using bind h fun _ => nil_iff.2 (rfl : Except.ok (g a) = _)

/-- Rules that are not all kept have a first broken one. -/
theorem exists_first_broken (h : ¬ ∀ r ∈ rs, r.kept) :
    ∃ pre r post, rs = pre ++ r :: post ∧ (∀ q ∈ pre, q.kept) ∧ ¬ r.kept := by
  induction rs with
  | nil => exact absurd (fun _ h => absurd h List.not_mem_nil) h
  | cons q rs ih =>
    by_cases hq : q.kept
    · -- the first rule is kept, so the first broken one is among the others
      have hrest : ¬ ∀ r ∈ rs, r.kept := by simpa [List.forall_mem_cons, hq] using h
      obtain ⟨pre, r, post, rfl, hpre, hr⟩ := ih hrest
      exact ⟨q :: pre, r, post, rfl, List.forall_mem_cons.2 ⟨hq, hpre⟩, hr⟩
    · exact ⟨[], q, rs, rfl, fun _ h => absurd h List.not_mem_nil, hq⟩

theorem eq_ok_iff (h : Reports rs m a) {b : α} : m = .ok b ↔ (∀ r ∈ rs, r.kept) ∧ b = a := by
  constructor
  · intro hm
    by_cases hall : ∀ r ∈ rs, r.kept
    · exact ⟨hall, Except.ok.inj ((hm.symm.trans (h.1 hall)))⟩
    · obtain ⟨pre, r, post, hrs, hpre, hr⟩ := exists_first_broken hall
      rw [h.2 pre r post hrs hpre hr] at hm
      cases hm
  · rintro ⟨hall, rfl⟩
    exact h.1 hall

theorem eq_error_iff (h : Reports rs m a) {e : Failure} :
    m = .error e ↔ ∃ pre r post, rs = pre ++ r :: post ∧ (∀ q ∈ pre, q.kept) ∧ ¬ r.kept ∧
      e = .config r.message := by
  constructor
  · intro hm
    by_cases hall : ∀ r ∈ rs, r.kept
    · rw [h.1 hall] at hm
      cases hm
    · obtain ⟨pre, r, post, hrs, hpre, hr⟩ := exists_first_broken hall
      rw [h.2 pre r post hrs hpre hr] at hm
      exact ⟨pre, r, post, hrs, hpre, hr, (Except.error.inj hm).symm⟩
  · rintro ⟨pre, r, post, hrs, hpre, hr, rfl⟩
    exact h.2 pre r post hrs hpre hr

end Reports

end reports

section schema

/-- The items of a list value, none for anything else. -/
def itemsOf : Option Value → List Value
  | some (.list ys) => ys
  | _ => []

/-- The text of a string value, empty for anything else. -/
def textOf : Value → Utf16
  | .str s => s
  | _ => []

/-- The entries of a dictionary, none for anything else. -/
def entriesOf : Value → List (String × Value)
  | .dict es => es
  | _ => []

/-- The boolean a key holds, `false` when it holds none. -/
def flagOf : Option Value → Bool
  | some (.bool b) => b
  | _ => false

/-- The number a key holds, `d` when it holds none. -/
def numberOr (d : Double) : Option Value → Double
  | some (.num x) => x
  | _ => d

/-- A string whose trim is not empty: one of its units is not a blank. -/
def FilledText : Value → Prop
  | .str s => ∃ u ∈ s, isBlank (Char.ofNat u.toNat) = false
  | _ => False

instance : DecidablePred FilledText
  | .str s => inferInstanceAs (Decidable (∃ u ∈ s, isBlank (Char.ofNat u.toNat) = false))
  | .none | .bool _ | .num _ | .big _ | .list _ | .dict _ => isFalse id

/-- The rule that a key, when present and not null, holds a value with property `ok`. -/
def keyRule (es : List (String × Value)) (k : String) (ok : Value → Prop) (message : String) : Rule :=
  ⟨∀ x, field es k = some x → ok x, message⟩

/-- The root is null (an empty file) or a dictionary. -/
def rootRule (v : Value) : Rule :=
  ⟨v = .none ∨ ∃ es, v = .dict es, "Configuration must be a YAML object"⟩

/-- Entry `i` has a filled name. -/
def nameRule (i : String) (fs : List (String × Value)) : Rule :=
  ⟨∃ n, field fs "name" = some n ∧ FilledText n,
    "destinations[" ++ i ++ "].name must be a non-empty string"⟩

/-- The exclusion patterns `ys` of entry `i` are filled strings. -/
def patternsRule (i : String) (ys : List Value) : Rule :=
  ⟨∀ y ∈ ys, FilledText y, "destinations[" ++ i ++ "].exclude entries must be non-empty strings"⟩

/-- The exclusion key of entry `i` is absent or a list, of filled strings. -/
def excludeRules (i : String) (fs : List (String × Value)) : List Rule :=
  [keyRule fs "exclude" (fun y => ∃ ys, y = .list ys) ("destinations[" ++ i ++ "].exclude must be an array"),
    patternsRule i (itemsOf (field fs "exclude"))]

/-- The rules of destination entry `i`, in the order they are checked. -/
def entryRules (i : Nat) (x : Value) : List Rule :=
  let fs := entriesOf x
  ⟨∃ es, x = .dict es, "destinations[" ++ toString i ++ "] must be an object"⟩ ::
  nameRule (toString i) fs ::
  keyRule fs "folderDir" FilledText
    ("destinations[" ++ toString i ++ "].folderDir must be a non-empty string") ::
  excludeRules (toString i) fs

/-- The rules of the entries from index `i` on. -/
def entriesRules : Nat → List Value → List Rule
  | _, [] => []
  | i, x :: xs => entryRules i x ++ entriesRules (i + 1) xs

/-- Each name in turn is not among the names before it (`seen`). -/
def distinctRules : List Utf16 → List Utf16 → List Rule
  | _, [] => []
  | seen, n :: ns =>
    ⟨n ∉ seen, "Duplicate destination name: " ++ n.toText⟩ :: distinctRules (seen ++ [n]) ns

/-- The trimmed name of a destination entry. -/
def nameOf (x : Value) : Utf16 :=
  trimBlankUnits (textOf ((field (entriesOf x) "name").getD .none))

/-- The settings of a destination entry that keeps its rules. -/
def entryOf (x : Value) : DestinationEntry :=
  let fs := entriesOf x
  ⟨nameOf x, textOf <$> field fs "folderDir", (itemsOf (field fs "exclude")).map textOf⟩

/-- Every rule of the settings file, in the order validation checks them. -/
def rules (v : Value) : List Rule :=
  let es := entriesOf v
  let xs := itemsOf (field es "destinations")
  rootRule v ::
  keyRule es "defaultRoot" FilledText "defaultRoot must be a non-empty string" ::
  keyRule es "atomicWrites" (fun x => ∃ b, x = .bool b) "atomicWrites must be true or false" ::
  keyRule es "maxLogSizeMB" (fun x => ∃ y, x = .num y ∧ (y.isNaN ∨ (Double.zero false).lt y))
    "maxLogSizeMB must be a positive number" ::
  keyRule es "maxLogFiles" (fun x => ∃ y, x = .num y ∧ y.isInteger ∧ (Double.zero false).lt y)
    "maxLogFiles must be a positive integer" ::
  (keyRule es "destinations" (fun x => ∃ ys, x = .list ys) "destinations must be an array" ::
      entriesRules 0 xs) ++
    (distinctRules [] (xs.map nameOf) ++ [keyRule es "logDir" FilledText "logDir must be a non-empty string"])

/-- The settings of a value that keeps every rule: the defaults where keys are absent. -/
def settingsOf (v : Value) : Settings :=
  let es := entriesOf v
  ⟨(textOf <$> field es "defaultRoot").getD (Utf16.ofString "copybara/out"),
    flagOf (field es "atomicWrites"),
    numberOr (Double.ofNat 10) (field es "maxLogSizeMB"),
    numberOr (Double.ofNat 5) (field es "maxLogFiles"),
    textOf <$> field es "logDir",
    (itemsOf (field es "destinations")).map entryOf⟩

end schema

section steps

/-! Validation as a chain of one check per key. -/

/-- The entries of the root; null reads as an empty dictionary. -/
def rootEntries : Value → Except Failure (List (String × Value))
  | .none => pure []
  | .dict es => pure es
  | _ => .error (.config "Configuration must be a YAML object")

/-- The check of `atomicWrites`. -/
def atomicField (es : List (String × Value)) : Except Failure Bool :=
  match field es "atomicWrites" with
  | none => pure false
  | some (.bool b) => pure b
  | some _ => .error (.config "atomicWrites must be true or false")

/-- The check of `maxLogSizeMB`. -/
def sizeField (es : List (String × Value)) : Except Failure Double :=
  match field es "maxLogSizeMB" with
  | none => pure (Double.ofNat 10)
  | some (.num x) =>
    if x.le (Double.zero false) then .error (.config "maxLogSizeMB must be a positive number") else pure x
  | some _ => .error (.config "maxLogSizeMB must be a positive number")

/-- The check of `maxLogFiles`. -/
def filesField (es : List (String × Value)) : Except Failure Double :=
  match field es "maxLogFiles" with
  | none => pure (Double.ofNat 5)
  | some (.num x) =>
    if x.le (Double.zero false) || !x.isInteger then .error (.config "maxLogFiles must be a positive integer")
    else pure x
  | some _ => .error (.config "maxLogFiles must be a positive integer")

/-- The check of `destinations`. -/
def destinationsField (es : List (String × Value)) : Except Failure (List DestinationEntry) :=
  match field es "destinations" with
  | none => pure []
  | some (.list xs) => entries 0 xs
  | some _ => .error (.config "destinations must be an array")

/-- The check that no name of `ns` is repeated, the names of `seen` counting as earlier. -/
def duplicateCheck (seen ns : List Utf16) : Except Failure Unit :=
  match firstDuplicate seen ns with
  | some n => .error (.config ("Duplicate destination name: " ++ n.toText))
  | none => pure ()

/-- The check of an entry's name. -/
def nameField (i : String) (es : List (String × Value)) : Except Failure Utf16 :=
  match (field es "name").bind filledText? with
  | some s => pure (trimBlankUnits s)
  | none => .error (.config ("destinations[" ++ i ++ "].name must be a non-empty string"))

/-- The check of an entry's exclusion patterns. -/
def excludeField (i : String) (es : List (String × Value)) : Except Failure (List Utf16) :=
  match field es "exclude" with
  | none => pure []
  | some (.list xs) => patterns i xs
  | some _ => .error (.config ("destinations[" ++ i ++ "].exclude must be an array"))

-- Each check followed by a continuation is the match with the continuation in its branches,
-- the shape in which `validate` and `entry` are elaborated.

private theorem rootEntries_bind {α : Type} (v : Value) (k : List (String × Value) → Except Failure α) :
    rootEntries v >>= k = match v with
      | .none => k []
      | .dict es => k es
      | _ => .error (.config "Configuration must be a YAML object") := by
  unfold rootEntries; split <;> rfl

private theorem atomicField_bind {α : Type} (es : List (String × Value)) (k : Bool → Except Failure α) :
    atomicField es >>= k = match field es "atomicWrites" with
      | none => k false
      | some (.bool b) => k b
      | some _ => .error (.config "atomicWrites must be true or false") := by
  unfold atomicField; split <;> rfl

private theorem sizeField_bind {α : Type} (es : List (String × Value)) (k : Double → Except Failure α) :
    sizeField es >>= k = match field es "maxLogSizeMB" with
      | none => k (Double.ofNat 10)
      | some (.num x) =>
        if x.le (Double.zero false) then .error (.config "maxLogSizeMB must be a positive number") else k x
      | some _ => .error (.config "maxLogSizeMB must be a positive number") := by
  unfold sizeField; split
  · rfl
  · split <;> rfl
  · rfl

private theorem filesField_bind {α : Type} (es : List (String × Value)) (k : Double → Except Failure α) :
    filesField es >>= k = match field es "maxLogFiles" with
      | none => k (Double.ofNat 5)
      | some (.num x) =>
        if x.le (Double.zero false) || !x.isInteger then .error (.config "maxLogFiles must be a positive integer")
        else k x
      | some _ => .error (.config "maxLogFiles must be a positive integer") := by
  unfold filesField; split
  · rfl
  · split <;> rfl
  · rfl

private theorem destinationsField_bind {α : Type} (es : List (String × Value))
    (k : List DestinationEntry → Except Failure α) :
    destinationsField es >>= k = match field es "destinations" with
      | none => k []
      | some (.list xs) => entries 0 xs >>= k
      | some _ => .error (.config "destinations must be an array") := by
  unfold destinationsField; split <;> rfl

private theorem duplicateCheck_bind {α : Type} (seen ns : List Utf16) (k : Unit → Except Failure α) :
    duplicateCheck seen ns >>= k = match firstDuplicate seen ns with
      | some n => .error (.config ("Duplicate destination name: " ++ n.toText))
      | none => k () := by
  unfold duplicateCheck; split <;> rfl

private theorem nameField_bind {α : Type} (i : String) (es : List (String × Value)) (k : Utf16 → Except Failure α) :
    nameField i es >>= k = match (field es "name").bind filledText? with
      | some s => k (trimBlankUnits s)
      | none => .error (.config ("destinations[" ++ i ++ "].name must be a non-empty string")) := by
  unfold nameField; split <;> rfl

private theorem excludeField_bind {α : Type} (i : String) (es : List (String × Value))
    (k : List Utf16 → Except Failure α) :
    excludeField i es >>= k = match field es "exclude" with
      | none => k []
      | some (.list xs) => patterns i xs >>= k
      | some _ => .error (.config ("destinations[" ++ i ++ "].exclude must be an array")) := by
  unfold excludeField; split <;> rfl

theorem validate_eq (v : Value) : validate v = (do
    let es ← rootEntries v
    let defaultRoot ← textField es "defaultRoot" "defaultRoot must be a non-empty string"
    let atomicWrites ← atomicField es
    let maxLogSizeMB ← sizeField es
    let maxLogFiles ← filesField es
    let destinations ← destinationsField es
    duplicateCheck [] (destinations.map (·.name))
    let logDir ← textField es "logDir" "logDir must be a non-empty string"
    pure ⟨defaultRoot.getD (Utf16.ofString "copybara/out"), atomicWrites, maxLogSizeMB, maxLogFiles,
      logDir, destinations⟩) := by
  simp only [rootEntries_bind, atomicField_bind, sizeField_bind, filesField_bind, destinationsField_bind,
    duplicateCheck_bind]
  rfl

theorem entry_eq (index : Nat) (v : Value) : entry index v = match v with
    | .dict es => do
      let name ← nameField (toString index) es
      let folderDir ← textField es "folderDir"
        ("destinations[" ++ toString index ++ "].folderDir must be a non-empty string")
      let exclude ← excludeField (toString index) es
      pure ⟨name, folderDir, exclude⟩
    | _ => .error (.config ("destinations[" ++ toString index ++ "] must be an object")) := by
  unfold entry
  cases v with
  | dict es =>
    simp only [nameField_bind, excludeField_bind]
    rfl
  | _ => rfl

end steps

section checks

@[simp] theorem pure_eq_ok {α : Type} (a : α) : (pure a : Except Failure α) = .ok a := rfl

@[simp] theorem ok_bind {α β : Type} (a : α) (f : α → Except Failure β) : (Except.ok a >>= f) = f a := rfl

@[simp] theorem error_bind {α β : Type} (e : Failure) (f : α → Except Failure β) :
    (Except.error e >>= f) = .error e := rfl

theorem trimBlankUnits_eq_nil_iff (s : Utf16) :
    trimBlankUnits s = [] ↔ ∀ u ∈ s, isBlank (Char.ofNat u.toNat) = true := by
  simp only [trimBlankUnits, List.reverse_eq_nil_iff, List.dropWhile_eq_nil_iff, List.mem_reverse]
  constructor
  · -- what `dropWhile` leaves starts with a unit that is not blank, unless it is empty
    intro h
    cases hd : s.dropWhile (fun c => isBlank (Char.ofNat c.toNat)) with
    | nil => exact List.dropWhile_eq_nil_iff.1 hd
    | cons u us =>
      have hu := List.head_dropWhile_not (fun c : UInt16 => isBlank (Char.ofNat c.toNat)) (l := s)
        (by simp [hd])
      simp only [hd, List.head_cons] at hu
      rw [h u (by simp [hd])] at hu
      cases hu
  · intro h u hu
    exact h u ((List.dropWhile_suffix _).subset hu)

theorem filledText?_of_filled {x : Value} (h : FilledText x) : filledText? x = some (textOf x) := by
  cases x with
  | str s =>
    obtain ⟨u, hu, hb⟩ := h
    have hne : trimBlankUnits s ≠ [] := fun he => by
      rw [(trimBlankUnits_eq_nil_iff s).1 he u hu] at hb
      cases hb
    simp [filledText?, hne, textOf]
  | _ => exact absurd h id

theorem filledText?_of_not_filled {x : Value} (h : ¬ FilledText x) : filledText? x = none := by
  cases x with
  | str s =>
    have he : trimBlankUnits s = [] := (trimBlankUnits_eq_nil_iff s).2 fun u hu => by
      simpa using fun hb => h ⟨u, hu, hb⟩
    simp [filledText?, he]
  | _ => rfl

/-- A check of one key: absent, it gives its default; present, it gives a value or its
message as the key keeps its rule or not. -/
theorem keyRule_reports {α : Type} {es : List (String × Value)} {k : String} {ok : Value → Prop}
    {message : String} {m : Except Failure α} {a : α} (hnone : field es k = none → m = .ok a)
    (hkept : ∀ x, field es k = some x → ok x → m = .ok a)
    (hbroken : ∀ x, field es k = some x → ¬ ok x → m = .error (.config message)) :
    Reports [keyRule es k ok message] m a := by
  refine Reports.singleton_iff.2 ⟨fun hr => ?_, fun hr => ?_⟩
  · cases hf : field es k with
    | none => exact hnone hf
    | some x => exact hkept x hf (hr x hf)
  · simp only [keyRule, not_forall] at hr
    obtain ⟨x, hf, hx⟩ := hr
    exact hbroken x hf hx

theorem textField_reports (es : List (String × Value)) (k message : String) :
    Reports [keyRule es k FilledText message] (textField es k message) (textOf <$> field es k) :=
  keyRule_reports (fun hf => by simp [textField, hf])
    (fun x hf hx => by simp [textField, hf, filledText?_of_filled hx])
    (fun x hf hx => by simp [textField, hf, filledText?_of_not_filled hx])

theorem rootEntries_reports (v : Value) : Reports [rootRule v] (rootEntries v) (entriesOf v) := by
  refine Reports.singleton_iff.2 ⟨fun hr => ?_, fun hr => ?_⟩
  · rcases hr with rfl | ⟨es, rfl⟩ <;> rfl
  · cases v with
    | none => exact absurd (Or.inl rfl) hr
    | dict es => exact absurd (Or.inr ⟨es, rfl⟩) hr
    | _ => rfl

theorem atomicField_reports (es : List (String × Value)) :
    Reports [keyRule es "atomicWrites" (fun x => ∃ b, x = .bool b) "atomicWrites must be true or false"]
      (atomicField es) (flagOf (field es "atomicWrites")) :=
  keyRule_reports (fun hf => by simp [atomicField, flagOf, hf])
    (fun x hf ⟨b, hb⟩ => by simp [atomicField, flagOf, hf, hb])
    (fun x hf hx => by
      cases x with
      | bool b => exact absurd ⟨b, rfl⟩ hx
      | _ => simp [atomicField, hf])

theorem sizeField_reports (es : List (String × Value)) :
    Reports [keyRule es "maxLogSizeMB" (fun x => ∃ y, x = .num y ∧ (y.isNaN ∨ (Double.zero false).lt y))
        "maxLogSizeMB must be a positive number"]
      (sizeField es) (numberOr (Double.ofNat 10) (field es "maxLogSizeMB")) := by
  refine keyRule_reports (fun hf => by simp [sizeField, numberOr, hf]) ?_ ?_
  · rintro x hf ⟨y, rfl, hy⟩
    have hle : y.le (Double.zero false) = false := (Double.le_zero_eq_false_iff y).2 hy
    simp [sizeField, numberOr, hf, hle]
  · intro x hf hx
    cases x with
    | num y =>
      have hle : y.le (Double.zero false) = true := by
        rw [← Bool.not_eq_false, Double.le_zero_eq_false_iff]
        exact fun hy => hx ⟨y, rfl, hy⟩
      simp [sizeField, hf, hle]
    | _ => simp [sizeField, hf]

theorem filesField_reports (es : List (String × Value)) :
    Reports [keyRule es "maxLogFiles" (fun x => ∃ y, x = .num y ∧ y.isInteger ∧ (Double.zero false).lt y)
        "maxLogFiles must be a positive integer"]
      (filesField es) (numberOr (Double.ofNat 5) (field es "maxLogFiles")) := by
  refine keyRule_reports (fun hf => by simp [filesField, numberOr, hf]) ?_ ?_
  · rintro x hf ⟨y, rfl, hint, hpos⟩
    have hle : y.le (Double.zero false) = false := (Double.le_zero_eq_false_iff y).2 (Or.inr hpos)
    simp [filesField, numberOr, hf, hle, hint]
  · intro x hf hx
    cases x with
    | num y =>
      -- an integral number is not NaN, so not being at most zero means being above it
      have hbad : (y.le (Double.zero false) || !y.isInteger) = true := by
        cases hint : y.isInteger
        · simp
        · have hle : y.le (Double.zero false) = true := by
            rw [← Bool.not_eq_false, Double.le_zero_eq_false_iff, Double.isNaN_eq_false_of_isInteger hint]
            exact fun hy => hx ⟨y, rfl, hint, by simpa using hy⟩
          simp [hle]
      simp [filesField, hf, hbad]
    | _ => simp [filesField, hf]

theorem patterns_reports (i : String) (ys : List Value) :
    Reports [patternsRule i ys] (patterns i ys) (ys.map textOf) := by
  induction ys with
  | nil => exact Reports.singleton_iff.2 ⟨fun _ => rfl, fun h => (h (by simp [patternsRule])).elim⟩
  | cons y ys ih =>
    obtain ⟨hk, hb⟩ := Reports.singleton_iff.1 ih
    refine Reports.singleton_iff.2 ⟨fun hr => ?_, fun hr => ?_⟩
    · have hy : FilledText y := hr y List.mem_cons_self
      simp [patterns, filledText?_of_filled hy, hk fun z hz => hr z (List.mem_cons_of_mem y hz)]
    · by_cases hy : FilledText y
      · -- the first pattern is filled: the broken one is among the others
        have hrest : ¬ (patternsRule i ys).kept := fun hall =>
          hr (List.forall_mem_cons.2 ⟨hy, hall⟩)
        simp [patterns, filledText?_of_filled hy, hb hrest, patternsRule]
      · simp [patterns, filledText?_of_not_filled hy, patternsRule]

theorem excludeField_reports (i : String) (es : List (String × Value)) :
    Reports (excludeRules i es) (excludeField i es) ((itemsOf (field es "exclude")).map textOf) := by
  refine Reports.cons (fun hr => ?_) (fun hr => ?_)
  · cases hf : field es "exclude" with
    | none =>
      exact Reports.singleton_iff.2 ⟨fun _ => by simp [excludeField, hf, itemsOf],
        fun h => (h (by simp [patternsRule, itemsOf])).elim⟩
    | some x =>
      obtain ⟨ys, rfl⟩ := hr x hf
      simpa [excludeField, hf, itemsOf] using patterns_reports i ys
  · simp only [keyRule, not_forall] at hr
    obtain ⟨x, hf, hx⟩ := hr
    cases x with
    | list ys => exact absurd ⟨ys, rfl⟩ hx
    | _ => simp [excludeField, hf, keyRule]

theorem nameField_reports (i : String) (es : List (String × Value)) :
    Reports [nameRule i es] (nameField i es) (nameOf (.dict es)) := by
  refine Reports.singleton_iff.2 ⟨fun hr => ?_, fun hr => ?_⟩
  · obtain ⟨n, hf, hn⟩ := hr
    simp [nameField, nameOf, entriesOf, hf, filledText?_of_filled hn]
  · have hnone : (field es "name").bind filledText? = none := by
      cases hf : field es "name" with
      | none => rfl
      | some n => exact filledText?_of_not_filled fun hn => hr ⟨n, hf, hn⟩
    simp [nameField, hnone, nameRule]

theorem entry_reports (i : Nat) (x : Value) : Reports (entryRules i x) (entry i x) (entryOf x) := by
  rw [entry_eq]
  refine Reports.cons (fun hr => ?_) (fun hr => ?_)
  · obtain ⟨es, rfl⟩ := hr
    refine Reports.cons_bind (nameField_reports _ _) fun _ => ?_
    refine Reports.cons_bind (textField_reports _ _ _) fun _ => ?_
    exact Reports.bind (excludeField_reports _ _) fun _ => Reports.nil_iff.2 rfl
  · cases x <;> first | rfl | exact absurd ⟨_, rfl⟩ hr

theorem entries_reports (i : Nat) (xs : List Value) :
    Reports (entriesRules i xs) (entries i xs) (xs.map entryOf) := by
  induction xs generalizing i with
  | nil => exact Reports.nil_iff.2 rfl
  | cons x xs ih =>
    rw [entries, entriesRules]
    exact Reports.bind (entry_reports i x) fun _ => Reports.map_ok (ih (i + 1))

theorem destinationsField_reports (es : List (String × Value)) :
    Reports (keyRule es "destinations" (fun x => ∃ ys, x = .list ys) "destinations must be an array" ::
        entriesRules 0 (itemsOf (field es "destinations")))
      (destinationsField es) ((itemsOf (field es "destinations")).map entryOf) := by
  refine Reports.cons (fun hr => ?_) (fun hr => ?_)
  · cases hf : field es "destinations" with
    | none => exact Reports.nil_iff.2 (by simp [destinationsField, hf, itemsOf])
    | some x =>
      obtain ⟨ys, rfl⟩ := hr x hf
      simpa [destinationsField, hf, itemsOf] using entries_reports 0 ys
  · simp only [keyRule, not_forall] at hr
    obtain ⟨x, hf, hx⟩ := hr
    cases x with
    | list ys => exact absurd ⟨ys, rfl⟩ hx
    | _ => simp [destinationsField, hf, keyRule]

theorem duplicateCheck_reports (seen ns : List Utf16) :
    Reports (distinctRules seen ns) (duplicateCheck seen ns) () := by
  induction ns generalizing seen with
  | nil => exact Reports.nil_iff.2 rfl
  | cons n ns ih =>
    refine Reports.cons (fun hr => ?_) (fun hr => ?_)
    · have hn : n ∉ seen := hr
      simpa [duplicateCheck, firstDuplicate, hn] using ih (seen ++ [n])
    · have hn : n ∈ seen := Classical.not_not.1 hr
      simp [duplicateCheck, firstDuplicate, hn]

end checks

section validation

theorem entryNames_reports (xs : List Value) :
    Reports (distinctRules [] (xs.map nameOf)) (duplicateCheck [] ((xs.map entryOf).map (·.name))) () := by
  rw [List.map_map]
  exact duplicateCheck_reports [] _

/-- The names pass the duplicate rules exactly when they are pairwise distinct (and none was
seen before). -/
theorem distinctRules_kept_iff (seen ns : List Utf16) :
    (∀ r ∈ distinctRules seen ns, r.kept) ↔ ns.Nodup ∧ ∀ n ∈ ns, n ∉ seen := by
  induction ns generalizing seen with
  | nil => simp [distinctRules]
  | cons n ns ih =>
    simp only [distinctRules, List.forall_mem_cons, ih, List.nodup_cons, List.mem_append,
      List.mem_singleton, not_or]
    constructor
    · rintro ⟨hn, hnd, hns⟩
      exact ⟨⟨fun h => (hns n h).2 rfl, hnd⟩, hn, fun m hm => (hns m hm).1⟩
    · rintro ⟨⟨hn, hnd⟩, hs, hns⟩
      exact ⟨hs, hnd, fun m hm => ⟨hns m hm, fun h => hn (h ▸ hm)⟩⟩

/-- Validation checks the rules of the settings file one key after another. -/
theorem validate_reports (v : Value) : Reports (rules v) (validate v) (settingsOf v) := by
  rw [validate_eq]
  refine Reports.cons_bind (rootEntries_reports v) fun _ => ?_
  refine Reports.cons_bind (textField_reports _ _ _) fun _ => ?_
  refine Reports.cons_bind (atomicField_reports _) fun _ => ?_
  refine Reports.cons_bind (sizeField_reports _) fun _ => ?_
  refine Reports.cons_bind (filesField_reports _) fun _ => ?_
  refine Reports.bind (destinationsField_reports _) fun _ => ?_
  refine Reports.bind (entryNames_reports _) fun _ => ?_
  refine Reports.cons_bind (textField_reports _ _ _) fun _ => ?_
  exact Reports.nil_iff.2 rfl

/-- `validate` accepts exactly the values that keep every rule, giving their settings with
the defaults filled in, and fails on any other value with the message of the first rule it
breaks. -/
theorem validate_follows_rules (v : Value) :
    (∀ s, validate v = .ok s ↔ (∀ r ∈ rules v, r.kept) ∧ s = settingsOf v) ∧
    ∀ e, validate v = .error e ↔ ∃ pre r post, rules v = pre ++ r :: post ∧
      (∀ q ∈ pre, q.kept) ∧ ¬ r.kept ∧ e = .config r.message :=
  ⟨fun _ => (validate_reports v).eq_ok_iff, fun _ => (validate_reports v).eq_error_iff⟩

-- NaN is not at most zero, so it passes the check of `maxLogSizeMB`.
example : (validate (.dict [("maxLogSizeMB", .num Double.nan)])).toBool = true := by decide

end validation

end Settings

end FolderSink
