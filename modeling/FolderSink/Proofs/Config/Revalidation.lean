import FolderSink.Proofs.Config.Validation
import Mathlib.Data.List.DropRight
/-!
Validated settings are a fixed point of validation. What validation gives keeps the rules it
checks (`Settings.Valid`): a filled root, positive limits, a filled log folder, entries whose
names are trimmed and filled and whose folders and patterns are filled, and distinct names.
Such settings, written back as a value, keep every rule of `rules` and read back as
themselves, so validating them again gives them unchanged.

Main statement (`validate_toValue_of_validate`): when `validate v` gives `s`, validating
`s.toValue` gives `s` again.
-/

namespace FolderSink

section trim

/-- A list with nothing to drop in front keeps that after its end is trimmed. -/
theorem dropWhile_rdropWhile {α : Type} (p : α → Bool) {l : List α} (hl : l.dropWhile p = l) :
    (l.rdropWhile p).dropWhile p = l.rdropWhile p := by
  obtain ⟨t, ht⟩ := List.rdropWhile_prefix p l
  cases hr : l.rdropWhile p with
  | nil => rfl
  | cons a m =>
    -- the trimmed list starts where `l` does, with a unit that is kept
    rw [hr, List.cons_append] at ht
    have ha : ¬ p a = true := by
      have := List.dropWhile_eq_self_iff.1 hl (by rw [← ht]; simp)
      simpa [← ht] using this
    exact List.dropWhile_cons_of_neg ha

/-- Trimming twice is trimming once. -/
theorem trimBlankUnits_trimBlankUnits (u : Utf16) :
    trimBlankUnits (trimBlankUnits u) = trimBlankUnits u := by
  have h := dropWhile_rdropWhile (fun c : UInt16 => isBlank (Char.ofNat c.toNat))
    (List.dropWhile_idempotent _ u)
  show List.rdropWhile _ (List.dropWhile _ (List.rdropWhile _ (List.dropWhile _ u))) =
    List.rdropWhile _ (List.dropWhile _ u)
  rw [h, List.rdropWhile_idempotent]

end trim

namespace Settings

/-- A text is filled exactly when its trim is not empty. -/
theorem filledText_str_iff (s : Utf16) : FilledText (.str s) ↔ trimBlankUnits s ≠ [] := by
  rw [Ne, trimBlankUnits_eq_nil_iff]
  simp [FilledText]

theorem filledText_str_textOf {x : Value} (h : FilledText x) : FilledText (.str (textOf x)) := by
  cases x with
  | str s => exact h
  | _ => exact h.elim

/-- What validation guarantees of a destination entry. -/
structure EntryValid (e : DestinationEntry) : Prop where
  name_trimmed : trimBlankUnits e.name = e.name
  name_ne_nil : e.name ≠ []
  folderDir_filled : ∀ d ∈ e.folderDir, FilledText (.str d)
  exclude_filled : ∀ p ∈ e.exclude, FilledText (.str p)

/-- What validation guarantees of the settings it gives. -/
structure Valid (s : Settings) : Prop where
  defaultRoot_filled : FilledText (.str s.defaultRoot)
  size_positive : s.maxLogSizeMB.isNaN ∨ (Double.zero false).lt s.maxLogSizeMB
  files_positive : s.maxLogFiles.isInteger ∧ (Double.zero false).lt s.maxLogFiles
  logDir_filled : ∀ d ∈ s.logDir, FilledText (.str d)
  entries_valid : ∀ e ∈ s.destinations, EntryValid e
  names_nodup : (s.destinations.map (·.name)).Nodup

section ofValidation

/-- An entry that keeps its rules gives valid settings. -/
theorem entryValid_entryOf {i : Nat} {x : Value} (h : ∀ r ∈ entryRules i x, r.kept) :
    EntryValid (entryOf x) := by
  simp only [entryRules, excludeRules, nameRule, keyRule, patternsRule, List.forall_mem_cons,
    List.not_mem_nil, IsEmpty.forall_iff, implies_true, and_true] at h
  obtain ⟨-, ⟨n, hn, hfilled⟩, hfolder, -, hpatterns⟩ := h
  refine ⟨trimBlankUnits_trimBlankUnits _, ?_, ?_, ?_⟩
  · -- the name is the trim of a filled text
    have := (filledText_str_iff _).1 (filledText_str_textOf hfilled)
    simpa [entryOf, nameOf, hn] using this
  · intro d hd
    obtain ⟨y, hy, rfl⟩ := Option.mem_map.1 hd
    exact filledText_str_textOf (hfolder y hy)
  · intro p hp
    obtain ⟨y, hy, rfl⟩ := List.mem_map.1 hp
    exact filledText_str_textOf (hpatterns y hy)

/-- Each entry of a list that keeps the rules of its entries keeps the rules of its index. -/
theorem entryRules_kept_of_mem {i : Nat} {xs : List Value} (h : ∀ r ∈ entriesRules i xs, r.kept) :
    ∀ x ∈ xs, ∃ j, ∀ r ∈ entryRules j x, r.kept := by
  induction xs generalizing i with
  | nil => simp
  | cons x xs ih =>
    simp only [entriesRules, List.forall_mem_append] at h
    intro y hy
    rcases List.mem_cons.1 hy with rfl | hy
    · exact ⟨i, h.1⟩
    · exact ih h.2 y hy

/-- The defaults keep the rules they stand in for. -/
theorem valid_defaults_limits :
    FilledText (.str (Utf16.ofString "copybara/out")) ∧
      (Double.zero false).lt (Double.ofNat 10) = true ∧
      (Double.ofNat 5).isInteger = true ∧ (Double.zero false).lt (Double.ofNat 5) = true := by
  refine ⟨by decide, ?_, by decide, ?_⟩ <;>
  · rw [← Double.ofNat_zero, (Double.isNat_ofNat (by omega)).lt (Double.isNat_ofNat (by omega))]
    decide

/-- The settings of a value that keeps every rule are valid. -/
theorem valid_settingsOf {v : Value} (h : ∀ r ∈ rules v, r.kept) : (settingsOf v).Valid := by
  simp only [rules, keyRule, List.forall_mem_cons, List.forall_mem_append,
    List.not_mem_nil, IsEmpty.forall_iff, implies_true, and_true] at h
  obtain ⟨⟨-, hroot, -, hsize, hfiles, -, hentries⟩, hdistinct, hlog⟩ := h
  obtain ⟨hdefault, hten, hfive, hfive'⟩ := valid_defaults_limits
  refine ⟨?_, ?_, ?_, ?_, ?_, ?_⟩
  · cases hf : field (entriesOf v) "defaultRoot" with
    | none => simpa [settingsOf, hf] using hdefault
    | some x => simpa [settingsOf, hf] using filledText_str_textOf (hroot x hf)
  · cases hf : field (entriesOf v) "maxLogSizeMB" with
    | none => simpa [settingsOf, hf, numberOr] using Or.inr hten
    | some x =>
      obtain ⟨y, rfl, hy⟩ := hsize _ hf
      simpa [settingsOf, hf, numberOr] using hy
  · cases hf : field (entriesOf v) "maxLogFiles" with
    | none => simpa [settingsOf, hf, numberOr] using ⟨hfive, hfive'⟩
    | some x =>
      obtain ⟨y, rfl, hy⟩ := hfiles _ hf
      simpa [settingsOf, hf, numberOr] using hy
  · intro d hd
    obtain ⟨y, hy, rfl⟩ := Option.mem_map.1 hd
    exact filledText_str_textOf (hlog y hy)
  · intro e he
    obtain ⟨x, hx, rfl⟩ := List.mem_map.1 he
    obtain ⟨j, hj⟩ := entryRules_kept_of_mem hentries x hx
    exact entryValid_entryOf hj
  · have hnames : ((settingsOf v).destinations.map (·.name)) =
        (itemsOf (field (entriesOf v) "destinations")).map nameOf := by
      simp [settingsOf, entryOf]
    rw [hnames]
    exact ((distinctRules_kept_iff [] _).1 hdistinct).1

/-- Whatever validation gives is valid. -/
theorem valid_of_validate {v : Value} {s : Settings} (h : validate v = .ok s) : s.Valid := by
  obtain ⟨hrules, rfl⟩ := (validate_reports v).eq_ok_iff.1 h
  exact valid_settingsOf hrules

end ofValidation

section toValue

/-- An entry written as a value holds its name, its patterns and, when it has one, its
folder. -/
theorem field_entry_toValue (e : DestinationEntry) :
    field (entriesOf e.toValue) "name" = some (.str e.name) ∧
      field (entriesOf e.toValue) "folderDir" = e.folderDir.map .str ∧
      field (entriesOf e.toValue) "exclude" = some (.list (e.exclude.map .str)) := by
  obtain ⟨name, _ | d, exclude⟩ := e <;> exact ⟨rfl, rfl, rfl⟩

/-- Settings written as a value hold each of their keys, and the log folder when they have
one. -/
theorem field_toValue (s : Settings) :
    field (entriesOf s.toValue) "defaultRoot" = some (.str s.defaultRoot) ∧
      field (entriesOf s.toValue) "atomicWrites" = some (.bool s.atomicWrites) ∧
      field (entriesOf s.toValue) "maxLogSizeMB" = some (.num s.maxLogSizeMB) ∧
      field (entriesOf s.toValue) "maxLogFiles" = some (.num s.maxLogFiles) ∧
      field (entriesOf s.toValue) "destinations" =
        some (.list (s.destinations.map DestinationEntry.toValue)) ∧
      field (entriesOf s.toValue) "logDir" = s.logDir.map .str := by
  obtain ⟨_, _, _, _, _ | d, _⟩ := s <;> exact ⟨rfl, rfl, rfl, rfl, rfl, rfl⟩

theorem textOf_comp_str : textOf ∘ Value.str = id := rfl

theorem nameOf_toValue {e : DestinationEntry} (h : trimBlankUnits e.name = e.name) :
    nameOf e.toValue = e.name := by
  simp [nameOf, (field_entry_toValue e).1, textOf, h]

/-- A trimmed entry reads back from its value. -/
theorem entryOf_toValue {e : DestinationEntry} (h : trimBlankUnits e.name = e.name) :
    entryOf e.toValue = e := by
  obtain ⟨-, hfolder, hexclude⟩ := field_entry_toValue e
  simp only [entryOf, nameOf_toValue h, hfolder, hexclude, itemsOf, Option.map_eq_map,
    Option.map_map, textOf_comp_str, Option.map_id, List.map_map, List.map_id, id_eq]

/-- A valid entry written as a value keeps the rules of an entry. -/
theorem entryRules_toValue {e : DestinationEntry} (h : EntryValid e) (i : Nat) :
    ∀ r ∈ entryRules i e.toValue, r.kept := by
  obtain ⟨hname, hfolder, hexclude⟩ := field_entry_toValue e
  simp only [entryRules, excludeRules, nameRule, keyRule, patternsRule, List.forall_mem_cons,
    List.not_mem_nil, IsEmpty.forall_iff, implies_true, and_true, hname, hfolder, hexclude,
    itemsOf, Option.some.injEq]
  refine ⟨⟨_, rfl⟩, ⟨_, rfl, ?_⟩, ?_, fun _ h => ⟨_, h.symm⟩, ?_⟩
  · -- a trimmed name that is not empty is filled
    rw [filledText_str_iff, h.name_trimmed]
    exact h.name_ne_nil
  · intro x hx
    obtain ⟨d, hd, rfl⟩ := Option.map_eq_some_iff.1 hx
    exact h.folderDir_filled d hd
  · intro x hx
    obtain ⟨p, hp, rfl⟩ := List.mem_map.1 hx
    exact h.exclude_filled p hp

theorem entriesRules_toValue {es : List DestinationEntry} (h : ∀ e ∈ es, EntryValid e) (i : Nat) :
    ∀ r ∈ entriesRules i (es.map DestinationEntry.toValue), r.kept := by
  induction es generalizing i with
  | nil => simp [entriesRules]
  | cons e es ih =>
    rw [List.forall_mem_cons] at h
    simp only [List.map_cons, entriesRules, List.forall_mem_append]
    exact ⟨entryRules_toValue h.1 i, ih h.2 (i + 1)⟩

/-- Settings whose names are trimmed read back from their value. -/
theorem settingsOf_toValue {s : Settings} (h : ∀ e ∈ s.destinations, trimBlankUnits e.name = e.name) :
    settingsOf s.toValue = s := by
  obtain ⟨hroot, hatomic, hsize, hfiles, hdest, hlog⟩ := field_toValue s
  have hentries : s.destinations.map (entryOf ∘ DestinationEntry.toValue) = s.destinations :=
    (List.map_congr_left fun e he => entryOf_toValue (h e he)).trans (List.map_id _)
  simp only [settingsOf, hroot, hatomic, hsize, hfiles, hdest, hlog, itemsOf, flagOf, numberOr,
    Option.map_eq_map, Option.map_some, Option.getD_some, Option.map_map, textOf_comp_str,
    Option.map_id, List.map_map, hentries]
  rfl

/-- Valid settings written as a value keep every rule of the settings file. -/
theorem rules_toValue {s : Settings} (h : s.Valid) : ∀ r ∈ rules s.toValue, r.kept := by
  obtain ⟨hroot, hatomic, hsize, hfiles, hdest, hlog⟩ := field_toValue s
  have hnames : (s.destinations.map DestinationEntry.toValue).map nameOf = s.destinations.map (·.name) :=
    by simpa [List.map_map] using List.map_congr_left fun e he =>
      nameOf_toValue (h.entries_valid e he).name_trimmed
  simp only [rules, keyRule, rootRule, List.forall_mem_cons, List.forall_mem_append,
    List.not_mem_nil, IsEmpty.forall_iff, implies_true, and_true, hroot, hatomic, hsize, hfiles,
    hdest, hlog, itemsOf, Option.some.injEq, forall_eq', hnames]
  refine ⟨⟨Or.inr ⟨_, rfl⟩, h.defaultRoot_filled, ⟨_, rfl⟩, ⟨_, rfl, h.size_positive⟩,
    ⟨_, rfl, h.files_positive⟩, ⟨_, rfl⟩, entriesRules_toValue h.entries_valid 0⟩, ?_, ?_⟩
  · exact (distinctRules_kept_iff [] _).2 ⟨h.names_nodup, fun _ _ => List.not_mem_nil⟩
  · intro x hx
    obtain ⟨d, hd, rfl⟩ := Option.map_eq_some_iff.1 hx
    exact h.logDir_filled d hd

/-- Valid settings pass validation as they are. -/
theorem validate_toValue {s : Settings} (h : s.Valid) : validate s.toValue = .ok s :=
  (validate_reports _).eq_ok_iff.2
    ⟨rules_toValue h, (settingsOf_toValue fun e he => (h.entries_valid e he).name_trimmed).symm⟩

end toValue

/-- Validation is idempotent: the settings that validation gives, written back as a value,
pass validation again and give the same settings. -/
theorem validate_toValue_of_validate {v : Value} {s : Settings} (h : validate v = .ok s) :
    validate s.toValue = .ok s :=
  validate_toValue (valid_of_validate h)

/-- A name written with blanks around it is kept trimmed, and the settings kept pass again. -/
theorem validate_toValue_of_padded_name :
    validate (.dict [("destinations", .list [.dict [("name", .str (Utf16.ofString " web "))]])]) =
        .ok { defaults with destinations := [⟨Utf16.ofString "web", none, []⟩] } ∧
      validate ({ defaults with destinations := [⟨Utf16.ofString "web", none, []⟩] } : Settings).toValue =
        .ok { defaults with destinations := [⟨Utf16.ofString "web", none, []⟩] } := by
  have h : validate (.dict [("destinations", .list [.dict [("name", .str (Utf16.ofString " web "))]])]) =
      .ok { defaults with destinations := [⟨Utf16.ofString "web", none, []⟩] } := rfl
  exact ⟨h, validate_toValue_of_validate h⟩

end Settings

end FolderSink
