import FolderSink.Report.Logger
import FolderSink.Proofs.Report.Rotation
import FolderSink.Proofs.Number.Numeral
import FolderSink.Proofs.Disk.Calls
/-! The log files on the disk follow the rotation rule of `Rotation`. The disk is described by
`Holds`: the log's files in its directory as a view from their names (`logName`, the current
log and the rotated log `p`), everything else as at the start. Each call the logger makes
keeps it, with the view changed at one or two names (`Holds.put`, `Holds.removeTree`,
`Holds.move`); the shift loop moves the rotated logs up (`shift_holds`, by induction on its
counter); a rotation and a logged message do what the rule's write does (`rotate_full`,
`log_holds`), and so does any sequence of messages (`logs_holds`).

Main statement: `rotation_keeps_records`, the files after any messages are those the rule
gives. The numbers in the names are the doubles the logger counts with, exact below `2^53`
(`numbered_eq`). Far above, a count that taking one away leaves where it is makes the shift
stop for good (`shift_stalls`, `rotate_stalls`): keeping `2^54` files, the first rotation
never ends (`rotation_stalls_at_two_pow_54`). -/
namespace FolderSink

namespace Logger

open Disk FolderSink.Path

/-- The name of the current log. -/
def currentName : String := baseName ++ ".log"

/-- The name of the rotated log `p`. -/
def numName (p : Nat) : String := baseName ++ "." ++ p.repr ++ ".log"

theorem toList_numName (p : Nat) :
    (numName p).toList = baseName.toList ++ '.' :: (p.repr.toList ++ ".log".toList) := by
  simp [numName]

theorem dot_repr_inj {p q : Nat} : "." ++ p.repr = "." ++ q.repr ↔ p = q := by
  refine ⟨fun h => ?_, fun h => h ▸ rfl⟩
  have hr : Nat.toDigits 10 p = Nat.toDigits 10 q := by
    simpa using congrArg String.toList h
  simpa [Nat.ofDigitChars_ten_toDigits] using congrArg (Nat.ofDigitChars 10 · 0) hr

theorem dot_repr_ne_empty (p : Nat) : "." ++ p.repr ≠ "" := fun h => by
  simpa using congrArg String.toList h

theorem glob_inj {x y : String} : baseName ++ x ++ ".log" = baseName ++ y ++ ".log" ↔ x = y := by
  refine ⟨fun h => ?_, fun h => h ▸ rfl⟩
  have h' := congrArg String.toList h
  simp only [String.toList_append, List.append_assoc, List.append_cancel_left_eq,
    List.append_cancel_right_eq] at h'
  exact String.toList_inj.1 h'

theorem numName_inj {p p' : Nat} : numName p = numName p' ↔ p = p' := by
  have hglob : ∀ q, numName q = baseName ++ ("." ++ q.repr) ++ ".log" := fun q => by
    simp only [numName, String.append_assoc]
  rw [hglob, hglob, glob_inj, dot_repr_inj]

theorem length_numName (p : Nat) : (numName p).length = 23 + p.repr.length := by
  have h1 : "folder-destination".length = 18 := by decide
  have h2 : ".log".length = 4 := by decide
  have h3 : ".".length = 1 := by decide
  simp only [numName, baseName, String.length_append, h1, h2, h3]
  omega

theorem numName_ne_currentName (p : Nat) : numName p ≠ currentName := fun h => by
  have := congrArg String.length h
  have h1 : "folder-destination.log".length = 22 := by decide
  rw [length_numName] at this
  simp only [currentName, baseName, String.length_append] at this
  have h2 : "folder-destination".length + ".log".length = 22 := by decide
  omega

theorem isName_currentName : IsName currentName := by decide

theorem isName_numName (p : Nat) : IsName (numName p) := by
  have hlen := length_numName p
  have h1 : ".".length = 1 := by decide
  have h2 : "..".length = 2 := by decide
  refine ⟨fun h => by rw [h] at hlen; simp at hlen; omega, fun h => by rw [h, h1] at hlen; omega,
    fun h => by rw [h, h2] at hlen; omega, ?_⟩
  rw [toList_numName]
  intro hmem
  have hdigit : ∀ c ∈ p.repr.toList, c ≠ '/' := by
    intro c hc heq
    have := Nat.isDigit_of_mem_toDigits (by omega) (by omega) (Nat.toList_repr ▸ hc)
    rw [heq] at this
    exact absurd this (by decide)
  simp only [List.mem_append, List.mem_cons] at hmem
  rcases hmem with h | h | h | h
  · exact absurd h (by decide)
  · exact absurd h (by decide)
  · exact hdigit _ h rfl
  · exact absurd h (by decide)

/-- The names of the log files: the current log, and the rotated log `p`. -/
def logName : Option Nat → String
  | none => currentName
  | some p => numName p

theorem isName_logName : ∀ o, IsName (logName o)
  | none => isName_currentName
  | some p => isName_numName p

theorem logName_inj : ∀ {o o' : Option Nat}, logName o = logName o' ↔ o = o'
  | none, none => ⟨fun _ => rfl, fun _ => rfl⟩
  | none, some p => ⟨fun h => absurd h.symm (numName_ne_currentName p), fun h => nomatch h⟩
  | some p, none => ⟨fun h => absurd h (numName_ne_currentName p), fun h => nomatch h⟩
  | some p, some p' => by simp [logName, numName_inj]

theorem logName_eq_glob (o : Option Nat) :
    logName o = baseName ++ (match o with | none => "" | some p => "." ++ p.repr) ++ ".log" := by
  cases o <;> simp [logName, currentName, numName, String.append_assoc]

/-- The log's own names among the names `folder-destination*.log`. -/
theorem logName_eq_glob_iff {x : String} {o : Option Nat} :
    logName o = baseName ++ x ++ ".log" ↔ (o = none ∧ x = "") ∨ ∃ p, o = some p ∧ x = "." ++ p.repr := by
  rw [logName_eq_glob, glob_inj]
  cases o <;> simp [eq_comm]

/-- A file the log writes: its content with the default mode. -/
def leaf (c : String) : Kind := .file c newFileMode

/-- The disk `d` is `d₀` with the log files of the directory `L` set: the log file named by
`o` holds `V o` where that is some content, and is missing where it is none. -/
structure Holds (L : Place) (d₀ : Disk) (V : Option Nat → Option String) (d : Disk) : Prop where
  wf : d.Wf
  files : ∀ o, d.get? (L ++ [logName o]) = (V o).map leaf
  frame : ∀ q, (∀ o, ¬ L ++ [logName o] <+: q) → d.get? q = d₀.get? q

section holds

variable {L : Place} {d₀ d : Disk} {V : Option Nat → Option String}

theorem snoc_prefix_snoc_iff {x y : String} : L ++ [x] <+: L ++ [y] ↔ x = y := by
  refine ⟨fun h => ?_, fun h => h ▸ List.prefix_refl _⟩
  have := h.eq_of_length (by simp)
  simpa using this

theorem logPlace_prefix_iff {o o' : Option Nat} :
    L ++ [logName o] <+: L ++ [logName o'] ↔ o = o' := by
  rw [snoc_prefix_snoc_iff, logName_inj]

theorem Holds.dir (h : Holds L d₀ V d) (hL : d₀.get? L = some .dir) : d.get? L = some .dir := by
  rw [h.frame L fun o hp => by simpa using hp.length_le]
  exact hL

theorem Holds.not_dir (h : Holds L d₀ V d) (o : Option Nat) : d.get? (L ++ [logName o]) ≠ some .dir := by
  rw [h.files o]
  cases V o <;> simp [leaf]

theorem Holds.names (h : Holds L d₀ V d) (hL : d.get? L = some .dir) (o : Option Nat) :
    ∀ m ∈ L ++ [logName o], IsName m := by
  intro m hm
  rcases List.mem_append.1 hm with hm | hm
  · exact h.wf.names_of_get? hL m hm
  · rw [List.mem_singleton.1 hm]; exact isName_logName o

/-- Writing a log file sets it and leaves the rest. -/
theorem Holds.put (h : Holds L d₀ V d) (hL : d.get? L = some .dir) (o : Option Nat) (c : String) :
    Holds L d₀ (Function.update V o (some c)) (d.put (L ++ [logName o]) (leaf c)) where
  wf := h.wf.put (by simp) (h.names hL o) (by simpa using hL)
    (.inr fun _ hq => h.wf.none_under (h.not_dir o) hq)
  files := by
    intro o'
    rw [get?_put (by simp)]
    by_cases ho : o' = o
    · subst ho; simp
    · rw [if_neg (fun he => ho (logName_inj.1 (by simpa using he))), h.files o',
        Function.update_of_ne ho]
  frame := by
    intro q hq
    rw [get?_put (by simp), if_neg (fun he => hq o (by rw [he]))]
    exact h.frame q hq

/-- Removing a log file leaves the rest. -/
theorem Holds.removeTree (h : Holds L d₀ V d) (o : Option Nat) :
    Holds L d₀ (Function.update V o none) (d.removeTree (L ++ [logName o])) where
  wf := h.wf.removeTree (by simp)
  files := by
    intro o'
    rw [get?_removeTree (by simp)]
    by_cases ho : o' = o
    · subst ho; simp
    · rw [if_neg (fun hp => ho (logPlace_prefix_iff.1 hp).symm), h.files o',
        Function.update_of_ne ho]
  frame := by
    intro q hq
    rw [get?_removeTree (by simp), if_neg (hq o)]
    exact h.frame q hq

/-- Moving a log file to another log name empties the first and sets the second. -/
theorem Holds.move (h : Holds L d₀ V d) (hL : d.get? L = some .dir) {a b : Option Nat}
    (hab : a ≠ b) {c : String} (ha : V a = some c) :
    Holds L d₀ (Function.update (Function.update V a none) b (some c))
      (d.move (L ++ [logName a]) (L ++ [logName b])) := by
  have hdisj : ¬ L ++ [logName a] <+: L ++ [logName b] ∧ ¬ L ++ [logName b] <+: L ++ [logName a] :=
    ⟨fun hp => hab (logPlace_prefix_iff.1 hp), fun hp => hab (logPlace_prefix_iff.1 hp).symm⟩
  refine ⟨h.wf.move hdisj (by simp) (by simp) (h.names hL b) (by simpa using hL), ?_, ?_⟩
  · intro o
    rw [get?_move hdisj h.wf (by simp) (by simp)]
    by_cases hob : o = b
    · subst hob
      simp [h.files a, ha]
    · rw [if_neg (fun hp => hob (logPlace_prefix_iff.1 hp).symm), Function.update_of_ne hob]
      by_cases hoa : o = a
      · subst hoa
        simp
      · rw [if_neg (fun hp => hoa (logPlace_prefix_iff.1 hp).symm), h.files o,
          Function.update_of_ne hoa]
  · intro q hq
    rw [get?_move hdisj h.wf (by simp) (by simp), if_neg (hq b), if_neg (hq a)]
    exact h.frame q hq

section calls

variable (h : Holds L d₀ V d) (hL : d.get? L = some .dir)
include h hL

theorem Holds.leadsTo : d.LeadsTo L L := leadsTo_self h.wf hL

theorem Holds.exists? (o : Option Nat) : d.exists? (ofPlace (L ++ [logName o])) = (V o).isSome := by
  rw [exists?_child (h.wf.names_of_get? hL) (isName_logName o) (h.leadsTo hL), h.files o]
  · cases V o <;> rfl
  · intro t; rw [h.files o]; cases V o <;> simp [leaf]

theorem Holds.size {o : Option Nat} {c : String} (hv : V o = some c) :
    d.size (ofPlace (L ++ [logName o])) = .ok c.utf8ByteSize :=
  size_child (h.wf.names_of_get? hL) (isName_logName o) (h.leadsTo hL) (by rw [h.files o, hv]; rfl)

theorem Holds.unlink {o : Option Nat} {c : String} (hv : V o = some c) :
    d.unlink (ofPlace (L ++ [logName o])) = .ok (d.removeTree (L ++ [logName o])) :=
  unlink_child (h.wf.names_of_get? hL) (isName_logName o) (h.leadsTo hL) (by rw [h.files o, hv]; rfl)
    (by simp [leaf])

theorem Holds.rename {a b : Option Nat} (hab : a ≠ b) {c : String} (hv : V a = some c) :
    d.rename (ofPlace (L ++ [logName a])) (ofPlace (L ++ [logName b])) =
      .ok (d.move (L ++ [logName a]) (L ++ [logName b])) :=
  rename_child_leaf (h.wf.names_of_get? hL) (isName_logName a) (h.leadsTo hL)
    (h.wf.names_of_get? hL) (isName_logName b) (h.leadsTo hL) (by rw [h.files a, hv]; rfl)
    (by simp [leaf]) (h.not_dir b) (fun he => hab (logName_inj.1 (by simpa using he)))

theorem Holds.putFile_some {o : Option Nat} {c : String} (hv : V o = some c) (text : String) :
    d.putFile (ofPlace (L ++ [logName o])) text true =
      .ok (d.put (L ++ [logName o]) (leaf (c ++ text))) :=
  putFile_child_file (h.wf.names_of_get? hL) (isName_logName o) (h.leadsTo hL)
    (by rw [h.files o, hv]; rfl) text

theorem Holds.putFile_none {o : Option Nat} (hv : V o = none) (text : String) :
    d.putFile (ofPlace (L ++ [logName o])) text true = .ok (d.put (L ++ [logName o]) (leaf text)) :=
  putFile_child_none (h.wf.names_of_get? hL) (isName_logName o) (h.leadsTo hL)
    (by rw [h.files o, hv]; rfl) text true

end calls

end holds

section paths

variable {l : Logger} {L : Place} (hdir : l.logDir = ofPlace L) (hLn : ∀ m ∈ L, IsName m)
include hdir hLn

theorem logFile_eq : l.logFile = ofPlace (L ++ [logName none]) := by
  rw [logFile, hdir]
  exact join_ofPlace hLn isName_currentName

/-- A count written as its decimal digits names the rotated log of that number. -/
theorem numbered_eq_of_toText {p : Nat} (ht : (Double.ofNat p).toText = p.repr) :
    l.numbered (Double.ofNat p) = ofPlace (L ++ [logName (some p)]) := by
  rw [numbered, hdir, ht]
  exact join_ofPlace hLn (isName_numName p)

theorem numbered_eq {p : Nat} (hp : p < 2 ^ 53) :
    l.numbered (Double.ofNat p) = ofPlace (L ++ [logName (some p)]) :=
  numbered_eq_of_toText hdir hLn (Double.toText_ofNat hp)

end paths

/-- The log files while the shift is at `i`, counting down from `N - 1`: the rotated logs up
to `i` as in `V`, none at `i + 1`, and those above it moved up by one, up to `N - 1`. -/
def shifted (V : Option Nat → Option String) (N i : Nat) : Option Nat → Option String
  | none => V none
  | some p => if p ≤ i then V (some p) else if p = i + 1 then none
    else if p < N then V (some (p - 1)) else none

section shifted

variable {V : Option Nat → Option String} {N i : Nat}

theorem shifted_at : shifted V N (i + 1) (some (i + 1)) = V (some (i + 1)) := by
  simp [shifted]

/-- Where `.(i+1).log` is missing there is nothing to move. -/
theorem shifted_skip (hv : V (some (i + 1)) = none) : shifted V N (i + 1) = shifted V N i := by
  funext o
  cases o with
  | none => rfl
  | some p =>
    obtain hp | rfl | rfl | hp : p ≤ i ∨ p = i + 1 ∨ p = i + 2 ∨ i + 2 < p := by omega
    · simp [shifted, hp, show p ≤ i + 1 by omega]
    · simp [shifted, hv]
    · by_cases hN : i + 2 < N <;> simp [shifted, hN, hv]
    · simp [shifted, show ¬ p ≤ i + 1 by omega, show p ≠ i + 2 by omega, show ¬ p ≤ i by omega,
        show p ≠ i + 1 by omega]

/-- At the last rotated log that is kept, `.(i+1).log` is deleted. -/
theorem shifted_unlink (hN : N = i + 2) :
    Function.update (shifted V N (i + 1)) (some (i + 1)) none = shifted V N i := by
  funext o
  cases o with
  | none => rfl
  | some p =>
    obtain hp | rfl | hp : p ≤ i ∨ p = i + 1 ∨ i + 1 < p := by omega
    · simp [shifted, hp, show p ≤ i + 1 by omega, show p ≠ i + 1 by omega]
    · simp [shifted]
    · simp [shifted, show p ≠ i + 1 by omega, show ¬ p ≤ i + 1 by omega, show ¬ p ≤ i by omega,
        show ¬ p < N by omega]

/-- Below the last kept one, `.(i+1).log` moves up to `.(i+2).log`. -/
theorem shifted_rename (hN : i + 2 < N) :
    Function.update (Function.update (shifted V N (i + 1)) (some (i + 1)) none) (some (i + 2))
      (V (some (i + 1))) = shifted V N i := by
  funext o
  cases o with
  | none => rfl
  | some p =>
    obtain hp | rfl | rfl | hp : p ≤ i ∨ p = i + 1 ∨ p = i + 2 ∨ i + 2 < p := by omega
    · simp [shifted, hp, show p ≤ i + 1 by omega, show p ≠ i + 1 by omega, show p ≠ i + 2 by omega]
    · simp [shifted]
    · simp [shifted, hN]
    · simp [shifted, show p ≠ i + 1 by omega, show p ≠ i + 2 by omega, show ¬ p ≤ i + 1 by omega,
        show ¬ p ≤ i by omega]

/-- Before the shift starts, with no rotated log at `N` or above, nothing has moved. -/
theorem shifted_top (hV : ∀ p, N ≤ p → V (some p) = none) (hN : 1 ≤ N) :
    shifted V N (N - 1) = V := by
  funext o
  cases o with
  | none => rfl
  | some p =>
    by_cases hp : p ≤ N - 1
    · simp [shifted, hp]
    · simp [shifted, hp, show ¬ p < N by omega, hV p (by omega)]

end shifted

/-- The shift stops at once when it is at `.0.log`. -/
theorem shift_zero (l : Logger) (m : Double) (fuel : Nat) (d : Disk) :
    l.shift m (fuel + 1) (Double.ofNat 0) d = .ok d := by
  have hstop : (Double.zero false).lt (Double.ofNat 0) = false := by
    rw [← Double.ofNat_zero, (Double.isNat_ofNat (by omega)).lt (Double.isNat_ofNat (by omega))]
    rfl
  simp [shift, hstop]

/-- Where taking one away leaves the counter where it is, the shift stops for good in its first
round, once that round's file step has gone through. -/
theorem shift_stalls (l : Logger) (m : Double) (fuel : Nat) {i : Double} {d : Disk}
    (hgo : (Double.zero false).lt i = true) (hdown : (i.sub (Double.ofNat 1)).lt i = false)
    (hex : d.exists? (l.numbered i) = false) :
    l.shift m (fuel + 1) i d = .error (.stalled ("rotating " ++ l.numbered i)) := by
  simp [shift, hgo, hex, hdown, pure, bind, Except.pure, Except.bind, throw, throwThe,
    MonadExceptOf.throw]

section shift

variable {l : Logger} {L : Place} {d₀ : Disk} {V : Option Nat → Option String} {N : Nat}
  (hdir : l.logDir = ofPlace L) (hL : d₀.get? L = some .dir) (hN : N < 2 ^ 53)
include hdir hL hN

/-- The shift loop from `.i.log` down to `.1.log` leaves the rotated logs as `shifted V N 0`. -/
theorem shift_holds : ∀ (i fuel : Nat) (d : Disk), i < N → i + 1 ≤ fuel →
    Holds L d₀ (shifted V N i) d →
    ∃ d', l.shift (Double.ofNat N) fuel (Double.ofNat i) d = .ok d' ∧
      Holds L d₀ (shifted V N 0) d'
  | 0, fuel + 1, d, _, _, h => ⟨d, shift_zero l _ fuel d, h⟩
  | i + 1, fuel + 1, d, hi, hf, h => by
    have hLd := h.dir hL
    have hLn := h.wf.names_of_get? hLd
    have hgo : (Double.zero false).lt (Double.ofNat (i + 1)) = true := by
      rw [← Double.ofNat_zero, (Double.isNat_ofNat (by omega)).lt (Double.isNat_ofNat (by omega))]
      simp
    have hnext : (Double.ofNat (i + 1)).add (Double.ofNat 1) = Double.ofNat (i + 2) :=
      (Double.isNat_ofNat (by omega)).add (Double.isNat_ofNat (by omega))
    have hprev : (Double.ofNat (i + 1)).sub (Double.ofNat 1) = Double.ofNat i :=
      (Double.isNat_ofNat (by omega)).sub (Double.isNat_ofNat (by omega)) (by omega)
    have hlast : (Double.ofNat N).le (Double.ofNat (i + 2)) = decide (N ≤ i + 2) :=
      (Double.isNat_ofNat hN).le (Double.isNat_ofNat (by omega))
    -- below `2^53` taking one away moves the counter, so the loop never stalls
    have hdown : (Double.ofNat i).lt (Double.ofNat (i + 1)) = true := by
      rw [(Double.isNat_ofNat (by omega)).lt (Double.isNat_ofNat (by omega))]
      simp
    simp only [shift, hgo, Bool.not_true, Bool.false_eq_true, ↓reduceIte, hnext, hprev, hlast, hdown,
      numbered_eq hdir hLn (show i + 1 < 2 ^ 53 by omega), numbered_eq hdir hLn (show i + 2 < 2 ^ 53 by omega),
      h.exists? hLd, shifted_at]
    cases hv : V (some (i + 1)) with
    | none =>
      simp only [Option.isSome_none, Bool.false_eq_true, ↓reduceIte, pure_bind]
      exact shift_holds i fuel d (by omega) (by omega) (shifted_skip hv ▸ h)
    | some c =>
      have hc : shifted V N (i + 1) (some (i + 1)) = some c := by rw [shifted_at, hv]
      simp only [Option.isSome_some, ↓reduceIte]
      by_cases hend : N ≤ i + 2
      · -- `.(i+1).log` is the last one kept: it is deleted
        have h' := h.removeTree (some (i + 1))
        rw [shifted_unlink (by omega)] at h'
        simp only [hend, decide_true, ↓reduceIte, h.unlink hLd hc, Except.mapError, bind, Except.bind]
        exact shift_holds i fuel _ (by omega) (by omega) h'
      · have h' := h.move hLd (b := some (i + 2)) (by simp) hc
        have hstep := shifted_rename (V := V) (N := N) (i := i) (by omega)
        rw [hv] at hstep
        rw [hstep] at h'
        simp only [hend, decide_false, Bool.false_eq_true, ↓reduceIte, h.rename hLd (b := some (i + 2)) (by simp) hc,
          Except.mapError, bind, Except.bind]
        exact shift_holds i fuel _ (by omega) (by omega) h'

end shift

/-- The log files after a rotation at `N` kept files: the current log has become `.1.log`, and
below `N` the rotated ones have moved up by one. -/
def rotatedView (V : Option Nat → Option String) (N : Nat) (c : String) : Option Nat → Option String :=
  Function.update (Function.update (if N = 1 then V else shifted V N 0) none none) (some 1) (some c)

section rotate

variable {l : Logger} {L : Place} {d₀ d : Disk} {V : Option Nat → Option String}
  (hdir : l.logDir = ofPlace L) (hL : d₀.get? L = some .dir) (h : Holds L d₀ V d)
include hdir hL h

/-- With no current log there is nothing to rotate. -/
theorem rotate_missing (hv : V none = none) : l.rotate d = .ok d := by
  have hLd := h.dir hL
  simp [rotate, logFile_eq hdir (h.wf.names_of_get? hLd), h.exists? hLd, hv, pure, Except.pure]

/-- Below the size limit nothing rotates. -/
theorem rotate_below {c : String} (hv : V none = some c)
    (hlt : (Double.ofNat c.utf8ByteSize).lt l.maxLogSize = true) : l.rotate d = .ok d := by
  have hLd := h.dir hL
  simp [rotate, logFile_eq hdir (h.wf.names_of_get? hLd), h.exists? hLd, hv, h.size hLd hv, hlt,
    Except.mapError, bind, Except.bind, pure, Except.pure]

/-- From the size limit on, the log rotates. -/
theorem rotate_full {N : Nat} {c : String} (hv : V none = some c)
    (hlt : (Double.ofNat c.utf8ByteSize).lt l.maxLogSize = false)
    (hfiles : l.maxLogFiles = .ok (Double.ofNat N)) (hN : 0 < N) (hN' : N < 2 ^ 53)
    (hV : 2 ≤ N → ∀ p, N ≤ p → V (some p) = none) :
    ∃ d', l.rotate d = .ok d' ∧ Holds L d₀ (rotatedView V N c) d' := by
  have hLd := h.dir hL
  have hLn := h.wf.names_of_get? hLd
  have hm := Double.isNat_ofNat hN'
  have hsteps : (if (Double.ofNat N).isFinite then (Double.ofNat N).truncate.toNat + 2 else 1) =
      N + 2 := by
    rw [hm.isFinite, hm.truncate, if_pos rfl]
    simp
  have hstart : (Double.ofNat N).sub (Double.ofNat 1) = Double.ofNat (N - 1) :=
    hm.sub (Double.isNat_ofNat (by omega)) (by omega)
  simp only [rotate, logFile_eq hdir hLn, h.exists? hLd, hv, h.size hLd hv, hlt, hfiles, hsteps,
    hstart, Option.isSome_some, Bool.not_true, Bool.false_eq_true, ↓reduceIte, Except.mapError,
    bind, Except.bind]
  -- with one file kept the shift starts at `.0.log` and moves nothing
  have hshift : ∃ d₁, l.shift (Double.ofNat N) (N + 2) (Double.ofNat (N - 1)) d = .ok d₁ ∧
      Holds L d₀ (if N = 1 then V else shifted V N 0) d₁ := by
    by_cases h1 : N = 1
    · subst h1
      exact ⟨d, shift_zero l _ 2 d, by simpa using h⟩
    · rw [if_neg h1]
      exact shift_holds hdir hL hN' (N - 1) (N + 2) d (by omega) (by omega)
        (by rw [shifted_top (hV (by omega)) (by omega)]; exact h)
  obtain ⟨d₁, hd₁, h₁⟩ := hshift
  have hc₁ : (if N = 1 then V else shifted V N 0) none = some c := by
    split
    · exact hv
    · simpa [shifted] using hv
  have hLd₁ := h₁.dir hL
  rw [hd₁]
  simp only [numbered_eq hdir hLn (show 1 < 2 ^ 53 by omega),
    h₁.rename hLd₁ (b := some 1) (by simp) hc₁]
  exact ⟨_, rfl, h₁.move hLd₁ (by simp) hc₁⟩

/-- Keeping `m` files, where `m - 1` is a count `p` that taking one away leaves where it is, a
full log never finishes rotating: with no `.p.log` there, the shift stops for good in its first
round. -/
theorem rotate_stalls {c : String} {m : Double} {p : Nat} (hv : V none = some c)
    (hlt : (Double.ofNat c.utf8ByteSize).lt l.maxLogSize = false)
    (hfiles : l.maxLogFiles = .ok m) (hstart : m.sub (Double.ofNat 1) = Double.ofNat p)
    (htext : (Double.ofNat p).toText = p.repr) (hgo : (Double.zero false).lt (Double.ofNat p) = true)
    (hdown : ((Double.ofNat p).sub (Double.ofNat 1)).lt (Double.ofNat p) = false)
    (hfree : V (some p) = none) :
    l.rotate d = .error (.stalled ("rotating " ++ l.numbered (Double.ofNat p))) := by
  have hLd := h.dir hL
  have hLn := h.wf.names_of_get? hLd
  have hex : d.exists? (l.numbered (Double.ofNat p)) = false := by
    rw [numbered_eq_of_toText hdir hLn htext, h.exists? hLd, hfree]
    rfl
  -- the shift is given at least one round, whether or not `m` is finite
  obtain ⟨fuel, hfuel⟩ : ∃ fuel, (if m.isFinite then m.truncate.toNat + 2 else 1) = fuel + 1 := by
    split
    · exact ⟨_, rfl⟩
    · exact ⟨0, rfl⟩
  simp only [rotate, logFile_eq hdir hLn, h.exists? hLd, hv, h.size hLd hv, hlt, hfiles, hfuel,
    hstart, shift_stalls l m fuel hgo hdown hex, Option.isSome_some, Bool.not_true,
    Bool.false_eq_true, ↓reduceIte, Except.mapError, bind, Except.bind]

end rotate

namespace Rotation

/-- The log files a state of the rule describes: the current log's records written out, and
the rotated logs' at their numbers from 1. -/
def view (s : Rotation) : Option Nat → Option String
  | none => if s.current = [] then none else some (String.join s.current)
  | some 0 => none
  | some (p + 1) => s.rotated[p]?.map String.join

/-- A write that does not rotate extends or starts the current log. -/
theorem view_extend (cur : List String) (rot : List (List String)) (count : Nat) (r : String) :
    (⟨cur ++ [r], rot, count⟩ : Rotation).view =
      Function.update (⟨cur, rot, count⟩ : Rotation).view none
        (some ((if cur = [] then "" else String.join cur) ++ r)) := by
  funext o
  cases o with
  | none => by_cases hc : cur = [] <;> simp [view, hc]
  | some p => cases p <;> simp [view]

/-- A write that rotates: the current log becomes `.1.log`, the rotated ones move up by one
and those past `max 1 (N - 1)` are gone, and the record starts a new current log. -/
theorem view_rotate {cur : List String} {rot : List (List String)} {N : Nat} (hN : 0 < N)
    (hlen : rot.length ≤ max 1 (N - 1)) (count : Nat) (r : String) :
    Function.update (rotatedView (⟨cur, rot, count⟩ : Rotation).view N (String.join cur)) none
        (some r) = (⟨[r], (cur :: rot).take (max 1 (N - 1)), count + 1⟩ : Rotation).view := by
  funext o
  cases o with
  | none => simp [view]
  | some p =>
    rw [Function.update_of_ne (by simp)]
    match p with
    | 0 => by_cases h1 : N = 1 <;> simp [rotatedView, view, shifted, h1]
    | 1 => simp [rotatedView, view]
    | p + 2 =>
      by_cases h1 : N = 1
      · subst h1
        have : rot[p + 1]? = none := List.getElem?_eq_none (by simp at hlen; omega)
        simp [rotatedView, view, this]
      · simp only [rotatedView, view, h1, ↓reduceIte]
        rw [Function.update_of_ne (by simp), Function.update_of_ne (by simp), List.getElem?_take]
        by_cases hp : p + 2 < N
        · simp [shifted, view, hp, show p + 1 < max 1 (N - 1) by omega]
        · simp [shifted, hp, show ¬ p + 1 < max 1 (N - 1) by omega]

theorem isSome_view_some (s : Rotation) (p : Nat) :
    (s.view (some p)).isSome ↔ 1 ≤ p ∧ p ≤ s.rotated.length := by
  rcases p with _ | p
  · simp [view]
  · simp only [view, Option.isSome_map, Option.isSome_iff_ne_none, ne_eq, List.getElem?_eq_none_iff]
    omega

end Rotation

/-- A directory with no `folder-destination*.log` file holds none of the log's files. -/
theorem holds_start {L : Place} {d₀ : Disk} (hwf : d₀.Wf)
    (hfresh : ∀ x, d₀.get? (L ++ [baseName ++ x ++ ".log"]) = none) :
    Holds L d₀ Rotation.empty.view d₀ where
  wf := hwf
  files := by
    intro o
    rw [logName_eq_glob, hfresh]
    rcases o with _ | _ | p <;> rfl
  frame := fun _ _ => rfl

section log

variable {l : Logger} {L : Place} {d₀ : Disk} {N : Nat}
  (hdir : l.logDir = ofPlace L) (hL : d₀.get? L = some .dir)
  (hfiles : l.maxLogFiles = .ok (Double.ofNat N)) (hN : 0 < N) (hN' : N < 2 ^ 53)
include hdir hL hfiles hN hN'

/-- One message logged: the log files move as the rule writes the message's line. -/
theorem log_holds {s : Rotation} {d : Disk} (hlen : s.rotated.length ≤ max 1 (N - 1))
    (h : Holds L d₀ s.view d) (level : Level) (message stamp : String) :
    ∃ d', l.log level message stamp d = .ok d' ∧
      Holds L d₀ (s.write l.maxLogSize (max 1 (N - 1)) (line level message stamp)).view d' := by
  obtain ⟨cur, rot, count⟩ := s
  have hLd := h.dir hL
  have hLn := h.wf.names_of_get? hLd
  set r := line level message stamp
  by_cases hcur : cur = []
  · -- no current log yet: nothing rotates, and the line starts one
    subst hcur
    have hv : (⟨[], rot, count⟩ : Rotation).view none = none := rfl
    have hview : (⟨[r], rot, count⟩ : Rotation).view =
        Function.update (⟨[], rot, count⟩ : Rotation).view none (some r) := by
      simpa using Rotation.view_extend [] rot count r
    have h' := h.put hLd none r
    rw [← hview] at h'
    simp only [log, rotate_missing hdir hL h hv, logFile_eq hdir hLn, h.putFile_none hLd hv,
      Except.mapError, bind, Except.bind]
    exact ⟨_, rfl, by simpa [Rotation.write] using h'⟩
  have hv : (⟨cur, rot, count⟩ : Rotation).view none = some (String.join cur) := by
    simp [Rotation.view, hcur]
  by_cases hbelow : (Double.ofNat (String.join cur).utf8ByteSize).lt l.maxLogSize = true
  · -- below the limit: the line extends the current log
    have hview : (⟨cur ++ [r], rot, count⟩ : Rotation).view =
        Function.update (⟨cur, rot, count⟩ : Rotation).view none (some (String.join cur ++ r)) := by
      simpa [hcur] using Rotation.view_extend cur rot count r
    have h' := h.put hLd none (String.join cur ++ r)
    rw [← hview] at h'
    simp only [log, rotate_below hdir hL h hv hbelow, logFile_eq hdir hLn, h.putFile_some hLd hv,
      Except.mapError, bind, Except.bind]
    exact ⟨_, rfl, by simpa [Rotation.write, Rotation.reached, hbelow] using h'⟩
  · -- at the limit: the log rotates, and the line starts a new current log
    have hV : 2 ≤ N → ∀ p, N ≤ p → (⟨cur, rot, count⟩ : Rotation).view (some p) = none := by
      intro h2 p hp
      obtain ⟨q, rfl⟩ : ∃ q, p = q + 1 := ⟨p - 1, by omega⟩
      simp only [Rotation.view, Option.map_eq_none_iff]
      exact List.getElem?_eq_none (by simp at hlen; omega)
    obtain ⟨d₁, hd₁, h₁⟩ := rotate_full hdir hL h hv (by simpa using hbelow) hfiles hN hN' hV
    have hnone : rotatedView (⟨cur, rot, count⟩ : Rotation).view N (String.join cur) none = none := by
      simp [rotatedView]
    have hLd₁ := h₁.dir hL
    have h' := h₁.put hLd₁ none r
    rw [Rotation.view_rotate hN hlen] at h'
    simp only [log, hd₁, logFile_eq hdir hLn, h₁.putFile_none hLd₁ hnone, Except.mapError, bind,
      Except.bind]
    exact ⟨_, rfl, by simpa [Rotation.write, Rotation.reached, hcur, hbelow] using h'⟩

/-- Any sequence of messages logged: the log files are those the rule gives for their lines. -/
theorem logs_holds (calls : List (Level × String × String)) :
    ∀ (s : Rotation) (d : Disk), s.rotated.length ≤ max 1 (N - 1) → Holds L d₀ s.view d →
      ∃ d', calls.foldlM (fun d c => l.log c.1 c.2.1 c.2.2 d) d = .ok d' ∧
        Holds L d₀ ((calls.map fun c => line c.1 c.2.1 c.2.2).foldl
          (Rotation.write l.maxLogSize (max 1 (N - 1))) s).view d' := by
  induction calls with
  | nil => exact fun s d _ h => ⟨d, rfl, h⟩
  | cons c calls ih =>
    intro s d hlen h
    obtain ⟨d₁, hd₁, h₁⟩ := log_holds hdir hL hfiles hN hN' hlen h c.1 c.2.1 c.2.2
    -- the rule never keeps more than `max 1 (N - 1)` rotated logs
    have hlen₁ : (s.write l.maxLogSize (max 1 (N - 1)) (line c.1 c.2.1 c.2.2)).rotated.length ≤
        max 1 (N - 1) := by
      unfold Rotation.write
      split
      · exact List.length_take_le _ _
      · exact hlen
    obtain ⟨d₂, hd₂, h₂⟩ := ih _ d₁ hlen₁ h₁
    exact ⟨d₂, by rw [List.foldlM_cons, hd₁]; exact hd₂, by simpa using h₂⟩

end log

/-- The lines of a sequence of messages `(level, message, time)`. -/
def lines (calls : List (Level × String × String)) : List String :=
  calls.map fun c => line c.1 c.2.1 c.2.2

/-- The log files the rotation rule gives for the messages `calls`, rotating at the size limit
of `l` and keeping `max 1 (N - 1)` rotated logs. -/
def ruled (l : Logger) (N : Nat) (calls : List (Level × String × String)) : Rotation :=
  (lines calls).foldl (Rotation.write l.maxLogSize (max 1 (N - 1))) Rotation.empty

/-- What the directory `L` holds after the messages `calls`, started from `d₀`: the files
named `folder-destination*.log` are the current log and `.1.log` up to `.j.log` with no gap,
`j` the smaller of the number of rotations and `max 1 (N - 1)`; they hold what the rotation
rule gives (`Rotation.Sound`: a contiguous suffix of the lines, each whole and once, every
rotated log at least at the size limit); and nothing else on the disk has changed. -/
structure Logged (l : Logger) (L : Place) (d₀ : Disk) (N : Nat)
    (calls : List (Level × String × String)) (d : Disk) : Prop where
  present : ∀ x, (d.get? (L ++ [baseName ++ x ++ ".log"])).isSome ↔
    x = "" ∨ ∃ p, 1 ≤ p ∧ p ≤ min (ruled l N calls).count (max 1 (N - 1)) ∧ x = "." ++ p.repr
  current : d.get? (L ++ [currentName]) = some (leaf (String.join (ruled l N calls).current))
  numbered : ∀ p, d.get? (L ++ [numName (p + 1)]) =
    (ruled l N calls).rotated[p]?.map fun f => leaf (String.join f)
  sound : Rotation.Sound l.maxLogSize (max 1 (N - 1)) (lines calls) (ruled l N calls)
  nonempty : (ruled l N calls).current ≠ []
  frame : ∀ q, (∀ x, ¬ L ++ [baseName ++ x ++ ".log"] <+: q) → d.get? q = d₀.get? q

/-- Log rotation loses, duplicates and reorders no record: started in a log directory with no
`folder-destination*.log` file and keeping `N < 2^53` files, any nonempty sequence of messages
is logged, and leaves the log files that the rotation rule gives for their lines. -/
theorem rotation_keeps_records {l : Logger} {L : Place} {d₀ : Disk} {N : Nat} (hwf : d₀.Wf)
    (hL : d₀.get? L = some .dir) (hdir : l.logDir = ofPlace L)
    (hfiles : l.maxLogFiles = .ok (Double.ofNat N)) (hN : 0 < N) (hN' : N < 2 ^ 53)
    (hfresh : ∀ x, d₀.get? (L ++ [baseName ++ x ++ ".log"]) = none)
    (calls : List (Level × String × String)) (hk : calls ≠ []) :
    ∃ d, calls.foldlM (fun d c => l.log c.1 c.2.1 c.2.2 d) d₀ = .ok d ∧ Logged l L d₀ N calls d := by
  obtain ⟨d, hrun, hd⟩ := logs_holds hdir hL hfiles hN hN' calls Rotation.empty d₀
    (by simp [Rotation.empty]) (holds_start hwf hfresh)
  have hsound : Rotation.Sound l.maxLogSize (max 1 (N - 1)) (lines calls) (ruled l N calls) :=
    Rotation.sound_writes (lines calls)
  have hcur : (ruled l N calls).current ≠ [] := hsound.current (by simpa [lines] using hk)
  -- every log file is there exactly as the rule's view says
  have hfile : ∀ o, d.get? (L ++ [logName o]) = ((ruled l N calls).view o).map leaf := hd.files
  refine ⟨d, hrun, ⟨?_, ?_, ?_, hsound, hcur, ?_⟩⟩
  · intro x
    by_cases hlog : ∃ o, logName o = baseName ++ x ++ ".log"
    · obtain ⟨o, ho⟩ := hlog
      rw [← ho, hfile, Option.isSome_map]
      rcases logName_eq_glob_iff.1 ho with ⟨rfl, rfl⟩ | ⟨p, rfl, rfl⟩
      · simp [Rotation.view, hcur]
      · rw [Rotation.isSome_view_some, hsound.length]
        simp only [dot_repr_ne_empty, false_or, dot_repr_inj]
        constructor
        · rintro ⟨h1, h2⟩; exact ⟨p, h1, h2, rfl⟩
        · rintro ⟨q, h1, h2, rfl⟩; exact ⟨h1, h2⟩
    · -- not a name of the log: as at the start, where no such file was
      simp only [not_exists] at hlog
      rw [hd.frame _ (fun o hp => hlog o (by simpa using snoc_prefix_snoc_iff.1 hp)), hfresh]
      simp only [Option.isSome_none, Bool.false_eq_true, false_iff, not_or, not_exists, not_and]
      exact ⟨fun hx => hlog none (by simp [logName_eq_glob, hx]),
        fun p _ _ hx => hlog (some p) (by simp [logName_eq_glob, hx])⟩
  · simpa [Rotation.view, hcur, logName] using hfile none
  · intro p
    simpa [Rotation.view, logName, Function.comp_def] using hfile (some (p + 1))
  · intro q hq
    exact hd.frame q fun o hp => hq _ (by rw [← logName_eq_glob]; exact hp)

/-- Three messages at a limit of one byte, keeping two files: the log rotates twice, past the one
rotated log it keeps, so `.1.log` holds the second message, the current log the third, and the
first is gone. -/
theorem rotation_past_kept_files :
    ∃ d, [(Level.info, "a", "t"), (Level.info, "b", "t"), (Level.info, "c", "t")].foldlM
        (fun d c => (⟨ofPlace ["logs"], Double.ofNat 1, .ok (Double.ofNat 2)⟩ : Logger).log
          c.1 c.2.1 c.2.2 d) ⟨[(["logs"], .dir)]⟩ = .ok d ∧
      d.get? ["logs", currentName] = some (leaf (line .info "c" "t")) ∧
      d.get? ["logs", numName 1] = some (leaf (line .info "b" "t")) ∧
      d.get? ["logs", numName 2] = none := by
  have hwf : (⟨[(["logs"], .dir)]⟩ : Disk).Wf := ⟨by decide, by decide, by decide, by decide⟩
  have hfresh : ∀ x, (⟨[(["logs"], .dir)]⟩ : Disk).get? (["logs"] ++ [baseName ++ x ++ ".log"]) =
      none := by
    intro x
    rw [get?_of_ne_nil (by simp), List.lookup_cons, List.lookup_nil]
    simp
  obtain ⟨d, hrun, hlog⟩ := rotation_keeps_records (N := 2)
    (l := ⟨ofPlace ["logs"], Double.ofNat 1, .ok (Double.ofNat 2)⟩) (L := ["logs"]) hwf (by decide)
    rfl rfl (by decide) (by decide) hfresh
    [(Level.info, "a", "t"), (Level.info, "b", "t"), (Level.info, "c", "t")] (by simp)
  -- the rule rotates at the second and the third message, keeping one rotated log
  have hruled : ruled ⟨ofPlace ["logs"], Double.ofNat 1, .ok (Double.ofNat 2)⟩ 2
      [(Level.info, "a", "t"), (Level.info, "b", "t"), (Level.info, "c", "t")] =
        ⟨[line .info "c" "t"], [[line .info "b" "t"]], 2⟩ := by
    decide +kernel
  have hcur := hlog.current
  have hone := hlog.numbered 0
  have htwo := hlog.numbered 1
  rw [hruled] at hcur hone htwo
  exact ⟨d, hrun, by simpa using hcur, by simpa using hone, by simpa using htwo⟩

/-- Keeping `2^54` files the log stalls. `2^54 - 1` rounds to `2^54` in doubles, so the shift
starts there and taking one away no longer moves its counter: the second of two messages, finding
the first at the size limit of one byte, never finishes rotating. -/
theorem rotation_stalls_at_two_pow_54 :
    ∃ what, [(Level.info, "a", "t"), (Level.info, "b", "t")].foldlM
        (fun d c => (⟨ofPlace ["logs"], Double.ofNat 1, .ok (Double.ofNat (2 ^ 54))⟩ : Logger).log
          c.1 c.2.1 c.2.2 d) (⟨[(["logs"], .dir)]⟩ : Disk) = .error (.stalled what) := by
  set l : Logger := ⟨ofPlace ["logs"], Double.ofNat 1, .ok (Double.ofNat (2 ^ 54))⟩
  set d₀ : Disk := ⟨[(["logs"], .dir)]⟩
  have hwf : d₀.Wf := ⟨by decide, by decide, by decide, by decide⟩
  have hL : d₀.get? ["logs"] = some .dir := by decide
  have hLn : ∀ m ∈ ["logs"], IsName m := by decide
  have hfresh : ∀ x, d₀.get? (["logs"] ++ [baseName ++ x ++ ".log"]) = none := by
    intro x
    rw [get?_of_ne_nil (by simp), List.lookup_cons, List.lookup_nil]
    simp
  have h₀ := holds_start hwf hfresh
  -- the first message starts the log
  have hv₀ : Rotation.empty.view none = none := rfl
  have hfirst : l.log .info "a" "t" d₀ =
      .ok (d₀.put (["logs"] ++ [logName none]) (leaf (line .info "a" "t"))) := by
    simp only [log, rotate_missing (l := l) rfl hL h₀ hv₀, logFile_eq (l := l) rfl hLn,
      h₀.putFile_none hL hv₀, Except.mapError, bind, Except.bind]
  have h₁ := h₀.put hL none (line .info "a" "t")
  -- the second finds it at the limit, and its rotation stalls
  have hsecond := rotate_stalls (l := l) (c := line .info "a" "t") (m := Double.ofNat (2 ^ 54))
    (p := 2 ^ 54) rfl hL h₁ (by simp) (by decide +kernel) rfl (by decide +kernel)
    (by decide +kernel) (by decide +kernel) (by decide +kernel) (by simp [Rotation.empty, Rotation.view])
  refine ⟨"rotating " ++ l.numbered (Double.ofNat (2 ^ 54)), ?_⟩
  rw [List.foldlM_cons, hfirst]
  simp only [bind, Except.bind, List.foldlM_cons, log, hsecond]

end Logger

end FolderSink
