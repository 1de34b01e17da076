import FolderSink.Tree.Ops
import FolderSink.Proofs.Disk.Calls
/-!
Single steps of the tree operations, run on a host. A step on an entry of a directory that a
path leads to acts on that entry only; the lemmas here say what each step returns and what
the disk is afterwards, by the kind of entry found:

* `readEntries_run`, `lstatOrNull_run`: the children of the directory, the kind of the entry;
* `ensureDir_run_dir`, `ensureDir_run_new`, `ensureDir_run_link`, `ensureDir_run_other`: a
  directory stays, is made where nothing is, replaces a link, and a file refuses it;
* `copyLeaf_run_file`, `copyLeaf_run_link` and the `_dir` and `_fifo` variants: a file or a link is laid
  over anything but a directory, and a file copied onto a FIFO waits for a reader for good.

Failures are told apart by kind (`Failure.IsIO`, `Failure.IsFault`): `FailsBy` says which kinds a
piece of work can stop with from any host, `FailsWith` which kind one run stops with and what
it leaves.
-/

namespace FolderSink

namespace Failure

/-- A failed call on the file system. -/
def IsIO (e : Failure) : Prop := ∃ op p detail errno, e = .io op p detail errno

/-- Work that stopped for good, on a call that never returns. -/
def IsStall (e : Failure) : Prop := ∃ what, e = .stalled what

/-- A fault of the file system: a call that fails, or one that never returns. -/
def IsFault (e : Failure) : Prop := e.IsIO ∨ e.IsStall

theorem IsIO.name {e : Failure} (he : e.IsIO) : e.name = "IOFailure" := by
  obtain ⟨op, p, detail, errno, rfl⟩ := he
  rfl

end Failure

namespace Act

variable {α β : Type} (h : Host)

theorem run_bind (x : Act α) (f : α → Act β) :
    (x >>= f).run.run h = match x.run.run h with
      | (.ok a, h') => (f a).run.run h'
      | (.error e, h') => (.error e, h') := by
  simp only [ExceptT.run_bind, StateT.run_bind]
  rcases x.run.run h with ⟨_ | a, h'⟩ <;> rfl

variable {h}

theorem run_bind_ok {x : Act α} {f : α → Act β} {a : α} {h' : Host}
    (hx : x.run.run h = (.ok a, h')) : (x >>= f).run.run h = (f a).run.run h' := by
  rw [run_bind, hx]

theorem run_bind_error {x : Act α} {f : α → Act β} {e : Failure} {h' : Host}
    (hx : x.run.run h = (.error e, h')) : (x >>= f).run.run h = (.error e, h') := by
  rw [run_bind, hx]

@[simp] theorem run_pure (a : α) : (pure a : Act α).run.run h = (.ok a, h) := rfl

@[simp] theorem run_throw (e : Failure) : (throw e : Act α).run.run h = (.error e, h) := rfl

@[simp] theorem run_say (level : Level) (message : String) :
    (say level message).run.run h = (.ok (), { h with console := h.console.say level message }) :=
  rfl

@[simp] theorem run_disk : disk.run.run h = (.ok h.disk, h) := rfl

theorem run_ask_ok {op : Operation} {p : String} {q : Disk → Except SysError α} {a : α}
    (hq : q h.disk = .ok a) : (ask op p q).run.run h = (.ok a, h) := by
  unfold ask
  rw [run_bind, run_disk]
  dsimp only
  rw [hq]
  rfl

theorem run_change_ok {op : Operation} {p : String} {f : Disk → Except SysError Disk} {d : Disk}
    (hf : f h.disk = .ok d) : (change op p f).run.run h = (.ok (), { h with disk := d }) := by
  unfold change
  rw [run_bind, run_disk]
  dsimp only
  rw [hf]
  rfl

theorem run_change_error {op : Operation} {p : String} {f : Disk → Except SysError Disk}
    {e : SysError} (hf : f h.disk = .error e) :
    (change op p f).run.run h = (.error (ioFailure op p e), h) := by
  unfold change
  rw [run_bind, run_disk]
  dsimp only
  rw [hf]
  rfl

theorem run_changeOrStall_ok {op : Operation} {p call : String}
    {f : Disk → Except SysError (Option Disk)} {d : Disk} (hf : f h.disk = .ok (some d)) :
    (changeOrStall op p call f).run.run h = (.ok (), { h with disk := d }) := by
  unfold changeOrStall
  rw [run_bind, run_disk]
  dsimp only
  rw [hf]
  rfl

theorem run_changeOrStall_stall {op : Operation} {p call : String}
    {f : Disk → Except SysError (Option Disk)} (hf : f h.disk = .ok none) :
    (changeOrStall op p call f).run.run h = (.error (.stalled call), h) := by
  unfold changeOrStall
  rw [run_bind, run_disk]
  dsimp only
  rw [hf]
  rfl

theorem run_changeOrStall_error {op : Operation} {p call : String}
    {f : Disk → Except SysError (Option Disk)} {e : SysError} (hf : f h.disk = .error e) :
    (changeOrStall op p call f).run.run h = (.error (ioFailure op p e), h) := by
  unfold changeOrStall
  rw [run_bind, run_disk]
  dsimp only
  rw [hf]
  rfl

theorem run_test {m : PathMatcher} {c : String} {b : Bool} (hm : m.test c = .ok b) :
    (test m c).run.run h = (.ok b, h) := by
  unfold test
  simp only [hm]
  rfl

/-- Run from `h`, the work succeeds and leaves a disk that `post` accepts; the messages are
left as they were. -/
def Leaves (x : Act α) (h : Host) (post : Disk → Prop) : Prop :=
  ∃ a d', x.run.run h = (.ok a, { h with disk := d' }) ∧ post d'

/-- Run from `h`, the work stops at a failure. -/
def Fails (x : Act α) (h : Host) : Prop := ∃ e h', x.run.run h = (.error e, h')

theorem Leaves.of_run {x : Act α} {post : Disk → Prop} {a : α} {d' : Disk}
    (hx : x.run.run h = (.ok a, { h with disk := d' })) (hpost : post d') : x.Leaves h post :=
  ⟨a, d', hx, hpost⟩

theorem Leaves.pure {post : Disk → Prop} (a : α) (hpost : post h.disk) :
    (Pure.pure a : Act α).Leaves h post :=
  ⟨a, h.disk, rfl, hpost⟩

theorem Leaves.mono {x : Act α} {post post' : Disk → Prop} (hx : x.Leaves h post)
    (himp : ∀ d, post d → post' d) : x.Leaves h post' := by
  obtain ⟨a, d', hrun, hpost⟩ := hx
  exact ⟨a, d', hrun, himp d' hpost⟩

/-- Sequencing: what the first part leaves, the second part starts from. -/
theorem Leaves.bind {x : Act α} {f : α → Act β} {mid post : Disk → Prop} (hx : x.Leaves h mid)
    (hf : ∀ a d, mid d → (f a).Leaves { h with disk := d } post) : (x >>= f).Leaves h post := by
  obtain ⟨a, d₁, hrun, hmid⟩ := hx
  obtain ⟨b, d₂, hrun', hpost⟩ := hf a d₁ hmid
  exact ⟨b, d₂, by rw [run_bind_ok hrun, hrun'], hpost⟩

/-- Sequencing after a step whose run is known. -/
theorem Leaves.run_bind {x : Act α} {f : α → Act β} {post : Disk → Prop} {a : α} {d₁ : Disk}
    (hx : x.run.run h = (.ok a, { h with disk := d₁ }))
    (hf : (f a).Leaves { h with disk := d₁ } post) : (x >>= f).Leaves h post := by
  obtain ⟨b, d₂, hrun', hpost⟩ := hf
  exact ⟨b, d₂, by rw [run_bind_ok hx, hrun'], hpost⟩

theorem Fails.bind_left {x : Act α} {f : α → Act β} (hx : x.Fails h) : (x >>= f).Fails h := by
  obtain ⟨e, h', hrun⟩ := hx
  exact ⟨e, h', run_bind_error hrun⟩

theorem Fails.bind_right {x : Act α} {f : α → Act β} {mid : Disk → Prop} (hx : x.Leaves h mid)
    (hf : ∀ a d, mid d → (f a).Fails { h with disk := d }) : (x >>= f).Fails h := by
  obtain ⟨a, d₁, hrun, hmid⟩ := hx
  obtain ⟨e, h', hrun'⟩ := hf a d₁ hmid
  exact ⟨e, h', by rw [run_bind_ok hrun, hrun']⟩

theorem Fails.run_bind {x : Act α} {f : α → Act β} {a : α} {h' : Host}
    (hx : x.run.run h = (.ok a, h')) (hf : (f a).Fails h') : (x >>= f).Fails h := by
  obtain ⟨e, h'', hrun⟩ := hf
  exact ⟨e, h'', by rw [run_bind_ok hx, hrun]⟩

/-- Run from `h`, the work succeeds on a host whose disk `post` accepts; unlike `Leaves`, the
messages it reports on the way are not followed. -/
def Ends (x : Act α) (h : Host) (post : Disk → Prop) : Prop :=
  ∃ a h', x.run.run h = (.ok a, h') ∧ post h'.disk

theorem Leaves.ends {x : Act α} {post : Disk → Prop} (hx : x.Leaves h post) : x.Ends h post := by
  obtain ⟨a, d', hrun, hpost⟩ := hx
  exact ⟨a, _, hrun, hpost⟩

theorem Ends.of_run {x : Act α} {post : Disk → Prop} {a : α} {h' : Host}
    (hx : x.run.run h = (.ok a, h')) (hpost : post h'.disk) : x.Ends h post :=
  ⟨a, h', hx, hpost⟩

theorem Ends.say (level : Level) (message : String) :
    (say level message).Ends h (· = h.disk) :=
  Ends.of_run (run_say level message) rfl

theorem Ends.pure {post : Disk → Prop} (a : α) (hpost : post h.disk) :
    (Pure.pure a : Act α).Ends h post :=
  ⟨a, h, rfl, hpost⟩

theorem Ends.bind {x : Act α} {f : α → Act β} {mid post : Disk → Prop} (hx : x.Ends h mid)
    (hf : ∀ a h', mid h'.disk → (f a).Ends h' post) : (x >>= f).Ends h post := by
  obtain ⟨a, h₁, hrun, hmid⟩ := hx
  obtain ⟨b, h₂, hrun', hpost⟩ := hf a h₁ hmid
  exact ⟨b, h₂, by rw [run_bind_ok hrun, hrun'], hpost⟩

theorem Fails.bind_ends {x : Act α} {f : α → Act β} {mid : Disk → Prop} (hx : x.Ends h mid)
    (hf : ∀ a h', mid h'.disk → (f a).Fails h') : (x >>= f).Fails h := by
  obtain ⟨a, h₁, hrun, hmid⟩ := hx
  exact Fails.run_bind hrun (hf a h₁ hmid)

/-- Sequencing a work that succeeds when `p` holds and fails otherwise after one that
succeeds. -/
theorem Ends.bind_cases {p : Prop} {x : Act α} {f : α → Act β} {mid post : Disk → Prop}
    (hx : x.Ends h mid)
    (hf : ∀ a h', mid h'.disk → (p → (f a).Ends h' post) ∧ (¬ p → (f a).Fails h')) :
    (p → (x >>= f).Ends h post) ∧ (¬ p → (x >>= f).Fails h) :=
  ⟨fun hp => hx.bind fun a h' hm => (hf a h' hm).1 hp,
    fun hp => Fails.bind_ends hx fun a h' hm => (hf a h' hm).2 hp⟩

/-- Run from `h`, the work succeeds with a value and a disk that `post` accepts together; the
messages are left as they were. -/
def Gives (x : Act α) (h : Host) (post : α → Disk → Prop) : Prop :=
  ∃ a d', x.run.run h = (.ok a, { h with disk := d' }) ∧ post a d'

theorem Gives.of_run {x : Act α} {post : α → Disk → Prop} {a : α} {d' : Disk}
    (hx : x.run.run h = (.ok a, { h with disk := d' })) (hpost : post a d') : x.Gives h post :=
  ⟨a, d', hx, hpost⟩

theorem Gives.pure {post : α → Disk → Prop} (a : α) (hpost : post a h.disk) :
    (Pure.pure a : Act α).Gives h post :=
  ⟨a, h.disk, rfl, hpost⟩

theorem Gives.mono {x : Act α} {post post' : α → Disk → Prop} (hx : x.Gives h post)
    (himp : ∀ a d, post a d → post' a d) : x.Gives h post' := by
  obtain ⟨a, d', hrun, hpost⟩ := hx
  exact ⟨a, d', hrun, himp a d' hpost⟩

theorem Gives.bind {x : Act α} {f : α → Act β} {mid : α → Disk → Prop} {post : β → Disk → Prop}
    (hx : x.Gives h mid) (hf : ∀ a d, mid a d → (f a).Gives { h with disk := d } post) :
    (x >>= f).Gives h post := by
  obtain ⟨a, d₁, hrun, hmid⟩ := hx
  obtain ⟨b, d₂, hrun', hpost⟩ := hf a d₁ hmid
  exact ⟨b, d₂, by rw [run_bind_ok hrun, hrun'], hpost⟩

theorem Gives.run_bind {x : Act α} {f : α → Act β} {post : β → Disk → Prop} {a : α} {d₁ : Disk}
    (hx : x.run.run h = (.ok a, { h with disk := d₁ }))
    (hf : (f a).Gives { h with disk := d₁ } post) : (x >>= f).Gives h post := by
  obtain ⟨b, d₂, hrun', hpost⟩ := hf
  exact ⟨b, d₂, by rw [run_bind_ok hx, hrun'], hpost⟩

/-- A work that leaves a disk gives it, whatever its value. -/
theorem Leaves.gives {x : Act α} {post : Disk → Prop} (hx : x.Leaves h post) :
    x.Gives h (fun _ d => post d) := hx

/-- Run from `h`, the work stops at a failure that `why` accepts and leaves a disk that `post`
accepts; the messages are left as they were. -/
def FailsWith (x : Act α) (h : Host) (why : Failure → Prop) (post : Disk → Prop) : Prop :=
  ∃ e d', x.run.run h = (.error e, { h with disk := d' }) ∧ why e ∧ post d'

section failsWith

variable {why why' : Failure → Prop} {post post' : Disk → Prop}

theorem FailsWith.of_run {x : Act α} {e : Failure} (hx : x.run.run h = (.error e, h))
    (hwhy : why e) (hpost : post h.disk) : x.FailsWith h why post :=
  ⟨e, h.disk, hx, hwhy, hpost⟩

theorem FailsWith.fails {x : Act α} (hx : x.FailsWith h why post) : x.Fails h := by
  obtain ⟨e, d', hrun, -⟩ := hx
  exact ⟨e, _, hrun⟩

theorem FailsWith.mono {x : Act α} (hx : x.FailsWith h why post) (hwhy : ∀ e, why e → why' e)
    (hpost : ∀ d, post d → post' d) : x.FailsWith h why' post' := by
  obtain ⟨e, d', hrun, he, hd⟩ := hx
  exact ⟨e, d', hrun, hwhy e he, hpost d' hd⟩

theorem FailsWith.bind_left {x : Act α} {f : α → Act β} (hx : x.FailsWith h why post) :
    (x >>= f).FailsWith h why post := by
  obtain ⟨e, d', hrun, he, hd⟩ := hx
  exact ⟨e, d', run_bind_error hrun, he, hd⟩

theorem FailsWith.bind_right {x : Act α} {f : α → Act β} {mid : α → Disk → Prop}
    (hx : x.Gives h mid) (hf : ∀ a d, mid a d → (f a).FailsWith { h with disk := d } why post) :
    (x >>= f).FailsWith h why post := by
  obtain ⟨a, d₁, hrun, hmid⟩ := hx
  obtain ⟨e, d₂, hrun', he, hd⟩ := hf a d₁ hmid
  exact ⟨e, d₂, by rw [run_bind_ok hrun, hrun'], he, hd⟩

theorem FailsWith.run_bind {x : Act α} {f : α → Act β} {a : α} {d₁ : Disk}
    (hx : x.run.run h = (.ok a, { h with disk := d₁ }))
    (hf : (f a).FailsWith { h with disk := d₁ } why post) : (x >>= f).FailsWith h why post := by
  obtain ⟨e, d₂, hrun', he, hd⟩ := hf
  exact ⟨e, d₂, by rw [run_bind_ok hx, hrun'], he, hd⟩

end failsWith

/-- Every failure of the work, from any host, is one that `ok` accepts. -/
def FailsBy (ok : Failure → Prop) (x : Act α) : Prop :=
  ∀ h e h', x.run.run h = (.error e, h') → ok e

section failsBy

variable {ok ok' : Failure → Prop}

theorem FailsBy.pure (a : α) : FailsBy ok (Pure.pure a : Act α) := by
  intro h e h' hrun
  rw [run_pure] at hrun
  exact absurd (Prod.mk.inj hrun).1 (by simp)

theorem FailsBy.mono {x : Act α} (hx : FailsBy ok x) (himp : ∀ e, ok e → ok' e) :
    FailsBy ok' x := fun h e h' hrun => himp e (hx h e h' hrun)

/-- A failed call is a fault of the file system. -/
theorem FailsBy.fault {x : Act α} (hx : FailsBy Failure.IsIO x) : FailsBy Failure.IsFault x :=
  hx.mono fun _ => .inl

theorem FailsBy.bind {x : Act α} {f : α → Act β} (hx : FailsBy ok x) (hf : ∀ a, FailsBy ok (f a)) :
    FailsBy ok (x >>= f) := by
  intro h e h' hrun
  cases hxr : x.run.run h with
  | mk r h₁ =>
    cases r with
    | error e' =>
      rw [run_bind_error hxr] at hrun
      obtain ⟨rfl, rfl⟩ := Prod.mk.inj hrun |>.imp Except.error.inj id
      exact hx h e' h₁ hxr
    | ok a =>
      rw [run_bind_ok hxr] at hrun
      exact hf a h₁ e h' hrun

theorem FailsBy.disk : FailsBy ok disk := by
  intro h e h' hrun
  rw [run_disk] at hrun
  exact absurd (Prod.mk.inj hrun).1 (by simp)

theorem FailsBy.ask (op : Operation) (p : String) (q : Disk → Except SysError α) :
    FailsBy Failure.IsIO (ask op p q) := by
  intro h e h' hrun
  unfold Act.ask at hrun
  rw [run_bind, run_disk] at hrun
  dsimp only at hrun
  cases hq : q h.disk with
  | ok a =>
    rw [hq] at hrun
    exact absurd (Prod.mk.inj hrun).1 (by simp)
  | error err =>
    rw [hq] at hrun
    exact ⟨op, p, _, _, (Except.error.inj (Prod.mk.inj hrun).1).symm⟩

theorem FailsBy.change (op : Operation) (p : String) (f : Disk → Except SysError Disk) :
    FailsBy Failure.IsIO (change op p f) := by
  intro h e h' hrun
  cases hf : f h.disk with
  | ok d =>
    rw [run_change_ok hf] at hrun
    exact absurd (Prod.mk.inj hrun).1 (by simp)
  | error err =>
    rw [run_change_error hf] at hrun
    exact ⟨op, p, _, _, (Except.error.inj (Prod.mk.inj hrun).1).symm⟩

theorem FailsBy.changeOrStall (op : Operation) (p call : String)
    (f : Disk → Except SysError (Option Disk)) : FailsBy Failure.IsFault (changeOrStall op p call f) := by
  intro h e h' hrun
  rcases hf : f h.disk with err | _ | d
  · rw [run_changeOrStall_error hf] at hrun
    exact .inl ⟨op, p, _, _, (Except.error.inj (Prod.mk.inj hrun).1).symm⟩
  · rw [run_changeOrStall_stall hf] at hrun
    exact .inr ⟨call, (Except.error.inj (Prod.mk.inj hrun).1).symm⟩
  · rw [run_changeOrStall_ok hf] at hrun
    exact absurd (Prod.mk.inj hrun).1 (by simp)

end failsBy

end Act

namespace Tree

open Disk FolderSink.Path Act

variable {h : Host} {Q P : Place} {n : String}

theorem readEntries_run (hdir : h.disk.LeadsTo Q P) :
    (readEntries (ofPlace Q)).run.run h = (.ok (h.disk.children P), h) :=
  run_ask_ok (readdir_of_leadsTo hdir)

theorem readEntries_failsBy (dir : String) : FailsBy Failure.IsIO (readEntries dir) :=
  FailsBy.ask _ _ _

theorem ensureDir_failsBy (dir : String) : FailsBy Failure.IsIO (ensureDir dir) := by
  unfold ensureDir lstatOrNull
  refine FailsBy.bind (FailsBy.ask _ _ _) fun r => ?_
  split
  · exact FailsBy.bind (FailsBy.change _ _ _) fun _ => FailsBy.change _ _ _
  · exact FailsBy.change _ _ _

/-- Copying an entry fails by a failed call, or stops for good where a file is copied onto a
FIFO. -/
theorem copyLeaf_failsBy (src dst : String) (kind : Kind) :
    FailsBy Failure.IsFault (copyLeaf src dst kind) := by
  unfold copyLeaf lstatOrNull
  split
  · -- a link: read, remove what is in the way, write
    refine FailsBy.bind (FailsBy.ask _ _ _).fault fun t => ?_
    refine FailsBy.bind (FailsBy.ask _ _ _).fault fun r => ?_
    dsimp only
    split
    · exact FailsBy.bind (FailsBy.change _ _ _).fault fun _ =>
        FailsBy.bind (FailsBy.change _ _ _).fault fun _ => FailsBy.pure _
    · exact FailsBy.bind (FailsBy.change _ _ _).fault fun _ => FailsBy.pure _
  · -- a file: remove a link in the way, copy
    refine FailsBy.bind (FailsBy.ask _ _ _).fault fun r => ?_
    dsimp only
    split
    · exact FailsBy.bind (FailsBy.change _ _ _).fault fun _ =>
        FailsBy.bind (FailsBy.changeOrStall _ _ _ _) fun _ => FailsBy.pure _
    · exact FailsBy.bind (FailsBy.changeOrStall _ _ _ _) fun _ => FailsBy.pure _
  · exact FailsBy.pure _

/-- Making a directory whose places on the way down are each missing or a directory makes
every one of them a directory, and changes nothing else. -/
theorem ensureDir_run_way {P : Place} (hwf : h.disk.Wf) (hP : P ≠ []) (hn : ∀ m ∈ P, IsName m)
    (hway : ∀ x, x <+: P → h.disk.get? x = none ∨ h.disk.get? x = some .dir) :
    (ensureDir (ofPlace P)).Leaves h
      (fun d' => d'.Wf ∧ ∀ q, d'.get? q = if q <+: P then some .dir else h.disk.get? q) := by
  obtain ⟨d', hwf', hget', hmk⟩ := mkdirs_of_way hwf hn hway
  have hl : (lstatOrNull (ofPlace P)).run.run h =
      (.ok (h.disk.get? P), { h with disk := h.disk }) :=
    run_ask_ok (lstat?_of_way hwf hP hn hway)
  unfold ensureDir
  refine Leaves.run_bind hl ?_
  rcases hway P (List.prefix_refl _) with hk | hk <;> rw [hk] <;>
    exact Leaves.of_run (run_change_ok hmk) ⟨hwf', hget'⟩

section entry

variable (hQ : ∀ m ∈ Q, IsName m) (hn : IsName n) (hdir : h.disk.LeadsTo Q P)
include hQ hn hdir

theorem lstatOrNull_run :
    (lstatOrNull (ofPlace (Q ++ [n]))).run.run h = (.ok (h.disk.get? (P ++ [n])), h) :=
  run_ask_ok (lstat?_child hQ hn hdir)

/-- Where a directory is, making one changes nothing. -/
theorem ensureDir_run_dir (hk : h.disk.get? (P ++ [n]) = some .dir) :
    (ensureDir (ofPlace (Q ++ [n]))).run.run h = (.ok (), h) := by
  unfold ensureDir
  rw [run_bind_ok (lstatOrNull_run hQ hn hdir), hk]
  exact run_change_ok (mkdirs_child_dir hQ hn hdir hk)

/-- Where nothing is, a directory is made. -/
theorem ensureDir_run_new (hk : h.disk.get? (P ++ [n]) = none) :
    (ensureDir (ofPlace (Q ++ [n]))).run.run h =
      (.ok (), { h with disk := h.disk.put (P ++ [n]) .dir }) := by
  unfold ensureDir
  rw [run_bind_ok (lstatOrNull_run hQ hn hdir), hk]
  exact run_change_ok (mkdirs_child_none hQ hn hdir hk)

/-- A link where the directory should be is removed, not written through. -/
theorem ensureDir_run_link (hk : h.disk.get? (P ++ [n]) = some (.link t))
    (hdir' : (h.disk.removeTree (P ++ [n])).LeadsTo Q P) :
    (ensureDir (ofPlace (Q ++ [n]))).run.run h =
      (.ok (), { h with disk := (h.disk.removeTree (P ++ [n])).put (P ++ [n]) .dir }) := by
  unfold ensureDir
  rw [run_bind_ok (lstatOrNull_run hQ hn hdir), hk]
  dsimp only
  rw [run_bind_ok (run_change_ok (unlink_child hQ hn hdir hk (by simp)))]
  have hgone : (h.disk.removeTree (P ++ [n])).get? (P ++ [n]) = none := by
    simp [get?_removeTree]
  exact run_change_ok (mkdirs_child_none hQ hn hdir' hgone)

/-- A file or another special file where the directory should be refuses it. -/
theorem ensureDir_run_other {k : Kind} (hk : h.disk.get? (P ++ [n]) = some k)
    (hkdir : k ≠ .dir) (hlink : ∀ t, k ≠ .link t) :
    ∃ e, (ensureDir (ofPlace (Q ++ [n]))).run.run h = (.error e, h) := by
  obtain ⟨e, he⟩ := mkdirs_child_other hQ hn hdir hk hkdir hlink
  unfold ensureDir
  rw [run_bind_ok (lstatOrNull_run hQ hn hdir), hk]
  cases k with
  | dir => exact absurd rfl hkdir
  | link t => exact absurd rfl (hlink t)
  | file c mode => exact ⟨_, run_change_error he⟩
  | fifo => exact ⟨_, run_change_error he⟩

section source

variable {QS PS : Place} {n' : String} (hQS : ∀ m ∈ QS, IsName m) (hn' : IsName n')
include hQS hn'

/-- A file is copied, content and mode, over nothing or a file. -/
theorem copyLeaf_run_file (hS : h.disk.LeadsTo QS PS)
    (hsrc : h.disk.get? (PS ++ [n']) = some (.file c mode))
    (hk : h.disk.get? (P ++ [n]) ≠ some .dir) (hfifo : h.disk.get? (P ++ [n]) ≠ some .fifo)
    (hlink : ∀ t, h.disk.get? (P ++ [n]) ≠ some (.link t)) :
    (copyLeaf (ofPlace (QS ++ [n'])) (ofPlace (Q ++ [n])) (.file c mode)).run.run h =
      (.ok true, { h with disk := h.disk.put (P ++ [n]) (.file c mode) }) := by
  unfold copyLeaf
  dsimp only
  rw [run_bind_ok (lstatOrNull_run hQ hn hdir)]
  split
  · rename_i t ht
    exact absurd ht (hlink t)
  · rw [run_bind_ok (run_changeOrStall_ok (copyFile_child hQ hn hdir hQS hn' hS hsrc hk hfifo hlink))]
    rfl

/-- A file is copied over a link by removing the link first. -/
theorem copyLeaf_run_file_link (hk : h.disk.get? (P ++ [n]) = some (.link t))
    (hdir' : (h.disk.removeTree (P ++ [n])).LeadsTo Q P)
    (hS' : (h.disk.removeTree (P ++ [n])).LeadsTo QS PS)
    (hsrc' : (h.disk.removeTree (P ++ [n])).get? (PS ++ [n']) = some (.file c mode)) :
    (copyLeaf (ofPlace (QS ++ [n'])) (ofPlace (Q ++ [n])) (.file c mode)).run.run h =
      (.ok true, { h with disk := (h.disk.removeTree (P ++ [n])).put (P ++ [n]) (.file c mode) }) := by
  have hgone : (h.disk.removeTree (P ++ [n])).get? (P ++ [n]) = none := by
    simp [get?_removeTree]
  unfold copyLeaf
  dsimp only
  rw [run_bind_ok (lstatOrNull_run hQ hn hdir), hk]
  dsimp only
  rw [run_bind_ok (run_change_ok (unlink_child hQ hn hdir hk (by simp)))]
  rw [run_bind_ok (run_changeOrStall_ok (copyFile_child hQ hn hdir' hQS hn' hS' hsrc'
    (by simp [hgone]) (by simp [hgone]) (by simp [hgone])))]
  rfl

/-- A file is not copied onto a directory. -/
theorem copyLeaf_run_file_dir (hS : h.disk.LeadsTo QS PS)
    (hsrc : h.disk.get? (PS ++ [n']) = some (.file c mode)) (hk : h.disk.get? (P ++ [n]) = some .dir) :
    ∃ e, (copyLeaf (ofPlace (QS ++ [n'])) (ofPlace (Q ++ [n])) (.file c mode)).run.run h =
      (.error e, h) ∧ e.IsIO := by
  obtain ⟨e, he⟩ := copyFile_child_dir hQ hn hdir hQS hn' hS hsrc hk
  unfold copyLeaf
  dsimp only
  rw [run_bind_ok (lstatOrNull_run hQ hn hdir), hk]
  dsimp only
  exact ⟨_, run_bind_error (run_changeOrStall_error he), _, _, _, _, rfl⟩

/-- A file copied onto a FIFO waits for a reader for good, having changed nothing. -/
theorem copyLeaf_run_file_fifo (hS : h.disk.LeadsTo QS PS)
    (hsrc : h.disk.get? (PS ++ [n']) = some (.file c mode)) (hk : h.disk.get? (P ++ [n]) = some .fifo) :
    ∃ e, (copyLeaf (ofPlace (QS ++ [n'])) (ofPlace (Q ++ [n])) (.file c mode)).run.run h =
      (.error e, h) ∧ e.IsStall := by
  have he := copyFile_child_fifo hQ hn hdir hQS hn' hS hsrc hk
  unfold copyLeaf
  dsimp only
  rw [run_bind_ok (lstatOrNull_run hQ hn hdir), hk]
  dsimp only
  exact ⟨_, run_bind_error (run_changeOrStall_stall he), _, rfl⟩

/-- A link is copied, with its target, where nothing is. -/
theorem copyLeaf_run_link_new (hS : h.disk.LeadsTo QS PS)
    (hsrc : h.disk.get? (PS ++ [n']) = some (.link t)) (hk : h.disk.get? (P ++ [n]) = none) :
    (copyLeaf (ofPlace (QS ++ [n'])) (ofPlace (Q ++ [n])) (.link t)).run.run h =
      (.ok true, { h with disk := h.disk.put (P ++ [n]) (.link t) }) := by
  unfold copyLeaf
  dsimp only
  rw [run_bind_ok (run_ask_ok (readlink_child hQS hn' hS hsrc)),
    run_bind_ok (lstatOrNull_run hQ hn hdir), hk]
  simp only [Option.isSome_none, Bool.false_eq_true, ↓reduceIte]
  rw [run_bind_ok (run_change_ok (symlink_child hQ hn hdir hk t))]
  rfl

/-- A link is copied over a file, a link or another special file by removing it first. -/
theorem copyLeaf_run_link_over {k : Kind} (hS : h.disk.LeadsTo QS PS)
    (hsrc : h.disk.get? (PS ++ [n']) = some (.link t)) (hk : h.disk.get? (P ++ [n]) = some k)
    (hkdir : k ≠ .dir) (hdir' : (h.disk.removeTree (P ++ [n])).LeadsTo Q P) :
    (copyLeaf (ofPlace (QS ++ [n'])) (ofPlace (Q ++ [n])) (.link t)).run.run h =
      (.ok true, { h with disk := (h.disk.removeTree (P ++ [n])).put (P ++ [n]) (.link t) }) := by
  have hgone : (h.disk.removeTree (P ++ [n])).get? (P ++ [n]) = none := by
    simp [get?_removeTree]
  unfold copyLeaf
  dsimp only
  rw [run_bind_ok (run_ask_ok (readlink_child hQS hn' hS hsrc)),
    run_bind_ok (lstatOrNull_run hQ hn hdir), hk]
  simp only [Option.isSome_some, ↓reduceIte]
  rw [run_bind_ok (run_change_ok (unlink_child hQ hn hdir hk hkdir)),
    run_bind_ok (run_change_ok (symlink_child hQ hn hdir' hgone t))]
  rfl

/-- A link is not copied onto a directory. -/
theorem copyLeaf_run_link_dir (hS : h.disk.LeadsTo QS PS)
    (hsrc : h.disk.get? (PS ++ [n']) = some (.link t)) (hk : h.disk.get? (P ++ [n]) = some .dir) :
    ∃ e, (copyLeaf (ofPlace (QS ++ [n'])) (ofPlace (Q ++ [n])) (.link t)).run.run h =
      (.error e, h) ∧ e.IsIO := by
  obtain ⟨e, he⟩ := unlink_child_dir hQ hn hdir hk
  unfold copyLeaf
  dsimp only
  rw [run_bind_ok (run_ask_ok (readlink_child hQS hn' hS hsrc)),
    run_bind_ok (lstatOrNull_run hQ hn hdir), hk]
  simp only [Option.isSome_some, ↓reduceIte]
  exact ⟨_, run_bind_error (run_change_error he), _, _, _, _, rfl⟩

end source

end entry

end Tree

end FolderSink
