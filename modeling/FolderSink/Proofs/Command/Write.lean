import FolderSink.Command.Write
import FolderSink.Proofs.Destination.Placement
import FolderSink.Proofs.Tree.Steps
import FolderSink.Proofs.Path.Scope
/-!
The write command as the composition it is made of. It first looks at the output tree,
following links: a tree that is missing, not a directory or below something that is not a
directory is refused with a configuration error, and a lookup that fails otherwise (a loop of
links) fails with that system error; in both cases nothing is created or reported. Otherwise
it writes the tree into the folder that the destination resolver gives for the
configuration's name, the settings' default root and the clock, with the write's explicit
folder when it has one and else the folder of the settings entry of that name
(`WriteOptions.request`); the exclusions are the entry's followed by the write's, so a path is
kept by the first list or else by the second; the write is staged when the write says so,
else when the settings do; and the folder is returned.

An explicit folder counts as given even when it is empty, and the resolver reads an empty
folder as none: so an empty explicit folder takes the generated folder under the default
root, even where the settings entry names a folder of its own.

Main statement (`runWrite_composes`).
-/

namespace FolderSink

open Act

namespace WriteOptions

/-- The folder that the settings entry of the write's configuration gives, if any. -/
def entryFolder (o : WriteOptions) (s : Settings) : Option String :=
  ((s.find? o.name).bind (·.folderDir)).map Utf16.toText

/-- The explicit folder that a write passes on: its own when it has one, even an empty one,
else the settings entry's. -/
def folderChoice (o : WriteOptions) (s : Settings) : Option String :=
  o.folderDir <|> o.entryFolder s

/-- The request that decides the folder of a write. -/
def request (o : WriteOptions) (s : Settings) (cwd : String) (now : Option Int) : PlaceRequest :=
  ⟨o.folderChoice s, o.name, cwd, some s.defaultRoot.toText, now⟩

/-- The exclusion patterns of a write: the settings entry's, then the write's own. -/
def patterns (o : WriteOptions) (s : Settings) : List Utf16 :=
  ((s.find? o.name).map (·.exclude)).getD [] ++ o.exclude

/-- An empty explicit folder takes the generated folder, whatever the settings entry says. -/
theorem request_of_empty_folder {o : WriteOptions} {s : Settings} {cwd : String}
    {now : Option Int} (hempty : o.folderDir = some "") :
    (o.request s cwd now).resolve = (o.request s cwd now).generated :=
  PlaceRequest.resolve_of_folderDir _ (by simp [request, folderChoice, hempty])

end WriteOptions

section run

variable {outputTree : String} {o : WriteOptions} {cwd : String} {s : Settings} {now : Option Int}
  {stamps : Tree.Stamps} {h : Host}

/-- A lookup of the output tree that fails stops the write before anything is done. -/
theorem runWrite_of_stat_error {e : SysError}
    (hstat : h.disk.stat? (Path.resolve cwd [outputTree]) = .error e) :
    (runWrite outputTree o cwd s now stamps).run.run h = (.error (.system e), h) := by
  unfold runWrite
  rw [run_bind_ok run_disk]
  simp only [hstat]
  rfl

/-- An output tree that is missing or not a directory is refused before anything is done. -/
theorem runWrite_of_not_dir {k : Option Kind}
    (hstat : h.disk.stat? (Path.resolve cwd [outputTree]) = .ok k) (hk : k ≠ some .dir) :
    (runWrite outputTree o cwd s now stamps).run.run h =
      (.error (.config ("Output tree is not a directory: " ++ Path.resolve cwd [outputTree])), h) := by
  unfold runWrite
  rw [run_bind_ok run_disk]
  simp only [hstat]
  rcases k with _ | _ | _ | _ | _
  · rfl
  · exact absurd rfl hk
  all_goals rfl

/-- Where the output tree is a directory, the write reports what the resolver says of the
chosen folder, then runs a writer on it. -/
theorem runWrite_of_dir (hstat : h.disk.stat? (Path.resolve cwd [outputTree]) = .ok (some .dir)) :
    (runWrite outputTree o cwd s now stamps).run.run h =
      ((do
          (Writer.ofDestination ⟨(o.request s cwd now).resolve.1, o.atomic.getD s.atomicWrites⟩).run
            (Path.resolve cwd [outputTree]) (o.patterns s) stamps
          pure (o.request s cwd now).resolve.1) : Act String).run.run
        { h with console := h.console ++ (o.request s cwd now).resolve.2 } := by
  unfold runWrite
  rw [run_bind_ok run_disk]
  simp only [hstat]
  rw [FolderOptions.destination_of_name _ rfl]
  rfl

end run

/-- The write command is the composition it is documented to be, but for an empty explicit
folder. It looks at the output tree first: missing, not a directory or below something that is
not one, it is refused with a configuration error; a lookup that fails otherwise is that
system error; either way the host is left as it was. Otherwise it reports what the resolver
says and writes the tree, staged as the write or else the settings say, into the folder
resolved from the write's explicit folder or else the settings entry's, and gives that folder.
A path is kept when the entry's patterns keep it, or else when the write's own do. An empty
explicit folder is passed on as given and resolves to the generated folder, so it wins over a
folder of the entry. -/
theorem runWrite_composes (outputTree : String) (o : WriteOptions) (cwd : String) (s : Settings)
    (now : Option Int) (stamps : Tree.Stamps) (h : Host) :
    (∀ k, h.disk.stat? (Path.resolve cwd [outputTree]) = .ok k → k ≠ some .dir →
      (runWrite outputTree o cwd s now stamps).run.run h =
        (.error (.config ("Output tree is not a directory: " ++ Path.resolve cwd [outputTree])), h)) ∧
    (∀ e, h.disk.stat? (Path.resolve cwd [outputTree]) = .error e →
      (runWrite outputTree o cwd s now stamps).run.run h = (.error (.system e), h)) ∧
    (h.disk.stat? (Path.resolve cwd [outputTree]) = .ok (some .dir) →
      (runWrite outputTree o cwd s now stamps).run.run h =
        ((do
            (Writer.ofDestination ⟨(o.request s cwd now).resolve.1, o.atomic.getD s.atomicWrites⟩).run
              (Path.resolve cwd [outputTree]) (o.patterns s) stamps
            pure (o.request s cwd now).resolve.1) : Act String).run.run
          { h with console := h.console ++ (o.request s cwd now).resolve.2 }) ∧
    (∀ c, (⟨Host.workDir, (o.request s cwd now).resolve.1, o.patterns s⟩ : PathMatcher).test c =
      ((⟨Host.workDir, (o.request s cwd now).resolve.1, ((s.find? o.name).map (·.exclude)).getD []⟩ :
          PathMatcher).test c >>= fun hit =>
        if hit then .ok true
        else (⟨Host.workDir, (o.request s cwd now).resolve.1, o.exclude⟩ : PathMatcher).test c)) ∧
    (o.folderDir = some "" → (o.request s cwd now).resolve = (o.request s cwd now).generated) :=
  ⟨fun _ hstat hk => runWrite_of_not_dir hstat hk, fun _ hstat => runWrite_of_stat_error hstat,
    runWrite_of_dir, fun _ => Path.matchesAny_append _ _ _ _, WriteOptions.request_of_empty_folder⟩

/-- A link to itself leads nowhere: following it meets the limit of links. -/
theorem stat_self_link : (⟨[(["o"], .link "o")]⟩ : Disk).stat? (Path.ofPlace ["o"]) =
    .error ⟨.ELOOP, "stat", Path.ofPlace ["o"], none⟩ := by
  have hlink : (⟨[(["o"], .link "o")]⟩ : Disk).get? ["o"] = some (.link "o") := by decide
  have ho : "o".splitOn "/" = ["o"] := by
    simpa [Path.joinNames, Path.names] using
      Path.names_joinNames (by simp : ["o"] ≠ []) (by decide)
  have hlong : (⟨[(["o"], .link "o")]⟩ : Disk).longestTarget = 1 := by
    simp [Disk.longestTarget, ho]
  rw [Disk.stat?, Disk.lookup, show (Path.ofPlace ["o"]).splitOn "/" = ["", "o"] from
    Path.names_ofPlace (by simp) (by decide), hlong]
  -- the lookup goes round the link until it has followed the most links it may
  simp [Disk.walk, ho, hlink, Disk.maxLinks]

/-- An output tree that is a link to itself is not an existing directory, yet the write does
not refuse it with a configuration error: the lookup meets a loop of links, and the write
fails with that system error. -/
theorem runWrite_through_link_loop :
    (⟨[(["o"], .link "o")]⟩ : Disk).stat? (Path.resolve "/" [Path.ofPlace ["o"]]) =
        .error ⟨.ELOOP, "stat", Path.ofPlace ["o"], none⟩ ∧
      (runWrite (Path.ofPlace ["o"]) { name := "p" } "/" Settings.defaults none ⟨"", ""⟩).run.run
          ⟨⟨[(["o"], .link "o")]⟩, []⟩ =
        (.error (.system ⟨.ELOOP, "stat", Path.ofPlace ["o"], none⟩), ⟨⟨[(["o"], .link "o")]⟩, []⟩) := by
  have hstat : (⟨[(["o"], .link "o")]⟩ : Disk).stat? (Path.resolve "/" [Path.ofPlace ["o"]]) =
      .error ⟨.ELOOP, "stat", Path.ofPlace ["o"], none⟩ := by
    rw [Path.resolve_ofPlace_against "/" (by decide)]
    exact stat_self_link
  exact ⟨hstat, runWrite_of_stat_error hstat⟩

end FolderSink
