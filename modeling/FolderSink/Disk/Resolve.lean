import FolderSink.Disk.Basic
/-! Looking up a path the way the system does: names are taken from the root, `.` and
empty names stay put, `..` goes to the parent, and a symbolic link met on the way is
replaced by its target (read from the link's directory, or from the root when absolute).
The last name is followed only when asked, or when a slash comes after it. More than 40
links in one lookup is a loop. The result is the place reached and what is there, if
anything; a missing name is an error unless it is the last. -/
namespace FolderSink

namespace Disk

/-- The most links one lookup follows. -/
def maxLinks : Nat := 40

/-- Walk the names `comps` from the directory `cur`, having followed `links` links. -/
def walk (d : Disk) : Nat → Place → List String → Bool → Nat → Except Errno (Place × Option Kind)
  | 0, _, _, _, _ => .error .ELOOP
  | _ + 1, cur, [], _, _ => .ok (cur, d.get? cur)
  | f + 1, cur, c :: rest, follow, links =>
    let isLast := rest.all (· == "")
    let trailing := !rest.isEmpty
    if c == "" || c == "." then walk d f cur rest follow links
    else if c == ".." then walk d f cur.dropLast rest follow links
    else
      let here := cur ++ [c]
      match d.get? here with
      | none => if isLast then .ok (here, none) else .error .ENOENT
      | some (.link t) =>
        if isLast && !trailing && !follow then .ok (here, some (.link t))
        else if links ≥ maxLinks then .error .ELOOP
        else if t.isEmpty then .error .ENOENT
        else walk d f (if t.startsWith "/" then [] else cur) (t.splitOn "/" ++ rest) follow (links + 1)
      | some .dir => walk d f here rest follow links
      | some k => if isLast && !trailing then .ok (here, some k) else .error .ENOTDIR

/-- Look up a path; `follow` says whether a link in the last place is followed. -/
def lookup (d : Disk) (path : String) (follow : Bool) : Except Errno (Place × Option Kind) :=
  let comps := path.splitOn "/"
  d.walk (comps.length + (maxLinks + 1) * (d.longestTarget + 1) + 2) [] comps follow 0

end Disk

end FolderSink
