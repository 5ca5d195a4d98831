/-
  Paths, as texts.

  A path is a list of segments between slashes.  It starts at the root if its
  first segment is empty and more follow, and at the working directory else.
  Empty segments and single dots lead nowhere.
-/
import ChainHost.Text.Split
import ChainHost.Bytes

set_option autoImplicit false

namespace ChainHost.Path

/-- The segments of a path. -/
def segments (path : String) : List String :=
  (Text.splitAt '/' path.toList).map String.ofList

/-- The path of some segments. -/
def ofSegments (segments : List String) : String := String.intercalate "/" segments

/-- A segment that leads nowhere. -/
def isIdle (segment : String) : Bool := segment == "" || segment == "."

/-- The segments up to the last one that leads somewhere. -/
def trimmed (segments : List String) : List String :=
  (segments.reverse.dropWhile isIdle).reverse

/-- The segments before the last one that leads somewhere, if there is one. -/
def front? (segments : List String) : Option (List String) :=
  match trimmed segments with
  | [] => none
  | s :: rest => some (trimmed (s :: rest).dropLast)

theorem length_trimmed_le (segments : List String) :
    (trimmed segments).length ≤ segments.length := by
  have := (List.dropWhile_sublist (l := segments.reverse) isIdle).length_le
  simpa [trimmed] using this

theorem length_front {segments front : List String} (h : front? segments = some front) :
    front.length < segments.length := by
  unfold front? at h
  split at h
  · cases h
  · next s rest heq =>
      have h := Option.some.inj h
      have hwhole := length_trimmed_le segments
      have hfront := length_trimmed_le (s :: rest).dropLast
      rw [heq] at hwhole
      rw [h] at hfront
      simp only [List.length_cons, List.length_dropLast] at hwhole hfront
      omega

/-- All fronts of some segments, the longest first. -/
def fronts (segments : List String) : List (List String) :=
  match _h : front? segments with
  | none => []
  | some front => front :: fronts front
termination_by segments.length
decreasing_by exact length_front _h

/-- The paths of the directories above the last name of a path, the nearest
first.  The working directory is one only if the path names it. -/
def ancestors (path : String) : List String :=
  match segments path with
  | "" :: rest => (fronts rest).map fun front => "/" ++ ofSegments front
  | "." :: rest => (fronts rest).map fun front => ofSegments ("." :: front)
  | all => ((fronts all).filter fun front => !front.isEmpty).map ofSegments

/-- Paths of this many bytes are too long for any use. -/
def lengthBound : Nat := 4096

/-- Names of more bytes than these are too long for a directory. -/
def longestName : Nat := 255

/-- Paths of this many bytes are too long for a socket. -/
def socketBound : Nat := 108

/-- The number of bytes of a text. -/
def byteCount (text : String) : Nat := (Bytes.ofText text).length

/-- Whether a text can be a path at all: it is not empty, not too long, and holds
no NUL. -/
def isUsable (path : String) : Bool :=
  path != "" && !path.toList.contains '\x00' && decide (byteCount path < lengthBound)

/-- Whether a path fits into the address of a socket. -/
def fitsSocket (path : String) : Bool :=
  !path.toList.contains '\x00' && decide (byteCount path < socketBound)

end ChainHost.Path
