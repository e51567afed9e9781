import ImageSelect.Location

/-!
# The planes of a file

A file with a number of series and a number of frames in each has a plane
for every pair of them: the frames of the first series, then those of the
next.

An `Enumeration` hands the planes over one at a time.  It looks at the counts
when the first plane is asked for, and makes no plane before it is asked for.
-/

namespace ImageSelect

/-- Counts of series and frames that are not both positive. -/
structure CountError where
  series : Int
  frames : Int
  deriving Repr, DecidableEq

/-- What is said of such counts. -/
def CountError.message (e : CountError) : String :=
  Text.messageOr do
    let series ← Text.writeInteger e.series
    let frames ← Text.writeInteger e.frames
    return "Series and frame counts must be positive, got " ++ series ++ ", " ++ frames

/-- All planes of a file, series by series. -/
def allPlanes (file : ImageFile) (series frames : Nat) : List Plane :=
  (List.range series).flatMap fun s => (List.range frames).map fun f => ⟨file, s, f⟩

/-- All planes of a file; both counts must be positive. -/
def planes (file : ImageFile) (series frames : Int) : Except CountError (List Plane) :=
  if series < 1 || frames < 1 then .error ⟨series, frames⟩
  else .ok (allPlanes file series.toNat frames.toNat)

/-- Where an enumeration stands: nothing was asked for yet, a plane was handed
over last, or it is over. -/
inductive Enumeration.Place where
  | start
  | behind (series frame : Nat)
  | over
  deriving Repr, DecidableEq

/-- The planes of a file, to be handed over one at a time. -/
structure Enumeration where
  file : ImageFile
  series : Int
  frames : Int
  place : Enumeration.Place := .start

namespace Enumeration

/-- Hands over a plane. -/
def give (e : Enumeration) (series frame : Nat) : Except CountError (Option Plane) × Enumeration :=
  (.ok (some ⟨e.file, series, frame⟩), { e with place := .behind series frame })

/-- What comes of asking for the next plane: the plane, or none if there are no
more, and where the enumeration stands then. -/
def next (e : Enumeration) : Except CountError (Option Plane) × Enumeration :=
  match e.place with
  | .start =>
    if e.series < 1 || e.frames < 1 then
      (.error ⟨e.series, e.frames⟩, { e with place := .over })
    else e.give 0 0
  | .behind series frame =>
    if (frame + 1 : Int) < e.frames then e.give series (frame + 1)
    else if (series + 1 : Int) < e.series then e.give (series + 1) 0
    else (.ok none, { e with place := .over })
  | .over => (.ok none, e)

/-- The planes that come of asking a number of times. -/
def take : Nat → Enumeration → Except CountError (List Plane)
  | 0, _ => .ok []
  | limit + 1, e =>
    match e.next with
    | (.error why, _) => .error why
    | (.ok none, _) => .ok []
    | (.ok (some p), e) => (e.take limit).map (p :: ·)

end Enumeration

/-- The first planes of a file, at most `limit` of them. -/
def firstPlanes (limit : Nat) (file : ImageFile) (series frames : Int) :
    Except CountError (List Plane) :=
  Enumeration.take limit { file, series, frames }

end ImageSelect
