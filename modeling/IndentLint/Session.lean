import IndentLint.Report.Basic
import IndentLint.Source.Tab

/-! Checking line by line. A session holds what a check carries from one line to the next, and
its steps expose the stages of a check one at a time. -/
namespace IndentLint

open Layout (Tracker Target)
open Report (Assessment Direction Problem)
open Source (Line)

/-- A caller may leave it unsaid whether a comment is open or a statement is awaited. Then it is
not so, until a line makes it known. -/
structure Session where
  tracker : Tracker Int := .start 0 false
  awaitingKnown : Bool := true
  commentOpen : Bool := false
  commentKnown : Bool := true
  last : Direction := .aligned
  problems : List (Problem Int) := []
  deriving DecidableEq, Repr

namespace Session

inductive Step where
  | fixUnit (unit : Int)
  | push
  | pop
  | read (text : List Char)
  | enter (text : List Char)
  | leave (text : List Char)
  | assess (text : List Char) (target : Target Int)
  | feed (text : List Char)
  deriving DecidableEq, Repr

def Step.text? : Step → Option (List Char)
  | .fixUnit _ | .push | .pop => none
  | .read text | .enter text | .leave text | .assess text _ | .feed text => some text

inductive Outcome where
  | done
  | unitAlreadyFixed
  | unreadable (fault : Source.TabFault)
  | line (line : Line)
  | target (target : Target Int)
  | assessment (assessment : Assessment Int)
  | skipped
  | fed (target : Target Int) (assessment : Assessment Int)
  deriving DecidableEq, Repr

def Outcome.hasEntered : Outcome → Bool
  | .target _ | .fed .. => true
  | _ => false

def unitAlreadyFixed : String := "indent unit already fixed for this analysis run"

def readLine (s : Session) (tab index : Nat) (text : List Char) : Session × Line :=
  let (line, commentOpen) := Line.read tab s.commentOpen index text
  let commentKnown := s.commentKnown || Source.beginsComment .code line.raw
  ({ s with commentOpen, commentKnown }, line)

def record (s : Session) (a : Assessment Int) : Session :=
  { s with last := a.status, problems := s.problems ++ a.problem?.toList }

def step (tab index : Nat) (s : Session) : Step → Session × Outcome
  | .fixUnit unit =>
    match s.tracker.fixUnit? unit with
    | some tracker => ({ s with tracker }, .done)
    | none => (s, .unitAlreadyFixed)
  | .push => ({ s with tracker := s.tracker.push }, .done)
  | .pop => ({ s with tracker := s.tracker.pop }, .done)
  | .read text =>
    let (s, line) := s.readLine tab index text
    (s, .line line)
  | .enter text =>
    let (s, line) := s.readLine tab index text
    let tracker := s.tracker.enter line.visible
    ({ s with tracker }, .target tracker.target)
  | .leave text =>
    let (s, line) := s.readLine tab index text
    ({ s with tracker := s.tracker.leave line.visible }, .done)
  | .assess text target =>
    let (s, line) := s.readLine tab index text
    let a := Report.assess s.last line target
    (s.record a, .assessment a)
  | .feed text =>
    let (s, line) := s.readLine tab index text
    if line.isCheckable then
      let tracker := s.tracker.enter line.visible
      let a := Report.assess s.last line tracker.target
      ({ s.record a with tracker := tracker.leave line.visible }, .fed tracker.target a)
    else (s, .skipped)

def tryStep (room : Nat) (tab : Number.Quantity) (index : Nat) (s : Session) (step : Step) :
    Session × Outcome :=
  match Source.checkTabs tab s.commentOpen step.text?.toList room with
  | .error fault => (s, .unreadable fault)
  | .ok () =>
    let (after, outcome) := s.step (Source.columns tab) index step
    let awaitingKnown := s.awaitingKnown || after.tracker.awaiting
      || (outcome.hasEntered && 0 < s.tracker.pending)
    ({ after with awaitingKnown }, outcome)

def run (tab : Number.Quantity) (s : Session) (index : Nat) (steps : List Step)
    (room : Nat := Source.usualRoom) : List (Session × Outcome) :=
  match steps with
  | [] => []
  | first :: rest =>
    let (s, outcome) := s.tryStep room tab index first
    (s, outcome) :: run tab s (index + 1) rest room

end Session
end IndentLint
