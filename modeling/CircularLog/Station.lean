import CircularLog.Answer

namespace CircularLog

-- Sessions are numbered in the order of opening and stay in the list after their end.
structure Station where
  shared : SharedLog
  sessions : List Session := []
  deriving DecidableEq, Repr

namespace Station

def create (settings : Settings) : Except Fault Station :=
  (SharedLog.create settings).map fun shared => ⟨shared, []⟩

def openSession (station : Station) : Station × SessionId :=
  let channel := Channel.ofShared station.shared (some (.session station.sessions.length))
  (⟨channel.shared, station.sessions ++ [channel.session]⟩, channel.session.id)

def session? (station : Station) (number : Nat) : Option Session :=
  station.sessions[number]?.filter (!·.ended)

def visit (station : Station) (number : Nat) (act : Channel → Channel × Reply) : Station × Reply :=
  match station.session? number with
  | none => (station, .absent)
  | some session =>
    let (channel, reply) := act ⟨station.shared, session⟩
    (⟨channel.shared, station.sessions.set number channel.session⟩, reply)

def step (station : Station) : Call → Station × Reply
  | .openSession =>
    let (after, id) := station.openSession
    (after, .session id)
  | .session number call => station.visit number (·.answer call)
  | .stream number call => station.visit number (·.answerStream call)
  | .log handle call =>
    let (shared, reply) := station.shared.answer handle call
    ({ station with shared }, reply)
  | .handle handle call =>
    let (shared, reply) := station.shared.handled handle call
    ({ station with shared }, reply)
  | .burst writers times chunk =>
    ({ station with shared := station.shared.burst writers times chunk }, .done)

def run (station : Station) : List Call → Station × List Reply
  | [] => (station, [])
  | call :: calls =>
    let (after, reply) := station.step call
    let (last, replies) := after.run calls
    (last, reply :: replies)

def cursors (station : Station) : List (Option UInt64) :=
  station.sessions.map fun session => if session.ended then none else some session.cursor

def finish (station : Station) : Station :=
  (List.range station.sessions.length).foldl
    (fun station number => (station.step (.session number .drop)).1) station

end Station

end CircularLog
