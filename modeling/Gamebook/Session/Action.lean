import Gamebook.Session.Basic

/-!
# Actions

Everything that a reader can do in a session, as data: an action, what it replies, and
the session after it. A failing action replies with its cause, and the session goes on.
-/

namespace Gamebook

/-- What a reader of a cartridge can do or ask. -/
inductive Action where
  | select (term : Text)
  | jump (term : Text)
  | roll (formula : Text) (label : Option Text)
  | rollStat (term : Text) (index : Int)
  | rollTable (id : Text)
  | highlighted (id : Text)
  | statValue (term : Text) (index : Int)
  | barCurrent (term : Text) (index : Int)
  | setBar (term : Text) (index value : Int)
  | adjustBar (term : Text) (index delta : Int)
  | resetBars
  | clearHistory
  | history
  | findTable (id : Text)
deriving DecidableEq

/-- What an action replies. -/
inductive Reply where
  | card (c : Option Card)
  | target (t : Option Text)
  | record (r : Option Record)
  | tableRoll (r : Option TableRoll)
  | row (n : Option Nat)
  | text (t : Text)
  | number (z : Int)
  | done
  | records (rs : List Record)
  | table (t : Option RollTable)
deriving DecidableEq

namespace Session

/-- Does an action: its reply, and the session after it. -/
def perform (action : Action) (s : Session) : Except SessionError Reply × Session :=
  match action with
  | .select term =>
    let (card, s) := s.select term
    (.ok (.card card), s)
  | .jump term => (.ok (.target (s.jumpTarget term)), s)
  | .roll formula label =>
    let (record, s) := s.rollFormula formula label
    (.ok (.record record), s)
  | .rollStat term index =>
    match s.rollStat term index with
    | .ok (record, s) => (.ok (.record record), s)
    | .error e => (.error e, s)
  | .rollTable id =>
    let (outcome, s) := s.rollTable id
    (outcome.map Reply.tableRoll, s)
  | .highlighted id => (.ok (.row (s.highlighted id)), s)
  | .statValue term index => ((s.statValue term index).map Reply.text, s)
  | .barCurrent term index => ((s.barCurrent term index).map Reply.number, s)
  | .setBar term index value =>
    match s.setBar term index value with
    | .ok (value, s) => (.ok (.number value), s)
    | .error e => (.error e, s)
  | .adjustBar term index delta =>
    match s.adjustBar term index delta with
    | .ok (value, s) => (.ok (.number value), s)
    | .error e => (.error e, s)
  | .resetBars => (.ok .done, { s with bars := [] })
  | .clearHistory => (.ok .done, { s with history := [] })
  | .history => (.ok (.records s.history), s)
  | .findTable id => (.ok (.table (s.cartridge.table? id)), s)

/-- Does actions one after the other: each reply with the session after it. -/
def performAll : List Action → Session → List (Except SessionError Reply × Session)
  | [], _ => []
  | action :: actions, s =>
    let step := s.perform action
    step :: performAll actions step.2

end Session

end Gamebook
