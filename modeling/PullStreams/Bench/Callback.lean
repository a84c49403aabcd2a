import PullStreams.Value
import PullStreams.Fault
import PullStreams.Text.Integer
import PullStreams.Operator.Map
import PullStreams.Deque

namespace PullStreams.Bench

inductive Test where
  | all
  | none
  | even
  | odd
  | moreThan (k : Int)
  | lessThan (k : Int)
  | equal (v : Value)
  | contains (part : String)
  | nonempty
  /-- Every call whose number is a multiple of `n`. -/
  | every (n : Nat)
  | not (t : Test)

namespace Test

def onInt (p : Int → Bool) : Value → Bool
  | .int n => p n
  | _ => false

def hasPart (part : List Char) : List Char → Bool
  | [] => part.isEmpty
  | c :: rest => part.isPrefixOf (c :: rest) || hasPart part rest

def holds (v : Value) (call : Nat) : Test → Bool
  | .all => true
  | .none => false
  | .even => onInt (· % 2 = 0) v
  | .odd => onInt (· % 2 ≠ 0) v
  | .moreThan k => onInt (· > k) v
  | .lessThan k => onInt (· < k) v
  | .equal w => v == w
  | .contains part =>
    match v with
    | .text s => hasPart part.toList s.toList
    | _ => false
  | .nonempty => v.length > 0
  | .every n => call % max n 1 = 0
  | .not t => !t.holds v call

end Test

inductive Function where
  | identity
  | add (k : Int)
  | mul (k : Int)
  | text
  | length
  | sum
  | wrap
  | pair
  | copies
  | head
  | reversed
  | upper
  | numbered
  | field (name : String)
  | asRecord
  | split (separator : String)
  | constant (v : Value)

namespace Function

def total : List Value → Int
  | [] => 0
  | .int n :: rest => n + total rest
  | _ :: rest => total rest

/-- Parts between separators; an empty separator stands between all characters and at both ends. -/
def parts (separator s : String) : List String :=
  if separator.isEmpty then "" :: s.toList.map .singleton ++ [""] else s.splitOn separator

def fieldOf (name : String) : Value → Value
  | .record fields => (fields.lookup name).getD .null
  | _ => .null

def apply (v : Value) (call : Nat) : Function → Value
  | .add k => match v with | .int n => .int (n + k) | _ => v
  | .mul k => match v with | .int n => .int (n * k) | _ => v
  | .text => .text v.plain
  | .length => .int v.length
  | .sum => match v with | .list items => .int (total items) | _ => v
  | .wrap => .list [v]
  | .pair => .list [v, v]
  | .copies => match v with | .int n => .list (List.replicate (min n.toNat 1000) v) | _ => v
  | .head => match v with | .list items => items.headD .null | _ => v
  | .reversed =>
    match v with
    | .list items => .list items.reverse
    | .text s => .text (.ofList s.toList.reverse)
    | _ => v
  | .upper => match v with | .text s => .text (.ofList (s.toList.map Char.toUpper)) | _ => v
  | .numbered => .list [.int call, v]
  | .field name => fieldOf name v
  | .asRecord => .record [("id", .int call), ("value", v)]
  | .split separator => match v with | .text s => .list ((parts separator s).map .text) | _ => v
  | .constant w => w
  | .identity => v

end Function

def readInteger (s : String) : Except Text.IntegerFault Int := Text.readInteger (.signed 64) 10 s

inductive Selection where
  | parse
  | half
  | only (t : Test) (f : Function)

def Selection.apply (v : Value) (call : Nat) : Selection → Option Value
  | .parse => match v with | .text s => (readInteger s).toOption.map .int | _ => none
  | .half => match v with | .int n => if n % 2 = 0 then some (.int (n / 2)) else none | _ => none
  | .only t f => if t.holds v call then some (f.apply v call) else none

inductive Attempt where
  | parse
  | bail (t : Test) (f : Function)
  | fail (t : Test) (error : Report) (f : Function)
  | succeed (f : Function)

def Attempt.apply (v : Value) (call : Nat) : Attempt → Except Report Value
  | .parse =>
    match v with
    | .text s =>
      match readInteger s with
      | .ok n => .ok (.int n)
      | .error e => .error (.text e.message)
    | _ => .error (.text "not a string")
  | .bail t f =>
    if t.holds v call then .error (.text ("mapping failed on " ++ v.plain))
    else .ok (f.apply v call)
  | .fail t error f => if t.holds v call then .error error else .ok (f.apply v call)
  | .succeed f => .ok (f.apply v call)

inductive Key where
  | self
  | modulo (k : Int)
  | first
  | length
  | field (name : String)
  | constant
  /-- The same for `n` calls in a row. -/
  | calls (n : Nat)

def Key.of (v : Value) (call : Nat) : Key → Value
  | .self => v
  | .modulo k => match v with | .int n => .int (n % max k 1) | _ => .null
  | .first =>
    match v with
    | .text s => (s.toList.head?.map fun c => Value.text (.singleton c)).getD .null
    | .list items => items.headD .null
    | _ => .null
  | .length => .int v.length
  | .field name => Function.fieldOf name v
  | .constant => .null
  | .calls n => .int (call / max n 1 : Nat)

def counting {α : Type u} {β : Type v} (f : α → Nat → β) : Callback α Nat β :=
  fun a call => (f a call, call + 1)

inductive Reducer where
  | sum
  | difference
  | greatest
  | count
  | concat
  | last
  | keep

def Reducer.apply (r : Reducer) (tally v : Value) : Value :=
  match r, tally, v with
  | .sum, .int a, .int b => .int (a + b)
  | .difference, .int a, .int b => .int (a - b)
  | .greatest, .int a, .int b => .int (max a b)
  | .count, .int a, _ => .int (a + 1)
  | .concat, _, _ => .text (tally.plain ++ v.plain)
  | .last, _, _ => v
  | _, _, _ => tally

inductive ListReducer where
  | push
  | pushFront
  | dedup
  | extend
  | clearOnNull
  | keep

def ListReducer.apply (r : ListReducer) (tally : Deque Value) (v : Value) : Deque Value :=
  match r with
  | .push => tally.push v
  | .pushFront => tally.pushFront v
  | .dedup => if tally.last?.any (· == v) then tally else tally.push v
  | .extend => tally.append v.elements
  | .clearOnNull => match v with | .null => {} | _ => tally.push v
  | .keep => tally

inductive MapReducer where
  | count
  | last
  | collect
  | keep

def MapReducer.apply (r : MapReducer) (values : List Value) : List Value :=
  match r with
  | .count => [.int values.length]
  | .last => values.getLast?.toList
  | .collect => values
  | .keep => []

/-- Lists of the values under each key, in order; the keys are sorted by their bytes. -/
def groupByKey (pairs : List (String × Value)) : List (String × List Value) :=
  (pairs.mergeSort fun a b => !(b.1 < a.1)).foldr join []
where
  join (pair : String × Value) : List (String × List Value) → List (String × List Value)
    | [] => [(pair.1, [pair.2])]
    | (key, values) :: rest =>
      if key = pair.1 then (key, pair.2 :: values) :: rest
      else (pair.1, [pair.2]) :: (key, values) :: rest

end PullStreams.Bench
